import BrokerBootstrap.Text.LetterCase
import BrokerBootstrap.Text.Quoted

namespace BrokerBootstrap

inductive AddressType where
  | externalDNS
  | externalIP
  | internalDNS
  | internalIP
  | hostname
  deriving DecidableEq, Repr

namespace AddressType

def all : List AddressType := [externalDNS, externalIP, internalDNS, internalIP, hostname]

def name : AddressType → String
  | externalDNS => "ExternalDNS"
  | externalIP => "ExternalIP"
  | internalDNS => "InternalDNS"
  | internalIP => "InternalIP"
  | hostname => "Hostname"

def canonical (t : AddressType) : String := Text.lower t.name

def envName (t : AddressType) : String := Text.upper t.name

def index (t : AddressType) : Nat := all.idxOf t

def accepts (t : AddressType) (reported : Option String) : Bool :=
  match reported with
  | none => false
  | some text => Text.lower text = t.canonical

def ofText? (text : String) : Option AddressType := all.find? (·.accepts (some text))

def ofName? (text : String) : Option AddressType := all.find? (·.name = text)

def unknownName (text : String) : String := s!"{Text.quote text} is not a valid AddressType"

end AddressType

end BrokerBootstrap
