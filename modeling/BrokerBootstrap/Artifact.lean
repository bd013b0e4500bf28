import BrokerBootstrap.Text.Quoted

namespace BrokerBootstrap

inductive Artifact where
  | rack
  | externalAddress
  | jaas
  deriving DecidableEq, Repr

namespace Artifact

/-- All artifacts, in the order in which they are produced. -/
def all : List Artifact := [rack, externalAddress, jaas]

def fileName : Artifact → String
  | rack => "rack.id"
  | externalAddress => "external.address"
  | jaas => "jaas.conf"

def title : Artifact → String
  | rack => "rack"
  | externalAddress => "external address"
  | jaas => "jaas"

def isSensitive : Artifact → Bool
  | jaas => true
  | _ => false

def ofFileName? (text : String) : Option Artifact := all.find? (·.fileName = text)

theorem fileName_inj {a b : Artifact} (h : a.fileName = b.fileName) : a = b := by
  revert h
  cases a <;> cases b <;> decide

def unknownName (text : String) : String := s!"{Text.quote text} is not a valid ArtifactName"

end Artifact

end BrokerBootstrap
