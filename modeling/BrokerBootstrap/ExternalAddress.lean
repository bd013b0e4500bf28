import BrokerBootstrap.Node.Basic
import BrokerBootstrap.Traced

namespace BrokerBootstrap.ExternalAddress

def isWanted (wanted : Option AddressType) (reported : NodeAddress) : Bool :=
  match wanted with
  | none => true
  | some t => t.accepts reported.type

/-- The text of the first address of the wanted type. An address without text counts as
missing, also where others of its type follow. -/
def find? (wanted : Option AddressType) (addresses : List NodeAddress) : Option String :=
  (addresses.find? (isWanted wanted)).bind (·.address)

def variableName : Option AddressType → String
  | none => "STRIMZI_NODEPORT_DEFAULT_ADDRESS"
  | some t => "STRIMZI_NODEPORT_" ++ t.envName ++ "_ADDRESS"

def exportLine (type : Option AddressType) (address : Option String) : String :=
  "export " ++ variableName type ++ "=" ++ address.getD "" ++ "\n"

def reportedTypes (addresses : List NodeAddress) : Except Fault (List String) :=
  match addresses.findIdx? (·.type.isNone) with
  | some index => .error (.untypedAddress index)
  | none => .ok (addresses.filterMap (·.type))

def missingDefault {α : Type} (node : Node) (preferred : Option AddressType) : Traced α :=
  match reportedTypes node.addresses with
  | .error fault => .abort fault
  | .ok types => .fail (.addressNotFound preferred node.name types)

def reportType (node : Node) (t : AddressType) : Event :=
  match find? (some t) node.addresses with
  | none => .message .warning [.plain s!"No {t.name} address found on node {node.name}"]
  | some address => .message .step [.plain s!"External {t.name} address found {address}"]

def typeLine (node : Node) (t : AddressType) : String :=
  exportLine (some t) (find? (some t) node.addresses)

def select (node : Node) (preferred : Option AddressType) (types : List AddressType) :
    Traced (List String) :=
  match find? preferred node.addresses with
  | none => missingDefault node preferred
  | some address =>
      let found : Event :=
        .message .info [.plain "Default external address found ", .highlighted address]
      { events := found :: types.map (reportType node)
        outcome := .ok (exportLine none (some address) :: types.map (typeLine node)) }

def render (node : Node) (preferred : Option AddressType) (types : List AddressType) :
    Traced String := do
  return String.join (← select node preferred types)

end BrokerBootstrap.ExternalAddress
