import BrokerBootstrap.Mapping
import BrokerBootstrap.Node.AddressType

namespace BrokerBootstrap

structure NodeAddress where
  type : Option String
  address : Option String
  deriving DecidableEq, Repr

structure Node where
  name : String
  labels : Mapping (Option String)
  addresses : List NodeAddress
  deriving DecidableEq, Repr

namespace Node

/-- The value of a label. A label without a value counts as absent. -/
def label? (node : Node) (key : String) : Option String := (node.labels.lookup key).join

def labelKeys (node : Node) : List String :=
  node.labels.names.mergeSort (fun a b => a ≤ b)

end Node

end BrokerBootstrap
