import BrokerBootstrap.Failure
import BrokerBootstrap.Node.Basic

namespace BrokerBootstrap.Rack

def resolve (node : Node) (key : String) : Except Failure String :=
  match node.label? key with
  | some rack => .ok rack
  | none => .error (.rackLabelMissing node.name key node.labelKeys)

end BrokerBootstrap.Rack
