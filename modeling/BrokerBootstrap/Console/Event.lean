import BrokerBootstrap.Console.Line

namespace BrokerBootstrap

inductive Call where
  | loadInClusterConfig
  | loadKubeConfig
  | readNode (name : String)
  | listSecrets (namespaceName : String)
  | close
  deriving DecidableEq, Repr

structure Panel where
  title : String
  rows : List (String × String)
  deriving DecidableEq, Repr

def Panel.shown (panel : Panel) : Panel where
  title := visible panel.title
  rows := panel.rows.map fun (label, value) => (visible (label ++ ":"), visible value)

inductive Event where
  | message (level : Level) (parts : List Part)
  | panel (panel : Panel)
  | spinner (text : String)
  | call (call : Call)
  deriving DecidableEq, Repr

end BrokerBootstrap
