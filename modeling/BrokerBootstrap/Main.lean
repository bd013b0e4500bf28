import BrokerBootstrap.Command

/-!
# Program

The command on a terminal. No client for a live cluster is linked in, so neither configuration of
a cluster loads, and a run ends where it would connect.
-/

namespace BrokerBootstrap.Terminal

def offlineCluster : Cluster where
  inClusterConfig := .error "no cluster client is available"
  kubeConfig := .error "no cluster client is available"
  nodeAnswer _ := .error (.unreachable none)
  secretsAnswer _ := .error (.unreachable none)

def readEnvironment : IO Environment := do
  let names := Variable.all.map Variable.name ++ Command.Completion.variableNames
  let pairs ← names.mapM fun name => do return (name, ← IO.getEnv name)
  return fun name => (pairs.lookup name).join

def printEvent : Event → IO Unit
  | .message level parts => IO.println (Line.ofMessage level parts).text
  | .panel panel => do
      IO.println panel.shown.title
      for (label, value) in panel.shown.rows do
        IO.println s!"  {label}  {value}"
  | .spinner text => IO.println (visible text)
  | .call _ => return ()

def run (arguments : List String) : IO UInt32 := do
  let host : Command.Host := { environment := ← readEnvironment, cluster := offlineCluster }
  let report := Command.run host arguments ∅
  report.events.forM printEvent
  IO.print report.output
  if let some escape := report.escape then IO.eprintln escape.message
  return UInt32.ofNat report.exitCode

end BrokerBootstrap.Terminal

def main (arguments : List String) : IO UInt32 := BrokerBootstrap.Terminal.run arguments
