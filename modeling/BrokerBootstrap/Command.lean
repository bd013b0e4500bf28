import BrokerBootstrap.Command.Arguments
import BrokerBootstrap.Command.Completion
import BrokerBootstrap.Outputs

/-!
# Command

The command that a pod runs before its broker starts. A shell that asks for completion is
answered before anything else. The report of a run holds everything that can be seen of it: the
exit code, the text put out directly, the events, and the file system afterwards.
-/

namespace BrokerBootstrap.Command

def version : String := "0.1.0"

structure Host where
  environment : Environment
  cluster : Cluster
  /-- The namespace file, where it is not the usual one. -/
  namespaceFile : Option String := none

def Host.settings (host : Host) : Except Failure Settings := do
  let settings ← Settings.resolve host.environment
  return { settings with namespaceFile := host.namespaceFile.getD settings.namespaceFile }

/-- A run that writes outputs, and its exit code. The connection ends with the outputs, however
they end. -/
def start (host : Host) : Job Nat := do
  Job.say .action [.plain s!"{programName} {version} is starting"]
  match host.settings with
  | .error failure =>
      Job.say .error [.plain s!"Invalid configuration: {failure.message}"]
      return 1
  | .ok settings =>
      Job.ofTraced (.record (.panel ⟨programName ++ " configuration", settings.summary⟩))
      match ← (Job.ofTraced host.cluster.connect).attempt with
      | .error failure =>
          Job.say .error [.plain s!"Cluster connection failed: {failure.message}"]
          return 1
      | .ok () =>
          let folder := Path.ofText settings.initFolder
          if ← (Outputs.writeEnabled host.cluster settings folder).closingWith Cluster.close then
            Job.say .success [.plain (programName ++ " finished")]
            return 0
          else return 1

inductive Escape where
  | problem (problem : Problem)
  | completion (error : Completion.LineError)
  deriving DecidableEq, Repr

def Escape.message : Escape → String
  | problem p => p.message
  | completion e => e.message

structure Report where
  exitCode : Nat
  output : String
  debug : Bool
  escape : Option Escape
  events : List Event
  files : FileSystem

def Report.idle (exitCode : Nat) (output : String) (debug : Bool) (fs : FileSystem) : Report :=
  ⟨exitCode, output, debug, none, [], fs⟩

def complete (env : Environment) (request : String) (fs : FileSystem) : Report :=
  match (Completion.Request.ofText? request).map (Completion.answer env) with
  | none => .idle 1 "" true fs
  | some (.ok text) => .idle 0 (text ++ "\n") true fs
  | some (.error e) => ⟨1, "", true, some (.completion e), [], fs⟩

def invoke (host : Host) (fs : FileSystem) : Invocation → Report
  | .usageError => .idle 2 "" true fs
  | .help => .idle 0 helpText true fs
  | .version debug => .idle 0 (version ++ "\n") debug fs
  | .start debug =>
      let (t, after) := start host fs
      match t.outcome with
      | .ok code => ⟨code, "", debug, none, t.events, after⟩
      | .error problem => ⟨1, "", debug, some (.problem problem), t.events, after⟩

def run (host : Host) (arguments : List String) (fs : FileSystem) : Report :=
  match Completion.requested host.environment with
  | some request => complete host.environment request fs
  | none => invoke host fs (.ofArguments arguments)

end BrokerBootstrap.Command
