import BrokerBootstrap.Proofs.Command.ExitCode
import BrokerBootstrap.Proofs.Outputs.Calls

namespace BrokerBootstrap

namespace Cluster

def loadCalls (cluster : Cluster) : List Call :=
  .loadInClusterConfig ::
    if cluster.inClusterConfig = .ok () then [] else [.loadKubeConfig]

instance (cluster : Cluster) : Decidable cluster.Loads :=
  inferInstanceAs (Decidable (_ ∨ _))

theorem calls_connect (cluster : Cluster) : calls cluster.connect.events = cluster.loadCalls := by
  unfold connect loadCalls
  cases pod : cluster.inClusterConfig with
  | ok => rfl
  | error reason =>
      cases localUser : cluster.kubeConfig with
      | ok => rfl
      | error cause => rfl

end Cluster

namespace Command
open InitFolder Outputs

variable {host : Host} {settings : Settings} {fs : FileSystem}

theorem start_of_invalid_eq {failure : Failure} (h : host.settings = .error failure) :
    calls (start host fs).1.events = [] ∧ (start host fs).2 = fs := by
  rw [start, h]
  exact ⟨rfl, rfl⟩

theorem calls_start_of_not_loads (h : host.settings = .ok settings)
    (noConfig : ¬ host.cluster.Loads) :
    calls (start host fs).1.events = host.cluster.loadCalls := by
  obtain ⟨failure, refused⟩ := Cluster.connect_of_not_loads noConfig
  have attempted : ((Job.ofTraced host.cluster.connect).attempt fs).1.outcome =
      .ok (.error failure) := by simp [Traced.attempt, refused]
  rw [start, h, Job.say_bind_apply, calls_cons]
  show calls (((Job.ofTraced host.cluster.connect).attempt >>= _) fs).1.events = _
  rw [Job.bind_of_ok attempted, calls_append]
  refine (List.append_nil _).trans host.cluster.calls_connect

theorem calls_start_of_loads (h : host.settings = .ok settings) (config : host.cluster.Loads) :
    calls (start host fs).1.events = host.cluster.loadCalls ++
      calls (writeEnabled host.cluster settings (Path.ofText settings.initFolder) fs).1.events ++
      [.close] := by
  have connected := Cluster.connect_of_loads config
  have attempted : ((Job.ofTraced host.cluster.connect).attempt fs).1.outcome =
      .ok (.ok ()) := by simp [Traced.attempt, connected]
  rw [start, h, Job.say_bind_apply, calls_cons]
  show calls (((Job.ofTraced host.cluster.connect).attempt >>= _) fs).1.events = _
  rw [Job.bind_of_ok attempted, calls_append, List.append_assoc]
  refine congrArg₂ (· ++ ·) host.cluster.calls_connect ?_
  rw [Job.calls_bind]
  · exact calls_append _ _
  · intro all after
    cases all <;> rfl

/-- No shell asks for completion, the arguments ask for nothing but outputs, and the environment
gives the settings. -/
structure Starts (host : Host) (arguments : List String) (settings : Settings) : Prop where
  quiet : Completion.requested host.environment = none
  plain : ∃ debug, Invocation.ofArguments arguments = .start debug
  settings : host.settings = .ok settings

theorem invoke_start_report (host : Host) (fs : FileSystem) (debug : Bool) :
    (invoke host fs (.start debug)).events = (start host fs).1.events ∧
      (invoke host fs (.start debug)).files = (start host fs).2 := by
  unfold invoke
  dsimp only
  split <;> exact ⟨rfl, rfl⟩

theorem complete_report (env : Environment) (request : String) (fs : FileSystem) :
    (complete env request fs).events = [] ∧ (complete env request fs).files = fs := by
  unfold complete
  split <;> exact ⟨rfl, rfl⟩

theorem run_of_not_starts {arguments : List String}
    (h : ∀ settings, ¬ Starts host arguments settings) :
    calls (run host arguments fs).events = [] ∧ (run host arguments fs).files = fs := by
  unfold run
  cases quiet : Completion.requested host.environment with
  | some request =>
      obtain ⟨events, files⟩ := complete_report host.environment request fs
      rw [events]
      exact ⟨rfl, files⟩
  | none =>
      cases plain : Invocation.ofArguments arguments with
      | usageError | help | version => exact ⟨rfl, rfl⟩
      | start debug =>
          obtain ⟨events, files⟩ := invoke_start_report host fs debug
          rw [events, files]
          cases found : host.settings with
          | error failure => exact start_of_invalid_eq found
          | ok settings => exact absurd ⟨quiet, ⟨debug, plain⟩, found⟩ (h settings)

theorem calls_run_of_starts {arguments : List String} (h : Starts host arguments settings) :
    calls (run host arguments fs).events = host.cluster.loadCalls ++
      if host.cluster.Loads then
        calls (writeEnabled host.cluster settings (Path.ofText settings.initFolder) fs).1.events ++
          [.close]
      else [] := by
  obtain ⟨quiet, ⟨debug, plain⟩, found⟩ := h
  have events : (run host arguments fs).events = (start host fs).1.events := by
    rw [run, quiet, plain]
    exact (invoke_start_report host fs debug).1
  rw [events]
  by_cases config : host.cluster.Loads
  · rw [calls_start_of_loads found config, if_pos config, List.append_assoc]
  · rw [calls_start_of_not_loads found config, if_neg config, List.append_nil]

theorem run_calls :
    (∀ (cluster : Cluster) (settings : Settings) (folder : Path) (fs : FileSystem),
      let outputs := writeEnabled cluster settings folder fs
      ∃ found,
        (∀ attempt ∈ attempts cluster settings folder settings.enabled fs,
          attempt.artifact = .jaas → settings.namespaceFound attempt.before = found) ∧
        (∀ name ∈ found, name ≠ "" ∧ Text.Stripped name ∧ '\r' ∉ name.toList) ∧
        calls outputs.1.events <+: plannedCalls settings found ∧
        ∀ all, outputs.1.outcome = .ok all →
          (attempts cluster settings folder settings.enabled fs).map (·.artifact) =
            settings.enabled ∧
          calls outputs.1.events = plannedCalls settings found) ∧
    ∀ (host : Host) (arguments : List String) (fs : FileSystem),
      let report := run host arguments fs
      ((∀ settings, ¬ Starts host arguments settings) →
        calls report.events = [] ∧ report.files = fs) ∧
      ∀ settings, Starts host arguments settings →
        let outputs := writeEnabled host.cluster settings (Path.ofText settings.initFolder) fs
        calls report.events = host.cluster.loadCalls ++
          if host.cluster.Loads then calls outputs.1.events ++ [.close] else [] := by
  constructor
  · intro cluster settings folder fs outputs
    obtain ⟨found, finds, named⟩ := exists_namespaceFound cluster settings folder fs
    refine ⟨found, finds, named, calls_writeEnabled_isPrefix finds, ?_⟩
    intro all returns
    obtain ⟨failed, each, -⟩ := exists_failed_of_writeEnabled_eq_ok returns
    exact ⟨(attempts_of_writeEach_eq_ok each).1, calls_writeEnabled_eq finds returns⟩
  · intro host arguments fs report
    exact ⟨run_of_not_starts, fun settings starts => calls_run_of_starts starts⟩

/-- An environment that asks for completion in a way that no shell does. All else is in order, and
still nothing is called. -/
theorem calls_of_unknown_request :
    let env : Environment := fun name =>
      List.lookup name [("NODE_NAME", "n1"), ("_KAFKA_INIT_COMPLETE", "bogus")]
    let cluster : Cluster := ⟨.ok (), .ok (), fun _ => .error (.unreachable none), fun _ => .ok []⟩
    let host : Host := { environment := env, cluster := cluster }
    Invocation.ofArguments [] = .start false ∧ host.settings = .ok { nodeName := "n1" } ∧
      cluster.Loads ∧ ¬ cluster.loadCalls <+: calls (run host [] ∅).events := by
  decide +kernel

end Command

end BrokerBootstrap
