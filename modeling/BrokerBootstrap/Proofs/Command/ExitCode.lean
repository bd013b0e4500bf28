import BrokerBootstrap.Command
import BrokerBootstrap.FileSystem.Tree
import BrokerBootstrap.Proofs.Outputs.Content
import BrokerBootstrap.Proofs.Settings.Resolution

namespace BrokerBootstrap

theorem Settings.namespaceFile_of_resolve {env : Environment} {settings : Settings}
    (h : Settings.resolve env = .ok settings) :
    settings.namespaceFile = "/var/run/secrets/kubernetes.io/serviceaccount/namespace" :=
  (allows_and_givenBy h).2.namespaceFile

theorem Settings.namespaceApart_of_resolve {env : Environment} {settings : Settings}
    (h : Settings.resolve env = .ok settings) : settings.NamespaceApart := by
  rw [namespaceApart_iff, namespaceFile_of_resolve h]
  decide

namespace Cluster

variable {cluster : Cluster}

def Loads (cluster : Cluster) : Prop :=
  cluster.inClusterConfig = .ok () ∨ cluster.kubeConfig = .ok ()

theorem connect_of_loads (h : cluster.Loads) : cluster.connect.outcome = .ok () := by
  unfold connect
  cases pod : cluster.inClusterConfig with
  | ok => rfl
  | error reason =>
      have localUser : cluster.kubeConfig = .ok () := h.resolve_left (by simp [pod])
      rw [localUser]
      rfl

theorem connect_of_not_loads (h : ¬ cluster.Loads) :
    ∃ failure, cluster.connect.outcome = .error (.failure failure) := by
  obtain ⟨noPod, noLocalUser⟩ := not_or.1 h
  unfold connect
  cases pod : cluster.inClusterConfig with
  | ok => exact absurd pod noPod
  | error =>
      cases localUser : cluster.kubeConfig with
      | ok => exact absurd localUser noLocalUser
      | error reason => exact ⟨.noClusterConfiguration reason, rfl⟩

end Cluster

namespace Command
open InitFolder Outputs

variable {host : Host} {fs : FileSystem}

def Ready (env : Environment) (cluster : Cluster) (fs : FileSystem) : Prop :=
  ∃ settings, Settings.resolve env = .ok settings ∧ cluster.Loads ∧
    ∀ artifact, settings.enables artifact = true →
      Producible cluster settings (Path.ofText settings.initFolder) fs artifact

theorem start_of_invalid {failure : Failure} (h : host.settings = .error failure) :
    (start host fs).1.outcome = .ok 1 := by
  rw [start, h]
  rfl

theorem start_of_not_loads {settings : Settings} (h : host.settings = .ok settings)
    (noConfig : ¬ host.cluster.Loads) : (start host fs).1.outcome = .ok 1 := by
  obtain ⟨failure, refused⟩ := Cluster.connect_of_not_loads noConfig
  rw [start, h, Job.say_bind_apply]
  simp only [Job.bind_apply, Job.attempt_apply, Job.ofTraced_apply, Traced.record,
    Traced.attempt, refused]
  rfl

theorem start_of_loads {settings : Settings} (h : host.settings = .ok settings)
    (config : host.cluster.Loads) :
    let written := writeEnabled host.cluster settings (Path.ofText settings.initFolder) fs
    (start host fs).1.outcome = written.1.outcome.map (fun all => if all then 0 else 1) ∧
      (start host fs).2 = written.2 := by
  have connected := Cluster.connect_of_loads config
  rw [start, h, Job.say_bind_apply]
  simp only [Job.bind_apply, Job.attempt_apply, Job.ofTraced_apply, Traced.record,
    Traced.attempt, connected, Job.closingWith]
  cases (writeEnabled host.cluster settings (Path.ofText settings.initFolder) fs).1.outcome with
  | error problem => exact ⟨rfl, rfl⟩
  | ok all => cases all <;> exact ⟨rfl, rfl⟩

theorem start_outcome_eq_zero_iff :
    (start host fs).1.outcome = .ok 0 ↔ ∃ settings, host.settings = .ok settings ∧
      host.cluster.Loads ∧
      (writeEnabled host.cluster settings (Path.ofText settings.initFolder) fs).1.outcome =
        .ok true := by
  cases h : host.settings with
  | error failure => simp [start_of_invalid h]
  | ok settings =>
      by_cases config : host.cluster.Loads
      · rw [(start_of_loads h config).1]
        cases written : (writeEnabled host.cluster settings
            (Path.ofText settings.initFolder) fs).1.outcome with
        | error problem => simp [Except.map, written]
        | ok all => cases all <;> simp [Except.map, config, written]
      · simp [start_of_not_loads h config, config]

theorem start_outcome_le {code : Nat} (h : (start host fs).1.outcome = .ok code) : code ≤ 1 := by
  cases found : host.settings with
  | error failure =>
      rw [start_of_invalid found] at h
      cases h
      exact Nat.le_refl 1
  | ok settings =>
      by_cases config : host.cluster.Loads
      · rw [(start_of_loads found config).1] at h
        obtain ⟨all, -, rfl⟩ := map_eq_ok.1 h
        cases all <;> decide
      · rw [start_of_not_loads found config] at h
        cases h
        exact Nat.le_refl 1

theorem settings_eq {env : Environment} {cluster : Cluster} :
    Host.settings { environment := env, cluster := cluster } = Settings.resolve env := by
  unfold Host.settings
  cases Settings.resolve env <;> rfl

theorem ready_iff {env : Environment} {cluster : Cluster} :
    Ready env cluster fs ↔
      (start { environment := env, cluster := cluster } fs).1.outcome = .ok 0 := by
  rw [start_outcome_eq_zero_iff, settings_eq]
  refine exists_congr fun settings => and_congr_right fun resolved => ?_
  rw [writeEnabled_outcome_eq_true_iff_producible (Settings.namespaceApart_of_resolve resolved)]

theorem invoke_start (host : Host) (fs : FileSystem) (debug : Bool) :
    ((invoke host fs (.start debug)).exitCode = 0 ↔ (start host fs).1.outcome = .ok 0) ∧
      (invoke host fs (.start debug)).exitCode ≤ 1 ∧
      (invoke host fs (.start debug)).files = (start host fs).2 := by
  unfold invoke
  cases h : (start host fs).1.outcome with
  | error problem => simp [h]
  | ok code => simp [h, start_outcome_le h]

theorem run_exitCode {env : Environment} {arguments : List String} {debug : Bool}
    (cluster : Cluster) (fs : FileSystem) (quiet : Completion.requested env = none)
    (starts : Invocation.ofArguments arguments = .start debug) :
    let report := run { environment := env, cluster := cluster } arguments fs
    (report.exitCode = 0 ↔ Ready env cluster fs) ∧ (report.exitCode ≠ 0 → report.exitCode = 1) ∧
      (report.exitCode = 0 → ∀ settings, Settings.resolve env = .ok settings →
        ∀ artifact, settings.enables artifact = true →
          ∃ content, Determines cluster settings fs artifact content ∧
            report.files.read (pathOf (Path.ofText settings.initFolder) artifact) =
              .ok (Utf8.encode content)) := by
  intro report
  have invoked : report = invoke { environment := env, cluster := cluster } fs (.start debug) := by
    show run _ _ _ = _
    rw [run, quiet, starts]
  obtain ⟨zero, code, files⟩ := invoke_start { environment := env, cluster := cluster } fs debug
  rw [← invoked] at zero code files
  refine ⟨zero.trans ready_iff.symm, by omega, ?_⟩
  intro success settings resolved artifact enabled
  obtain ⟨settings', resolved', config, written⟩ := start_outcome_eq_zero_iff.1 (zero.1 success)
  rw [settings_eq] at resolved'
  rw [resolved] at resolved'
  cases resolved'
  have apart := Settings.namespaceApart_of_resolve resolved
  obtain ⟨⟨content, determined⟩, -⟩ :=
    (writeEnabled_outcome_eq_true_iff_producible apart).1 written artifact enabled
  refine ⟨content, determined, ?_⟩
  rw [files, (start_of_loads (settings_eq.trans resolved) config).2]
  exact read_writeEnabled apart written enabled determined

theorem run_exitCode_all_artifacts :
    let env : Environment := fun name => List.lookup name [("NODE_NAME", "n1"),
      ("INIT_FOLDER", "/"), ("RACK_TOPOLOGY_KEY", "zone"), ("EXTERNAL_ADDRESS", "true"),
      ("AUTHENTICATION_IS_SASL_SCRAM_AND_PLAIN", "true")]
    let cluster : Cluster := ⟨.error "no pod", .ok (),
      fun _ => .ok ⟨some [("zone", some "r1")], some ⟨some [⟨some "Hostname", some "h1"⟩]⟩⟩,
      fun _ => .ok [⟨"fwss-admin", some [("a", "cA==")]⟩]⟩
    let fs := FileSystem.placeFile ∅
      ["namespace", "serviceaccount", "kubernetes.io", "secrets", "run", "var"]
      (Utf8.encode " kafka\n")
    let report := run { environment := env, cluster := cluster } ["--debug"] fs
    Completion.requested env = none ∧ Invocation.ofArguments ["--debug"] = .start true ∧
      report.exitCode = 0 ∧ Ready env cluster fs := by
  intro env cluster fs report
  have quiet : Completion.requested env = none := by decide +kernel
  have starts : Invocation.ofArguments ["--debug"] = .start true := by decide +kernel
  have success : report.exitCode = 0 := by decide +kernel
  exact ⟨quiet, starts, success, (run_exitCode cluster fs quiet starts).1.1 success⟩

theorem exitCode_of_unknown_request :
    let env : Environment := fun name =>
      List.lookup name [("NODE_NAME", "n1"), ("_KAFKA_INIT_COMPLETE", "bogus")]
    let cluster : Cluster := ⟨.ok (), .ok (), fun _ => .error (.unreachable none), fun _ => .ok []⟩
    let fs : FileSystem := ∅
    Invocation.ofArguments [] = .start false ∧
      ¬ ((run { environment := env, cluster := cluster } [] fs).exitCode = 0 ↔
        Ready env cluster fs) := by
  intro env cluster fs
  have exits : (run { environment := env, cluster := cluster } [] fs).exitCode = 1 := by
    decide +kernel
  have ready : Ready env cluster fs := by
    refine ⟨{ nodeName := "n1" }, by decide +kernel, .inl rfl, ?_⟩
    intro artifact enabled
    cases artifact <;> cases enabled
  refine ⟨by decide +kernel, fun same => ?_⟩
  rw [exits] at same
  exact absurd (same.2 ready) (by decide)

end Command

end BrokerBootstrap
