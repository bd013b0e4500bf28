import BrokerBootstrap.Proofs.LoginConfig.DecodingOrder
import BrokerBootstrap.Proofs.Outputs.Attempts
import BrokerBootstrap.Proofs.Outputs.Content

/-!
# Faults of outputs

A failure makes its output count as not written, and the next output is attempted all the same.
Only a fault ends a run early. `Faulty` and `Stops` say which outputs end in one, from what an
output finds alone (`writeOne_faults_iff`), so that a run returns just when none of the outputs
that it gets to stops it (`writeEnabled_faults_iff`).
-/

namespace BrokerBootstrap

/-! ## Computations that end in a fault -/

namespace Traced

variable {α β : Type}

def Faults (t : Traced α) : Prop := ∃ fault, t.outcome = .error (.fault fault)

theorem faults_bind_iff {t : Traced α} {f : α → Traced β} :
    (t >>= f).Faults ↔ t.Faults ∨ ∃ a, t.outcome = .ok a ∧ (f a).Faults := by
  simp only [Faults, bind_outcome_eq_error]
  constructor
  · rintro ⟨fault, first | ⟨a, ended, later⟩⟩
    · exact .inl ⟨fault, first⟩
    · exact .inr ⟨a, ended, fault, later⟩
  · rintro (⟨fault, first⟩ | ⟨a, ended, fault, later⟩)
    · exact ⟨fault, .inl first⟩
    · exact ⟨fault, .inr ⟨a, ended, later⟩⟩

theorem faults_say_bind (level : Level) (parts : List Part) (f : Unit → Traced β) :
    (say level parts >>= f).Faults ↔ (f ()).Faults :=
  Iff.rfl

theorem not_faults_of_ok {t : Traced α} {a : α} (h : t.outcome = .ok a) : ¬ t.Faults := by
  rintro ⟨fault, faulty⟩
  rw [h] at faulty
  cases faulty

theorem not_faults_of_failure {t : Traced α} {failure : Failure}
    (h : t.outcome = .error (.failure failure)) : ¬ t.Faults := by
  rintro ⟨fault, faulty⟩
  rw [h] at faulty
  cases faulty

def Reports (t : Traced α) : Prop := ∀ failure, t.outcome ≠ .error (.failure failure)

theorem Reports.returns_iff {t : Traced α} (h : t.Reports) :
    (∃ a, t.outcome = .ok a) ↔ ¬ t.Faults := by
  unfold Faults
  cases ending : t.outcome with
  | ok a => simp
  | error problem =>
      cases problem with
      | failure failure => exact absurd ending (h failure)
      | fault fault => simp

theorem not_faults_ofExcept (result : Except Failure α) : ¬ (ofExcept result).Faults := by
  cases result with
  | error failure => exact not_faults_of_failure rfl
  | ok a => exact not_faults_of_ok rfl

end Traced

theorem Cluster.faults_ask_bind_iff {α β γ : Type} {request : Request}
    {answer : Except ApiError α} {read : α → β} {next : β → Traced γ} :
    (ask request (answer.map read) >>= next).Faults ↔
      ∃ a, answer = .ok a ∧ (next (read a)).Faults := by
  rw [Traced.faults_bind_iff, Traced.Faults, Outputs.ask_outcome]
  cases answer with
  | error cause => simp [Except.map, Except.mapError]
  | ok a => simp [Except.map, Except.mapError]

namespace ExternalAddress

theorem reportedTypes_faults_iff {addresses : List NodeAddress} :
    (∃ fault, reportedTypes addresses = .error fault) ↔
      ∃ reported ∈ addresses, reported.type = none := by
  unfold reportedTypes
  cases place : addresses.findIdx? (·.type.isNone) with
  | none =>
      rw [List.findIdx?_eq_none_iff] at place
      simp only [reduceCtorEq, exists_false, false_iff, not_exists, not_and]
      intro reported mem untyped
      simpa [untyped] using place reported mem
  | some index =>
      obtain ⟨inside, untyped, -⟩ := List.findIdx?_eq_some_iff_getElem.1 place
      simp only [Except.error.injEq, exists_eq', true_iff]
      exact ⟨addresses[index], List.getElem_mem inside, Option.isNone_iff_eq_none.1 untyped⟩

theorem render_faults_iff {node : Node} {preferred : Option AddressType}
    {types : List AddressType} :
    (render node preferred types).Faults ↔
      find? preferred node.addresses = none ∧
        ∃ reported ∈ node.addresses, reported.type = none := by
  have lines : (render node preferred types).Faults ↔ (select node preferred types).Faults := by
    rw [render, Traced.faults_bind_iff]
    refine or_iff_left ?_
    rintro ⟨found, -, faulty⟩
    exact Traced.not_faults_of_ok rfl faulty
  rw [lines, ← reportedTypes_faults_iff]
  unfold select
  cases find? preferred node.addresses with
  | some address => simp [Traced.Faults]
  | none =>
      simp only [true_and, missingDefault]
      cases reportedTypes node.addresses with
      | error fault => simp [Traced.Faults, Traced.abort]
      | ok types => simp [Traced.Faults, Traced.fail]

end ExternalAddress

namespace Outputs
open InitFolder FileSystem

variable {cluster : Cluster} {settings : Settings} {folder : Path} {artifact : Artifact}
  {fs : FileSystem}

/-! ## Contents that end in a fault -/

/-- What is found for an artifact ends its output in a fault, before a file is touched. -/
inductive Faulty (cluster : Cluster) (settings : Settings) (fs : FileSystem) : Artifact → Prop where
  | untyped {answer : NodeAnswer} {reported : NodeAddress}
      (answered : cluster.nodeAnswer settings.nodeName = .ok answer)
      (missing : ExternalAddress.find? settings.addressType
        (answer.node settings.nodeName).addresses = none)
      (listed : reported ∈ (answer.node settings.nodeName).addresses)
      (untyped : reported.type = none) : Faulty cluster settings fs .externalAddress
  | namespacePath (nul : (Path.ofText settings.namespaceFile).hasNul = true) :
      Faulty cluster settings fs .jaas
  | namespaceText {octets : List UInt8} {cause : Utf8.DecodeError}
      (opened : fs.read (Path.ofText settings.namespaceFile) = .ok octets)
      (foreign : Utf8.decode octets = .error cause) : Faulty cluster settings fs .jaas
  | payload {name : String} {answers : List SecretAnswer}
      (found : (settings.podNamespace fs).outcome = .ok name) (named : name ≠ "")
      (answered : cluster.secretsAnswer name = .ok answers)
      (foreign : LoginConfig.NonAsciiFirst (answers.map SecretAnswer.secret)
        settings.secretsPrefix) : Faulty cluster settings fs .jaas

theorem reported_faults_iff {content : Traced String} :
    (reported content).Faults ↔ content.Faults := by
  unfold reported Traced.Faults
  cases content.outcome with
  | ok text => simp
  | error problem => cases problem <;> simp

theorem not_faults_rackContent (key : String) : ¬ (rackContent cluster settings key).Faults := by
  rw [rackContent, Traced.faults_say_bind, Cluster.readNode, Cluster.faults_ask_bind_iff]
  rintro ⟨answer, -, faulty⟩
  rcases Traced.faults_bind_iff.1 faulty with unresolved | ⟨rack, -, faulty⟩
  · exact Traced.not_faults_ofExcept _ unresolved
  · exact Traced.not_faults_of_ok rfl faulty

theorem addressContent_faults_iff :
    (addressContent cluster settings).Faults ↔
      ∃ answer, cluster.nodeAnswer settings.nodeName = .ok answer ∧
        (ExternalAddress.render (answer.node settings.nodeName) settings.addressType
          AddressType.all).Faults := by
  rw [addressContent, Traced.faults_say_bind, Cluster.readNode, Cluster.faults_ask_bind_iff]

theorem loginContent_faults_iff {name : String} :
    (loginContent cluster settings name).Faults ↔
      ∃ answers, cluster.secretsAnswer name = .ok answers ∧
        LoginConfig.NonAsciiFirst (answers.map SecretAnswer.secret) settings.secretsPrefix := by
  rw [loginContent, Traced.faults_say_bind, Cluster.listSecrets, Cluster.faults_ask_bind_iff]
  simp only [Traced.Faults, LoginConfig.build_faults_iff]

theorem podNamespace_faults_iff :
    (settings.podNamespace fs).Faults ↔
      (Path.ofText settings.namespaceFile).hasNul = true ∨
        ∃ octets cause, fs.read (Path.ofText settings.namespaceFile) = .ok octets ∧
          Utf8.decode octets = .error cause := by
  unfold Settings.podNamespace
  dsimp only
  split
  · rename_i nul
    simp [nul, Traced.Faults, Traced.abort]
  · rename_i clean
    rw [or_iff_right clean]
    split
    · rename_i cause refused
      simp [refused, Traced.Faults, Traced.pure_eq]
    · rename_i octets opened
      split
      · rename_i cause foreign
        simp [opened, foreign, Traced.Faults, Traced.abort]
      · rename_i text decoded
        simp [opened, decoded, Traced.Faults, Traced.pure_eq]

theorem draft_faults_iff :
    (draft cluster settings fs artifact).Faults ↔ Faulty cluster settings fs artifact := by
  cases artifact with
  | rack =>
      have safe : ¬ (draft cluster settings fs .rack).Faults := by
        unfold draft
        cases settings.rackTopologyKey with
        | none => exact Traced.not_faults_of_ok rfl
        | some key => exact fun faulty => not_faults_rackContent key (reported_faults_iff.1 faulty)
      refine iff_of_false safe ?_
      rintro ⟨⟩
  | externalAddress =>
      show (reported (addressContent cluster settings)).Faults ↔ _
      rw [reported_faults_iff, addressContent_faults_iff]
      constructor
      · rintro ⟨answer, answered, faulty⟩
        obtain ⟨missing, reported, listed, untyped⟩ := ExternalAddress.render_faults_iff.1 faulty
        exact .untyped answered missing listed untyped
      · rintro (⟨answered, missing, listed, untyped⟩)
        exact ⟨_, answered, ExternalAddress.render_faults_iff.2 ⟨missing, _, listed, untyped⟩⟩
  | jaas =>
      rw [draft, Traced.faults_bind_iff, podNamespace_faults_iff]
      constructor
      · rintro ((nul | ⟨octets, cause, opened, foreign⟩) | ⟨name, found, faulty⟩)
        · exact .namespacePath nul
        · exact .namespaceText opened foreign
        · split at faulty
          · exact absurd faulty (Traced.not_faults_of_ok rfl)
          · rename_i named
            rw [reported_faults_iff, loginContent_faults_iff] at faulty
            obtain ⟨answers, answered, foreign⟩ := faulty
            exact .payload found named answered foreign
      · intro faulty
        cases faulty with
        | namespacePath nul => exact .inl (.inl nul)
        | namespaceText opened foreign => exact .inl (.inr ⟨_, _, opened, foreign⟩)
        | payload found named answered foreign =>
            refine .inr ⟨_, found, ?_⟩
            rw [if_neg named, reported_faults_iff, loginContent_faults_iff]
            exact ⟨_, answered, foreign⟩

/-! ## Outputs that end in a fault -/

/-- An output that ends in a fault: its content is, or there is one and its place has no name that
can be opened. -/
def Stops (cluster : Cluster) (settings : Settings) (folder : Path) (fs : FileSystem)
    (artifact : Artifact) : Prop :=
  Faulty cluster settings fs artifact ∨
    (∃ content, Determines cluster settings fs artifact content) ∧
      (pathOf folder artifact).hasNul = true

theorem write_faults_iff {content : String} :
    (write folder artifact content fs).1.Faults ↔ (pathOf folder artifact).hasNul = true := by
  rw [Traced.Faults, write_outcome]
  split <;> simp [*]

theorem output_faults_iff {look : FileSystem → Traced (Except String String)} :
    (output folder artifact look fs).1.Faults ↔
      (look fs).Faults ∨
        (∃ text, (look fs).outcome = .ok (.ok text)) ∧ (pathOf folder artifact).hasNul = true := by
  cases h : (look fs).outcome with
  | error problem => simp [output_of_fault h, Traced.Faults, h]
  | ok result =>
      cases result with
      | error text => simp [output_of_refusal h, Traced.Faults, h]
      | ok text =>
          rw [← @write_faults_iff _ _ fs text]
          simp [output_of_content h, Traced.Faults, h]

theorem writeOne_faults_iff :
    (writeOne cluster settings folder artifact fs).1.Faults ↔
      Stops cluster settings folder fs artifact := by
  rw [writeOne_eq, output_faults_iff, draft_faults_iff]
  simp only [draft_outcome_eq_ok, Stops]

theorem reports_reported (content : Traced String) : (reported content).Reports := by
  unfold reported Traced.Reports
  cases content.outcome with
  | ok text => simp
  | error problem => cases problem <;> simp

theorem reports_podNamespace : (settings.podNamespace fs).Reports := by
  unfold Settings.podNamespace Traced.Reports
  dsimp only
  split
  · simp [Traced.abort]
  · split
    · simp [Traced.pure_eq]
    · split
      · simp [Traced.abort]
      · simp [Traced.pure_eq]

theorem reports_draft (artifact : Artifact) : (draft cluster settings fs artifact).Reports := by
  intro failure
  cases artifact with
  | rack =>
      unfold draft
      cases settings.rackTopologyKey with
      | none => simp [Traced.pure_eq]
      | some key => exact reports_reported _ failure
  | externalAddress => exact reports_reported _ failure
  | jaas =>
      rw [draft, Ne, Traced.bind_outcome_eq_error]
      rintro (unnamed | ⟨name, -, failed⟩)
      · exact reports_podNamespace failure unnamed
      · split at failed
        · cases failed
        · exact reports_reported _ failure failed

theorem reports_write (content : String) : (write folder artifact content fs).1.Reports := by
  rw [Traced.Reports, write_outcome]
  split <;> simp

theorem reports_writeOne : (writeOne cluster settings folder artifact fs).1.Reports := by
  rw [writeOne_eq]
  cases h : (draft cluster settings fs artifact).outcome with
  | error problem =>
      rw [output_of_fault h]
      intro failure failed
      rw [Except.error.inj failed] at h
      exact reports_draft artifact failure h
  | ok result =>
      cases result with
      | error text =>
          rw [output_of_refusal h]
          simp [Traced.Reports]
      | ok text =>
          rw [output_of_content h]
          exact reports_write text

theorem writeOne_returns_iff :
    (∃ written, (writeOne cluster settings folder artifact fs).1.outcome = .ok written) ↔
      ¬ Stops cluster settings folder fs artifact := by
  rw [reports_writeOne.returns_iff, writeOne_faults_iff]

theorem reports_writeEnabled : (writeEnabled cluster settings folder fs).1.Reports := by
  intro failure failed
  obtain ⟨attempt, -, failed⟩ := writeEnabled_outcome_eq_error_iff.1 failed
  exact reports_writeOne failure failed

theorem writeEnabled_faults_iff :
    (writeEnabled cluster settings folder fs).1.Faults ↔
      ∃ attempt ∈ attempts cluster settings folder settings.enabled fs,
        Stops cluster settings folder attempt.before attempt.artifact := by
  simp only [Traced.Faults, writeEnabled_outcome_eq_error_iff, ← writeOne_faults_iff]
  constructor
  · rintro ⟨fault, attempt, attempted, faulty⟩
    exact ⟨attempt, attempted, fault, faulty⟩
  · rintro ⟨attempt, attempted, fault, faulty⟩
    exact ⟨fault, attempt, attempted, faulty⟩

/-! ## Runs of all outputs -/

theorem writeEnabled_returns_iff (cluster : Cluster) (settings : Settings) (folder : Path)
    (fs : FileSystem) :
    let run := (writeEnabled cluster settings folder fs).1
    let attempted := attempts cluster settings folder settings.enabled fs
    run.Reports ∧
    attempted.map (·.artifact) <+: settings.enabled ∧
    (attempted.flatMap fun attempt => (attempt.result cluster settings folder).events) <+:
      run.events ∧
    (∀ attempt ∈ attempted.dropLast,
      ¬ Stops cluster settings folder attempt.before attempt.artifact) ∧
    ((∃ all, run.outcome = .ok all) ↔
      ∀ attempt ∈ attempted, ¬ Stops cluster settings folder attempt.before attempt.artifact) ∧
    ∀ all, run.outcome = .ok all →
      attempted.map (·.artifact) = settings.enabled ∧
      (∀ attempt ∈ attempted, ∃ written,
        (attempt.result cluster settings folder).outcome = .ok written ∧
        (written = true ↔
          Producible cluster settings folder attempt.before attempt.artifact)) ∧
      (all = true ↔ ∀ attempt ∈ attempted,
        (attempt.result cluster settings folder).outcome = .ok true) := by
  intro run attempted
  refine ⟨reports_writeEnabled, attempts_artifacts_isPrefix settings.enabled fs,
    attempts_events_isPrefix fs, ?_, ?_, ?_⟩
  · intro attempt earlier
    exact writeOne_returns_iff.1 (exists_result_of_mem_dropLast earlier)
  · rw [reports_writeEnabled.returns_iff, writeEnabled_faults_iff]
    simp only [not_exists, not_and]
    rfl
  · intro all returns
    obtain ⟨failed, each, rfl⟩ := exists_failed_of_writeEnabled_eq_ok returns
    obtain ⟨complete, refused⟩ := attempts_of_writeEach_eq_ok each
    refine ⟨complete, ?_, ?_⟩
    · intro attempt mem
      obtain ⟨written, result⟩ := exists_result_of_writeEach_eq_ok each mem
      refine ⟨written, result, ?_⟩
      rw [← writeOne_outcome_eq_true_iff]
      show _ ↔ (attempt.result cluster settings folder).outcome = .ok true
      simp [result]
    · rw [refused, List.isEmpty_map, List.isEmpty_iff, List.filter_eq_nil_iff]
      refine forall₂_congr fun attempt mem => ?_
      obtain ⟨written, result⟩ := exists_result_of_writeEach_eq_ok each mem
      cases written <;> simp [result]

example :
    let settings : Settings :=
      { nodeName := "n", externalAddress := true, addressType := some .externalIP,
        saslScramAndPlain := "true" }
    let answer : NodeAnswer := ⟨none, some ⟨some [⟨none, some "10.0.0.1"⟩]⟩⟩
    let cluster : Cluster := ⟨.ok (), .ok (), fun _ => .ok answer, fun _ => .ok []⟩
    settings.enabled = [.externalAddress, .jaas] ∧
      (attempts cluster settings (Path.ofText settings.initFolder) settings.enabled
        ∅).map (·.artifact) = [.externalAddress] := by
  decide +kernel

/-- The namespace file holds an octet that begins no character, so the run does not return. -/
theorem writeEnabled_of_untextual_namespace :
    let settings : Settings :=
      { nodeName := "n", saslScramAndPlain := "true", namespaceFile := "ns" }
    let cluster : Cluster := ⟨.ok (), .ok (), fun _ => .error (.unreachable none), fun _ => .ok []⟩
    let fs : FileSystem := (∅ : FileSystem).put ["ns"] (.file [0xff])
    let run := (writeEnabled cluster settings (Path.ofText settings.initFolder) fs).1
    settings.enabled = [.jaas] ∧ ∀ all, run.outcome ≠ .ok all := by
  decide +kernel

end Outputs

end BrokerBootstrap
