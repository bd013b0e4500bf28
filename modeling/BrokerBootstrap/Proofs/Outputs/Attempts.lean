import BrokerBootstrap.Proofs.Outputs.History
import Mathlib.Data.List.Nodup

/-!
# Attempts of a run

A run attempts its outputs one after another, and only a problem ends it early. `attempts` lists
the outputs that it gets to, each with the files that it finds. What a run records, returns and
writes is read off this list.
-/

namespace BrokerBootstrap.Outputs
open InitFolder FileSystem

structure Attempt where
  artifact : Artifact
  /-- The files when the run gets to the output. -/
  before : FileSystem

section Definitions

variable (cluster : Cluster) (settings : Settings) (folder : Path)

def Attempt.result (attempt : Attempt) : Traced Bool :=
  (writeOne cluster settings folder attempt.artifact attempt.before).1

def attempts : List Artifact → FileSystem → List Attempt
  | [], _ => []
  | artifact :: rest, fs =>
      let (t, after) := writeOne cluster settings folder artifact fs
      ⟨artifact, fs⟩ ::
        match t.outcome with
        | .ok _ => attempts rest after
        | .error _ => []

end Definitions

variable {cluster : Cluster} {settings : Settings} {folder : Path} {artifact : Artifact}
  {fs : FileSystem} {attempt : Attempt}

theorem attempts_cons_of_ok {written : Bool} {rest : List Artifact}
    (h : (writeOne cluster settings folder artifact fs).1.outcome = .ok written) :
    attempts cluster settings folder (artifact :: rest) fs =
      ⟨artifact, fs⟩ ::
        attempts cluster settings folder rest (writeOne cluster settings folder artifact fs).2 := by
  simp only [attempts, h]

theorem attempts_cons_of_error {problem : Problem} {rest : List Artifact}
    (h : (writeOne cluster settings folder artifact fs).1.outcome = .error problem) :
    attempts cluster settings folder (artifact :: rest) fs = [⟨artifact, fs⟩] := by
  simp only [attempts, h]

theorem head_mem_attempts (cluster : Cluster) (settings : Settings) (folder : Path)
    (artifact : Artifact) (rest : List Artifact) (fs : FileSystem) :
    ⟨artifact, fs⟩ ∈ attempts cluster settings folder (artifact :: rest) fs :=
  List.mem_cons_self

theorem attempts_artifacts_isPrefix (artifacts : List Artifact) (fs : FileSystem) :
    (attempts cluster settings folder artifacts fs).map (·.artifact) <+: artifacts := by
  induction artifacts generalizing fs with
  | nil => exact List.prefix_rfl
  | cons artifact rest ih =>
      cases h : (writeOne cluster settings folder artifact fs).1.outcome with
      | error problem =>
          rw [attempts_cons_of_error h]
          exact ⟨rest, rfl⟩
      | ok written =>
          rw [attempts_cons_of_ok h, List.map_cons]
          exact List.cons_prefix_cons.2 ⟨rfl, ih _⟩

theorem artifact_mem_of_mem_attempts {artifacts : List Artifact}
    (h : attempt ∈ attempts cluster settings folder artifacts fs) :
    attempt.artifact ∈ artifacts :=
  (attempts_artifacts_isPrefix artifacts fs).subset (List.mem_map_of_mem h)

theorem eq_of_mem_attempts {artifacts : List Artifact} (nodup : artifacts.Nodup)
    {first second : Attempt}
    (hf : first ∈ attempts cluster settings folder artifacts fs)
    (hs : second ∈ attempts cluster settings folder artifacts fs)
    (same : first.artifact = second.artifact) : first = second := by
  have distinct : ((attempts cluster settings folder artifacts fs).map (·.artifact)).Nodup :=
    (attempts_artifacts_isPrefix artifacts fs).sublist.nodup nodup
  exact List.inj_on_of_nodup_map distinct hf hs same

theorem exists_journal_of_mem_attempts {artifacts : List Artifact}
    (h : attempt ∈ attempts cluster settings folder artifacts fs) :
    ∃ journal, attempt.before = replay folder fs journal := by
  induction artifacts generalizing fs with
  | nil => cases h
  | cons artifact rest ih =>
      rw [attempts, List.mem_cons] at h
      rcases h with rfl | later
      · exact ⟨[], rfl⟩
      · split at later
        · obtain ⟨journal, found⟩ := ih later
          rw [writeOne_files, ← replay_append] at found
          exact ⟨_, found⟩
        · cases later

theorem writeEach_events (artifacts : List Artifact) (fs : FileSystem) :
    (writeEach cluster settings folder artifacts fs).1.events =
      (attempts cluster settings folder artifacts fs).flatMap
        fun attempt => (attempt.result cluster settings folder).events := by
  induction artifacts generalizing fs with
  | nil => rfl
  | cons artifact rest ih =>
      cases h : (writeOne cluster settings folder artifact fs).1.outcome with
      | error problem =>
          rw [attempts_cons_of_error h, writeEach_cons_of_error h]
          simp [Attempt.result]
      | ok written =>
          rw [attempts_cons_of_ok h, writeEach_cons_of_ok h, List.flatMap_cons, ← ih]
          rfl

theorem writeEach_outcome_eq_error_iff {artifacts : List Artifact} {problem : Problem} :
    (writeEach cluster settings folder artifacts fs).1.outcome = .error problem ↔
      ∃ attempt ∈ attempts cluster settings folder artifacts fs,
        (attempt.result cluster settings folder).outcome = .error problem := by
  induction artifacts generalizing fs with
  | nil => simp [writeEach, attempts, Job.pure_apply]
  | cons artifact rest ih =>
      cases h : (writeOne cluster settings folder artifact fs).1.outcome with
      | error cause => simp [attempts_cons_of_error h, writeEach_cons_of_error h, Attempt.result, h]
      | ok written =>
          have head : (Attempt.result cluster settings folder ⟨artifact, fs⟩).outcome =
              .ok written := h
          rw [attempts_cons_of_ok h, writeEach_cons_of_ok h]
          simp only [List.mem_cons, exists_eq_or_imp, head, reduceCtorEq, false_or, ← ih]
          cases (writeEach cluster settings folder rest
            (writeOne cluster settings folder artifact fs).2).1.outcome <;> simp [Except.map]

theorem attempts_of_writeEach_eq_ok {artifacts failed : List Artifact}
    (h : (writeEach cluster settings folder artifacts fs).1.outcome = .ok failed) :
    (attempts cluster settings folder artifacts fs).map (·.artifact) = artifacts ∧
      failed = ((attempts cluster settings folder artifacts fs).filter fun attempt =>
        (attempt.result cluster settings folder).outcome = .ok false).map (·.artifact) := by
  induction artifacts generalizing fs failed with
  | nil =>
      cases h
      exact ⟨rfl, rfl⟩
  | cons artifact rest ih =>
      cases one : (writeOne cluster settings folder artifact fs).1.outcome with
      | error problem => simp [writeEach_cons_of_error one] at h
      | ok written =>
          rw [writeEach_cons_of_ok one] at h
          cases later : (writeEach cluster settings folder rest
            (writeOne cluster settings folder artifact fs).2).1.outcome with
          | error problem => simp [later, Except.map] at h
          | ok failed' =>
              obtain ⟨all, refused⟩ := ih later
              rw [later] at h
              cases h
              rw [attempts_cons_of_ok one, List.map_cons, all]
              refine ⟨rfl, ?_⟩
              cases written <;> simp [Attempt.result, one, refused]

theorem exists_result_of_writeEach_eq_ok {artifacts failed : List Artifact}
    (h : (writeEach cluster settings folder artifacts fs).1.outcome = .ok failed)
    (attempted : attempt ∈ attempts cluster settings folder artifacts fs) :
    ∃ written, (attempt.result cluster settings folder).outcome = .ok written := by
  cases ending : (attempt.result cluster settings folder).outcome with
  | error problem =>
      rw [writeEach_outcome_eq_error_iff.2 ⟨attempt, attempted, ending⟩] at h
      cases h
  | ok written => exact ⟨written, rfl⟩

theorem exists_result_of_mem_dropLast {artifacts : List Artifact}
    (h : attempt ∈ (attempts cluster settings folder artifacts fs).dropLast) :
    ∃ written, (attempt.result cluster settings folder).outcome = .ok written := by
  induction artifacts generalizing fs with
  | nil => cases h
  | cons artifact rest ih =>
      cases one : (writeOne cluster settings folder artifact fs).1.outcome with
      | error problem =>
          rw [attempts_cons_of_error one] at h
          cases h
      | ok written =>
          rw [attempts_cons_of_ok one] at h
          by_cases last : attempts cluster settings folder rest
              (writeOne cluster settings folder artifact fs).2 = []
          · rw [last] at h
            cases h
          · rw [List.dropLast_cons_of_ne_nil last, List.mem_cons] at h
            rcases h with rfl | later
            · exact ⟨written, one⟩
            · exact ih later

theorem successesEach_eq (artifacts : List Artifact) (fs : FileSystem) :
    successesEach cluster settings folder artifacts fs =
      (attempts cluster settings folder artifacts fs).flatMap fun attempt =>
        successes folder attempt.artifact (draft cluster settings · attempt.artifact)
          attempt.before := by
  induction artifacts generalizing fs with
  | nil => rfl
  | cons artifact rest ih =>
      cases h : (writeOne cluster settings folder artifact fs).1.outcome with
      | error problem => simp [successesEach, attempts_cons_of_error h, h]
      | ok written => simp [successesEach, attempts_cons_of_ok h, h, ih]

theorem mem_successesEach {artifacts : List Artifact} {record : Record} :
    record ∈ successesEach cluster settings folder artifacts fs ↔
      ∃ attempt ∈ attempts cluster settings folder artifacts fs,
        record ∈ successes folder attempt.artifact (draft cluster settings · attempt.artifact)
          attempt.before := by
  rw [successesEach_eq, List.mem_flatMap]

theorem eq_of_mem_successesEach {artifacts : List Artifact} (nodup : artifacts.Nodup)
    {first second : Record}
    (hf : first ∈ successesEach cluster settings folder artifacts fs)
    (hs : second ∈ successesEach cluster settings folder artifacts fs)
    (same : first.artifact = second.artifact) : first = second := by
  obtain ⟨attempt, attempted, written⟩ := mem_successesEach.1 hf
  obtain ⟨attempt', attempted', written'⟩ := mem_successesEach.1 hs
  have own := (mem_successes.1 written).1
  have own' := (mem_successes.1 written').1
  have equal : attempt = attempt' :=
    eq_of_mem_attempts nodup attempted attempted' (own.symm.trans (same.trans own'))
  subst equal
  exact eq_of_mem_successes written written'

theorem enabled_nodup (settings : Settings) : settings.enabled.Nodup :=
  List.Nodup.filter _ (by decide)

theorem verdict_outcome (failed : List Artifact) :
    (verdict failed).outcome = .ok failed.isEmpty := by
  cases failed <;> rfl

theorem verdict_events (failed : List Artifact) :
    (verdict failed).events =
      if failed.isEmpty then [] else [.message .error [.plain
        ("Failed outputs: " ++ Text.commaSeparated (failed.map Artifact.title))]] := by
  cases failed <;> rfl

theorem writeEnabled_of_ok {failed : List Artifact}
    (h : (writeEach cluster settings folder settings.enabled fs).1.outcome = .ok failed) :
    (writeEnabled cluster settings folder fs).1 =
      ⟨(writeEach cluster settings folder settings.enabled fs).1.events ++ (verdict failed).events,
        .ok failed.isEmpty⟩ := by
  rw [writeEnabled_eq, Job.bind_of_ok h, Job.ofTraced_apply, verdict_outcome]

theorem writeEnabled_of_error {problem : Problem}
    (h : (writeEach cluster settings folder settings.enabled fs).1.outcome = .error problem) :
    (writeEnabled cluster settings folder fs).1 =
      ⟨(writeEach cluster settings folder settings.enabled fs).1.events, .error problem⟩ := by
  rw [writeEnabled_eq, Job.bind_of_error h]

theorem writeEnabled_outcome_eq_error_iff {problem : Problem} :
    (writeEnabled cluster settings folder fs).1.outcome = .error problem ↔
      ∃ attempt ∈ attempts cluster settings folder settings.enabled fs,
        (attempt.result cluster settings folder).outcome = .error problem := by
  rw [← writeEach_outcome_eq_error_iff]
  cases h : (writeEach cluster settings folder settings.enabled fs).1.outcome with
  | error cause => simp [writeEnabled_of_error h]
  | ok failed => simp [writeEnabled_of_ok h]

theorem attempts_events_isPrefix (fs : FileSystem) :
    ((attempts cluster settings folder settings.enabled fs).flatMap fun attempt =>
      (attempt.result cluster settings folder).events) <+:
      (writeEnabled cluster settings folder fs).1.events := by
  rw [← writeEach_events]
  cases h : (writeEach cluster settings folder settings.enabled fs).1.outcome with
  | error problem => simp [writeEnabled_of_error h]
  | ok failed => simp [writeEnabled_of_ok h]

theorem exists_failed_of_writeEnabled_eq_ok {all : Bool}
    (h : (writeEnabled cluster settings folder fs).1.outcome = .ok all) :
    ∃ failed, (writeEach cluster settings folder settings.enabled fs).1.outcome = .ok failed ∧
      all = failed.isEmpty := by
  cases each : (writeEach cluster settings folder settings.enabled fs).1.outcome with
  | error problem => simp [writeEnabled_of_error each] at h
  | ok failed =>
      rw [writeEnabled_of_ok each] at h
      exact ⟨failed, rfl, (Except.ok.inj h).symm⟩

end BrokerBootstrap.Outputs
