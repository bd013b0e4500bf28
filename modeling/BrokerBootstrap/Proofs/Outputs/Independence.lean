import BrokerBootstrap.Proofs.Outputs.Attempts
import BrokerBootstrap.Proofs.Outputs.Content

/-!
# Outputs do not depend on each other

An output sees little of the files: the place that its artifact opens, and the login configuration
the namespace file too. Earlier writes keep the first as it was. Where they keep the second as well
(`NamespaceSteady`), every output of a run that returns does what it would do alone
(`writeEnabled_eq_alone`).
-/

namespace BrokerBootstrap.Outputs
open InitFolder FileSystem

variable {cluster : Cluster} {settings : Settings} {folder : Path} {artifact : Artifact}
  {fs other : FileSystem} {attempt : Attempt}

structure SameView (settings : Settings) (folder : Path) (artifact : Artifact)
    (other fs : FileSystem) : Prop where
  target : other.target (pathOf folder artifact) = fs.target (pathOf folder artifact)
  podNamespace : artifact = .jaas → settings.podNamespace other = settings.podNamespace fs

theorem SameView.draft_eq (same : SameView settings folder artifact other fs) :
    draft cluster settings other artifact = draft cluster settings fs artifact := by
  cases artifact with
  | rack | externalAddress => rfl
  | jaas => simp only [draft, same.podNamespace rfl]

theorem output_traced_congr {look : FileSystem → Traced (Except String String)}
    (seen : look other = look fs)
    (same : other.target (pathOf folder artifact) = fs.target (pathOf folder artifact)) :
    (output folder artifact look other).1 = (output folder artifact look fs).1 := by
  cases ending : (look fs).outcome with
  | error problem =>
      rw [output_of_fault ending, output_of_fault (seen.symm ▸ ending), seen]
  | ok result =>
      cases result with
      | error text =>
          rw [output_of_refusal ending, output_of_refusal (seen.symm ▸ ending), seen]
      | ok text =>
          rw [output_of_content ending, output_of_content (seen.symm ▸ ending), seen,
            write_traced_congr same]

theorem SameView.writeOne_eq (same : SameView settings folder artifact other fs) :
    (writeOne cluster settings folder artifact other).1 =
      (writeOne cluster settings folder artifact fs).1 := by
  rw [Outputs.writeOne_eq]
  exact output_traced_congr same.draft_eq same.target

theorem SameView.mem_successes_iff (same : SameView settings folder artifact other fs)
    {record : Record} :
    record ∈ successes folder artifact (draft cluster settings · artifact) other ↔
      record ∈ successes folder artifact (draft cluster settings · artifact) fs := by
  rw [mem_successes, mem_successes, same.draft_eq]
  unfold Writable
  rw [same.target]

/-- When the login configuration is attempted, the namespace file gives what it gave at the
start. -/
def NamespaceSteady (cluster : Cluster) (settings : Settings) (folder : Path)
    (fs : FileSystem) : Prop :=
  ∀ attempt ∈ attempts cluster settings folder settings.enabled fs, attempt.artifact = .jaas →
    settings.podNamespace attempt.before = settings.podNamespace fs

theorem namespaceSteady_of_apart (apart : settings.NamespaceApart) :
    NamespaceSteady cluster settings folder fs := by
  intro attempt attempted _
  obtain ⟨journal, before⟩ := exists_journal_of_mem_attempts attempted
  rw [before, podNamespace_replay apart]

theorem NamespaceSteady.sameView (steady : NamespaceSteady cluster settings folder fs)
    (attempted : attempt ∈ attempts cluster settings folder settings.enabled fs) :
    SameView settings folder attempt.artifact attempt.before fs := by
  constructor
  · obtain ⟨journal, before⟩ := exists_journal_of_mem_attempts attempted
    rw [before, target_replay]
  · exact steady attempt attempted

theorem NamespaceSteady.result_eq (steady : NamespaceSteady cluster settings folder fs)
    (attempted : attempt ∈ attempts cluster settings folder settings.enabled fs) :
    attempt.result cluster settings folder =
      (writeOne cluster settings folder attempt.artifact fs).1 :=
  (steady.sameView attempted).writeOne_eq

theorem lookup_writeOne (artifact : Artifact) (fs : FileSystem) :
    (writeOne cluster settings folder artifact fs).2.lookup (pathOf folder artifact) =
      match lastContent (successes folder artifact (draft cluster settings · artifact) fs)
        artifact with
      | none => fs.lookup (pathOf folder artifact)
      | some content => .ok (some (.file (Utf8.encode content))) := by
  rw [writeOne_files]
  apply lookup_replay
  intro record written
  exact writable_of_mem_successes written

theorem lookup_writeEnabled (artifact : Artifact) (fs : FileSystem) :
    (writeEnabled cluster settings folder fs).2.lookup (pathOf folder artifact) =
      match lastContent (successesEach cluster settings folder settings.enabled fs) artifact with
      | none => fs.lookup (pathOf folder artifact)
      | some content => .ok (some (.file (Utf8.encode content))) := by
  rw [writeEnabled_files, writeEach_files]
  apply lookup_replay
  intro record written
  exact writable_of_mem_successesEach written

section

variable {failed : List Artifact}
  (returns : (writeEach cluster settings folder settings.enabled fs).1.outcome = .ok failed)
  (steady : NamespaceSteady cluster settings folder fs)

include returns steady

theorem attempts_eq_alone :
    (attempts cluster settings folder settings.enabled fs).map
        (fun attempt => (attempt.artifact, attempt.result cluster settings folder)) =
      settings.enabled.map
        (fun artifact => (artifact, (writeOne cluster settings folder artifact fs).1)) := by
  conv_rhs => rw [← (attempts_of_writeEach_eq_ok returns).1, List.map_map]
  apply List.map_congr_left
  intro attempt attempted
  rw [steady.result_eq attempted]
  rfl

theorem successesEach_mem_iff {record : Record} :
    record ∈ successesEach cluster settings folder settings.enabled fs ↔
      settings.enables record.artifact = true ∧ record ∈
        successes folder record.artifact (draft cluster settings · record.artifact) fs := by
  rw [mem_successesEach, ← mem_enabled]
  constructor
  · rintro ⟨attempt, attempted, written⟩
    have own := (mem_successes.1 written).1
    rw [own]
    exact ⟨artifact_mem_of_mem_attempts attempted,
      (steady.sameView attempted).mem_successes_iff.1 written⟩
  · rintro ⟨enabled, written⟩
    rw [← (attempts_of_writeEach_eq_ok returns).1] at enabled
    obtain ⟨attempt, attempted, own⟩ := List.mem_map.1 enabled
    rw [← own] at written
    exact ⟨attempt, attempted, (steady.sameView attempted).mem_successes_iff.2 written⟩

theorem lookup_eq_alone (artifact : Artifact) :
    (writeEnabled cluster settings folder fs).2.lookup (pathOf folder artifact) =
      if settings.enables artifact then
        (writeOne cluster settings folder artifact fs).2.lookup (pathOf folder artifact)
      else fs.lookup (pathOf folder artifact) := by
  -- Each artifact is written once at most, so the order of the writes does not matter.
  have inRun (content : String) : lastContent
      (successesEach cluster settings folder settings.enabled fs) artifact = some content ↔
      settings.enables artifact = true ∧
        ⟨artifact, content⟩ ∈ successes folder artifact (draft cluster settings · artifact) fs := by
    rw [lastContent_eq_some_iff fun first hf second hs =>
      eq_of_mem_successesEach (enabled_nodup settings) hf hs]
    exact successesEach_mem_iff returns steady
  have alone (content : String) : lastContent
      (successes folder artifact (draft cluster settings · artifact) fs) artifact = some content ↔
      ⟨artifact, content⟩ ∈ successes folder artifact (draft cluster settings · artifact) fs :=
    lastContent_eq_some_iff fun first hf second hs _ => eq_of_mem_successes hf hs
  rw [lookup_writeEnabled, lookup_writeOne]
  by_cases enabled : settings.enables artifact = true
  · have same : lastContent (successesEach cluster settings folder settings.enabled fs) artifact =
        lastContent (successes folder artifact (draft cluster settings · artifact) fs)
          artifact := by
      apply Option.ext
      intro content
      rw [inRun, alone]
      exact and_iff_right enabled
    rw [same, if_pos enabled]
  · have none : lastContent (successesEach cluster settings folder settings.enabled fs) artifact =
        none := by
      apply Option.eq_none_iff_forall_ne_some.2
      intro content last
      exact enabled ((inRun content).1 last).1
    rw [none, if_neg enabled]

theorem failed_eq_alone :
    failed = settings.enabled.filter fun artifact =>
      (writeOne cluster settings folder artifact fs).1.outcome = .ok false := by
  obtain ⟨complete, refused⟩ := attempts_of_writeEach_eq_ok returns
  conv_rhs => rw [← complete, List.filter_map]
  rw [refused]
  congr 1
  apply List.filter_congr
  intro attempt attempted
  rw [steady.result_eq attempted]
  rfl

end

theorem writeEnabled_eq_alone {all : Bool}
    (returns : (writeEnabled cluster settings folder fs).1.outcome = .ok all)
    (steady : NamespaceSteady cluster settings folder fs) :
    let alone (artifact : Artifact) := writeOne cluster settings folder artifact fs
    let run := writeEnabled cluster settings folder fs
    let failed := settings.enabled.filter fun artifact => (alone artifact).1.outcome = .ok false
    (attempts cluster settings folder settings.enabled fs).map
        (fun attempt => (attempt.artifact, attempt.result cluster settings folder)) =
      settings.enabled.map (fun artifact => (artifact, (alone artifact).1)) ∧
    (∀ artifact, settings.enables artifact = true → ∃ written,
      (alone artifact).1.outcome = .ok written) ∧
    (∀ artifact, run.2.lookup (pathOf folder artifact) =
      if settings.enables artifact then (alone artifact).2.lookup (pathOf folder artifact)
      else fs.lookup (pathOf folder artifact)) ∧
    all = (settings.enabled.all fun artifact => (alone artifact).1.outcome = .ok true) ∧
    run.1.events = (settings.enabled.flatMap fun artifact => (alone artifact).1.events) ++
      if all then [] else [.message .error [.plain
        ("Failed outputs: " ++ Text.commaSeparated (failed.map Artifact.title))]] := by
  intro alone run failed
  obtain ⟨refused, each, nothingRefused⟩ := exists_failed_of_writeEnabled_eq_ok returns
  have same := attempts_eq_alone each steady
  have refusals : refused = failed := failed_eq_alone each steady
  subst refusals
  have ends (artifact : Artifact) (enabled : artifact ∈ settings.enabled) :
      ∃ written, (alone artifact).1.outcome = .ok written := by
    rw [← (attempts_of_writeEach_eq_ok each).1] at enabled
    obtain ⟨attempt, attempted, rfl⟩ := List.mem_map.1 enabled
    rw [← steady.result_eq attempted]
    exact exists_result_of_writeEach_eq_ok each attempted
  refine ⟨same, fun artifact enabled => ends artifact (mem_enabled.2 enabled),
    lookup_eq_alone each steady, ?_, ?_⟩
  · rw [nothingRefused, Bool.eq_iff_iff, List.isEmpty_iff, List.filter_eq_nil_iff, List.all_eq_true]
    apply forall₂_congr
    intro artifact enabled
    obtain ⟨written, ending⟩ := ends artifact enabled
    cases written <;> simp [alone, ending]
  · have events := congrArg (List.flatMap fun pair => pair.2.events) same
    rw [List.flatMap_map, List.flatMap_map] at events
    rw [writeEnabled_of_ok each, writeEach_events, events, verdict_events, ← nothingRefused]

/-- A directory is in the way of the rack. The login configuration is none the worse for it. -/
theorem writeEnabled_eq_alone_rack_refused :
    let cluster : Cluster := ⟨.ok (), .ok (),
      fun _ => .ok ⟨some [("zone", some "r1")], some ⟨some [⟨some "Hostname", some "h1"⟩]⟩⟩,
      fun _ => .ok [⟨"fwss-admin", some [("a", "cA==")]⟩]⟩
    let settings : Settings :=
      { nodeName := "n", rackTopologyKey := some "zone", externalAddress := true,
        saslScramAndPlain := "true", namespaceFile := "/namespace" }
    let folder : Path := ⟨.single, []⟩
    let fs := (FileSystem.put ∅ ["namespace"] (.file [107])).put ["rack.id"] .directory
    (writeEnabled cluster settings folder fs).1.outcome = .ok false ∧
      NamespaceSteady cluster settings folder fs ∧
      (writeEnabled cluster settings folder fs).2.lookup (pathOf folder .jaas) =
        (writeOne cluster settings folder .jaas fs).2.lookup (pathOf folder .jaas) := by
  intro cluster settings folder fs
  have returns : (writeEnabled cluster settings folder fs).1.outcome = .ok false := by
    decide +kernel
  have apart : settings.NamespaceApart := by decide
  have steady : NamespaceSteady cluster settings folder fs := namespaceSteady_of_apart apart
  obtain ⟨-, -, left, -⟩ := writeEnabled_eq_alone returns steady
  exact ⟨returns, steady, left .jaas⟩

end BrokerBootstrap.Outputs
