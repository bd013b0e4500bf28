import BrokerBootstrap.InitFolder
import BrokerBootstrap.Proofs.Computations
import BrokerBootstrap.Proofs.FileSystem
import Mathlib.Data.List.Induction

namespace BrokerBootstrap.InitFolder
open FileSystem

theorem fileName_isName (artifact : Artifact) : IsName artifact.fileName := by
  cases artifact <;> exact ⟨by decide, by decide, by decide⟩

variable {fs : FileSystem} {folder : Path} {location : Location}

theorem locate_pathOf_eq_ok_iff {artifact : Artifact} :
    fs.locate (pathOf folder artifact) = .ok location ↔
      (pathOf folder artifact).text.utf8ByteSize ≤ maxPathSize ∧
        ∃ above, fs.directory folder = .ok above ∧ location = artifact.fileName :: above := by
  rw [pathOf, locate_child (fileName_isName artifact)]
  split
  · rename_i long
    simp [Nat.not_le.2 long]
  · rename_i short
    cases fs.directory folder <;> simp [Except.map, Nat.not_lt.1 short, eq_comm]

theorem locate_pathOf_inj {a b : Artifact} (ha : fs.locate (pathOf folder a) = .ok location)
    (hb : fs.locate (pathOf folder b) = .ok location) : a = b := by
  obtain ⟨-, above, -, rfl⟩ := locate_pathOf_eq_ok_iff.1 ha
  obtain ⟨-, _, -, same⟩ := locate_pathOf_eq_ok_iff.1 hb
  exact Artifact.fileName_inj (List.cons.inj same).1

theorem locate_put_target {a : Artifact} (h : fs.target (pathOf folder a) = .ok location)
    (entry : Entry) (b : Artifact) :
    (fs.put location entry).locate (pathOf folder b) = fs.locate (pathOf folder b) := by
  obtain ⟨located, free⟩ := target_eq_ok_iff.1 h
  obtain ⟨-, above, opened, rfl⟩ := locate_pathOf_eq_ok_iff.1 located
  rw [pathOf, locate_child (fileName_isName b), locate_child (fileName_isName b),
    directory_put free entry opened, opened]

theorem lookup_put_target {a : Artifact} (h : fs.target (pathOf folder a) = .ok location)
    (entry : Entry) (b : Artifact) :
    (fs.put location entry).lookup (pathOf folder b) =
      if b = a then .ok (some entry) else fs.lookup (pathOf folder b) := by
  obtain ⟨located, free⟩ := target_eq_ok_iff.1 h
  rw [lookup, locate_put_target h]
  split
  · rename_i same
    subst same
    simp [located, Except.map, get?_put_of_free free]
  · rename_i different
    cases other : fs.locate (pathOf folder b) with
    | error e => simp [lookup, other, Except.map]
    | ok place =>
        have apart : place ≠ location := by
          rintro rfl
          exact different (locate_pathOf_inj other located)
        simp [lookup, other, Except.map, get?_put_of_free free, apart]

theorem target_put_target {a : Artifact} (h : fs.target (pathOf folder a) = .ok location)
    (content : List UInt8) (b : Artifact) :
    (fs.put location (.file content)).target (pathOf folder b) = fs.target (pathOf folder b) := by
  obtain ⟨-, free⟩ := target_eq_ok_iff.1 h
  unfold target
  rw [locate_put_target h]
  cases fs.locate (pathOf folder b) with
  | error e => rfl
  | ok place =>
      simp only [get?_put_of_free free]
      by_cases same : place = location
      · subst same
        cases found : fs.get? place with
        | none => simp
        | some entry =>
            cases entry with
            | directory => exact absurd found free
            | file earlier => simp
      · rw [if_neg same]

def Writable (fs : FileSystem) (folder : Path) (artifact : Artifact) : Prop :=
  (pathOf folder artifact).hasNul = false ∧
    ∃ location, fs.target (pathOf folder artifact) = .ok location

theorem store_of_nul {artifact : Artifact} (h : (pathOf folder artifact).hasNul = true)
    (content : String) (fs : FileSystem) :
    store folder artifact content fs = (.abort .nulInPath, fs) := by
  simp [store, h]

theorem store_of_error {artifact : Artifact} {cause : OpenError}
    (clean : (pathOf folder artifact).hasNul = false)
    (h : fs.target (pathOf folder artifact) = .error cause) (content : String) :
    store folder artifact content fs =
      (.fail (.unwritable artifact (pathOf folder artifact) cause), fs) := by
  simp [store, clean, FileSystem.write, h, Except.map]

theorem store_of_ok {artifact : Artifact} (clean : (pathOf folder artifact).hasNul = false)
    (h : fs.target (pathOf folder artifact) = .ok location) (content : String) :
    store folder artifact content fs =
      (pure (pathOf folder artifact), fs.put location (.file (Utf8.encode content))) := by
  simp [store, clean, FileSystem.write, h, Except.map]

theorem write_of_nul {artifact : Artifact} (h : (pathOf folder artifact).hasNul = true)
    (content : String) (fs : FileSystem) :
    write folder artifact content fs = (.abort .nulInPath, fs) := by
  simp [write, Job.bind_apply, store_of_nul h, Traced.attempt, Traced.abort]

theorem write_of_error {artifact : Artifact} {cause : OpenError}
    (clean : (pathOf folder artifact).hasNul = false)
    (h : fs.target (pathOf folder artifact) = .error cause) (content : String) :
    write folder artifact content fs =
      (⟨[.message .error
        [.plain (Failure.unwritable artifact (pathOf folder artifact) cause).message]],
        .ok false⟩, fs) := by
  simp [write, Job.bind_apply, store_of_error clean h, Traced.attempt, Traced.fail, Job.say,
    Traced.say, Traced.record, Job.pure_apply]

theorem write_of_ok {artifact : Artifact} (clean : (pathOf folder artifact).hasNul = false)
    (h : fs.target (pathOf folder artifact) = .ok location) (content : String) :
    write folder artifact content fs =
      (⟨[.message .success
        [.plain (storedText artifact content (pathOf folder artifact))]], .ok true⟩,
        fs.put location (.file (Utf8.encode content))) := by
  simp [write, Job.bind_apply, store_of_ok clean h, Traced.attempt, Traced.pure_eq, Job.say,
    Traced.say, Traced.record, Job.pure_apply]

theorem write_traced_cases (folder : Path) (artifact : Artifact) (content : String)
    (fs : FileSystem) :
    (write folder artifact content fs).1 = .abort .nulInPath ∨
    (∃ text, (write folder artifact content fs).1 = ⟨[.message .error [.plain text]], .ok false⟩) ∨
    ∃ text,
      (write folder artifact content fs).1 = ⟨[.message .success [.plain text]], .ok true⟩ := by
  cases clean : (pathOf folder artifact).hasNul with
  | true => exact .inl (congrArg Prod.fst (write_of_nul clean content fs))
  | false =>
      cases place : fs.target (pathOf folder artifact) with
      | error cause =>
          exact .inr (.inl ⟨_, congrArg Prod.fst (write_of_error clean place content)⟩)
      | ok location =>
          exact .inr (.inr ⟨_, congrArg Prod.fst (write_of_ok clean place content)⟩)

theorem write_outcome (folder : Path) (artifact : Artifact) (content : String)
    (fs : FileSystem) :
    (write folder artifact content fs).1.outcome =
      if (pathOf folder artifact).hasNul then .error (.fault .nulInPath)
      else .ok (fs.target (pathOf folder artifact)).isOk := by
  cases clean : (pathOf folder artifact).hasNul with
  | true =>
      rw [write_of_nul clean]
      rfl
  | false =>
      cases h : fs.target (pathOf folder artifact) with
      | error cause =>
          rw [write_of_error clean h]
          rfl
      | ok location =>
          rw [write_of_ok clean h]
          rfl

theorem write_outcome_eq_true_iff {artifact : Artifact} {content : String} :
    (write folder artifact content fs).1.outcome = .ok true ↔ Writable fs folder artifact := by
  rw [write_outcome, Writable]
  cases (pathOf folder artifact).hasNul with
  | true => simp
  | false => cases fs.target (pathOf folder artifact) <;> simp [Except.isOk, Except.toBool]

theorem write_traced_congr {artifact : Artifact} {other : FileSystem}
    (same : other.target (pathOf folder artifact) = fs.target (pathOf folder artifact))
    (content : String) :
    (write folder artifact content other).1 = (write folder artifact content fs).1 := by
  cases clean : (pathOf folder artifact).hasNul with
  | true => rw [write_of_nul clean, write_of_nul clean]
  | false =>
      cases place : fs.target (pathOf folder artifact) with
      | error cause => rw [write_of_error clean place, write_of_error clean (same.trans place)]
      | ok location => rw [write_of_ok clean place, write_of_ok clean (same.trans place)]

structure Record where
  artifact : Artifact
  content : String
  deriving DecidableEq, Repr

def Record.put (folder : Path) (fs : FileSystem) (record : Record) : FileSystem :=
  match fs.target (pathOf folder record.artifact) with
  | .error _ => fs
  | .ok location => fs.put location (.file (Utf8.encode record.content))

def replay (folder : Path) (fs : FileSystem) (journal : List Record) : FileSystem :=
  journal.foldl (Record.put folder) fs

def lastContent (journal : List Record) (artifact : Artifact) : Option String :=
  (journal.filter (·.artifact = artifact)).getLast?.map (·.content)

theorem write_files (fs : FileSystem) (folder : Path) (artifact : Artifact) (content : String) :
    (write folder artifact content fs).2 =
      if (write folder artifact content fs).1.outcome = .ok true then
        Record.put folder fs ⟨artifact, content⟩
      else fs := by
  cases clean : (pathOf folder artifact).hasNul with
  | true => simp [write_of_nul clean, Traced.abort]
  | false =>
      cases h : fs.target (pathOf folder artifact) with
      | error cause => simp [write_of_error clean h]
      | ok location => simp [write_of_ok clean h, Record.put, h]

theorem target_recordPut (record : Record) (artifact : Artifact) :
    (record.put folder fs).target (pathOf folder artifact) =
      fs.target (pathOf folder artifact) := by
  unfold Record.put
  split
  · rfl
  · rename_i location h
    exact target_put_target h _ artifact

theorem target_replay (journal : List Record) (artifact : Artifact) :
    (replay folder fs journal).target (pathOf folder artifact) =
      fs.target (pathOf folder artifact) := by
  induction journal generalizing fs with
  | nil => rfl
  | cons record rest ih => exact ih.trans (target_recordPut record artifact)

theorem writable_replay (journal : List Record) (artifact : Artifact) :
    Writable (replay folder fs journal) folder artifact ↔ Writable fs folder artifact := by
  unfold Writable
  rw [target_replay]

theorem workingDirectory_replay (journal : List Record) :
    (replay folder fs journal).workingDirectory = fs.workingDirectory := by
  induction journal generalizing fs with
  | nil => rfl
  | cons record rest ih =>
      refine ih.trans ?_
      unfold Record.put
      split
      · rfl
      · exact workingDirectory_put _ _ _

theorem replay_concat (journal : List Record) (record : Record) :
    replay folder fs (journal ++ [record]) = record.put folder (replay folder fs journal) := by
  simp [replay]

theorem lastContent_concat (journal : List Record) (record : Record) (artifact : Artifact) :
    lastContent (journal ++ [record]) artifact =
      if record.artifact = artifact then some record.content
      else lastContent journal artifact := by
  by_cases same : record.artifact = artifact <;> simp [lastContent, same]

theorem exists_lastContent_eq_some {journal : List Record} {record : Record}
    (mem : record ∈ journal) :
    ∃ content, lastContent journal record.artifact = some content ∧
      ⟨record.artifact, content⟩ ∈ journal := by
  have kept : record ∈ journal.filter (·.artifact = record.artifact) := by simp [mem]
  cases found : (journal.filter (·.artifact = record.artifact)).getLast? with
  | none => exact absurd (List.getLast?_eq_none_iff.1 found) (List.ne_nil_of_mem kept)
  | some last =>
      have listed := List.mem_filter.1 (List.mem_of_getLast? found)
      have same : last.artifact = record.artifact := of_decide_eq_true listed.2
      refine ⟨last.content, ?_, same ▸ listed.1⟩
      rw [lastContent, found]
      rfl

theorem lastContent_eq_some_iff {journal : List Record} {artifact : Artifact} {content : String}
    (unique : ∀ first ∈ journal, ∀ second ∈ journal, first.artifact = second.artifact →
      first = second) :
    lastContent journal artifact = some content ↔ ⟨artifact, content⟩ ∈ journal := by
  constructor
  · intro last
    obtain ⟨record, found, rfl⟩ := Option.map_eq_some_iff.1 last
    have listed := List.mem_filter.1 (List.mem_of_getLast? found)
    rw [← of_decide_eq_true listed.2]
    exact listed.1
  · intro mem
    obtain ⟨latest, last, written⟩ := exists_lastContent_eq_some mem
    have same := unique _ mem _ written rfl
    rw [last, (Record.mk.inj same).2]

theorem lookup_replay {journal : List Record}
    (written : ∀ record ∈ journal, Writable fs folder record.artifact) (artifact : Artifact) :
    (replay folder fs journal).lookup (pathOf folder artifact) =
      match lastContent journal artifact with
      | none => fs.lookup (pathOf folder artifact)
      | some content => .ok (some (.file (Utf8.encode content))) := by
  induction journal using List.reverseRecOn with
  | nil => rfl
  | append_singleton journal record ih =>
      obtain ⟨-, location, target⟩ := written record (by simp)
      -- The last write goes where it would have gone at the start.
      rw [← target_replay journal] at target
      rw [replay_concat, lastContent_concat, Record.put, target]
      refine (lookup_put_target target _ artifact).trans ?_
      by_cases same : artifact = record.artifact
      · simp [same]
      · rw [if_neg same, if_neg (Ne.symm same)]
        exact ih fun other mem => written other (by simp [mem])

theorem get?_replay_of_ne {journal : List Record}
    (apart : ∀ artifact, fs.locate (pathOf folder artifact) ≠ .ok location) :
    (replay folder fs journal).get? location = fs.get? location := by
  induction journal using List.reverseRecOn with
  | nil => rfl
  | append_singleton journal record ih =>
      rw [replay_concat, Record.put]
      split
      · exact ih
      · rename_i place target
        obtain ⟨-, free⟩ := target_eq_ok_iff.1 target
        rw [target_replay] at target
        have different : location ≠ place := by
          rintro rfl
          exact apart _ (target_eq_ok_iff.1 target).1
        rw [get?_put_of_free free, if_neg different]
        exact ih

end BrokerBootstrap.InitFolder
