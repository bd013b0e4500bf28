import BrokerBootstrap.Proofs.Outputs.Independence

/-!
# Running again

A run that starts from the files that the same run left finds its own writes in place: every place
opens as before, and what is put there stands there already. So it goes the same way, up to the
same problem if there is one, and changes nothing (`writeEnabled_again`).
-/

namespace BrokerBootstrap.Outputs
open InitFolder FileSystem

variable {cluster : Cluster} {settings : Settings} {folder : Path} {artifact : Artifact}
  {fs other : FileSystem}

def InPlace (folder : Path) (files : FileSystem) (journal : List Record) : Prop :=
  ∀ record ∈ journal, files.lookup (pathOf folder record.artifact) =
    .ok (some (.file (Utf8.encode record.content)))

theorem recordPut_of_inPlace {record : Record}
    (h : fs.lookup (pathOf folder record.artifact) =
      .ok (some (.file (Utf8.encode record.content)))) :
    record.put folder fs = fs := by
  unfold Record.put
  cases opened : fs.target (pathOf folder record.artifact) with
  | error cause => rfl
  | ok location =>
      obtain ⟨located, free⟩ := target_eq_ok_iff.1 opened
      rw [lookup, located] at h
      exact put_self (below_of_free free) (Except.ok.inj h)

theorem replay_of_inPlace {journal : List Record} (h : InPlace folder fs journal) :
    replay folder fs journal = fs := by
  induction journal with
  | nil => rfl
  | cons record rest ih =>
      obtain ⟨first, later⟩ := List.forall_mem_cons.1 h
      show replay folder (record.put folder fs) rest = fs
      rw [recordPut_of_inPlace first]
      exact ih later

theorem writeOne_again (same : SameView settings folder artifact other fs)
    (inPlace : InPlace folder other
      (successes folder artifact (draft cluster settings · artifact) fs)) :
    writeOne cluster settings folder artifact other =
      ((writeOne cluster settings folder artifact fs).1, other) := by
  have files : (writeOne cluster settings folder artifact other).2 = other := by
    rw [writeOne_files]
    apply replay_of_inPlace
    intro record written
    exact inPlace record (same.mem_successes_iff.1 written)
  exact Prod.ext same.writeOne_eq files

/-- Where both of two runs get to the login configuration, the namespace file gives them the
same. -/
def AgreeOnNamespace (settings : Settings) (first second : List Attempt) : Prop :=
  ∀ attempt ∈ first, ∀ attempt' ∈ second, attempt.artifact = .jaas → attempt'.artifact = .jaas →
    settings.podNamespace attempt'.before = settings.podNamespace attempt.before

/-- Files on which outputs that once ran on others run again: all places open as before, the writes
of the first time are in place, and the namespace file gives the same. -/
structure Repeatable (cluster : Cluster) (settings : Settings) (folder : Path)
    (artifacts : List Artifact) (fs other : FileSystem) : Prop where
  targets : ∀ artifact,
    other.target (pathOf folder artifact) = fs.target (pathOf folder artifact)
  inPlace : InPlace folder other (successesEach cluster settings folder artifacts fs)
  agree : AgreeOnNamespace settings (attempts cluster settings folder artifacts fs)
    (attempts cluster settings folder artifacts other)

namespace Repeatable

variable {rest : List Artifact}

theorem writeOne_eq (h : Repeatable cluster settings folder (artifact :: rest) fs other) :
    writeOne cluster settings folder artifact other =
      ((writeOne cluster settings folder artifact fs).1, other) := by
  have head := head_mem_attempts cluster settings folder artifact rest
  have same : SameView settings folder artifact other fs := by
    constructor
    · exact h.targets artifact
    · intro login
      exact h.agree ⟨artifact, fs⟩ (head fs) ⟨artifact, other⟩ (head other) login login
  apply writeOne_again same
  intro record written
  apply h.inPlace
  rw [mem_successesEach]
  exact ⟨⟨artifact, fs⟩, head fs, written⟩

theorem tail {written : Bool}
    (h : Repeatable cluster settings folder (artifact :: rest) fs other)
    (ending : (writeOne cluster settings folder artifact fs).1.outcome = .ok written) :
    Repeatable cluster settings folder rest (writeOne cluster settings folder artifact fs).2
      other := by
  have again := h.writeOne_eq
  have ending' : (writeOne cluster settings folder artifact other).1.outcome = .ok written := by
    rw [again, ending]
  obtain ⟨targets, inPlace, agree⟩ := h
  -- The second time the first output leaves the files as it finds them.
  rw [attempts_cons_of_ok ending, attempts_cons_of_ok ending', again] at agree
  constructor
  · intro artifact
    rw [targets, writeOne_files, target_replay]
  · intro record written
    obtain ⟨attempt, attempted, written⟩ := mem_successesEach.1 written
    apply inPlace
    rw [mem_successesEach, attempts_cons_of_ok ending]
    exact ⟨attempt, List.mem_cons_of_mem _ attempted, written⟩
  · intro attempt attempted attempt' attempted'
    exact agree attempt (List.mem_cons_of_mem _ attempted) attempt'
      (List.mem_cons_of_mem _ attempted')

end Repeatable

theorem writeEach_again {artifacts : List Artifact}
    (h : Repeatable cluster settings folder artifacts fs other) :
    writeEach cluster settings folder artifacts other =
      ((writeEach cluster settings folder artifacts fs).1, other) := by
  -- From output to output the files of the first run change, and those of the second stay.
  induction artifacts generalizing fs with
  | nil => rfl
  | cons artifact rest ih =>
      have again := h.writeOne_eq
      have ending : (writeOne cluster settings folder artifact other).1.outcome =
          (writeOne cluster settings folder artifact fs).1.outcome := by rw [again]
      cases first : (writeOne cluster settings folder artifact fs).1.outcome with
      | error problem =>
          rw [writeEach_cons_of_error first, writeEach_cons_of_error (ending.trans first), again]
      | ok written =>
          rw [writeEach_cons_of_ok first, writeEach_cons_of_ok (ending.trans first), again,
            ih (h.tail first)]

theorem inPlace_writeEach {artifacts : List Artifact} (nodup : artifacts.Nodup)
    (fs : FileSystem) :
    InPlace folder (writeEach cluster settings folder artifacts fs).2
      (successesEach cluster settings folder artifacts fs) := by
  intro record written
  have last : lastContent (successesEach cluster settings folder artifacts fs) record.artifact =
      some record.content :=
    (lastContent_eq_some_iff fun first hf second hs =>
      eq_of_mem_successesEach nodup hf hs).2 written
  rw [writeEach_files, lookup_replay fun _ mem => writable_of_mem_successesEach mem, last]

theorem agreeOnNamespace_of_apart (apart : settings.NamespaceApart) (artifacts : List Artifact)
    (journal : List Record) :
    AgreeOnNamespace settings (attempts cluster settings folder artifacts fs)
      (attempts cluster settings folder artifacts (replay folder fs journal)) := by
  intro attempt attempted attempt' attempted' _ _
  obtain ⟨earlier, before⟩ := exists_journal_of_mem_attempts attempted
  obtain ⟨later, before'⟩ := exists_journal_of_mem_attempts attempted'
  rw [before, before', podNamespace_replay apart, podNamespace_replay apart,
    podNamespace_replay apart]

theorem writeEnabled_again (cluster : Cluster) (settings : Settings) (folder : Path)
    (fs : FileSystem)
    (agree : AgreeOnNamespace settings (attempts cluster settings folder settings.enabled fs)
      (attempts cluster settings folder settings.enabled
        (writeEnabled cluster settings folder fs).2)) :
    writeEnabled cluster settings folder (writeEnabled cluster settings folder fs).2 =
      writeEnabled cluster settings folder fs := by
  rw [writeEnabled_files] at agree ⊢
  -- No artifact is enabled twice, so what the first run wrote still stands when it has ended.
  have repeatable : Repeatable cluster settings folder settings.enabled fs
      (writeEach cluster settings folder settings.enabled fs).2 := by
    constructor
    · intro artifact
      rw [writeEach_files, target_replay]
    · exact inPlace_writeEach (enabled_nodup settings) fs
    · exact agree
  have each := writeEach_again repeatable
  apply Prod.ext
  · rw [writeEnabled_eq, Job.bind_apply, Job.bind_apply, each]
  · rw [writeEnabled_files, writeEnabled_files, each]

theorem writeEnabled_again_after_fault :
    let cluster : Cluster := ⟨.ok (), .ok (),
      fun _ => .ok ⟨some [("zone", some "r1")], some ⟨some [⟨none, some "10.0.0.1"⟩]⟩⟩,
      fun _ => .ok []⟩
    let settings : Settings :=
      { nodeName := "n", rackTopologyKey := some "zone", externalAddress := true,
        addressType := some .hostname, saslScramAndPlain := "true",
        namespaceFile := "/namespace" }
    let folder : Path := ⟨.single, []⟩
    let fs : FileSystem := ∅
    let run := writeEnabled cluster settings folder fs
    run.1.outcome = .error (.fault (.untypedAddress 0)) ∧
      run.2.read (pathOf folder .rack) = .ok [114, 49] ∧
      AgreeOnNamespace settings (attempts cluster settings folder settings.enabled fs)
        (attempts cluster settings folder settings.enabled run.2) ∧
      writeEnabled cluster settings folder run.2 = run := by
  intro cluster settings folder fs run
  have apart : settings.NamespaceApart := by decide
  have agree : AgreeOnNamespace settings (attempts cluster settings folder settings.enabled fs)
      (attempts cluster settings folder settings.enabled run.2) := by
    show AgreeOnNamespace settings _ (attempts _ _ _ _ (writeEnabled _ _ _ _).2)
    rw [writeEnabled_files, writeEach_files]
    exact agreeOnNamespace_of_apart apart _ _
  exact ⟨by decide +kernel, by decide +kernel, agree,
    writeEnabled_again cluster settings folder fs agree⟩

end BrokerBootstrap.Outputs
