import BrokerBootstrap.Proofs.Outputs.Draft

/-!
# Histories of one folder

Any sequence of operations on a folder is followed by the journal of its successful writes. The
files afterwards are those that the journal gives from the files at the start (`history_eq_replay`),
so nothing that fails leaves a trace, and `lookup_history` says what stands at each place.
-/

namespace BrokerBootstrap.Outputs
open InitFolder FileSystem

variable {cluster : Cluster} {settings : Settings} {folder : Path} {artifact : Artifact}
  {fs : FileSystem} {look : FileSystem → Traced (Except String String)}

def successes (folder : Path) (artifact : Artifact)
    (look : FileSystem → Traced (Except String String)) (fs : FileSystem) : List Record :=
  match (look fs).outcome with
  | .ok (.ok text) =>
      if (InitFolder.write folder artifact text fs).1.outcome = .ok true then [⟨artifact, text⟩]
      else []
  | _ => []

theorem mem_successes {record : Record} :
    record ∈ successes folder artifact look fs ↔
      record.artifact = artifact ∧ (look fs).outcome = .ok (.ok record.content) ∧
        Writable fs folder artifact := by
  obtain ⟨name, content⟩ := record
  unfold successes
  cases (look fs).outcome with
  | error problem => simp
  | ok result =>
      cases result with
      | error text => simp
      | ok text =>
          dsimp only
          split
          · rename_i written
            simp [write_outcome_eq_true_iff.1 written, eq_comm]
          · rename_i refused
            rw [write_outcome_eq_true_iff] at refused
            simp [refused]

theorem eq_of_mem_successes {first second : Record}
    (hf : first ∈ successes folder artifact look fs)
    (hs : second ∈ successes folder artifact look fs) : first = second := by
  obtain ⟨own, found, -⟩ := mem_successes.1 hf
  obtain ⟨own', found', -⟩ := mem_successes.1 hs
  rw [found] at found'
  obtain ⟨name, content⟩ := first
  obtain ⟨name', content'⟩ := second
  cases found'
  cases own
  cases own'
  rfl

theorem writable_of_mem_successes {record : Record}
    (h : record ∈ successes folder artifact look fs) : Writable fs folder record.artifact := by
  obtain ⟨rfl, -, writable⟩ := mem_successes.1 h
  exact writable

theorem output_files (look : FileSystem → Traced (Except String String)) :
    (output folder artifact look fs).2 = replay folder fs (successes folder artifact look fs) := by
  unfold successes
  cases h : (look fs).outcome with
  | error problem => simp [output_of_fault h, replay]
  | ok result =>
      cases result with
      | error text => simp [output_of_refusal h, replay]
      | ok text =>
          simp only [output_of_content h, write_files]
          split <;> rfl

def successesEach (cluster : Cluster) (settings : Settings) (folder : Path) :
    List Artifact → FileSystem → List Record
  | [], _ => []
  | artifact :: rest, fs =>
      let (t, after) := writeOne cluster settings folder artifact fs
      successes folder artifact (draft cluster settings · artifact) fs ++
        match t.outcome with
        | .ok _ => successesEach cluster settings folder rest after
        | .error _ => []

theorem writeOne_files (artifact : Artifact) :
    (writeOne cluster settings folder artifact fs).2 =
      replay folder fs (successes folder artifact (draft cluster settings · artifact) fs) := by
  rw [writeOne_eq]
  exact output_files _

theorem replay_append (first second : List Record) :
    replay folder fs (first ++ second) = replay folder (replay folder fs first) second :=
  List.foldl_append

theorem writeEach_files (artifacts : List Artifact) (fs : FileSystem) :
    (writeEach cluster settings folder artifacts fs).2 =
      replay folder fs (successesEach cluster settings folder artifacts fs) := by
  induction artifacts generalizing fs with
  | nil => rfl
  | cons artifact rest ih =>
      rw [successesEach, replay_append, ← writeOne_files]
      cases h : (writeOne cluster settings folder artifact fs).1.outcome with
      | error problem =>
          rw [writeEach_cons_of_error h]
          rfl
      | ok written =>
          rw [writeEach_cons_of_ok h]
          exact ih _

theorem writable_of_mem_successesEach {artifacts : List Artifact} {record : Record}
    (h : record ∈ successesEach cluster settings folder artifacts fs) :
    Writable fs folder record.artifact := by
  induction artifacts generalizing fs with
  | nil => cases h
  | cons artifact rest ih =>
      rw [successesEach, List.mem_append] at h
      rcases h with own | later
      · exact writable_of_mem_successes own
      · split at later
        · have writable := ih later
          rwa [writeOne_files, writable_replay] at writable
        · cases later

theorem writeEnabled_files :
    (writeEnabled cluster settings folder fs).2 =
      (writeEach cluster settings folder settings.enabled fs).2 := by
  rw [writeEnabled_eq, Job.bind_apply]
  cases (writeEach cluster settings folder settings.enabled fs).1.outcome with
  | error problem => rfl
  | ok failed => rfl

/-- What can be done with a folder: each single output, all of them, and a write of any content.
Every operation brings its own settings and its own cluster. -/
inductive Operation where
  | rack (cluster : Cluster) (settings : Settings)
  | externalAddress (cluster : Cluster) (settings : Settings)
  | login (cluster : Cluster) (settings : Settings) (namespaceName : String)
  | podLogin (cluster : Cluster) (settings : Settings)
  | enabled (cluster : Cluster) (settings : Settings)
  | content (artifact : Artifact) (text : String)

namespace Operation

def job (folder : Path) : Operation → Job Bool
  | rack cluster settings => writeRack cluster settings folder
  | externalAddress cluster settings => writeExternalAddress cluster settings folder
  | login cluster settings namespaceName => writeLogin cluster settings folder namespaceName
  | podLogin cluster settings => writePodLogin cluster settings folder
  | enabled cluster settings => writeEnabled cluster settings folder
  | content artifact text => InitFolder.write folder artifact text

def journal (folder : Path) : Operation → FileSystem → List Record
  | rack cluster settings => successes folder .rack (draft cluster settings · .rack)
  | externalAddress cluster settings =>
      successes folder .externalAddress (draft cluster settings · .externalAddress)
  | login cluster settings namespaceName =>
      successes folder .jaas fun _ => reported (loginContent cluster settings namespaceName)
  | podLogin cluster settings => successes folder .jaas (draft cluster settings · .jaas)
  | enabled cluster settings => successesEach cluster settings folder settings.enabled
  | content artifact text => successes folder artifact fun _ => pure (.ok text)

theorem job_files (operation : Operation) :
    (operation.job folder fs).2 = replay folder fs (operation.journal folder fs) := by
  cases operation with
  | rack cluster settings => exact writeOne_files .rack
  | externalAddress cluster settings => exact writeOne_files .externalAddress
  | login cluster settings namespaceName =>
      rw [job, writeLogin_eq]
      exact output_files _
  | podLogin cluster settings => exact writeOne_files .jaas
  | enabled cluster settings => exact writeEnabled_files.trans (writeEach_files _ _)
  | content artifact text => exact output_files fun _ => pure (.ok text)

theorem writable_of_mem_journal {operation : Operation} {record : Record}
    (h : record ∈ operation.journal folder fs) : Writable fs folder record.artifact := by
  cases operation with
  | enabled cluster settings => exact writable_of_mem_successesEach h
  | rack | externalAddress | login | podLogin | content =>
      unfold journal at h
      exact writable_of_mem_successes h

end Operation

def history (folder : Path) : List Operation → FileSystem → FileSystem
  | [], fs => fs
  | operation :: rest, fs => history folder rest (operation.job folder fs).2

def journal (folder : Path) : List Operation → FileSystem → List Record
  | [], _ => []
  | operation :: rest, fs =>
      operation.journal folder fs ++ journal folder rest (operation.job folder fs).2

theorem history_eq_replay (operations : List Operation) (fs : FileSystem) :
    history folder operations fs = replay folder fs (journal folder operations fs) := by
  induction operations generalizing fs with
  | nil => rfl
  | cons operation rest ih =>
      rw [journal, replay_append, ← operation.job_files]
      exact ih _

theorem writable_of_mem_journal {operations : List Operation} {record : Record}
    (h : record ∈ journal folder operations fs) : Writable fs folder record.artifact := by
  induction operations generalizing fs with
  | nil => cases h
  | cons operation rest ih =>
      rw [journal, List.mem_append] at h
      rcases h with own | later
      · exact Operation.writable_of_mem_journal own
      · have writable := ih later
        rwa [operation.job_files, writable_replay] at writable

/-- After any history each artifact's place is as the last successful write of that artifact left
it, or as it was at the start if there was none, and all other places are as they were. -/
theorem lookup_history (folder : Path) (operations : List Operation) (fs : FileSystem) :
    (∀ artifact, (history folder operations fs).lookup (pathOf folder artifact) =
      match lastContent (journal folder operations fs) artifact with
      | none => fs.lookup (pathOf folder artifact)
      | some content => .ok (some (.file (Utf8.encode content)))) ∧
    (∀ location, (history folder operations fs).get? location = fs.get? location ∨
      ∃ artifact, fs.locate (pathOf folder artifact) = .ok location) ∧
    (history folder operations fs).workingDirectory = fs.workingDirectory := by
  rw [history_eq_replay]
  refine ⟨fun artifact => lookup_replay (fun _ mem => writable_of_mem_journal mem) artifact, ?_,
    workingDirectory_replay _⟩
  intro location
  by_cases named : ∃ artifact, fs.locate (pathOf folder artifact) = .ok location
  · exact .inr named
  · exact .inl (get?_replay_of_ne (not_exists.1 named))

end BrokerBootstrap.Outputs
