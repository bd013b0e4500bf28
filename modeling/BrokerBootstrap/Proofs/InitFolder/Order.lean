import BrokerBootstrap.Proofs.Encoding.Utf8
import BrokerBootstrap.Proofs.InitFolder

namespace BrokerBootstrap.InitFolder
open FileSystem

variable {fs : FileSystem} {folder : Path} {artifact : Artifact} {content : String}

theorem recordPut_of_error {cause : OpenError}
    (h : fs.target (pathOf folder artifact) = .error cause) (content : String) :
    Record.put folder fs ⟨artifact, content⟩ = fs := by
  simp only [Record.put, h]

theorem recordPut_of_ok {location : Location}
    (h : fs.target (pathOf folder artifact) = .ok location) (content : String) :
    Record.put folder fs ⟨artifact, content⟩ = fs.put location (.file (Utf8.encode content)) := by
  simp only [Record.put, h]

theorem target_recordPut_eq {other : Artifact} {result : Except OpenError Location}
    (h : fs.target (pathOf folder other) = result) (artifact : Artifact) (content : String) :
    (Record.put folder fs ⟨artifact, content⟩).target (pathOf folder other) = result :=
  (target_recordPut ⟨artifact, content⟩ other).trans h

theorem recordPut_overwrites (folder : Path) (fs : FileSystem) (artifact : Artifact)
    (earlier later : String) :
    Record.put folder (Record.put folder fs ⟨artifact, earlier⟩) ⟨artifact, later⟩ =
      Record.put folder fs ⟨artifact, later⟩ := by
  cases opened : fs.target (pathOf folder artifact) with
  | error cause => rw [recordPut_of_error opened]
  | ok location =>
      rw [recordPut_of_ok (target_recordPut_eq opened artifact earlier), recordPut_of_ok opened,
        recordPut_of_ok opened, put_put]

theorem recordPut_comm (folder : Path) (fs : FileSystem) {first second : Artifact}
    (different : first ≠ second) (content content' : String) :
    Record.put folder (Record.put folder fs ⟨first, content⟩) ⟨second, content'⟩ =
      Record.put folder (Record.put folder fs ⟨second, content'⟩) ⟨first, content⟩ := by
  cases opened : fs.target (pathOf folder first) with
  | error cause =>
      rw [recordPut_of_error opened,
        recordPut_of_error (target_recordPut_eq opened second content')]
  | ok location =>
      cases opened' : fs.target (pathOf folder second) with
      | error cause =>
          rw [recordPut_of_error opened',
            recordPut_of_error (target_recordPut_eq opened' first content)]
      | ok location' =>
          have apart : location ≠ location' := by
            rintro rfl
            have located := (target_eq_ok_iff.1 opened).1
            have located' := (target_eq_ok_iff.1 opened').1
            exact different (locate_pathOf_inj located located')
          rw [recordPut_of_ok (target_recordPut_eq opened' first content), recordPut_of_ok opened,
            recordPut_of_ok (target_recordPut_eq opened second content'), recordPut_of_ok opened',
            put_comm fs apart]

theorem store_files (folder : Path) (artifact : Artifact) (content : String) (fs : FileSystem) :
    (store folder artifact content fs).2 =
      if (pathOf folder artifact).hasNul then fs else Record.put folder fs ⟨artifact, content⟩ := by
  cases clean : (pathOf folder artifact).hasNul with
  | true => rw [store_of_nul clean, if_pos rfl]
  | false =>
      rw [if_neg Bool.false_ne_true]
      cases place : fs.target (pathOf folder artifact) with
      | error cause => rw [store_of_error clean place, recordPut_of_error place]
      | ok location => rw [store_of_ok clean place, recordPut_of_ok place]

/-- A way to write artifacts that leaves the files as `store` does. What it tells depends on the
files only in the place that it opens. -/
structure Writes {α : Type} (folder : Path) (emit : Artifact → String → Job α) : Prop where
  files : ∀ artifact content fs,
    (emit artifact content fs).2 = (store folder artifact content fs).2
  traced : ∀ artifact content fs other,
    FileSystem.target other (pathOf folder artifact) = fs.target (pathOf folder artifact) →
    (emit artifact content other).1 = (emit artifact content fs).1

theorem writes_store (folder : Path) : Writes folder (store folder) := by
  constructor
  · exact fun _ _ _ => rfl
  · intro artifact content fs other same
    cases clean : (pathOf folder artifact).hasNul with
    | true => rw [store_of_nul clean, store_of_nul clean]
    | false =>
        cases place : fs.target (pathOf folder artifact) with
        | error cause => rw [store_of_error clean place, store_of_error clean (same.trans place)]
        | ok location => rw [store_of_ok clean place, store_of_ok clean (same.trans place)]

theorem writes_write (folder : Path) : Writes folder (write folder) := by
  constructor
  · intro artifact content fs
    cases clean : (pathOf folder artifact).hasNul with
    | true => rw [write_of_nul clean, store_of_nul clean]
    | false =>
        cases place : fs.target (pathOf folder artifact) with
        | error cause => rw [write_of_error clean place, store_of_error clean place]
        | ok location => rw [write_of_ok clean place, store_of_ok clean place]
  · intro artifact content fs other same
    exact write_traced_congr same content

def Overwrites {α : Type} (emit : Artifact → String → Job α) : Prop :=
  ∀ artifact earlier later fs,
    emit artifact later (emit artifact earlier fs).2 = emit artifact later fs

def Commute {α : Type} (emit : Artifact → String → Job α) : Prop :=
  ∀ first second, first ≠ second → ∀ content content' fs,
    (emit second content' (emit first content fs).2).2 =
      (emit first content (emit second content' fs).2).2 ∧
    (emit second content' (emit first content fs).2).1 = (emit second content' fs).1 ∧
    (emit first content (emit second content' fs).2).1 = (emit first content fs).1

section Writes

variable {α : Type} {emit : Artifact → String → Job α}

theorem Writes.traced_again (h : Writes folder emit) (first second : Artifact)
    (content content' : String) (fs : FileSystem) :
    (emit second content' (emit first content fs).2).1 = (emit second content' fs).1 := by
  apply h.traced
  rw [h.files, store_files]
  split
  · rfl
  · exact target_recordPut ⟨first, content⟩ second

theorem Writes.overwrites (h : Writes folder emit) : Overwrites emit := by
  intro artifact earlier later fs
  apply Prod.ext
  · exact h.traced_again artifact artifact earlier later fs
  · simp only [h.files, store_files]
    split
    · rfl
    · exact recordPut_overwrites folder fs artifact earlier later

theorem Writes.commute (h : Writes folder emit) : Commute emit := by
  intro first second different content content' fs
  refine ⟨?_, h.traced_again first second content content' fs,
    h.traced_again second first content' content fs⟩
  simp only [h.files, store_files]
  split
  · rfl
  · split
    · rfl
    · exact recordPut_comm folder fs different content content'

end Writes

theorem store_eq_ok {returned : Path}
    (h : (store folder artifact content fs).1.outcome = .ok returned) :
    returned = pathOf folder artifact ∧
      (store folder artifact content fs).2.lookup (pathOf folder artifact) =
        .ok (some (.file (Utf8.encode content))) := by
  cases clean : (pathOf folder artifact).hasNul with
  | true =>
      rw [store_of_nul clean] at h
      cases h
  | false =>
      cases place : fs.target (pathOf folder artifact) with
      | error cause =>
          rw [store_of_error clean place] at h
          cases h
      | ok location =>
          rw [store_of_ok clean place] at h ⊢
          exact ⟨(Except.ok.inj h).symm, lookup_write (write_eq_ok_iff.2 ⟨location, place, rfl⟩)⟩

theorem store_eq_error {problem : Problem}
    (h : (store folder artifact content fs).1.outcome = .error problem) :
    (store folder artifact content fs).2 = fs ∧
      ((pathOf folder artifact).hasNul = true ∧ problem = .fault .nulInPath ∨
        ∃ cause, fs.target (pathOf folder artifact) = .error cause ∧
          problem = .failure (.unwritable artifact (pathOf folder artifact) cause)) := by
  cases clean : (pathOf folder artifact).hasNul with
  | true =>
      rw [store_of_nul clean] at h ⊢
      exact ⟨rfl, .inl ⟨rfl, (Except.error.inj h).symm⟩⟩
  | false =>
      cases place : fs.target (pathOf folder artifact) with
      | error cause =>
          rw [store_of_error clean place] at h ⊢
          exact ⟨rfl, .inr ⟨cause, rfl, (Except.error.inj h).symm⟩⟩
      | ok location =>
          rw [store_of_ok clean place] at h
          cases h

theorem writes_overwrite_and_commute (folder : Path) :
    Overwrites (write folder) ∧ Commute (write folder) ∧
    Overwrites (store folder) ∧ Commute (store folder) ∧
    ∀ artifact content fs,
      let path := pathOf folder artifact
      let stored := store folder artifact content fs
      (∀ returned, stored.1.outcome = .ok returned →
        returned = path ∧
        ∃ octets, stored.2.read path = .ok octets ∧ Utf8.decode octets = .ok content) ∧
      ∀ problem, stored.1.outcome = .error problem →
        stored.2 = fs ∧
        (path.hasNul = true ∧ problem = .fault .nulInPath ∨
          ∃ cause, fs.target path = .error cause ∧
            problem = .failure (.unwritable artifact path cause)) := by
  refine ⟨(writes_write folder).overwrites, (writes_write folder).commute,
    (writes_store folder).overwrites, (writes_store folder).commute, ?_⟩
  intro artifact content fs path stored
  refine ⟨?_, fun problem failed => store_eq_error failed⟩
  intro returned ending
  obtain ⟨same, kept⟩ := store_eq_ok ending
  exact ⟨same, Utf8.encode content, read_of_lookup kept, Utf8.decode_eq_ok_iff.2 rfl⟩

/-- The folder's path goes through the name of an artifact that is a directory. -/
theorem writes_overwrite_and_commute_through_names :
    let folder := Path.ofText "./rack.id//.."
    let fs : FileSystem := (∅ : FileSystem).put ["rack.id"] .directory
    let first := write folder .externalAddress "a\r\n" fs
    let second := write folder .jaas "j" fs
    Artifact.externalAddress ≠ .jaas ∧
      (write folder .jaas "j" first.2).2 = (write folder .externalAddress "a\r\n" second.2).2 ∧
      (write folder .jaas "j" first.2).1 = second.1 ∧
      (∃ problem, (store folder .rack "r" fs).1.outcome = .error problem ∧
        (store folder .rack "r" fs).2 = fs) ∧
      ∃ octets, (store folder .externalAddress "a\r\n" fs).2.read
        (pathOf folder .externalAddress) = .ok octets ∧ Utf8.decode octets = .ok "a\r\n" := by
  intro folder fs first second
  obtain ⟨-, commute, -, -, stores⟩ := writes_overwrite_and_commute folder
  have different : Artifact.externalAddress ≠ .jaas := by decide
  have refused : (store folder .rack "r" fs).1.outcome =
      .error (.failure (.unwritable .rack (pathOf folder .rack) .isADirectory)) := by
    decide +kernel
  have returned : (store folder .externalAddress "a\r\n" fs).1.outcome =
      .ok (pathOf folder .externalAddress) := by decide +kernel
  obtain ⟨files, told, -⟩ := commute _ _ different "a\r\n" "j" fs
  obtain ⟨unchanged, -⟩ := (stores .rack "r" fs).2 _ refused
  obtain ⟨-, back⟩ := (stores .externalAddress "a\r\n" fs).1 _ returned
  exact ⟨different, files, told, ⟨_, refused, unchanged⟩, back⟩

end BrokerBootstrap.InitFolder
