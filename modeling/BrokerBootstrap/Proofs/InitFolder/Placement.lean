import BrokerBootstrap.Proofs.FileSystem.Path
import BrokerBootstrap.Proofs.InitFolder

namespace BrokerBootstrap

namespace FileSystem

def opened (fs : FileSystem) (location : Location) : Except OpenError Location :=
  if fs.get? location = some .directory then .error .isADirectory else .ok location

/-- Where the names in a text lead to, all of them followed one by one, and then one name more. -/
def follow (fs : FileSystem) (text last : String) : Except OpenError Location :=
  fs.walk (if text.toList.head? = some '/' then [] else fs.workingDirectory)
    (Path.names text ++ [last])

theorem target_eq (fs : FileSystem) (path : Path) :
    fs.target path = fs.locate path >>= fs.opened := by
  unfold target opened
  cases fs.locate path with
  | error cause => rfl
  | ok location =>
      simp only [bind, Except.bind]
      split
      · rename_i directory
        rw [if_pos directory]
      · rename_i free
        rw [if_neg free]

theorem origin_rootOf (fs : FileSystem) (text : String) :
    fs.origin (Path.rootOf text) =
      if text.toList.head? = some '/' then [] else fs.workingDirectory := by
  unfold Path.rootOf
  cases text.toList with
  | nil => rfl
  | cons c rest =>
      by_cases slash : c = '/'
      · subst slash
        rw [List.takeWhile_cons_of_pos (by simp), List.length_cons]
        rcases (rest.takeWhile (· = '/')).length with _ | _ | _ <;> rfl
      · rw [List.takeWhile_cons_of_neg (by simp [slash])]
        simp [slash, Root.ofSlashes, origin]

theorem walk_idle {name : String} (idle : Path.isIdle name = true) {rest : List String}
    (more : rest ≠ []) (fs : FileSystem) (start : Location) :
    fs.walk start (name :: rest) = fs.walk start rest := by
  -- The name after it has the walk look at the same place, with the same refusals.
  obtain ⟨next, others, rfl⟩ := List.exists_cons_of_ne_nil more
  have short : ¬ maxNameSize < name.utf8ByteSize := by
    rcases Path.isIdle_iff.1 idle with rfl | rfl <;> decide
  have stays : step start name = start := if_pos idle
  cases found : fs.get? start with
  | none => simp [walk, found]
  | some entry => cases entry <;> simp [walk, found, short, stays]

theorem walk_kept (fs : FileSystem) (start : Location) (names : List String) (last : String) :
    fs.walk start (Path.kept names ++ [last]) = fs.walk start (names ++ [last]) := by
  rw [Path.kept_eq]
  induction names generalizing start with
  | nil => rfl
  | cons name rest ih =>
      cases idle : Path.isIdle name with
      | true =>
          rw [List.filter_cons_of_neg (by simp [idle]), ih, List.cons_append,
            walk_idle idle (by simp)]
      | false =>
          rw [List.filter_cons_of_pos (by simp [idle])]
          simp only [List.cons_append, walk, ih]

end FileSystem

namespace InitFolder
open FileSystem

section Places

variable (folder : String) (artifact : Artifact)

theorem fileName_isComponent : Path.IsComponent artifact.fileName := by
  cases artifact <;> exact ⟨by decide, by decide⟩

theorem isNormal_pathOf : (pathOf (.ofText folder) artifact).IsNormal :=
  (Path.isNormal_ofText folder).child (fileName_isComponent artifact)

theorem components_pathOf :
    (pathOf (.ofText folder) artifact).components =
      Path.kept (Path.names folder) ++ [artifact.fileName] := by
  rw [pathOf, Path.child, Path.components_ofText]

theorem text_pathOf :
    (pathOf (.ofText folder) artifact).text = Path.leading folder ++
      String.intercalate "/" (Path.kept (Path.names folder) ++ [artifact.fileName]) := by
  rw [Path.text_eq (.inr (by simp [components_pathOf])), components_pathOf]
  exact congrArg (· ++ _) (Path.rootText_ofText folder)

theorem pathOf_inj {folder folder' : Path} {artifact artifact' : Artifact} :
    pathOf folder artifact = pathOf folder' artifact' ↔
      folder = folder' ∧ artifact = artifact' := by
  constructor
  · intro same
    obtain ⟨root, components⟩ := Path.mk.inj same
    obtain ⟨others, last⟩ := List.append_inj' components rfl
    exact ⟨congrArg₂ Path.mk root others, Artifact.fileName_inj (List.cons.inj last).1⟩
  · rintro ⟨rfl, rfl⟩
    rfl

theorem hasNul_pathOf_iff :
    (pathOf (.ofText folder) artifact).hasNul = true ↔ Char.ofNat 0 ∈ folder.toList := by
  have notSlash : Char.ofNat 0 ≠ '/' := by decide
  have written : (pathOf (.ofText folder) artifact).components ≠ [] := by simp [components_pathOf]
  have named : Char.ofNat 0 ∉ artifact.fileName.toList := by cases artifact <;> decide
  have real {name : String} (nul : Char.ofNat 0 ∈ name.toList) : name ≠ "" ∧ name ≠ "." := by
    constructor <;> rintro rfl <;> revert nul <;> decide
  -- Texts and names hold the same characters, the slashes apart.
  rw [Path.hasNul, List.contains_iff_mem, Path.mem_text_iff notSlash (.inr written),
    components_pathOf, Path.mem_toList_iff notSlash]
  constructor
  · rintro ⟨name, mem, nul⟩
    rcases List.mem_append.1 mem with listed | last
    · exact ⟨name, (List.mem_filter.1 listed).1, nul⟩
    · rw [List.mem_singleton.1 last] at nul
      exact absurd nul named
  · rintro ⟨name, listed, nul⟩
    have counts : name ∈ Path.kept (Path.names folder) :=
      List.mem_filter.2 ⟨listed, decide_eq_true (real nul)⟩
    exact ⟨name, List.mem_append_left _ counts, nul⟩

theorem locate_pathOf (fs : FileSystem) :
    fs.locate (pathOf (.ofText folder) artifact) =
      if maxPathSize < (pathOf (.ofText folder) artifact).text.utf8ByteSize then .error .nameTooLong
      else fs.follow folder artifact.fileName := by
  rw [locate, components_pathOf, walk_kept, follow, ← origin_rootOf]
  rfl

end Places

theorem pathOf_ofText_normal (folder : String) (artifact : Artifact) :
    let path := pathOf (.ofText folder) artifact
    path.text = Path.leading folder ++
      String.intercalate "/" (Path.kept (Path.names folder) ++ [artifact.fileName]) ∧
    Path.ofText path.text = path ∧
    pathOf (.ofText (Path.ofText folder).text) artifact = path ∧
    (∀ folder' artifact', (pathOf (.ofText folder') artifact').text = path.text ↔
      (Path.ofText folder').text = (Path.ofText folder).text ∧ artifact' = artifact) ∧
    (path.hasNul = true ↔ Char.ofNat 0 ∈ folder.toList) ∧
    ∀ fs : FileSystem, fs.target path =
      if maxPathSize < path.text.utf8ByteSize then .error .nameTooLong
      else fs.follow folder artifact.fileName >>= fs.opened := by
  intro path
  have normal := Path.isNormal_ofText folder
  refine ⟨text_pathOf folder artifact, Path.ofText_text (isNormal_pathOf folder artifact), ?_, ?_,
    hasNul_pathOf_iff folder artifact, ?_⟩
  · rw [Path.ofText_text normal]
  · intro folder' artifact'
    rw [Path.text_inj (isNormal_pathOf folder' artifact') (isNormal_pathOf folder artifact),
      pathOf_inj, Path.text_inj (Path.isNormal_ofText folder') normal]
  · intro fs
    rw [target_eq, locate_pathOf]
    split <;> rfl

example : (pathOf (.ofText "//a/.///../") .rack).text = "//a/../rack.id" := by decide +kernel

end InitFolder

end BrokerBootstrap
