import BrokerBootstrap.FileSystem.Path
import Mathlib.Data.List.TakeDrop

namespace BrokerBootstrap

namespace Root

def width : Root → Nat
  | relative => 0
  | single => 1
  | double => 2

theorem ofSlashes_width (root : Root) : ofSlashes root.width = root := by
  cases root <;> rfl

theorem toList_text (root : Root) : root.text.toList = List.replicate root.width '/' := by
  cases root <;> rfl

end Root

namespace Path

def names (text : String) : List String := (text.toList.splitOn '/').map String.ofList

def kept (names : List String) : List String := names.filter fun name => name ≠ "" ∧ name ≠ "."

def leading (text : String) : String :=
  match (text.toList.takeWhile (· = '/')).length with
  | 0 => ""
  | 2 => "//"
  | _ => "/"

theorem pieces_eq (cs : List Char) : pieces cs = cs.splitOn '/' := by
  induction cs with
  | nil => rfl
  | cons c rest ih =>
      rw [List.splitOn_cons_eq_if_modifyHead, pieces, ih]
      by_cases slash : c = '/'
      · simp [slash]
      · cases parts : rest.splitOn '/' with
        | nil => exact absurd parts (List.splitOn_ne_nil '/' rest)
        | cons piece others => simp [slash]

theorem rawComponents_eq (text : String) : rawComponents text = names text := by
  rw [rawComponents, pieces_eq, names]

theorem isIdle_iff {name : String} : isIdle name = true ↔ name = "" ∨ name = "." := by
  simp [isIdle]

theorem kept_eq (names : List String) : kept names = names.filter (!isIdle ·) :=
  List.filter_congr fun name _ => by simp [isIdle]

theorem components_ofText (text : String) : (ofText text).components = kept (names text) := by
  rw [ofText, rawComponents_eq, kept_eq]

theorem rootText_ofText (text : String) : (ofText text).root.text = leading text := by
  unfold ofText rootOf leading
  rcases (text.toList.takeWhile (· = '/')).length with _ | _ | _ | _ <;> rfl

structure IsComponent (name : String) : Prop where
  counts : isIdle name = false
  whole : '/' ∉ name.toList

def IsNormal (path : Path) : Prop := ∀ component ∈ path.components, IsComponent component

theorem slash_not_mem_of_mem_pieces {cs piece : List Char} (h : piece ∈ pieces cs) :
    '/' ∉ piece := by
  induction cs generalizing piece with
  | nil =>
      obtain rfl := List.mem_singleton.1 h
      exact List.not_mem_nil
  | cons c rest ih =>
      rw [pieces] at h
      split at h
      · rcases List.mem_cons.1 h with rfl | later
        · exact List.not_mem_nil
        · exact ih later
      · rename_i plain
        -- The character goes to the first piece of the rest.
        have extended (first : List Char) (clean : '/' ∉ first) : '/' ∉ c :: first := by
          simp [Ne.symm plain, clean]
        split at h
        · obtain rfl := List.mem_singleton.1 h
          exact extended [] List.not_mem_nil
        · rename_i first others parts
          rw [parts] at ih
          rcases List.mem_cons.1 h with rfl | later
          · exact extended first (ih List.mem_cons_self)
          · exact ih (List.mem_cons_of_mem first later)

theorem isNormal_ofText (text : String) : (ofText text).IsNormal := by
  intro component mem
  obtain ⟨listed, counts⟩ := List.mem_filter.1 mem
  obtain ⟨piece, cut, rfl⟩ := List.mem_map.1 listed
  refine ⟨by simpa using counts, ?_⟩
  rw [String.toList_ofList]
  exact slash_not_mem_of_mem_pieces cut

theorem IsNormal.child {path : Path} (h : path.IsNormal) {name : String} (new : IsComponent name) :
    (path.child name).IsNormal := by
  intro component mem
  rcases List.mem_append.1 mem with old | last
  · exact h component old
  · rwa [List.mem_singleton.1 last]

def joined (components : List String) : List Char :=
  ['/'].intercalate (components.map String.toList)

theorem text_eq {path : Path} (h : path.root ≠ .relative ∨ path.components ≠ []) :
    path.text = path.root.text ++ String.intercalate "/" path.components := by
  have written : ¬ (path.root = .relative && path.components.isEmpty) = true := by
    simpa [imp_iff_not_or] using h
  rw [text, if_neg written]

theorem toList_text {path : Path} (h : path.root ≠ .relative ∨ path.components ≠ []) :
    path.text.toList = List.replicate path.root.width '/' ++ joined path.components := by
  rw [text_eq h, String.toList_append, Root.toList_text, String.toList_intercalate]
  rfl

theorem mem_intercalate_iff {c : Char} (h : c ≠ '/') (parts : List (List Char)) :
    c ∈ ['/'].intercalate parts ↔ ∃ part ∈ parts, c ∈ part := by
  induction parts with
  | nil => simp
  | cons part rest ih =>
      cases rest with
      | nil => simp
      | cons next others =>
          rw [List.intercalate_cons_cons, List.mem_append, List.mem_append, ih]
          simp [h]

theorem mem_toList_iff {c : Char} (h : c ≠ '/') {text : String} :
    c ∈ text.toList ↔ ∃ name ∈ names text, c ∈ name.toList := by
  have pieces := mem_intercalate_iff h (text.toList.splitOn '/')
  rw [List.intercalate_splitOn] at pieces
  simp [pieces, names]

theorem mem_text_iff {c : Char} (h : c ≠ '/') {path : Path}
    (written : path.root ≠ .relative ∨ path.components ≠ []) :
    c ∈ path.text.toList ↔ ∃ name ∈ path.components, c ∈ name.toList := by
  simp [toList_text written, h, joined, mem_intercalate_iff h]

theorem head?_joined {components : List String}
    (h : ∀ component ∈ components, IsComponent component) :
    ∀ c ∈ (joined components).head?, c ≠ '/' := by
  cases components with
  | nil => simp [joined]
  | cons first rest =>
      have named := h first List.mem_cons_self
      rintro c begins rfl
      cases letters : first.toList with
      | nil =>
          have empty : first = "" := String.toList_eq_nil_iff.1 letters
          exact Bool.eq_false_iff.1 named.counts (isIdle_iff.2 (.inl empty))
      | cons letter others =>
          have begun : (joined (first :: rest)).head? = some letter := by
            cases rest <;> simp [joined, letters, List.intercalate_cons_cons]
          obtain rfl := Option.some.inj (begun.symm.trans begins)
          exact named.whole (by simp [letters])

theorem takeWhile_slashes {cs : List Char} (h : ∀ c ∈ cs.head?, c ≠ '/') (n : Nat) :
    (List.replicate n '/' ++ cs).takeWhile (· = '/') = List.replicate n '/' := by
  rw [List.takeWhile_append_of_pos (by simp)]
  cases cs with
  | nil => simp
  | cons c rest =>
      have plain := h c rfl
      rw [List.takeWhile_cons_of_neg (by simpa using plain), List.append_nil]

theorem splitOn_slashes (n : Nat) (cs : List Char) :
    (List.replicate n '/' ++ cs).splitOn '/' = List.replicate n [] ++ cs.splitOn '/' := by
  induction n with
  | zero => rfl
  | succ n ih =>
      rw [List.replicate_succ, List.cons_append, List.splitOn_cons_eq_if_modifyHead,
        if_pos (beq_self_eq_true _), ih]
      rfl

theorem kept_splitOn_joined {components : List String}
    (h : ∀ component ∈ components, IsComponent component) :
    kept (((joined components).splitOn '/').map String.ofList) = components := by
  cases components with
  | nil => decide
  | cons first rest =>
      have clean : ∀ letters ∈ (first :: rest).map String.toList, '/' ∉ letters := by
        intro letters mem
        obtain ⟨component, listed, rfl⟩ := List.mem_map.1 mem
        exact (h component listed).whole
      have same : String.ofList ∘ String.toList = id := funext fun _ => String.ofList_toList
      rw [joined, List.splitOn_intercalate '/' clean (by simp), List.map_map, same, List.map_id,
        kept_eq]
      exact List.filter_eq_self.2 fun component mem => by simp [(h component mem).counts]

theorem ofText_text {path : Path} (h : path.IsNormal) : ofText path.text = path := by
  by_cases bare : path.root = .relative ∧ path.components = []
  · obtain ⟨root, components⟩ := path
    obtain ⟨rfl, rfl⟩ := bare
    decide
  · have written := toList_text (Classical.not_and_iff_not_or_not.1 bare)
    have root : rootOf path.text = path.root := by
      rw [rootOf, written, takeWhile_slashes (head?_joined h), List.length_replicate,
        Root.ofSlashes_width]
    have components : (ofText path.text).components = path.components := by
      rw [components_ofText, names, written, splitOn_slashes, List.map_append, kept,
        List.filter_append]
      -- The slashes at the beginning stand between empty names.
      have empty : kept ((List.replicate path.root.width []).map String.ofList) = [] := by
        simp [kept]
      exact (congrArg (· ++ _) empty).trans (kept_splitOn_joined h)
    exact congrArg₂ Path.mk root components

theorem text_inj {first second : Path} (h : first.IsNormal) (h' : second.IsNormal) :
    first.text = second.text ↔ first = second := by
  constructor
  · intro same
    rw [← ofText_text h, same, ofText_text h']
  · rintro rfl
    rfl

end Path

end BrokerBootstrap
