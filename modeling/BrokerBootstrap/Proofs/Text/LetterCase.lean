import BrokerBootstrap.Text.LetterCase
import Mathlib.Data.List.Forall2

/-!
# Comparison regardless of letter case

Texts can be put into lower case in many ways, which differ in what becomes of the characters
outside ASCII: such a character may give several, and others in other places. None of this matters
to a comparison with a word of ASCII letters but k: the texts that have the word's lower-case form
are those that differ from the word in the case of letters from A to Z only (`fold_eq_iff`).
-/

namespace BrokerBootstrap.Text

def CapitalOf (capital small : Char) : Prop :=
  'A' ≤ capital ∧ capital ≤ 'Z' ∧
    small.toNat + 'A'.toNat = capital.toNat + 'a'.toNat

def SameLetter (a b : Char) : Prop := a = b ∨ CapitalOf a b ∨ CapitalOf b a

def SameButCase (text word : String) : Prop := List.Forall₂ SameLetter text.toList word.toList

theorem capitalOf_iff {capital small : Char} :
    CapitalOf capital small ↔
      65 ≤ capital.toNat ∧ capital.toNat ≤ 90 ∧ small.toNat = capital.toNat + 32 := by
  have low : 'A' ≤ capital ↔ 65 ≤ capital.toNat := Iff.rfl
  have high : capital ≤ 'Z' ↔ capital.toNat ≤ 90 := Iff.rfl
  have distance : 'A'.toNat = 65 ∧ 'a'.toNat = 97 := by decide
  rw [CapitalOf, low, high, distance.1, distance.2]
  omega

theorem toNat_toLower (c : Char) :
    c.toLower.toNat = if 65 ≤ c.toNat ∧ c.toNat ≤ 90 then c.toNat + 32 else c.toNat := by
  have range : (c.val ≥ 'A'.val ∧ c.val ≤ 'Z'.val) ↔ 65 ≤ c.toNat ∧ c.toNat ≤ 90 := Iff.rfl
  have distance : ('a'.val - 'A'.val).toNat = 32 := by decide
  by_cases capital : 65 ≤ c.toNat ∧ c.toNat ≤ 90
  · have lowered : c.toLower.val = c.val + ('a'.val - 'A'.val) :=
      congrArg Char.val (dif_pos (range.2 capital))
    have most : c.val.toNat ≤ 90 := capital.2
    rw [if_pos capital]
    show c.toLower.val.toNat = c.val.toNat + 32
    rw [lowered, UInt32.toNat_add, distance]
    omega
  · have kept : c.toLower = c := dif_neg (mt range.1 capital)
    rw [if_neg capital, kept]

theorem toLower_of_foreign {c : Char} (high : 0x80 ≤ c.toNat) : c.toLower = c := by
  rw [← Char.toNat_inj, toNat_toLower, if_neg (by omega)]

theorem toNat_toLower_lt {c : Char} (low : c.toNat < 0x80) : c.toLower.toNat < 0x80 := by
  rw [toNat_toLower]
  split <;> omega

theorem sameLetter_iff {a b : Char} (low : b.toNat < 0x80) :
    SameLetter a b ↔ a.toNat < 0x80 ∧ a.toLower = b.toLower := by
  rw [SameLetter, capitalOf_iff, capitalOf_iff, ← Char.toNat_inj, ← Char.toNat_inj, toNat_toLower,
    toNat_toLower]
  split <;> split <;> omega

/-- What can become of a character in lower case. A character outside ASCII does not come into it,
apart from the Kelvin sign. -/
inductive LowersTo : Char → List Char → Prop where
  | ascii {c : Char} (low : c.toNat < 0x80) : LowersTo c [c.toLower]
  | kelvin : LowersTo kelvinSign ['k']
  | foreign {c : Char} {form : List Char} (high : 0x80 ≤ c.toNat)
      (kept : ∃ d ∈ form, 0x80 ≤ d.toNat) : LowersTo c form

/-- Puts texts into lower case character by character. What becomes of a character may hang on the
others around it. -/
def IsLowering (fold : String → String) : Prop :=
  ∀ text, ∃ forms, List.Forall₂ LowersTo text.toList forms ∧ (fold text).toList = forms.flatten

theorem isLowering_of_forms {form : Char → List Char} (lowers : ∀ c, LowersTo c (form c)) :
    IsLowering fun text => String.ofList (text.toList.flatMap form) := by
  intro text
  refine ⟨text.toList.map form, ?_, ?_⟩
  · rw [List.forall₂_map_right_iff, List.forall₂_same]
    exact fun c _ => lowers c
  · rw [String.toList_ofList, List.flatMap_def]

theorem lowersTo_lowerChar (c : Char) : LowersTo c [lowerChar c] := by
  unfold lowerChar
  split
  · rename_i kelvin
    rw [kelvin]
    exact .kelvin
  · by_cases low : c.toNat < 0x80
    · exact .ascii low
    · have high : 0x80 ≤ c.toNat := by omega
      have kept : c ∈ [c.toLower] := by
        rw [toLower_of_foreign high]
        exact List.mem_singleton_self c
      exact .foreign high ⟨c, kept, high⟩

theorem isLowering_lower : IsLowering lower := by
  have forms : lower = fun text => String.ofList (text.toList.flatMap fun c => [lowerChar c]) := by
    funext text
    rw [lower, List.map_eq_flatMap]
  rw [forms]
  exact isLowering_of_forms lowersTo_lowerChar

def Plain (word : String) : Prop := ∀ c ∈ word.toList, c.toNat < 0x80 ∧ c.toLower ≠ 'k'

instance (word : String) : Decidable (Plain word) :=
  List.decidableBAll (fun c : Char => c.toNat < 0x80 ∧ c.toLower ≠ 'k') word.toList

theorem flatten_of_ascii {cs : List Char} {forms : List (List Char)}
    (lowers : List.Forall₂ LowersTo cs forms) (low : ∀ c ∈ cs, c.toNat < 0x80) :
    forms.flatten = cs.map Char.toLower := by
  induction lowers with
  | nil => rfl
  | @cons c form cs forms first _ ih =>
      obtain ⟨lowFirst, lowOthers⟩ := List.forall_mem_cons.1 low
      rw [List.flatten_cons, List.map_cons, ih lowOthers]
      cases first with
      | ascii => rfl
      | kelvin => exact absurd lowFirst (by decide)
      | foreign high => exact absurd high (Nat.not_le.2 lowFirst)

theorem sameLetter_of_flatten {cs word : List Char} {forms : List (List Char)}
    (lowers : List.Forall₂ LowersTo cs forms)
    (plain : ∀ c ∈ word, c.toNat < 0x80 ∧ c.toLower ≠ 'k')
    (same : forms.flatten = word.map Char.toLower) : List.Forall₂ SameLetter cs word := by
  induction lowers generalizing word with
  | nil =>
      obtain rfl := List.map_eq_nil_iff.1 same.symm
      exact .nil
  | @cons c form cs forms first _ ih =>
      rw [List.flatten_cons] at same
      cases first with
      | ascii low =>
          obtain ⟨w, others, rfl, letter, rest⟩ := List.map_eq_cons_iff.1 same.symm
          obtain ⟨⟨lowWord, -⟩, plainOthers⟩ := List.forall_mem_cons.1 plain
          exact .cons ((sameLetter_iff lowWord).2 ⟨low, letter.symm⟩) (ih plainOthers rest.symm)
      | kelvin =>
          -- The word has no k.
          obtain ⟨w, others, rfl, letter, -⟩ := List.map_eq_cons_iff.1 same.symm
          exact absurd letter (plain w List.mem_cons_self).2
      | foreign _ kept =>
          -- One of the characters that it gives is outside ASCII, and none of the word's is.
          obtain ⟨d, mem, high⟩ := kept
          have listed : d ∈ word.map Char.toLower := same ▸ List.mem_append_left _ mem
          obtain ⟨w, memWord, rfl⟩ := List.mem_map.1 listed
          exact absurd high (Nat.not_le.2 (toNat_toLower_lt (plain w memWord).1))

theorem map_toLower_of_sameLetter {cs word : List Char} (same : List.Forall₂ SameLetter cs word)
    (low : ∀ c ∈ word, c.toNat < 0x80) :
    (∀ c ∈ cs, c.toNat < 0x80) ∧ cs.map Char.toLower = word.map Char.toLower := by
  induction same with
  | nil => exact ⟨low, rfl⟩
  | @cons c w cs word letter _ ih =>
      obtain ⟨lowFirst, lowOthers⟩ := List.forall_mem_cons.1 low
      obtain ⟨lowLetter, lowered⟩ := (sameLetter_iff lowFirst).1 letter
      obtain ⟨lowRest, rest⟩ := ih lowOthers
      exact ⟨List.forall_mem_cons.2 ⟨lowLetter, lowRest⟩, by rw [List.map_cons, lowered, rest]; rfl⟩

variable {fold : String → String} {text word : String}

theorem SameButCase.ascii (same : SameButCase text word) (plain : Plain word) :
    ∀ c ∈ text.toList, c.toNat < 0x80 :=
  (map_toLower_of_sameLetter same fun c mem => (plain c mem).1).1

theorem fold_eq_iff (lowering : IsLowering fold) (plain : Plain word) :
    fold text = fold word ↔ SameButCase text word := by
  obtain ⟨forms, lowers, folded⟩ := lowering text
  obtain ⟨formsWord, lowersWord, foldedWord⟩ := lowering word
  have low : ∀ c ∈ word.toList, c.toNat < 0x80 := fun c mem => (plain c mem).1
  rw [← String.toList_inj, folded, foldedWord, flatten_of_ascii lowersWord low]
  constructor
  · exact sameLetter_of_flatten lowers plain
  · intro same
    obtain ⟨lowText, lowered⟩ := map_toLower_of_sameLetter same low
    rw [flatten_of_ascii lowers lowText, lowered]

end BrokerBootstrap.Text
