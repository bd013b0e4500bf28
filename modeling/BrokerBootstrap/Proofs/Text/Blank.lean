import BrokerBootstrap.Text.Blank
import Mathlib.Data.List.DropRight

namespace BrokerBootstrap.Text

structure Stripped (s : String) : Prop where
  first : ∀ c ∈ s.toList.head?, isBlank c = false
  last : ∀ c ∈ s.toList.getLast?, isBlank c = false

theorem trim_eq (cs : List Char) : trim cs = (cs.dropWhile isBlank).rdropWhile isBlank := rfl

theorem head?_trim (cs : List Char) : ∀ c ∈ (trim cs).head?, isBlank c = false := by
  intro c first
  -- What is cut at the end leaves the beginning as it is.
  obtain ⟨cut, whole⟩ := List.rdropWhile_prefix isBlank (cs.dropWhile isBlank)
  rw [← trim_eq] at whole
  have kept : (cs.dropWhile isBlank).head? = some c := by
    rw [← whole, List.head?_append, first, Option.some_or]
  have notBlank := List.head?_dropWhile_not isBlank cs
  rw [kept] at notBlank
  exact notBlank

theorem getLast?_trim (cs : List Char) : ∀ c ∈ (trim cs).getLast?, isBlank c = false := by
  intro c last
  obtain ⟨nonempty, rfl⟩ := List.mem_getLast?_eq_getLast last
  exact Bool.eq_false_iff.2 (List.rdropWhile_last_not isBlank _ nonempty)

theorem toList_strip (s : String) : (strip s).toList = trim s.toList := String.toList_ofList

theorem stripped_strip (s : String) : Stripped (strip s) := by
  constructor
  · rw [toList_strip]
    exact head?_trim s.toList
  · rw [toList_strip]
    exact getLast?_trim s.toList

theorem strip_of_stripped {s : String} (h : Stripped s) : strip s = s := by
  have leading : s.toList.dropWhile isBlank = s.toList := by
    cases cs : s.toList with
    | nil => rfl
    | cons c rest =>
        have first : isBlank c = false := h.first c (by rw [cs]; rfl)
        rw [List.dropWhile_cons_of_neg (by simp [first])]
  have trailing : s.toList.rdropWhile isBlank = s.toList := by
    rw [List.rdropWhile_eq_self_iff]
    intro nonempty
    rw [h.last _ (List.getLast?_eq_some_getLast nonempty)]
    exact Bool.false_ne_true
  rw [strip, trim_eq, leading, trailing, String.ofList_toList]

theorem strip_strip (s : String) : strip (strip s) = strip s := strip_of_stripped (stripped_strip s)

theorem mem_of_mem_strip {c : Char} {s : String} (h : c ∈ (strip s).toList) : c ∈ s.toList := by
  rw [toList_strip, trim_eq] at h
  have kept := (List.rdropWhile_prefix isBlank (s.toList.dropWhile isBlank)).subset h
  exact (List.dropWhile_suffix isBlank).subset kept

end BrokerBootstrap.Text
