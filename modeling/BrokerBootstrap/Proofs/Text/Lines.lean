import BrokerBootstrap.Text.Newline
import Mathlib.Data.List.Basic

namespace BrokerBootstrap.Text

theorem splitOn_line {line : List Char} (one : '\n' ∉ line) (rest : List Char) :
    (line ++ '\n' :: rest).splitOn '\n' = line :: rest.splitOn '\n' := by
  apply List.splitOnP_append_cons_of_forall_mem
  · intro c mem
    simpa using ne_of_mem_of_not_mem mem one
  · rfl

theorem splitOn_lines {lines : List (List Char)} (one : ∀ line ∈ lines, '\n' ∉ line) :
    (lines.flatMap (· ++ ['\n'])).splitOn '\n' = lines ++ [[]] := by
  induction lines with
  | nil => rfl
  | cons line rest ih =>
      obtain ⟨first, others⟩ := List.forall_mem_cons.1 one
      rw [List.flatMap_cons, List.append_assoc, List.singleton_append, splitOn_line first,
        ih others, List.cons_append]

inductive Unified : List Char → List Char → Prop
  | done : Unified [] []
  | pair {rest unified : List Char} (h : Unified rest unified) :
      Unified ('\r' :: '\n' :: rest) ('\n' :: unified)
  | single {rest unified : List Char} (alone : rest.head? ≠ some '\n') (h : Unified rest unified) :
      Unified ('\r' :: rest) ('\n' :: unified)
  | other {c : Char} {rest unified : List Char} (plain : c ≠ '\r') (h : Unified rest unified) :
      Unified (c :: rest) (c :: unified)

theorem unified_unifyNewlines (cs : List Char) : Unified cs (unifyNewlines cs) := by
  fun_induction unifyNewlines cs with
  | case1 => exact .done
  | case2 rest ih => exact .pair ih
  | case3 c rest alone ih =>
      split
      · rename_i isReturn
        subst isReturn
        refine .single ?_ ih
        intro feed
        obtain ⟨others, rfl⟩ := List.head?_eq_some_iff.1 feed
        exact alone others rfl rfl
      · rename_i plain
        exact .other plain ih

theorem unifyNewlines_of_not_mem {cs : List Char} (h : '\r' ∉ cs) : unifyNewlines cs = cs := by
  fun_induction unifyNewlines cs with
  | case1 => rfl
  | case2 rest ih => exact absurd List.mem_cons_self h
  | case3 c rest _ ih =>
      obtain ⟨plain, others⟩ := not_or.1 (mt List.mem_cons.2 h)
      rw [ih others, if_neg (Ne.symm plain)]

end BrokerBootstrap.Text
