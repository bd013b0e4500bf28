import BrokerBootstrap.Mapping
import Mathlib.Data.List.Nodup
import Mathlib.Data.List.Perm.Basic

namespace BrokerBootstrap.Mapping

variable {α : Type} {mapping other : Mapping α} {name : String}

theorem lookup_eq_some_iff {value : α} :
    mapping.lookup name = some value ↔ (name, value) ∈ mapping.pairs := by
  rw [lookup, List.lookup_eq_some_iff]
  constructor
  · rintro ⟨before, after, pairs, -⟩
    rw [pairs]
    exact List.mem_append_right before List.mem_cons_self
  · intro mem
    obtain ⟨before, after, pairs⟩ := List.append_of_mem mem
    refine ⟨before, after, pairs, fun pair earlier => ?_⟩
    have distinct := mapping.distinct
    rw [pairs, List.map_append, List.nodup_append] at distinct
    have different := distinct.2.2 pair.1 (List.mem_map_of_mem earlier) name (by simp)
    simpa using different.symm

theorem value_unique {first second : α} (hf : (name, first) ∈ mapping.pairs)
    (hs : (name, second) ∈ mapping.pairs) : first = second := by
  rw [← lookup_eq_some_iff] at hf hs
  exact Option.some.inj (hf.symm.trans hs)

theorem lookup_congr (same : mapping.pairs.Perm other.pairs) (name : String) :
    other.lookup name = mapping.lookup name := by
  refine Option.ext fun value => ?_
  rw [lookup_eq_some_iff, lookup_eq_some_iff, same.mem_iff]

theorem pairs_insert_of_not_mem (new : name ∉ mapping.names) (value : α) :
    (mapping.insert name value).pairs = mapping.pairs ++ [(name, value)] := by
  rw [insert, dif_neg new]

theorem pairs_foldl_insert {pairs : List (String × α)}
    (distinct : ((mapping.pairs ++ pairs).map Prod.fst).Nodup) :
    (pairs.foldl (fun mapping pair => mapping.insert pair.1 pair.2) mapping).pairs =
      mapping.pairs ++ pairs := by
  induction pairs generalizing mapping with
  | nil => exact (List.append_nil _).symm
  | cons pair rest ih =>
      -- The next name is new, so its value goes to the end.
      have new : pair.1 ∉ mapping.names := by
        rw [List.map_append, List.nodup_append] at distinct
        exact fun mem => distinct.2.2 pair.1 mem pair.1 List.mem_cons_self rfl
      have added := pairs_insert_of_not_mem new pair.2
      rw [← List.singleton_append, ← List.append_assoc, ← added] at distinct
      rw [List.foldl_cons, ih distinct, added, List.append_assoc, List.singleton_append]

theorem pairs_ofList {pairs : List (String × α)} (distinct : (pairs.map Prod.fst).Nodup) :
    (ofList pairs).pairs = pairs :=
  pairs_foldl_insert distinct

end BrokerBootstrap.Mapping
