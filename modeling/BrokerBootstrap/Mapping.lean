
namespace BrokerBootstrap

structure Mapping (α : Type) where
  pairs : List (String × α)
  distinct : (pairs.map Prod.fst).Nodup
  deriving DecidableEq, Repr

namespace Mapping

variable {α : Type}

instance : EmptyCollection (Mapping α) := ⟨⟨[], .nil⟩⟩

instance : Coe (Mapping α) (List (String × α)) := ⟨pairs⟩

def names (mapping : Mapping α) : List String := mapping.pairs.map Prod.fst

def lookup (mapping : Mapping α) (name : String) : Option α := mapping.pairs.lookup name

/-- A name that has a value already keeps its place. -/
def insert (mapping : Mapping α) (name : String) (value : α) : Mapping α :=
  if held : name ∈ mapping.names then
    { pairs := mapping.pairs.map fun pair => if pair.1 = name then (name, value) else pair
      distinct := by
        have sameNames : (Prod.fst ∘ fun pair : String × α =>
            if pair.1 = name then (name, value) else pair) = Prod.fst := by
          funext pair
          dsimp only [Function.comp_apply]
          split
          · rename_i found
            exact found.symm
          · rfl
        rw [List.map_map, sameNames]
        exact mapping.distinct }
  else
    { pairs := mapping.pairs ++ [(name, value)]
      distinct := by
        rw [List.map_append, List.nodup_append]
        refine ⟨mapping.distinct, List.pairwise_singleton _ _, ?_⟩
        rintro other mem _ last rfl
        cases List.mem_singleton.1 last
        exact held mem }

def ofList (pairs : List (String × α)) : Mapping α :=
  pairs.foldl (fun mapping pair => mapping.insert pair.1 pair.2) ∅

instance : Coe (List (String × α)) (Mapping α) := ⟨ofList⟩

end Mapping

end BrokerBootstrap
