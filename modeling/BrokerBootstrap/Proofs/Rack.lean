import BrokerBootstrap.Proofs.Mapping
import BrokerBootstrap.Rack
import Mathlib.Data.String.Basic

namespace BrokerBootstrap

namespace Node

variable {node other : Node} {key : String}

theorem label?_eq_some_iff {value : String} :
    node.label? key = some value ↔ (key, some value) ∈ node.labels.pairs := by
  rw [label?, Option.join_eq_some_iff, Mapping.lookup_eq_some_iff]

theorem label?_congr (same : node.labels.pairs.Perm other.labels.pairs) (key : String) :
    other.label? key = node.label? key := by
  rw [label?, label?, Mapping.lookup_congr same]

theorem labelKeys_perm (node : Node) : node.labelKeys.Perm node.labels.names :=
  List.mergeSort_perm _ _

theorem labelKeys_sorted (node : Node) : node.labelKeys.Pairwise (· ≤ ·) := by
  have transitive (a b c : String) (first : decide (a ≤ b) = true)
      (second : decide (b ≤ c) = true) : decide (a ≤ c) = true :=
    decide_eq_true (String.le_trans (of_decide_eq_true first) (of_decide_eq_true second))
  have total (a b : String) : (decide (a ≤ b) || decide (b ≤ a)) = true := by
    simpa using String.le_total a b
  exact (List.pairwise_mergeSort transitive total _).imp of_decide_eq_true

theorem labelKeys_ascending (node : Node) : node.labelKeys.Pairwise (· < ·) := by
  have distinct : node.labelKeys.Nodup := node.labelKeys_perm.symm.nodup node.labels.distinct
  exact (node.labelKeys_sorted.and distinct).imp fun both => lt_of_le_of_ne both.1 both.2

theorem labelKeys_congr (same : node.labels.pairs.Perm other.labels.pairs) :
    other.labelKeys = node.labelKeys := by
  have keys : other.labelKeys.Perm node.labelKeys :=
    other.labelKeys_perm.trans ((same.symm.map Prod.fst).trans node.labelKeys_perm.symm)
  exact keys.eq_of_pairwise (fun _ _ _ _ => le_antisymm) other.labelKeys_sorted
    node.labelKeys_sorted

end Node

namespace Rack

variable {node : Node} {key : String}

theorem resolve_eq_ok {rack : String} :
    resolve node key = .ok rack ↔ node.label? key = some rack := by
  unfold resolve
  cases node.label? key <;> simp

theorem resolve_of_missing (missing : node.label? key = none) :
    resolve node key = .error (.rackLabelMissing node.name key node.labelKeys) := by
  rw [resolve, missing]

theorem resolve_by_labels (node : Node) (key : String) :
    (∀ value, resolve node key = .ok value ↔ (key, some value) ∈ node.labels.pairs) ∧
    ((∀ value, (key, some value) ∉ node.labels.pairs) →
      ∃ failure, resolve node key = .error failure ∧ failure.kind = .rackLabelMissing ∧
        ∃ keys : List String, keys.Perm (node.labels.pairs.map Prod.fst) ∧ keys.Pairwise (· < ·) ∧
          let found := String.intercalate ", " keys
          failure.message = "Node " ++ node.name ++ " doesn't have the label " ++ key ++
            " for getting the rack id " ++
            ("(labels found: " ++ (if found = "" then "none" else found) ++ ")")) ∧
    ∀ other : Node, other.name = node.name → node.labels.pairs.Perm other.labels.pairs →
      resolve other key = resolve node key := by
  refine ⟨?_, ?_, ?_⟩
  · intro value
    rw [resolve_eq_ok, Node.label?_eq_some_iff]
  · intro unvalued
    have missing : node.label? key = none := by
      refine Option.eq_none_iff_forall_ne_some.2 fun value found => ?_
      exact unvalued value (Node.label?_eq_some_iff.1 found)
    exact ⟨_, resolve_of_missing missing, rfl, node.labelKeys, node.labelKeys_perm,
      node.labelKeys_ascending, rfl⟩
  · intro other sameName sameLabels
    rw [resolve, Node.label?_congr sameLabels, Node.labelKeys_congr sameLabels, sameName,
      resolve]

theorem resolve_by_labels_without_value :
    let node : Node := ⟨"n", [("zone", none), ("b", some ""), ("Zone", some " r ")], []⟩
    let moved : Node := ⟨"n", [("b", some ""), ("Zone", some " r "), ("zone", none)], []⟩
    node.labels.pairs.Perm moved.labels.pairs ∧
      resolve node "b" = .ok "" ∧ resolve node "Zone" = .ok " r " ∧
      resolve moved "zone" = resolve node "zone" ∧
      ∃ failure, resolve node "zone" = .error failure ∧ failure.kind = .rackLabelMissing := by
  intro node moved
  have order : node.labels.pairs.Perm moved.labels.pairs := by decide
  have listed : node.labels.pairs = [("zone", none), ("b", some ""), ("Zone", some " r ")] :=
    Mapping.pairs_ofList (by decide)
  have unvalued : ∀ value, ("zone", some value) ∉ node.labels.pairs := by simp [listed]
  obtain ⟨failure, failed, kind, -⟩ := (resolve_by_labels node "zone").2.1 unvalued
  refine ⟨order, ?_, ?_, (resolve_by_labels node "zone").2.2 moved rfl order, failure,
    failed, kind⟩
  · exact ((resolve_by_labels node "b").1 "").2 (by decide)
  · exact ((resolve_by_labels node "Zone").1 " r ").2 (by decide)

end Rack

end BrokerBootstrap
