import BrokerBootstrap.Proofs.LoginConfig.Collect
import BrokerBootstrap.Proofs.SideBySide

namespace BrokerBootstrap

/-- Two entries of one name, whose payloads are the same or both encode a value. -/
def AlikeEntry (first second : String × String) : Prop :=
  first.1 = second.1 ∧ (first.2 = second.2 ∨
    (∃ value, LoginConfig.Decodes first.2 value) ∧ ∃ value, LoginConfig.Decodes second.2 value)

structure Secret.Alike (first second : Secret) : Prop where
  name : first.name = second.name
  entries : List.Forall₂ AlikeEntry first.entries.pairs second.entries.pairs

namespace Secret

theorem smallestFrom_alike {first second : String × String} {rest others : List (String × String)}
    (head : AlikeEntry first second) (tail : List.Forall₂ AlikeEntry rest others) :
    AlikeEntry (smallestFrom first rest) (smallestFrom second others) := by
  induction tail generalizing first second with
  | nil => exact head
  | @cons next next' rest others sameNext _ ih =>
      rw [smallestFrom, smallestFrom, ← head.1, ← sameNext.1]
      split
      · exact ih sameNext
      · exact ih head

theorem smallest?_alike {first second : Secret} (h : first.Alike second) :
    Option.Rel AlikeEntry first.smallest? second.smallest? := by
  have entries := h.entries
  unfold smallest?
  generalize first.entries.pairs = pairs at entries ⊢
  generalize second.entries.pairs = pairs' at entries ⊢
  cases entries with
  | nil => exact .none
  | cons head tail => exact .some (smallestFrom_alike head tail)

end Secret

namespace LoginConfig

theorem decodePayload_alike (secret : String) {first second : String × String}
    (h : AlikeEntry first second) :
    Alike (fun _ _ => True) (decodePayload secret first.1 first.2)
      (decodePayload secret second.1 second.2) := by
  obtain ⟨sameName, same | ⟨⟨value, decodes⟩, value', decodes'⟩⟩ := h
  · rw [sameName, same]
    cases decodePayload secret second.1 second.2 with
    | ok value => exact .ok trivial
    | error problem => exact .error problem
  · rw [decodePayload_eq_ok_iff.2 decodes, decodePayload_eq_ok_iff.2 decodes']
    exact .ok trivial

theorem decodeEntries_alike (secret : String) {first second : List (String × String)}
    (h : List.Forall₂ AlikeEntry first second) :
    Alike (fun _ _ => True) (decodeEntries secret first) (decodeEntries secret second) := by
  induction h with
  | nil => exact .ok trivial
  | cons head _ ih =>
      rw [decodeEntries, decodeEntries]
      exact (decodePayload_alike secret head).bind fun _ _ _ => ih.bind fun _ _ _ => .ok trivial

theorem decodeSecrets_alike {first second : List Secret}
    (h : List.Forall₂ Secret.Alike first second) :
    Alike (fun _ _ => True) (decodeSecrets first) (decodeSecrets second) := by
  induction h with
  | nil => exact .ok trivial
  | cons head _ ih =>
      rw [decodeSecrets, decodeSecrets, head.name]
      exact (decodeEntries_alike _ head.entries).bind fun _ _ _ =>
        ih.bind fun _ _ _ => .ok trivial

theorem matching_alike (lead : String) {first second : List Secret}
    (h : List.Forall₂ Secret.Alike first second) :
    List.Forall₂ Secret.Alike (matching lead first) (matching lead second) := by
  refine List.rel_filter (fun _ _ same => ?_) h
  simp only [Secret.hasPrefix, same.name]

theorem names_alike {first second : List Secret} (h : List.Forall₂ Secret.Alike first second) :
    first.map (·.name) = second.map (·.name) := by
  induction h with
  | nil => rfl
  | cons head _ ih => rw [List.map_cons, List.map_cons, head.name, ih]

theorem isEmpty_alike {first second : List Secret} (h : List.Forall₂ Secret.Alike first second) :
    first.isEmpty = second.isEmpty := by
  cases h with
  | nil => rfl
  | cons => rfl

theorem findAdmin_alike (lead : String) {first second : List Secret}
    (h : List.Forall₂ Secret.Alike first second) :
    Alike (fun admin other => admin.secret.Alike other.secret ∧ AlikeEntry admin.own other.own)
      (findAdmin lead first) (findAdmin lead second) := by
  have found := matching_alike (adminPrefix lead) h
  unfold findAdmin
  generalize matching (adminPrefix lead) first = secrets at found ⊢
  generalize matching (adminPrefix lead) second = others at found ⊢
  cases found with
  | nil => exact .error _
  | @cons secret other _ _ head tail =>
      cases tail with
      | nil =>
          have smallest := Secret.smallest?_alike head
          dsimp only
          generalize Secret.smallest? secret = own at smallest ⊢
          generalize Secret.smallest? other = own' at smallest ⊢
          cases smallest with
          | none =>
              rw [head.name]
              exact .error _
          | some own => exact .ok ⟨head, own⟩
      | cons next rest =>
          have names := names_alike (.cons head (.cons next rest))
          dsimp only
          rw [names]
          exact .error _

theorem announcement_alike {admin other : Admin} (secrets : admin.secret.Alike other.secret)
    (own : AlikeEntry admin.own other.own) : admin.announcement = other.announcement := by
  simp only [Admin.announcement, secrets.name, secrets.entries.length_eq, own.1]

theorem decodeAll_alike {admin other : Admin} {first second : List Secret}
    (own : AlikeEntry admin.own other.own) (name : admin.secret.name = other.secret.name)
    (h : List.Forall₂ Secret.Alike first second) :
    Alike (fun _ _ => True) (decodeAll admin first) (decodeAll other second) := by
  unfold decodeAll
  rw [name]
  exact (decodePayload_alike _ own).bind fun _ _ _ =>
    (decodeSecrets_alike h).bind fun _ _ _ => .ok trivial

theorem collect_alike (namespaceName lead : String) {first second : List Secret}
    (h : List.Forall₂ Secret.Alike first second) :
    Traced.Alike (fun _ _ => True) (collect namespaceName first lead)
      (collect namespaceName second lead) := by
  have declared := matching_alike lead h
  have admins := findAdmin_alike lead h
  unfold collect
  rw [isEmpty_alike h, isEmpty_alike declared]
  split
  · exact .fail _
  · split
    · exact .fail _
    · generalize findAdmin lead first = found at admins ⊢
      generalize findAdmin lead second = found' at admins ⊢
      cases admins with
      | error failure => exact .fail failure
      | ok same =>
          exact ⟨announcement_alike same.1 same.2, decodeAll_alike same.2 same.1.name declared⟩

theorem build_alike (namespaceName lead : String) {first second : List Secret}
    (h : List.Forall₂ Secret.Alike first second) :
    Traced.Alike (fun _ _ => True) (build namespaceName first lead)
      (build namespaceName second lead) :=
  (collect_alike namespaceName lead h).bind fun _ _ _ => .pure trivial

end LoginConfig

end BrokerBootstrap
