import BrokerBootstrap.LoginConfig
import BrokerBootstrap.Proofs.Computations
import Mathlib.Data.List.Forall2

namespace BrokerBootstrap

namespace Secret

theorem smallestFrom_mem (first : String × String) (rest : List (String × String)) :
    smallestFrom first rest ∈ first :: rest := by
  induction rest generalizing first with
  | nil => exact List.mem_cons_self
  | cons next rest ih =>
      rw [smallestFrom]
      rcases List.mem_cons.1 (ih (if next.1 < first.1 then next else first)) with found | later
      · rw [found]
        split <;> simp
      · exact List.mem_cons_of_mem _ (List.mem_cons_of_mem _ later)

theorem smallestFrom_le (first : String × String) (rest : List (String × String)) :
    ∀ entry ∈ first :: rest, (smallestFrom first rest).1 ≤ entry.1 := by
  induction rest generalizing first with
  | nil => simp [smallestFrom]
  | cons next rest ih =>
      intro entry mem
      rw [smallestFrom]
      have least := ih (if next.1 < first.1 then next else first)
      have head := least _ List.mem_cons_self
      rcases List.mem_cons.1 mem with rfl | mem
      · refine String.le_trans head ?_
        split
        · rename_i before
          exact Std.le_of_lt before
        · exact String.le_refl _
      · rcases List.mem_cons.1 mem with rfl | mem
        · refine String.le_trans head ?_
          split
          · exact String.le_refl _
          · rename_i after
            exact String.not_lt.1 after
        · exact least _ (List.mem_cons_of_mem _ mem)

theorem smallest?_eq_some {secret : Secret} {own : String × String}
    (h : secret.smallest? = some own) :
    own ∈ secret.entries.pairs ∧ ∀ entry ∈ secret.entries.pairs, own.1 ≤ entry.1 := by
  unfold smallest? at h
  split at h
  · cases h
  · rename_i first rest entries
    cases h
    rw [entries]
    exact ⟨smallestFrom_mem first rest, smallestFrom_le first rest⟩

theorem hasPrefix_append {secret : Secret} {lead suffix : String}
    (h : secret.hasPrefix (lead ++ suffix) = true) : secret.hasPrefix lead = true := by
  rw [hasPrefix_iff, String.toList_append] at h
  exact hasPrefix_iff.2 ((List.prefix_append _ _).trans h)

end Secret

namespace LoginConfig

def Decodes (payload value : String) : Prop :=
  ∃ octets text, Base64.decode payload.toList = .ok octets ∧ Utf8.decode octets = .ok text ∧
    value = Text.strip text

def Declares (entry user : String × String) : Prop :=
  user.1 = entry.1 ∧ Decodes entry.2 user.2

theorem Decodes.unique {payload first second : String} (hf : Decodes payload first)
    (hs : Decodes payload second) : first = second := by
  obtain ⟨octets, text, decoded, read, rfl⟩ := hf
  obtain ⟨octets', text', decoded', read', rfl⟩ := hs
  rw [decoded, Except.ok.injEq] at decoded'
  subst decoded'
  rw [read, Except.ok.injEq] at read'
  rw [read']

theorem decodePayload_eq_ok_iff {secret entry payload value : String} :
    decodePayload secret entry payload = .ok value ↔ Decodes payload value := by
  unfold decodePayload Decodes
  cases Base64.decode payload.toList with
  | error cause => cases cause <;> simp
  | ok octets =>
      cases read : Utf8.decode octets with
      | error cause => simp [read]
      | ok text => simp [read, eq_comm]

theorem decodeEntries_eq_ok {secret : String} {entries users : List (String × String)}
    (h : decodeEntries secret entries = .ok users) : List.Forall₂ Declares entries users := by
  induction entries generalizing users with
  | nil =>
      cases h
      exact .nil
  | cons entry rest ih =>
      obtain ⟨name, payload⟩ := entry
      rw [decodeEntries, bind_eq_ok] at h
      obtain ⟨value, decoded, h⟩ := h
      obtain ⟨users', others, h⟩ := bind_eq_ok.1 h
      cases h
      exact .cons ⟨rfl, decodePayload_eq_ok_iff.1 decoded⟩ (ih others)

theorem decodeSecrets_eq_ok {secrets : List Secret} {users : List (String × String)}
    (h : decodeSecrets secrets = .ok users) :
    List.Forall₂ Declares (secrets.flatMap (·.entries.pairs)) users := by
  induction secrets generalizing users with
  | nil =>
      cases h
      exact .nil
  | cons secret rest ih =>
      rw [decodeSecrets, bind_eq_ok] at h
      obtain ⟨users', own, h⟩ := h
      obtain ⟨users'', others, h⟩ := bind_eq_ok.1 h
      cases h
      exact List.rel_append (decodeEntries_eq_ok own) (ih others)

theorem findAdmin_eq_ok {lead : String} {secrets : List Secret} {admin : Admin}
    (h : findAdmin lead secrets = .ok admin) :
    secrets.filter (·.hasPrefix (lead ++ "-admin")) = [admin.secret] ∧
      admin.secret.smallest? = some admin.own := by
  unfold findAdmin at h
  split at h
  · cases h
  · rename_i secret found
    split at h
    · cases h
    · rename_i own smallest
      cases h
      exact ⟨found, smallest⟩
  · cases h

theorem mem_filter_of_admin {lead : String} {secrets : List Secret} {admin : Secret}
    (only : secrets.filter (·.hasPrefix (lead ++ "-admin")) = [admin]) :
    admin ∈ secrets.filter (·.hasPrefix lead) := by
  have listed : admin ∈ secrets.filter (·.hasPrefix (lead ++ "-admin")) := by simp [only]
  rw [List.mem_filter] at listed
  exact List.mem_filter.2 ⟨listed.1, Secret.hasPrefix_append listed.2⟩

structure CollectedFrom (config : LoginConfig) (secrets : List Secret) (lead : String) :
    Prop where
  own : ∃ admin payload, secrets.filter (·.hasPrefix (lead ++ "-admin")) = [admin] ∧
    (config.username, payload) ∈ admin.entries.pairs ∧
    (∀ entry ∈ admin.entries.pairs, config.username ≤ entry.1) ∧ Decodes payload config.password
  users : List.Forall₂ Declares ((secrets.filter (·.hasPrefix lead)).flatMap (·.entries.pairs))
    config.users

theorem collect_outcome_eq_ok {namespaceName lead : String} {secrets : List Secret}
    {config : LoginConfig} (h : (collect namespaceName secrets lead).outcome = .ok config) :
    config.CollectedFrom secrets lead := by
  unfold collect at h
  split at h
  · cases h
  · split at h
    · cases h
    · cases found : findAdmin lead secrets with
      | error failure => simp [found, Traced.fail] at h
      | ok admin =>
          obtain ⟨only, smallest⟩ := findAdmin_eq_ok found
          obtain ⟨mem, least⟩ := Secret.smallest?_eq_some smallest
          simp only [found, decodeAll] at h
          obtain ⟨password, decoded, h⟩ := bind_eq_ok.1 h
          obtain ⟨users, declared, h⟩ := bind_eq_ok.1 h
          cases h
          exact ⟨⟨admin.secret, admin.own.2, only, mem, least,
            decodePayload_eq_ok_iff.1 decoded⟩, decodeSecrets_eq_ok declared⟩

theorem exists_related_of_mem {α β : Type} {R : α → β → Prop} {as : List α} {bs : List β} {a : α}
    (h : List.Forall₂ R as bs) (mem : a ∈ as) : ∃ b ∈ bs, R a b := by
  induction h with
  | nil => cases mem
  | cons related _ ih =>
      rcases List.mem_cons.1 mem with rfl | later
      · exact ⟨_, List.mem_cons_self, related⟩
      · obtain ⟨b, found, related⟩ := ih later
        exact ⟨b, List.mem_cons_of_mem _ found, related⟩

theorem CollectedFrom.own_mem_users {config : LoginConfig} {secrets : List Secret}
    {lead : String} (h : config.CollectedFrom secrets lead) :
    (config.username, config.password) ∈ config.users := by
  obtain ⟨admin, payload, only, mem, -, decodes⟩ := h.own
  have wanted := mem_filter_of_admin only
  obtain ⟨⟨name, value⟩, found, sameName, sameValue⟩ :=
    exists_related_of_mem h.users (List.mem_flatMap.2 ⟨admin, wanted, mem⟩)
  cases sameName
  rwa [decodes.unique sameValue]

end LoginConfig

end BrokerBootstrap
