import BrokerBootstrap.Proofs.LoginConfig.Precedence
import BrokerBootstrap.Proofs.LoginConfig.Text
import BrokerBootstrap.Proofs.Mapping

namespace BrokerBootstrap

namespace Secret

structure Shuffled (first second : Secret) : Prop where
  name : second.name = first.name
  entries : first.entries.pairs.Perm second.entries.pairs

theorem Shuffled.symm {first second : Secret} (h : first.Shuffled second) :
    second.Shuffled first :=
  ⟨h.name.symm, h.entries.symm⟩

end Secret

def Rearranged (first second : List Secret) : Prop :=
  ∃ middle, first.Perm middle ∧ List.Forall₂ Secret.Shuffled middle second

namespace Rearranged

variable {first second : List Secret}

theorem symm (h : Rearranged first second) : Rearranged second first := by
  obtain ⟨middle, order, entries⟩ := h
  obtain ⟨middle', entries', order'⟩ := List.perm_comp_forall₂ order entries
  refine ⟨middle', order'.symm, ?_⟩
  exact (entries'.imp fun _ _ shuffled => shuffled.symm).flip

theorem filter (h : Rearranged first second) (lead : String) :
    Rearranged (first.filter (·.hasPrefix lead)) (second.filter (·.hasPrefix lead)) := by
  obtain ⟨middle, order, entries⟩ := h
  refine ⟨_, order.filter _, List.rel_filter (fun secret other shuffled => ?_) entries⟩
  simp only [Secret.hasPrefix, shuffled.name]

theorem entries (h : Rearranged first second) :
    (first.flatMap (·.entries.pairs)).Perm (second.flatMap (·.entries.pairs)) := by
  obtain ⟨middle, order, entries⟩ := h
  refine (order.flatMap_right _).trans ?_
  clear order
  induction entries with
  | nil => exact .nil
  | cons head _ ih => exact head.entries.append ih

theorem exists_of_singleton {secret : Secret} (h : Rearranged [secret] second) :
    ∃ other, second = [other] ∧ secret.Shuffled other := by
  obtain ⟨middle, order, entries⟩ := h
  rw [List.singleton_perm] at order
  subst order
  cases entries with
  | @cons _ other _ _ head tail =>
      cases tail
      exact ⟨other, rfl, head⟩

end Rearranged

namespace LoginConfig

variable {namespaceName lead : String} {secrets other : List Secret}

theorem build_returns_of_rearranged (h : Rearranged secrets other)
    (returns : ∃ text, (build namespaceName secrets lead).outcome = .ok text) :
    ∃ text, (build namespaceName other lead).outcome = .ok text := by
  rw [build_returns_iff] at returns ⊢
  obtain ⟨admin, only, filled, decoded⟩ := returns
  have admins := h.filter (lead ++ "-admin")
  rw [only] at admins
  obtain ⟨admin', only', shuffled⟩ := admins.exists_of_singleton
  refine ⟨admin', only', ?_, ?_⟩
  · intro empty
    apply filled
    have order := shuffled.entries
    rw [empty] at order
    exact order.eq_nil
  · intro entry mem
    exact decoded entry ((h.filter lead).entries.mem_iff.2 mem)

theorem declares_rightUnique : Relator.RightUnique Declares := by
  rintro entry ⟨name, value⟩ ⟨name', value'⟩ ⟨sameName, decodes⟩ ⟨sameName', decodes'⟩
  cases sameName
  cases sameName'
  exact congrArg (Prod.mk entry.1) (decodes.unique decodes')

theorem CollectedFrom.rearranged {config config' : LoginConfig}
    (h : Rearranged secrets other) (source : config.CollectedFrom secrets lead)
    (source' : config'.CollectedFrom other lead) :
    config'.username = config.username ∧ config'.password = config.password ∧
      config.users.Perm config'.users := by
  obtain ⟨admin, payload, only, mem, least, decodes⟩ := source.own
  obtain ⟨admin', payload', only', mem', least', decodes'⟩ := source'.own
  have admins := h.filter (lead ++ "-admin")
  rw [only, only'] at admins
  obtain ⟨other', same, shuffled⟩ := admins.exists_of_singleton
  cases same
  -- Each of the two own names is the least, and a name has one payload only.
  have moved := shuffled.entries.mem_iff.2 mem'
  have sameUser : config'.username = config.username :=
    String.le_antisymm (least' _ (shuffled.entries.mem_iff.1 mem)) (least _ moved)
  rw [sameUser] at moved
  have samePayload : payload' = payload := Mapping.value_unique moved mem
  refine ⟨sameUser, decodes'.unique (samePayload ▸ decodes), ?_⟩
  exact List.rel_perm_imp declares_rightUnique source.users source'.users (h.filter lead).entries

theorem build_of_elsewhere (wanted : matching lead secrets ≠ []) (elsewhere : String) :
    build elsewhere secrets lead = build namespaceName secrets lead := by
  cases found : findAdmin lead secrets with
  | error cause => rw [build_of_no_admin wanted found, build_of_no_admin wanted found]
  | ok admin => rw [build_of_admin found, build_of_admin found]

theorem build_rearranged {namespaceName lead : String} {secrets : List Secret}
    (wanted : secrets.filter (·.hasPrefix lead) ≠ []) :
    (∀ other, other.filter (·.hasPrefix lead) = secrets.filter (·.hasPrefix lead) →
      build namespaceName other lead = build namespaceName secrets lead) ∧
    (∀ other, Rearranged secrets other →
      ((∃ text, (build namespaceName other lead).outcome = .ok text) ↔
        ∃ text, (build namespaceName secrets lead).outcome = .ok text) ∧
      (∀ text text',
        (build namespaceName secrets lead).outcome = .ok text →
        (build namespaceName other lead).outcome = .ok text' →
        ∃ (config : LoginConfig) (users : List (String × String)),
          config.CollectedFrom secrets lead ∧
          { config with users := users }.CollectedFrom other lead ∧
          text = config.block ∧ text' = { config with users := users }.block ∧
          config.users.Perm users)) ∧
    ∀ elsewhere, build elsewhere secrets lead = build namespaceName secrets lead := by
  refine ⟨?_, ?_, build_of_elsewhere wanted⟩
  · intro other same
    have listed : secrets ≠ [] := by
      rintro rfl
      exact wanted rfl
    have listed' : other ≠ [] := by
      rintro rfl
      exact wanted same.symm
    exact build_congr (iff_of_false listed' listed) same
  · intro other rearranged
    refine ⟨⟨build_returns_of_rearranged rearranged.symm,
      build_returns_of_rearranged rearranged⟩, ?_⟩
    intro text text' built built'
    obtain ⟨config, source, rfl⟩ := exists_collectedFrom built
    obtain ⟨⟨username, password, users⟩, source', rfl⟩ := exists_collectedFrom built'
    obtain ⟨sameName, samePassword, order⟩ := source.rearranged rearranged source'
    cases sameName
    cases samePassword
    exact ⟨config, users, source, source', rfl, rfl, order⟩

theorem build_rearranged_two_orders :
    let admin : Secret := ⟨"fwss-admin", [("b", "Yg=="), ("a", "IHAgCg==")]⟩
    let user : Secret := ⟨"fwss", [("c", "YyI=")]⟩
    let moved :=
      [user, { admin with entries := admin.entries.pairs.reverse }, ⟨"other", [("x", "?")]⟩]
    let text := "KafkaServer \x7b\n" ++
      "  org.apache.kafka.common.security.plain.PlainLoginModule required\n" ++
      "  username=\"a\"\n  password=\"p\"\n  user_b=\"b\"\n  user_a=\"p\"\n  user_c=\"c\"\";\n\x7d;"
    (build "kafka" [admin, ⟨"other", [("x", "?")]⟩, user] "fwss").outcome = .ok text ∧
      build "" [admin, user] "fwss" = build "kafka" [admin, user] "fwss" ∧
      ∃ (text' : String) (config : LoginConfig) (users : List (String × String)),
        (build "kafka" moved "fwss").outcome = .ok text' ∧ text = config.block ∧
        text' = { config with users := users }.block ∧ config.users.Perm users := by
  intro admin user moved text
  have wanted : [admin, user].filter (·.hasPrefix "fwss") ≠ [] := by decide
  have built : (build "kafka" [admin, user] "fwss").outcome = .ok text := by decide +kernel
  have wider : [admin, ⟨"other", [("x", "?")]⟩, user].filter (·.hasPrefix "fwss") ≠ [] := by decide
  have apart : [admin, user].filter (·.hasPrefix "fwss") =
      [admin, ⟨"other", [("x", "?")]⟩, user].filter (·.hasPrefix "fwss") := by decide
  have order : Rearranged [admin, ⟨"other", [("x", "?")]⟩, user] moved := by
    refine ⟨[user, admin, ⟨"other", [("x", "?")]⟩], by decide, .cons ?_ (.cons ?_ (.cons ?_ .nil))⟩
    · exact ⟨rfl, .refl _⟩
    · exact ⟨rfl, by decide⟩
    · exact ⟨rfl, .refl _⟩
  obtain ⟨unwanted, reordered, -⟩ := @build_rearranged "kafka" _ _ wider
  rw [unwanted _ apart] at built
  obtain ⟨returns, related⟩ := reordered moved order
  obtain ⟨text', built'⟩ := returns.2 ⟨text, built⟩
  obtain ⟨config, users, -, -, same, same', permuted⟩ :=
    related text text' built built'
  exact ⟨built, (build_rearranged wanted).2.2 "", text', config, users, built', same, same',
    permuted⟩

end LoginConfig

end BrokerBootstrap
