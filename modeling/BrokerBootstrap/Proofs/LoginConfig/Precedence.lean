import BrokerBootstrap.Proofs.LoginConfig.DecodingOrder

/-!
# What decides a login configuration

Before any payload is decoded the names of the secrets are looked at, and the first lack that is
found decides (`build_decided`). Once there is an admin secret with an entry, the first payload
that encodes no value decides, and a configuration is built if there is none (`FirstDecides`).
Secrets without the wanted prefix play no part in any of this (`build_congr`).
-/

namespace BrokerBootstrap.LoginConfig

variable {namespaceName lead : String} {secrets : List Secret} {admin : Admin}

/-- The admin secret is looked for among all secrets, but only those with the wanted prefix can be
it. -/
theorem matching_adminPrefix (lead : String) (secrets : List Secret) :
    matching (adminPrefix lead) secrets = matching (adminPrefix lead) (matching lead secrets) := by
  unfold matching
  rw [List.filter_filter]
  apply List.filter_congr
  intro secret _
  have wider : secret.hasPrefix (adminPrefix lead) = true → secret.hasPrefix lead = true :=
    Secret.hasPrefix_append
  cases h : secret.hasPrefix (adminPrefix lead) with
  | false => rfl
  | true => rw [wider h, Bool.and_self]

theorem findAdmin_congr {other : List Secret} (same : matching lead other = matching lead secrets) :
    findAdmin lead other = findAdmin lead secrets := by
  unfold findAdmin
  rw [matching_adminPrefix lead other, matching_adminPrefix lead secrets, same]

theorem build_congr {other : List Secret} (empty : other = [] ↔ secrets = [])
    (same : matching lead other = matching lead secrets) :
    build namespaceName other lead = build namespaceName secrets lead := by
  have sameCheck : other.isEmpty = secrets.isEmpty := by
    rw [Bool.eq_iff_iff, List.isEmpty_iff, List.isEmpty_iff]
    exact empty
  unfold build collect
  rw [sameCheck, same, findAdmin_congr same]

theorem matching_of_forall₂ {other : List Secret}
    (h : List.Forall₂ (fun secret secret' => secret'.name = secret.name ∧
      (secret.hasPrefix lead = true → secret' = secret)) secrets other) :
    matching lead other = matching lead secrets := by
  induction h with
  | nil => rfl
  | @cons secret secret' rest others head _ ih =>
      unfold matching at ih ⊢
      have sameName : secret'.hasPrefix lead = secret.hasPrefix lead := by
        rw [Secret.hasPrefix, Secret.hasPrefix, head.1]
      cases wanted : secret.hasPrefix lead with
      | false => simp [sameName, wanted, ih]
      | true =>
          rw [head.2 wanted]
          simp [wanted, ih]

theorem findAdmin_of_none (h : matching (adminPrefix lead) secrets = []) :
    findAdmin lead secrets = .error (.adminMissing (adminPrefix lead)) := by
  simp only [findAdmin, h]

theorem findAdmin_of_several (h : 2 ≤ (matching (adminPrefix lead) secrets).length) :
    findAdmin lead secrets = .error (.adminAmbiguous (adminPrefix lead)
      ((matching (adminPrefix lead) secrets).map (·.name))) := by
  unfold findAdmin
  split
  · rename_i none
    rw [none] at h
    cases h
  · rename_i secret only
    rw [only] at h
    cases h with
    | step impossible => cases impossible
  · rfl

theorem findAdmin_of_empty {secret : Secret} (only : matching (adminPrefix lead) secrets = [secret])
    (empty : secret.entries.pairs = []) :
    findAdmin lead secrets = .error (.adminEmpty secret.name) := by
  simp only [findAdmin, only, Secret.smallest?_eq_none_iff.2 empty]

theorem exists_findAdmin {secret : Secret} (only : matching (adminPrefix lead) secrets = [secret])
    (filled : secret.entries.pairs ≠ []) :
    ∃ own, secret.smallest? = some own ∧ findAdmin lead secrets = .ok ⟨secret, own⟩ := by
  cases smallest : secret.smallest? with
  | none => exact absurd (Secret.smallest?_eq_none_iff.1 smallest) filled
  | some own => exact ⟨own, rfl, by simp only [findAdmin, only, smallest]⟩

theorem build_of_no_match (listed : secrets ≠ []) (unwanted : matching lead secrets = []) :
    build namespaceName secrets lead = .fail (.noMatchingCredentials namespaceName lead) := by
  unfold build collect
  rw [if_neg (by simpa using listed), unwanted]
  rfl

theorem build_of_no_admin {cause : Failure} (wanted : matching lead secrets ≠ [])
    (h : findAdmin lead secrets = .error cause) :
    build namespaceName secrets lead = .fail cause := by
  have listed : secrets ≠ [] := by
    rintro rfl
    exact wanted rfl
  unfold build collect
  rw [if_neg (by simpa using listed), if_neg (by simpa using wanted), h]
  rfl

theorem build_of_admin (h : findAdmin lead secrets = .ok admin) :
    build namespaceName secrets lead =
      ⟨admin.announcement, (decodeAll admin (matching lead secrets)).map render⟩ := by
  unfold build
  rw [collect_of_admin h]
  cases decoded : decodeAll admin (matching lead secrets) with
  | error problem => rfl
  | ok config =>
      rw [Traced.bind_of_ok rfl, Traced.pure_eq, List.append_nil]
      rfl

theorem firstProblem?_eq_none_iff {order : List Declaration} :
    firstProblem? order = none ↔
      ∀ declaration ∈ order, ∃ value, Decodes declaration.payload value := by
  simp only [firstProblem?, List.findSome?_eq_none_iff, Declaration.problem?_eq_none_iff]

theorem firstProblem?_of_split {before after : List Declaration} {declaration : Declaration}
    {problem : Problem}
    (decoded : ∀ earlier ∈ before, ∃ value, Decodes earlier.payload value)
    (foreign : decodePayload declaration.secret declaration.entry declaration.payload =
      .error problem) :
    firstProblem? (before ++ declaration :: after) = some problem := by
  have earlier : before.findSome? (·.problem?) = none := firstProblem?_eq_none_iff.2 decoded
  have first : declaration.problem? = some problem := Declaration.problem?_eq_some_iff.2 foreign
  rw [firstProblem?, List.findSome?_append, earlier, List.findSome?_cons, first]
  rfl

theorem decodePayload_eq_error {secret entry payload : String} {problem : Problem}
    (h : decodePayload secret entry payload = .error problem) :
    problem = .fault .nonAsciiPayload ∨
      ∃ cause, problem = .failure (.undecodable secret entry cause) := by
  unfold decodePayload at h
  split at h
  · exact .inl (Except.error.inj h).symm
  · exact .inr ⟨_, (Except.error.inj h).symm⟩
  · split at h
    · exact .inr ⟨_, (Except.error.inj h).symm⟩
    · cases h

theorem isSome_decodePayload_iff {payload : String} :
    (decodePayload "" "" payload).toOption.isSome ↔ ∃ value, Decodes payload value := by
  simp only [← @decodePayload_eq_ok_iff "" "" payload]
  cases decodePayload "" "" payload <;> simp [Except.toOption]

instance (payload : String) : Decidable (∃ value, Decodes payload value) :=
  decidable_of_iff _ isSome_decodePayload_iff

/-- The first payload that encodes no value decides. If there is none, the outcome is a value. -/
structure FirstDecides {α : Type} (outcome : Except Problem α) (order : List Declaration) :
    Prop where
  returns : (∃ a, outcome = .ok a) ↔
    ∀ declaration ∈ order, ∃ value, Decodes declaration.payload value
  fault : ∀ before declaration after, order = before ++ declaration :: after →
    (∀ earlier ∈ before, ∃ value, Decodes earlier.payload value) →
    (∃ c ∈ declaration.payload.toList, 0x80 ≤ c.toNat) →
    outcome = .error (.fault .nonAsciiPayload)
  failure : ∀ before declaration after, order = before ++ declaration :: after →
    (∀ earlier ∈ before, ∃ value, Decodes earlier.payload value) →
    (∀ c ∈ declaration.payload.toList, c.toNat < 0x80) →
    (¬ ∃ value, Decodes declaration.payload value) →
    ∃ cause, outcome = .error (.failure
      (.undecodable declaration.secret declaration.entry cause))

theorem decodeAll_firstDecides (admin : Admin) (declared : List Secret) :
    FirstDecides (decodeAll admin declared) (decodingOrder admin declared) where
  returns := by
    rw [← firstProblem?_eq_none_iff]
    cases decoded : decodeAll admin declared with
    | error problem => simp [decodeAll_eq_error_iff.1 decoded]
    | ok config =>
        cases first : firstProblem? (decodingOrder admin declared) with
        | none => simp
        | some problem =>
            rw [decodeAll_eq_error_iff.2 first] at decoded
            cases decoded
  fault := by
    intro before declaration after order decoded foreign
    obtain ⟨fault, faulty⟩ := decodePayload_faults_iff.2 foreign
    rw [decodeAll_eq_error_iff, order, firstProblem?_of_split decoded faulty]
    rcases decodePayload_eq_error faulty with same | ⟨cause, different⟩
    · rw [same]
    · cases different
  failure := by
    intro before declaration after order decoded ascii undecodable
    cases ending : decodePayload declaration.secret declaration.entry declaration.payload with
    | ok value => exact absurd ⟨value, decodePayload_eq_ok_iff.1 ending⟩ undecodable
    | error problem =>
        rcases decodePayload_eq_error ending with rfl | ⟨cause, rfl⟩
        · obtain ⟨c, mem, high⟩ := decodePayload_faults_iff.1 ⟨_, ending⟩
          exact absurd (ascii c mem) (Nat.not_lt.2 high)
        · refine ⟨cause, ?_⟩
          rw [decodeAll_eq_error_iff, order, firstProblem?_of_split decoded ending]

theorem FirstDecides.map {α β : Type} {outcome : Except Problem α} {order : List Declaration}
    (h : FirstDecides outcome order) (f : α → β) : FirstDecides (outcome.map f) order where
  returns := by
    rw [← h.returns]
    cases outcome <;> simp [Except.map]
  fault := by
    intro before declaration after split decoded foreign
    rw [h.fault before declaration after split decoded foreign]
    rfl
  failure := by
    intro before declaration after split decoded ascii undecodable
    obtain ⟨cause, failed⟩ := h.failure before declaration after split decoded ascii undecodable
    rw [failed]
    exact ⟨cause, rfl⟩

theorem announcement_eq (admin : Admin) :
    admin.announcement =
      if 2 ≤ admin.secret.entries.pairs.length then
        [.message .warning [.plain ("Admin secret " ++ admin.secret.name ++ " has " ++
          toString admin.secret.entries.pairs.length ++ " entries, using "),
          .highlighted admin.own.1]]
      else [] :=
  rfl

theorem exists_entry_of_mem_declarations {declared : List Secret} {declaration : Declaration}
    (h : declaration ∈ declarations declared) :
    ∃ entry ∈ declared.flatMap (·.entries.pairs), entry.2 = declaration.payload := by
  obtain ⟨secret, listed, own⟩ := List.mem_flatMap.1 h
  obtain ⟨entry, mem, rfl⟩ := List.mem_map.1 own
  exact ⟨entry, List.mem_flatMap.2 ⟨secret, listed, mem⟩, rfl⟩

theorem build_returns_iff :
    (∃ text, (build namespaceName secrets lead).outcome = .ok text) ↔
      ∃ admin, secrets.filter (·.hasPrefix (lead ++ "-admin")) = [admin] ∧
        admin.entries.pairs ≠ [] ∧
        ∀ entry ∈ (secrets.filter (·.hasPrefix lead)).flatMap (·.entries.pairs),
          ∃ value, Decodes entry.2 value := by
  constructor
  · rintro ⟨text, returns⟩
    obtain ⟨config, collected, -⟩ := Traced.bind_outcome_eq_ok.1 returns
    have source := collect_outcome_eq_ok collected
    obtain ⟨admin, payload, only, mem, -⟩ := source.own
    refine ⟨admin, only, List.ne_nil_of_mem mem, ?_⟩
    intro entry listed
    obtain ⟨user, -, -, decodes⟩ := exists_related_of_mem source.users listed
    exact ⟨user.2, decodes⟩
  · rintro ⟨admin, only, filled, decoded⟩
    obtain ⟨own, smallest, found⟩ := exists_findAdmin only filled
    -- The admin secret has the wanted prefix too, so its own user is one of the users.
    have wanted : admin ∈ matching lead secrets := mem_filter_of_admin only
    have mem : own ∈ (matching lead secrets).flatMap (·.entries.pairs) :=
      List.mem_flatMap.2 ⟨admin, wanted, (Secret.smallest?_eq_some smallest).1⟩
    rw [build_of_admin found]
    apply ((decodeAll_firstDecides ⟨admin, own⟩ (matching lead secrets)).map render).returns.2
    rw [decodingOrder, List.forall_mem_cons]
    refine ⟨decoded own mem, fun declaration declares => ?_⟩
    obtain ⟨entry, listed, same⟩ := exists_entry_of_mem_declarations declares
    exact same ▸ decoded entry listed

theorem build_decided (namespaceName : String) (secrets : List Secret) (lead : String) :
    let built := build namespaceName secrets lead
    let declaring := secrets.filter (·.hasPrefix lead)
    let admins := secrets.filter (·.hasPrefix (lead ++ "-admin"))
    (secrets = [] → built = .fail (.noCredentials namespaceName)) ∧
    (secrets ≠ [] → declaring = [] → built = .fail (.noMatchingCredentials namespaceName lead)) ∧
    (declaring ≠ [] → admins = [] → built = .fail (.adminMissing (lead ++ "-admin"))) ∧
    (2 ≤ admins.length → ∃ failure, built = .fail failure ∧ failure.kind = .adminAmbiguous ∧
      failure.message = "More than one admin secret starting with '" ++ (lead ++ "-admin") ++
        "' found: " ++ String.intercalate ", " (admins.map (·.name))) ∧
    (∀ admin, admins = [admin] → admin.entries.pairs = [] →
      built = .fail (.adminEmpty admin.name)) ∧
    (∀ admin, admins = [admin] → admin.entries.pairs ≠ [] →
      ∃ own ∈ admin.entries.pairs, (∀ entry ∈ admin.entries.pairs, own.1 ≤ entry.1) ∧
        built.events = (if 2 ≤ admin.entries.pairs.length then
          [.message .warning [.plain ("Admin secret " ++ admin.name ++ " has " ++
            toString admin.entries.pairs.length ++ " entries, using "), .highlighted own.1]]
          else []) ∧
        FirstDecides built.outcome
          (⟨admin.name, own.1, own.2⟩ :: declarations declaring)) ∧
    (∀ other, List.Forall₂ (fun secret secret' => secret'.name = secret.name ∧
      (secret.hasPrefix lead = true → secret' = secret)) secrets other →
      build namespaceName other lead = built) := by
  intro built declaring admins
  -- Where there is an admin secret, the check for the wanted prefix has been passed.
  have wanted (found : admins ≠ []) : declaring ≠ [] := by
    intro unwanted
    apply found
    show matching (adminPrefix lead) secrets = []
    rw [matching_adminPrefix]
    exact congrArg (matching (adminPrefix lead)) unwanted
  refine ⟨?_, ?_, ?_, ?_, ?_, ?_, ?_⟩
  · rintro rfl
    rfl
  · exact build_of_no_match
  · intro found missing
    exact build_of_no_admin found (findAdmin_of_none missing)
  · intro several
    have found : admins ≠ [] := List.ne_nil_of_length_pos (Nat.lt_of_succ_lt several)
    exact ⟨_, build_of_no_admin (wanted found) (findAdmin_of_several several), rfl, rfl⟩
  · intro admin only empty
    have found : admins ≠ [] := only ▸ List.cons_ne_nil admin []
    exact build_of_no_admin (wanted found) (findAdmin_of_empty only empty)
  · intro admin only filled
    obtain ⟨own, smallest, found⟩ := exists_findAdmin only filled
    obtain ⟨mem, least⟩ := Secret.smallest?_eq_some smallest
    have reached := @build_of_admin namespaceName _ _ _ found
    refine ⟨own, mem, least, ?_, ?_⟩
    · show (build namespaceName secrets lead).events = _
      rw [reached]
      exact announcement_eq ⟨admin, own⟩
    · show FirstDecides (build namespaceName secrets lead).outcome _
      rw [reached]
      exact (decodeAll_firstDecides ⟨admin, own⟩ (matching lead secrets)).map render
  · intro other alike
    apply build_congr
    · rw [← List.length_eq_zero_iff, ← List.length_eq_zero_iff, alike.length_eq]
    · exact matching_of_forall₂ alike

/-- The choice of the admin entry is announced although a later payload ends the decoding. -/
theorem build_decided_by_second_user :
    let secrets : List Secret := [⟨"fwss-admin", [("b", "Yg=="), ("a", "cA==")]⟩,
      ⟨"other", [("x", "?")]⟩, ⟨"fwss", [("c", "Yw=="), ("d", "?"), ("e", "\u00e9")]⟩]
    let built := build "kafka" secrets "fwss"
    built.events = [.message .warning
      [.plain "Admin secret fwss-admin has 2 entries, using ", .highlighted "a"]] ∧
    ∃ cause, built.outcome = .error (.failure (.undecodable "fwss" "d" cause)) := by
  intro secrets built
  obtain ⟨-, -, -, -, -, single, -⟩ := build_decided "kafka" secrets "fwss"
  let admin : Secret := ⟨"fwss-admin", [("b", "Yg=="), ("a", "cA==")]⟩
  have only : secrets.filter (·.hasPrefix ("fwss" ++ "-admin")) = [admin] := by decide
  have wanted : secrets.filter (·.hasPrefix "fwss") =
      [admin, ⟨"fwss", [("c", "Yw=="), ("d", "?"), ("e", "\u00e9")]⟩] := by decide
  obtain ⟨own, mem, least, announced, decides⟩ := single admin only (List.cons_ne_nil _ _)
  have smallest : own = ("a", "cA==") := by
    rcases List.mem_pair.1 mem with rfl | rfl
    · exact absurd (least ("a", "cA==") (by decide)) (by decide)
    · rfl
  subst smallest
  refine ⟨announced.trans (by decide +kernel), ?_⟩
  rw [wanted] at decides
  apply decides.failure [⟨"fwss-admin", "a", "cA=="⟩, ⟨"fwss-admin", "b", "Yg=="⟩,
    ⟨"fwss-admin", "a", "cA=="⟩, ⟨"fwss", "c", "Yw=="⟩] ⟨"fwss", "d", "?"⟩
    [⟨"fwss", "e", "\u00e9"⟩] rfl
  · decide +kernel
  · show ∀ c ∈ ['?'], c.toNat < 0x80
    exact List.forall_mem_singleton.2 (by decide)
  · decide +kernel

end BrokerBootstrap.LoginConfig
