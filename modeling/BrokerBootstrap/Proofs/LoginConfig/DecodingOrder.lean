import BrokerBootstrap.Proofs.LoginConfig.Collect

namespace BrokerBootstrap

namespace Base64

theorem checkEnd_ne_nonAscii (count pads : Nat) (rest : List Char) :
    checkEnd count pads rest ≠ .error .nonAscii := by
  have unfinished : checkEnd.unfinished count rest ≠ .error .nonAscii := by
    cases rest with
    | nil =>
        simp only [checkEnd.unfinished]
        split
        · simp
        · split <;> simp
    | cons c others =>
        simp only [checkEnd.unfinished]
        split <;> simp
  unfold checkEnd
  split
  · split
    · simp
    · split
      · simp
      · exact unfinished
  · exact unfinished

theorem decode_eq_nonAscii_iff {text : List Char} :
    decode text = .error .nonAscii ↔ ∃ c ∈ text, 0x80 ≤ c.toNat := by
  unfold decode
  dsimp only
  split
  · rename_i foreign
    simpa using foreign
  · rename_i ascii
    have none : ¬ ∃ c ∈ text, 0x80 ≤ c.toNat := by simpa using ascii
    simp only [none, iff_false]
    split
    · simp
    · intro h
      exact checkEnd_ne_nonAscii _ _ _ (map_eq_error.1 h)

end Base64

namespace LoginConfig

structure Declaration where
  secret : String
  entry : String
  payload : String
  deriving DecidableEq, Repr

def declarationsOf (secret : String) (entries : List (String × String)) : List Declaration :=
  entries.map fun entry => ⟨secret, entry.1, entry.2⟩

def declarations (secrets : List Secret) : List Declaration :=
  secrets.flatMap fun secret => declarationsOf secret.name secret.entries.pairs

def decodingOrder (admin : Admin) (declared : List Secret) : List Declaration :=
  ⟨admin.secret.name, admin.own.1, admin.own.2⟩ :: declarations declared

def Declaration.problem? (declaration : Declaration) : Option Problem :=
  match decodePayload declaration.secret declaration.entry declaration.payload with
  | .ok _ => none
  | .error problem => some problem

theorem Declaration.problem?_eq_some_iff {declaration : Declaration} {problem : Problem} :
    declaration.problem? = some problem ↔
      decodePayload declaration.secret declaration.entry declaration.payload =
        .error problem := by
  unfold problem?
  split <;> simp [*]

theorem Declaration.problem?_eq_none_iff {declaration : Declaration} :
    declaration.problem? = none ↔ ∃ value, Decodes declaration.payload value := by
  have decodes (value : String) : Decodes declaration.payload value ↔
      decodePayload declaration.secret declaration.entry declaration.payload = .ok value :=
    decodePayload_eq_ok_iff.symm
  unfold problem?
  simp only [decodes]
  split <;> simp [*]

theorem decodePayload_faults_iff {secret entry payload : String} :
    (∃ fault, decodePayload secret entry payload = .error (.fault fault)) ↔
      ∃ c ∈ payload.toList, 0x80 ≤ c.toNat := by
  rw [← Base64.decode_eq_nonAscii_iff]
  unfold decodePayload
  cases Base64.decode payload.toList with
  | error cause => cases cause <;> simp
  | ok octets => cases read : Utf8.decode octets <;> simp [read]

def firstProblem? (declared : List Declaration) : Option Problem :=
  declared.findSome? (·.problem?)

theorem firstProblem?_cons (declaration : Declaration) (rest : List Declaration) :
    firstProblem? (declaration :: rest) =
      match decodePayload declaration.secret declaration.entry declaration.payload with
      | .ok _ => firstProblem? rest
      | .error problem => some problem := by
  rw [firstProblem?, List.findSome?_cons, Declaration.problem?]
  cases decodePayload declaration.secret declaration.entry declaration.payload <;> rfl

theorem decodeEntries_eq_error_iff {secret : String} {entries : List (String × String)}
    {problem : Problem} :
    decodeEntries secret entries = .error problem ↔
      firstProblem? (declarationsOf secret entries) = some problem := by
  induction entries with
  | nil => simp [decodeEntries, declarationsOf, firstProblem?]
  | cons entry rest ih =>
      obtain ⟨name, payload⟩ := entry
      rw [decodeEntries, bind_eq_error, declarationsOf, List.map_cons, firstProblem?_cons]
      cases decodePayload secret name payload with
      | error cause => simp
      | ok value => simp [bind_eq_error, ih, declarationsOf, pure, Except.pure]

theorem decodeSecrets_eq_error_iff {secrets : List Secret} {problem : Problem} :
    decodeSecrets secrets = .error problem ↔
      firstProblem? (declarations secrets) = some problem := by
  induction secrets with
  | nil => simp [decodeSecrets, declarations, firstProblem?]
  | cons secret rest ih =>
      rw [decodeSecrets, bind_eq_error, declarations, List.flatMap_cons, firstProblem?,
        List.findSome?_append]
      cases own : decodeEntries secret.name secret.entries.pairs with
      | error cause =>
          have first := decodeEntries_eq_error_iff.1 own
          rw [firstProblem?] at first
          simp [first]
      | ok users =>
          -- The induction hypothesis is on the secrets after this one, so its own entries must
          -- be known to have no problem before the search goes on.
          have none : firstProblem? (declarationsOf secret.name secret.entries.pairs) = none := by
            apply Option.eq_none_iff_forall_not_mem.2
            intro cause first
            rw [decodeEntries_eq_error_iff.2 first] at own
            cases own
          rw [firstProblem?] at none
          simp [none, bind_eq_error, ih, declarations, firstProblem?, pure, Except.pure]

theorem decodeAll_eq_error_iff {admin : Admin} {declared : List Secret} {problem : Problem} :
    decodeAll admin declared = .error problem ↔
      firstProblem? (decodingOrder admin declared) = some problem := by
  rw [decodeAll, bind_eq_error, decodingOrder, firstProblem?_cons]
  cases decodePayload admin.secret.name admin.own.1 admin.own.2 with
  | error cause => simp
  | ok password => simp [bind_eq_error, decodeSecrets_eq_error_iff, pure, Except.pure]

def NonAsciiFirst (secrets : List Secret) (lead : String) : Prop :=
  ∃ admin before declaration after, findAdmin lead secrets = .ok admin ∧
    decodingOrder admin (matching lead secrets) = before ++ declaration :: after ∧
    (∀ earlier ∈ before, ∃ value, Decodes earlier.payload value) ∧
    ∃ c ∈ declaration.payload.toList, 0x80 ≤ c.toNat

variable {namespaceName lead : String} {secrets : List Secret} {admin : Admin}

theorem collect_of_admin (h : findAdmin lead secrets = .ok admin) :
    collect namespaceName secrets lead =
      ⟨admin.announcement, decodeAll admin (matching lead secrets)⟩ := by
  have wanted : admin.secret ∈ matching lead secrets := mem_filter_of_admin (findAdmin_eq_ok h).1
  have listed : secrets ≠ [] := List.ne_nil_of_mem (List.mem_filter.1 wanted).1
  unfold collect
  rw [if_neg (by simpa using listed), if_neg (by simpa using List.ne_nil_of_mem wanted), h]

theorem collect_of_no_admin {cause : Failure} (h : findAdmin lead secrets = .error cause) :
    ∃ failure, collect namespaceName secrets lead = .fail failure := by
  unfold collect
  rw [h]
  split
  · exact ⟨_, rfl⟩
  · split
    · exact ⟨_, rfl⟩
    · exact ⟨cause, rfl⟩

theorem build_outcome_eq_error_iff {problem : Problem} :
    (build namespaceName secrets lead).outcome = .error problem ↔
      (collect namespaceName secrets lead).outcome = .error problem := by
  simp [build, Traced.bind_outcome_eq_error, Traced.pure_eq]

theorem build_faults_iff :
    (∃ fault, (build namespaceName secrets lead).outcome = .error (.fault fault)) ↔
      NonAsciiFirst secrets lead := by
  simp only [build_outcome_eq_error_iff]
  constructor
  · rintro ⟨fault, faulty⟩
    cases found : findAdmin lead secrets with
    | error cause =>
        obtain ⟨failure, failed⟩ := @collect_of_no_admin namespaceName _ _ _ found
        rw [failed] at faulty
        cases faulty
    | ok admin =>
        rw [collect_of_admin found, decodeAll_eq_error_iff, firstProblem?,
          List.findSome?_eq_some_iff] at faulty
        obtain ⟨before, declaration, after, order, foreign, decoded⟩ := faulty
        refine ⟨admin, before, declaration, after, found, order, ?_, ?_⟩
        · intro earlier mem
          exact Declaration.problem?_eq_none_iff.1 (decoded earlier mem)
        · exact decodePayload_faults_iff.1 ⟨fault, Declaration.problem?_eq_some_iff.1 foreign⟩
  · rintro ⟨admin, before, declaration, after, found, order, decoded, foreign⟩
    have faults : ∃ fault, decodePayload declaration.secret declaration.entry
        declaration.payload = .error (.fault fault) := decodePayload_faults_iff.2 foreign
    obtain ⟨fault, faulty⟩ := faults
    refine ⟨fault, ?_⟩
    rw [collect_of_admin found, decodeAll_eq_error_iff, firstProblem?,
      List.findSome?_eq_some_iff]
    refine ⟨before, declaration, after, order, Declaration.problem?_eq_some_iff.2 faulty, ?_⟩
    intro earlier mem
    exact Declaration.problem?_eq_none_iff.2 (decoded earlier mem)

end LoginConfig

end BrokerBootstrap
