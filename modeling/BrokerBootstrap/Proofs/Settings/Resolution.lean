import BrokerBootstrap.Proofs.Computations
import BrokerBootstrap.Proofs.Node.AddressType
import BrokerBootstrap.Settings.Basic

namespace BrokerBootstrap

/-! ## Allowed values -/

/-- What a variable may hold, where `none` stands for its absence. -/
def Variable.Allows (name : Variable) (raw : Option String) : Prop :=
  match name with
  | .nodeName => ∃ text, raw = some text ∧ text ≠ ""
  | .externalAddress => ∀ text ∈ raw, text = "true" ∨ text = "false"
  | .externalAddressType =>
      ∀ text ∈ raw, text = "" ∨ ∃ t : AddressType, Text.lower text = Text.lower t.name
  | _ => True

theorem Variable.allows_none_iff {name : Variable} : name.Allows none ↔ name ≠ .nodeName := by
  cases name <;> simp [Allows]

theorem Variable.name_injective : Function.Injective Variable.name := by
  intro first second
  cases first <;> cases second <;> decide

def Variable.objection (name : Variable) (raw : String) : String :=
  match name with
  | .nodeName => "value must not be empty"
  | .externalAddress => "expected 'true' or 'false'"
  | _ => "Unknown address type '" ++ raw ++ "'"

namespace Settings

variable {env : Environment} {name : Variable} {failure : Failure} {α : Type}
  {read : String → Except InvalidValue α}

/-- A reader that accepts the values that a variable allows. -/
structure Checks (name : Variable) (read : String → Except InvalidValue α) : Prop where
  accepts : ∀ raw, (∃ a, read raw = .ok a) ↔ name.Allows (some raw)
  objects : ∀ raw cause, read raw = .error cause → cause.message = name.objection raw

theorem checks_nodeName : Checks .nodeName Value.nonEmpty := by
  constructor
  · intro raw
    by_cases empty : raw = "" <;> simp [Value.nonEmpty, Variable.Allows, empty]
  · intro raw cause refused
    unfold Value.nonEmpty at refused
    split at refused
    · cases refused
      rfl
    · cases refused

theorem checks_externalAddress : Checks .externalAddress Value.boolean := by
  constructor
  · intro raw
    unfold Value.boolean
    split
    · simp_all [Variable.Allows]
    · split <;> simp_all [Variable.Allows]
  · intro raw cause refused
    unfold Value.boolean at refused
    split at refused
    · cases refused
    · split at refused
      · cases refused
      · cases refused
        rfl

theorem checks_externalAddressType : Checks .externalAddressType Value.addressType := by
  constructor
  · intro raw
    unfold Value.addressType
    by_cases empty : raw = ""
    · simp [Variable.Allows, empty]
    · rw [if_neg empty]
      cases found : AddressType.ofText? raw with
      | none => simp [Variable.Allows, empty, ← AddressType.ofText?_eq_some_iff, found]
      | some t => simp [Variable.Allows, empty, ← AddressType.ofText?_eq_some_iff, found]
  · intro raw cause refused
    unfold Value.addressType at refused
    split at refused
    · cases refused
    · split at refused
      · cases refused
      · cases refused
        rfl

/-! ## Single variables -/

theorem lookup_eq_ok_iff {found : Option α} :
    lookup env name read = .ok found ↔ (env name.name).map read = found.map .ok := by
  unfold lookup
  cases env name.name with
  | none => cases found <;> simp
  | some raw => cases accepted : read raw <;> cases found <;> simp [accepted]

theorem lookup_eq_error {env : Environment} (h : lookup env name read = .error failure) :
    ∃ raw cause, env name.name = some raw ∧ read raw = .error cause ∧
      failure = .invalidVariable name raw cause := by
  unfold lookup at h
  cases given : env name.name with
  | none =>
      rw [given] at h
      cases h
  | some raw =>
      rw [given] at h
      cases refused : read raw with
      | ok a => simp [refused] at h
      | error cause =>
          simp only [refused, Except.error.injEq] at h
          exact ⟨raw, cause, rfl, refused, h.symm⟩

theorem lookup_text : lookup env name Value.text = .ok (env name.name) := by
  rw [lookup_eq_ok_iff]
  rfl

theorem lookup_optional : lookup env name Value.optional =
    .ok ((env name.name).map fun raw => if raw = "" then none else some raw) := by
  rw [lookup_eq_ok_iff, Option.map_map]
  rfl

structure Blames (failure : Failure) (env : Environment) (name : Variable) : Prop where
  kind : failure.kind = .settings
  absent : env name.name = none →
    failure.message = "Missing required environment variable " ++ name.name
  present : ∀ raw, env name.name = some raw →
    failure.message =
      "Invalid value '" ++ raw ++ "' for " ++ name.name ++ ": " ++ name.objection raw

theorem Checks.allows_of_lookup (checks : Checks name read) (optional : name.Allows none)
    {found : Option α} (h : lookup env name read = .ok found) : name.Allows (env name.name) := by
  rw [lookup_eq_ok_iff] at h
  cases given : env name.name with
  | none => exact optional
  | some raw =>
      rw [given, Option.map_some] at h
      obtain ⟨a, -, accepted⟩ := Option.map_eq_some_iff.1 h.symm
      exact (checks.accepts raw).1 ⟨a, accepted.symm⟩

theorem Checks.blames_of_lookup (checks : Checks name read)
    (h : lookup env name read = .error failure) :
    ¬ name.Allows (env name.name) ∧ Blames failure env name := by
  obtain ⟨raw, cause, given, refused, rfl⟩ := lookup_eq_error h
  constructor
  · rw [given, ← checks.accepts, refused]
    rintro ⟨a, accepted⟩
    cases accepted
  · refine ⟨rfl, fun absent => ?_, fun text present => ?_⟩
    · rw [given] at absent
      cases absent
    · obtain rfl : raw = text := Option.some.inj (given.symm.trans present)
      rw [← checks.objects raw cause refused]
      rfl

theorem require_eq_ok_iff {a : α} :
    require env name read = .ok a ↔ ∃ raw, env name.name = some raw ∧ read raw = .ok a := by
  unfold require
  simp only [bind_eq_ok, lookup_eq_ok_iff]
  constructor
  · rintro ⟨found, same, returned⟩
    cases found with
    | none => cases returned
    | some b =>
        cases returned
        obtain ⟨raw, given, accepted⟩ := Option.map_eq_some_iff.1 same
        exact ⟨raw, given, accepted⟩
  · rintro ⟨raw, given, accepted⟩
    exact ⟨some a, by rw [given, Option.map_some, accepted, Option.map_some], rfl⟩

theorem require_nonEmpty {text : String} :
    require env name Value.nonEmpty = .ok text ↔ env name.name = some text ∧ text ≠ "" := by
  rw [require_eq_ok_iff]
  constructor
  · rintro ⟨raw, given, accepted⟩
    unfold Value.nonEmpty at accepted
    split at accepted
    · cases accepted
    · rename_i filled
      cases accepted
      exact ⟨given, filled⟩
  · rintro ⟨given, filled⟩
    exact ⟨text, given, if_neg filled⟩

theorem Checks.blames_of_require (checks : Checks name read) (needed : ¬ name.Allows none)
    (h : require env name read = .error failure) :
    ¬ name.Allows (env name.name) ∧ Blames failure env name := by
  unfold require at h
  rcases bind_eq_error.1 h with refused | ⟨found, looked, missing⟩
  · exact checks.blames_of_lookup refused
  · cases found with
    | some a => cases missing
    | none =>
        cases missing
        have absent : env name.name = none := Option.map_eq_none_iff.1 (lookup_eq_ok_iff.1 looked)
        refine ⟨absent ▸ needed, rfl, fun _ => rfl, fun raw present => ?_⟩
        rw [absent] at present
        cases present

/-! ## All variables -/

/-- The settings as the variables give them. A text is taken as it is, also the empty one. -/
structure GivenBy (settings : Settings) (env : Environment) : Prop where
  nodeName : env Variable.nodeName.name = some settings.nodeName
  initFolder : settings.initFolder = (env Variable.initFolder.name).getD "/opt/kafka/init"
  rackTopologyKey : ∀ key, settings.rackTopologyKey = some key ↔
    env Variable.rackTopologyKey.name = some key ∧ key ≠ ""
  externalAddress : settings.externalAddress = true ↔
    env Variable.externalAddress.name = some "true"
  addressType : ∀ t : AddressType, settings.addressType = some t ↔
    ∃ text, env Variable.externalAddressType.name = some text ∧
      Text.lower text = Text.lower t.name
  secretsPrefix : settings.secretsPrefix = (env Variable.secretsPrefix.name).getD "fwss"
  saslScramAndPlain :
    settings.saslScramAndPlain = (env Variable.saslScramAndPlain.name).getD "false"
  namespaceFile :
    settings.namespaceFile = "/var/run/secrets/kubernetes.io/serviceaccount/namespace"

theorem boolean_getD_eq_true_iff {raw : Option String} {found : Option Bool}
    (h : raw.map Value.boolean = found.map .ok) : found.getD false = true ↔ raw = some "true" := by
  cases raw with
  | none => cases found <;> simp_all
  | some text =>
      obtain ⟨flag, rfl, accepted⟩ := Option.map_eq_some_iff.1 h.symm
      rw [Option.getD_some, Option.some.injEq]
      unfold Value.boolean at accepted
      split at accepted
      · simp_all
      · split at accepted <;> simp_all

theorem optional_join_eq_some_iff {raw : Option String} {key : String} :
    (raw.map fun text => if text = "" then none else some text).join = some key ↔
      raw = some key ∧ key ≠ "" := by
  cases raw with
  | none => simp
  | some text =>
      rw [Option.map_some, Option.join_some, Option.some.injEq]
      constructor
      · intro kept
        split at kept <;> simp_all
      · rintro ⟨rfl, filled⟩
        rw [if_neg filled]

theorem addressType_join_eq_some_iff {raw : Option String} {found : Option (Option AddressType)}
    (h : raw.map Value.addressType = found.map .ok) (t : AddressType) :
    found.join = some t ↔ ∃ text, raw = some text ∧ Text.lower text = Text.lower t.name := by
  cases raw with
  | none => cases found <;> simp_all
  | some text =>
      obtain ⟨type, rfl, accepted⟩ := Option.map_eq_some_iff.1 h.symm
      simp only [Option.join_some, Option.some.injEq, exists_eq_left',
        ← AddressType.ofText?_eq_some_iff]
      unfold Value.addressType at accepted
      split at accepted
      · have unnamed : AddressType.ofText? "" = none := by decide +kernel
        simp_all
      · split at accepted <;> simp_all

theorem allows_and_givenBy {settings : Settings} (h : resolve env = .ok settings) :
    (∀ name : Variable, name.Allows (env name.name)) ∧ settings.GivenBy env := by
  unfold resolve at h
  simp only [lookup_text, lookup_optional] at h
  obtain ⟨initFolder, init, h⟩ := bind_eq_ok.1 h
  obtain ⟨nodeName, node, h⟩ := bind_eq_ok.1 h
  obtain ⟨rackTopologyKey, rack, h⟩ := bind_eq_ok.1 h
  obtain ⟨externalAddress, external, h⟩ := bind_eq_ok.1 h
  obtain ⟨addressType, type, h⟩ := bind_eq_ok.1 h
  obtain ⟨secretsPrefix, lead, h⟩ := bind_eq_ok.1 h
  obtain ⟨saslScramAndPlain, sasl, h⟩ := bind_eq_ok.1 h
  -- Four of the variables are taken as they are.
  cases init
  cases rack
  cases lead
  cases sasl
  cases h
  have named := require_nonEmpty.1 node
  have unset : Variable.externalAddress.Allows none := Variable.allows_none_iff.2 nofun
  have unset' : Variable.externalAddressType.Allows none := Variable.allows_none_iff.2 nofun
  constructor
  · intro name
    cases name with
    | nodeName => exact ⟨nodeName, named⟩
    | externalAddress => exact checks_externalAddress.allows_of_lookup unset external
    | externalAddressType => exact checks_externalAddressType.allows_of_lookup unset' type
    | initFolder | rackTopologyKey | secretsPrefix | saslScramAndPlain => trivial
  · exact {
      nodeName := named.1
      initFolder := rfl
      rackTopologyKey := fun _ => optional_join_eq_some_iff
      externalAddress := boolean_getD_eq_true_iff (lookup_eq_ok_iff.1 external)
      addressType := addressType_join_eq_some_iff (lookup_eq_ok_iff.1 type)
      secretsPrefix := rfl
      saslScramAndPlain := rfl
      namespaceFile := rfl }

def FirstOffends (env : Environment) (name : Variable) : Prop :=
  ∃ before after, Variable.all = before ++ name :: after ∧
    (∀ earlier ∈ before, earlier.Allows (env earlier.name)) ∧ ¬ name.Allows (env name.name)

theorem exists_blames (h : resolve env = .error failure) :
    ∃ name, FirstOffends env name ∧ Blames failure env name := by
  have needed : ¬ Variable.nodeName.Allows none := fun free => Variable.allows_none_iff.1 free rfl
  have unset : Variable.externalAddress.Allows none := Variable.allows_none_iff.2 nofun
  unfold resolve at h
  simp only [lookup_text, lookup_optional] at h
  rcases bind_eq_error.1 h with impossible | ⟨initFolder, -, h⟩
  · cases impossible
  rcases bind_eq_error.1 h with refused | ⟨nodeName, node, h⟩
  · obtain ⟨offends, blames⟩ := checks_nodeName.blames_of_require needed refused
    refine ⟨.nodeName, ⟨[.initFolder], _, rfl, ?_, offends⟩, blames⟩
    exact List.forall_mem_singleton.2 trivial
  have named : Variable.nodeName.Allows (env Variable.nodeName.name) :=
    ⟨nodeName, require_nonEmpty.1 node⟩
  rcases bind_eq_error.1 h with impossible | ⟨rackTopologyKey, -, h⟩
  · cases impossible
  rcases bind_eq_error.1 h with refused | ⟨externalAddress, external, h⟩
  · obtain ⟨offends, blames⟩ := checks_externalAddress.blames_of_lookup refused
    refine ⟨.externalAddress, ⟨[.initFolder, .nodeName, .rackTopologyKey], _, rfl, ?_, offends⟩,
      blames⟩
    simp only [List.forall_mem_cons]
    exact ⟨trivial, named, trivial, List.forall_mem_nil _⟩
  have flagged := checks_externalAddress.allows_of_lookup unset external
  rcases bind_eq_error.1 h with refused | ⟨addressType, -, h⟩
  · obtain ⟨offends, blames⟩ := checks_externalAddressType.blames_of_lookup refused
    refine ⟨.externalAddressType,
      ⟨[.initFolder, .nodeName, .rackTopologyKey, .externalAddress], _, rfl, ?_, offends⟩, blames⟩
    simp only [List.forall_mem_cons]
    exact ⟨trivial, named, trivial, flagged, List.forall_mem_nil _⟩
  -- No variable after these three can be at fault.
  cases h

theorem lookup_congr {other : Environment} (same : other name.name = env name.name) :
    lookup other name read = lookup env name read := by
  rw [lookup, lookup, same]

theorem resolve_congr_of_type {other : Environment}
    (same : ∀ name : Variable, name ≠ .externalAddressType → other name.name = env name.name)
    (type : lookup other .externalAddressType Value.addressType =
      lookup env .externalAddressType Value.addressType) :
    resolve other = resolve env := by
  have looked {α : Type} (name : Variable) (different : name ≠ .externalAddressType)
      (read : String → Except InvalidValue α) : lookup other name read = lookup env name read :=
    lookup_congr (same name different)
  simp (disch := decide) only [resolve, require, looked, type]

theorem resolve_congr {other : Environment}
    (same : ∀ name : Variable, other name.name = env name.name) :
    resolve other = resolve env :=
  resolve_congr_of_type (fun name _ => same name) (lookup_congr (same _))

theorem resolve_decided (env : Environment) :
    ((∃ settings, resolve env = .ok settings) ↔
      ∀ name : Variable, name.Allows (env name.name)) ∧
    (∀ settings, resolve env = .ok settings → settings.GivenBy env) ∧
    (∀ failure, resolve env = .error failure →
      ∃ name, FirstOffends env name ∧ Blames failure env name) ∧
    ∀ other : Environment, (∀ name : Variable, other name.name = env name.name) →
      resolve other = resolve env := by
  refine ⟨⟨?_, ?_⟩, fun _ found => (allows_and_givenBy found).2, fun _ => exists_blames,
    fun _ => resolve_congr⟩
  · rintro ⟨settings, found⟩
    exact (allows_and_givenBy found).1
  · intro allowed
    cases ending : resolve env with
    | ok settings => exact ⟨settings, rfl⟩
    | error failure =>
        obtain ⟨name, ⟨-, -, -, -, offends⟩, -⟩ := exists_blames ending
        exact absurd (allowed name) offends

/-- The flag is at fault before the type is looked at, and other variables change nothing. -/
theorem resolve_decided_two_offences :
    let env : Environment := fun name =>
      if name = "NODE_NAME" then some "n"
      else if name = "EXTERNAL_ADDRESS" then some ""
      else if name = "EXTERNAL_ADDRESS_TYPE" then some "PublicIP"
      else none
    let other : Environment := fun name => if name = "HOME" then some "/root" else env name
    let valid : Environment := fun name =>
      if name = "EXTERNAL_ADDRESS" then none
      else if name = "EXTERNAL_ADDRESS_TYPE" then some "externalIP"
      else env name
    (∃ failure, resolve env = .error failure ∧
      failure.message = "Invalid value '' for EXTERNAL_ADDRESS: expected 'true' or 'false'" ∧
      ∃ name, FirstOffends env name ∧ Blames failure env name) ∧
    resolve other = resolve env ∧
    ∃ settings, resolve valid = .ok settings ∧ settings.addressType = some .externalIP := by
  intro env other valid
  obtain ⟨-, -, failing, agreeing⟩ := resolve_decided env
  obtain ⟨allowed, given, -⟩ := resolve_decided valid
  have failed : resolve env = .error (.invalidVariable .externalAddress "" .notBoolean) := rfl
  have same : ∀ name : Variable, other name.name = env name.name := by
    intro name
    cases name <;> decide
  have harmless : ∀ name : Variable, name.Allows (valid name.name) := by
    intro name
    cases name with
    | nodeName => exact ⟨"n", rfl, by decide⟩
    | externalAddress =>
        intro text present
        cases (present : none = some text)
    | externalAddressType =>
        intro text present
        cases (present : some "externalIP" = some text)
        exact .inr ⟨.externalIP, by decide +kernel⟩
    | initFolder | rackTopologyKey | secretsPrefix | saslScramAndPlain => trivial
  obtain ⟨settings, found⟩ := allowed.2 harmless
  have typed := ((given settings found).addressType .externalIP).2
    ⟨"externalIP", rfl, by decide +kernel⟩
  exact ⟨⟨_, failed, by decide +kernel, failing _ failed⟩, agreeing other same, settings, found,
    typed⟩

end Settings

end BrokerBootstrap
