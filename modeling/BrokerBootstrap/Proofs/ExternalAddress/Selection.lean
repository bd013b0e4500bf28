import BrokerBootstrap.ExternalAddress
import Mathlib.Data.List.Forall2

namespace BrokerBootstrap.ExternalAddress

variable {node : Node} {preferred wanted : Option AddressType} {types : List AddressType}
  {addresses : List NodeAddress} {address : String}

def OfType (wanted : Option AddressType) (reported : NodeAddress) : Prop :=
  ∀ t ∈ wanted, ∃ text, reported.type = some text ∧ Text.lower text = Text.lower t.name

theorem isWanted_iff {reported : NodeAddress} :
    isWanted wanted reported = true ↔ OfType wanted reported := by
  cases wanted with
  | none => simp [isWanted, OfType]
  | some t =>
      cases given : reported.type with
      | none => simp [isWanted, OfType, AddressType.accepts, given]
      | some text =>
          simp only [isWanted, OfType, AddressType.accepts, AddressType.canonical, given,
            Option.mem_def, Option.some.injEq, forall_eq', exists_eq_left']
          exact decide_eq_true_iff

def Leads (wanted : Option AddressType) (addresses : List NodeAddress) (address : String) : Prop :=
  ∃ before reported after, addresses = before ++ reported :: after ∧
    (∀ earlier ∈ before, ¬ OfType wanted earlier) ∧ OfType wanted reported ∧
    reported.address = some address

theorem find?_eq_some_iff :
    find? wanted addresses = some address ↔ Leads wanted addresses address := by
  simp only [find?, Leads, Option.bind_eq_some_iff, List.find?_eq_some_iff_append]
  constructor
  · rintro ⟨reported, ⟨isFirst, before, after, whole, others⟩, given⟩
    refine ⟨before, reported, after, whole, ?_, isWanted_iff.1 isFirst, given⟩
    intro earlier mem ofType
    have other := others earlier mem
    rw [isWanted_iff.2 ofType] at other
    cases other
  · rintro ⟨before, reported, after, whole, others, isFirst, given⟩
    refine ⟨reported, ⟨isWanted_iff.2 isFirst, before, after, whole, ?_⟩, given⟩
    intro earlier mem
    have other := mt isWanted_iff.1 (others earlier mem)
    simpa using other

theorem find?_eq_none_iff :
    find? wanted addresses = none ↔ ∀ address, ¬ Leads wanted addresses address := by
  simp only [← find?_eq_some_iff, Option.eq_none_iff_forall_ne_some, ne_eq]

theorem reportedTypes_of_listed {listed : List String}
    (h : addresses.map (·.type) = listed.map some) : reportedTypes addresses = .ok listed := by
  have typed : addresses.findIdx? (·.type.isNone) = none := by
    rw [List.findIdx?_eq_none_iff]
    intro reported mem
    have given : reported.type ∈ listed.map some := h ▸ List.mem_map_of_mem mem
    obtain ⟨text, -, same⟩ := List.mem_map.1 given
    rw [← same]
    rfl
  have same : addresses.filterMap (·.type) = listed := by
    calc
      addresses.filterMap (·.type) = (addresses.map (·.type)).filterMap id := by
        simp [List.filterMap_map]
      _ = (listed.map some).filterMap id := by rw [h]
      _ = listed := by simp [List.filterMap_map]
  simp only [reportedTypes, typed, same]

theorem reportedTypes_of_untyped {before after : List NodeAddress} {reported : NodeAddress}
    (whole : addresses = before ++ reported :: after)
    (typed : ∀ earlier ∈ before, earlier.type ≠ none) (untyped : reported.type = none) :
    reportedTypes addresses = .error (.untypedAddress before.length) := by
  have typed' : before.findIdx? (·.type.isNone) = none := by
    rw [List.findIdx?_eq_none_iff]
    intro earlier mem
    simpa [Option.isSome_iff_ne_none] using typed earlier mem
  have place : addresses.findIdx? (·.type.isNone) = some before.length := by
    rw [whole, List.findIdx?_append, typed', List.findIdx?_cons, untyped]
    simp
  simp only [reportedTypes, place]

theorem select_of_found (h : find? preferred node.addresses = some address)
    (types : List AddressType) :
    select node preferred types =
      ⟨.message .info [.plain "Default external address found ", .highlighted address] ::
          types.map (reportType node),
        .ok (exportLine none (some address) :: types.map (typeLine node))⟩ := by
  simp only [select, h]

theorem select_of_missing (h : find? preferred node.addresses = none) (types : List AddressType) :
    select node preferred types = missingDefault node preferred := by
  simp only [select, h]

def assignment (name value : String) : String := "export " ++ name ++ "=" ++ value ++ "\n"

inductive Exported (node : Node) (t : AddressType) : String × Event → Prop
  | found {address : String} (first : Leads (some t) node.addresses address) :
      Exported node t (assignment (variableName (some t)) address,
        .message .step [.plain ("External " ++ t.name ++ " address found " ++ address)])
  | missing (none : ∀ address, ¬ Leads (some t) node.addresses address) :
      Exported node t (assignment (variableName (some t)) "",
        .message .warning [.plain ("No " ++ t.name ++ " address found on node " ++ node.name)])

theorem exported (node : Node) (t : AddressType) :
    Exported node t (typeLine node t, reportType node t) := by
  cases h : find? (some t) node.addresses with
  | none =>
      rw [typeLine, reportType, h]
      exact .missing (find?_eq_none_iff.1 h)
  | some address =>
      rw [typeLine, reportType, h]
      exact .found (find?_eq_some_iff.1 h)

theorem select_decided (node : Node) (preferred : Option AddressType) (types : List AddressType) :
    let selected := select node preferred types
    ((∀ address, ¬ Leads preferred node.addresses address) →
      selected.events = [] ∧
      (∀ listed, node.addresses.map (·.type) = listed.map some →
        ∃ failure, selected.outcome = .error (.failure failure) ∧
          failure.kind = .addressNotFound ∧
          failure.message =
            "No address " ++ preferred.elim "of any type" (fun t => "of type " ++ t.name) ++
              " found on node " ++ node.name ++ " " ++ ("(address types found: " ++
              (if String.intercalate ", " listed = "" then "none"
                else String.intercalate ", " listed) ++ ")")) ∧
      ∀ before reported after, node.addresses = before ++ reported :: after →
        (∀ earlier ∈ before, earlier.type ≠ none) → reported.type = none →
        selected.outcome = .error (.fault (.untypedAddress before.length))) ∧
    ∀ address, Leads preferred node.addresses address →
      ∃ exported, List.Forall₂ (Exported node) types exported ∧
        selected.outcome = .ok (assignment (variableName none) address :: exported.map Prod.fst) ∧
        selected.events = .message .info
          [.plain "Default external address found ", .highlighted address] ::
            exported.map Prod.snd ∧
        ∀ t ∈ preferred, ∀ place : Nat, types[place]? = some t →
          (exported.map Prod.fst)[place]? = some (assignment (variableName (some t)) address) := by
  intro selected
  constructor
  · intro missing
    have lines : selected = missingDefault node preferred :=
      select_of_missing (find?_eq_none_iff.2 missing) types
    rw [lines, missingDefault]
    refine ⟨?_, ?_, ?_⟩
    · split <;> rfl
    · intro listed typed
      rw [reportedTypes_of_listed typed]
      refine ⟨_, rfl, rfl, ?_⟩
      cases preferred <;> rfl
    · intro before reported after whole typed untyped
      rw [reportedTypes_of_untyped whole typed untyped]
      rfl
  · intro address first
    have found := find?_eq_some_iff.2 first
    have lines : selected = _ := select_of_found found types
    rw [lines]
    refine ⟨types.map fun t => (typeLine node t, reportType node t), ?_, ?_, ?_, ?_⟩
    · rw [List.forall₂_map_right_iff]
      exact List.forall₂_same.2 fun t _ => exported node t
    · rw [List.map_map]
      rfl
    · rw [List.map_map]
      rfl
    · intro t isPreferred place listed
      obtain rfl : preferred = some t := isPreferred
      rw [List.map_map, List.getElem?_map, listed, Option.map_some, Function.comp_apply, typeLine,
        found]
      rfl

/-- The first internal address is null, so it is missing although another one follows. -/
theorem select_decided_null_address :
    let addresses : List NodeAddress := [⟨some "InternalIP", none⟩,
      ⟨some "internalip", some "10.0.0.1"⟩, ⟨some "EXTERNALIP", some ""⟩]
    let node : Node := ⟨"n", ∅, addresses⟩
    let unlisted : Node := ⟨"n", ∅, addresses ++ [⟨none, some "h"⟩]⟩
    (∃ failure, (select node (some .internalIP) []).outcome = .error (.failure failure) ∧
      failure.message = "No address of type InternalIP found on node n " ++
        "(address types found: InternalIP, internalip, EXTERNALIP)") ∧
    (select unlisted (some .internalIP) []).outcome = .error (.fault (.untypedAddress 3)) ∧
    ∃ exported, List.Forall₂ (Exported node) [.internalIP, .externalIP] exported ∧
      (select node (some .externalIP) [.internalIP, .externalIP]).outcome =
        .ok (assignment (variableName none) "" :: exported.map Prod.fst) := by
  intro addresses node unlisted
  have missing := find?_eq_none_iff.1
    (by decide +kernel : find? (some .internalIP) node.addresses = none)
  have missing' := find?_eq_none_iff.1
    (by decide +kernel : find? (some .internalIP) unlisted.addresses = none)
  have first := find?_eq_some_iff.1
    (by decide +kernel : find? (some .externalIP) node.addresses = some "")
  obtain ⟨-, listed, -⟩ := (select_decided node (some .internalIP) []).1 missing
  obtain ⟨-, -, untyped⟩ := (select_decided unlisted (some .internalIP) []).1 missing'
  obtain ⟨exported, types, lines, -⟩ :=
    (select_decided node (some .externalIP) [.internalIP, .externalIP]).2 "" first
  obtain ⟨failure, failed, -, message⟩ := listed ["InternalIP", "internalip", "EXTERNALIP"] rfl
  refine ⟨⟨failure, failed, message.trans (by decide +kernel)⟩, ?_, exported, types, lines⟩
  exact untyped addresses ⟨none, some "h"⟩ [] rfl (by decide) rfl

end BrokerBootstrap.ExternalAddress
