import BrokerBootstrap.ExternalAddress
import BrokerBootstrap.Proofs.Settings.Resolution
import BrokerBootstrap.Proofs.Text.LetterCase

namespace BrokerBootstrap.AddressType

variable {text : String} {t : AddressType}

theorem plain_name (t : AddressType) : Text.Plain t.name := by
  cases t <;> decide +kernel

theorem accepts_iff_fold_eq {fold : String → String} (lowering : Text.IsLowering fold) :
    t.accepts (some text) = true ↔ fold text = fold t.name := by
  rw [accepts_some_iff, Text.fold_eq_iff Text.isLowering_lower t.plain_name,
    Text.fold_eq_iff lowering t.plain_name]

theorem accepts_iff_sameButCase :
    t.accepts (some text) = true ↔ Text.SameButCase text t.name :=
  accepts_some_iff.trans (Text.fold_eq_iff Text.isLowering_lower t.plain_name)

theorem accepts_name (t : AddressType) : t.accepts (some t.name) = true :=
  accepts_some_iff.2 rfl

theorem accepts_canonical (t : AddressType) : t.accepts (some t.canonical) = true := by
  cases t <;> decide +kernel

theorem accepts_empty (t : AddressType) : t.accepts (some "") = false := by
  cases t <;> decide +kernel

theorem ofText?_eq_none_iff :
    ofText? text = none ↔ ∀ t : AddressType, t.accepts (some text) = false := by
  rw [ofText?, List.find?_eq_none]
  simp only [mem_all, forall_const, Bool.not_eq_true]

theorem value_eq_ok_some_iff :
    Value.addressType text = .ok (some t) ↔ t.accepts (some text) = true := by
  rw [← find?_accepts_eq_some_iff mem_all, ← ofText?, Value.addressType]
  by_cases empty : text = ""
  · rw [if_pos empty, empty, ofText?_eq_none_iff.2 accepts_empty]
    simp
  · rw [if_neg empty]
    cases ofText? text <;> simp

theorem value_eq_error (filled : text ≠ "")
    (unknown : ∀ t : AddressType, t.accepts (some text) = false) :
    Value.addressType text = .error (.unknownAddressType text) := by
  rw [Value.addressType, if_neg filled, ofText?_eq_none_iff.2 unknown]

theorem resolve_update_of_accepts {env : Environment} {spelling : String}
    (given : env Variable.externalAddressType.name = some text)
    (accepted : t.accepts (some text) = true) (again : t.accepts (some spelling) = true) :
    Settings.resolve (Function.update env Variable.externalAddressType.name (some spelling)) =
      Settings.resolve env := by
  apply Settings.resolve_congr_of_type
  · intro name different
    apply Function.update_of_ne
    exact fun same => different (Variable.name_injective same)
  · simp only [Settings.lookup, Function.update_self, given, value_eq_ok_some_iff.2 accepted,
      value_eq_ok_some_iff.2 again]

theorem decided_by_spelling (text : String) :
    (∀ t u : AddressType, t.accepts (some text) = true → u.accepts (some text) = true → t = u) ∧
    (∀ order : List AddressType, (∀ t, t ∈ order) →
      (∀ t, order.find? (·.accepts (some text)) = some t ↔ t.accepts (some text) = true) ∧
      order.find? (·.accepts (some text)) = ofText? text) ∧
    (ofText? text = none ↔ ∀ t : AddressType, t.accepts (some text) = false) ∧
    (∀ t, Value.addressType text = .ok (some t) ↔
      ∀ address, ExternalAddress.isWanted (some t) ⟨some text, address⟩ = true) ∧
    (text ≠ "" → (∀ t : AddressType, t.accepts (some text) = false) →
      Value.addressType text = .error (.unknownAddressType text)) ∧
    (∀ t : AddressType, t.accepts (some text) = true ↔ Text.SameButCase text t.name) ∧
    (∀ t : AddressType, t.accepts (some text) = true →
      text.length = t.name.length ∧ ∀ c ∈ text.toList, c.toNat < 0x80) ∧
    (∀ fold, Text.IsLowering fold → ∀ t : AddressType,
      t.accepts (some text) = true ↔ fold text = fold t.name) ∧
    ∀ (env : Environment) (t : AddressType),
      env Variable.externalAddressType.name = some text → t.accepts (some text) = true →
      ∀ spelling ∈ [t.name, t.canonical],
        Settings.resolve (Function.update env Variable.externalAddressType.name (some spelling)) =
          Settings.resolve env := by
  refine ⟨fun _ _ => eq_of_accepts, fun order complete => ⟨fun t => ?_, ?_⟩, ofText?_eq_none_iff,
    fun t => ?_, value_eq_error, fun _ => accepts_iff_sameButCase, fun t accepted => ?_,
    fun _ lowering _ => accepts_iff_fold_eq lowering, fun env t given accepted => ?_⟩
  · exact find?_accepts_eq_some_iff complete
  · apply Option.ext
    intro t
    rw [find?_accepts_eq_some_iff complete, ofText?, find?_accepts_eq_some_iff mem_all]
  · rw [value_eq_ok_some_iff]
    exact ⟨fun accepted _ => accepted, fun wanted => wanted none⟩
  · have same := accepts_iff_sameButCase.1 accepted
    refine ⟨?_, same.ascii t.plain_name⟩
    rw [← String.length_toList, ← String.length_toList]
    exact List.Forall₂.length_eq same
  · simp only [List.forall_mem_cons, List.not_mem_nil, false_implies, implies_true, and_true]
    exact ⟨resolve_update_of_accepts given accepted t.accepts_name,
      resolve_update_of_accepts given accepted t.accepts_canonical⟩

/-- A capital I with a dot becomes two characters in lower case, and the first of them is an i. -/
theorem decided_by_spelling_dotted_capital :
    let fold : String → String := fun text => String.ofList (text.toList.flatMap fun c =>
      if c = '\u0130' then ['i', '\u0307'] else [Text.lowerChar c])
    let env : Environment := fun name =>
      if name = "NODE_NAME" then some "n"
      else if name = "EXTERNAL_ADDRESS_TYPE" then some "EXTERNALip"
      else none
    fold "EXTERNALip" = fold "ExternalIP" ∧ fold "\u0130nternalIP" ≠ fold "InternalIP" ∧
      Settings.resolve (Function.update env "EXTERNAL_ADDRESS_TYPE" (some "externalip")) =
        Settings.resolve env ∧
      Value.addressType "\u0130nternalIP" = .error (.unknownAddressType "\u0130nternalIP") := by
  intro fold env
  have lowering : Text.IsLowering fold := by
    apply Text.isLowering_of_forms
    intro c
    split
    · rename_i dotted
      rw [dotted]
      exact .foreign (by decide) ⟨'\u0307', by decide, by decide⟩
    · exact Text.lowersTo_lowerChar c
  have accepted : externalIP.accepts (some "EXTERNALip") = true := by decide +kernel
  have unknown : ∀ t : AddressType, t.accepts (some "\u0130nternalIP") = false := by
    intro t
    cases t <;> decide +kernel
  obtain ⟨-, -, -, -, -, -, -, folded, resolved⟩ := decided_by_spelling "EXTERNALip"
  obtain ⟨-, -, -, -, refused, -, -, foldedDotted, -⟩ := decided_by_spelling "\u0130nternalIP"
  refine ⟨(folded fold lowering externalIP).1 accepted, fun same => ?_, ?_,
    refused (by decide) unknown⟩
  · have wrong := (foldedDotted fold lowering internalIP).2 same
    rw [unknown internalIP] at wrong
    cases wrong
  · exact resolved env externalIP rfl accepted _ (by decide +kernel)

end BrokerBootstrap.AddressType
