import BrokerBootstrap.Proofs.ExternalAddress.Selection
import BrokerBootstrap.Proofs.Computations

namespace BrokerBootstrap.ExternalAddress

variable {node other : Node} {types : List AddressType} {t : AddressType}

def addressesOf (t : AddressType) (addresses : List NodeAddress) : List (Option String) :=
  (addresses.filter fun reported => t.accepts reported.type).map (·.address)

theorem find?_eq_head? (t : AddressType) (addresses : List NodeAddress) :
    find? (some t) addresses = (addressesOf t addresses).head?.join := by
  rw [addressesOf, List.head?_map, List.head?_filter, find?]
  show (addresses.find? fun reported => t.accepts reported.type).bind (·.address) = _
  cases addresses.find? fun reported => t.accepts reported.type <;> rfl

structure AgreeByType (node other : Node) : Prop where
  name : other.name = node.name
  addresses : ∀ t, addressesOf t other.addresses = addressesOf t node.addresses

theorem AgreeByType.find?_eq (same : AgreeByType node other) (t : AddressType) :
    find? (some t) other.addresses = find? (some t) node.addresses := by
  rw [find?_eq_head?, find?_eq_head?, same.addresses]

theorem AgreeByType.typeLine_eq (same : AgreeByType node other) (t : AddressType) :
    typeLine other t = typeLine node t := by
  rw [typeLine, typeLine, same.find?_eq]

theorem AgreeByType.reportType_eq (same : AgreeByType node other) (t : AddressType) :
    reportType other t = reportType node t := by
  rw [reportType, reportType, same.find?_eq, same.name]

theorem missingDefault_fails {α : Type} (node : Node) (preferred : Option AddressType) :
    ∃ problem, (missingDefault node preferred : Traced α).outcome = .error problem := by
  unfold missingDefault
  split
  · exact ⟨_, rfl⟩
  · exact ⟨_, rfl⟩

theorem render_of_found {preferred : Option AddressType} {address : String}
    (h : find? preferred node.addresses = some address) (types : List AddressType) :
    render node preferred types =
      ⟨.message .info [.plain "Default external address found ", .highlighted address] ::
          types.map (reportType node),
        .ok (exportLine none (some address) ++ String.join (types.map (typeLine node)))⟩ := by
  rw [render, select_of_found h, Traced.bind_of_ok rfl, Traced.pure_eq, List.append_nil,
    String.join_cons]

theorem render_of_missing {preferred : Option AddressType}
    (h : find? preferred node.addresses = none) (types : List AddressType) :
    ∃ problem, (render node preferred types).outcome = .error problem := by
  obtain ⟨problem, failed⟩ := @missingDefault_fails (List String) node preferred
  refine ⟨problem, ?_⟩
  rw [render, select_of_missing h, Traced.bind_of_error failed]

theorem exists_found_of_render {preferred : Option AddressType} {text : String}
    (h : (render node preferred types).outcome = .ok text) :
    ∃ address, find? preferred node.addresses = some address := by
  cases found : find? preferred node.addresses with
  | some address => exact ⟨address, rfl⟩
  | none =>
      obtain ⟨problem, failed⟩ := render_of_missing found types
      rw [failed] at h
      cases h

theorem AgreeByType.render_eq (same : AgreeByType node other) {address : String}
    (h : find? (some t) node.addresses = some address) (types : List AddressType) :
    render other (some t) types = render node (some t) types := by
  have found : find? (some t) other.addresses = some address := by rw [same.find?_eq, h]
  have lines : types.map (typeLine other) = types.map (typeLine node) :=
    List.map_congr_left fun t _ => same.typeLine_eq t
  have told : types.map (reportType other) = types.map (reportType node) :=
    List.map_congr_left fun t _ => same.reportType_eq t
  rw [render_of_found h, render_of_found found, lines, told]

theorem render_decided_by_type {node other : Node} (same : AgreeByType node other)
    (types : List AddressType) :
    (∀ t,
      (∃ text, (render node (some t) types).outcome = .ok text ∧
        render other (some t) types = render node (some t) types) ∨
      ((∃ problem, (render node (some t) types).outcome = .error problem) ∧
        ∃ problem, (render other (some t) types).outcome = .error problem)) ∧
    ∀ text text', (render node none types).outcome = .ok text →
      (render other none types).outcome = .ok text' →
      ∃ address address' lines, lines.length = types.length ∧
        (select node none types).outcome = .ok (assignment (variableName none) address :: lines) ∧
        (select other none types).outcome =
          .ok (assignment (variableName none) address' :: lines) ∧
        text = assignment (variableName none) address ++ String.join lines ∧
        text' = assignment (variableName none) address' ++ String.join lines := by
  constructor
  · intro t
    cases found : find? (some t) node.addresses with
    | some address =>
        have returns := congrArg Traced.outcome (render_of_found found types)
        exact .inl ⟨_, returns, same.render_eq found types⟩
    | none =>
        have missing : find? (some t) other.addresses = none := by rw [same.find?_eq, found]
        exact .inr ⟨render_of_missing found types, render_of_missing missing types⟩
  · intro text text' returns returns'
    obtain ⟨address, found⟩ := exists_found_of_render returns
    obtain ⟨address', found'⟩ := exists_found_of_render returns'
    -- The default addresses may differ here, for any type will do for them.
    have lines : types.map (typeLine other) = types.map (typeLine node) :=
      List.map_congr_left fun t _ => same.typeLine_eq t
    rw [render_of_found found] at returns
    rw [render_of_found found', lines] at returns'
    refine ⟨address, address', types.map (typeLine node), List.length_map _, ?_, ?_, ?_, ?_⟩
    · rw [select_of_found found]
      rfl
    · rw [select_of_found found', lines]
      rfl
    · exact (Except.ok.inj returns).symm
    · exact (Except.ok.inj returns').symm

theorem render_decided_by_type_of_swapped :
    let node : Node := ⟨"n", ∅, [⟨some "InternalIP", some "10.0.0.1"⟩,
      ⟨some "ExternalIP", some "1.1.1.1"⟩, ⟨some "ExternalIP", none⟩]⟩
    let other : Node := ⟨"n", ∅, [⟨some "Other", some "o"⟩, ⟨some "externalIP", some "1.1.1.1"⟩,
      ⟨none, none⟩, ⟨some "EXTERNALIP", none⟩, ⟨some "INTERNALIP", some "10.0.0.1"⟩]⟩
    AgreeByType node other ∧
      render other (some .externalIP) AddressType.all =
        render node (some .externalIP) AddressType.all ∧
      ∃ address address' lines,
        (select node none [.internalIP]).outcome =
          .ok (assignment (variableName none) address :: lines) ∧
        (select other none [.internalIP]).outcome =
          .ok (assignment (variableName none) address' :: lines) := by
  intro node other
  let line := "export STRIMZI_NODEPORT_INTERNALIP_ADDRESS=10.0.0.1\n"
  have same : AgreeByType node other := by
    refine ⟨rfl, fun t => ?_⟩
    cases t <;> decide +kernel
  have found : find? (some .externalIP) node.addresses = some "1.1.1.1" := by decide +kernel
  have returns : (render node none [.internalIP]).outcome =
      .ok (assignment (variableName none) "10.0.0.1" ++ line) := by decide +kernel
  have returns' : (render other none [.internalIP]).outcome =
      .ok (assignment (variableName none) "o" ++ line) := by decide +kernel
  obtain ⟨address, address', lines, -, first, first', -⟩ :=
    (render_decided_by_type same [.internalIP]).2 _ _ returns returns'
  refine ⟨same, ?_, address, address', lines, first, first'⟩
  rcases (render_decided_by_type same AddressType.all).1 .externalIP with
    ⟨text, -, equal⟩ | ⟨⟨problem, failed⟩, -⟩
  · exact equal
  · rw [render_of_found found] at failed
    cases failed

end BrokerBootstrap.ExternalAddress
