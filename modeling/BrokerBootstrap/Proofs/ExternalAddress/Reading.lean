import BrokerBootstrap.Proofs.ExternalAddress.Interleaving
import BrokerBootstrap.Proofs.Text.Lines
import Mathlib.Data.List.TakeDrop

namespace BrokerBootstrap.ExternalAddress

variable {node : Node} {preferred : Option AddressType} {types : List AddressType}

def readExport? (line : List Char) : Option (String × String) :=
  match line.span (· ≠ '=') with
  | (lead, '=' :: value) =>
      (lead.dropPrefix? "export ".toList).map fun name => (String.ofList name, String.ofList value)
  | _ => none

def exportText (entry : String × String) : List Char :=
  ("export " ++ entry.1 ++ "=" ++ entry.2).toList

theorem readExport?_exportText {entry : String × String} (plain : '=' ∉ entry.1.toList) :
    readExport? (exportText entry) = some entry := by
  have text : exportText entry =
      ("export ".toList ++ entry.1.toList) ++ '=' :: entry.2.toList := by
    simp [exportText]
  have keyword : '=' ∉ "export ".toList := by decide
  have before : ∀ c ∈ "export ".toList ++ entry.1.toList, decide (c ≠ '=') = true := by
    intro c mem
    rw [decide_eq_true_eq]
    rintro rfl
    exact (List.mem_append.1 mem).elim keyword plain
  have parted : (exportText entry).span (· ≠ '=') =
      ("export ".toList ++ entry.1.toList, '=' :: entry.2.toList) := by
    rw [List.span_eq_takeWhile_dropWhile, text, List.takeWhile_append_of_pos before,
      List.dropWhile_append_of_pos before]
    simp
  have unmarked : ("export ".toList ++ entry.1.toList).dropPrefix? "export ".toList =
      some entry.1.toList :=
    List.dropPrefix?_append_of_beq _ (beq_self_eq_true _)
  simp only [readExport?, parted, unmarked, Option.map_some, String.ofList_toList]

theorem equals_not_mem_variableName (wanted : Option AddressType) :
    '=' ∉ (variableName wanted).toList := by
  rcases wanted with _ | _ | _ | _ | _ | _ <;> decide

theorem feed_not_mem_variableName (wanted : Option AddressType) :
    '\n' ∉ (variableName wanted).toList := by
  rcases wanted with _ | _ | _ | _ | _ | _ <;> decide

theorem variableName_injective : Function.Injective variableName := by
  intro first second
  rcases first with _ | _ | _ | _ | _ | _ <;>
    rcases second with _ | _ | _ | _ | _ | _ <;> decide

def valueOf (node : Node) (t : AddressType) : String := (find? (some t) node.addresses).getD ""

inductive Carried (node : Node) (t : AddressType) : String → Prop
  | found {address : String} (first : Leads (some t) node.addresses address) :
      Carried node t address
  | missing (none : ∀ address, ¬ Leads (some t) node.addresses address) : Carried node t ""

theorem carried (node : Node) (t : AddressType) : Carried node t (valueOf node t) := by
  cases h : find? (some t) node.addresses with
  | none =>
      rw [valueOf, h]
      exact .missing (find?_eq_none_iff.1 h)
  | some address =>
      rw [valueOf, h]
      exact .found (find?_eq_some_iff.1 h)

def Unbroken (node : Node) (preferred : Option AddressType) (types : List AddressType) : Prop :=
  ∀ wanted ∈ preferred :: types.map some, ∀ address, Leads wanted node.addresses address →
    '\n' ∉ address.toList

theorem Unbroken.feed_not_mem_valueOf (unbroken : Unbroken node preferred types) {t : AddressType}
    (mem : t ∈ types) : '\n' ∉ (valueOf node t).toList := by
  have wanted : some t ∈ preferred :: types.map some :=
    List.mem_cons_of_mem _ (List.mem_map_of_mem mem)
  unfold valueOf
  cases h : find? (some t) node.addresses with
  | none => exact List.not_mem_nil
  | some address => exact unbroken (some t) wanted address (find?_eq_some_iff.1 h)

def entries (address : String) (types : List AddressType) (values : List String) :
    List (String × String) :=
  (variableName none, address) :: (types.map fun t => variableName (some t)).zip values

theorem of_mem_entries {address : String} {values : List String} {entry : String × String}
    (h : entry ∈ entries address types values) :
    (∃ wanted, entry.1 = variableName wanted) ∧ entry.2 ∈ address :: values := by
  rcases List.mem_cons.1 h with rfl | later
  · exact ⟨⟨none, rfl⟩, List.mem_cons_self⟩
  · obtain ⟨name, value⟩ := List.of_mem_zip later
    obtain ⟨t, -, same⟩ := List.mem_map.1 name
    exact ⟨⟨some t, same.symm⟩, List.mem_cons_of_mem _ value⟩

theorem entries_inj {address address' : String} {types types' : List AddressType}
    {values values' : List String} (whole : types.length = values.length)
    (whole' : types'.length = values'.length)
    (h : entries address types values = entries address' types' values') :
    address' = address ∧ types' = types ∧ values' = values := by
  obtain ⟨first, others⟩ := List.cons.inj h.symm
  have parts := congrArg List.unzip others
  rw [List.unzip_zip (by simpa using whole'), List.unzip_zip (by simpa using whole)] at parts
  obtain ⟨names, sameValues⟩ := Prod.mk.inj parts
  have typed : Function.Injective fun t => variableName (some t) :=
    fun _ _ same => Option.some.inj (variableName_injective same)
  exact ⟨(Prod.mk.inj first).2, List.map_injective_iff.2 typed names, sameValues⟩

theorem readExport?_entries (address : String) (types : List AddressType)
    (values : List String) :
    ((entries address types values).map exportText).map readExport? =
      (entries address types values).map some := by
  rw [List.map_map]
  apply List.map_congr_left
  intro entry mem
  obtain ⟨⟨wanted, named⟩, -⟩ := of_mem_entries mem
  exact readExport?_exportText (named ▸ equals_not_mem_variableName wanted)

theorem feed_not_mem_exportText {wanted : Option AddressType} {entry : String × String}
    (named : entry.1 = variableName wanted) (one : '\n' ∉ entry.2.toList) :
    '\n' ∉ exportText entry := by
  have name := feed_not_mem_variableName wanted
  rw [← named] at name
  simp [exportText, name, one]

theorem toList_exportLine (wanted : Option AddressType) (address : Option String) :
    (exportLine wanted address).toList =
      exportText (variableName wanted, address.getD "") ++ ['\n'] :=
  String.toList_append

theorem toList_render {address text : String} (h : find? preferred node.addresses = some address)
    (rendered : (render node preferred types).outcome = .ok text) :
    text.toList =
      ((entries address types (types.map (valueOf node))).map exportText).flatMap
        (· ++ ['\n']) := by
  rw [render_of_found h] at rendered
  obtain rfl := Except.ok.inj rendered
  rw [String.toList_append, toList_exportLine, String.toList_join, List.flatMap_map, entries,
    List.zip_map', List.map_cons, List.flatMap_cons, List.map_map, List.flatMap_map]
  simp only [typeLine, toList_exportLine, Option.getD_some, Function.comp_apply, valueOf]

theorem exists_entries_of_render {text : String}
    (rendered : (render node preferred types).outcome = .ok text)
    (unbroken : Unbroken node preferred types) :
    ∃ address values, Leads preferred node.addresses address ∧
      List.Forall₂ (Carried node) types values ∧
      text.toList.splitOn '\n' = (entries address types values).map exportText ++ [[]] := by
  obtain ⟨address, found⟩ := exists_found_of_render rendered
  have first := find?_eq_some_iff.1 found
  have plain : ∀ value ∈ address :: types.map (valueOf node), '\n' ∉ value.toList := by
    rw [List.forall_mem_cons, List.forall_mem_map]
    exact ⟨unbroken preferred List.mem_cons_self address first,
      fun _ mem => unbroken.feed_not_mem_valueOf mem⟩
  have ended : ∀ line ∈ (entries address types (types.map (valueOf node))).map exportText,
      '\n' ∉ line := by
    rw [List.forall_mem_map]
    intro entry mem
    obtain ⟨⟨wanted, named⟩, given⟩ := of_mem_entries mem
    exact feed_not_mem_exportText named (plain _ given)
  refine ⟨address, types.map (valueOf node), first, ?_, ?_⟩
  · rw [List.forall₂_map_right_iff]
    exact List.forall₂_same.2 fun t _ => carried node t
  · rw [toList_render found rendered, Text.splitOn_lines ended]

theorem text_determines_addresses {node : Node} {preferred : Option AddressType}
    {types : List AddressType} {text : String}
    (rendered : (render node preferred types).outcome = .ok text)
    (unbroken : Unbroken node preferred types) :
    Function.Injective variableName ∧
    ∃ address values, Leads preferred node.addresses address ∧
      List.Forall₂ (Carried node) types values ∧
      text.toList.splitOn '\n' = (entries address types values).map exportText ++ [[]] ∧
      ((entries address types values).map exportText).length = 1 + types.length ∧
      ((entries address types values).map exportText).map readExport? =
        (entries address types values).map some ∧
      ∀ node' preferred' types', (render node' preferred' types').outcome = .ok text →
        Unbroken node' preferred' types' →
        types' = types ∧ Leads preferred' node'.addresses address ∧
          List.Forall₂ (Carried node') types values := by
  obtain ⟨address, values, first, carries, lines⟩ := exists_entries_of_render rendered unbroken
  have count : ((entries address types values).map exportText).length = 1 + types.length := by
    simp [entries, carries.length_eq, Nat.add_comm]
  refine ⟨variableName_injective, address, values, first, carries, lines, count,
    readExport?_entries address types values, ?_⟩
  intro node' preferred' types' rendered' unbroken'
  obtain ⟨address', values', first', carries', lines'⟩ :=
    exists_entries_of_render rendered' unbroken'
  have same := List.append_cancel_right (lines.symm.trans lines')
  have read := congrArg (List.map readExport?) same
  rw [readExport?_entries, readExport?_entries] at read
  have equal := List.map_injective_iff.2 (fun _ _ => Option.some.inj) read
  obtain ⟨rfl, rfl, rfl⟩ := entries_inj carries.length_eq carries'.length_eq equal
  exact ⟨rfl, first', carries'⟩

theorem text_determines_addresses_of_signs :
    let node : Node := ⟨"n", ∅, [⟨some "InternalIP", some "a=b c="⟩, ⟨some "ExternalIP", none⟩]⟩
    let types : List AddressType := [.internalIP, .externalIP, .internalIP]
    let text := "export STRIMZI_NODEPORT_DEFAULT_ADDRESS=a=b c=\n" ++
      "export STRIMZI_NODEPORT_INTERNALIP_ADDRESS=a=b c=\n" ++
      "export STRIMZI_NODEPORT_EXTERNALIP_ADDRESS=\n" ++
      "export STRIMZI_NODEPORT_INTERNALIP_ADDRESS=a=b c=\n"
    (render node none types).outcome = .ok text ∧ Unbroken node none types ∧
      ∃ address values, Leads none node.addresses address ∧
        List.Forall₂ (Carried node) types values ∧
        ((entries address types values).map exportText).map readExport? =
          (entries address types values).map some := by
  intro node types text
  have rendered : (render node none types).outcome = .ok text := by decide +kernel
  have unbroken : Unbroken node none types := by
    have selected : ∀ wanted ∈ none :: types.map some, ∀ address ∈ find? wanted node.addresses,
        '\n' ∉ address.toList := by decide +kernel
    exact fun wanted mem address first => selected wanted mem address (find?_eq_some_iff.2 first)
  obtain ⟨-, address, values, first, carries, -, -, read, -⟩ :=
    text_determines_addresses rendered unbroken
  exact ⟨rendered, unbroken, address, values, first, carries, read⟩

end BrokerBootstrap.ExternalAddress
