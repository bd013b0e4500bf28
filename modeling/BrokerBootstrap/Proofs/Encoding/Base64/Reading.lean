import BrokerBootstrap.Proofs.Encoding.Base64

/-!
# Base64 character by character

The same decoder as a machine that takes one character at a time. It keeps its place in the group of
four, the bits that no octet has taken yet, and the padding that it has seen (`decode_eq_read`).
-/

namespace BrokerBootstrap.Base64

structure Reading where
  octets : List UInt8
  /-- How many characters of the group have been read. -/
  place : Nat
  left : Nat
  pads : Nat
  padded : Bool
  deriving DecidableEq, Repr

namespace Reading

def start : Reading := ⟨[], 0, 0, 0, false⟩

def take (r : Reading) (value : Nat) : Reading :=
  match r.place with
  | 0 => { r with place := 1, left := value, pads := 0 }
  | 1 => { r with
      octets := r.octets ++ [UInt8.ofNat (r.left * 4 + value / 16)]
      place := 2, left := value % 16, pads := 0 }
  | 2 => { r with
      octets := r.octets ++ [UInt8.ofNat (r.left * 16 + value / 4)]
      place := 3, left := value % 4, pads := 0 }
  | _ => { r with
      octets := r.octets ++ [UInt8.ofNat (r.left * 64 + value)]
      place := 0, left := 0, pads := 0 }

def skip (r : Reading) : Reading :=
  { r with pads := if 2 ≤ r.place then r.pads + 1 else r.pads, padded := true }

end Reading

def readFrom : Reading → List Char → Except DecodeError (List UInt8)
  | r, [] =>
      if r.place = 0 then .ok r.octets
      else if r.place = 1 then .error (.loneCharacter (r.octets.length / 3 * 4 + 1))
      else .error .missingPadding
  | r, c :: rest =>
      if c = pad then
        if 2 ≤ r.place ∧ 4 ≤ r.place + (r.pads + 1) then
          if rest = [] then .ok r.octets else .error .dataAfterPadding
        else readFrom r.skip rest
      else
        match value? c with
        | none => .error .foreignCharacter
        | some value =>
            if r.padded then .error .discontinuousPadding else readFrom (r.take value) rest

def read (text : List Char) : Except DecodeError (List UInt8) :=
  if text.any (fun c => 0x80 ≤ c.toNat) then .error .nonAscii
  else if text.head? = some pad then .error .leadingPadding
  else readFrom .start text

theorem readFrom_data {data : List Char} (listed : ∀ c ∈ data, isData c = true) {r : Reading}
    (fresh : r.padded = false) (tail : List Char) :
    readFrom r (data ++ tail) = readFrom ((data.filterMap value?).foldl Reading.take r) tail := by
  induction data generalizing r with
  | nil => rfl
  | cons c rest ih =>
      obtain ⟨first, others⟩ := List.forall_mem_cons.1 listed
      obtain ⟨value, found⟩ := Option.isSome_iff_exists.1 first
      have notPad : c ≠ pad := by
        rintro rfl
        rw [pad_not_data] at first
        cases first
      have fresh' : (r.take value).padded = false := by
        unfold Reading.take
        split <;> exact fresh
      rw [List.filterMap_cons_some found, List.foldl_cons, ← ih others fresh', List.cons_append,
        readFrom, if_neg notPad, found]
      simp [fresh]

theorem foldl_take (values : List Nat) (octets : List UInt8) :
    ∃ left, values.foldl Reading.take ⟨octets, 0, 0, 0, false⟩ =
      ⟨octets ++ pack values, values.length % 4, left, 0, false⟩ := by
  induction values using groups_induction generalizing octets with
  | none => exact ⟨0, by simp [pack]⟩
  | one a => exact ⟨a, by simp [pack, Reading.take]⟩
  | two a b => exact ⟨b % 16, by simp [pack, Reading.take]⟩
  | three a b c => exact ⟨c % 4, by simp [pack, Reading.take]⟩
  | group a b c d rest ih =>
      obtain ⟨left, same⟩ := ih (octets ++ [UInt8.ofNat (a * 4 + b / 16),
        UInt8.ofNat (b % 16 * 16 + c / 4), UInt8.ofNat (c % 4 * 64 + d)])
      refine ⟨left, ?_⟩
      simp only [List.append_assoc, List.cons_append, List.nil_append] at same
      simp only [pack, List.foldl_cons, Reading.take, List.length_cons, List.append_assoc,
        List.cons_append, List.nil_append, same, Nat.add_mod_right, Nat.add_assoc]

theorem readFrom_pads_early {r : Reading} (early : r.place < 2) (n : Nat) (rest : List Char) :
    readFrom r (List.replicate n pad ++ rest) =
      readFrom { r with padded := r.padded || 0 < n } rest := by
  induction n generalizing r with
  | zero => simp
  | succ n ih =>
      have skipped : r.skip = { r with padded := true } := by
        rw [Reading.skip, if_neg (by omega)]
      rw [List.replicate_succ, List.cons_append, readFrom, if_pos rfl, if_neg (by omega), skipped,
        @ih { r with padded := true } early]
      simp

theorem readFrom_pads_late {r : Reading} (late : 2 ≤ r.place) (begun : r.place + r.pads < 4)
    (n : Nat) (rest : List Char) :
    readFrom r (List.replicate n pad ++ rest) =
      if r.place + r.pads + n < 4 then
        readFrom { r with pads := r.pads + n, padded := r.padded || 0 < n } rest
      else if r.place + r.pads + n = 4 ∧ rest = [] then .ok r.octets
      else .error .dataAfterPadding := by
  induction n generalizing r with
  | zero => simp [begun]
  | succ n ih =>
      have skipped : r.skip = { r with pads := r.pads + 1, padded := true } := by
        rw [Reading.skip, if_pos late]
      rw [List.replicate_succ, List.cons_append, readFrom, if_pos rfl]
      by_cases last : 4 ≤ r.place + (r.pads + 1)
      · have nothing : (r.place + r.pads + (n + 1) = 4 ∧ rest = []) ↔
            List.replicate n pad ++ rest = [] := by
          have none : r.place + r.pads + (n + 1) = 4 ↔ n = 0 := by omega
          rw [List.append_eq_nil_iff, List.replicate_eq_nil_iff, none]
        rw [if_pos ⟨late, last⟩, if_neg (show ¬ r.place + r.pads + (n + 1) < 4 by omega)]
        simp only [nothing]
      · have more : r.place + (r.pads + 1) < 4 := by omega
        have sum : r.pads + 1 + n = r.pads + (n + 1) := by omega
        rw [if_neg (fun h => last h.2), skipped,
          @ih { r with pads := r.pads + 1, padded := true } late more]
        simp only [Nat.add_assoc, sum, Bool.true_or, Nat.zero_lt_succ, decide_true, Bool.or_true]

theorem readFrom_rest {r : Reading} {rest : List Char} {count : Nat}
    (ends : ∀ c ∈ rest.head?, c ≠ pad ∧ (r.padded = false → isData c = false))
    (place : r.place = count % 4) (length : count % 4 = 1 → r.octets.length / 3 * 4 + 1 = count) :
    readFrom r rest = (checkEnd.unfinished count rest).map fun _ => r.octets := by
  cases rest with
  | nil =>
      rw [readFrom, checkEnd.unfinished, place]
      split
      · rfl
      · split
        · rename_i one
          rw [length one]
          rfl
        · rfl
  | cons c others =>
      obtain ⟨notPad, notData⟩ := ends c rfl
      rw [readFrom, if_neg notPad, checkEnd.unfinished]
      cases found : value? c with
      | none =>
        have foreign : isData c = false := by rw [isData, found]; rfl
        simp [foreign, Except.map]
      | some value =>
        have data : isData c = true := by rw [isData, found]; rfl
        have padded : r.padded = true := by
          cases h : r.padded with
          | true => rfl
          | false =>
            rw [notData h] at data
            cases data
        simp [data, padded, Except.map]

theorem head?_eq_pad_iff {text data rest : List Char} {pads : Nat}
    (parts : Parts text data pads rest) :
    text.head? = some pad ↔ data = [] ∧ 0 < pads := by
  rw [parts.whole]
  cases data with
  | cons c others =>
      have data : isData c = true := parts.listed c List.mem_cons_self
      simp only [List.cons_append, List.head?_cons, Option.some.injEq, reduceCtorEq, false_and,
        iff_false]
      rintro rfl
      rw [pad_not_data] at data
      cases data
  | nil =>
      cases pads with
      | succ more => simp [List.replicate_succ]
      | zero =>
          simp only [List.replicate_zero, List.nil_append, Nat.lt_irrefl, and_false, iff_false]
          intro first
          exact (parts.ends pad first).1 rfl

theorem length_filterMap_value? {data : List Char} (listed : ∀ c ∈ data, isData c = true) :
    (data.filterMap value?).length = data.length := by
  rw [List.length_filterMap_eq_countP]
  exact List.countP_eq_length.2 listed

theorem length_pack {values : List Nat} (lone : values.length % 4 = 1) :
    (pack values).length / 3 * 4 + 1 = values.length := by
  induction values using groups_induction with
  | none => cases lone
  | one a => simp [pack]
  | two a b => cases lone
  | three a b c => cases lone
  | group a b c d rest ih =>
      simp only [pack, List.length_cons] at lone ⊢
      have shorter := ih (by omega)
      omega

theorem readFrom_start {text data rest : List Char} {pads : Nat}
    (parts : Parts text data pads rest) :
    readFrom .start text =
      (checkEnd data.length pads rest).map fun _ => pack (data.filterMap value?) := by
  have count := length_filterMap_value? parts.listed
  obtain ⟨left, state⟩ := foldl_take (data.filterMap value?) []
  rw [count, List.nil_append] at state
  rw [parts.whole, readFrom_data parts.listed rfl, Reading.start, state]
  have short : data.length % 4 < 4 := Nat.mod_lt _ (by decide)
  have lone : data.length % 4 = 1 →
      (pack (data.filterMap value?)).length / 3 * 4 + 1 = data.length := by
    rw [← count]
    exact length_pack
  generalize pack (data.filterMap value?) = octets at lone ⊢
  have padding := paddingOf_eq short
  -- A group of fewer than two characters cannot be padded.
  by_cases early : data.length % 4 < 2
  · rw [if_pos early] at padding
    rw [@readFrom_pads_early ⟨octets, data.length % 4, left, 0, false⟩ early,
      readFrom_rest _ rfl lone]
    · simp only [checkEnd, padding]
    · simpa using parts.ends
  · rw [if_neg early] at padding
    have begun : data.length % 4 + 0 + pads < 4 ↔ pads < 4 - data.length % 4 := by omega
    have full : data.length % 4 + 0 + pads = 4 ↔ pads = 4 - data.length % 4 := by omega
    rw [@readFrom_pads_late ⟨octets, data.length % 4, left, 0, false⟩ (Nat.not_lt.1 early) short,
      checkEnd_of_paddingOf padding]
    simp only [begun, full]
    split
    · rw [readFrom_rest _ rfl lone]
      simpa using parts.ends
    · split <;> rfl

theorem decode_eq_read (text : List Char) : decode text = read text := by
  obtain ⟨data, pads, rest, parts⟩ := exists_parts text
  have leading : (data.isEmpty && 0 < pads) = true ↔ text.head? = some pad := by
    rw [head?_eq_pad_iff parts]
    simp
  rw [decode_of_parts parts, read, readFrom_start parts]
  simp only [leading]

end BrokerBootstrap.Base64
