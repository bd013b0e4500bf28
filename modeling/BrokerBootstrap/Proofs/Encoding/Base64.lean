import BrokerBootstrap.Encoding.Base64
import BrokerBootstrap.Proofs.Computations
import Mathlib.Algebra.Group.Nat.Defs
import Mathlib.Data.List.Nodup
import Mathlib.Data.List.TakeWhile

/-!
# Base64 texts

Decoding accepts the texts that are data followed by padding, where the padding completes the last
group, and no other texts (`decode_eq_ok_iff`). The octets are the bits of the data, six for each
character.
-/

namespace BrokerBootstrap.Base64

/-! ## The alphabet -/

def alphabet : List Char :=
  "ABCDEFGHIJKLMNOPQRSTUVWXYZabcdefghijklmnopqrstuvwxyz0123456789+/".toList

theorem alphabet_eq : alphabet = (List.range 64).map digit := by decide +kernel

theorem digit_listed {n : Nat} (h : n < 64) :
    digit n ∈ alphabet ∧ alphabet.idxOf (digit n) = n := by
  have apart : alphabet.Nodup := by
    rw [alphabet_eq]
    refine List.Nodup.map_on (fun i hi j hj same => ?_) List.nodup_range
    have values := congrArg value? same
    rw [value?_digit (List.mem_range.1 hi), value?_digit (List.mem_range.1 hj)] at values
    exact Option.some.inj values
  have inside : n < alphabet.length := by
    rw [alphabet_eq]
    simpa using h
  have place : alphabet[n] = digit n := by
    simp only [alphabet_eq, List.getElem_map, List.getElem_range]
  rw [← place]
  exact ⟨List.getElem_mem inside, apart.idxOf_getElem n inside⟩

theorem value?_of_mem {c : Char} (h : c ∈ alphabet) : value? c = some (alphabet.idxOf c) := by
  rw [alphabet_eq] at h
  obtain ⟨n, inside, rfl⟩ := List.mem_map.1 h
  rw [List.mem_range] at inside
  rw [value?_digit inside, (digit_listed inside).2]

theorem digit_of_value? {c : Char} {n : Nat} (h : value? c = some n) : n < 64 ∧ digit n = c := by
  unfold value? at h
  simp only [Bool.and_eq_true, decide_eq_true_eq] at h
  split_ifs at h with upper lower figure plus slash <;> cases h
  · rw [digit, if_pos (by omega), Nat.sub_add_cancel (by omega), Char.ofNat_toNat]
    exact ⟨by omega, rfl⟩
  · rw [digit, if_neg (by omega), if_pos (by omega), Nat.sub_add_cancel (by omega),
      Char.ofNat_toNat]
    exact ⟨by omega, rfl⟩
  · rw [digit, if_neg (by omega), if_neg (by omega), if_pos (by omega), Nat.add_sub_cancel,
      Char.ofNat_toNat]
    exact ⟨by omega, rfl⟩
  · exact ⟨by decide, plus.symm⟩
  · exact ⟨by decide, slash.symm⟩

theorem isData_iff {c : Char} : isData c = true ↔ c ∈ alphabet := by
  constructor
  · intro h
    obtain ⟨n, value⟩ := Option.isSome_iff_exists.1 h
    obtain ⟨inside, rfl⟩ := digit_of_value? value
    exact (digit_listed inside).1
  · intro h
    rw [isData, value?_of_mem h]
    rfl

theorem ascii_of_mem {c : Char} (h : c ∈ alphabet) : c.toNat < 0x80 := by
  have ascii : alphabet.all (fun c => c.toNat < 0x80) = true := by decide +kernel
  exact of_decide_eq_true (List.all_eq_true.1 ascii c h)

theorem pad_not_data : isData pad = false := by decide

/-- The last binary digits of a number, the most significant first. -/
def bits : Nat → Nat → List Bool
  | 0, _ => []
  | width + 1, n => bits width (n / 2) ++ [decide (n % 2 = 1)]

theorem length_bits (width n : Nat) : (bits width n).length = width := by
  induction width generalizing n with
  | zero => rfl
  | succ width ih => simp [bits, ih]

theorem bits_add (width later n : Nat) :
    bits (width + later) n = bits width (n / 2 ^ later) ++ bits later n := by
  induction later generalizing n with
  | zero => simp [bits]
  | succ later ih =>
      rw [← Nat.add_assoc, bits, bits, ih, Nat.div_div_eq_div_mul, Nat.pow_succ',
        List.append_assoc]

theorem bits_congr {width n m : Nat} (h : n % 2 ^ width = m % 2 ^ width) :
    bits width n = bits width m := by
  induction width generalizing n m with
  | zero => rfl
  | succ width ih =>
      have half : n / 2 % 2 ^ width = m / 2 % 2 ^ width := by
        rw [Nat.pow_succ'] at h
        rw [← Nat.mod_mul_right_div_self, ← Nat.mod_mul_right_div_self, h]
      have last : n % 2 = m % 2 := by
        have small := congrArg (· % 2) h
        simpa [Nat.pow_succ'] using small
      rw [bits, bits, ih half, last]

theorem bits_inj {width n m : Nat} (hn : n < 2 ^ width) (hm : m < 2 ^ width)
    (h : bits width n = bits width m) : n = m := by
  induction width generalizing n m with
  | zero => omega
  | succ width ih =>
      rw [bits, bits] at h
      obtain ⟨half, last⟩ := List.append_inj' h rfl
      rw [Nat.pow_succ] at hn hm
      have same := ih (by omega) (by omega) half
      have odd : n % 2 = 1 ↔ m % 2 = 1 := by simpa using last
      omega

/-! ## Octets as bits -/

def octetBits (octets : List UInt8) : List Bool := octets.flatMap fun octet => bits 8 octet.toNat

theorem length_octetBits (octets : List UInt8) : (octetBits octets).length = 8 * octets.length := by
  simp [octetBits, length_bits, Nat.mul_comm]

theorem octetBits_inj {first second : List UInt8} {spare spare' : List Bool}
    (short : spare.length < 8) (short' : spare'.length < 8)
    (h : octetBits first ++ spare = octetBits second ++ spare') : first = second := by
  -- An octet more on one side outweighs the spare bits on the other.
  induction first generalizing second with
  | nil =>
      cases second with
      | nil => rfl
      | cons octet rest =>
          have lengths := congrArg List.length h
          simp only [List.length_append, length_octetBits, List.length_nil, List.length_cons]
            at lengths
          omega
  | cons octet rest ih =>
      cases second with
      | nil =>
          have lengths := congrArg List.length h
          simp only [List.length_append, length_octetBits, List.length_nil, List.length_cons]
            at lengths
          omega
      | cons octet' rest' =>
          simp only [octetBits, List.flatMap_cons, List.append_assoc] at h
          obtain ⟨head, tail⟩ := List.append_inj h (by rw [length_bits, length_bits])
          have same := bits_inj octet.toNat_lt octet'.toNat_lt head
          rw [UInt8.toNat_inj.1 same, ih tail]

/-- The characters, six bits each, carry the bits of the octets. Fewer than eight bits may be left
over. -/
def Denotes (data : List Char) (octets : List UInt8) : Prop :=
  ∃ spare, spare.length < 8 ∧
    data.flatMap (fun c => bits 6 (alphabet.idxOf c)) = octetBits octets ++ spare

theorem bits_one (x : Nat) {t : Nat} (h : t < 16) :
    bits 6 (x / 4) ++ bits 6 (x % 4 * 16 + t) = bits 8 x ++ bits 4 t := by
  rw [bits_add 6 2 x, bits_add 2 4 (x % 4 * 16 + t), List.append_assoc]
  congr 2
  · exact bits_congr (by omega)
  · exact bits_congr (by omega)

theorem bits_two (x : Nat) {y t : Nat} (hy : y < 256) (h : t < 4) :
    bits 6 (x / 4) ++ bits 6 (x % 4 * 16 + y / 16) ++ bits 6 (y % 16 * 4 + t) =
      bits 8 x ++ bits 8 y ++ bits 2 t := by
  rw [bits_one x (by omega), bits_add 4 4 y, bits_add 4 2 (y % 16 * 4 + t)]
  simp only [List.append_assoc]
  congr 3
  · exact bits_congr (by omega)
  · exact bits_congr (by omega)

theorem bits_three (x : Nat) {y z : Nat} (hy : y < 256) (hz : z < 256) :
    bits 6 (x / 4) ++ bits 6 (x % 4 * 16 + y / 16) ++ bits 6 (y % 16 * 4 + z / 64) ++
      bits 6 (z % 64) = bits 8 x ++ bits 8 y ++ bits 8 z := by
  rw [bits_two x hy (by omega), bits_add 2 6 z]
  simp only [List.append_assoc]
  congr 3
  exact bits_congr (by omega)

/-! ## Packed values -/

/-- Values are taken in groups of four, and the last group may be short. -/
@[elab_as_elim]
theorem groups_induction {motive : List Nat → Prop} (none : motive []) (one : ∀ a, motive [a])
    (two : ∀ a b, motive [a, b]) (three : ∀ a b c, motive [a, b, c])
    (group : ∀ a b c d rest, motive rest → motive (a :: b :: c :: d :: rest)) :
    ∀ values, motive values
  | [] => none
  | [a] => one a
  | [a, b] => two a b
  | [a, b, c] => three a b c
  | a :: b :: c :: d :: rest => group a b c d rest (groups_induction none one two three group rest)

theorem octetBits_cons {n : Nat} (small : n < 256) (rest : List UInt8) :
    octetBits (UInt8.ofNat n :: rest) = bits 8 n ++ octetBits rest := by
  have value : (UInt8.ofNat n).toNat = n := UInt8.toNat_ofNat_of_lt' small
  rw [octetBits, List.flatMap_cons, value]
  rfl

theorem octetBits_pack {values : List Nat} (small : ∀ n ∈ values, n < 64) :
    ∃ spare, spare.length < 8 ∧ values.flatMap (bits 6) = octetBits (pack values) ++ spare := by
  induction values using groups_induction with
  | none => exact ⟨[], by decide, rfl⟩
  | one a => exact ⟨bits 6 a, by simp [length_bits], rfl⟩
  | two a b =>
      simp only [List.forall_mem_cons] at small
      obtain ⟨ha, hb, -⟩ := small
      have group := bits_one (a * 4 + b / 16) (t := b % 16) (by omega)
      rw [show (a * 4 + b / 16) / 4 = a by omega,
        show (a * 4 + b / 16) % 4 * 16 + b % 16 = b by omega] at group
      -- One octet takes eight of the twelve bits.
      refine ⟨bits 4 (b % 16), by simp [length_bits], ?_⟩
      rw [pack, octetBits_cons (by omega)]
      simp only [List.flatMap_cons, List.flatMap_nil, List.append_nil, octetBits, group]
  | three a b c =>
      simp only [List.forall_mem_cons] at small
      obtain ⟨ha, hb, hc, -⟩ := small
      have group := bits_two (a * 4 + b / 16) (y := b % 16 * 16 + c / 4) (t := c % 4)
        (by omega) (by omega)
      rw [show (a * 4 + b / 16) / 4 = a by omega,
        show (a * 4 + b / 16) % 4 * 16 + (b % 16 * 16 + c / 4) / 16 = b by omega,
        show (b % 16 * 16 + c / 4) % 16 * 4 + c % 4 = c by omega] at group
      -- Two octets take sixteen of the eighteen bits.
      refine ⟨bits 2 (c % 4), by simp [length_bits], ?_⟩
      rw [pack, octetBits_cons (by omega), octetBits_cons (by omega)]
      simp only [List.flatMap_cons, List.flatMap_nil, List.append_nil, octetBits]
      simp only [← List.append_assoc, group]
  | group a b c d rest ih =>
      simp only [List.forall_mem_cons] at small
      obtain ⟨ha, hb, hc, hd, others⟩ := small
      obtain ⟨spare, short, same⟩ := ih others
      have group := bits_three (a * 4 + b / 16) (y := b % 16 * 16 + c / 4) (z := c % 4 * 64 + d)
        (by omega) (by omega)
      rw [show (a * 4 + b / 16) / 4 = a by omega,
        show (a * 4 + b / 16) % 4 * 16 + (b % 16 * 16 + c / 4) / 16 = b by omega,
        show (b % 16 * 16 + c / 4) % 16 * 4 + (c % 4 * 64 + d) / 64 = c by omega,
        show (c % 4 * 64 + d) % 64 = d by omega] at group
      refine ⟨spare, short, ?_⟩
      rw [pack, octetBits_cons (by omega), octetBits_cons (by omega), octetBits_cons (by omega)]
      simp only [List.flatMap_cons, same]
      simp only [← List.append_assoc, group]

theorem denotes_pack {data : List Char} (listed : ∀ c ∈ data, c ∈ alphabet) :
    Denotes data (pack (data.filterMap value?)) := by
  have values : data.filterMap value? = data.map alphabet.idxOf := by
    rw [← List.filterMap_eq_map]
    exact List.filterMap_congr fun c mem => value?_of_mem (listed c mem)
  have small : ∀ n ∈ data.map alphabet.idxOf, n < 64 := by
    intro n mem
    obtain ⟨c, found, rfl⟩ := List.mem_map.1 mem
    exact List.idxOf_lt_length_of_mem (listed c found)
  obtain ⟨spare, short, same⟩ := octetBits_pack small
  rw [List.flatMap_map] at same
  exact ⟨spare, short, values ▸ same⟩

theorem Denotes.unique {data : List Char} {first second : List UInt8}
    (hf : Denotes data first) (hs : Denotes data second) : first = second := by
  obtain ⟨spare, short, same⟩ := hf
  obtain ⟨spare', short', same'⟩ := hs
  exact octetBits_inj short short' (same.symm.trans same')

structure Parts (text data : List Char) (pads : Nat) (rest : List Char) : Prop where
  whole : text = data ++ (List.replicate pads pad ++ rest)
  listed : ∀ c ∈ data, isData c = true
  ends : ∀ c ∈ rest.head?, c ≠ pad ∧ (pads = 0 → isData c = false)

theorem takeWhile_of_head? {p : Char → Bool} {cs : List Char}
    (h : ∀ c ∈ cs.head?, p c = false) : cs.takeWhile p = [] ∧ cs.dropWhile p = cs := by
  cases cs with
  | nil => exact ⟨rfl, rfl⟩
  | cons c rest =>
      have first : p c = false := h c rfl
      simp [first]

theorem exists_parts (text : List Char) : ∃ data pads rest, Parts text data pads rest := by
  let tail := text.dropWhile isData
  let padding := tail.takeWhile (· = pad)
  refine ⟨text.takeWhile isData, padding.length, tail.dropWhile (· = pad), ?_, ?_, ?_⟩
  · have allPads : padding = List.replicate padding.length pad :=
      List.eq_replicate_of_mem fun c mem => by simpa using List.mem_takeWhile_imp mem
    rw [← allPads, List.takeWhile_append_dropWhile, List.takeWhile_append_dropWhile]
  · exact fun c mem => List.mem_takeWhile_imp mem
  · intro c first
    have notPad := List.head?_dropWhile_not (fun c => decide (c = pad)) tail
    rw [first] at notPad
    refine ⟨by simpa using notPad, fun none => ?_⟩
    have same : tail.dropWhile (· = pad) = tail := by
      have split : padding ++ tail.dropWhile (· = pad) = tail := List.takeWhile_append_dropWhile
      rwa [List.length_eq_zero_iff.1 none, List.nil_append] at split
    have notData := List.head?_dropWhile_not isData text
    rw [same] at first
    rw [first] at notData
    exact notData

theorem decode_of_parts {text data rest : List Char} {pads : Nat}
    (parts : Parts text data pads rest) :
    decode text =
      if text.any (fun c => 0x80 ≤ c.toNat) then .error .nonAscii
      else if data.isEmpty && 0 < pads then .error .leadingPadding
      else (checkEnd data.length pads rest).map fun _ => pack (data.filterMap value?) := by
  -- The data ends where the padding begins, and the padding where the rest does.
  have noData : ∀ c ∈ (List.replicate pads pad ++ rest).head?, isData c = false := by
    intro c first
    cases pads with
    | zero => exact (parts.ends c first).2 rfl
    | succ more =>
        obtain rfl : pad = c := Option.some.inj first
        exact pad_not_data
  have noPad : ∀ c ∈ rest.head?, decide (c = pad) = false :=
    fun c first => decide_eq_false (parts.ends c first).1
  obtain ⟨noLeading, allTail⟩ := takeWhile_of_head? noData
  obtain ⟨noPadding, allRest⟩ := takeWhile_of_head? noPad
  have leading : text.takeWhile isData = data := by
    rw [parts.whole, List.takeWhile_append_of_pos parts.listed, noLeading, List.append_nil]
  have tail : text.dropWhile isData = List.replicate pads pad ++ rest := by
    rw [parts.whole, List.dropWhile_append_of_pos parts.listed, allTail]
  have isPad : ∀ c ∈ List.replicate pads pad, decide (c = pad) = true := by simp
  have padding : (List.replicate pads pad ++ rest).takeWhile (fun c => decide (c = pad)) =
      List.replicate pads pad := by
    rw [List.takeWhile_append_of_pos isPad, noPadding, List.append_nil]
  have remaining : (List.replicate pads pad ++ rest).dropWhile (fun c => decide (c = pad)) =
      rest := by
    rw [List.dropWhile_append_of_pos isPad, allRest]
  simp only [decode, leading, tail, padding, remaining, List.length_replicate]

/-! ## Texts that are decoded -/

/-- Padding completes the last group of the data. After whole groups it is passed over. -/
def Completes (pads count : Nat) : Prop :=
  count % 4 = 0 ∧ (pads = 0 ∨ 0 < count) ∨ count % 4 = 2 ∧ pads = 2 ∨ count % 4 = 3 ∧ pads = 1

structure FormOf (octets : List UInt8) (data : List Char) (pads : Nat) : Prop where
  listed : ∀ c ∈ data, c ∈ alphabet
  completes : Completes pads data.length
  denotes : Denotes data octets

theorem unfinished_eq_ok_iff {count : Nat} {rest : List Char} :
    checkEnd.unfinished count rest = .ok () ↔ rest = [] ∧ count % 4 = 0 := by
  cases rest with
  | nil =>
      unfold checkEnd.unfinished
      by_cases whole : count % 4 = 0
      · simp [whole]
      · simp only [whole, if_false, and_false, iff_false]
        split <;> simp
  | cons c others => simp [checkEnd.unfinished]

theorem paddingOf_eq {place : Nat} (h : place < 4) :
    paddingOf place = if place < 2 then none else some (4 - place) := by
  revert place
  decide

theorem checkEnd_of_paddingOf {count pads needed : Nat} {rest : List Char}
    (h : paddingOf (count % 4) = some needed) :
    checkEnd count pads rest =
      if pads < needed then checkEnd.unfinished count rest
      else if pads = needed ∧ rest = [] then .ok () else .error .dataAfterPadding := by
  simp only [checkEnd, h]
  by_cases enough : needed = pads
  · subst enough
    cases rest <;> simp
  · by_cases excess : needed < pads
    · have notFewer : ¬ pads < needed := by omega
      simp [excess, notFewer, Ne.symm enough]
    · have fewer : pads < needed := by omega
      simp [excess, enough, fewer]

theorem checkEnd_eq_ok_iff {count pads : Nat} {rest : List Char} :
    checkEnd count pads rest = .ok () ↔
      rest = [] ∧ (count % 4 = 0 ∨ count % 4 = 2 ∧ pads = 2 ∨ count % 4 = 3 ∧ pads = 1) := by
  have short : count % 4 < 4 := Nat.mod_lt _ (by decide)
  have padding := paddingOf_eq short
  by_cases early : count % 4 < 2
  · rw [if_pos early] at padding
    simp only [checkEnd, padding, unfinished_eq_ok_iff]
    refine and_congr_right fun _ => ?_
    omega
  · rw [if_neg early] at padding
    rw [checkEnd_of_paddingOf padding]
    split
    · rw [unfinished_eq_ok_iff]
      refine and_congr_right fun _ => ?_
      omega
    · split
      · rename_i ended
        exact iff_of_true rfl ⟨ended.2, by omega⟩
      · rename_i excess
        refine iff_of_false (by simp) ?_
        rintro ⟨none, complete⟩
        exact excess ⟨by omega, none⟩

theorem decode_eq_ok_iff {text : List Char} {octets : List UInt8} :
    decode text = .ok octets ↔
      ∃ data pads, text = data ++ List.replicate pads pad ∧ FormOf octets data pads := by
  constructor
  · intro h
    obtain ⟨data, pads, rest, parts⟩ := exists_parts text
    rw [decode_of_parts parts] at h
    split at h
    · cases h
    · split at h
      · cases h
      · rename_i leading
        obtain ⟨_, closed, rfl⟩ := map_eq_ok.1 h
        obtain ⟨rfl, completed⟩ := checkEnd_eq_ok_iff.1 closed
        have listed : ∀ c ∈ data, c ∈ alphabet := fun c mem => isData_iff.1 (parts.listed c mem)
        have begun : pads = 0 ∨ 0 < data.length := by
          simp only [Bool.and_eq_true, List.isEmpty_iff, decide_eq_true_eq, not_and] at leading
          rw [List.length_pos_iff]
          by_cases empty : data = []
          · exact .inl (Nat.eq_zero_of_not_pos (leading empty))
          · exact .inr empty
        refine ⟨data, pads, by simpa using parts.whole, listed, ?_, denotes_pack listed⟩
        unfold Completes
        omega
  · rintro ⟨data, pads, rfl, listed, completes, denotes⟩
    have parts : Parts (data ++ List.replicate pads pad) data pads [] := by
      refine ⟨by simp, fun c mem => isData_iff.2 (listed c mem), ?_⟩
      intro c none
      cases none
    unfold Completes at completes
    have closed : checkEnd data.length pads [] = .ok () := checkEnd_eq_ok_iff.2 ⟨rfl, by omega⟩
    have ascii : ¬ ((data ++ List.replicate pads pad).any fun c => 0x80 ≤ c.toNat) = true := by
      simp only [List.any_eq_true, List.mem_append, decide_eq_true_eq, not_exists, not_and,
        Nat.not_le]
      rintro c (mem | mem)
      · exact ascii_of_mem (listed c mem)
      · rw [List.eq_of_mem_replicate mem]
        decide
    have begun : ¬ (data.isEmpty && 0 < pads) = true := by
      simp only [Bool.and_eq_true, List.isEmpty_iff, decide_eq_true_eq, not_and]
      rintro rfl
      simp at completes
      omega
    rw [decode_of_parts parts, if_neg ascii, if_neg begun, closed,
      denotes.unique (denotes_pack listed)]
    rfl

/-! ## Written octets -/

theorem FormOf.cons {octets : List UInt8} {data : List Char} {pads : Nat} (a b c : UInt8)
    (form : FormOf octets data pads) :
    FormOf (a :: b :: c :: octets)
      (digit (a.toNat / 4) :: digit (a.toNat % 4 * 16 + b.toNat / 16) ::
        digit (b.toNat % 16 * 4 + c.toNat / 64) :: digit (c.toNat % 64) :: data) pads := by
  have ha := a.toNat_lt
  have hb := b.toNat_lt
  have hc := c.toNat_lt
  have first := digit_listed (n := a.toNat / 4) (by omega)
  have second := digit_listed (n := a.toNat % 4 * 16 + b.toNat / 16) (by omega)
  have third := digit_listed (n := b.toNat % 16 * 4 + c.toNat / 64) (by omega)
  have fourth := digit_listed (n := c.toNat % 64) (by omega)
  refine ⟨?_, ?_, ?_⟩
  · simp only [List.forall_mem_cons]
    exact ⟨first.1, second.1, third.1, fourth.1, form.listed⟩
  · have completes := form.completes
    unfold Completes at completes ⊢
    simp only [List.length_cons]
    omega
  · obtain ⟨spare, short, same⟩ := form.denotes
    have group := bits_three a.toNat hb hc
    refine ⟨spare, short, ?_⟩
    simp only [octetBits, List.flatMap_cons, first.2, second.2, third.2, fourth.2] at same ⊢
    simp only [same, ← List.append_assoc, group]

theorem exists_form_encode (octets : List UInt8) :
    ∃ data pads, encode octets = data ++ List.replicate pads pad ∧ FormOf octets data pads := by
  fun_induction encode octets with
  | case1 => exact ⟨[], 0, rfl, List.forall_mem_nil _, .inl ⟨rfl, .inl rfl⟩, [], by decide, rfl⟩
  | case2 a =>
      have ha := a.toNat_lt
      have first := digit_listed (n := a.toNat / 4) (by omega)
      have second := digit_listed (n := a.toNat % 4 * 16) (by omega)
      refine ⟨[digit (a.toNat / 4), digit (a.toNat % 4 * 16)], 2, rfl, ?_, .inr (.inl ⟨rfl, rfl⟩),
        bits 4 0, by decide, ?_⟩
      · simp only [List.forall_mem_cons]
        exact ⟨first.1, second.1, List.forall_mem_nil _⟩
      · simpa [octetBits, first.2, second.2] using bits_one a.toNat (t := 0) (by decide)
  | case3 a b =>
      have ha := a.toNat_lt
      have hb := b.toNat_lt
      have first := digit_listed (n := a.toNat / 4) (by omega)
      have second := digit_listed (n := a.toNat % 4 * 16 + b.toNat / 16) (by omega)
      have third := digit_listed (n := b.toNat % 16 * 4) (by omega)
      refine ⟨[digit (a.toNat / 4), digit (a.toNat % 4 * 16 + b.toNat / 16),
        digit (b.toNat % 16 * 4)], 1, rfl, ?_, .inr (.inr ⟨rfl, rfl⟩), bits 2 0, by decide, ?_⟩
      · simp only [List.forall_mem_cons]
        exact ⟨first.1, second.1, third.1, List.forall_mem_nil _⟩
      · simpa [octetBits, first.2, second.2, third.2] using
          bits_two a.toNat (t := 0) hb (by decide)
  | case4 a b c rest ih =>
      obtain ⟨data, pads, written, form⟩ := ih
      exact ⟨_, pads, by rw [written]; rfl, form.cons a b c⟩

theorem decode_encode (octets : List UInt8) : decode (encode octets) = .ok octets :=
  decode_eq_ok_iff.2 (exists_form_encode octets)

end BrokerBootstrap.Base64
