import BrokerBootstrap.Encoding.Utf8
import BrokerBootstrap.Proofs.Computations
import Mathlib.Algebra.Group.Nat.Defs
import Mathlib.Tactic.SplitIfs

/-!
# Octets of scalar values

Decoding accepts the forms of texts and no other octets, and gives back the text
(`decode_eq_ok_iff`). A scalar value has one form: an octet for its leading bits, and an octet for
each sextet after them. A sequence that decoding has begun can still become the scalar values that
it awaits, and its octets begin the form of each of them (`Pending.Opens`).
-/

namespace BrokerBootstrap.Utf8

/-! ## Forms -/

def sextets : Nat → Nat → List UInt8
  | 0, _ => []
  | later + 1, n => UInt8.ofNat (n / 64 ^ later % 64 + 0x80) :: sextets later n

section Form

variable {n : Nat} (valid : n.isValidChar)
include valid

theorem val_ofNat : (Char.ofNat n).val.toNat = n := by
  rw [Char.ofNat, dif_pos valid]
  rfl

theorem form_of_lt_80 (high : n < 0x80) :
    String.utf8EncodeChar (Char.ofNat n) = [UInt8.ofNat n] := by
  rw [String.utf8EncodeChar, val_ofNat valid, if_pos (by omega)]

theorem form_of_lt_800 (low : 0x80 ≤ n) (high : n < 0x800) :
    String.utf8EncodeChar (Char.ofNat n) = UInt8.ofNat (n / 64 + 0xC0) :: sextets 1 n := by
  have lead : n / 64 % 32 = n / 64 := by omega
  rw [String.utf8EncodeChar, val_ofNat valid, if_neg (by omega), if_pos (by omega), lead]
  simp [sextets]

theorem form_of_lt_10000 (low : 0x800 ≤ n) (high : n < 0x10000) :
    String.utf8EncodeChar (Char.ofNat n) = UInt8.ofNat (n / 4096 + 0xE0) :: sextets 2 n := by
  have lead : n / 4096 % 16 = n / 4096 := by omega
  rw [String.utf8EncodeChar, val_ofNat valid, if_neg (by omega), if_neg (by omega),
    if_pos (by omega), lead]
  simp [sextets]

theorem form_of_le (low : 0x10000 ≤ n) :
    String.utf8EncodeChar (Char.ofNat n) = UInt8.ofNat (n / 262144 + 0xF0) :: sextets 3 n := by
  have lead : n / 262144 % 8 = n / 262144 := by
    unfold Nat.isValidChar at valid
    omega
  rw [String.utf8EncodeChar, val_ofNat valid, if_neg (by omega), if_neg (by omega),
    if_neg (by omega), lead]
  simp [sextets]

end Form

/-! ## Sequences that have begun -/

namespace Pending

/-- A number that the sequence can still become: its leading bits have been read, and the octet of
its next sextet lies within the bounds. -/
structure Awaits (p : Pending) (n : Nat) : Prop where
  lead : n / 64 ^ (p.later + 1) = p.bits
  low : p.low ≤ n / 64 ^ p.later % 64 + 0x80
  high : n / 64 ^ p.later % 64 + 0x80 ≤ p.high

structure Opens (p : Pending) : Prop where
  low : 0x80 ≤ p.low
  high : p.high ≤ 0xBF
  form : ∀ n, p.Awaits n → n.isValidChar ∧
    String.utf8EncodeChar (Char.ofNat n) = p.octets ++ sextets (p.later + 1) n

theorem low_opened (octet : UInt8) (bits later : Nat) :
    (opened octet bits later).low =
      if octet.toNat = 0xE0 then 0xA0 else if octet.toNat = 0xF0 then 0x90 else 0x80 := by
  simp [opened, ← UInt8.toNat_inj]

theorem high_opened (octet : UInt8) (bits later : Nat) :
    (opened octet bits later).high =
      if octet.toNat = 0xED then 0x9F else if octet.toNat = 0xF4 then 0x8F else 0xBF := by
  simp [opened, ← UInt8.toNat_inj]

theorem le_low_opened (octet : UInt8) (bits later : Nat) :
    0x80 ≤ (opened octet bits later).low := by
  rw [low_opened]
  split
  · decide
  · split <;> decide

theorem high_opened_le (octet : UInt8) (bits later : Nat) :
    (opened octet bits later).high ≤ 0xBF := by
  rw [high_opened]
  split
  · decide
  · split <;> decide

theorem awaits_opened_iff {octet : UInt8} {bits later n : Nat} :
    (opened octet bits later).Awaits n ↔
      n / 64 ^ (later + 1) = bits ∧
      (if octet.toNat = 0xE0 then 0xA0 else if octet.toNat = 0xF0 then 0x90 else 0x80) ≤
        n / 64 ^ later % 64 + 0x80 ∧
      n / 64 ^ later % 64 + 0x80 ≤
        (if octet.toNat = 0xED then 0x9F else if octet.toNat = 0xF4 then 0x8F else 0xBF) := by
  rw [← low_opened octet bits later, ← high_opened octet bits later]
  constructor
  · rintro ⟨lead, low, high⟩
    exact ⟨lead, low, high⟩
  · rintro ⟨lead, low, high⟩
    exact ⟨lead, low, high⟩

theorem awaits_two_iff {octet : UInt8} {n : Nat} (low : 0xC2 ≤ octet.toNat)
    (high : octet.toNat < 0xE0) :
    (opened octet (octet.toNat - 0xC0) 0).Awaits n ↔ n / 64 + 0xC0 = octet.toNat := by
  rw [awaits_opened_iff, if_neg (by omega), if_neg (by omega), if_neg (by omega),
    if_neg (by omega)]
  omega

theorem awaits_three_iff {octet : UInt8} {n : Nat} (low : 0xE0 ≤ octet.toNat)
    (high : octet.toNat < 0xF0) :
    (opened octet (octet.toNat - 0xE0) 1).Awaits n ↔
      n / 4096 + 0xE0 = octet.toNat ∧ 0x800 ≤ n ∧ (n < 0xD800 ∨ 0xDFFF < n) := by
  have notFour : octet.toNat ≠ 0xF0 ∧ octet.toNat ≠ 0xF4 := by omega
  rw [awaits_opened_iff, if_neg notFour.1, if_neg notFour.2]
  split <;> split <;> omega

theorem awaits_four_iff {octet : UInt8} {n : Nat} (low : 0xF0 ≤ octet.toNat)
    (high : octet.toNat < 0xF5) :
    (opened octet (octet.toNat - 0xF0) 2).Awaits n ↔
      n / 262144 + 0xF0 = octet.toNat ∧ 0x10000 ≤ n ∧ n < 0x110000 := by
  rw [awaits_opened_iff, if_neg (by omega), if_neg (show octet.toNat ≠ 0xED by omega)]
  split <;> split <;> omega

theorem opens_two {octet : UInt8} (low : 0xC2 ≤ octet.toNat) (high : octet.toNat < 0xE0) :
    (opened octet (octet.toNat - 0xC0) 0).Opens := by
  refine ⟨le_low_opened _ _ _, high_opened_le _ _ _, fun n awaited => ?_⟩
  rw [awaits_two_iff low high] at awaited
  have valid : n.isValidChar := .inl (by omega)
  rw [form_of_lt_800 valid (by omega) (by omega), awaited, UInt8.ofNat_toNat]
  exact ⟨valid, rfl⟩

theorem opens_three {octet : UInt8} (low : 0xE0 ≤ octet.toNat) (high : octet.toNat < 0xF0) :
    (opened octet (octet.toNat - 0xE0) 1).Opens := by
  refine ⟨le_low_opened _ _ _, high_opened_le _ _ _, fun n awaited => ?_⟩
  obtain ⟨lead, least, scalar⟩ := (awaits_three_iff low high).1 awaited
  have valid : n.isValidChar := by
    unfold Nat.isValidChar
    omega
  rw [form_of_lt_10000 valid least (by omega), lead, UInt8.ofNat_toNat]
  exact ⟨valid, rfl⟩

theorem opens_four {octet : UInt8} (low : 0xF0 ≤ octet.toNat) (high : octet.toNat < 0xF5) :
    (opened octet (octet.toNat - 0xF0) 2).Opens := by
  refine ⟨le_low_opened _ _ _, high_opened_le _ _ _, fun n awaited => ?_⟩
  obtain ⟨lead, least, most⟩ := (awaits_four_iff low high).1 awaited
  have valid : n.isValidChar := .inr (by omega)
  rw [form_of_le valid least, lead, UInt8.ofNat_toNat]
  exact ⟨valid, rfl⟩

variable {p q : Pending} {octet : UInt8} {c : Char} {n : Nat}

def bitsWith (p : Pending) (octet : UInt8) : Nat := p.bits * 64 + (octet.toNat - 0x80)

theorem next_of_within (low : p.low ≤ octet.toNat) (high : octet.toNat ≤ p.high) :
    p.next octet =
      match p.later with
      | 0 => .scalar (Char.ofNat (p.bitsWith octet))
      | later + 1 => .pending ⟨p.octets ++ [octet], p.bitsWith octet, later, 0x80, 0xBF⟩ := by
  have within : ¬ (octet.toNat < p.low || p.high < octet.toNat) = true := by
    simp only [Bool.or_eq_true, decide_eq_true_eq, not_or, Nat.not_lt]
    exact ⟨low, high⟩
  simp only [next, if_neg within]
  rfl

theorem next_eq_refused_iff :
    p.next octet = .refused ↔ ¬ (p.low ≤ octet.toNat ∧ octet.toNat ≤ p.high) := by
  constructor
  · rintro refused ⟨low, high⟩
    rw [next_of_within low high] at refused
    split at refused <;> cases refused
  · intro outside
    have outside' : (octet.toNat < p.low || p.high < octet.toNat) = true := by
      simp only [Bool.or_eq_true, decide_eq_true_eq]
      omega
    simp only [next, if_pos outside']

theorem next_cases (h : p.next octet ≠ .refused) :
    p.low ≤ octet.toNat ∧ octet.toNat ≤ p.high ∧
      (p.later = 0 ∧ p.next octet = .scalar (Char.ofNat (p.bitsWith octet)) ∨
        ∃ later, p.later = later + 1 ∧ p.next octet =
          .pending ⟨p.octets ++ [octet], p.bitsWith octet, later, 0x80, 0xBF⟩) := by
  obtain ⟨low, high⟩ := Decidable.not_not.1 (mt next_eq_refused_iff.2 h)
  refine ⟨low, high, ?_⟩
  rw [next_of_within low high]
  cases p.later with
  | zero => exact .inl ⟨rfl, rfl⟩
  | succ later => exact .inr ⟨later, rfl, rfl⟩

theorem Opens.awaits_of_div_eq (opens : p.Opens) (low : p.low ≤ octet.toNat)
    (high : octet.toNat ≤ p.high) (h : n / 64 ^ p.later = p.bitsWith octet) :
    p.Awaits n ∧ sextets (p.later + 1) n = octet :: sextets p.later n := by
  have least := opens.low
  have most := opens.high
  unfold bitsWith at h
  have sextet : n / 64 ^ p.later % 64 + 0x80 = octet.toNat := by omega
  refine ⟨⟨?_, ?_, ?_⟩, ?_⟩
  · rw [Nat.pow_succ, ← Nat.div_div_eq_div_mul]
    omega
  · omega
  · omega
  · rw [sextets, sextet, UInt8.ofNat_toNat]

theorem Opens.form_of_scalar (opens : p.Opens) (h : p.next octet = .scalar c) :
    String.utf8EncodeChar c = p.octets ++ [octet] := by
  obtain ⟨low, high, ⟨last, step⟩ | ⟨later, -, step⟩⟩ := next_cases (p := p) (by rw [h]; simp)
  · have whole : p.bitsWith octet / 64 ^ p.later = p.bitsWith octet := by
      simp [last]
    obtain ⟨awaited, split⟩ := opens.awaits_of_div_eq low high whole
    have form := (opens.form (p.bitsWith octet) awaited).2
    rw [← Step.scalar.inj (step.symm.trans h), form, split, last, sextets]
  · cases step.symm.trans h

theorem Opens.next (opens : p.Opens) (h : p.next octet = .pending q) :
    q.octets = p.octets ++ [octet] ∧ q.Opens := by
  obtain ⟨low, high, ⟨-, step⟩ | ⟨later, more, step⟩⟩ := next_cases (p := p) (by rw [h]; simp)
  · cases step.symm.trans h
  · rw [← Step.pending.inj (step.symm.trans h)]
    refine ⟨rfl, Nat.le_refl _, Nat.le_refl _, fun n awaited => ?_⟩
    have lead : n / 64 ^ p.later = p.bitsWith octet := by
      rw [more]
      exact awaited.lead
    obtain ⟨awaited', split⟩ := opens.awaits_of_div_eq low high lead
    obtain ⟨valid, form⟩ := opens.form n awaited'
    refine ⟨valid, ?_⟩
    rw [form, split, more]
    simp

theorem Awaits.next (awaited : p.Awaits n) :
    (p.later = 0 ∧
        p.next (UInt8.ofNat (n / 64 ^ p.later % 64 + 0x80)) = .scalar (Char.ofNat n)) ∨
      ∃ q, p.next (UInt8.ofNat (n / 64 ^ p.later % 64 + 0x80)) = .pending q ∧
        p.later = q.later + 1 ∧ q.Awaits n := by
  have value : (UInt8.ofNat (n / 64 ^ p.later % 64 + 0x80)).toNat =
      n / 64 ^ p.later % 64 + 0x80 := by
    rw [UInt8.toNat_ofNat']
    omega
  generalize UInt8.ofNat (n / 64 ^ p.later % 64 + 0x80) = octet at value ⊢
  have bits : p.bitsWith octet = n / 64 ^ p.later := by
    unfold bitsWith
    rw [value, ← awaited.lead, Nat.pow_succ, ← Nat.div_div_eq_div_mul]
    omega
  have least := awaited.low
  have most := awaited.high
  rw [next_of_within (by omega) (by omega), bits]
  cases more : p.later with
  | zero => exact .inl ⟨rfl, by simp⟩
  | succ later =>
      refine .inr ⟨_, rfl, rfl, ⟨rfl, ?_, ?_⟩⟩
      · exact Nat.le_add_left _ _
      · show n / 64 ^ later % 64 + 0x80 ≤ 0xBF
        omega

end Pending

/-! ## First octets -/

variable {octet : UInt8} {c : Char} {p : Pending}

theorem form_of_start_eq_scalar (h : start octet = .scalar c) :
    String.utf8EncodeChar c = [octet] := by
  simp only [start] at h
  split_ifs at h with ascii
  rw [← Step.scalar.inj h, form_of_lt_80 (.inl (by omega)) ascii, UInt8.ofNat_toNat]

theorem opens_of_start_eq_pending (h : start octet = .pending p) :
    p.octets = [octet] ∧ p.Opens := by
  simp only [start] at h
  split_ifs at h with ascii inner two three four <;> cases h
  · exact ⟨rfl, Pending.opens_two (by omega) (by omega)⟩
  · exact ⟨rfl, Pending.opens_three (by omega) (by omega)⟩
  · exact ⟨rfl, Pending.opens_four (by omega) (by omega)⟩

theorem start_two (low : 0xC2 ≤ octet.toNat) (high : octet.toNat < 0xE0) :
    start octet = .pending (.opened octet (octet.toNat - 0xC0) 0) := by
  simp only [start]
  rw [if_neg (by omega), if_neg (by omega), if_pos high]

theorem start_three (low : 0xE0 ≤ octet.toNat) (high : octet.toNat < 0xF0) :
    start octet = .pending (.opened octet (octet.toNat - 0xE0) 1) := by
  simp only [start]
  rw [if_neg (by omega), if_neg (by omega), if_neg (by omega), if_pos high]

theorem start_four (low : 0xF0 ≤ octet.toNat) (high : octet.toNat < 0xF5) :
    start octet = .pending (.opened octet (octet.toNat - 0xF0) 2) := by
  simp only [start]
  rw [if_neg (by omega), if_neg (by omega), if_neg (by omega), if_neg (by omega), if_pos high]

theorem start_of_form {n : Nat} (valid : n.isValidChar) :
    (∃ octet, String.utf8EncodeChar (Char.ofNat n) = [octet] ∧
        start octet = .scalar (Char.ofNat n)) ∨
      ∃ octet p, String.utf8EncodeChar (Char.ofNat n) = octet :: sextets (p.later + 1) n ∧
        start octet = .pending p ∧ p.Awaits n := by
  have inside : n < 0xD800 ∨ 0xDFFF < n ∧ n < 0x110000 := valid
  -- By the length of the form, which bounds the number from both sides.
  by_cases ascii : n < 0x80
  · left
    refine ⟨UInt8.ofNat n, form_of_lt_80 valid ascii, ?_⟩
    have value : (UInt8.ofNat n).toNat = n := UInt8.toNat_ofNat_of_lt' (show _ < 256 by omega)
    simp only [start, value, if_pos ascii]
  · right
    by_cases two : n < 0x800
    · have value : (UInt8.ofNat (n / 64 + 0xC0)).toNat = n / 64 + 0xC0 :=
        UInt8.toNat_ofNat_of_lt' (show _ < 256 by omega)
      refine ⟨_, _, form_of_lt_800 valid (by omega) two, start_two (by omega) (by omega), ?_⟩
      rw [Pending.awaits_two_iff (by omega) (by omega), value]
    · by_cases three : n < 0x10000
      · have value : (UInt8.ofNat (n / 4096 + 0xE0)).toNat = n / 4096 + 0xE0 :=
          UInt8.toNat_ofNat_of_lt' (show _ < 256 by omega)
        refine ⟨_, _, form_of_lt_10000 valid (by omega) three,
          start_three (by omega) (by omega), ?_⟩
        rw [Pending.awaits_three_iff (by omega) (by omega), value]
        omega
      · have value : (UInt8.ofNat (n / 262144 + 0xF0)).toNat = n / 262144 + 0xF0 :=
          UInt8.toNat_ofNat_of_lt' (show _ < 256 by omega)
        refine ⟨_, _, form_of_le valid (by omega), start_four (by omega) (by omega), ?_⟩
        rw [Pending.awaits_four_iff (by omega) (by omega), value]
        omega

/-! ## Texts -/

theorem decodeFrom_sextets {n : Nat} (p : Pending) (awaited : p.Awaits n) (position : Nat)
    (rest : List UInt8) :
    ∃ after, decodeFrom position (some p) (sextets (p.later + 1) n ++ rest) =
      (decodeFrom after none rest).map (Char.ofNat n :: ·) := by
  induction later : p.later generalizing p with
  | zero =>
      rcases awaited.next with ⟨-, last⟩ | ⟨q, -, more, -⟩
      · rw [later] at last
        refine ⟨position + p.octets.length + 1, ?_⟩
        simp only [sextets, List.cons_append, List.nil_append, decodeFrom, last]
      · omega
  | succ later' ih =>
      rcases awaited.next with ⟨none, -⟩ | ⟨q, next, more, awaited'⟩
      · omega
      · obtain ⟨after, rest⟩ := ih q awaited' (by omega)
        rw [later] at next
        refine ⟨after, ?_⟩
        rw [sextets, List.cons_append, decodeFrom, next]
        exact rest

theorem decodeFrom_form (c : Char) (position : Nat) (rest : List UInt8) :
    ∃ after, decodeFrom position none (String.utf8EncodeChar c ++ rest) =
      (decodeFrom after none rest).map (c :: ·) := by
  have valid : c.toNat.isValidChar := c.valid
  rw [← Char.ofNat_toNat c]
  rcases start_of_form valid with ⟨octet, form, whole⟩ | ⟨octet, p, form, first, awaited⟩
  · refine ⟨position + 1, ?_⟩
    rw [form, List.cons_append, List.nil_append, decodeFrom, whole]
  · rw [form, List.cons_append, decodeFrom, first]
    exact decodeFrom_sextets p awaited position rest

theorem decodeFrom_encode (cs : List Char) (position : Nat) :
    decodeFrom position none (cs.flatMap String.utf8EncodeChar) = .ok cs := by
  induction cs generalizing position with
  | nil => rfl
  | cons c rest ih =>
      obtain ⟨after, first⟩ := decodeFrom_form c position (rest.flatMap String.utf8EncodeChar)
      rw [List.flatMap_cons, first, ih]
      rfl

def begun : Option Pending → List UInt8
  | none => []
  | some p => p.octets

theorem encode_of_decodeFrom {position : Nat} {pending : Option Pending} {octets : List UInt8}
    {cs : List Char} (opens : ∀ p ∈ pending, p.Opens)
    (h : decodeFrom position pending octets = .ok cs) :
    begun pending ++ octets = cs.flatMap String.utf8EncodeChar := by
  -- The octets of a sequence that has begun stand before those that are left.
  induction octets generalizing position pending cs with
  | nil =>
      cases pending with
      | none =>
          cases h
          rfl
      | some p => cases h
  | cons octet rest ih =>
      cases pending with
      | none =>
          rw [decodeFrom] at h
          cases step : start octet with
          | refused =>
              rw [step] at h
              cases h
          | scalar c =>
              rw [step] at h
              obtain ⟨cs', decoded, rfl⟩ := map_eq_ok.1 h
              have others := ih (by simp) decoded
              rw [List.flatMap_cons, form_of_start_eq_scalar step, ← others]
              rfl
          | pending q =>
              rw [step] at h
              obtain ⟨octets, opens'⟩ := opens_of_start_eq_pending step
              have others := ih (by simpa using opens') h
              rw [← others, begun, begun, octets]
              rfl
      | some p =>
          have opens' : p.Opens := opens p rfl
          rw [decodeFrom] at h
          cases step : p.next octet with
          | refused =>
              rw [step] at h
              cases h
          | scalar c =>
              rw [step] at h
              obtain ⟨cs', decoded, rfl⟩ := map_eq_ok.1 h
              have others := ih (by simp) decoded
              rw [List.flatMap_cons, opens'.form_of_scalar step, ← others]
              simp [begun]
          | pending q =>
              rw [step] at h
              obtain ⟨octets, opensNext⟩ := opens'.next step
              have others := ih (by simpa using opensNext) h
              rw [← others, begun, begun, octets]
              simp

theorem decode_eq_ok_iff {octets : List UInt8} {text : String} :
    decode octets = .ok text ↔ octets = encode text := by
  unfold decode encode
  constructor
  · intro h
    obtain ⟨cs, decoded, rfl⟩ := map_eq_ok.1 h
    rw [String.toList_ofList]
    exact encode_of_decodeFrom (by simp) decoded
  · rintro rfl
    rw [decodeFrom_encode]
    exact congrArg Except.ok String.ofList_toList

end BrokerBootstrap.Utf8
