import BrokerBootstrap.Text.Quoted
import Mathlib.Tactic.Ring

/-!
# Reading quoted texts

A quoted text ends at its own mark, so it can be read from whatever follows it (`unquote?_quoted`).
The reader does not know which characters are printable: an escape says how far it reaches. No
control character stands in a quoted text (`le_toNat_of_mem_quoted`).
-/

namespace BrokerBootstrap.Text

def hexValue (c : Char) : Nat := if c.isDigit then c.toNat - '0'.toNat else c.toNat - 'a'.toNat + 10

theorem hexValue_hexDigit {n : Nat} (h : n < 16) : hexValue (hexDigit n) = n := by
  revert n
  decide

theorem le_toNat_hexDigit {n : Nat} (h : n < 16) : 32 ≤ (hexDigit n).toNat := by
  revert n
  decide

theorem hex_succ (width n : Nat) :
    hex (width + 1) n = hexDigit (n / 16 ^ width % 16) :: hex width n := by
  induction width generalizing n with
  | zero => simp [hex]
  | succ width ih =>
      have top : n / 16 / 16 ^ width = n / 16 ^ (width + 1) := by
        rw [Nat.div_div_eq_div_mul, Nat.pow_succ']
      rw [hex, ih, top, List.cons_append, hex]

theorem le_toNat_of_mem_hex {c : Char} {width n : Nat} (h : c ∈ hex width n) : 32 ≤ c.toNat := by
  induction width with
  | zero => cases h
  | succ width ih =>
      rw [hex_succ] at h
      rcases List.mem_cons.1 h with rfl | later
      · exact le_toNat_hexDigit (Nat.mod_lt _ (by decide))
      · exact ih later

inductive QuotePlace where
  | plain
  | escaped
  /-- In a number, from its value so far. One digit follows, and then as many as are left. -/
  | number (left value : Nat)

def digitsLeft? : Char → Option Nat
  | 'x' => some 1
  | 'u' => some 3
  | 'U' => some 7
  | _ => none

def unescape : Char → Char
  | 'n' => '\n'
  | 'r' => '\r'
  | 't' => '\t'
  | c => c

def unquoteFrom (mark : Char) : QuotePlace → List Char → Option (List Char)
  | _, [] => none
  | .plain, c :: rest =>
      if c = mark then some []
      else if c = '\\' then unquoteFrom mark .escaped rest
      else (unquoteFrom mark .plain rest).map (c :: ·)
  | .escaped, c :: rest =>
      match digitsLeft? c with
      | some left => unquoteFrom mark (.number left 0) rest
      | none => (unquoteFrom mark .plain rest).map (unescape c :: ·)
  | .number 0 value, c :: rest =>
      (unquoteFrom mark .plain rest).map (Char.ofNat (value * 16 + hexValue c) :: ·)
  | .number (left + 1) value, c :: rest =>
      unquoteFrom mark (.number left (value * 16 + hexValue c)) rest

def unquote? : List Char → Option (List Char)
  | [] => none
  | mark :: rest => unquoteFrom mark .plain rest

def IsMark (mark : Char) : Prop := mark = '\'' ∨ mark = '"'

theorem isMark_quotationMark (cs : List Char) : IsMark (quotationMark cs) := by
  unfold quotationMark
  split
  · exact .inr rfl
  · exact .inl rfl

variable {mark : Char}

theorem IsMark.ne_backslash (h : IsMark mark) : mark ≠ '\\' := by
  rcases h with rfl | rfl <;> decide

theorem IsMark.le_toNat (h : IsMark mark) : 32 ≤ mark.toNat := by
  rcases h with rfl | rfl <;> decide

theorem le_toNat_of_isPrintable {c : Char} (h : isPrintable c = true) : 32 ≤ c.toNat := by
  by_contra control
  have covered : covers unprintableRanges c.toNat = true := by
    have low : ¬ c.toNat < 0 := Nat.not_lt_zero _
    have high : c.toNat ≤ 0x1F := Nat.le_of_lt_succ (Nat.lt_of_not_le control)
    rw [unprintableRanges, covers, if_neg low, Bool.or_eq_true]
    exact .inl (decide_eq_true high)
  simp [isPrintable, covered] at h

/-- The ways to write a character between two marks: as it is, by a letter, or by its number. -/
inductive Written (mark c : Char) : List Char → Prop
  | plain (shown : 32 ≤ c.toNat) (notMark : c ≠ mark) (notBackslash : c ≠ '\\') :
      Written mark c [c]
  | letter {letter : Char} (shown : 32 ≤ letter.toNat) (lone : digitsLeft? letter = none)
      (stands : unescape letter = c) : Written mark c ['\\', letter]
  | number {letter : Char} {left : Nat} (shown : 32 ≤ letter.toNat)
      (digits : digitsLeft? letter = some left) (short : c.toNat < 16 ^ (left + 1)) :
      Written mark c ('\\' :: letter :: hex (left + 1) c.toNat)

theorem written_escape (h : IsMark mark) (c : Char) : Written mark c (escape mark c) := by
  unfold escape
  split
  · rename_i special
    -- The mark and the backslash are the letters of their own escapes.
    have literal : 32 ≤ c.toNat ∧ digitsLeft? c = none ∧ unescape c = c := by
      rw [Bool.or_eq_true, decide_eq_true_eq, decide_eq_true_eq] at special
      rcases special with rfl | rfl
      · rcases h with rfl | rfl <;> decide
      · decide
    exact .letter literal.1 literal.2.1 literal.2.2
  rename_i ordinary
  split
  · rename_i feed
    exact .letter (by decide) rfl feed.symm
  split
  · rename_i feed
    exact .letter (by decide) rfl feed.symm
  split
  · rename_i tab
    exact .letter (by decide) rfl tab.symm
  split
  · rename_i printable
    simp only [Bool.or_eq_true, decide_eq_true_eq, not_or] at ordinary
    exact .plain (le_toNat_of_isPrintable printable) ordinary.1 ordinary.2
  split
  · rename_i short
    exact .number (by decide) rfl short
  split
  · rename_i short
    exact .number (by decide) rfl short
  · exact .number (by decide) rfl c.val.toNat_lt

theorem unquoteFrom_hex (mark : Char) (left value n : Nat) (rest : List Char) :
    unquoteFrom mark (.number left value) (hex (left + 1) n ++ rest) =
      (unquoteFrom mark .plain rest).map
        (Char.ofNat (value * 16 ^ (left + 1) + n % 16 ^ (left + 1)) :: ·) := by
  -- The digits come from the highest down, whatever value has been read before them.
  induction left generalizing value with
  | zero =>
      have digit := hexValue_hexDigit (Nat.mod_lt n (y := 16) (by decide))
      simp [hex, unquoteFrom, digit]
  | succ left ih =>
      let top := n / 16 ^ (left + 1) % 16
      have digit : hexValue (hexDigit top) = top := hexValue_hexDigit (Nat.mod_lt _ (by decide))
      have whole : (value * 16 + top) * 16 ^ (left + 1) + n % 16 ^ (left + 1) =
          value * 16 ^ (left + 2) + n % 16 ^ (left + 2) := by
        rw [Nat.mod_pow_succ (k := left + 1)]
        ring
      rw [hex_succ, List.cons_append, unquoteFrom, digit, ih, whole]

theorem unquoteFrom_written (h : IsMark mark) {c : Char} {written : List Char}
    (way : Written mark c written) (rest : List Char) :
    unquoteFrom mark .plain (written ++ rest) = (unquoteFrom mark .plain rest).map (c :: ·) := by
  have escapes := h.ne_backslash.symm
  cases way with
  | plain _ notMark notBackslash => simp [unquoteFrom, notMark, notBackslash]
  | letter _ lone stands => simp [unquoteFrom, escapes, lone, stands]
  | @number letter left _ digits short =>
      have begun : unquoteFrom mark .plain ('\\' :: letter :: hex (left + 1) c.toNat ++ rest) =
          unquoteFrom mark (.number left 0) (hex (left + 1) c.toNat ++ rest) := by
        simp [unquoteFrom, escapes, digits]
      rw [begun, unquoteFrom_hex, Nat.zero_mul, Nat.zero_add, Nat.mod_eq_of_lt short,
        Char.ofNat_toNat]

theorem unquoteFrom_flatMap (h : IsMark mark) (cs rest : List Char) :
    unquoteFrom mark .plain (cs.flatMap (escape mark) ++ mark :: rest) = some cs := by
  induction cs with
  | nil => simp [unquoteFrom]
  | cons c others ih =>
      rw [List.flatMap_cons, List.append_assoc, unquoteFrom_written h (written_escape h c), ih,
        Option.map_some]

theorem unquote?_quoted (cs rest : List Char) : unquote? (quoted cs ++ rest) = some cs := by
  have read := unquoteFrom_flatMap (isMark_quotationMark cs) cs rest
  simpa [quoted, unquote?] using read

theorem Written.le_toNat {c d : Char} {written : List Char} (way : Written mark c written)
    (mem : d ∈ written) : 32 ≤ d.toNat := by
  have backslash : 32 ≤ '\\'.toNat := by decide
  cases way with
  | plain shown => rwa [List.mem_singleton.1 mem]
  | letter shown =>
      rcases List.mem_cons.1 mem with rfl | later
      · exact backslash
      · rwa [List.mem_singleton.1 later]
  | number shown =>
      rcases List.mem_cons.1 mem with rfl | later
      · exact backslash
      rcases List.mem_cons.1 later with rfl | digit
      · exact shown
      · exact le_toNat_of_mem_hex digit

theorem le_toNat_of_mem_quoted {cs : List Char} {d : Char} (mem : d ∈ quoted cs) :
    32 ≤ d.toNat := by
  have mark := isMark_quotationMark cs
  simp only [quoted, List.mem_append, List.mem_cons, List.mem_flatMap, List.not_mem_nil,
    or_false] at mem
  rcases mem with (rfl | ⟨c, -, written⟩) | rfl
  · exact mark.le_toNat
  · exact (written_escape mark c).le_toNat written
  · exact mark.le_toNat

end BrokerBootstrap.Text
