import BrokerBootstrap.Text.Blank
import BrokerBootstrap.Text.Digit

namespace BrokerBootstrap.Text

inductive IntegerError where
  | malformed
  | tooLong (digits : Nat)
  deriving DecidableEq, Repr

def maxDigits : Nat := 4300

/-- Reads on in a numeral, whose digits so far are given from the last to the first. The numeral
ends before the first character that is neither a digit nor an underscore, and a digit follows each
underscore. -/
def numeralFrom (read : List Nat) : List Char → Option (List Nat × List Char)
  | [] => some (read.reverse, [])
  | '_' :: c :: rest => (digit? c).bind fun d => numeralFrom (d :: read) rest
  | c :: rest =>
      match digit? c with
      | some d => numeralFrom (d :: read) rest
      | none => if c = '_' then none else some (read.reverse, c :: rest)

def numeral : List Char → Option (List Nat × List Char)
  | [] => none
  | c :: rest => (digit? c).bind fun d => numeralFrom [d] rest

def valueOfDigits (digits : List Nat) : Nat := digits.foldl (fun n d => n * 10 + d) 0

/-- The number without a sign. What follows a numeral does not count when the numeral is too
long. -/
def natural (cs : List Char) : Except IntegerError Nat :=
  match numeral cs with
  | none => .error .malformed
  | some (digits, rest) =>
      if maxDigits < digits.length then .error (.tooLong digits.length)
      else if rest.all isSpace then .ok (valueOfDigits digits)
      else .error .malformed

def integer (s : String) : Except IntegerError Int :=
  match s.toList.dropWhile isSpace with
  | '-' :: rest => (natural rest).map fun n => -(n : Int)
  | '+' :: rest => (natural rest).map Int.ofNat
  | rest => (natural rest).map Int.ofNat

end BrokerBootstrap.Text
