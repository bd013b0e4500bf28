/-!
# Base64

Octets written with an alphabet of sixty-four characters, four characters for three octets, and
padded at the end. Decoding is strict: besides the data and its padding nothing may stand in the
text. The bits of the last character that no octet takes are not looked at.
-/

namespace BrokerBootstrap.Base64

def pad : Char := '='

def digit (n : Nat) : Char :=
  if n < 26 then Char.ofNat (n + 65)
  else if n < 52 then Char.ofNat (n + 71)
  else if n < 62 then Char.ofNat (n - 4)
  else if n = 62 then '+'
  else '/'

def value? (c : Char) : Option Nat :=
  let n := c.toNat
  if 65 ≤ n && n ≤ 90 then some (n - 65)
  else if 97 ≤ n && n ≤ 122 then some (n - 71)
  else if 48 ≤ n && n ≤ 57 then some (n + 4)
  else if c = '+' then some 62
  else if c = '/' then some 63
  else none

def isData (c : Char) : Bool := (value? c).isSome

theorem value?_digit {n : Nat} (h : n < 64) : value? (digit n) = some n := by
  revert n
  decide

def encode : List UInt8 → List Char
  | [] => []
  | [a] => [digit (a.toNat / 4), digit (a.toNat % 4 * 16), pad, pad]
  | [a, b] =>
      [digit (a.toNat / 4), digit (a.toNat % 4 * 16 + b.toNat / 16), digit (b.toNat % 16 * 4), pad]
  | a :: b :: c :: rest =>
      digit (a.toNat / 4) :: digit (a.toNat % 4 * 16 + b.toNat / 16) ::
        digit (b.toNat % 16 * 4 + c.toNat / 64) :: digit (c.toNat % 64) :: encode rest

def pack : List Nat → List UInt8
  | a :: b :: c :: d :: rest =>
      UInt8.ofNat (a * 4 + b / 16) :: UInt8.ofNat (b % 16 * 16 + c / 4) ::
        UInt8.ofNat (c % 4 * 64 + d) :: pack rest
  | [a, b, c] => [UInt8.ofNat (a * 4 + b / 16), UInt8.ofNat (b % 16 * 16 + c / 4)]
  | [a, b] => [UInt8.ofNat (a * 4 + b / 16)]
  | _ => []

inductive DecodeError where
  | nonAscii
  | leadingPadding
  | foreignCharacter
  | discontinuousPadding
  | dataAfterPadding
  | loneCharacter (count : Nat)
  | missingPadding
  deriving DecidableEq, Repr

def DecodeError.message : DecodeError → String
  | .nonAscii => "string argument should contain only ASCII characters"
  | .leadingPadding => "Leading padding not allowed"
  | .foreignCharacter => "Only base64 data is allowed"
  | .discontinuousPadding => "Discontinuous padding not allowed"
  | .dataAfterPadding => "Excess data after padding"
  | .loneCharacter count =>
      s!"Invalid base64-encoded string: number of data characters ({count}) cannot be 1 more " ++
        "than a multiple of 4"
  | .missingPadding => "Incorrect padding"

def paddingOf : Nat → Option Nat
  | 2 => some 2
  | 3 => some 1
  | _ => none

/-- What stands after the data and its padding decides, unless the padding completes the last
group: then nothing may follow. Padding after a whole number of groups is passed over. -/
def checkEnd (count pads : Nat) (rest : List Char) : Except DecodeError Unit :=
  match paddingOf (count % 4) with
  | some needed =>
      if needed < pads || (needed = pads && !rest.isEmpty) then .error .dataAfterPadding
      else if needed = pads then .ok ()
      else unfinished rest
  | none => unfinished rest
where
  unfinished : List Char → Except DecodeError Unit
    | [] =>
        if count % 4 = 0 then .ok ()
        else if count % 4 = 1 then .error (.loneCharacter count)
        else .error .missingPadding
    | c :: _ => .error (if isData c then .discontinuousPadding else .foreignCharacter)

def decode (text : List Char) : Except DecodeError (List UInt8) :=
  let data := text.takeWhile isData
  let tail := text.dropWhile isData
  let pads := (tail.takeWhile (· = pad)).length
  if text.any (fun c => 0x80 ≤ c.toNat) then .error .nonAscii
  else if data.isEmpty && 0 < pads then .error .leadingPadding
  else (checkEnd data.length pads (tail.dropWhile (· = pad))).map
    fun _ => pack (data.filterMap value?)

end BrokerBootstrap.Base64
