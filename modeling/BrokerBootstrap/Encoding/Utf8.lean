import BrokerBootstrap.Text.Hex

/-!
# UTF-8

Texts as octets. Decoding reads one octet at a time; an octet either completes a scalar value,
leaves a sequence open, or is refused. A sequence is refused at the first octet that no scalar
value continues it with, so an error covers the longest run of octets that some scalar value
begins with.
-/

namespace BrokerBootstrap.Utf8

def encode (s : String) : List UInt8 := s.toList.flatMap String.utf8EncodeChar

inductive Reason where
  | invalidStart
  | invalidContinuation
  | truncated
  deriving DecidableEq, Repr

def Reason.text : Reason → String
  | .invalidStart => "invalid start byte"
  | .invalidContinuation => "invalid continuation byte"
  | .truncated => "unexpected end of data"

structure DecodeError where
  position : Nat
  octets : List UInt8
  reason : Reason
  deriving DecidableEq, Repr

def DecodeError.subject (e : DecodeError) : String :=
  match e.octets with
  | [octet] => s!"byte 0x{String.ofList (Text.hex 2 octet.toNat)} in position {e.position}"
  | octets => s!"bytes in position {e.position}-{e.position + octets.length - 1}"

def DecodeError.message (e : DecodeError) : String :=
  s!"'utf-8' codec can't decode {e.subject}: {e.reason.text}"

/-- A sequence of which at least one octet is still to come: its octets so far, the bits they
carry, how many octets follow the next one, and the bounds of the next one. -/
structure Pending where
  octets : List UInt8
  bits : Nat
  later : Nat
  low : Nat
  high : Nat
  deriving DecidableEq, Repr

inductive Step where
  | scalar (c : Char)
  | pending (p : Pending)
  | refused
  deriving DecidableEq, Repr

/-- The sequence that a first octet opens. The bounds of the second octet keep out overlong forms
(after E0 and F0), surrogates (after ED) and values above the last scalar value (after F4). -/
def Pending.opened (octet : UInt8) (bits later : Nat) : Pending where
  octets := [octet]
  bits := bits
  later := later
  low := if octet = 0xE0 then 0xA0 else if octet = 0xF0 then 0x90 else 0x80
  high := if octet = 0xED then 0x9F else if octet = 0xF4 then 0x8F else 0xBF

def start (octet : UInt8) : Step :=
  let n := octet.toNat
  if n < 0x80 then .scalar (Char.ofNat n)
  else if n < 0xC2 then .refused
  else if n < 0xE0 then .pending (.opened octet (n - 0xC0) 0)
  else if n < 0xF0 then .pending (.opened octet (n - 0xE0) 1)
  else if n < 0xF5 then .pending (.opened octet (n - 0xF0) 2)
  else .refused

def Pending.next (p : Pending) (octet : UInt8) : Step :=
  let n := octet.toNat
  if n < p.low || p.high < n then .refused
  else
    let bits := p.bits * 64 + (n - 0x80)
    match p.later with
    | 0 => .scalar (Char.ofNat bits)
    | later + 1 => .pending ⟨p.octets ++ [octet], bits, later, 0x80, 0xBF⟩

def decodeFrom : Nat → Option Pending → List UInt8 → Except DecodeError (List Char)
  | _, none, [] => .ok []
  | position, some p, [] => .error ⟨position, p.octets, .truncated⟩
  | position, none, octet :: rest =>
      match start octet with
      | .scalar c => (decodeFrom (position + 1) none rest).map (c :: ·)
      | .pending p => decodeFrom position (some p) rest
      | .refused => .error ⟨position, [octet], .invalidStart⟩
  | position, some p, octet :: rest =>
      match p.next octet with
      | .scalar c => (decodeFrom (position + p.octets.length + 1) none rest).map (c :: ·)
      | .pending q => decodeFrom position (some q) rest
      | .refused => .error ⟨position, p.octets, .invalidContinuation⟩

def decode (octets : List UInt8) : Except DecodeError String :=
  (decodeFrom 0 none octets).map String.ofList

end BrokerBootstrap.Utf8
