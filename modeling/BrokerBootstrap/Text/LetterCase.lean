/-!
# Letter case

Comparison of a text with an ASCII word regardless of case. Besides the capital letters A to Z
one further character has an ASCII letter as its lower-case form: the Kelvin sign. The lower-case
form of every other character stays outside ASCII, so it is left as it is.
-/

namespace BrokerBootstrap.Text

/-- The Kelvin sign, whose lower-case form is the letter k. -/
def kelvinSign : Char := Char.ofNat 0x212A

def lowerChar (c : Char) : Char :=
  if c = kelvinSign then 'k' else c.toLower

def lower (s : String) : String := String.ofList (s.toList.map lowerChar)

def upper (s : String) : String := String.ofList (s.toList.map Char.toUpper)

end BrokerBootstrap.Text
