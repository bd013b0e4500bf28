import BrokerBootstrap.Text.Hex
import BrokerBootstrap.Text.Printable

namespace BrokerBootstrap.Text

/-- The mark around a text: the single one, unless it occurs in the text and the double one does
not. -/
def quotationMark (cs : List Char) : Char :=
  if cs.contains '\'' && !cs.contains '"' then '"' else '\''

def escape (mark c : Char) : List Char :=
  if c = mark || c = '\\' then ['\\', c]
  else if c = '\n' then ['\\', 'n']
  else if c = '\r' then ['\\', 'r']
  else if c = '\t' then ['\\', 't']
  else if isPrintable c then [c]
  else if c.toNat < 0x100 then '\\' :: 'x' :: hex 2 c.toNat
  else if c.toNat < 0x10000 then '\\' :: 'u' :: hex 4 c.toNat
  else '\\' :: 'U' :: hex 8 c.toNat

def quoted (cs : List Char) : List Char :=
  quotationMark cs :: cs.flatMap (escape (quotationMark cs)) ++ [quotationMark cs]

def quote (s : String) : String := String.ofList (quoted s.toList)

end BrokerBootstrap.Text
