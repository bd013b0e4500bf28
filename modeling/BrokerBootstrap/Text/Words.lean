/-!
# Words of a command line

A command line is split at blanks the way a shell does it. Quotation marks keep blanks in a word;
a backslash takes the next character as it is, between double marks only before a double mark or
a backslash. A line that ends inside marks or after a backslash ends in an unfinished word, which
counts as a word.
-/

namespace BrokerBootstrap.Text

inductive WordPlace where
  | plain
  | marked (mark : Char)
  | escaped (inMarks : Bool)
  deriving DecidableEq, Repr

def separatesWords (c : Char) : Bool := [' ', '\t', '\r', '\n'].contains c

/-- The words of the rest of a line. The word being read is given by its characters so far, if
it has begun; marks begin a word even where nothing stands between them. -/
def wordsFrom : WordPlace → Option (List Char) → List Char → List (List Char)
  | .plain, word, [] => word.toList
  | _, word, [] => [word.getD []]
  | .plain, word, c :: rest =>
      if separatesWords c then word.toList ++ wordsFrom .plain none rest
      else if c = '\\' then wordsFrom (.escaped false) word rest
      else if c = '\'' || c = '"' then wordsFrom (.marked c) (some (word.getD [])) rest
      else wordsFrom .plain (some (word.getD [] ++ [c])) rest
  | .marked mark, word, c :: rest =>
      if c = mark then wordsFrom .plain word rest
      else if c = '\\' && mark = '"' then wordsFrom (.escaped true) word rest
      else wordsFrom (.marked mark) (some (word.getD [] ++ [c])) rest
  | .escaped false, word, c :: rest => wordsFrom .plain (some (word.getD [] ++ [c])) rest
  | .escaped true, word, c :: rest =>
      let taken := if c = '"' || c = '\\' then [c] else ['\\', c]
      wordsFrom (.marked '"') (some (word.getD [] ++ taken)) rest

def words (line : String) : List String :=
  (wordsFrom .plain none line.toList).map String.ofList

end BrokerBootstrap.Text
