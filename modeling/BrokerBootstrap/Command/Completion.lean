import BrokerBootstrap.Command.Completion.Script
import BrokerBootstrap.Settings.Variable
import BrokerBootstrap.Text.Integer
import BrokerBootstrap.Text.Quoted
import BrokerBootstrap.Text.Words

/-!
# Completion

A shell that completes command lines runs the command itself to learn how. It asks through a
variable of the environment: for a script that sets completion up, or for the flags that a line
being typed can go on with. Such a run does nothing else, and its arguments are not looked at.
-/

namespace BrokerBootstrap.Command.Completion

inductive Request where
  | script (shell : Shell)
  | candidates (shell : Shell)
  deriving DecidableEq, Repr

def Request.ofText? (text : String) : Option Request := do
  let shell ← Shell.ofName? (String.ofList (text.toList.takeWhile (· ≠ '_')))
  let wish := String.ofList (text.toList.dropWhile (· ≠ '_'))
  if wish = "_source" then some (.script shell)
  else if wish = "_complete" then some (.candidates shell)
  else none

def requested (env : Environment) : Option String := (env requestVariable).filter (· ≠ "")

inductive LineError where
  | unset (variableName : String)
  | cursorNoNumber (text : String)
  | cursorTooLong (digits : Nat)
  | cursorNoWord
  deriving DecidableEq, Repr

/-- The greatest length at which an error shows a quoted text. -/
def maxShown : Nat := 200

def LineError.message : LineError → String
  | unset variableName => Text.quote variableName
  | cursorNoNumber text =>
      let shown := String.ofList ((Text.quote text).toList.take maxShown)
      s!"invalid literal for int() with base 10: {shown}"
  | cursorTooLong digits =>
      s!"Exceeds the limit ({Text.maxDigits} digits) for integer string conversion: " ++
        s!"value has {digits} digits; use sys.set_int_max_str_digits() to increase the limit"
  | cursorNoWord => "list index out of range"

structure Typed where
  before : List String
  unfinished : String
  deriving DecidableEq, Repr

/-- The line whose cursor stands in the word of this number. A negative number counts from the
end, and beyond the last word an empty one is begun. -/
def Typed.atWord (words : List String) (cursor : Int) : Typed :=
  let position := if cursor < 0 then words.length + cursor else cursor
  { before := (words.take position.toNat).drop 1
    unfinished := if position < 0 then "" else (words[position.toNat]?).getD "" }

def Typed.inWord (words : List String) (word : String) : Typed :=
  let before := words.drop 1
  { before := if word ≠ "" && before.getLast? = some word then before.dropLast else before
    unfinished := word }

def require (env : Environment) (variableName : String) : Except LineError String :=
  match env variableName with
  | some value => .ok value
  | none => .error (.unset variableName)

def cursorWord (text : String) : Except LineError String :=
  match Text.words text with
  | word :: _ => .ok word
  | [] => if text = "" then .ok "" else .error .cursorNoWord

def cursorNumber (text : String) : Except LineError Int :=
  (Text.integer text).mapError fun
    | .malformed => .cursorNoNumber text
    | .tooLong digits => .cursorTooLong digits

def Typed.read (shell : Shell) (env : Environment) : Except LineError Typed := do
  let words := Text.words (← require env lineVariable)
  let cursor ← require env cursorVariable
  match shell with
  | .fish => return .inWord words (← cursorWord cursor)
  | .bash | .zsh | .powershell => return .atWord words (← cursorNumber cursor)

/-- What a flag in the unfinished word must begin with. Where a value is given to a flag, only the
value counts. -/
def Typed.lead (line : Typed) : String :=
  let value := line.unfinished.toList.dropWhile (· ≠ '=')
  if line.unfinished = "=" then ""
  else if line.unfinished.toList.head? = some '-' && !value.isEmpty then String.ofList value.tail
  else line.unfinished

def candidates (line : Typed) : List (Flag × String) :=
  let lead := line.lead
  if lead = "" then []
  else
    (Flag.all.filter (!(Arguments.noted line.before).has ·)).flatMap fun flag =>
      (flag.names.filter (lead.toList.isPrefixOf ·.toList)).map (flag, ·)

def candidateText (shell : Shell) (candidate : Flag × String) : String :=
  match shell with
  | .bash => "plain," ++ candidate.2
  | .zsh | .powershell => "plain\n" ++ candidate.2 ++ "\n" ++ candidate.1.description
  | .fish => "plain," ++ candidate.2 ++ "\t" ++ candidate.1.description

def answer (env : Environment) : Request → Except LineError String
  | .script shell => .ok (script shell)
  | .candidates shell =>
      (Typed.read shell env).map fun line =>
        String.intercalate "\n" ((candidates line).map (candidateText shell))

end BrokerBootstrap.Command.Completion
