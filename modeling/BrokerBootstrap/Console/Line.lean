/-!
# Console lines

A message is a list of parts, some of them highlighted. A line shows the icon of its level, a
space, and the parts one after another. The console drops five control characters from every
text that it shows.
-/

namespace BrokerBootstrap

inductive Level where
  | info
  | success
  | warning
  | error
  | action
  | step
  deriving DecidableEq, Repr

inductive Style where
  | info
  | success
  | warning
  | error
  | muted
  | highlight
  deriving DecidableEq, Repr

def Style.name : Style → String
  | .info => "info"
  | .success => "success"
  | .warning => "warning"
  | .error => "error"
  | .muted => "muted"
  | .highlight => "highlight"

namespace Level

def all : List Level := [info, success, warning, error, action, step]

def name : Level → String
  | info => "info"
  | success => "success"
  | warning => "warning"
  | error => "error"
  | action => "action"
  | step => "step"

def icon : Level → Char
  | info => 'ℹ'
  | success => '✓'
  | warning => '⚠'
  | error => '✗'
  | action => '→'
  | step => '•'

def style : Level → Style
  | info | action => .info
  | success => .success
  | warning => .warning
  | error => .error
  | step => .muted

def ofName? (text : String) : Option Level := all.find? (·.name = text)

end Level

inductive Part where
  | plain (text : String)
  | highlighted (text : String)
  deriving DecidableEq, Repr

/-- Whether the console drops a character: bell, backspace, vertical tab, form feed and carriage
return. -/
def isDropped (c : Char) : Bool := [7, 8, 11, 12, 13].contains c.toNat

def visibleChars (cs : List Char) : List Char := cs.filter (!isDropped ·)

def visible (text : String) : String := String.ofList (visibleChars text.toList)

/-- A styled stretch of a line, from the first position to the one after the last. -/
structure Span where
  start : Nat
  stop : Nat
  style : Style
  deriving DecidableEq, Repr

structure Line where
  text : String
  spans : List Span
  deriving DecidableEq, Repr

namespace Part

def text : Part → String
  | plain t | highlighted t => t

def shown (part : Part) : List Char := visibleChars part.text.toList

def spansFrom : Nat → List Part → List Span
  | _, [] => []
  | position, part :: rest =>
      let stop := position + part.shown.length
      match part with
      | plain _ => spansFrom stop rest
      | highlighted _ =>
          if part.shown.isEmpty then spansFrom stop rest
          else ⟨position, stop, .highlight⟩ :: spansFrom stop rest

end Part

def Line.ofMessage (level : Level) (parts : List Part) : Line where
  text := String.ofList (level.icon :: ' ' :: parts.flatMap Part.shown)
  spans := ⟨0, 1, level.style⟩ :: Part.spansFrom 2 parts

end BrokerBootstrap
