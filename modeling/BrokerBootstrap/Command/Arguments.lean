
namespace BrokerBootstrap.Command

def programName : String := "kafka-init"

inductive Flag where
  | version
  | debug
  | help
  deriving DecidableEq, Repr

namespace Flag

def all : List Flag := [version, debug, help]

def name : Flag → String
  | version => "--version"
  | debug => "--debug"
  | help => "--help"

def letter? : Flag → Option Char
  | version => some 'v'
  | debug | help => none

def description : Flag → String
  | version => "print version"
  | debug => "print debug information"
  | help => "Show this message and exit."

def shortName? (flag : Flag) : Option String :=
  flag.letter?.map fun letter => String.ofList ['-', letter]

def names (flag : Flag) : List String := flag.name :: flag.shortName?.toList

def ofName? (argument : String) : Option Flag := all.find? (·.name = argument)

def ofLetter? (letter : Char) : Option Flag := all.find? (·.letter? = some letter)

def helpLine (flag : Flag) : String :=
  let names := String.intercalate ", " (flag.shortName?.toList ++ [flag.name])
  let gap := String.ofList (List.replicate (15 - names.length) ' ')
  "  " ++ names ++ gap ++ flag.description ++ "\n"

end Flag

def helpText : String :=
  "Usage: " ++ programName ++ " [OPTIONS]\n\n" ++
    "  Write rack id, external addresses and JAAS config for a Kafka broker\n\n" ++
    "Options:\n" ++ String.join (Flag.all.map Flag.helpLine)

structure Arguments where
  flags : List Flag := []
  extra : Bool := false
  deriving DecidableEq, Repr

namespace Arguments

def has (given : Arguments) (flag : Flag) : Bool := given.flags.contains flag

def add (given : Arguments) (flag : Flag) : Arguments := { given with flags := flag :: given.flags }

def addLetters (given : Arguments) : List Char → Except Arguments Arguments
  | [] => .ok given
  | letter :: rest =>
      match Flag.ofLetter? letter with
      | some flag => (given.add flag).addLetters rest
      | none => .error given

def addArgument (given : Arguments) (argument : String) : Except Arguments Arguments :=
  match Flag.ofName? argument with
  | some flag => .ok (given.add flag)
  | none => given.addLetters argument.toList.tail

def isFlag (argument : String) : Bool :=
  argument.toList.head? = some '-' && argument ≠ "-"

def read (given : Arguments) : List String → Except Arguments Arguments
  | [] => .ok given
  | argument :: rest =>
      if argument = "--" then .ok { given with extra := given.extra || !rest.isEmpty }
      else if isFlag argument then
        match given.addArgument argument with
        | .ok more => more.read rest
        | .error noted => .error noted
      else Arguments.read { given with extra := true } rest

def noted (arguments : List String) : Arguments :=
  match ({} : Arguments).read arguments with
  | .ok given | .error given => given

end Arguments

inductive Invocation where
  | usageError
  | help
  | version (debug : Bool)
  | start (debug : Bool)
  deriving DecidableEq, Repr

/-- Unknown flags come before help, and help before arguments that are no flags. -/
def Invocation.ofArguments (arguments : List String) : Invocation :=
  match ({} : Arguments).read arguments with
  | .error _ => .usageError
  | .ok given =>
      if given.has .help then .help
      else if given.extra then .usageError
      else if given.has .version then .version (given.has .debug)
      else .start (given.has .debug)

end BrokerBootstrap.Command
