
namespace BrokerBootstrap

inductive Root where
  | relative
  | single
  | double
  deriving DecidableEq, Repr

namespace Root

def text : Root → String
  | relative => ""
  | single => "/"
  | double => "//"

def ofSlashes : Nat → Root
  | 0 => relative
  | 2 => double
  | _ => single

end Root

structure Path where
  root : Root
  components : List String
  deriving DecidableEq, Repr

namespace Path

def pieces : List Char → List (List Char)
  | [] => [[]]
  | c :: rest =>
      if c = '/' then [] :: pieces rest
      else match pieces rest with
        | [] => [[c]]
        | piece :: others => (c :: piece) :: others

def rawComponents (text : String) : List String := (pieces text.toList).map String.ofList

def isIdle (component : String) : Bool := component = "" || component = "."

def rootOf (text : String) : Root :=
  Root.ofSlashes (text.toList.takeWhile (· = '/')).length

def ofText (text : String) : Path where
  root := rootOf text
  components := (rawComponents text).filter (!isIdle ·)

def text (path : Path) : String :=
  if path.root = .relative && path.components.isEmpty then "."
  else path.root.text ++ String.intercalate "/" path.components

def child (path : Path) (name : String) : Path :=
  { path with components := path.components ++ [name] }

def hasNul (path : Path) : Bool := path.text.toList.contains (Char.ofNat 0)

end Path

end BrokerBootstrap
