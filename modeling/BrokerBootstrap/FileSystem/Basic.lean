import BrokerBootstrap.FileSystem.Path
import BrokerBootstrap.Text.Quoted
import Std.Data.ExtTreeMap

/-!
# File system

A tree of directories and files, one of whose directories is the working directory. It is kept as
a map from locations to entries, so two file systems with the same entries are equal. A path is
walked component by component; reading and writing can fail only in finding the file.
-/

namespace BrokerBootstrap

/-- A place in the tree: the names from the entry up to the root, which is the empty list. -/
abbrev Location := List String

inductive Entry where
  | directory
  | file (content : List UInt8)
  deriving DecidableEq, Repr

/-- The root is always a directory, and the map holds only what is below it. -/
def entryAt (entries : Std.ExtTreeMap Location Entry) : Location → Option Entry
  | [] => some .directory
  | location@(_ :: _) => entries[location]?

theorem entryAt_insert_self (entries : Std.ExtTreeMap Location Entry) {location : Location}
    (below : location ≠ []) (entry : Entry) :
    entryAt (entries.insert location entry) location = some entry := by
  cases location with
  | nil => exact absurd rfl below
  | cons name above => exact Std.ExtTreeMap.getElem?_insert_self

theorem entryAt_insert_of_ne (entries : Std.ExtTreeMap Location Entry)
    {location other : Location} (different : other ≠ location) (entry : Entry) :
    entryAt (entries.insert location entry) other = entryAt entries other := by
  cases other with
  | nil => rfl
  | cons name above => simp [entryAt, Std.ExtTreeMap.getElem?_insert, different.symm]

structure FileSystem where
  entries : Std.ExtTreeMap Location Entry
  workingDirectory : Location
  workingDirectory_isDirectory : entryAt entries workingDirectory = some .directory

inductive OpenError where
  | notFound
  | notADirectory
  | isADirectory
  | nameTooLong
  deriving DecidableEq, Repr

namespace OpenError

def number : OpenError → Nat
  | notFound => 2
  | notADirectory => 20
  | isADirectory => 21
  | nameTooLong => 36

def text : OpenError → String
  | notFound => "No such file or directory"
  | notADirectory => "Not a directory"
  | isADirectory => "Is a directory"
  | nameTooLong => "File name too long"

def message (e : OpenError) (path : Path) : String :=
  s!"[Errno {e.number}] {e.text}: {Text.quote path.text}"

end OpenError

namespace FileSystem

def maxNameSize : Nat := 255

def maxPathSize : Nat := 4095

instance : EmptyCollection FileSystem := ⟨⟨∅, [], rfl⟩⟩

def get? (fs : FileSystem) (location : Location) : Option Entry := entryAt fs.entries location

def step (location : Location) (component : String) : Location :=
  if Path.isIdle component then location
  else if component = ".." then location.tail
  else component :: location

def walk (fs : FileSystem) : Location → List String → Except OpenError Location
  | location, [] => .ok location
  | location, component :: rest =>
      match fs.get? location with
      | none => .error .notFound
      | some (.file _) => .error .notADirectory
      | some .directory =>
          if maxNameSize < component.utf8ByteSize then .error .nameTooLong
          else fs.walk (step location component) rest

def origin (fs : FileSystem) : Root → Location
  | .relative => fs.workingDirectory
  | .single | .double => []

def locate (fs : FileSystem) (path : Path) : Except OpenError Location :=
  if maxPathSize < path.text.utf8ByteSize then .error .nameTooLong
  else fs.walk (fs.origin path.root) path.components

def read (fs : FileSystem) (path : Path) : Except OpenError (List UInt8) :=
  match fs.locate path with
  | .error e => .error e
  | .ok location =>
      match fs.get? location with
      | none => .error .notFound
      | some .directory => .error .isADirectory
      | some (.file content) => .ok content

/-- Nothing takes the place of the working directory. -/
def put (fs : FileSystem) (location : Location) (entry : Entry) : FileSystem :=
  if here : fs.workingDirectory = location then fs
  else
    { fs with
      entries := fs.entries.insert location entry
      workingDirectory_isDirectory :=
        (entryAt_insert_of_ne fs.entries here entry).trans fs.workingDirectory_isDirectory }

def target (fs : FileSystem) (path : Path) : Except OpenError Location :=
  match fs.locate path with
  | .error e => .error e
  | .ok location =>
      match fs.get? location with
      | some .directory => .error .isADirectory
      | _ => .ok location

def write (fs : FileSystem) (path : Path) (content : List UInt8) : Except OpenError FileSystem :=
  (fs.target path).map fun location => fs.put location (.file content)

end FileSystem

end BrokerBootstrap
