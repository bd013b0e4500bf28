import BrokerBootstrap.FileSystem.Basic

namespace BrokerBootstrap.FileSystem

def addDirectories (entries : Std.ExtTreeMap Location Entry) :
    Location → Std.ExtTreeMap Location Entry
  | [] => entries
  | name :: above => (addDirectories entries above).insertIfNew (name :: above) .directory

theorem entryAt_addDirectories {entries : Std.ExtTreeMap Location Entry} {other : Location}
    {entry : Entry} (h : entryAt entries other = some entry) (location : Location) :
    entryAt (addDirectories entries location) other = some entry := by
  cases other with
  | nil => exact h
  | cons name above =>
      induction location with
      | nil => exact h
      | cons first rest ih =>
          -- What stands there already is not replaced.
          simp only [entryAt] at ih
          have stays : ¬ (first :: rest = name :: above ∧
              first :: rest ∉ addDirectories entries rest) := by
            rintro ⟨same, new⟩
            rw [same] at new
            simp [Std.ExtTreeMap.getElem?_eq_none new] at ih
          simp only [entryAt, addDirectories, Std.ExtTreeMap.getElem?_insertIfNew,
            Std.LawfulEqCmp.compare_eq_iff_eq, if_neg stays]
          exact ih

def createDirectories (fs : FileSystem) (location : Location) : FileSystem :=
  { fs with
    entries := addDirectories fs.entries location
    workingDirectory_isDirectory :=
      entryAt_addDirectories fs.workingDirectory_isDirectory location }

def withWorkingDirectory : Location → FileSystem
  | [] => ∅
  | name :: above =>
      { entries := (withWorkingDirectory above).entries.insert (name :: above) .directory
        workingDirectory := name :: above
        workingDirectory_isDirectory :=
          entryAt_insert_self _ (List.cons_ne_nil name above) _ }

/-- The location that a path leads to in a tree where every component exists. -/
def destination (fs : FileSystem) (path : Path) : Location :=
  path.components.foldl step (fs.origin path.root)

def placeFile (fs : FileSystem) (location : Location) (content : List UInt8) : FileSystem :=
  (fs.createDirectories location.tail).put location (.file content)

theorem entryAt_filter_of_kept {entries : Std.ExtTreeMap Location Entry} {other : Location}
    {entry : Entry} {keeps : Location → Entry → Bool} (h : entryAt entries other = some entry)
    (kept : keeps other entry = true) : entryAt (entries.filter keeps) other = some entry := by
  cases other with
  | nil => exact h
  | cons name above =>
      simp only [entryAt] at h ⊢
      rw [Std.ExtTreeMap.getElem?_filter', h, Option.filter_some, if_pos kept]

/-- The working directory stays, and so does all that it is in. -/
def remove (fs : FileSystem) (location : Location) : FileSystem :=
  if within : location <:+ fs.workingDirectory then fs
  else
    { fs with
      entries := fs.entries.filter fun l _ => ¬ location <:+ l
      workingDirectory_isDirectory :=
        entryAt_filter_of_kept fs.workingDirectory_isDirectory (decide_eq_true within) }

def listing (fs : FileSystem) : List (String × Entry) :=
  let below := fs.entries.toList.filter fun (location, _) =>
    fs.workingDirectory.isSuffixOf location && location ≠ fs.workingDirectory
  let named := below.map fun (location, entry) =>
    let names := (location.take (location.length - fs.workingDirectory.length)).reverse
    (String.intercalate "/" names, entry)
  named.mergeSort fun a b => a.1 ≤ b.1

end BrokerBootstrap.FileSystem
