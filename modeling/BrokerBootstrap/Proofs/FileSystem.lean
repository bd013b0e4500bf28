import BrokerBootstrap.Proofs.Computations

/-!
# Walks and writes

A walk that succeeds passes through directories only, so a file that is put where no directory
stands does not change it. Names that no component of a path has do not matter to its walk either.
-/

namespace BrokerBootstrap.FileSystem

def lookup (fs : FileSystem) (path : Path) : Except OpenError (Option Entry) :=
  (fs.locate path).map fs.get?

def directory (fs : FileSystem) (path : Path) : Except OpenError Location :=
  match fs.walk (fs.origin path.root) path.components with
  | .error e => .error e
  | .ok location =>
      match fs.get? location with
      | none => .error .notFound
      | some (.file _) => .error .notADirectory
      | some .directory => .ok location

theorem read_eq (fs : FileSystem) (path : Path) :
    fs.read path =
      match fs.lookup path with
      | .error cause => .error cause
      | .ok none => .error .notFound
      | .ok (some .directory) => .error .isADirectory
      | .ok (some (.file content)) => .ok content := by
  unfold read lookup
  cases fs.locate path with
  | error cause => rfl
  | ok location =>
      dsimp only [Except.map]
      cases fs.get? location with
      | none => rfl
      | some entry => cases entry <;> rfl

theorem read_of_lookup {fs : FileSystem} {path : Path} {content : List UInt8}
    (h : fs.lookup path = .ok (some (.file content))) : fs.read path = .ok content := by
  rw [read_eq, h]

inductive Refuses (fs : FileSystem) (path : Path) : OpenError → Prop
  | unreached {cause : OpenError} (h : fs.lookup path = .error cause) : Refuses fs path cause
  | missing (h : fs.lookup path = .ok none) : Refuses fs path .notFound
  | directory (h : fs.lookup path = .ok (some .directory)) : Refuses fs path .isADirectory

theorem read_of_refuses {fs : FileSystem} {path : Path} {cause : OpenError}
    (h : Refuses fs path cause) : fs.read path = .error cause := by
  rw [read_eq]
  cases h with
  | unreached h | missing h | directory h => rw [h]

theorem walk_append (fs : FileSystem) (start : Location) (xs ys : List String) :
    fs.walk start (xs ++ ys) = fs.walk start xs >>= fun middle => fs.walk middle ys := by
  induction xs generalizing start with
  | nil => rfl
  | cons component rest ih =>
      simp only [List.cons_append, walk]
      cases fs.get? start with
      | none => rfl
      | some entry =>
          cases entry with
          | file content => rfl
          | directory =>
              dsimp only
              split
              · rfl
              · exact ih _

structure IsName (name : String) : Prop where
  notIdle : Path.isIdle name = false
  notUp : name ≠ ".."
  short : name.utf8ByteSize ≤ maxNameSize

theorem step_of_isName {name : String} (h : IsName name) (location : Location) :
    step location name = name :: location := by
  simp [step, h.notIdle, h.notUp]

theorem walk_singleton {name : String} (h : IsName name) (fs : FileSystem) (start : Location) :
    fs.walk start [name] =
      match fs.get? start with
      | none => .error .notFound
      | some (.file _) => .error .notADirectory
      | some .directory => .ok (name :: start) := by
  have short : ¬ maxNameSize < name.utf8ByteSize := Nat.not_lt.2 h.short
  cases found : fs.get? start with
  | none => simp [walk, found]
  | some entry => cases entry <;> simp [walk, found, short, step_of_isName h]

theorem locate_child {name : String} (h : IsName name) (fs : FileSystem) (path : Path) :
    fs.locate (path.child name) =
      if maxPathSize < (path.child name).text.utf8ByteSize then .error .nameTooLong
      else (fs.directory path).map (name :: ·) := by
  unfold locate directory
  split
  · rfl
  · simp only [Path.child, walk_append]
    cases fs.walk (fs.origin path.root) path.components with
    | error e => rfl
    | ok location =>
        refine (walk_singleton h fs location).trans ?_
        dsimp only
        cases fs.get? location with
        | none => rfl
        | some entry => cases entry <;> rfl

theorem target_eq_ok_iff {fs : FileSystem} {path : Path} {location : Location} :
    fs.target path = .ok location ↔
      fs.locate path = .ok location ∧ fs.get? location ≠ some .directory := by
  unfold target
  cases found : fs.locate path with
  | error e => simp
  | ok place =>
      dsimp only
      split
      · rename_i isDirectory
        simp only [reduceCtorEq, Except.ok.injEq, false_iff, not_and]
        rintro rfl
        simp [isDirectory]
      · rename_i free
        simp only [Except.ok.injEq, iff_self_and]
        rintro rfl
        exact fun isDirectory => free isDirectory

theorem ext_entries {fs other : FileSystem}
    (entries : ∀ location : Location, fs.entries[location]? = other.entries[location]?)
    (origin : fs.workingDirectory = other.workingDirectory) : fs = other := by
  obtain ⟨map, workingDirectory, inside⟩ := fs
  obtain ⟨map', workingDirectory', inside'⟩ := other
  obtain rfl : map = map' := Std.ExtTreeMap.ext_getElem? @entries
  obtain rfl : workingDirectory = workingDirectory' := origin
  rfl

theorem workingDirectory_put (fs : FileSystem) (location : Location) (entry : Entry) :
    (fs.put location entry).workingDirectory = fs.workingDirectory := by
  unfold put
  split <;> rfl

theorem origin_put (fs : FileSystem) (location : Location) (entry : Entry) (root : Root) :
    (fs.put location entry).origin root = fs.origin root := by
  cases root with
  | relative => exact workingDirectory_put fs location entry
  | single | double => rfl

theorem getElem?_put (fs : FileSystem) (location : Location) (entry : Entry) (other : Location) :
    (fs.put location entry).entries[other]? =
      if fs.workingDirectory ≠ location ∧ location = other then some entry
      else fs.entries[other]? := by
  unfold put
  split
  · rename_i here
    simp [here]
  · rename_i apart
    simp [apart, Std.ExtTreeMap.getElem?_insert]

theorem get?_put_of_ne (fs : FileSystem) {location other : Location}
    (different : other ≠ location) (entry : Entry) :
    (fs.put location entry).get? other = fs.get? other := by
  unfold put
  split
  · rfl
  · exact entryAt_insert_of_ne fs.entries different entry

theorem put_self {fs : FileSystem} {location : Location} {entry : Entry} (below : location ≠ [])
    (h : fs.get? location = some entry) : fs.put location entry = fs := by
  have found : fs.entries[location]? = some entry := by
    cases location with
    | nil => exact absurd rfl below
    | cons name above => exact h
  apply ext_entries
  · intro other
    rw [getElem?_put]
    split
    · rename_i equal
      rw [← equal.2, found]
    · rfl
  · exact workingDirectory_put fs location entry

theorem put_put (fs : FileSystem) (location : Location) (earlier later : Entry) :
    (fs.put location earlier).put location later = fs.put location later := by
  apply ext_entries
  · intro other
    simp only [getElem?_put, workingDirectory_put]
    split <;> rfl
  · simp only [workingDirectory_put]

theorem put_comm (fs : FileSystem) {first second : Location} (different : first ≠ second)
    (entry entry' : Entry) :
    (fs.put first entry).put second entry' = (fs.put second entry').put first entry := by
  apply ext_entries
  · intro other
    simp only [getElem?_put, workingDirectory_put]
    by_cases isFirst : first = other
    · subst isFirst
      simp only [Ne.symm different, and_false, if_false]
    · simp only [isFirst, and_false, if_false]
  · simp only [workingDirectory_put]

/-! ## Files put where no directory stands -/

section Put

variable {fs : FileSystem} {place : Location} {content : List UInt8}

theorem below_of_free (free : fs.get? place ≠ some .directory) : place ≠ [] := by
  rintro rfl
  exact free rfl

theorem get?_put_of_free (free : fs.get? place ≠ some .directory) (entry : Entry)
    (other : Location) :
    (fs.put place entry).get? other = if other = place then some entry else fs.get? other := by
  -- The working directory is a directory, so it is another place.
  have apart : fs.workingDirectory ≠ place := by
    rintro rfl
    exact free fs.workingDirectory_isDirectory
  split
  · rename_i same
    rw [same, put, dif_neg apart]
    exact entryAt_insert_self fs.entries (below_of_free free) entry
  · rename_i different
    exact get?_put_of_ne fs different entry

theorem get?_put_of_directory (free : fs.get? place ≠ some .directory) (entry : Entry)
    {other : Location} (h : fs.get? other = some .directory) :
    (fs.put place entry).get? other = some .directory := by
  have different : other ≠ place := by
    rintro rfl
    exact free h
  rw [get?_put_of_free free, if_neg different, h]

theorem walk_put (free : fs.get? place ≠ some .directory) (entry : Entry) {start goal : Location}
    {components : List String} (h : fs.walk start components = .ok goal) :
    (fs.put place entry).walk start components = .ok goal := by
  induction components generalizing start with
  | nil => exact h
  | cons component rest ih =>
      simp only [walk] at h ⊢
      cases found : fs.get? start with
      | none => simp [found] at h
      | some here =>
          cases here with
          | file content => simp [found] at h
          | directory =>
              rw [get?_put_of_directory free entry found]
              simp only [found] at h ⊢
              split at h
              · cases h
              · rename_i short
                rw [if_neg short]
                exact ih h

theorem locate_put (free : fs.get? place ≠ some .directory) (entry : Entry) {path : Path}
    {goal : Location} (h : fs.locate path = .ok goal) :
    (fs.put place entry).locate path = .ok goal := by
  unfold locate at h ⊢
  split at h
  · cases h
  · rename_i short
    rw [if_neg short, origin_put]
    exact walk_put free entry h

theorem directory_put (free : fs.get? place ≠ some .directory) (entry : Entry) {path : Path}
    {goal : Location} (h : fs.directory path = .ok goal) :
    (fs.put place entry).directory path = .ok goal := by
  unfold directory at h ⊢
  cases walked : fs.walk (fs.origin path.root) path.components with
  | error e => simp [walked] at h
  | ok location =>
      rw [origin_put, walk_put free entry walked]
      simp only [walked] at h ⊢
      cases found : fs.get? location with
      | none => simp [found] at h
      | some here =>
          cases here with
          | file content => simp [found] at h
          | directory =>
              rw [get?_put_of_directory free entry found]
              simpa [found] using h

theorem write_eq_ok_iff {path : Path} {after : FileSystem} :
    fs.write path content = .ok after ↔
      ∃ location, fs.target path = .ok location ∧ after = fs.put location (.file content) := by
  unfold write
  cases fs.target path with
  | error cause => simp [Except.map]
  | ok location => simp [Except.map, eq_comm]

theorem lookup_write {path : Path} {after : FileSystem} (h : fs.write path content = .ok after) :
    after.lookup path = .ok (some (.file content)) := by
  obtain ⟨location, opened, rfl⟩ := write_eq_ok_iff.1 h
  obtain ⟨located, free⟩ := target_eq_ok_iff.1 opened
  rw [lookup, locate_put free _ located]
  simp [Except.map, get?_put_of_free free]

theorem exists_write_of_lookup {path : Path} {earlier : List UInt8}
    (h : fs.lookup path = .ok (some (.file earlier))) (content : List UInt8) :
    ∃ after, fs.write path content = .ok after := by
  obtain ⟨location, located, found⟩ := map_eq_ok.1 h
  have opened : fs.target path = .ok location := target_eq_ok_iff.2 ⟨located, by simp [found]⟩
  exact ⟨_, write_eq_ok_iff.2 ⟨location, opened, rfl⟩⟩

end Put

/-! ## Names that a walk does not meet -/

theorem step_not_mem {name component : String} {location : Location} (h : name ∉ location)
    (different : name ≠ component) : name ∉ step location component := by
  unfold step
  split
  · exact h
  · split
    · exact fun mem => h (List.mem_of_mem_tail mem)
    · simp [different, h]

theorem walk_put_of_not_mem {fs : FileSystem} {name : String} {above : Location} (entry : Entry)
    {start : Location} {components : List String} (outside : name ∉ start)
    (unmet : name ∉ components) :
    (fs.put (name :: above) entry).walk start components = fs.walk start components := by
  induction components generalizing start with
  | nil => rfl
  | cons component rest ih =>
      rw [List.mem_cons, not_or] at unmet
      -- The walk stays at places without the name, so it never looks at the changed one.
      have different : start ≠ name :: above := by
        rintro rfl
        exact outside List.mem_cons_self
      simp only [walk, get?_put_of_ne fs different]
      rw [ih (step_not_mem outside unmet.1) unmet.2]

theorem walk_not_mem {fs : FileSystem} {name : String} {start goal : Location}
    {components : List String} (outside : name ∉ start) (unmet : name ∉ components)
    (h : fs.walk start components = .ok goal) : name ∉ goal := by
  induction components generalizing start with
  | nil =>
      cases h
      exact outside
  | cons component rest ih =>
      rw [List.mem_cons, not_or] at unmet
      simp only [walk] at h
      split at h
      · cases h
      · cases h
      · split at h
        · cases h
        · exact ih (step_not_mem outside unmet.1) unmet.2 h

theorem read_put_of_not_mem {fs : FileSystem} {name : String} {above : Location} (entry : Entry)
    {path : Path} (absolute : path.root ≠ .relative) (unmet : name ∉ path.components) :
    (fs.put (name :: above) entry).read path = fs.read path := by
  have root (other : FileSystem) : other.origin path.root = [] := by
    cases h : path.root with
    | relative => exact absurd h absolute
    | single | double => rfl
  have outside : name ∉ ([] : Location) := List.not_mem_nil
  have located : (fs.put (name :: above) entry).locate path = fs.locate path := by
    unfold locate
    rw [root, root, walk_put_of_not_mem entry outside unmet]
  unfold read
  rw [located]
  cases found : fs.locate path with
  | error e => rfl
  | ok location =>
      have walked : fs.walk [] path.components = .ok location := by
        unfold locate at found
        rw [root] at found
        split at found
        · cases found
        · exact found
      have different : location ≠ name :: above := by
        rintro rfl
        exact walk_not_mem outside unmet walked List.mem_cons_self
      simp only [get?_put_of_ne fs different]

end BrokerBootstrap.FileSystem
