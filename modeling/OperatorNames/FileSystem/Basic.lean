import OperatorNames.FileSystem.Storage
import OperatorNames.Text.Utf8

/-!
# Files and directories

A file system is a list of what stands at each place; a place is given by the names that lead to it
from the root down.  `at?`, `put` and `erase` are its view and its only elementary changes, and
their laws are stated here.  A path in writing is walked step by step from a directory to the place
that it names.
-/

namespace OperatorNames

open Text

/-- A place: the names that lead to it, from the root down. -/
abbrev Place := List Text

/-- What stands at a place. -/
inductive Entry
  | directory
  | file (content : Bytes)
  deriving DecidableEq

/-- A file system. -/
structure FileSystem where
  /-- What stands where.  The root is always a directory and is not listed. -/
  entries : List (Place × Entry) := []

namespace FileSystem

/-- What stands at a place, if anything does. -/
def at? (fs : FileSystem) (place : Place) : Option Entry :=
  if place.isEmpty then some .directory else fs.entries.lookup place

/-- Puts an entry at a place, over what stood there. -/
def put (fs : FileSystem) (place : Place) (entry : Entry) : FileSystem :=
  if (fs.entries.lookup place).isSome then
    { entries := fs.entries.map fun (other, old) =>
        if other = place then (other, entry) else (other, old) }
  else { entries := fs.entries ++ [(place, entry)] }

/-- Takes away what stands at a place. -/
def erase (fs : FileSystem) (place : Place) : FileSystem :=
  { entries := fs.entries.filter fun (other, _) => other ≠ place }

/-- The longest name, in octets. -/
def maxName : Nat := 255

/-- The longest path, in octets. -/
def maxPath : Nat := 4095

/-- Takes one step of a path from a place, which has to be a directory.  The place it leads to need
not have anything on it. -/
def enter (fs : FileSystem) (place : Place) (step : Text) : Except Fault Place :=
  match fs.at? place with
  | none => .error .noSuchEntry
  | some (.file _) => .error .notADirectory
  | some .directory =>
    if step = ['.'] then .ok place
    else if step = ['.', '.'] then .ok place.dropLast
    else if maxName < Utf8.size step then .error .nameTooLong
    else .ok (place ++ [step])

/-- The steps of a path. -/
def steps (path : Text) : List Text :=
  (cutAt (· = '/') path).filter fun step => !step.isEmpty

/-- Whether a path starts at the root. -/
def isAbsolute (path : Text) : Bool :=
  path.head? = some '/'

/-- Whether a path asks for a directory by ending in a slash. -/
def asksForDirectory (path : Text) : Bool :=
  path.getLast? = some '/'

/-- The place that a path names, seen from a directory. -/
def walk (fs : FileSystem) (here : Place) (path : Text) : Except Fault Place :=
  if path.contains '\x00' then .error .nulInPath
  else if path.isEmpty then .error .noSuchEntry
  else if maxPath < Utf8.size path then .error .nameTooLong
  else (steps path).foldlM fs.enter (if isAbsolute path then [] else here)

/-- What stands where a path leads. -/
def find (fs : FileSystem) (here : Place) (path : Text) : Except Fault (Place × Entry) := do
  let place ← fs.walk here path
  match fs.at? place with
  | none => throw .noSuchEntry
  | some (.file content) =>
    if asksForDirectory path then throw .notADirectory else return (place, .file content)
  | some .directory => return (place, .directory)

/-- Whether there is anything where a path leads. -/
def has (fs : FileSystem) (here : Place) (path : Text) : Bool :=
  match fs.find here path with
  | .ok _ => true
  | .error _ => false

/-- Whether a path leads to a directory. -/
def hasDirectory (fs : FileSystem) (here : Place) (path : Text) : Bool :=
  match fs.find here path with
  | .ok (_, .directory) => true
  | _ => false

/-- What reading the file at a path to its end gives. -/
def read (fs : FileSystem) (here : Place) (path : Text) : Except Fault Bytes := do
  match ← fs.find here path with
  | (_, .file content) => return content
  | (_, .directory) => throw .isADirectory

/-- Makes a directory. -/
def makeDirectory (fs : FileSystem) (here : Place) (path : Text) : Except Fault FileSystem := do
  let place ← fs.walk here path
  match fs.at? place with
  | some _ => throw .entryExists
  | none => return fs.put place .directory

/-- The path of steps from the root or from a directory. -/
def pathOf (absolute : Bool) (steps : List Text) : Text :=
  (if absolute then ['/'] else []) ++ joinWith ['/'] steps

/-- A path and then a path from there. -/
def join (path more : Text) : Text :=
  if path.isEmpty then more
  else if asksForDirectory path then path ++ more
  else path ++ '/' :: more

/-- Makes the directory to which steps lead, which are given from the last one up, and those above
it that are missing.  One that is there already is left as it is. -/
def makeAllFrom (fs : FileSystem) (here : Place) (absolute : Bool) :
    List Text → Except Fault Unit × FileSystem
  | [] => (.ok (), fs)
  | step :: above =>
    let path := pathOf absolute (step :: above).reverse
    let settle (fs : FileSystem) : Except Fault Unit × FileSystem :=
      match fs.makeDirectory here path with
      | .ok made => (.ok (), made)
      | .error fault => (if fs.hasDirectory here path then .ok () else .error fault, fs)
    match fs.makeDirectory here path with
    | .ok made => (.ok (), made)
    | .error fault =>
      if fault.kind = .notFound then
        match makeAllFrom fs here absolute above with
        | (.error fault, fs) => (.error fault, fs)
        | (.ok (), fs) => settle fs
      else settle fs

/-- Makes a directory and those above it that are missing.  A path that is too long is not even tried,
though it may be that only steps that stay where they are make it so. -/
def makeAll (fs : FileSystem) (here : Place) (path : Text) : Except Fault Unit × FileSystem :=
  if maxPath < Utf8.size path then (.error .nameTooLong, fs)
  else fs.makeAllFrom here (isAbsolute path) ((steps path).filter (· ≠ ['.'])).reverse

/-- The place of a file that is to be written, and what the file holds, if it is there. -/
def fileToWrite (fs : FileSystem) (here : Place) (path : Text) :
    Except Fault (Place × Option Bytes) := do
  let place ← fs.walk here path
  if asksForDirectory path then throw .isADirectory
  match fs.at? place with
  | none => return (place, none)
  | some (.file content) => return (place, some content)
  | some .directory => throw .isADirectory

/-- Writes a file, over what it held.  It is made or emptied first; where there is too little room, it
is left with as much as there is room for. -/
def writeWithin (fs : FileSystem) (storage : Storage) (here : Place) (path : Text)
    (content : Bytes) : Except Fault Unit × FileSystem :=
  match fs.fileToWrite here path with
  | .error fault => (.error fault, fs)
  | .ok (place, found) =>
    match found, storage.refusal? with
    | none, some fault => (.error fault, fs)
    | _, _ =>
      let written := fs.put place (.file (storage.kept content))
      match storage.overflow? content with
      | some fault => (.error fault, written)
      | none => (.ok (), written)

/-- Writes a file for which there is room. -/
def write (fs : FileSystem) (here : Place) (path : Text) (content : Bytes) :
    Except Fault FileSystem :=
  match fs.writeWithin .ample here path content with
  | (.ok (), files) => .ok files
  | (.error fault, _) => .error fault

/-- Adds octets to the end of the file at a place. -/
def append (fs : FileSystem) (place : Place) (more : Bytes) : FileSystem :=
  match fs.at? place with
  | some (.file content) => fs.put place (.file (content ++ more))
  | _ => fs

/-- Opens a file that is added to, and makes it if it is missing. -/
def openToAppend (fs : FileSystem) (here : Place) (path : Text) :
    Except Fault (Place × FileSystem) := do
  match ← fs.fileToWrite here path with
  | (place, some _) => return (place, fs)
  | (place, none) => return (place, fs.put place (.file []))

/-- Takes away the entry at a path, with all that is below it. -/
def remove (fs : FileSystem) (here : Place) (path : Text) : Except Fault FileSystem := do
  let (place, _) ← fs.find here path
  return { entries := fs.entries.filter fun (other, _) => !place.isPrefixOf other }

/-- What is below a place: the names that lead there from it, and whether it is a directory. -/
def below (fs : FileSystem) (place : Place) : List (List Text × Bool) :=
  fs.entries.filterMap fun (other, entry) =>
    if place.isPrefixOf other && other ≠ place then
      some (other.drop place.length, entry = .directory)
    else none

/-! ## Laws -/

theorem lookup_map_replace (l : List (Place × Entry)) (place other : Place) (entry : Entry) :
    (l.map fun (q, old) => if q = place then (q, entry) else (q, old)).lookup other =
      if other = place then (l.lookup other).map fun _ => entry else l.lookup other := by
  induction l with
  | nil => simp
  | cons head tail ih =>
    obtain ⟨q, old⟩ := head
    by_cases ho : other = q
    · subst ho
      by_cases hq : other = place <;> simp [hq]
    · have hb : (other == q) = false := beq_false_of_ne ho
      by_cases hq : q = place
      · subst hq
        simp [List.lookup_cons, ih, ho, hb]
      · simp [hq, List.lookup_cons, ih, hb]

theorem lookup_filter_ne (l : List (Place × Entry)) {place other : Place} (h : other ≠ place) :
    (l.filter fun (q, _) => q ≠ place).lookup other = l.lookup other := by
  induction l with
  | nil => rfl
  | cons head tail ih =>
    obtain ⟨q, old⟩ := head
    by_cases hq : q = place
    · have hb : (other == q) = false := beq_false_of_ne (hq ▸ h)
      simpa [hq, List.lookup_cons, hq ▸ hb] using ih
    · simp only [ne_eq, hq, not_false_eq_true, decide_true, List.filter_cons_of_pos,
        List.lookup_cons]
      split
      · rfl
      · exact ih

/-- What was put at a place stands there. -/
theorem at?_put_self (fs : FileSystem) {place : Place} (entry : Entry) (h : place ≠ []) :
    (fs.put place entry).at? place = some entry := by
  cases hl : fs.entries.lookup place with
  | some old => simp [at?, put, h, hl, lookup_map_replace]
  | none => simp [at?, put, h, hl, List.lookup_append]

/-- Putting an entry at a place changes no other place. -/
theorem at?_put_of_ne (fs : FileSystem) {place other : Place} (entry : Entry) (h : other ≠ place) :
    (fs.put place entry).at? other = fs.at? other := by
  have hb : (other == place) = false := beq_false_of_ne h
  cases hl : fs.entries.lookup place with
  | some old => simp [at?, put, hl, lookup_map_replace, h]
  | none => simp [at?, put, hl, List.lookup_append, List.lookup_cons, hb]

/-- Nothing stands where an entry was taken away. -/
theorem at?_erase_self (fs : FileSystem) {place : Place} (h : place ≠ []) :
    (fs.erase place).at? place = none := by
  simp only [at?, erase, List.isEmpty_iff, h, if_false, List.lookup_eq_none_iff]
  intro e he
  have := (List.mem_filter.1 he).2
  simp only [ne_eq, decide_not, Bool.not_eq_true', decide_eq_false_iff_not] at this
  exact bne_iff_ne.2 fun heq => this heq.symm

/-- Taking an entry away changes no other place. -/
theorem at?_erase_of_ne (fs : FileSystem) {place other : Place} (h : other ≠ place) :
    (fs.erase place).at? other = fs.at? other := by
  simp only [at?, erase, lookup_filter_ne _ h]

/-- An entry put where nothing stood and taken away again leaves no trace. -/
theorem erase_put (fs : FileSystem) {place : Place} (entry : Entry)
    (h : fs.at? place = none) : (fs.put place entry).erase place = fs := by
  have hne : place ≠ [] := by
    rintro rfl
    simp [at?] at h
  have hn : fs.entries.lookup place = none := by simpa [at?, hne] using h
  have hfilter : (fs.entries.filter fun (other, _) => other ≠ place) = fs.entries := by
    refine List.filter_eq_self.2 fun e he => ?_
    have := List.lookup_eq_none_iff.1 hn e he
    simpa using fun heq : e.1 = place => by simp [heq] at this
  obtain ⟨entries⟩ := fs
  simp only [put, hn, Option.isSome_none, Bool.false_eq_true, if_false, erase,
    List.filter_append, hfilter]
  simp

end FileSystem

end OperatorNames
