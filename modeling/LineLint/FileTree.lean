import LineLint.Path

/-! # File trees

A file tree is a finite table from locations to what stands there: a directory, a file with its
bytes, or a symbolic link with its target. A location is the list of names from the top down,
without links or dots in it; the top itself is always a directory.

A path leads to a location in two ways. `locate` walks it as an operating system does: every
component has to exist, double dots go up from where a link has led, and after forty links the
walk gives up. A link whose target ends in a slash or in a single dot leads to directories only.
`resolve` only replaces the links of a path and keeps missing components as they are. -/

namespace LineLint

/-- The names from the top of a tree down to a place. -/
abbrev Location := List String

/-- What stands at a location. -/
inductive Entry where
  | directory
  | file (bytes : List UInt8)
  | link (target : String)
  deriving DecidableEq, Repr

/-- Why a path cannot be used. -/
inductive AccessError where
  | notFound
  | notDirectory
  | isDirectory
  | alreadyExists
  | tooManyLinks
  | nameTooLong
  /-- A name holds the null character. -/
  | badName
  /-- Replacing the links of a path does not end. -/
  | linkLoop
  /-- More directories are missing than can be made at once. -/
  | tooManyLevels
  deriving DecidableEq, Repr

/-- A table of locations and entries. The first row of a location counts. A row keeps its location
as an array, so that locations of different depth are told apart at once. -/
structure FileTree where
  entries : List (Array String × Entry)
  deriving DecidableEq, Repr

/-- Where a walk ends; `entry` is missing when only the last name of the location is not there. -/
structure Place where
  location : Location
  entry : Option Entry
  deriving DecidableEq, Repr

namespace FileTree

def empty : FileTree := ⟨[]⟩

/-- What stands at a location. -/
def entry? (t : FileTree) (location : Location) : Option Entry :=
  if location.isEmpty then some .directory else t.entries.lookup location.toArray

/-- The tree with one entry put in or replaced. -/
def insert (t : FileTree) (location : Location) (entry : Entry) : FileTree :=
  let key := location.toArray
  if (t.entries.lookup key).isSome then
    ⟨t.entries.map fun row => if row.1 == key then (key, entry) else row⟩
  else ⟨t.entries ++ [(key, entry)]⟩

/-- The tree without a location and everything below it. -/
def erase (t : FileTree) (location : Location) : FileTree :=
  ⟨t.entries.filter fun row => !location.isPrefixOf row.1.toList⟩

/-- All locations but the top with what stands there. -/
def toList (t : FileTree) : List (Location × Entry) :=
  t.entries.map fun (key, entry) => (key.toList, entry)

/-- Every entry stands in a directory, and no location has two rows. -/
structure WellFormed (t : FileTree) : Prop where
  nodup : (t.toList.map Prod.fst).Nodup
  ne_top : ∀ row ∈ t.toList, row.1 ≠ []
  parent : ∀ row ∈ t.toList, t.entry? row.1.dropLast = some .directory

/-! ## Walking a path -/

/-- The longest name, in bytes of its encoding, that a directory can hold. -/
def maxNameBytes : Nat := 255

/-- The number of bytes from which on a path is too long to be walked. -/
def maxPathBytes : Nat := 4096

/-- The number of links that one walk may follow. -/
def maxLinks : Nat := 40

/-- What a path is walked for. -/
inductive Purpose where
  /-- To handle what stands at its end, be it a link. -/
  | entry
  /-- To use what a link at its end leads to. -/
  | target
  /-- To write a file there, which may be missing. -/
  | writing
  deriving DecidableEq, Repr

/-- Where the first step of a path is taken. -/
def start (cwd : Location) (p : Path) : Location := if p.isAbsolute then [] else cwd

/-- The step at the end of a target that has a slash there. -/
def slashStep : String := ""

/-- The step at the end of a target that has a single dot there. -/
def dotStep : String := "."

/-- What the end of a target says beside its names: nothing, or that a directory has to be there. -/
def endSteps (target : String) : List String :=
  match (Text.cut '/' target.toList).reverse with
  | last :: before =>
    if last == ['.'] then [dotStep]
    else if !last.isEmpty then []
    else if (before.find? (!·.isEmpty)) == some ['.'] then [dotStep]
    else [slashStep]
  | [] => []

/-- Walks down from a directory. The last name may be missing. -/
def walkFrom (t : FileTree) (purpose : Purpose) (links : Nat) (here : Location) :
    List String → Except AccessError Place
  | [] => .ok ⟨here, t.entry? here⟩
  | name :: rest =>
    if name == ".." then walkFrom t purpose links here.dropLast rest
    else if name == slashStep || name == dotStep then walkFrom t purpose links here rest
    else if maxNameBytes < name.utf8ByteSize then .error .nameTooLong
    else
      let place := here ++ [name]
      match t.entry? place with
      | none =>
        if rest.isEmpty then .ok ⟨place, none⟩
        else if purpose = .writing && rest.all (· == slashStep) then .error .isDirectory
        else .error .notFound
      | some .directory => walkFrom t purpose links place rest
      | some (.file bytes) =>
        if rest.isEmpty then .ok ⟨place, some (.file bytes)⟩
        else if purpose = .writing && rest.all (· == slashStep) then .error .isDirectory
        else .error .notDirectory
      | some (.link target) =>
        if rest.isEmpty && purpose = .entry then .ok ⟨place, some (.link target)⟩
        else match links with
          | 0 => .error .tooManyLinks
          | links + 1 =>
            let path := Path.parse target
            walkFrom t purpose links (start here path) (path.parts ++ endSteps target ++ rest)
  termination_by names => (links, names.length)

/-- Follows a path from a working directory to the place where it ends. -/
def walk (t : FileTree) (purpose : Purpose) (cwd : Location) (p : Path) :
    Except AccessError Place :=
  if p.parts.any (·.toList.contains (Char.ofNat 0)) then .error .badName
  else if maxPathBytes ≤ p.toString.utf8ByteSize then .error .nameTooLong
  else walkFrom t purpose maxLinks (start cwd p) p.parts

/-- The place that a path leads to, through all links. -/
def locate (t : FileTree) (cwd : Location) (p : Path) : Except AccessError Place :=
  t.walk .target cwd p

/-- What a path leads to, if anything. A path that cannot be walked leads to nothing, but a name
that is too long is an error, and so is a path that is too long. -/
def find? (t : FileTree) (cwd : Location) (p : Path) : Except AccessError (Option Place) :=
  match t.locate cwd p with
  | .ok place => .ok (if place.entry.isSome then some place else none)
  | .error .nameTooLong => .error .nameTooLong
  | .error _ => .ok none

def exists? (t : FileTree) (cwd : Location) (p : Path) : Except AccessError Bool :=
  return (← t.find? cwd p).isSome

def isFile (t : FileTree) (cwd : Location) (p : Path) : Except AccessError Bool := do
  match (← t.find? cwd p).bind (·.entry) with
  | some (.file _) => return true
  | _ => return false

def isDirectory (t : FileTree) (cwd : Location) (p : Path) : Except AccessError Bool := do
  match (← t.find? cwd p).bind (·.entry) with
  | some .directory => return true
  | _ => return false

/-! ## Resolving a path -/

/-- How far the links of a path can be replaced. -/
inductive Resolution where
  | complete (location : Location)
  /-- At this location stands a link that leads back to itself. -/
  | stuck (location : Location) (rest : List String)
  deriving DecidableEq, Repr

/-- Goes through names one by one. `opened` holds the links that are being replaced, and `depth`
bounds how many of them there can be. -/
def resolveFrom (t : FileTree) (depth : Nat) (opened : List Location) (here : Location) :
    List String → Except AccessError Resolution
  | [] => .ok (.complete here)
  | name :: rest =>
    if name == ".." then resolveFrom t depth opened here.dropLast rest
    else if name.toList.contains (Char.ofNat 0) then .error .badName
    else
      let place := here ++ [name]
      match t.entry? place with
      | some (.link target) =>
        match depth with
        | 0 => .ok (.stuck place rest)
        | depth + 1 =>
          if opened.contains place then .ok (.stuck place rest)
          else
            let target := Path.parse target
            match resolveFrom t depth (place :: opened) (start here target) target.parts with
            | .error e => .error e
            | .ok (.stuck there left) => .ok (.stuck there (left ++ rest))
            | .ok (.complete there) => resolveFrom t (depth + 1) opened there rest
      | _ => resolveFrom t depth opened place rest
  termination_by names => (depth, names.length)

/-- The location that names lead to if double dots go up from the name before them. -/
def descend (here : Location) (names : List String) : Location :=
  names.foldl (fun here name => if name == ".." then here.dropLast else here ++ [name]) here

/-- The location that a path stands for after every link and double dot has been replaced. The
location need not exist. Past a link that leads back to itself no link is replaced, which is an
error if the path really goes through one. -/
def resolve (t : FileTree) (cwd : Location) (p : Path) : Except AccessError Location :=
  match t.resolveFrom (t.entries.length + 1) [] (start cwd p) p.parts with
  | .error e => .error e
  | .ok (.complete location) => .ok location
  | .ok (.stuck place rest) =>
    let location := descend place rest
    match t.locate [] (.absolute location) with
    | .error .tooManyLinks => .error .linkLoop
    | .error .badName => .error .badName
    | _ => .ok location

/-! ## Reading and writing -/

/-- The bytes of the file that a path leads to. -/
def read (t : FileTree) (cwd : Location) (p : Path) : Except AccessError (List UInt8) := do
  match (← t.locate cwd p).entry with
  | some (.file bytes) => return bytes
  | some .directory => throw .isDirectory
  | _ => throw .notFound

/-- The tree after the file that a path leads to has been given these bytes. -/
def write (t : FileTree) (cwd : Location) (p : Path) (bytes : List UInt8) :
    Except AccessError FileTree := do
  let place ← t.walk .writing cwd p
  match place.entry with
  | some .directory => throw .isDirectory
  | _ => return t.insert place.location (.file bytes)

/-- The tree after one directory has been made, in a directory that exists, and its location. -/
def makeDirectory (t : FileTree) (cwd : Location) (p : Path) :
    Except AccessError (FileTree × Location) := do
  let place ← t.walk .entry cwd p
  match place.entry with
  | some _ => throw .alreadyExists
  | none => return (t.insert place.location .directory, place.location)

/-- The location of a directory that was not made because of an error, if it is already there. -/
def settle (t : FileTree) (cwd : Location) (p : Path) (e : AccessError) :
    Except AccessError (FileTree × Location) := do
  match ← t.find? cwd p with
  | some ⟨location, some .directory⟩ => return (t, location)
  | _ => throw e

/-- Makes one directory, or accepts one that is already there. -/
def ensureDirectory (t : FileTree) (cwd : Location) (p : Path) :
    Except AccessError (FileTree × Location) :=
  match t.makeDirectory cwd p with
  | .ok made => .ok made
  | .error e => t.settle cwd p e

/-- How many missing directories, one in another, can be made at once. -/
def maxLevels : Nat := 987

/-- Makes a directory and those above it that are missing, at most as many as `room` allows. The
tree counts even on failure, since some of them may have been made by then. The names of the path
come in reverse. -/
def makeDirectoriesUp (cwd : Location) (root : PathRoot) (t : FileTree) :
    Nat → List String → FileTree × Except AccessError Location
  | _, [] => (t, .ok (start cwd ⟨root, []⟩))
  | room, name :: above =>
    let p : Path := ⟨root, (name :: above).reverse⟩
    match t.makeDirectory cwd p with
    | .ok (t, here) => (t, .ok here)
    | .error .notFound =>
      match room with
      | 0 => (t, .error .tooManyLevels)
      | room + 1 =>
        match makeDirectoriesUp cwd root t room above with
        | (t, .error e) => (t, .error e)
        | (t, .ok here) =>
          match t.ensureDirectory here ⟨.relative, [name]⟩ with
          | .ok (t, here) => (t, .ok here)
          | .error e => (t, .error e)
    | .error e =>
      match t.settle cwd p e with
      | .ok (t, here) => (t, .ok here)
      | .error e => (t, .error e)

/-- Makes the directory of a path together with those above it, but no more than some levels. -/
def makeDirectories (t : FileTree) (levels : Nat) (cwd : Location) (p : Path) :
    FileTree × Except AccessError Unit :=
  let (t, made) := makeDirectoriesUp cwd p.root t (levels - 1) p.parts.reverse
  (t, made.map fun _ => ())

/-- The tree after the file, link or whole directory at a path has been removed. -/
def remove (t : FileTree) (cwd : Location) (p : Path) : Except AccessError FileTree := do
  let place ← t.walk .entry cwd p
  match place.entry with
  | none => throw .notFound
  | some _ => return t.erase place.location

end FileTree

end LineLint
