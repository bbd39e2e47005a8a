import LiteralScrub.Path.Resolve

/-!
# Files and directories

A file tree holds what stands at each place below the root. A place is the list of names that leads
there. The operations refuse a path for the same causes as a file system does, and name the path as
it was given.
-/
namespace LiteralScrub

/-- What stands at a place. -/
inductive FileEntry where
  | file (bytes : Bytes)
  | directory
  deriving DecidableEq, Repr, Inhabited

inductive FileCause where
  | missing
  | alreadyThere
  | notDirectory
  | isDirectory
  | nameTooLong
  deriving DecidableEq, Repr, Inhabited

namespace FileCause

def number : FileCause → Nat
  | missing => 2
  | alreadyThere => 17
  | notDirectory => 20
  | isDirectory => 21
  | nameTooLong => 36

def words : FileCause → String
  | missing => "No such file or directory"
  | alreadyThere => "File exists"
  | notDirectory => "Not a directory"
  | isDirectory => "Is a directory"
  | nameTooLong => "File name too long"

end FileCause

inductive FileError where
  | refused (cause : FileCause) (path : Text)
  /-- The path is none that the system can be asked about. -/
  | unusable (fault : PathFault)
  deriving DecidableEq, Repr, Inhabited

def FileError.message : FileError → Text
  | refused cause path =>
    Text.ofString s!"[Errno {cause.number}] {cause.words}: " ++ path.quoted
  | unusable fault => fault.message

abbrev Place := List Text

structure FileTree where
  /-- Where relative paths start, and where home directories are. -/
  around : Surroundings
  entries : List (Place × FileEntry) := []
  deriving DecidableEq, Repr, Inhabited

namespace FileTree

/-- The place of the current directory. -/
def current (tree : FileTree) : Place := tree.around.current.names

/-- What stands at a place; at the root there is a directory. -/
def entry? (tree : FileTree) (place : Place) : Option FileEntry :=
  if place.isEmpty then some .directory else tree.entries.lookup place

def putEntry (place : Place) (entry : FileEntry) :
    List (Place × FileEntry) → List (Place × FileEntry)
  | [] => [(place, entry)]
  | (p, e) :: rest =>
    if p = place then (p, entry) :: rest else (p, e) :: putEntry place entry rest

/-- The tree with something else at a place. -/
def put (tree : FileTree) (place : Place) (entry : FileEntry) : FileTree :=
  { tree with entries := putEntry place entry tree.entries }

/-- The longest name, and the longest path, in bytes. -/
def maxName : Nat := 255

def maxPath : Nat := 4095

def byteCount (t : Text) : Nat := t.foldl (fun n c => n + Utf8.width c) 0

/-- One name further from a place, at which there has to be a directory. -/
def step (tree : FileTree) (shown : Text) (here : Place) (name : Text) : Except FileError Place :=
  match tree.entry? here with
  | none => .error (.refused .missing shown)
  | some (.file _) => .error (.refused .notDirectory shown)
  | some .directory =>
    if name = Path.up then .ok here.dropLast
    else if byteCount name > maxName then .error (.refused .nameTooLong shown)
    else .ok (here ++ [name])

/-- The place to which a path leads. All that is passed on the way are directories. -/
def placeOf (tree : FileTree) (path : Path) : Except FileError Place := do
  let shown := path.toText
  let bytes ← (Path.bytesOf shown).mapError FileError.unusable
  if bytes.length > maxPath then throw (.refused .nameTooLong shown)
  path.names.foldlM (tree.step shown) (if path.isAbsolute then [] else tree.current)

/-- What stands at a path; nothing does at a path that leads nowhere. -/
def probe (tree : FileTree) (path : Path) : Except FileError (Option FileEntry) :=
  match tree.placeOf path with
  | .ok place => .ok (tree.entry? place)
  | .error (.refused .nameTooLong shown) => .error (.refused .nameTooLong shown)
  | .error _ => .ok none

def read (tree : FileTree) (path : Path) : Except FileError Bytes := do
  match tree.entry? (← tree.placeOf path) with
  | none => throw (.refused .missing path.toText)
  | some .directory => throw (.refused .isDirectory path.toText)
  | some (.file bytes) => return bytes

/-- Writes a file from what it holds so far, which is nothing if it is new. -/
def update (tree : FileTree) (path : Path) (f : Bytes → Bytes) : Except FileError FileTree := do
  let place ← tree.placeOf path
  match tree.entry? place with
  | some .directory => throw (.refused .isDirectory path.toText)
  | some (.file bytes) => return tree.put place (.file (f bytes))
  | none => return tree.put place (.file (f []))

def write (tree : FileTree) (path : Path) (bytes : Bytes) : Except FileError FileTree :=
  tree.update path fun _ => bytes

def append (tree : FileTree) (path : Path) (bytes : Bytes) : Except FileError FileTree :=
  tree.update path (· ++ bytes)

/-- Makes a directory where there is nothing yet. -/
def makeDirectory (tree : FileTree) (path : Path) : Except FileError FileTree := do
  let place ← tree.placeOf path
  match tree.entry? place with
  | some _ => throw (.refused .alreadyThere path.toText)
  | none => return tree.put place .directory

/-- A tree that holds an empty current directory. -/
def ofSurroundings (around : Surroundings) : FileTree :=
  let names := around.current.names
  { around, entries := (List.range names.length).map fun n => (names.take (n + 1), .directory) }

/-- Everything below the current directory in the order of code points, a directory with a slash
behind it. -/
def listing (tree : FileTree) : List Text :=
  let below := tree.entries.filterMap fun (place, entry) =>
    if tree.current.isPrefixOf place && place != tree.current then
      let name := Text.join [0x2F] (place.drop tree.current.length)
      some (if entry = .directory then name ++ [0x2F] else name)
    else none
  below.mergeSort fun a b => !(List.lex b a)

end FileTree

end LiteralScrub
