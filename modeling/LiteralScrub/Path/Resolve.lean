import LiteralScrub.Json.Basic
import LiteralScrub.Path.Basic
import LiteralScrub.Text.Space
import LiteralScrub.Text.Utf8

/-!
# Absolute paths

A path is made absolute from where the program stands: a `~` in front leads to a home directory,
a relative path starts at the current directory, and each `..` takes back the name before it.
-/
namespace LiteralScrub

/-- Why a value is no usable path. -/
inductive PathFault where
  /-- Nothing is given, or only white space. -/
  | blank
  | notText (kind : String)
  /-- The home directory of a user is not known. -/
  | homeUnknown
  | nullCharacter
  /-- A text with surrogates that stand for no byte. -/
  | surrogates (text : Text)
  deriving DecidableEq, Repr, Inhabited

def PathFault.message : PathFault → Text
  | blank => Text.ofString "Path cannot be None or empty"
  | notText kind => Text.ofString s!"expected str, bytes or os.PathLike object, not {kind}"
  | homeUnknown => Text.ofString "Could not determine home directory."
  | nullCharacter => Text.ofString "embedded null byte"
  | surrogates text => Utf8.escapingFault text

namespace Path

/-- The bytes under which a path is known to the system. -/
def bytesOf (t : Text) : Except PathFault Bytes :=
  match Utf8.encodeEscaping? t with
  | none => .error (.surrogates t)
  | some bytes => if 0 ∈ bytes then .error .nullCharacter else .ok bytes

/-- A path given as a JSON value. -/
def ofJson : Json → Except PathFault Path
  | .text t => .ok (ofText t)
  | value => .error (.notText value.kindName)

/-- The name that leads to the directory above. -/
def up : Text := [0x2E, 0x2E]

def push (p : Path) (name : Text) : Path := { p with names := p.names ++ [name] }

/-- The directory above. Above the root is the root; above a relative path that has no more names
to take back there is one `..` more. -/
def above (p : Path) : Path :=
  match p.names.getLast? with
  | none => if p.isAbsolute then p else p.push up
  | some name => if name = up then p.push up else p.parent

/-- The path with each `..` taken back as far as there are names. -/
def collapse (p : Path) : Path :=
  p.names.foldl (fun q name => if name = up then q.above else q.push name) ⟨p.root, []⟩

/-- One name further down; the path to it has to be one that the system can be asked about. -/
def descend (p : Path) (name : Text) : Except PathFault Path :=
  if name = up then .ok p.above
  else do
    let _ ← bytesOf (p.push name).toText
    return p.push name

/-- The path starts at the root and takes nothing back. -/
def IsRooted (p : Path) : Prop := p.root = [0x2F] ∧ up ∉ p.names

instance (p : Path) : Decidable p.IsRooted := inferInstanceAs (Decidable (_ ∧ _))

end Path

/-- What a path is given as: a value, or a path that has been read before. -/
inductive PathSource where
  | value (given : Json)
  | path (p : Path)
  deriving Inhabited

instance : Coe Json PathSource := ⟨.value⟩

/-- Where a program stands. -/
structure Surroundings where
  current : Path
  home : Path
  /-- The home directories of other users. -/
  users : List (Text × Path) := []
  current_isRooted : current.IsRooted := by decide
  deriving DecidableEq, Repr

instance : Inhabited Surroundings := ⟨{ current := ⟨[0x2F], []⟩, home := ⟨[0x2F], []⟩ }⟩

namespace Surroundings

/-- The home directory of the user with the given name; without a name, one's own. -/
def homeOf (place : Surroundings) (user : Text) : Except PathFault Path :=
  if user.isEmpty then .ok place.home
  else do
    let _ ← Path.bytesOf user
    match place.users.lookup user with
    | some home => return home
    | none => throw .homeUnknown

/-- Puts a home directory in the place of a `~` in front. -/
def expandHome (place : Surroundings) (p : Path) : Except PathFault Path :=
  match p.isAbsolute, p.names with
  | false, (0x7E :: user) :: rest => do
    let home ← place.homeOf user
    return { home with names := home.names ++ rest }
  | _, _ => .ok p

/-- The path from the root, without any `..`. -/
def resolve (place : Surroundings) (p : Path) : Except PathFault Path := do
  let root := if p.isAbsolute then [0x2F] else []
  let walked ← p.names.foldlM Path.descend ⟨root, []⟩
  return (place.current.under walked).collapse

/-- The absolute path that a path stands for. -/
def absolute (place : Surroundings) (p : Path) : Except PathFault Path := do
  place.resolve (← place.expandHome p)

/-- The absolute path for what is given. -/
def normalize (place : Surroundings) : PathSource → Except PathFault Path
  | .path p => place.absolute p
  | .value .null => .error .blank
  | .value (.text t) => if t.all isSpace then .error .blank else place.absolute (Path.ofText t)
  | .value value => .error (.notText value.kindName)

end Surroundings

end LiteralScrub
