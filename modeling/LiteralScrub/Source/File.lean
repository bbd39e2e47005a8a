import LiteralScrub.File.Change
import LiteralScrub.Source.Scrub
import LiteralScrub.Text.Lines

/-!
# Sources in files

A source file may be read, holds UTF-8 and is not larger than a limit. The suffix of its name tells
the language. Which files may be read is up to the host.
-/
namespace LiteralScrub

/-- Why a source file is not read. -/
inductive SourceError where
  | notFound (path : Path)
  | notReadable (path : Path)
  | tooLarge (limit : Int) (path : Path) (size : Nat)
  | notUtf8 (path : Path) (fault : Utf8.DecodeFault)
  | file (e : FileError)
  deriving DecidableEq, Repr, Inhabited

/-- A size in bytes as megabytes with two places, a half going to the even neighbour. -/
def megabytes (size : Nat) : Text :=
  let hundredths := Double.roundDiv (size * 100) (1024 * 1024)
  Text.ofNat (hundredths / 100) ++ Text.ofString "." ++ Text.ofNatPadded 10 2 (hundredths % 100)

def SourceError.message : SourceError → Text
  | notFound path => Text.ofString "File not found: " ++ path.toText
  | notReadable path => Text.ofString "File is not readable: " ++ path.toText
  | tooLarge limit path size =>
    Text.ofString s!"File exceeds maximum size of {limit}MB: " ++ path.toText ++
      Text.ofString " (" ++ megabytes size ++ Text.ofString "MB)"
  | notUtf8 path fault =>
    Text.ofString "Encoding error reading file " ++ path.toText ++ Text.ofString ": " ++
      fault.message
  | file e => e.message

/-- Reads a source file of at most `limit` megabytes. -/
def FileTree.readSource (tree : FileTree) (mayRead : Path → Bool) (limit : Int) (path : Path) :
    Except SourceError Text :=
  match tree.probe path with
  | .error e => .error (.file e)
  | .ok (some (.file bytes)) =>
    if !mayRead path then .error (.notReadable path)
    else if (bytes.length : Int) > limit * 1024 * 1024 then
      .error (.tooLarge limit path bytes.length)
    else
      match Utf8.decode bytes with
      | .error fault => .error (.notUtf8 path fault)
      | .ok text => .ok text.unifyLineEnds
  | .ok _ => .error (.notFound path)

namespace FrontEnd

/-- The largest source file, in megabytes. -/
def maxFileSize : Int := 10

/-- Reads a file and the source in it. -/
def parseFile (frontEnd : FrontEnd) (tree : FileTree) (mayRead : Path → Bool) (path : Path) :
    Logged Parsed := do
  match tree.readSource mayRead maxFileSize path with
  | .error e =>
    Logged.write .error frontEnd.logger e.message
    return ⟨none, [], path, [e.message]⟩
  | .ok source =>
    let parsed ← frontEnd.parse (some path) source
    if parsed.success then
      Logged.write .info frontEnd.logger
        (Text.ofString s!"Parsed {frontEnd.title} file " ++ path.toText)
    return parsed

end FrontEnd

namespace Engine

/-- Scrubs a source file, which stays as it is. -/
def scrubFile (engine : Engine) (frontEnds : Language → FrontEnd) (tree : FileTree)
    (mayRead : Path → Bool) (path : Path) : ExceptT PrintFault Logged Scrubbed := do
  match Language.ofPath? path with
  | none =>
    let error := Text.ofString "Unsupported file type: " ++ path.name
    Logged.write .error logger error
    return .failed none [error]
  | some language =>
    let frontEnd := frontEnds language
    engine.scrubParsed frontEnd (← frontEnd.parseFile tree mayRead path)

end Engine

end LiteralScrub
