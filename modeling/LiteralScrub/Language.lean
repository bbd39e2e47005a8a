import LiteralScrub.Path.Basic
import LiteralScrub.Text.Case

/-!
# Languages of programs
-/
namespace LiteralScrub

/-- The suffix of a path in lower case. -/
def Path.extension (p : Path) : Text := p.suffix.lower

inductive Language where
  | python
  | lua
  deriving DecidableEq, Repr, Inhabited

namespace Language

def name : Language → String
  | python => "python"
  | lua => "lua"

def ofName? (name : Text) : Option Language :=
  if name = Text.ofString "python" then some .python
  else if name = Text.ofString "lua" then some .lua
  else none

/-- The language of a file with the given suffix, in lower case. -/
def ofSuffix? (suffix : Text) : Option Language :=
  if suffix = Text.ofString ".py" || suffix = Text.ofString ".pyw" then some .python
  else if suffix = Text.ofString ".lua" || suffix = Text.ofString ".luau" then some .lua
  else none

/-- The language of the file at a path. -/
def ofPath? (p : Path) : Option Language := ofSuffix? p.extension

end Language

end LiteralScrub
