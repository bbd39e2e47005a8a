import LiteralScrub.Limits
import LiteralScrub.Source.Lua
import LiteralScrub.Source.Python

/-!
# The front ends
-/
namespace LiteralScrub

/-- The front end of each language. -/
def FrontEnd.of (limits : Limits) : Language → FrontEnd
  | .python => Python.frontEnd limits.pythonTree
  | .lua => Lua.frontEnd limits.luaTree

end LiteralScrub
