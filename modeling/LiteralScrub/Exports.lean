import LiteralScrub.Text.Quoted

/-!
# Public names

The names under which the parts of the program are offered, with the place that defines each.
-/
namespace LiteralScrub

structure Export where
  name : String
  /-- The module that defines the part. -/
  home : String
  /-- The name of the part there. -/
  part : String
  deriving DecidableEq, Repr, Inhabited

namespace Export

def version : String := "0.1.0"

def package : String := "scrubber.processors"

def all : List Export := [
  ⟨"PythonProcessor", "python_processor", "PythonProcessor"⟩,
  ⟨"PythonParseResult", "python_processor", "ParseResult"⟩,
  ⟨"PythonGenerateResult", "python_processor", "GenerateResult"⟩,
  ⟨"LuaProcessor", "lua_processor", "LuaProcessor"⟩,
  ⟨"LuaParseResult", "lua_processor", "ParseResult"⟩,
  ⟨"LuaGenerateResult", "lua_processor", "GenerateResult"⟩,
  ⟨"ASTTransformer", "ast_transformer", "ASTTransformer"⟩,
  ⟨"LiteralScrubTransformer", "ast_transformer", "LiteralScrubTransformer"⟩,
  ⟨"TransformResult", "ast_transformer", "TransformResult"⟩,
  ⟨"TextLiteral", "literals", "TextLiteral"⟩,
  ⟨"PythonStringLiteral", "literals", "PythonStringLiteral"⟩,
  ⟨"LuaStringLiteral", "literals", "LuaStringLiteral"⟩]

def qualifiedName (e : Export) : String := s!"{package}.{e.home}.{e.part}"

def find? (name : Text) : Option Export := all.find? fun e => Text.ofString e.name = name

/-- What is said of a name that is not offered. -/
def unknownMessage (name : Text) : Text :=
  Text.ofString s!"module '{package}' has no attribute " ++ name.quoted

/-- The names in alphabetical order. -/
def sortedNames : List String := (all.map Export.name).mergeSort fun a b => !(b < a)

end Export

end LiteralScrub
