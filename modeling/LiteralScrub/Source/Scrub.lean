import LiteralScrub.Engine
import LiteralScrub.Source.FrontEnd

/-!
# Scrubbing sources

A source is read, its tree is scrubbed and printed. Wherever this fails there is no code.
-/
namespace LiteralScrub

/-- What has become of a source. -/
structure Scrubbed where
  success : Bool
  code : Text
  /-- How many literals were changed, if the source could be read. -/
  count : Option Nat
  errors : List Text
  deriving DecidableEq, Repr, Inhabited

/-- A source that is not scrubbed. -/
def Scrubbed.failed (count : Option Nat) (errors : List Text) : Scrubbed := ⟨false, [], count, errors⟩

namespace Engine

/-- Scrubs and prints a source that has been read. -/
def scrubParsed (engine : Engine) (frontEnd : FrontEnd) (parsed : Parsed) :
    ExceptT PrintFault Logged Scrubbed := do
  match parsed.tree with
  | none => return .failed none parsed.errors
  | some tree =>
    let outcome ← engine.apply tree (Text.ofString frontEnd.language.name) parsed.path
    match outcome.tree with
    | none => return .failed (some outcome.count) outcome.errors
    | some tree =>
      let generated ← frontEnd.generate tree
      if generated.success then return ⟨true, generated.code, some outcome.count, []⟩
      else return .failed (some outcome.count) generated.errors

/-- Scrubs a source in a language given by its name. -/
def scrubSource (engine : Engine) (frontEnds : Language → FrontEnd) (source language : Text) :
    ExceptT PrintFault Logged Scrubbed := do
  match Language.ofName? language with
  | none => return .failed none [unsupported language]
  | some language =>
    let frontEnd := frontEnds language
    engine.scrubParsed frontEnd (← frontEnd.parse none source)

end Engine

end LiteralScrub
