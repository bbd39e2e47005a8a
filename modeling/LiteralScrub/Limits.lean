import LiteralScrub.Text.Basic

/-!
# Limits of the host

Texts, patterns and trees are gone through by recursion. How deep it may go is up to the host, so
these limits are given from outside.
-/
namespace LiteralScrub

structure Limits where
  /-- How deep the arrays and objects of a JSON text may be nested; a configuration fits in. -/
  json : Nat
  two_le_json : 2 ≤ json
  /-- Whether a pattern is nested too deep to be compiled. -/
  patternTooDeep : Text → Bool
  /-- How deep a Lua tree may be nested to be printed. -/
  luaTree : Nat
  /-- How deep a Python tree may be nested to be printed. -/
  pythonTree : Nat

/-- Limits that no pattern exceeds. -/
instance : Inhabited Limits where
  default := ⟨100, by decide, fun _ => false, 100, 100⟩

end LiteralScrub
