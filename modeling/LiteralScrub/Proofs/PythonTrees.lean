import Mathlib
import LiteralScrub.Engine
import LiteralScrub.Proofs.Search
import LiteralScrub.Proofs.Walk

/-!
# Scrubbed Python trees

An engine that scrubs a Python tree without failure rewrites the string constants at positions
that are not protected, drops empty pieces of interpolated strings, and keeps all else up to
places. It counts the constants that change.
-/
namespace LiteralScrub.Scrub

variable {rewrite : Text → Rewriting}

/-- What is said of a failure. -/
def complaint (problem : Problem) : Text :=
  Text.ofString s!"Transformation failed: {problem.className}: {problem.message}"

/-- Whether the root of a tree is a constant, which the walk does not change in its place. -/
def isConstant : Value → Bool
  | .node (.python .constant) _ => true
  | _ => false

/-- What becomes of a Python tree is read off how the walk through it ends. -/
theorem transformPython_eq (visitor : Visitor) {tree placed : Value}
    (hplaced : Python.withPlaces tree = .ok placed) (log : Array LogRecord) :
    let walk := walked (visit visitor placed) 0 log
    (Id.run ((transformPython visitor tree).run log)).1 =
      match walk.1.result with
      | .error problem => ⟨none, walk.1.left, false, walk.2, [complaint problem]⟩
      | .ok none => ⟨none, walk.1.left, false, walk.2, [complaint .nothingLeft]⟩
      | .ok (some new) =>
        match Python.withPlaces new with
        | .error problem => ⟨none, walk.1.left, false, walk.2, [complaint problem]⟩
        | .ok new =>
          let replaced := walk.2 > 0 && isConstant tree
          ⟨some new, if replaced then walk.1.left else new, !replaced, walk.2, []⟩ := by
  intro walk
  simp only [transformPython, transformPythonFrom, hplaced, walk, walked, StateT.run_bind,
    Id.run_bind]
  generalize Id.run (((visit visitor placed).run 0).run log) = r
  cases r.1.1.result with
  | error problem => rfl
  | ok new =>
    cases new with
    | none => rfl
    | some new =>
      dsimp only
      cases Python.withPlaces new <;> rfl

/-- Where there is a new tree, the walk has met no problem, and places were filled in before and
after it. -/
theorem transformPython_success {visitor : Visitor} {tree new : Value} {log : Array LogRecord}
    (h : (Id.run ((transformPython visitor tree).run log)).1.tree = some new) :
    ∃ placed walkedTo, Python.withPlaces tree = .ok placed ∧
      (walked (visit visitor placed) 0 log).1.result = .ok (some walkedTo) ∧
      Python.withPlaces walkedTo = .ok new ∧
      (Id.run ((transformPython visitor tree).run log)).1.count =
        (walked (visit visitor placed) 0 log).2 := by
  cases hplaced : Python.withPlaces tree with
  | error problem =>
    unfold transformPython transformPythonFrom at h
    rw [hplaced] at h
    exact absurd h (Option.some_ne_none new).symm
  | ok placed =>
    have houtcome := transformPython_eq visitor hplaced log
    rw [houtcome] at h ⊢
    split at h
    · cases h
    · cases h
    · next walkedTo hresult =>
      split at h
      · cases h
      · next last hlast =>
        cases h
        exact ⟨placed, walkedTo, rfl, hresult, hlast, rfl⟩

/-- Where a tree is scrubbed without failure, the walk leads from the tree with its places filled in
to the scrubbed tree. -/
theorem transform_walks {kind : Python.Kind} {attrs : Attrs} {log : Array LogRecord} {new : Value}
    (h : (Id.run ((transform rewrite (.node (.python kind) attrs)).run log)).1.tree = some new) :
    ∃ placed, Python.withPlaces (.node (.python kind) attrs) = .ok placed ∧
      (walked (visit (.rewriting rewrite) placed) 0 log).1.result =
        .ok (some (scrubbed (renewed rewrite) false placed)) ∧
      Python.withPlaces (scrubbed (renewed rewrite) false placed) = .ok new ∧
      (Id.run ((transform rewrite (.node (.python kind) attrs)).run log)).1.count =
        changes rewrite (openTexts false placed) := by
  have htransform : transform rewrite (.node (.python kind) attrs) =
      transformPython (.rewriting rewrite) (.node (.python kind) attrs) := rfl
  rw [htransform] at h ⊢
  obtain ⟨placed, walkedTo, hplaced, hresult, hnew, hcount⟩ := transformPython_success h
  obtain ⟨more, hmore, hvisited⟩ := (@visit_yields rewrite placed).1 0 log
  obtain ⟨-, hwalked, rfl⟩ := hvisited _ hresult
  obtain rfl := Option.some.inj hwalked
  exact ⟨placed, hplaced, hresult, hnew, by rw [hcount, hmore, Nat.zero_add]⟩

/-- A tree that is scrubbed without failure is the scrubbed tree with its places filled in. -/
theorem transform_yields {kind : Python.Kind} {attrs : Attrs} {log : Array LogRecord} {new : Value}
    (h : (Id.run ((transform rewrite (.node (.python kind) attrs)).run log)).1.tree = some new) :
    new = Python.fixField {} (scrubbed (renewed rewrite) false
        (Python.fixField {} (.node (.python kind) attrs))) ∧
      (Id.run ((transform rewrite (.node (.python kind) attrs)).run log)).1.count =
        changes rewrite (openTexts false (.node (.python kind) attrs)) := by
  obtain ⟨placed, hplaced, -, hnew, hcount⟩ := transform_walks h
  obtain ⟨-, rfl⟩ := Python.withPlaces_eq_ok.mp hplaced
  obtain ⟨-, rfl⟩ := Python.withPlaces_eq_ok.mp hnew
  exact ⟨rfl, by rw [hcount, openTexts_fixField]⟩

end LiteralScrub.Scrub

namespace LiteralScrub

open Scrub

theorem Engine.rewrite_text_of_unchanged {engine : Engine} {t : Text}
    (h : (engine.rewrite t).changed = false) : (engine.rewrite t).text = t := by
  unfold Engine.rewrite rewriteText at h ⊢
  split at h <;> simp_all

/-- A Python tree that an engine scrubs without failure has the shape of the scrubbed tree, and the
count is that of the texts that change. -/
theorem transform_scrubs_python (engine : Engine) (kind : Python.Kind) (attrs : Attrs)
    (log : Array LogRecord) :
    let tree := Value.node (.python kind) attrs
    let outcome := (Id.run ((transform engine.rewrite tree).run log)).1
    outcome.success = true →
      outcome.tree.map Python.shape =
          some (Python.shape (scrubbed (withRewritten engine.rewrite) false tree)) ∧
        outcome.count = changes engine.rewrite (openTexts false tree) := by
  intro tree outcome hsuccess
  obtain ⟨new, hnew⟩ := Option.isSome_iff_exists.mp hsuccess
  obtain ⟨hshape, hcount⟩ := transform_yields hnew
  refine ⟨?_, hcount⟩
  rw [hnew, Option.map_some, hshape, Python.shape_fixField,
    shape_scrubbed_renewed fun t => Engine.rewrite_text_of_unchanged, shape_scrubbed_fixField]

/-! ## Trees at work -/

def constantOf (value : Value) : Value := .node (.python .constant) [("value", value)]

def textOf (t : String) : Value := constantOf (.text (Text.ofString t))

def nameOf (id : String) : Value :=
  .node (.python .nameExpr) [("id", .text (Text.ofString id)), ("ctx", .node (.python .load) [])]

def callOf (callee : Value) (args : List Value) : Value :=
  .node (.python .call) [("func", callee), ("args", .list args), ("keywords", .list [])]

def joinedOf (pieces : List Value) : Value :=
  .node (.python .joinedStr) [("values", .list pieces)]

/-- An interpolation of `import_module("a")` with the format specification `a`. -/
def interpolatedImport : Value :=
  .node (.python .formattedValue) [("value", callOf (nameOf "import_module") [textOf "a"]),
    ("conversion", .int (-1)), ("format_spec", joinedOf [textOf "a"])]

/-- An engine that takes out each letter a. -/
def withoutA : Engine := ⟨⟨[Text.ofString "a"], []⟩, patternsOf [Text.ofString "a"]⟩

/-- The attributes of `print(f"...", f"...", b"a")`, for what holds the pieces of either string. -/
def printPieces (pieces others : Value) : Attrs :=
  [("func", nameOf "print"), ("args", .list [.node (.python .joinedStr) [("values", pieces)],
    .node (.python .joinedStr) [("values", others)], constantOf (.bytes [0x61])]),
    ("keywords", .list [])]

/-- A piece of an interpolated string goes and another is cut down, in a list as well as in a tuple,
which becomes a list. The import and the format specification between them stay, and so do bytes. -/
theorem transform_scrubs_interpolated :
    let outcome := (Id.run ((transform withoutA.rewrite (.node (.python .call) (printPieces
      (.list [textOf "a", interpolatedImport, textOf "ab"])
      (.collection .tuple [textOf "ab", textOf "a"])))).run #[])).1
    outcome.success = true ∧
      outcome.tree.map Python.shape = some (Python.shape (.node (.python .call) (printPieces
        (.list [interpolatedImport, textOf "b"]) (.list [textOf "b"])))) ∧
      outcome.count = 4 := by
  have hsuccess : (Id.run ((transform withoutA.rewrite (.node (.python .call) (printPieces
      (.list [textOf "a", interpolatedImport, textOf "ab"])
      (.collection .tuple [textOf "ab", textOf "a"])))).run #[])).1.success = true := by cbv
  obtain ⟨hshape, hcount⟩ := transform_scrubs_python withoutA _ _ #[] hsuccess
  exact ⟨hsuccess, hshape.trans (by cbv), hcount.trans (by cbv)⟩

/-- A list with a text as a conversion, a constant that holds a constant, and an interpolated
string. -/
def misplaced (pieces : Value) : Value :=
  .node (.python .list) [("elts", .list [
    .node (.python .formattedValue) [("value", nameOf "x"), ("conversion", textOf "a")],
    constantOf (textOf "a"),
    .node (.python .joinedStr) [("values", pieces)]]), ("ctx", .node (.python .load) [])]

/-- Constants that stand in a conversion or in a constant are passed over, though the engine would
change both their texts, and an empty text in the place of pieces becomes a list. -/
theorem transform_passes_over_misplaced :
    let outcome := (Id.run ((transform withoutA.rewrite (misplaced (.text []))).run #[])).1
    changes withoutA.rewrite [Text.ofString "a", Text.ofString "a"] = 2 ∧
      outcome.success = true ∧ outcome.count = 0 ∧
      outcome.tree.map Python.shape = some (Python.shape (misplaced (.list []))) := by
  refine ⟨?_, ?_, ?_, ?_⟩ <;> cbv

end LiteralScrub
