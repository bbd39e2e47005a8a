import Mathlib
import LiteralScrub.Proofs.LuaTrees
import LiteralScrub.Proofs.Records
import LiteralScrub.Source.File
import LiteralScrub.Source.Languages

/-!
# From source to source

A source is read, walked through and printed. It comes out as code only if all three succeed; where
one of them fails there is no code and a complaint. A file goes the same way as its contents.
-/
namespace LiteralScrub

open Logged

@[simp] theorem Language.ofName?_name (language : Language) :
    ofName? (Text.ofString language.name) = some language := by
  cases language <;> decide

/-- What is told of a source besides complaints, which name its file. -/
def Scrubbed.report (s : Scrubbed) : Bool × Text × Option Nat := (s.success, s.code, s.count)

namespace FrontEnd

variable {frontEnd : FrontEnd} {path : Option Path} {source : Text} {log : Array LogRecord}

theorem value_parse_of_ok {tree : Value} (h : frontEnd.read source = .ok tree) :
    (frontEnd.parse path source).value log =
      ⟨some tree, source, path.getD frontEnd.placeholder, []⟩ := by
  unfold parse
  rw [h]
  rfl

theorem value_parse_of_error {fault : ReadFault} (h : frontEnd.read source = .error fault) :
    (frontEnd.parse path source).value log =
      ⟨none, source, path.getD frontEnd.placeholder,
        [frontEnd.complaint (path.getD frontEnd.placeholder) fault]⟩ := by
  unfold parse
  rw [h]
  rfl

end FrontEnd

section readSource

variable {tree : FileTree} {mayRead : Path → Bool} {limit : Int} {path : Path} {bytes : Bytes}

theorem readSource_of_not_mayRead (hfile : tree.probe path = .ok (some (.file bytes)))
    (h : mayRead path = false) :
    tree.readSource mayRead limit path = .error (.notReadable path) := by
  simp [FileTree.readSource, hfile, h]

theorem readSource_of_decode {text : Text} (hfile : tree.probe path = .ok (some (.file bytes)))
    (h : mayRead path = true) (hsize : (bytes.length : Int) ≤ limit * 1024 * 1024)
    (htext : Utf8.decode bytes = .ok text) :
    tree.readSource mayRead limit path = .ok text.unifyLineEnds := by
  simp [FileTree.readSource, hfile, h, htext, not_lt.mpr hsize]

end readSource

namespace Engine

section outcome

variable {engine : Engine} {tree : Value}

/-- What an engine makes of a tree in a language that it knows. -/
def outcome (engine : Engine) (tree : Value) : Scrub.Outcome :=
  if engine.patterns.isEmpty then ⟨some tree, tree, true, 0, []⟩
  else (Scrub.transform engine.rewrite tree).value #[]

/-- Neither the name of the file nor the log has a part in what becomes of a tree. -/
theorem value_apply {language : Text} {known : Language} (h : Language.ofName? language = some known)
    (file : Path) (log : Array LogRecord) :
    (engine.apply tree language file).value log = engine.outcome tree := by
  unfold apply outcome
  rw [h, Option.isNone_some, if_neg Bool.false_ne_true]
  split_ifs with hpatterns
  · rfl
  · obtain ⟨log', hlog⟩ := value_bind (Scrub.transform engine.rewrite tree) _ log
    rw [hlog, (Scrub.transform_appends tree).value_eq log #[]]
    split_ifs <;> rfl

theorem errors_of_outcome (h : (engine.outcome tree).tree = none) :
    (engine.outcome tree).errors ≠ [] := by
  unfold outcome at h ⊢
  split_ifs at h ⊢
  have hgives : Logged.Gives (Scrub.transform engine.rewrite tree)
      fun outcome => outcome.tree = none → outcome.errors ≠ [] :=
    Scrub.transform_gives (fun _ _ _ _ => List.cons_ne_nil _ _)
      (fun _ _ _ _ _ h => absurd h (Option.some_ne_none _)) tree
  exact hgives #[] h

end outcome

variable {engine : Engine}

/-- What a source comes to, by the first of reading, walking and printing that fails. -/
inductive Stages (engine : Engine) (frontEnd : FrontEnd) (file : Path) (source : Text) :
    Except PrintFault Scrubbed → Prop where
  | unread {fault : ReadFault} (hread : frontEnd.read source = .error fault) :
      Stages engine frontEnd file source (.ok (.failed none [frontEnd.complaint file fault]))
  | unscrubbed {tree : Value} (hread : frontEnd.read source = .ok tree)
      (hwalk : (engine.outcome tree).tree = none) :
      Stages engine frontEnd file source
        (.ok (.failed (some (engine.outcome tree).count) (engine.outcome tree).errors))
  | refused {tree new : Value} {error : Text} (hread : frontEnd.read source = .ok tree)
      (hwalk : (engine.outcome tree).tree = some new)
      (hprint : frontEnd.print new = .error (.refused error)) :
      Stages engine frontEnd file source (.ok (.failed (some (engine.outcome tree).count) [error]))
  | malformed {tree new : Value} {name : String} {message : Text}
      (hread : frontEnd.read source = .ok tree) (hwalk : (engine.outcome tree).tree = some new)
      (hprint : frontEnd.print new = .error (.malformed name message)) :
      Stages engine frontEnd file source (.error (.malformed name message))
  | printed {tree new : Value} {code : Text} (hread : frontEnd.read source = .ok tree)
      (hwalk : (engine.outcome tree).tree = some new) (hprint : frontEnd.print new = .ok code) :
      Stages engine frontEnd file source (.ok ⟨true, code, some (engine.outcome tree).count, []⟩)

/-- A source that has been read goes through the stages that are left. -/
theorem stages_of_read {frontEnd : FrontEnd} {source : Text} {parsed : Parsed} {tree : Value}
    (hread : frontEnd.read source = .ok tree) (htree : parsed.tree = some tree) (file : Path)
    (log : Array LogRecord) :
    Stages engine frontEnd file source ((engine.scrubParsed frontEnd parsed).run.value log) := by
  unfold scrubParsed
  rw [htree]
  dsimp only
  obtain ⟨log', hlog⟩ := value_run_lift_bind
    (engine.apply tree (Text.ofString frontEnd.language.name) parsed.path) _ log
  rw [hlog, value_apply (Language.ofName?_name frontEnd.language)]
  cases hwalk : (engine.outcome tree).tree with
  | none => exact .unscrubbed hread hwalk
  | some new =>
    dsimp only [FrontEnd.generate]
    cases hprint : frontEnd.print new with
    | ok code => exact .printed hread hwalk hprint
    | error fault =>
      cases fault with
      | refused error => exact .refused hread hwalk hprint
      | malformed name message => exact .malformed hread hwalk hprint

/-- A source goes through the stages under the name that it is given. -/
theorem stages_of_parse {frontEnd : FrontEnd} (path : Option Path) (source : Text)
    (log log' : Array LogRecord) :
    Stages engine frontEnd (path.getD frontEnd.placeholder) source
      ((engine.scrubParsed frontEnd ((frontEnd.parse path source).value log)).run.value log') := by
  cases hread : frontEnd.read source with
  | error fault =>
    rw [FrontEnd.value_parse_of_error hread]
    exact .unread hread
  | ok tree =>
    rw [FrontEnd.value_parse_of_ok hread]
    exact stages_of_read hread rfl _ log'

variable {frontEnds : Language → FrontEnd} {log : Array LogRecord}

theorem stages_of_scrubSource {language : Text} {known : Language}
    (h : Language.ofName? language = some known) (source : Text) :
    Stages engine (frontEnds known) (frontEnds known).placeholder source
      ((engine.scrubSource frontEnds source language).run.value log) := by
  unfold scrubSource
  rw [h]
  obtain ⟨log', hlog⟩ := value_run_lift_bind ((frontEnds known).parse none source)
    (engine.scrubParsed (frontEnds known)) log
  exact hlog ▸ stages_of_parse none source log log'

variable {tree : FileTree} {mayRead : Path → Bool} {path : Path} {known : Language}

/-- A file in a known language is read, and what was read is scrubbed. -/
theorem value_scrubFile (engine : Engine) (frontEnds : Language → FrontEnd) (tree : FileTree)
    (mayRead : Path → Bool) (hlanguage : Language.ofPath? path = some known)
    (log : Array LogRecord) :
    ∃ log', (engine.scrubFile frontEnds tree mayRead path).run.value log =
      (engine.scrubParsed (frontEnds known)
        (((frontEnds known).parseFile tree mayRead path).value log)).run.value log' := by
  unfold scrubFile
  rw [hlanguage]
  exact value_run_lift_bind ((frontEnds known).parseFile tree mayRead path)
    (engine.scrubParsed (frontEnds known)) log

/-- A file that cannot be read comes to the complaint of its reader. -/
theorem value_scrubFile_of_error {e : SourceError} (hlanguage : Language.ofPath? path = some known)
    (h : tree.readSource mayRead FrontEnd.maxFileSize path = .error e) :
    (engine.scrubFile frontEnds tree mayRead path).run.value log =
      .ok (.failed none [e.message]) := by
  have hparsed : ((frontEnds known).parseFile tree mayRead path).value log =
      ⟨none, [], path, [e.message]⟩ := by
    unfold FrontEnd.parseFile
    rw [h]
    rfl
  obtain ⟨log', hlog⟩ := value_scrubFile engine frontEnds tree mayRead hlanguage log
  rw [hlog, hparsed]
  rfl

/-- A file that can be read goes through the stages under its own name. -/
theorem stages_of_scrubFile {source : Text} (hlanguage : Language.ofPath? path = some known)
    (h : tree.readSource mayRead FrontEnd.maxFileSize path = .ok source) :
    Stages engine (frontEnds known) path source
      ((engine.scrubFile frontEnds tree mayRead path).run.value log) := by
  have hparsed : ((frontEnds known).parseFile tree mayRead path).value log =
      ((frontEnds known).parse (some path) source).value log := by
    unfold FrontEnd.parseFile
    rw [h]
    obtain ⟨log', hlog⟩ := value_bind ((frontEnds known).parse (some path) source) _ log
    refine hlog.trans ?_
    split_ifs <;> rfl
  obtain ⟨log', hlog⟩ := value_scrubFile engine frontEnds tree mayRead hlanguage log
  rw [hlog, hparsed]
  exact stages_of_parse (some path) source log log'

/-- Under another name a source comes to the same but for complaints. -/
theorem Stages.report_eq {frontEnd : FrontEnd} {file file' : Path} {source : Text}
    {r r' : Except PrintFault Scrubbed} (h : Stages engine frontEnd file source r)
    (h' : Stages engine frontEnd file' source r') :
    r.map Scrubbed.report = r'.map Scrubbed.report := by
  cases h <;> cases h' <;> simp_all [Except.map, Scrubbed.report, Scrubbed.failed]

/-- The language is known, and reading, walking and printing all succeed: `count` literals change,
and `code` is the new source. -/
def Completes (engine : Engine) (frontEnds : Language → FrontEnd) (source language : Text)
    (count : Nat) (code : Text) : Prop :=
  ∃ known tree new, Language.ofName? language = some known ∧
    (frontEnds known).read source = .ok tree ∧
    (∀ file log, ((engine.apply tree language file).value log).tree = some new ∧
      ((engine.apply tree language file).value log).count = count) ∧
    (frontEnds known).print new = .ok code

theorem Completes.eq_of_stages {source language : Text} {count : Nat} {code : Text} {file : Path}
    {known : Language} {r : Except PrintFault Scrubbed}
    (h : engine.Completes frontEnds source language count code)
    (hknown : Language.ofName? language = some known)
    (hstages : Stages engine (frontEnds known) file source r) :
    r = .ok ⟨true, code, some count, []⟩ := by
  obtain ⟨known', tree, new, hknown', hread, hwalk, hprint⟩ := h
  obtain rfl : known' = known := Option.some.inj (hknown'.symm.trans hknown)
  obtain ⟨hnew, rfl⟩ := hwalk file #[]
  rw [value_apply hknown] at hnew ⊢
  cases hstages <;> simp_all

/-- Where there is a result, either all stages have succeeded or there is no code but a
complaint. -/
theorem Stages.completes_or_fails {language source : Text} {known : Language} {file : Path}
    {result : Scrubbed} (hknown : Language.ofName? language = some known)
    (h : Stages engine (frontEnds known) file source (.ok result)) :
    (∃ count code, engine.Completes frontEnds source language count code ∧
        result = ⟨true, code, some count, []⟩) ∨
      result.success = false ∧ result.code = [] ∧ result.errors ≠ [] := by
  cases h with
  | unread hread => exact .inr ⟨rfl, rfl, List.cons_ne_nil _ _⟩
  | unscrubbed hread hwalk => exact .inr ⟨rfl, rfl, errors_of_outcome hwalk⟩
  | refused hread hwalk hprint => exact .inr ⟨rfl, rfl, List.cons_ne_nil _ _⟩
  | printed hread hwalk hprint =>
    refine .inl ⟨_, _, ⟨known, _, _, hknown, hread, fun file log => ?_, hprint⟩, rfl⟩
    rw [value_apply hknown]
    exact ⟨hwalk, rfl⟩

/-- A source comes to a result unless its printer hands on a fault. The result is a success just if
the language is known and reading, walking and printing all succeed, and then it is the printed tree
with the count of the walk; otherwise there is no code and a complaint. A file that may not be read
fails with that complaint. One that may be read, of UTF-8 and not too large, comes to the same
report as its contents, or to the same fault. -/
theorem scrub_fails_closed (engine : Engine) (frontEnds : Language → FrontEnd)
    (log : Array LogRecord) :
    (∀ source language fault,
      (engine.scrubSource frontEnds source language).run.value log = .error fault →
        ∃ known tree new, Language.ofName? language = some known ∧
          (frontEnds known).read source = .ok tree ∧
          ((engine.apply tree language (frontEnds known).placeholder).value log).tree = some new ∧
          (frontEnds known).print new = .error fault) ∧
    (∀ source language result,
      (engine.scrubSource frontEnds source language).run.value log = .ok result →
        (result.success = true ↔
          ∃ count code, engine.Completes frontEnds source language count code) ∧
        (∀ count code, engine.Completes frontEnds source language count code →
          result = ⟨true, code, some count, []⟩) ∧
        (result.success = false → result.code = [] ∧ result.errors ≠ [])) ∧
    ∀ tree mayRead path known bytes, Language.ofPath? path = some known →
      tree.probe path = .ok (some (.file bytes)) →
        (mayRead path = false →
          (engine.scrubFile frontEnds tree mayRead path).run.value log =
            .ok (.failed none [(SourceError.notReadable path).message])) ∧
        ∀ text, mayRead path = true →
          (bytes.length : Int) ≤ FrontEnd.maxFileSize * 1024 * 1024 →
          Utf8.decode bytes = .ok text →
            ((engine.scrubFile frontEnds tree mayRead path).run.value log).map Scrubbed.report =
              ((engine.scrubSource frontEnds text.unifyLineEnds
                (Text.ofString known.name)).run.value log).map Scrubbed.report := by
  refine ⟨?_, ?_, ?_⟩
  · intro source language fault hfault
    cases hknown : Language.ofName? language with
    | none =>
      rw [scrubSource, hknown] at hfault
      cases hfault
    | some known =>
      have hstages : Stages engine (frontEnds known) (frontEnds known).placeholder source
          ((engine.scrubSource frontEnds source language).run.value log) :=
        stages_of_scrubSource hknown source
      rw [hfault] at hstages
      cases hstages with
      | malformed hread hwalk hprint =>
        refine ⟨known, _, _, rfl, hread, ?_, hprint⟩
        rw [value_apply hknown, hwalk]
  · intro source language result hresult
    cases hknown : Language.ofName? language with
    | none =>
      rw [scrubSource, hknown] at hresult
      obtain rfl : Scrubbed.failed none [unsupported language] = result := Except.ok.inj hresult
      have hnot (count : Nat) (code : Text) :
          ¬engine.Completes frontEnds source language count code := by
        rintro ⟨known, -, -, hknown', -⟩
        simp [hknown] at hknown'
      exact ⟨by simp [hnot, Scrubbed.failed], fun count code h => absurd h (hnot count code),
        fun _ => ⟨rfl, List.cons_ne_nil _ _⟩⟩
    | some known =>
      have hstages : Stages engine (frontEnds known) (frontEnds known).placeholder source
          ((engine.scrubSource frontEnds source language).run.value log) :=
        stages_of_scrubSource hknown source
      rw [hresult] at hstages
      have heq (count : Nat) (code : Text)
          (h : engine.Completes frontEnds source language count code) :
          result = ⟨true, code, some count, []⟩ := Except.ok.inj (h.eq_of_stages hknown hstages)
      refine ⟨⟨fun hsuccess => ?_, ?_⟩, heq, fun hfailure => ?_⟩
      · rcases hstages.completes_or_fails hknown with ⟨count, code, h, -⟩ | ⟨hfailure, -⟩
        · exact ⟨count, code, h⟩
        · simp [hfailure] at hsuccess
      · rintro ⟨count, code, h⟩
        rw [heq count code h]
      · rcases hstages.completes_or_fails hknown with ⟨count, code, -, rfl⟩ | ⟨-, h⟩
        · cases hfailure
        · exact h
  · intro tree mayRead path known bytes hlanguage hfile
    refine ⟨fun h => value_scrubFile_of_error hlanguage (readSource_of_not_mayRead hfile h), ?_⟩
    intro text h hsize htext
    have hsource : Stages engine (frontEnds known) (frontEnds known).placeholder text.unifyLineEnds
        ((engine.scrubSource frontEnds text.unifyLineEnds (Text.ofString known.name)).run.value
          log) :=
      stages_of_scrubSource (Language.ofName?_name known) _
    have hread : tree.readSource mayRead FrontEnd.maxFileSize path = .ok text.unifyLineEnds :=
      readSource_of_decode hfile h hsize htext
    exact (stages_of_scrubFile hlanguage hread).report_eq hsource

/-- The tree of an assignment of a string to `x`. -/
def assignment (t : String) : Value :=
  .lua .chunk [("body", .lua .block [("body", .list [.lua .assign
    [("targets", .list [.lua .nameExpr
        [("id", .text (Text.ofString "x")), ("attribute", .null)]]),
      ("values", .list [.lua .string (luaString t ++ [("line", .int 1)])]),
      ("line", .int 1)]]), ("line", .int 1)]), ("line", .int 1)]

theorem outcome_assignment : (withoutA.outcome (assignment "ab")).tree = some (assignment "b") ∧
    (withoutA.outcome (assignment "ab")).count = 1 := by
  have htext : Lua.literalText (luaString "ab" ++ [("line", .int 1)]) =
      .ok (Text.ofString "ab") := by cbv
  have hchanged : (withoutA.rewrite (Text.ofString "ab")).changed = true := by cbv
  have hrest : (withoutA.rewrite (Text.ofString "ab")).text = Text.ofString "b" := by cbv
  have hnew : Lua.withText (luaString "ab" ++ [("line", .int 1)]) (Text.ofString "b") =
      .ok (luaString "b" ++ [("line", .int 1)]) := by cbv
  have hcall : (pure false : Except Problem Bool) = .ok false := rfl
  have hpatterns : withoutA.patterns.isEmpty = false := rfl
  simp [outcome, hpatterns, Logged.value, assignment, Value.lua, Value.isLuaNode, Scrub.transform,
    Scrub.modeOf, Scrub.transformLua, Scrub.transformLuaFrom, Scrub.walkLua, Scrub.walkLuaAttrs,
    Scrub.visitLuaField, Scrub.visitLuaValue, Scrub.visitLuaItems, Scrub.isPassedOver,
    Scrub.isRequireCall, hcall, Scrub.visitString, htext, Scrub.scrubText, hchanged, hrest, hnew,
    Logged.write]
  rfl

theorem read_assignment :
    (FrontEnd.of default .lua).read (Text.ofString "x=\"ab\"\n") = .ok (assignment "ab") := by cbv

theorem print_assignment :
    (FrontEnd.of default .lua).print (assignment "b") = .ok (Text.ofString "x = \"b\"") := by cbv

/-- A file `a.lua` in the root directory. -/
def oneFile (bytes : Bytes) : FileTree :=
  ⟨default, [([Text.ofString "a.lua"], .file bytes)]⟩

/-- A letter is cut out of a string, in a source as well as in a file with other line ends, unless
the file may not be read. -/
theorem scrub_fails_closed_assignment :
    let frontEnds := FrontEnd.of default
    let source := Text.ofString "x=\"ab\"\n"
    let code := Text.ofString "x = \"b\""
    let tree := oneFile (Lua.encode (Text.ofString "x=\"ab\"\r\n"))
    let path : Path := ⟨Text.ofString "/", [Text.ofString "a.lua"]⟩
    withoutA.Completes frontEnds source (Text.ofString "lua") 1 code ∧
      (withoutA.scrubSource frontEnds source (Text.ofString "lua")).run.value #[] =
        .ok ⟨true, code, some 1, []⟩ ∧
      ((withoutA.scrubFile frontEnds tree (fun _ => true) path).run.value #[]).map
        Scrubbed.report = .ok (true, code, some 1) ∧
      (withoutA.scrubFile frontEnds tree (fun _ => false) path).run.value #[] =
        .ok (.failed none [Text.ofString "File is not readable: /a.lua"]) := by
  intro frontEnds source code tree path
  have hknown : Language.ofName? (Text.ofString "lua") = some .lua := by decide
  have hcompletes : withoutA.Completes frontEnds source (Text.ofString "lua") 1 code := by
    refine ⟨.lua, assignment "ab", assignment "b", hknown, read_assignment, fun file log => ?_,
      print_assignment⟩
    rw [value_apply hknown]
    exact outcome_assignment
  obtain ⟨hfault, hresult, hfile⟩ := scrub_fails_closed withoutA frontEnds #[]
  have hvalue : (withoutA.scrubSource frontEnds source (Text.ofString "lua")).run.value #[] =
      .ok ⟨true, code, some 1, []⟩ := by
    cases h : (withoutA.scrubSource frontEnds source (Text.ofString "lua")).run.value #[] with
    | error fault =>
      obtain ⟨known, read, new, hknown', hread', hnew, hprint'⟩ := hfault _ _ _ h
      obtain rfl : known = .lua := Option.some.inj (hknown'.symm.trans hknown)
      obtain rfl : read = assignment "ab" := Except.ok.inj (hread'.symm.trans read_assignment)
      rw [value_apply hknown, outcome_assignment.1] at hnew
      rw [← Option.some.inj hnew, print_assignment] at hprint'
      cases hprint'
    | ok result => rw [(hresult _ _ _ h).2.1 1 code hcompletes]
  have hlanguage : Language.ofPath? path = some .lua := by decide
  refine ⟨hcompletes, hvalue, ?_, (hfile tree _ path .lua _ hlanguage rfl).1 rfl⟩
  have hunified : (Text.ofString "x=\"ab\"\r\n").unifyLineEnds = source := by decide
  rw [(hfile tree _ path .lua _ hlanguage rfl).2 (Text.ofString "x=\"ab\"\r\n") rfl (by decide)
    (by cbv), hunified]
  exact congrArg (Except.map Scrubbed.report) hvalue

end Engine

end LiteralScrub
