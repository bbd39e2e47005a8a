import Mathlib
import LiteralScrub.Proofs.Files
import LiteralScrub.Proofs.Pipeline

/-!
# A check of a source agrees with reading it

Reading always reports, and a check says yes to exactly the sources that are read. What the Python
reader cannot take as bytes is no syntax error: reading reports it, and the check passes it on.
-/
namespace LiteralScrub

namespace Lua

/-- Something is said of every fault. -/
theorem remark_ne_nil (fault : ReadFault) : remark fault ≠ [] := by
  unfold remark
  split <;> exact List.append_ne_nil_of_left_ne_nil (by decide) _

end Lua

namespace Python

/-- The sources that are refused before they are read: they have no bytes, or a byte is zero. -/
def IsUnreadable (source : Text) : Prop := source.hasSurrogate = true ∨ 0 ∈ source

/-- Why an unreadable source is refused. -/
def unreadable (source : Text) : ReadFault :=
  if source.hasSurrogate then .surrogates source else .nullCharacter

theorem read_of_isUnreadable {source : Text} (h : IsUnreadable source) :
    read source = .error (unreadable source) := by
  unfold read unreadable
  split_ifs with hsurrogate hzero
  · rfl
  · rfl
  · rcases h with h | h
    · exact absurd h hsurrogate
    · exact absurd (List.any_eq_true.mpr ⟨0, h, rfl⟩) hzero

/-- Nothing else than syntax errors is wrong with any other source. -/
theorem exists_of_read_eq_error {source : Text} {fault : ReadFault} (h : ¬IsUnreadable source)
    (hread : read source = .error fault) : ∃ broken : SyntaxFault, fault = broken.toReadFault := by
  unfold IsUnreadable at h
  push Not at h
  have hzero : ¬source.any (· == 0) = true := by simpa using h.2
  unfold read at hread
  rw [if_neg h.1, if_neg hzero] at hread
  obtain ⟨broken, -, rfl⟩ := exists_of_mapError_eq_error hread
  exact ⟨broken, rfl⟩

theorem remark_unreadable (source : Text) : remark (unreadable source) = none := by
  unfold unreadable
  split <;> rfl

theorem exists_remark_toReadFault (broken : SyntaxFault) :
    ∃ said, remark broken.toReadFault = some said ∧ said ≠ [] := by
  refine ⟨_, rfl, List.append_ne_nil_of_left_ne_nil ?_ _⟩
  simp [Text.ofString, Text.ofChars]

end Python

namespace FrontEnd

variable {frontEnd : FrontEnd} {source : Text}

theorem validate_of_ok {tree : Value} (h : frontEnd.read source = .ok tree) :
    frontEnd.validate source = .ok (true, []) := by
  rw [validate, h]

theorem validate_of_remark {fault : ReadFault} {said : Text}
    (h : frontEnd.read source = .error fault) (hsaid : frontEnd.remark fault = some said) :
    frontEnd.validate source = .ok (false, said) := by
  simp only [validate, h, hsaid]

theorem validate_of_no_remark {fault : ReadFault} (h : frontEnd.read source = .error fault)
    (hsaid : frontEnd.remark fault = none) : frontEnd.validate source = .error fault := by
  simp only [validate, h, hsaid]

/-- On every fault that reading can meet in the source there is a remark. -/
def Remarks (frontEnd : FrontEnd) (source : Text) : Prop :=
  ∀ fault, frontEnd.read source = .error fault →
    ∃ said, frontEnd.remark fault = some said ∧ said ≠ []

theorem remarks_lua (maxDepth : Nat) (read : Text → Except ReadFault Value) (source : Text) :
    ({ Lua.frontEnd maxDepth with read := read } : FrontEnd).Remarks source :=
  fun fault _ => ⟨Lua.remark fault, rfl, Lua.remark_ne_nil fault⟩

theorem remarks_python (maxDepth : Nat) (h : ¬Python.IsUnreadable source) :
    (Python.frontEnd maxDepth).Remarks source := by
  intro fault hread
  obtain ⟨broken, rfl⟩ := Python.exists_of_read_eq_error h hread
  exact Python.exists_remark_toReadFault broken

/-- A check answers, and yes exactly if the source is read; then it says nothing more. -/
def Agrees (frontEnd : FrontEnd) (source : Text) (log : Array LogRecord) : Prop :=
  ∃ said, frontEnd.validate source =
      .ok (((frontEnd.parse none source).value log).success, said) ∧
    (said = [] ↔ ((frontEnd.parse none source).value log).success = true)

/-- Where there is a remark on every fault, a check and reading agree. -/
theorem Remarks.agrees (h : frontEnd.Remarks source) (log : Array LogRecord) :
    frontEnd.Agrees source log := by
  unfold Agrees
  cases hread : frontEnd.read source with
  | ok tree =>
    rw [value_parse_of_ok hread]
    exact ⟨[], validate_of_ok hread, iff_of_true rfl rfl⟩
  | error fault =>
    rw [value_parse_of_error hread]
    obtain ⟨said, hsaid, hne⟩ := h fault hread
    exact ⟨said, validate_of_remark hread hsaid, iff_of_false hne Bool.false_ne_true⟩

/-- Of any Lua source a check and reading say the same, however Lua is read. So they do of any
Python source, but for one with a surrogate or a zero: reading reports it and the check does not
answer. -/
theorem validate_agrees_or_refuses (limits : Limits) (source : Text) (log : Array LogRecord) :
    (∀ read : Text → Except ReadFault Value,
      ({ of limits .lua with read := read } : FrontEnd).Agrees source log) ∧
    ((of limits .python).Agrees source log ∧ ¬Python.IsUnreadable source ∨
      ((of limits .python).validate source = .error (Python.unreadable source) ∧
        (((of limits .python).parse none source).value log).success = false ∧
        (((of limits .python).parse none source).value log).errors =
          [Python.complaint (of limits .python).placeholder (Python.unreadable source)]) ∧
        Python.IsUnreadable source) := by
  refine ⟨fun read => (remarks_lua limits.luaTree read source).agrees log, ?_⟩
  by_cases hsource : Python.IsUnreadable source
  · have hread : (of limits .python).read source = .error (Python.unreadable source) :=
      Python.read_of_isUnreadable hsource
    have hvalidate := validate_of_no_remark hread (Python.remark_unreadable source)
    rw [value_parse_of_error hread]
    exact .inr ⟨⟨hvalidate, rfl, rfl⟩, hsource⟩
  · exact .inl ⟨(remarks_python limits.pythonTree hsource).agrees log, hsource⟩

/-- A zero in a Python source: reading reports it, and the check fails. The check of a Lua source
answers. -/
theorem validate_refuses_zero :
    (of default .python).validate [0] = .error .nullCharacter ∧
      (((of default .python).parse none [0]).value #[]).success = false ∧
      ((of default .lua).validate [0]).map Prod.fst = .ok false := by
  refine ⟨rfl, rfl, ?_⟩
  cbv

end FrontEnd

end LiteralScrub
