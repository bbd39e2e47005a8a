import Mathlib
import LiteralScrub.Proofs.LuaText

/-!
# Lua strings in long brackets

`readLongBracket` reads a string in long brackets by the lexical rules of the language. A text that
is left in long brackets is closed by the brackets behind it. It denotes the bytes of the text,
unless it begins with a newline: that one is skipped.
-/
namespace LiteralScrub

theorem Text.contains_iff {part t : Text} : Text.contains part t = true ↔ part <:+: t := by
  induction t with
  | nil => simp [Text.contains]
  | cons c t ih => simp [Text.contains, ih, List.infix_cons_iff]

namespace Lua

/-! ## Reading -/

/-- What stands in front of the first two closing brackets, and what follows them. -/
def untilClosing : Text → Option (Text × Text)
  | [] => none
  | c :: t =>
    if [0x5D, 0x5D].isPrefixOf (c :: t) then some ([], t.drop 1)
    else (untilClosing t).map fun (body, rest) => (c :: body, rest)

/-- A text with each end of a line as a newline. -/
def normalLines : Text → Text
  | 0x0D :: 0x0A :: t | 0x0A :: 0x0D :: t => 0x0A :: normalLines t
  | 0x0D :: t => 0x0A :: normalLines t
  | c :: t => c :: normalLines t
  | [] => []

/-- A text without the newline that it begins with. -/
def skipNewline : Text → Text
  | 0x0A :: t => t
  | t => t

/-- The bytes that a string in long brackets denotes, and what follows it. -/
def readLongBracket : Text → Option (Bytes × Text)
  | 0x5B :: 0x5B :: t =>
    (untilClosing t).map fun (body, rest) =>
      ((skipNewline (normalLines body)).flatMap Utf8.encodePoint, rest)
  | _ => none

/-! ## Texts that can stand in brackets -/

theorem isLongBracketSafe_iff {t : Text} :
    isLongBracketSafe t = true ↔
      ¬[0x5D, 0x5D] <:+: t ∧ 0x0D ∉ t ∧ ¬[0x5D] <:+ t ∧ ∀ c ∈ t, isSurrogate c = false := by
  have hclosing : Text.ofString "]]" = [0x5D, 0x5D] := rfl
  have hbracket : Text.ofString "]" = [0x5D] := rfl
  simp [isLongBracketSafe, hclosing, hbracket, ← Text.contains_iff, Text.endsWith,
    ← List.isSuffixOf_iff_suffix, Text.hasSurrogate, and_assoc]

theorem untilClosing_append {t : Text} (hinner : ¬[0x5D, 0x5D] <:+: t) (hlast : ¬[0x5D] <:+ t)
    (rest : Text) : untilClosing (t ++ 0x5D :: 0x5D :: rest) = some (t, rest) := by
  induction t with
  | nil => simp [untilClosing]
  | cons c t ih =>
    -- one bracket before the closing ones would be the last point of the text
    have hopen : ¬[0x5D, 0x5D].isPrefixOf (c :: (t ++ 0x5D :: 0x5D :: rest)) = true := by
      cases t with
      | nil =>
        intro h
        obtain rfl : 0x5D = c := by simpa using h
        exact hlast List.suffix_rfl
      | cons d t =>
        intro h
        obtain ⟨rfl, rfl⟩ : 0x5D = c ∧ 0x5D = d := by simpa using h
        exact hinner ⟨[], t, rfl⟩
    have hinner' : ¬[0x5D, 0x5D] <:+: t := fun h => hinner (h.trans (List.suffix_cons c t).isInfix)
    have hlast' : ¬[0x5D] <:+ t := fun h => hlast (h.trans (List.suffix_cons c t))
    rw [List.cons_append, untilClosing, if_neg hopen, ih hinner' hlast']
    rfl

theorem normalLines_of_not_mem {t : Text} (h : 0x0D ∉ t) : normalLines t = t := by
  fun_induction normalLines t <;> simp_all

theorem flatMap_encodePoint {t : Text} (h : ∀ c ∈ t, isSurrogate c = false) :
    t.flatMap Utf8.encodePoint = encode t := by
  rw [encode_eq_flatMap]
  exact List.flatMap_congr fun c hc => (encodePoint_of_not_isSurrogate (h c hc)).symm

theorem skipNewline_suffix (t : Text) : skipNewline t <:+ t := by
  unfold skipNewline
  split
  · exact List.suffix_cons _ _
  · exact List.suffix_rfl

/-- A text that can stand in long brackets is read as its bytes, but for a newline at its
beginning. -/
theorem readLongBracket_of_isLongBracketSafe {t : Text} (h : isLongBracketSafe t = true)
    (rest : Text) :
    readLongBracket ([0x5B, 0x5B] ++ t ++ [0x5D, 0x5D] ++ rest) =
      some (encode (skipNewline t), rest) := by
  obtain ⟨hinner, hreturn, hlast, hplain⟩ := isLongBracketSafe_iff.mp h
  have hbytes : (skipNewline t).flatMap Utf8.encodePoint = encode (skipNewline t) :=
    flatMap_encodePoint fun c hc => hplain c ((skipNewline_suffix t).subset hc)
  have hclosing := untilClosing_append hinner hlast rest
  simp [readLongBracket, hclosing, normalLines_of_not_mem hreturn, hbytes]

/-- Something is skipped only if the text begins with a newline. -/
theorem encode_skipNewline_eq_iff {t : Text} :
    encode (skipNewline t) = encode t ↔ t.head? ≠ some 0x0A := by
  unfold skipNewline
  split
  · next t =>
    have hlength : (encode (0x0A :: t)).length = 1 + (encode t).length := by
      rw [encode_cons, List.length_append]
      rfl
    refine ⟨fun he => ?_, fun he => absurd rfl he⟩
    rw [he] at hlength
    omega
  · next hother =>
    refine ⟨fun _ hhead => ?_, fun _ => rfl⟩
    obtain ⟨t', rfl⟩ := List.head?_eq_some_iff.mp hhead
    exact hother t' rfl

/-! ## Literals with a new text -/

/-- Long brackets are kept only for a text that can stand in them, and it does so as it is. -/
theorem delimited_doubleSquare {t : Text}
    (h : (delimited (.symbol .doubleSquare) t).1 = .symbol .doubleSquare) :
    isLongBracketSafe t = true ∧ (delimited (.symbol .doubleSquare) t).2 = t := by
  unfold delimited at h ⊢
  dsimp only at h ⊢
  split_ifs at h ⊢ with hsafe
  · exact ⟨hsafe, rfl⟩
  · cases h

/-- A string in long brackets can be given any text. Where it keeps the brackets, the literal is
closed at its end. It denotes the bytes that the node holds exactly if the text does not begin with
a newline; such a newline is lost. -/
theorem readLongBracket_withText (attrs : Attrs) (t rest : Text)
    (hold : attrs.get? "delimiter" = some (.symbol .doubleSquare)) :
    let literal := [0x5B, 0x5B] ++ t ++ [0x5D, 0x5D]
    ∃ new, withText attrs t = .ok new ∧
      (new.get? "delimiter" = some (.symbol .doubleSquare) →
        new.get? "s" = some (.bytes (encode t)) ∧ new.get? "raw" = some (.text t) ∧
          readLongBracket (literal ++ rest) = some (encode (skipNewline t), rest) ∧
          (readLongBracket (literal ++ rest) = some (encode t, rest) ↔
            t.head? ≠ some 0x0A)) := by
  intro literal
  refine ⟨_, withText_eq_ok_iff.mpr ⟨_, hold, rfl⟩, fun hnew => ?_⟩
  have hkept : (delimited (.symbol .doubleSquare) t).1 = .symbol .doubleSquare := by
    simpa [get?_renewed] using hnew
  obtain ⟨hsafe, hsame⟩ := delimited_doubleSquare hkept
  have hread := readLongBracket_of_isLongBracketSafe hsafe rest
  refine ⟨by simp [get?_renewed], by simp [get?_renewed, hsame], hread, ?_⟩
  rw [hread, ← encode_skipNewline_eq_iff]
  simp

/-- The string `[[x]]`. -/
def bracketed : Attrs :=
  [("s", .bytes [0x78]), ("raw", .text (Text.ofString "x")), ("delimiter", .symbol .doubleSquare)]

/-- Brackets that do not close the string, an escape that is none, and a newline in the middle. -/
theorem readLongBracket_withText_inner :
    let t := Text.ofString "[]\\n\n] "
    ∃ new, withText bracketed t = .ok new ∧
      new.get? "delimiter" = some (.symbol .doubleSquare) ∧
      readLongBracket ([0x5B, 0x5B] ++ t ++ [0x5D, 0x5D] ++ Text.ofString "]]") =
        some ([0x5B, 0x5D, 0x5C, 0x6E, 0x0A, 0x5D, 0x20], Text.ofString "]]") := by
  obtain ⟨new, hwith, hread⟩ := readLongBracket_withText bracketed
    (Text.ofString "[]\\n\n] ") (Text.ofString "]]") rfl
  obtain rfl : renewed bracketed (.symbol .doubleSquare) (Text.ofString "[]\\n\n] ") = new :=
    Except.ok.inj hwith
  obtain ⟨-, -, -, hread⟩ := hread (by cbv)
  exact ⟨_, hwith, by cbv, (hread.mpr (by decide)).trans (by cbv)⟩

/-- A text that begins with a newline keeps its long brackets, and they lose the newline. -/
theorem readLongBracket_loses_newline :
    ∃ new, withText bracketed (Text.ofString "\nabc") = .ok new ∧
      new.get? "delimiter" = some (.symbol .doubleSquare) ∧
      new.get? "s" = some (.bytes [0x0A, 0x61, 0x62, 0x63]) ∧
      new.get? "raw" = some (.text (Text.ofString "\nabc")) ∧
      readLongBracket (Text.ofString "[[\nabc]]") = some ([0x61, 0x62, 0x63], []) := by
  refine ⟨renewed bracketed (.symbol .doubleSquare) (Text.ofString "\nabc"), rfl, ?_⟩
  refine ⟨?_, ?_, ?_, ?_⟩ <;> cbv

end Lua

end LiteralScrub
