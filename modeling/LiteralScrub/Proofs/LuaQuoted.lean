import Mathlib.Data.Nat.Digits.Defs
import LiteralScrub.Lua.Escape
import LiteralScrub.Proofs.LuaText

/-!
# Quoted Lua strings

`readQuoted` reads a quoted string by the lexical rules of the language, up to the quote that
closes it. The body that `escape` writes is read as the bytes of the text: no escape runs into
what follows it, and the string ends where the body ends.
-/
namespace LiteralScrub.Lua

/-! ## Reading -/

/-- The byte of an escape, of which the backslash is gone, and what follows. Up to three digits
give the number of the byte. -/
def readEscape (t : Text) : Option (UInt8 × Text) :=
  let digits := (t.take 3).takeWhile isAsciiDigit
  if digits = [] then
    match t with
    | c :: rest => (namedEscape? c).map fun point => (.ofNat point, rest)
    | [] => none
  else if Text.toNatBase 10 digits < 0x100 then
    some (.ofNat (Text.toNatBase 10 digits), t.drop digits.length)
  else none

theorem length_of_readEscape {t rest : Text} {b : UInt8} (h : readEscape t = some (b, rest)) :
    rest.length < t.length := by
  simp only [readEscape] at h
  split_ifs at h with hnone hbyte
  · cases t with
    | nil => simp at h
    | cons c t =>
      obtain ⟨point, _, he⟩ := Option.map_eq_some_iff.mp h
      simp [← (Prod.mk.inj he).2]
  · have hpos := List.length_pos_iff.mpr hnone
    have hle := (List.takeWhile_sublist isAsciiDigit (l := t.take 3)).length_le
    rw [List.length_take] at hle
    rw [← (Prod.mk.inj (Option.some.inj h)).2, List.length_drop]
    omega

/-- The bytes that a string denotes, of which the opening quote is gone, and what follows the
closing one. A line cannot end within it. -/
def readQuoted (quote : CodePoint) : Text → Option (Bytes × Text)
  | [] => none
  | c :: t =>
    if c = quote then some ([], t)
    else if c = 0x0A ∨ c = 0x0D then none
    else if c = 0x5C then
      match _h : readEscape t with
      | some (b, rest) => (readQuoted quote rest).map fun (bytes, rest) => (b :: bytes, rest)
      | none => none
    else (readQuoted quote t).map fun (bytes, rest) => (Utf8.encodePoint c ++ bytes, rest)
termination_by t => t.length
decreasing_by
  · have := length_of_readEscape _h
    simp only [List.length_cons]
    omega
  · simp

section

variable {quote : CodePoint}

theorem readQuoted_backslash (hquote : quote ≠ 0x5C) {t rest : Text} {b : UInt8}
    (h : readEscape t = some (b, rest)) :
    readQuoted quote (0x5C :: t) =
      (readQuoted quote rest).map fun (bytes, rest) => (b :: bytes, rest) := by
  rw [readQuoted, if_neg hquote.symm, if_neg (by decide), if_pos rfl]
  split
  · next b' rest' h' =>
    obtain ⟨rfl, rfl⟩ : b' = b ∧ rest' = rest := by simpa [h] using h'.symm
    rfl
  · next h' => simp [h] at h'

theorem readQuoted_plain {c : Nat} (hquote : c ≠ quote) (hc : c ≠ 0x5C) (hlow : 0x20 ≤ c)
    (t : Text) :
    readQuoted quote (c :: t) =
      (readQuoted quote t).map fun (bytes, rest) => (Utf8.encodePoint c ++ bytes, rest) := by
  have hline : ¬(c = 0x0A ∨ c = 0x0D) := by omega
  rw [readQuoted, if_neg hquote, if_neg hline, if_neg hc]

end

/-! ## Numbers of bytes -/

theorem toNat_digitChar {n : Nat} (h : n < 10) : n.digitChar.toNat = 0x30 + n := by
  decide +revert

/-- A number below a thousand has three digits. -/
theorem decimalEscape_eq {n : Nat} (h : n < 1000) :
    decimalEscape n = [0x5C, 0x30 + n / 100, 0x30 + n / 10 % 10, 0x30 + n % 10] := by
  have hone {m : Nat} (hm : m < 10) : Text.ofChars (Nat.toDigits 10 m) = [0x30 + m] := by
    simp [Nat.toDigits_of_lt_base hm, Text.ofChars, toNat_digitChar hm]
  have hmore {m : Nat} (hm : 10 ≤ m) : Text.ofChars (Nat.toDigits 10 m) =
      Text.ofChars (Nat.toDigits 10 (m / 10)) ++ [0x30 + m % 10] := by
    simp [Nat.toDigits_of_base_le (by decide) hm, Text.ofChars,
      toNat_digitChar (Nat.mod_lt m (by decide))]
  simp only [decimalEscape, Text.ofNatPadded]
  by_cases hten : n < 10
  · rw [hone hten]
    simp [List.replicate_succ]
    omega
  · rw [hmore (by omega)]
    by_cases hhundred : n < 100
    · rw [hone (by omega)]
      simp
      omega
    · rw [hmore (by omega), hone (by omega)]
      simp
      omega

theorem isAsciiDigit_iff {c : Nat} : isAsciiDigit c = true ↔ 0x30 ≤ c ∧ c ≤ 0x39 := by
  simp [isAsciiDigit]

theorem hexValue?_digit {d : Nat} (h : d < 10) : hexValue? (0x30 + d) = some d := by
  decide +revert

theorem readEscape_digits {a b c : Nat} (ha : a < 10) (hb : b < 10) (hc : c < 10)
    (h : (a * 10 + b) * 10 + c < 0x100) (t : Text) :
    readEscape ([0x30 + a, 0x30 + b, 0x30 + c] ++ t) =
      some (.ofNat ((a * 10 + b) * 10 + c), t) := by
  have hdigit {d : Nat} (hd : d < 10) : isAsciiDigit (0x30 + d) = true :=
    isAsciiDigit_iff.mpr (by omega)
  simp [readEscape, Text.toNatBase, hdigit ha, hdigit hb, hdigit hc, hexValue?_digit ha,
    hexValue?_digit hb, hexValue?_digit hc, h]

/-- An escape by a number takes its three digits and no more, also if a digit follows. -/
theorem readQuoted_decimalEscape {quote : CodePoint} (hquote : quote ≠ 0x5C) {n : Nat}
    (hn : n < 0x100) (t : Text) :
    readQuoted quote (decimalEscape n ++ t) =
      (readQuoted quote t).map fun (bytes, rest) => (.ofNat n :: bytes, rest) := by
  have hsum : (n / 100 * 10 + n / 10 % 10) * 10 + n % 10 = n := by omega
  have hescape := readEscape_digits (by omega : n / 100 < 10) (by omega : n / 10 % 10 < 10)
    (by omega : n % 10 < 10) (by omega) t
  rw [hsum] at hescape
  rw [decimalEscape_eq (by omega)]
  exact readQuoted_backslash hquote hescape

/-- Bytes that are each written by its number. -/
theorem readQuoted_decimalEscapes {quote : CodePoint} (hquote : quote ≠ 0x5C) (bytes : Bytes)
    (t : Text) :
    readQuoted quote (bytes.flatMap (fun b => decimalEscape b.toNat) ++ t) =
      (readQuoted quote t).map fun (more, rest) => (bytes ++ more, rest) := by
  induction bytes with
  | nil => simp
  | cons b bytes ih =>
    rw [List.flatMap_cons, List.append_assoc, readQuoted_decimalEscape hquote b.toNat_lt, ih,
      Option.map_map]
    simp [Function.comp_def]

/-! ## Reading back -/

theorem readEscape_of_namedEscape? {c point : CodePoint} (h : namedEscape? c = some point)
    (hdigit : isAsciiDigit c = false) (t : Text) : readEscape (c :: t) = some (.ofNat point, t) := by
  simp [readEscape, hdigit, h]

/-- An escape by a letter is read as the code point for which it is written. -/
theorem readQuoted_letterEscape {quote : CodePoint} (hquote : quote ≠ 0x5C) {c : CodePoint}
    {letters : Text} (h : letterEscape? c = some letters) (t : Text) :
    readQuoted quote (letters ++ t) =
      (readQuoted quote t).map fun (bytes, rest) => (encodePoint c ++ bytes, rest) := by
  unfold letterEscape? at h
  split at h <;> cases h <;>
    exact readQuoted_backslash hquote (readEscape_of_namedEscape? rfl rfl t)

theorem encodePoint_of_lt {c : Nat} (h : c < 0x80) : encodePoint c = [.ofNat c] := by
  have hsurrogate : isSurrogate c = false := by
    rw [← Bool.not_eq_true, isSurrogate_iff]
    omega
  rw [encodePoint_of_not_isSurrogate hsurrogate, Utf8.encodePoint_one h]

/-- How a code point is written that has no escape by a letter and is not the quote. -/
theorem escapePoint_eq {quote c : Nat} (hletter : letterEscape? c = none) (hquote : c ≠ quote) :
    escapePoint [quote] c =
      if isSurrogate c then (encodePoint c).flatMap fun b => decimalEscape b.toNat
      else if c < 0x20 ∨ c = 0x7F then decimalEscape c else [c] := by
  simp [escapePoint, hletter, hquote]

/-- What is written for a code point is read as its bytes. -/
theorem readQuoted_escapePoint {quote : Nat} (hquote : quote ∈ [0x22, 0x27]) (c : Nat) (t : Text) :
    readQuoted quote (escapePoint [quote] c ++ t) =
      (readQuoted quote t).map fun (bytes, rest) => (encodePoint c ++ bytes, rest) := by
  have hne : quote ≠ 0x5C := by
    rintro rfl
    simp at hquote
  cases hletter : letterEscape? c with
  | some letters =>
    rw [escapePoint, hletter]
    exact readQuoted_letterEscape hne hletter t
  | none =>
    by_cases hsame : c = quote
    · subst hsame
      simp only [List.mem_cons, List.not_mem_nil, or_false] at hquote
      rcases hquote with rfl | rfl <;>
        exact readQuoted_backslash hne (readEscape_of_namedEscape? rfl rfl t)
    · have hc : c ≠ 0x5C := by
        rintro rfl
        simp [letterEscape?] at hletter
      rw [escapePoint_eq hletter hsame]
      split_ifs with hsurrogate hcontrol
      · exact readQuoted_decimalEscapes hne _ t
      · rw [readQuoted_decimalEscape hne (by omega), encodePoint_of_lt (by omega)]
        rfl
      · rw [encodePoint_of_not_isSurrogate (by simpa using hsurrogate)]
        exact readQuoted_plain hsame hc (by omega) t

/-- A code point that can stand in the body of a string as it is. -/
def IsPrintable (c : Nat) : Prop := 0x20 ≤ c ∧ c ≠ 0x7F ∧ isSurrogate c = false

theorem isPrintable_of_lt {c : Nat} (h : 0x20 ≤ c) (h' : c < 0x7F) : IsPrintable c := by
  refine ⟨h, h'.ne, ?_⟩
  rw [← Bool.not_eq_true, isSurrogate_iff]
  omega

theorem isPrintable_of_mem_decimalEscape {n : Nat} (h : n < 1000) {x : Nat}
    (hx : x ∈ decimalEscape n) : IsPrintable x := by
  rw [decimalEscape_eq h] at hx
  simp only [List.mem_cons, List.not_mem_nil, or_false] at hx
  exact isPrintable_of_lt (by omega) (by omega)

theorem isPrintable_of_mem_letterEscape {c : CodePoint} {letters : Text}
    (h : letterEscape? c = some letters) {x : Nat} (hx : x ∈ letters) : IsPrintable x := by
  have hletters : ∀ y ∈ letters, 0x20 ≤ y ∧ y < 0x7F := by
    unfold letterEscape? at h
    split at h <;> cases h <;> decide
  exact isPrintable_of_lt (hletters x hx).1 (hletters x hx).2

theorem isPrintable_of_mem_escapePoint {quote : Nat} (hquote : quote ∈ [0x22, 0x27]) {c x : Nat}
    (hx : x ∈ escapePoint [quote] c) : IsPrintable x := by
  cases hletter : letterEscape? c with
  | some letters =>
    rw [escapePoint, hletter] at hx
    exact isPrintable_of_mem_letterEscape hletter hx
  | none =>
    by_cases hsame : c = quote
    · subst hsame
      simp only [List.mem_cons, List.not_mem_nil, or_false] at hquote
      have hx : x = 0x5C ∨ x = c := by simpa [escapePoint, hletter] using hx
      exact isPrintable_of_lt (by omega) (by omega)
    · rw [escapePoint_eq hletter hsame] at hx
      split_ifs at hx with hsurrogate hcontrol
      · obtain ⟨b, -, hb⟩ := List.mem_flatMap.mp hx
        have := b.toNat_lt
        exact isPrintable_of_mem_decimalEscape (by omega) hb
      · exact isPrintable_of_mem_decimalEscape (by omega) hx
      · obtain rfl := List.mem_singleton.mp hx
        exact ⟨by omega, by omega, by simpa using hsurrogate⟩

/-- The body that is written for a text between quotes holds no control character and no
surrogate, and it is read as the bytes of the text: the string is closed by the quote behind the
body and by none within it. -/
theorem readQuoted_escape (quote : CodePoint) (hquote : quote ∈ [0x22, 0x27]) (t : Text) :
    (∀ c ∈ escape [quote] t, IsPrintable c) ∧
      ∀ rest, readQuoted quote (escape [quote] t ++ quote :: rest) = some (encode t, rest) := by
  constructor
  · intro c hc
    obtain ⟨point, -, hpoint⟩ := List.mem_flatMap.mp hc
    exact isPrintable_of_mem_escapePoint hquote hpoint
  · intro rest
    induction t with
    | nil => simp [escape, readQuoted, encode_eq_flatMap]
    | cons c t ih =>
      rw [escape, List.flatMap_cons, List.append_assoc, readQuoted_escapePoint hquote, ← escape, ih,
        encode_cons]
      rfl

/-- The quote, a backslash, a newline, a control character in front of a digit, a single byte, a
surrogate that stands for none, and a letter. -/
theorem readQuoted_escape_mixed :
    let t := [0x22, 0x5C, 0x0A, 0x01, 0x31, 0xDCFF, 0xD800, 0x4E2D]
    escape [0x22] t = Text.ofString "\\\"\\\\\\n\\0011\\255\\237\\160\\128中" ∧
      (∀ c ∈ escape [0x22] t, IsPrintable c) ∧
      readQuoted 0x22 (escape [0x22] t ++ 0x22 :: Text.ofString "\"") =
        some ([0x22, 0x5C, 0x0A, 0x01, 0x31, 0xFF, 0xED, 0xA0, 0x80, 0xE4, 0xB8, 0xAD],
          Text.ofString "\"") := by
  obtain ⟨hprintable, hread⟩ :=
    readQuoted_escape 0x22 (by simp) [0x22, 0x5C, 0x0A, 0x01, 0x31, 0xDCFF, 0xD800, 0x4E2D]
  exact ⟨by cbv, hprintable, (hread _).trans (by cbv)⟩

end LiteralScrub.Lua
