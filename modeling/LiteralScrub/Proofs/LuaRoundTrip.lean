import LiteralScrub.Proofs.LuaText

/-!
# Which texts survive as Lua strings

A text is written at one go or code point by code point, and both ways give the same bytes. Reading
them gives the text again just if every surrogate in it stands for a byte and no bytes that it keeps
singly belong together.
-/
namespace LiteralScrub.Lua

/-! ## Two ways of writing -/

/-- A text is refused at one go for a surrogate that stands for no byte, and for nothing else. -/
theorem encodeEscaping?_eq_none_iff {t : Text} :
    Utf8.encodeEscaping? t = none ↔
      ∃ c ∈ t, isSurrogate c = true ∧ Utf8.isEscapedByte c = false := by
  induction t with
  | nil => simp [Utf8.encodeEscaping?]
  | cons c t ih =>
    rw [Utf8.encodeEscaping?]
    split_ifs with hbyte hsurrogate
    · simp [ih, hbyte]
    · simp [hsurrogate, hbyte]
    · simp [ih, hsurrogate]

/-- Both ways of writing a text give the bytes of its code points in turn. The first one is left
just if a surrogate stands for no byte. So each text has bytes, and those of two texts in a row are
the bytes of both in a row. -/
theorem encode_either_way (t t' : Text) :
    encode t = t.flatMap encodePoint ∧
      (∀ bytes, Utf8.encodeEscaping? t = some bytes → bytes = t.flatMap encodePoint) ∧
      (Utf8.encodeEscaping? t = none ↔
        ∃ c ∈ t, isSurrogate c = true ∧ ¬(0xDC80 ≤ c ∧ c ≤ 0xDCFF)) ∧
      encode (t ++ t') = encode t ++ encode t' := by
  refine ⟨encode_eq_flatMap t, fun bytes => eq_flatMap_of_encodeEscaping?, ?_, encode_append t t'⟩
  simp only [encodeEscaping?_eq_none_iff, ← Bool.not_eq_true, Utf8.isEscapedByte_iff]

/-- A character, a single byte and a surrogate of neither kind: the first two are written at one
go, and with the third behind them they are not, yet their bytes stay. -/
theorem encode_either_way_mixed :
    Utf8.encodeEscaping? [0x4E2D, 0xDCE4] = some [0xE4, 0xB8, 0xAD, 0xE4] ∧
      [0xE4, 0xB8, 0xAD, 0xE4] = ([0x4E2D, 0xDCE4] : Text).flatMap encodePoint ∧
      Utf8.encodeEscaping? [0xD800] = none ∧
      Utf8.encodeEscaping? ([0x4E2D, 0xDCE4] ++ [0xD800]) = none ∧
      encode ([0x4E2D, 0xDCE4] ++ [0xD800]) = encode [0x4E2D, 0xDCE4] ++ encode [0xD800] := by
  have hwhole : Utf8.encodeEscaping? [0x4E2D, 0xDCE4] = some [0xE4, 0xB8, 0xAD, 0xE4] := by decide
  obtain ⟨-, hbytes, -, happend⟩ := encode_either_way [0x4E2D, 0xDCE4] [0xD800]
  exact ⟨hwhole, hbytes _ hwhole, by decide, by decide, happend⟩

/-! ## Reading what was written -/

/-- The bytes for which the code points of a run stand. -/
def runBytes (run : Text) : Bytes := run.map fun c => .ofNat (c - 0xDC00)

theorem runBytes_map_byte (bytes : Bytes) :
    runBytes (bytes.map fun b => 0xDC00 + b.toNat) = bytes := by
  rw [runBytes, List.map_map]
  refine (List.map_congr_left fun b _ => ?_).trans (List.map_id bytes)
  show UInt8.ofNat ((0xDC00 + b.toNat : Nat) - 0xDC00) = b
  rw [Nat.add_sub_cancel_left, UInt8.ofNat_toNat]

/-- A code point that stands for a byte. -/
theorem exists_byte_of_isEscapedByte {c : Nat} (h : Utf8.isEscapedByte c = true) :
    ∃ b : UInt8, 0x80 ≤ b.toNat ∧ c = 0xDC00 + b.toNat := by
  have hc := Utf8.isEscapedByte_iff.mp h
  have hb := Utf8.toNat_ofNat_of_lt (by omega : c - 0xDC00 < 0x100)
  exact ⟨.ofNat (c - 0xDC00), by omega, by omega⟩

theorem map_runBytes {run : Text} (h : ∀ c ∈ run, Utf8.isEscapedByte c = true) :
    (runBytes run).map (fun b => 0xDC00 + b.toNat) = run := by
  induction run with
  | nil => rfl
  | cons c run ih =>
    obtain ⟨b, hb, rfl⟩ := exists_byte_of_isEscapedByte (h c (by simp))
    have hcons : runBytes ((0xDC00 + b.toNat) :: run) = b :: runBytes run := by
      have hone := runBytes_map_byte [b]
      simp only [runBytes, List.map_cons, List.map_nil, List.cons.injEq, and_true] at hone ⊢
      exact hone
    rw [hcons, List.map_cons, ih fun c hc => h c (by simp [hc])]

theorem isEscapedByte_of_mem_bytewise {c d : Nat} (hc : Utf8.IsScalar c) (hlow : 0x80 ≤ c)
    (hd : d ∈ bytewise c) : Utf8.isEscapedByte d = true := by
  obtain ⟨b, hb, rfl⟩ := List.mem_map.mp hd
  have := Utf8.le_toNat_of_mem_encodePoint hc hlow hb
  have := b.toNat_lt
  rw [Utf8.isEscapedByte_iff]
  omega

/-- Sequences of more than one byte are those of the characters beyond ASCII. -/
theorem two_le_length_encodePoint_iff {c : Nat} :
    2 ≤ (Utf8.encodePoint c).length ↔ 0x80 ≤ c := by
  by_cases h : c < 0x80
  · simp [Utf8.encodePoint_one h, h]
  · simp only [Nat.not_lt.mp h, iff_true]
    unfold Utf8.encodePoint
    rw [if_neg h]
    split_ifs <;> simp

/-- A text spells a character just if the bytes of some run in it hold a sequence. -/
theorem exists_spells_iff {t : Text} :
    (∃ c, Utf8.IsScalar c ∧ Spells t c) ↔
      ∃ run, run <:+: t ∧ (∀ c ∈ run, Utf8.isEscapedByte c = true) ∧
        ∃ bytes c, 2 ≤ bytes.length ∧ Utf8.Sequence bytes c ∧ bytes <:+: runBytes run := by
  constructor
  · rintro ⟨c, hc, hlow, hinfix⟩
    refine ⟨bytewise c, hinfix, fun d => isEscapedByte_of_mem_bytewise hc hlow,
      Utf8.encodePoint c, c, two_le_length_encodePoint_iff.mpr hlow, Utf8.sequence_encodePoint hc, ?_⟩
    rw [bytewise, runBytes_map_byte]
  · rintro ⟨run, hrun, hbytes, bytes, c, hlength, hseq, hinfix⟩
    obtain ⟨hc, rfl⟩ := hseq.eq_encodePoint
    refine ⟨c, hc, two_le_length_encodePoint_iff.mp hlength, .trans ?_ hrun⟩
    rw [← map_runBytes hbytes]
    exact hinfix.map _

/-- A text that spells no character comes back, if its surrogates all stand for bytes. -/
theorem decode_encode_of_not_spells {t : Text} (hvalid : ∀ c ∈ t, c < 0x110000)
    (hbytes : ∀ c ∈ t, isSurrogate c = true → Utf8.isEscapedByte c = true)
    (hspells : ∀ c, Utf8.IsScalar c → ¬Spells t c) : decode (encode t) = t := by
  unfold decode
  induction t with
  | nil => simp [encode_eq_flatMap, Utf8.decodeEscaping]
  | cons x t ih =>
    have hrest := ih (fun c hc => hvalid c (by simp [hc])) (fun c hc => hbytes c (by simp [hc]))
      fun c hc h => hspells c hc (h.mono (List.suffix_cons x t).isInfix)
    rw [encode_cons]
    cases hx : isSurrogate x with
    | false =>
      rw [encodePoint_of_not_isSurrogate hx,
        Utf8.decodeEscaping_encodePoint_append ⟨hvalid x (by simp), hx⟩, hrest]
    | true =>
      obtain ⟨b, hb, rfl⟩ := exists_byte_of_isEscapedByte (hbytes x (by simp) hx)
      -- a sequence that begins with the byte would be spelled by the text
      have hnone : Utf8.sequence? (b :: encode t) = none := by
        cases hseq : Utf8.sequence? (b :: encode t) with
        | none => rfl
        | some found =>
          obtain ⟨hc, hlow, t', ht', -⟩ :=
            eq_bytewise_append (fun d hd => hvalid d (by simp [hd])) hb hseq
          exact absurd ⟨hlow, ht' ▸ (List.prefix_append _ t').isInfix⟩ (hspells _ hc)
      rw [encodePoint_byte hb, List.singleton_append, Utf8.decodeEscaping_cons_of_none hnone, hrest]

/-- A text comes back from its bytes just if every surrogate in it stands for a byte, and no run of
such code points holds, byte by byte, a sequence of two bytes or more. -/
theorem decode_encode_eq_self_iff {t : Text} (hvalid : ∀ c ∈ t, c < 0x110000) :
    decode (encode t) = t ↔
      (∀ c ∈ t, isSurrogate c = true → 0xDC80 ≤ c ∧ c ≤ 0xDCFF) ∧
      ∀ run, run <:+: t → (∀ c ∈ run, 0xDC80 ≤ c ∧ c ≤ 0xDCFF) →
        ¬∃ bytes c, 2 ≤ bytes.length ∧ Utf8.Sequence bytes c ∧ bytes <:+: runBytes run := by
  simp only [← Utf8.isEscapedByte_iff]
  constructor
  · intro h
    refine ⟨fun c hc hsurrogate => ?_, fun run hrun hbytes hseq => ?_⟩
    · rw [← h] at hc
      rcases isScalar_or_byte_of_mem_decode hc with hscalar | ⟨b, hb, rfl⟩
      · simp [hscalar.2] at hsurrogate
      · have := b.toNat_lt
        exact Utf8.isEscapedByte_iff.mpr (by omega)
    · obtain ⟨c, hc, hspells⟩ := exists_spells_iff.mpr ⟨run, hrun, hbytes, hseq⟩
      exact not_spells_decode hc (h.symm ▸ hspells)
  · rintro ⟨hbytes, hruns⟩
    refine decode_encode_of_not_spells hvalid hbytes fun c hc hspells => ?_
    obtain ⟨run, hrun, hall, hseq⟩ := exists_spells_iff.mp ⟨c, hc, hspells⟩
    exact hruns run hrun hall hseq

/-- The single bytes of an ideograph do not come back. With the ideograph itself between them they
do, so no run in that text holds a sequence. -/
theorem decode_encode_eq_self_iff_ideograph :
    let joined : Text := [0xDCE4, 0xDCB8, 0xDCAD]
    let parted : Text := [0xDCE4, 0xDCB8, 0x4E2D, 0xDCAD]
    (∀ c ∈ joined, c < 0x110000) ∧ decode (encode joined) ≠ joined ∧
      (∀ c ∈ parted, c < 0x110000) ∧ decode (encode parted) = parted ∧
      ¬∃ bytes c, 2 ≤ bytes.length ∧ Utf8.Sequence bytes c ∧
        bytes <:+: runBytes [0xDCE4, 0xDCB8] := by
  intro joined parted
  have hjoined : ∀ c ∈ joined, c < 0x110000 := by decide
  have hparted : ∀ c ∈ parted, c < 0x110000 := by decide
  have hback : decode (encode parted) = parted := by
    simp [parted, encode_eq_flatMap, encodePoint, Utf8.isEscapedByte, Utf8.encodePoint, decode,
      Utf8.decodeEscaping, Utf8.sequence?, Utf8.isContinuation, Utf8.fitsLead, Utf8.low]
  refine ⟨hjoined, fun h => ?_, hparted, hback, ?_⟩
  · refine ((decode_encode_eq_self_iff hjoined).mp h).2 joined List.infix_rfl (by decide)
      ⟨[0xE4, 0xB8, 0xAD], _, by decide, .three (by decide) (by decide) (by decide) (by decide), ?_⟩
    exact ⟨[], [], by decide⟩
  · exact ((decode_encode_eq_self_iff hparted).mp hback).2 [0xDCE4, 0xDCB8]
      ⟨[], [0x4E2D, 0xDCAD], rfl⟩ (by decide)

end LiteralScrub.Lua
