import LiteralScrub.Lua.Literal
import LiteralScrub.Proofs.Tree
import LiteralScrub.Proofs.Utf8

/-!
# Bytes of Lua strings

Bytes are read and written back without loss. A text that is written and read comes back but for
one thing: single bytes that stand next to each other may together be the bytes of a character.
-/
namespace LiteralScrub.Lua

/-! ## Writing -/

theorem eq_flatMap_of_encodeEscaping? {t : Text} {b : Bytes}
    (h : Utf8.encodeEscaping? t = some b) : b = t.flatMap encodePoint := by
  induction t generalizing b with
  | nil => simpa [Utf8.encodeEscaping?, eq_comm] using h
  | cons c t ih =>
    rw [Utf8.encodeEscaping?] at h
    split_ifs at h with hbyte hsurrogate
    · obtain ⟨rest, hrest, rfl⟩ := Option.map_eq_some_iff.mp h
      simp [encodePoint, hbyte, ih hrest]
    · obtain ⟨rest, hrest, rfl⟩ := Option.map_eq_some_iff.mp h
      simp [encodePoint, hbyte, ih hrest]

/-- Both ways of writing a text give the bytes of its code points in turn. -/
theorem encode_eq_flatMap (t : Text) : encode t = t.flatMap encodePoint := by
  unfold encode
  split
  · exact eq_flatMap_of_encodeEscaping? ‹_›
  · rfl

theorem encode_append (t t' : Text) : encode (t ++ t') = encode t ++ encode t' := by
  simp [encode_eq_flatMap]

theorem encode_cons (c : CodePoint) (t : Text) : encode (c :: t) = encodePoint c ++ encode t := by
  simp [encode_eq_flatMap]

theorem encodePoint_of_not_isSurrogate {c : Nat} (h : isSurrogate c = false) :
    encodePoint c = Utf8.encodePoint c := by
  have hbyte : ¬Utf8.isEscapedByte c = true := by
    rw [← Bool.not_eq_true, isSurrogate_iff] at h
    rw [Utf8.isEscapedByte_iff]
    omega
  rw [encodePoint, if_neg hbyte]

/-- The code point that stands for a byte is written as that byte. -/
theorem encodePoint_byte {b : UInt8} (h : 0x80 ≤ b.toNat) : encodePoint (0xDC00 + b.toNat) = [b] := by
  have hbyte : Utf8.isEscapedByte (0xDC00 + b.toNat) = true := by
    have := b.toNat_lt
    rw [Utf8.isEscapedByte_iff]
    omega
  simp [encodePoint, hbyte]

/-- A code point is written as the byte for which it stands, or in UTF-8. -/
theorem encodePoint_cases (c : Nat) :
    (∃ b : UInt8, 0x80 ≤ b.toNat ∧ c = 0xDC00 + b.toNat ∧ encodePoint c = [b]) ∨
      encodePoint c = Utf8.encodePoint c := by
  by_cases hbyte : Utf8.isEscapedByte c = true
  · left
    have hc := Utf8.isEscapedByte_iff.mp hbyte
    have hb := Utf8.toNat_ofNat_of_lt (by omega : c - 0xDC00 < 0x100)
    refine ⟨.ofNat (c - 0xDC00), by omega, by omega, ?_⟩
    rw [encodePoint, if_pos hbyte]
  · exact .inr (if_neg hbyte)

/-- Bytes that each have their code point. -/
theorem encode_map_byte {bytes : Bytes} (h : ∀ b ∈ bytes, 0x80 ≤ b.toNat) :
    encode (bytes.map fun b => 0xDC00 + b.toNat) = bytes := by
  induction bytes with
  | nil => rfl
  | cons b bytes ih =>
    rw [List.map_cons, encode_cons, encodePoint_byte (h b (by simp)),
      ih fun b hb => h b (by simp [hb])]
    rfl

/-! ## Reading -/

theorem encode_decode (bytes : Bytes) : encode (decode bytes) = bytes := by
  unfold decode
  induction bytes using Utf8.bytes_induction with
  | nil => simp [Utf8.decodeEscaping, encode_eq_flatMap]
  | point c rest hc ih =>
    rw [Utf8.decodeEscaping_encodePoint_append hc, encode_cons, ih,
      encodePoint_of_not_isSurrogate hc.2]
  | byte a rest hnone ih =>
    rw [Utf8.decodeEscaping_cons_of_none hnone, encode_cons, ih,
      encodePoint_byte (Utf8.le_toNat_of_sequence?_eq_none hnone)]
    rfl

/-- What is read from bytes are characters, and single bytes beyond ASCII. -/
theorem isScalar_or_byte_of_mem_decode {bytes : Bytes} {c : Nat} (h : c ∈ decode bytes) :
    Utf8.IsScalar c ∨ ∃ b : UInt8, 0x80 ≤ b.toNat ∧ c = 0xDC00 + b.toNat := by
  unfold decode at h
  induction bytes using Utf8.bytes_induction with
  | nil => simp [Utf8.decodeEscaping] at h
  | point d rest hd ih =>
    rw [Utf8.decodeEscaping_encodePoint_append hd, List.mem_cons] at h
    rcases h with rfl | h
    · exact .inl hd
    · exact ih h
  | byte a rest hnone ih =>
    rw [Utf8.decodeEscaping_cons_of_none hnone, List.mem_cons] at h
    rcases h with rfl | h
    · exact .inr ⟨a, Utf8.le_toNat_of_sequence?_eq_none hnone, rfl⟩
    · exact ih h

theorem lt_of_mem_decode {bytes : Bytes} {c : Nat} (h : c ∈ decode bytes) : c < 0x110000 := by
  rcases isScalar_or_byte_of_mem_decode h with hc | ⟨b, -, rfl⟩
  · exact hc.1
  · have := b.toNat_lt
    omega

/-- All bytes, whether they are UTF-8 or not, can be read and written back. In the text that is
read, surrogates stand for single bytes beyond ASCII, and there are none just if the bytes are
UTF-8. -/
theorem encode_decode_lossless (bytes : Bytes) :
    encode (decode bytes) = bytes ∧
      (∀ c ∈ decode bytes, isSurrogate c = true → 0xDC80 ≤ c ∧ c ≤ 0xDCFF) ∧
      ((∀ c ∈ decode bytes, isSurrogate c = false) ↔ Utf8.decode bytes = .ok (decode bytes)) := by
  refine ⟨encode_decode bytes, ?_, ?_⟩
  · intro c hc hsurrogate
    rcases isScalar_or_byte_of_mem_decode hc with hscalar | ⟨b, hb, rfl⟩
    · rw [hscalar.2] at hsurrogate
      cases hsurrogate
    · have hlt := b.toNat_lt
      show 0xDC80 ≤ (0xDC00 + b.toNat : Nat) ∧ (0xDC00 + b.toNat : Nat) ≤ 0xDCFF
      omega
  · rw [Utf8.decode_eq_ok_iff]
    exact ⟨fun h => ⟨rfl, h⟩, fun h => h.2⟩

/-- An ASCII letter, a character, an encoded surrogate, a byte that begins nothing and a character
that is cut off: each byte of the last three is kept by itself. -/
theorem encode_decode_lossless_broken :
    let bytes : Bytes := [0x41, 0xC3, 0xA9, 0xED, 0xA0, 0x80, 0xF5, 0xE4, 0xB8]
    decode bytes = [0x41, 0xE9, 0xDCED, 0xDCA0, 0xDC80, 0xDCF5, 0xDCE4, 0xDCB8] ∧
      encode (decode bytes) = bytes ∧
      (0xDCE4 ∈ decode bytes ∧ isSurrogate 0xDCE4 = true ∧ (0xDC80 ≤ 0xDCE4 ∧ 0xDCE4 ≤ 0xDCFF)) ∧
      Utf8.decode bytes ≠ .ok (decode bytes) := by
  intro bytes
  have hread : decode bytes = [0x41, 0xE9, 0xDCED, 0xDCA0, 0xDC80, 0xDCF5, 0xDCE4, 0xDCB8] := by
    simp [bytes, decode, Utf8.decodeEscaping, Utf8.sequence?, Utf8.isContinuation, Utf8.fitsLead,
      Utf8.low]
  have hmem : 0xDCE4 ∈ decode bytes := by simp [hread]
  obtain ⟨hlossless, hsurrogates, hwhole⟩ := encode_decode_lossless bytes
  refine ⟨hread, hlossless, ⟨hmem, rfl, hsurrogates 0xDCE4 hmem rfl⟩, ?_⟩
  intro h
  cases hwhole.mpr h 0xDCE4 hmem

/-- What is left of a text that was read is what the bytes that are left read as. -/
theorem exists_decode_of_suffix {bytes : Bytes} {t : Text} (h : t <:+ decode bytes) :
    ∃ rest, t = decode rest := by
  unfold decode at h ⊢
  induction bytes using Utf8.bytes_induction with
  | nil => exact ⟨[], by simpa [Utf8.decodeEscaping] using h⟩
  | point c rest hc ih =>
    rw [Utf8.decodeEscaping_encodePoint_append hc, List.suffix_cons_iff] at h
    rcases h with rfl | h
    · exact ⟨_, (Utf8.decodeEscaping_encodePoint_append hc rest).symm⟩
    · exact ih h
  | byte a rest hnone ih =>
    rw [Utf8.decodeEscaping_cons_of_none hnone, List.suffix_cons_iff] at h
    rcases h with rfl | h
    · exact ⟨_, (Utf8.decodeEscaping_cons_of_none hnone).symm⟩
    · exact ih h

/-! ## Reading what was written -/

/-- The code points that stand for the bytes of a character, if each is taken by itself. -/
def bytewise (c : CodePoint) : Text := (Utf8.encodePoint c).map fun b => 0xDC00 + b.toNat

/-- The text has, one after the other, single bytes that together are those of the character. -/
def Spells (t : Text) (c : CodePoint) : Prop := 0x80 ≤ c ∧ bytewise c <:+: t

theorem Spells.mono {t t' : Text} {c : CodePoint} (h : Spells t c) (ht : t <:+: t') :
    Spells t' c :=
  ⟨h.1, h.2.trans ht⟩

/-- Bytes that continue a sequence are written only for code points that stand for them. -/
theorem eq_append_of_encode {t : Text} (hvalid : ∀ c ∈ t, c < 0x110000) {more rest : Bytes}
    (hmore : ∀ b ∈ more, Utf8.isContinuation b = true) (h : encode t = more ++ rest) :
    ∃ t', t = more.map (fun b => 0xDC00 + b.toNat) ++ t' ∧ encode t' = rest := by
  induction more generalizing t with
  | nil => exact ⟨t, rfl, h⟩
  | cons b more ih =>
    have hb := hmore b (by simp)
    cases t with
    | nil => simp [encode_eq_flatMap] at h
    | cons c t =>
      rw [encode_cons] at h
      rcases encodePoint_cases c with ⟨b', -, rfl, hc⟩ | hc
      · obtain ⟨rfl, hrest⟩ : b' = b ∧ encode t = more ++ rest := by simpa [hc] using h
        obtain ⟨t', rfl, ht'⟩ := ih (fun c hc => hvalid c (by simp [hc]))
          (fun b hb => hmore b (by simp [hb])) hrest
        exact ⟨t', rfl, ht'⟩
      · obtain ⟨a, tail, he, ha, -⟩ := Utf8.encodePoint_eq_cons (hvalid c (by simp))
        obtain ⟨rfl, -⟩ : a = b ∧ tail ++ encode t = more ++ rest := by simpa [hc, he] using h
        simp [hb] at ha

/-- A single byte that begins a character, once written, stands in front of the others of it. -/
theorem eq_bytewise_append {b : UInt8} {t : Text} (hvalid : ∀ c ∈ t, c < 0x110000)
    (hb : 0x80 ≤ b.toNat) {c size : Nat} (h : Utf8.sequence? (b :: encode t) = some (c, size)) :
    Utf8.IsScalar c ∧ 0x80 ≤ c ∧
      ∃ t', (0xDC00 + b.toNat) :: t = bytewise c ++ t' ∧
        b :: encode t = Utf8.encodePoint c ++ encode t' := by
  obtain ⟨hscalar, -, rest, hbytes⟩ := Utf8.of_sequence? h
  obtain ⟨a, tail, he, -, htail⟩ := Utf8.encodePoint_eq_cons hscalar.1
  obtain ⟨rfl, hrest⟩ : b = a ∧ encode t = tail ++ rest := by simpa [he] using hbytes
  obtain ⟨t', rfl, rfl⟩ := eq_append_of_encode hvalid htail hrest
  refine ⟨hscalar, ?_, t', by simp [bytewise, he], hbytes⟩
  by_contra hlt
  have hone := Utf8.encodePoint_one (by omega : c < 0x80)
  obtain ⟨rfl, -⟩ : b = .ofNat c ∧ tail = [] := by simpa [he] using hone
  rw [Utf8.toNat_ofNat_of_lt (by omega)] at hb
  omega

/-- A character in what a text reads as, once written, is in the text, or its bytes are. -/
theorem mem_or_spells_of_mem_decode_encode {t : Text} (hvalid : ∀ c ∈ t, c < 0x110000) {c : Nat}
    (hc : isSurrogate c = false) (h : c ∈ decode (encode t)) : c ∈ t ∨ Spells t c := by
  have hbyte (b : UInt8) : c ≠ 0xDC00 + b.toNat := by
    rintro rfl
    simp [isSurrogate_byte] at hc
  induction hn : t.length using Nat.strong_induction_on generalizing t with
  | _ n ih =>
    subst hn
    cases t with
    | nil => simp [encode_eq_flatMap, decode, Utf8.decodeEscaping] at h
    | cons x t =>
      have hrest (hmem : c ∈ decode (encode t)) : c ∈ x :: t ∨ Spells (x :: t) c := by
        have := ih t.length (by simp) (fun d hd => hvalid d (by simp [hd])) hmem rfl
        exact this.imp (List.mem_cons_of_mem x) (·.mono (List.suffix_cons x t).isInfix)
      unfold decode at h hrest
      rw [encode_cons] at h
      rcases encodePoint_cases x with ⟨b, hb, rfl, he⟩ | he
      · rw [he, List.singleton_append] at h
        cases hseq : Utf8.sequence? (b :: encode t) with
        | none =>
          rw [Utf8.decodeEscaping_cons_of_none hseq, List.mem_cons] at h
          exact hrest (h.resolve_left (hbyte b))
        | some found =>
          obtain ⟨point, size⟩ := found
          obtain ⟨hscalar, hlow, t', ht', hbytes⟩ :=
            eq_bytewise_append (fun d hd => hvalid d (by simp [hd])) hb hseq
          rw [hbytes, Utf8.decodeEscaping_encodePoint_append hscalar, List.mem_cons] at h
          rw [ht'] at hvalid ih ⊢
          rcases h with rfl | h
          · exact .inr ⟨hlow, (List.prefix_append _ t').isInfix⟩
          · obtain ⟨a, tail, hlead, -, -⟩ := Utf8.encodePoint_eq_cons hscalar.1
            have hshorter : t'.length < (bytewise point ++ t').length := by
              rw [List.length_append, bytewise, hlead, List.length_map, List.length_cons]
              omega
            have := ih t'.length hshorter (fun d hd => hvalid d (by simp [hd])) h rfl
            exact this.imp (List.mem_append_right _)
              (·.mono (List.suffix_append _ t').isInfix)
      · rw [he] at h
        by_cases hx : isSurrogate x = true
        · rw [Utf8.decodeEscaping_surrogate_append hx, List.mem_append, List.mem_map] at h
          refine hrest (h.resolve_left ?_)
          rintro ⟨b, -, hb⟩
          exact hbyte b hb.symm
        · rw [Utf8.decodeEscaping_encodePoint_append ⟨hvalid x (by simp), by simpa using hx⟩,
            List.mem_cons] at h
          rcases h with rfl | h
          · exact .inl (by simp)
          · exact hrest h

/-- Single bytes that spell a character are read as that character, once written. -/
theorem Spells.mem_decode_encode {t : Text} {c : Nat} (h : Spells t c) (hc : Utf8.IsScalar c) :
    c ∈ decode (encode t) := by
  obtain ⟨hlow, before, after, rfl⟩ := h
  obtain ⟨a, tail, he, ha, -⟩ := Utf8.encodePoint_eq_cons hc.1
  have hfresh : Utf8.StartsFresh (Utf8.encodePoint c ++ encode after) := by
    simp [Utf8.StartsFresh, he, ha]
  have hbytes : encode (bytewise c) = Utf8.encodePoint c :=
    encode_map_byte fun b => Utf8.le_toNat_of_mem_encodePoint hc hlow
  rw [List.append_assoc, encode_append, encode_append, hbytes, decode,
    Utf8.decodeEscaping_append _ hfresh, Utf8.decodeEscaping_encodePoint_append hc]
  simp

/-- A text that was read from bytes spells no character by single bytes: it would have been
read. -/
theorem not_spells_decode {bytes : Bytes} {c : Nat} (hc : Utf8.IsScalar c) :
    ¬Spells (decode bytes) c := by
  rintro ⟨hlow, before, after, h⟩
  obtain ⟨rest, hrest⟩ : ∃ rest, bytewise c ++ after = decode rest :=
    exists_decode_of_suffix ⟨before, by rw [← h, List.append_assoc]⟩
  have hbytes : encode (bytewise c) = Utf8.encodePoint c :=
    encode_map_byte fun b => Utf8.le_toNat_of_mem_encodePoint hc hlow
  have hread : decode rest = c :: decode (encode after) := by
    rw [← encode_decode rest, ← hrest, encode_append, hbytes]
    exact Utf8.decodeEscaping_encodePoint_append hc _
  obtain ⟨a, tail, he, -, -⟩ := Utf8.encodePoint_eq_cons hc.1
  rw [← hrest, bytewise, he, List.map_cons, List.cons_append] at hread
  have hsurrogate := isSurrogate_byte a
  rw [(List.cons.inj hread).1, hc.2] at hsurrogate
  cases hsurrogate

/-! ## String nodes with a new text -/

/-- The attributes that a new text sets; all others stay. -/
theorem get?_renewed (attrs : Attrs) (before : Value) (t : Text) (name : String) :
    Attrs.get? (renewed attrs before t) name =
      let (delimiter, raw) := delimited before t
      if name = "delimiter" then some delimiter
      else if name = "raw" then some (.text raw)
      else if name = "s" then some (.bytes (encode t))
      else attrs.get? name := by
  simp only [renewed, Attrs.get?_set]

theorem withText_eq_ok_iff {attrs new : Attrs} {t : Text} :
    withText attrs t = .ok new ↔
      ∃ before, attrs.get? "delimiter" = some before ∧ renewed attrs before t = new := by
  cases h : attrs.get? "delimiter" <;> simp [withText, Kind.read, h, bind, Except.bind, pure,
    Except.pure]

theorem literalText_of_get? {attrs : Attrs} {value : Value} (h : attrs.get? "s" = some value) :
    literalText attrs = textOf value := by
  simp [literalText, Kind.read, h, bind, Except.bind]

end LiteralScrub.Lua
