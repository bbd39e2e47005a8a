import Mathlib.Data.List.Infix
import LiteralScrub.Text.Utf8

/-!
# Well-formed UTF-8

`sequence?` recognises the bytes of the code points that are characters, and nothing else.
-/
namespace LiteralScrub

theorem isSurrogate_iff {c : Nat} : isSurrogate c = true ↔ 0xD800 ≤ c ∧ c ≤ 0xDFFF := by
  simp [isSurrogate]

/-- The code point that stands for a byte. -/
theorem isSurrogate_byte (b : UInt8) : isSurrogate (0xDC00 + b.toNat) = true := by
  have := b.toNat_lt
  rw [isSurrogate_iff]
  omega

namespace Utf8

theorem isEscapedByte_iff {c : Nat} : isEscapedByte c = true ↔ 0xDC80 ≤ c ∧ c ≤ 0xDCFF := by
  simp [isEscapedByte]

theorem isContinuation_iff {b : UInt8} :
    isContinuation b = true ↔ 0x80 ≤ b.toNat ∧ b.toNat ≤ 0xBF := by
  simp [isContinuation, UInt8.le_iff_toNat_le]

theorem fitsLead_iff {lead second : UInt8} :
    fitsLead lead second = true ↔
      0x80 ≤ second.toNat ∧ second.toNat ≤ 0xBF ∧
        (lead.toNat = 0xE0 → 0xA0 ≤ second.toNat) ∧ (lead.toNat = 0xED → second.toNat ≤ 0x9F) ∧
        (lead.toNat = 0xF0 → 0x90 ≤ second.toNat) ∧
        (lead.toNat = 0xF4 → second.toNat ≤ 0x8F) := by
  simp [fitsLead, isContinuation, UInt8.le_iff_toNat_le, ← UInt8.toNat_inj, and_assoc]
  grind

/-! ## Sequences -/

/-- The bytes of a character. -/
inductive Sequence : Bytes → Nat → Prop where
  | one {a : UInt8} : a.toNat < 0x80 → Sequence [a] a.toNat
  | two {a b : UInt8} : 0xC2 ≤ a.toNat → a.toNat < 0xE0 → isContinuation b = true →
      Sequence [a, b] (a.toNat % 0x20 * 0x40 + low b)
  | three {a b c : UInt8} : 0xE0 ≤ a.toNat → a.toNat < 0xF0 → fitsLead a b = true →
      isContinuation c = true → Sequence [a, b, c] (a.toNat % 0x10 * 0x1000 + low b * 0x40 + low c)
  | four {a b c d : UInt8} : 0xF0 ≤ a.toNat → a.toNat < 0xF5 → fitsLead a b = true →
      isContinuation c = true → isContinuation d = true →
      Sequence [a, b, c, d]
        (a.toNat % 0x08 * 0x40000 + low b * 0x1000 + low c * 0x40 + low d)

theorem Sequence.sequence?_append {lead : Bytes} {c : Nat} (h : Sequence lead c) (rest : Bytes) :
    sequence? (lead ++ rest) = some (c, lead.length) := by
  cases h <;>
    simp only [List.cons_append, List.nil_append] <;>
    unfold sequence? <;>
    grind [UInt8.lt_iff_toNat_lt]

theorem Sequence.of_sequence? {bytes : Bytes} {point size : Nat}
    (h : sequence? bytes = some (point, size)) :
    ∃ lead rest, bytes = lead ++ rest ∧ Sequence lead point ∧ size = lead.length := by
  revert h
  fun_cases sequence? bytes with
  | case2 a rest ha =>
    intro h
    cases h
    rw [UInt8.lt_iff_toNat_lt] at ha
    exact ⟨[a], rest, rfl, .one ha, rfl⟩
  | case4 a h1 h2 h3 b rest hb =>
    intro h
    cases h
    rw [UInt8.lt_iff_toNat_lt, Nat.not_lt] at h2
    rw [UInt8.lt_iff_toNat_lt] at h3
    exact ⟨[a, b], rest, rfl, .two h2 h3 hb, rfl⟩
  | case7 a h1 h2 h3 h4 b c rest hbc =>
    intro h
    cases h
    rw [UInt8.lt_iff_toNat_lt, Nat.not_lt] at h3
    rw [UInt8.lt_iff_toNat_lt] at h4
    rw [Bool.and_eq_true] at hbc
    exact ⟨[a, b, c], rest, rfl, .three h3 h4 hbc.1 hbc.2, rfl⟩
  | case10 a h1 h2 h3 h4 h5 b c d rest hbcd =>
    intro h
    cases h
    rw [UInt8.lt_iff_toNat_lt, Nat.not_lt] at h4
    rw [UInt8.lt_iff_toNat_lt] at h5
    rw [Bool.and_eq_true, Bool.and_eq_true] at hbcd
    exact ⟨[a, b, c, d], rest, rfl, .four h4 h5 hbcd.1.1 hbcd.1.2 hbcd.2, rfl⟩
  | _ =>
    intro h
    cases h

/-- The code points that are characters, and which UTF-8 can write. -/
def IsScalar (c : Nat) : Prop := c < 0x110000 ∧ isSurrogate c = false

theorem isScalar_iff {c : Nat} : IsScalar c ↔ c < 0xD800 ∨ 0xE000 ≤ c ∧ c < 0x110000 := by
  rw [IsScalar, ← Bool.not_eq_true, isSurrogate_iff]
  omega

section

variable {c : Nat}

theorem encodePoint_one (h : c < 0x80) : encodePoint c = [.ofNat c] := if_pos h

theorem encodePoint_two (h : 0x80 ≤ c) (h' : c < 0x800) :
    encodePoint c = [.ofNat (0xC0 + c / 0x40), .ofNat (0x80 + c % 0x40)] := by
  rw [encodePoint, if_neg (Nat.not_lt.mpr h), if_pos h']

theorem encodePoint_three (h : 0x800 ≤ c) (h' : c < 0x10000) :
    encodePoint c =
      [.ofNat (0xE0 + c / 0x1000), .ofNat (0x80 + c / 0x40 % 0x40), .ofNat (0x80 + c % 0x40)] := by
  rw [encodePoint, if_neg (by omega : ¬c < 0x80), if_neg (Nat.not_lt.mpr h), if_pos h']

theorem encodePoint_four (h : 0x10000 ≤ c) :
    encodePoint c =
      [.ofNat (0xF0 + c / 0x40000), .ofNat (0x80 + c / 0x1000 % 0x40),
        .ofNat (0x80 + c / 0x40 % 0x40), .ofNat (0x80 + c % 0x40)] := by
  rw [encodePoint, if_neg (by omega : ¬c < 0x80), if_neg (by omega : ¬c < 0x800),
    if_neg (Nat.not_lt.mpr h)]

end

theorem ofNat_eq {n : Nat} {a : UInt8} (h : n = a.toNat) : UInt8.ofNat n = a := by
  rw [h, UInt8.ofNat_toNat]

theorem low_eq {b : UInt8} (h : 0x80 ≤ b.toNat) (h' : b.toNat ≤ 0xBF) :
    low b = b.toNat - 0x80 := by
  unfold low
  omega

/-- A sequence is the bytes of a character. -/
theorem Sequence.eq_encodePoint {lead : Bytes} {point : Nat} (h : Sequence lead point) :
    IsScalar point ∧ lead = encodePoint point := by
  cases h with
  | @one a ha =>
    refine ⟨isScalar_iff.mpr (by omega), ?_⟩
    rw [encodePoint_one ha, UInt8.ofNat_toNat]
  | @two a b h1 h2 hb =>
    rw [isContinuation_iff] at hb
    have := low_eq hb.1 hb.2
    refine ⟨isScalar_iff.mpr (by omega), ?_⟩
    rw [encodePoint_two (by omega) (by omega), ofNat_eq (a := a) (by omega),
      ofNat_eq (a := b) (by omega)]
  | @three a b c h1 h2 hb hc =>
    rw [fitsLead_iff] at hb
    rw [isContinuation_iff] at hc
    have := low_eq hb.1 hb.2.1
    have := low_eq hc.1 hc.2
    refine ⟨isScalar_iff.mpr (by omega), ?_⟩
    rw [encodePoint_three (by omega) (by omega), ofNat_eq (a := a) (by omega),
      ofNat_eq (a := b) (by omega), ofNat_eq (a := c) (by omega)]
  | @four a b c d h1 h2 hb hc hd =>
    rw [fitsLead_iff] at hb
    rw [isContinuation_iff] at hc hd
    have := low_eq hb.1 hb.2.1
    have := low_eq hc.1 hc.2
    have := low_eq hd.1 hd.2
    refine ⟨isScalar_iff.mpr (by omega), ?_⟩
    rw [encodePoint_four (by omega), ofNat_eq (a := a) (by omega), ofNat_eq (a := b) (by omega),
      ofNat_eq (a := c) (by omega), ofNat_eq (a := d) (by omega)]

theorem toNat_ofNat_of_lt {n : Nat} (h : n < 0x100) : (UInt8.ofNat n).toNat = n := by
  rw [UInt8.toNat_ofNat', Nat.mod_eq_of_lt h]

/-- The bytes of a character are a sequence. -/
theorem sequence_encodePoint {point : Nat} (h : IsScalar point) :
    Sequence (encodePoint point) point := by
  rw [isScalar_iff] at h
  by_cases h1 : point < 0x80
  · have ha := toNat_ofNat_of_lt (by omega : point < 0x100)
    rw [encodePoint_one h1]
    have hseq := Sequence.one (a := .ofNat point) (by omega)
    rwa [ha] at hseq
  by_cases h2 : point < 0x800
  · rw [encodePoint_two (by omega) h2]
    have ha := toNat_ofNat_of_lt (by omega : 0xC0 + point / 0x40 < 0x100)
    have hb := toNat_ofNat_of_lt (by omega : 0x80 + point % 0x40 < 0x100)
    have hseq := Sequence.two (a := .ofNat (0xC0 + point / 0x40))
      (b := .ofNat (0x80 + point % 0x40)) (by omega) (by omega) (isContinuation_iff.mpr (by omega))
    rw [low, ha, hb] at hseq
    convert hseq using 1
    omega
  by_cases h3 : point < 0x10000
  · rw [encodePoint_three (by omega) h3]
    have ha := toNat_ofNat_of_lt (by omega : 0xE0 + point / 0x1000 < 0x100)
    have hb := toNat_ofNat_of_lt (by omega : 0x80 + point / 0x40 % 0x40 < 0x100)
    have hc := toNat_ofNat_of_lt (by omega : 0x80 + point % 0x40 < 0x100)
    have hseq := Sequence.three (a := .ofNat (0xE0 + point / 0x1000))
      (b := .ofNat (0x80 + point / 0x40 % 0x40)) (c := .ofNat (0x80 + point % 0x40))
      (by omega) (by omega) (fitsLead_iff.mpr (by omega)) (isContinuation_iff.mpr (by omega))
    rw [low, low, ha, hb, hc] at hseq
    convert hseq using 1
    omega
  · rw [encodePoint_four (by omega)]
    have ha := toNat_ofNat_of_lt (by omega : 0xF0 + point / 0x40000 < 0x100)
    have hb := toNat_ofNat_of_lt (by omega : 0x80 + point / 0x1000 % 0x40 < 0x100)
    have hc := toNat_ofNat_of_lt (by omega : 0x80 + point / 0x40 % 0x40 < 0x100)
    have hd := toNat_ofNat_of_lt (by omega : 0x80 + point % 0x40 < 0x100)
    have hseq := Sequence.four (a := .ofNat (0xF0 + point / 0x40000))
      (b := .ofNat (0x80 + point / 0x1000 % 0x40)) (c := .ofNat (0x80 + point / 0x40 % 0x40))
      (d := .ofNat (0x80 + point % 0x40)) (by omega) (by omega) (fitsLead_iff.mpr (by omega))
      (isContinuation_iff.mpr (by omega)) (isContinuation_iff.mpr (by omega))
    rw [low, low, low, ha, hb, hc, hd] at hseq
    convert hseq using 1
    omega

theorem sequence?_encodePoint {c : Nat} (h : IsScalar c) (rest : Bytes) :
    sequence? (encodePoint c ++ rest) = some (c, (encodePoint c).length) :=
  (sequence_encodePoint h).sequence?_append rest

theorem of_sequence? {bytes : Bytes} {c size : Nat} (h : sequence? bytes = some (c, size)) :
    IsScalar c ∧ size = (encodePoint c).length ∧ ∃ rest, bytes = encodePoint c ++ rest := by
  obtain ⟨lead, rest, rfl, hlead, rfl⟩ := Sequence.of_sequence? h
  obtain ⟨hscalar, rfl⟩ := hlead.eq_encodePoint
  exact ⟨hscalar, rfl, rest, rfl⟩

/-- Only the first byte of a code point does not continue a sequence. -/
theorem encodePoint_eq_cons {c : Nat} (h : c < 0x110000) :
    ∃ a rest, encodePoint c = a :: rest ∧ isContinuation a = false ∧
      ∀ b ∈ rest, isContinuation b = true := by
  have hlead {n : Nat} (hn : n < 0x80 ∨ 0xC0 ≤ n ∧ n < 0x100) :
      isContinuation (.ofNat n) = false := by
    rw [← Bool.not_eq_true, isContinuation_iff, toNat_ofNat_of_lt (by omega)]
    omega
  have hrest (n : Nat) : isContinuation (.ofNat (0x80 + n % 0x40)) = true := by
    rw [isContinuation_iff, toNat_ofNat_of_lt (by omega)]
    omega
  by_cases h1 : c < 0x80
  · exact ⟨_, _, encodePoint_one h1, hlead (by omega), by simp⟩
  by_cases h2 : c < 0x800
  · exact ⟨_, _, encodePoint_two (by omega) h2, hlead (by omega), by simp [hrest, -UInt8.ofNat_add]⟩
  by_cases h3 : c < 0x10000
  · exact ⟨_, _, encodePoint_three (by omega) h3, hlead (by omega), by simp [hrest, -UInt8.ofNat_add]⟩
  · exact ⟨_, _, encodePoint_four (by omega), hlead (by omega), by simp [hrest, -UInt8.ofNat_add]⟩

/-- The bytes of a character beyond ASCII are beyond ASCII themselves. -/
theorem le_toNat_of_mem_encodePoint {c : Nat} (h : IsScalar c) (hc : 0x80 ≤ c) {b : UInt8}
    (hb : b ∈ encodePoint c) : 0x80 ≤ b.toNat := by
  obtain ⟨a, tail, he, -, htail⟩ := encodePoint_eq_cons h.1
  rw [he] at hb
  rcases List.mem_cons.mp hb with rfl | hb
  · by_contra hlt
    -- a byte below is a sequence by itself, and there is only one at the beginning
    have hone := (Sequence.one (by omega : b.toNat < 0x80)).sequence?_append tail
    have hseq := sequence?_encodePoint h []
    rw [List.append_nil, he] at hseq
    rw [List.singleton_append, hseq] at hone
    have := (Prod.mk.inj (Option.some.inj hone)).1
    omega
  · exact (isContinuation_iff.mp (htail b hb)).1

/-! ## Reading bytes -/

theorem decodeEscaping_encodePoint_append {c : Nat} (h : IsScalar c) (rest : Bytes) :
    decodeEscaping (encodePoint c ++ rest) = c :: decodeEscaping rest := by
  obtain ⟨a, tail, he, -, -⟩ := encodePoint_eq_cons h.1
  have hseq := sequence?_encodePoint h rest
  rw [he, List.cons_append] at hseq ⊢
  rw [decodeEscaping]
  simp only [hseq]
  simp

theorem decodeEscaping_cons_of_none {a : UInt8} {rest : Bytes} (h : sequence? (a :: rest) = none) :
    decodeEscaping (a :: rest) = (0xDC00 + a.toNat) :: decodeEscaping rest := by
  rw [decodeEscaping]
  simp only [h]

/-- Every list of bytes is made of the bytes of characters and of bytes that begin none. -/
@[elab_as_elim]
theorem bytes_induction {P : Bytes → Prop} (nil : P [])
    (point : ∀ c rest, IsScalar c → P rest → P (encodePoint c ++ rest))
    (byte : ∀ a rest, sequence? (a :: rest) = none → P rest → P (a :: rest))
    (bytes : Bytes) : P bytes := by
  induction hn : bytes.length using Nat.strong_induction_on generalizing bytes with
  | _ n ih =>
    subst hn
    cases bytes with
    | nil => exact nil
    | cons a rest =>
      cases hseq : sequence? (a :: rest) with
      | none => exact byte a rest hseq (ih _ (by simp) rest rfl)
      | some found =>
        obtain ⟨hscalar, -, rest', he⟩ := of_sequence? hseq
        obtain ⟨b, tail, hb, -, -⟩ := encodePoint_eq_cons hscalar.1
        rw [he]
        refine point _ rest' hscalar (ih _ ?_ rest' rfl)
        rw [he, hb, List.length_append, List.length_cons]
        omega

theorem decodeOnto_encodePoint_append {c : Nat} (h : IsScalar c) (before : Text) (place : Nat)
    (rest : Bytes) :
    decodeOnto before place (encodePoint c ++ rest) =
      decodeOnto (c :: before) (place + (encodePoint c).length) rest := by
  obtain ⟨a, tail, he, -, -⟩ := encodePoint_eq_cons h.1
  have hseq := sequence?_encodePoint h rest
  rw [he, List.cons_append] at hseq ⊢
  rw [decodeOnto]
  simp only [hseq]
  simp

theorem decodeOnto_cons_of_none {a : UInt8} {rest : Bytes} (h : sequence? (a :: rest) = none)
    (before : Text) (place : Nat) :
    ∃ fault, decodeOnto before place (a :: rest) = .error fault := by
  rw [decodeOnto]
  simp only [h]
  exact ⟨_, rfl⟩

/-- Bytes are UTF-8 if and only if no byte of them has to be kept by itself, and then they are read
as the same text. -/
theorem decode_eq_ok_iff {bytes : Bytes} {t : Text} :
    decode bytes = .ok t ↔ decodeEscaping bytes = t ∧ ∀ c ∈ t, isSurrogate c = false := by
  have hgo (before : Text) (place : Nat) : decodeOnto before place bytes = .ok t ↔
      before.reverse ++ decodeEscaping bytes = t ∧
        ∀ c ∈ decodeEscaping bytes, isSurrogate c = false := by
    induction bytes using bytes_induction generalizing before place with
    | nil =>
      rw [decodeOnto, decodeEscaping]
      simp
    | point c rest hc ih =>
      rw [decodeOnto_encodePoint_append hc, ih, decodeEscaping_encodePoint_append hc]
      simp [hc.2]
    | byte a rest hnone ih =>
      obtain ⟨fault, hfault⟩ := decodeOnto_cons_of_none hnone before place
      rw [hfault, decodeEscaping_cons_of_none hnone]
      simp [isSurrogate_byte]
  rw [decode, hgo, List.reverse_nil, List.nil_append]
  constructor
  · rintro ⟨rfl, h⟩
    exact ⟨rfl, h⟩
  · rintro ⟨rfl, h⟩
    exact ⟨rfl, h⟩

/-- A text that can be written is read again. -/
theorem decode_of_encode? {t : Text} {bytes : Bytes} (h : encode? t = some bytes)
    (hpoints : ∀ c ∈ t, c < 0x110000) : decode bytes = .ok t := by
  unfold encode? at h
  split_ifs at h with hsurrogate
  cases h
  have hscalar : ∀ c ∈ t, isSurrogate c = false := by
    simpa [Text.hasSurrogate] using hsurrogate
  rw [decode_eq_ok_iff]
  refine ⟨?_, hscalar⟩
  clear hsurrogate
  induction t with
  | nil => rw [List.flatMap_nil, decodeEscaping]
  | cons c t ih =>
    rw [List.forall_mem_cons] at hpoints hscalar
    rw [List.flatMap_cons, decodeEscaping_encodePoint_append ⟨hpoints.1, hscalar.1⟩,
      ih hpoints.2 hscalar.2]

/-- A byte below 0x80 is a character by itself. -/
theorem le_toNat_of_sequence?_eq_none {a : UInt8} {rest : Bytes}
    (h : sequence? (a :: rest) = none) : 0x80 ≤ a.toNat := by
  by_contra hlt
  have := (Sequence.one (by omega : a.toNat < 0x80)).sequence?_append rest
  simp [h] at this

theorem sequence?_of_isContinuation {a : UInt8} (h : isContinuation a = true) (rest : Bytes) :
    sequence? (a :: rest) = none := by
  cases hseq : sequence? (a :: rest) with
  | none => rfl
  | some found =>
    obtain ⟨hscalar, -, rest', he⟩ := of_sequence? hseq
    obtain ⟨b, tail, hb, hlead, -⟩ := encodePoint_eq_cons hscalar.1
    obtain ⟨rfl, -⟩ : a = b ∧ rest = tail ++ rest' := by simpa [hb] using he
    simp [h] at hlead

/-- The bytes of a surrogate are no sequence; each of them is kept by itself. -/
theorem decodeEscaping_surrogate_append {c : Nat} (h : isSurrogate c = true) (rest : Bytes) :
    decodeEscaping (encodePoint c ++ rest) =
      (encodePoint c).map (fun b => 0xDC00 + b.toNat) ++ decodeEscaping rest := by
  rw [isSurrogate_iff] at h
  have ha := toNat_ofNat_of_lt (by omega : 0xE0 + c / 0x1000 < 0x100)
  have hb := toNat_ofNat_of_lt (by omega : 0x80 + c / 0x40 % 0x40 < 0x100)
  have hc := toNat_ofNat_of_lt (by omega : 0x80 + c % 0x40 < 0x100)
  rw [encodePoint_three (by omega) (by omega)]
  generalize UInt8.ofNat (0xE0 + c / 0x1000) = a at *
  generalize UInt8.ofNat (0x80 + c / 0x40 % 0x40) = b at *
  generalize UInt8.ofNat (0x80 + c % 0x40) = d at *
  have hfits : fitsLead a b = false := by
    rw [← Bool.not_eq_true, fitsLead_iff]
    omega
  have hnone : sequence? (a :: b :: d :: rest) = none := by
    unfold sequence?
    grind [UInt8.lt_iff_toNat_lt]
  have hb' : isContinuation b = true := isContinuation_iff.mpr (by omega)
  have hd' : isContinuation d = true := isContinuation_iff.mpr (by omega)
  simp only [List.cons_append, List.nil_append, List.map_cons, List.map_nil]
  rw [decodeEscaping_cons_of_none hnone,
    decodeEscaping_cons_of_none (sequence?_of_isContinuation hb' _),
    decodeEscaping_cons_of_none (sequence?_of_isContinuation hd' _)]

/-- The bytes do not begin in the middle of a sequence. -/
def StartsFresh (bytes : Bytes) : Prop := ∀ b ∈ bytes.head?, isContinuation b = false

theorem sequence?_append_eq_none {a : UInt8} {x y : Bytes}
    (h : sequence? (a :: x) = none) (hy : StartsFresh y) : sequence? (a :: (x ++ y)) = none := by
  by_contra hne
  obtain ⟨⟨c, size⟩, hseq⟩ := Option.ne_none_iff_exists'.mp hne
  obtain ⟨hscalar, -, rest, he⟩ := of_sequence? hseq
  rw [← List.cons_append] at he
  rcases List.append_eq_append_iff.mp he with ⟨more, hc, hmore⟩ | ⟨more, hx, -⟩
  · -- the sequence would go on in `y`, whose first byte cannot continue one
    obtain ⟨b, tail, hb, -, htail⟩ := encodePoint_eq_cons hscalar.1
    cases more with
    | nil =>
      have := sequence?_encodePoint hscalar []
      simp [hc, h] at this
    | cons b' more =>
      obtain ⟨rfl, rfl⟩ : b = a ∧ tail = x ++ b' :: more := by simpa [hb] using hc
      have := hy b' (by simp [hmore])
      simp [htail b' (by simp)] at this
  · rw [hx, sequence?_encodePoint hscalar] at h
    simp at h

/-- Reading starts anew at a byte that continues no sequence. -/
theorem decodeEscaping_append (x : Bytes) {y : Bytes} (hy : StartsFresh y) :
    decodeEscaping (x ++ y) = decodeEscaping x ++ decodeEscaping y := by
  induction x using bytes_induction with
  | nil => simp [decodeEscaping]
  | point c rest hc ih =>
    rw [List.append_assoc, decodeEscaping_encodePoint_append hc, ih,
      decodeEscaping_encodePoint_append hc, List.cons_append]
  | byte a rest hnone ih =>
    rw [List.cons_append, decodeEscaping_cons_of_none hnone,
      decodeEscaping_cons_of_none (sequence?_append_eq_none hnone hy), ih, List.cons_append]

end Utf8

end LiteralScrub
