import LiteralScrub.Proofs.Forbidden
import LiteralScrub.Proofs.LuaTrees

/-!
# Points that survive in Lua strings

The text of a Lua string is written as bytes, which are read again when the string is. A point that
no rewritten text has can only come back where single bytes of a broken string end up next to each
other and spell it. A mask keeps them apart; deletion does not.
-/
namespace LiteralScrub

/-! ## Runs that a mask interrupts -/

theorem infix_of_infix_append {α : Type} {l between after : List α} (h : ∀ x ∈ between, x ∉ l)
    (hl : l <:+: between ++ after) : l <:+: after := by
  rcases List.infix_append_iff.mp hl with hin | hin | ⟨l₁, l₂, rfl, hsuffix, hprefix⟩
  · rw [List.eq_nil_iff_forall_not_mem.mpr fun x hx => h x (hin.subset hx) hx]
    exact List.nil_infix
  · exact hin
  · obtain rfl : l₁ = [] := List.eq_nil_iff_forall_not_mem.mpr fun x hx =>
      h x (hsuffix.subset hx) (List.mem_append_left l₂ hx)
    exact hprefix.isInfix

theorem infix_or_infix_of_infix_append {α : Type} {l before between after : List α}
    (hne : between ≠ []) (h : ∀ x ∈ between, x ∉ l) (hl : l <:+: before ++ (between ++ after)) :
    l <:+: before ∨ l <:+: after := by
  rcases List.infix_append_iff.mp hl with hin | hin | ⟨l₁, l₂, rfl, hsuffix, hprefix⟩
  · exact .inl hin
  · exact .inr (infix_of_infix_append h hin)
  · left
    obtain ⟨x, rest, rfl⟩ := List.exists_cons_of_ne_nil hne
    cases l₂ with
    | nil => simpa using hsuffix.isInfix
    | cons y l₂ =>
      obtain rfl : y = x := (List.cons_prefix_cons.mp hprefix).1
      exact absurd (by simp) (h y (by simp))

variable {mask text : Text} {spans : List Span}

/-- A run of points that the mask does not have comes from one place of the text. -/
theorem infix_of_infix_replaceSpans {run : Text} (hne : mask ≠ []) (hmask : ∀ c ∈ mask, c ∉ run)
    {cursor : Nat} (hspans : InOrder cursor spans) (hpos : ∀ s ∈ spans, 0 < s.length)
    (h : run <:+: replaceSpans mask text cursor spans) : run <:+: text.drop cursor := by
  induction spans generalizing cursor with
  | nil => exact h
  | cons s rest ih =>
    have hstart := hspans.cursor_le s (by simp)
    have hle := hspans.start_le_stop s (by simp)
    have hfill : Mask.between mask s.start s.stop ≠ [] := by
      have hlength := hpos s (by simp)
      rw [← List.length_pos_iff, Mask.between, Mask.fill_length hne]
      rw [Span.length] at hlength
      omega
    rw [replaceSpans, List.append_assoc] at h
    rcases infix_or_infix_of_infix_append hfill
      (fun c hc => hmask c (Mask.mem_of_mem_fill hc)) h with hbefore | hafter
    · rw [List.drop_take] at hbefore
      exact hbefore.trans (List.take_prefix _ _).isInfix
    · have hrest := ih hspans.tail (fun t ht => hpos t (by simp [ht])) hafter
      exact hrest.trans (List.drop_suffix_drop_left text (by omega)).isInfix

/-! ## Rewritten texts -/

theorem mem_rewriteText {patterns : List Pattern} {c : CodePoint}
    (h : c ∈ (rewriteText patterns mask text).text) : c ∈ mask ∨ c ∈ text := by
  rw [rewriteText_text] at h
  rcases mem_replaceSpans (resolve_inOrder patterns text) h with hc | ⟨i, -, hget, -⟩
  · exact .inl hc
  · exact .inr (List.mem_of_getElem? hget)

theorem not_mem_rewriteText {patterns : List Pattern} {pattern : Pattern}
    (hmem : pattern ∈ patterns) {points : Set CodePoint} (hone : pattern.FindsOne points)
    (hmask : ∀ c ∈ mask, c ∉ points) {c : CodePoint} (hc : c ∈ points) :
    c ∉ (rewriteText patterns mask text).text := by
  intro h
  rw [rewriteText_text] at h
  rcases mem_replaceSpans (resolve_inOrder patterns text) h with hm | ⟨i, -, hget, hout⟩
  · exact hmask c hm hc
  · obtain ⟨s, hs, hcovers⟩ := covered_of_findsOne hmem hone hc hget
    exact hout s hs hcovers

namespace Lua

theorem isSurrogate_of_mem_bytewise {c d : CodePoint} (h : d ∈ bytewise c) :
    isSurrogate d = true := by
  obtain ⟨b, -, rfl⟩ := List.mem_map.mp h
  exact isSurrogate_byte b

/-- A mask without surrogates brings no single bytes together. -/
theorem Spells.of_rewriteText {patterns : List Pattern} {c : CodePoint} (hne : mask ≠ [])
    (hmask : ∀ d ∈ mask, isSurrogate d = false)
    (h : Spells (rewriteText patterns mask text).text c) : Spells text c := by
  obtain ⟨hlow, hinfix⟩ := h
  rw [rewriteText_text] at hinfix
  refine ⟨hlow, infix_of_infix_replaceSpans hne ?_ (resolve_inOrder patterns text)
    resolve_length_pos hinfix⟩
  intro d hd hmem
  have := isSurrogate_of_mem_bytewise hmem
  rw [hmask d hd] at this
  cases this

theorem Spells.exists_isEscapedByte {t : Text} {c : Nat} (h : Spells t c)
    (hc : Utf8.IsScalar c) : ∃ d ∈ t, Utf8.isEscapedByte d = true := by
  obtain ⟨b, tail, he, -, -⟩ := Utf8.encodePoint_eq_cons hc.1
  have hmem : b ∈ Utf8.encodePoint c := by simp [he]
  have hb := Utf8.le_toNat_of_mem_encodePoint hc h.1 hmem
  have := b.toNat_lt
  refine ⟨0xDC00 + b.toNat, h.2.subset (List.mem_map_of_mem hmem), ?_⟩
  rw [Utf8.isEscapedByte_iff]
  omega

theorem isSurrogate_of_isEscapedByte {c : Nat} (h : Utf8.isEscapedByte c = true) :
    isSurrogate c = true := by
  rw [Utf8.isEscapedByte_iff] at h
  rw [isSurrogate_iff]
  omega

theorem literalText_of_withText {attrs new : Attrs} {t : Text} (h : withText attrs t = .ok new) :
    literalText new = .ok (decode (encode t)) := by
  obtain ⟨before, -, rfl⟩ := withText_eq_ok_iff.mp h
  rw [literalText_of_get? (get?_renewed attrs before t "s")]
  rfl

end Lua

/-! ## Scrubbed strings -/

open Scrub

/-- What a string that is reached reads as afterwards. -/
def Scrub.textAfter (rewrite : Text → Rewriting) (t : Text) : Text :=
  if (rewrite t).changed then Lua.decode (Lua.encode (rewrite t).text) else t

theorem Scrub.literalText_of_scrubbedString {rewrite : Text → Rewriting} {attrs fresh : Attrs}
    {t : Text} (ht : Lua.literalText attrs = .ok t)
    (hfresh : scrubbedString rewrite attrs = .ok fresh) :
    Lua.literalText fresh = .ok (textAfter rewrite t) := by
  rw [scrubbedString_of_literalText ht] at hfresh
  unfold textAfter
  split_ifs at hfresh ⊢ with hchanged
  · exact Lua.literalText_of_withText hfresh
  · rwa [← Except.ok.inj hfresh]

section Points

variable {points : Set CodePoint} (hpoints : ∀ c ∈ points, Utf8.IsScalar c) {engine : Engine}
  {pattern : Pattern} (hmem : pattern ∈ engine.patterns) (hone : pattern.FindsOne points)
  (hmask : ∀ c ∈ engine.config.mask, c ∉ points ∧ Utf8.IsScalar c)
include hpoints hmem hone hmask

/-- A point is in the scrubbed string only if single bytes spell it. -/
theorem mem_textAfter_iff {t : Text} (ht : ∀ c ∈ t, c < 0x110000) {c : CodePoint}
    (hc : c ∈ points) :
    c ∈ textAfter engine.rewrite t ↔
      (engine.rewrite t).changed = true ∧ Lua.Spells (engine.rewrite t).text c := by
  have hclean : c ∉ (engine.rewrite t).text :=
    not_mem_rewriteText hmem hone (fun d hd => (hmask d hd).1) hc
  cases hchanged : (engine.rewrite t).changed with
  | false =>
    rw [Engine.rewrite_text_of_unchanged hchanged] at hclean
    simp [textAfter, hchanged, hclean]
  | true =>
    have hvalid : ∀ d ∈ (engine.rewrite t).text, d < 0x110000 := fun d hd =>
      (mem_rewriteText hd).elim (fun hm => (hmask d hm).2.1) (ht d)
    simp only [textAfter, hchanged, if_true, true_and]
    constructor
    · intro h
      exact (Lua.mem_or_spells_of_mem_decode_encode hvalid (hpoints c hc).2 h).resolve_left hclean
    · intro h
      exact h.mem_decode_encode (hpoints c hc)

theorem not_mem_textAfter_of_masked {t : Text} (hne : engine.config.mask ≠ [])
    (ht : ∃ bytes, t = Lua.decode bytes) {c : CodePoint} (hc : c ∈ points) :
    c ∉ textAfter engine.rewrite t := by
  obtain ⟨bytes, rfl⟩ := ht
  rw [mem_textAfter_iff hpoints hmem hone hmask (fun _ => Lua.lt_of_mem_decode) hc]
  rintro ⟨-, hspells⟩
  exact Lua.not_spells_decode (hpoints c hc)
    (Lua.Spells.of_rewriteText hne (fun d hd => (hmask d hd).2.2) hspells)

theorem not_mem_textAfter_of_whole {t : Text} (ht : ∀ c ∈ t, c < 0x110000)
    (hwhole : ∀ c ∈ t, Utf8.isEscapedByte c = false) {c : CodePoint} (hc : c ∈ points) :
    c ∉ textAfter engine.rewrite t := by
  rw [mem_textAfter_iff hpoints hmem hone hmask ht hc]
  rintro ⟨-, hspells⟩
  obtain ⟨d, hd, hbyte⟩ := hspells.exists_isEscapedByte (hpoints c hc)
  rcases mem_rewriteText hd with hd | hd
  · have hscalar := (hmask d hd).2.2
    rw [Lua.isSurrogate_of_isEscapedByte hbyte] at hscalar
    cases hscalar
  · have hsame := hwhole d hd
    rw [hbyte] at hsame
    cases hsame

end Points

/-- A string holds its text as bytes if it does not hold it as a text. -/
theorem Scrub.exists_decode_of_literalText {attrs : Attrs} {t : Text}
    (h : Lua.literalText attrs = .ok t) (hs : ∀ u, attrs.get? "s" ≠ some (.text u)) :
    ∃ bytes, t = Lua.decode bytes := by
  cases hget : attrs.get? "s" with
  | none => simp [Lua.literalText, Lua.Kind.read, hget, bind, Except.bind] at h
  | some value =>
    rw [Lua.literalText_of_get? hget] at h
    rcases value with _ | _ | _ | _ | _ | _ | u | bytes | _ | _ | _ | _ | _ <;>
      simp only [Lua.textOf, Except.ok.injEq, reduceCtorEq] at h
    · exact ⟨[], by simp [Lua.decode, Utf8.decodeEscaping, h]⟩
    · exact absurd hget (hs u)
    · exact ⟨bytes, h.symm⟩

/-- In a Lua tree that is scrubbed without failure each string that the walk reaches can be read
again. A point of the set is in its text just if single bytes that were left next to each other
spell it. So none is there if a mask keeps the bytes apart, or if the string had no such bytes. -/
theorem transform_lua_point_survives_iff (points : Set CodePoint)
    (hpoints : ∀ c ∈ points, Utf8.IsScalar c) (engine : Engine) (pattern : Pattern)
    (hmem : pattern ∈ engine.patterns) (hone : pattern.FindsOne points)
    (hmask : ∀ c ∈ engine.config.mask, c ∉ points ∧ Utf8.IsScalar c) (kind : Lua.Kind)
    (attrs : Attrs) (log : Array LogRecord) :
    let tree := Value.node (.lua kind) attrs
    let outcome := (Id.run ((transform engine.rewrite tree).run log)).1
    outcome.success = true →
      ∃ new, outcome.tree = some new ∧
        ∀ position old, position ≠ [] → Reaches tree position (.lua .string old) →
          ∃ t fresh t', Lua.literalText old = .ok t ∧
            new.at? position = some (.lua .string fresh) ∧ Lua.literalText fresh = .ok t' ∧
            ((∀ c ∈ t, c < 0x110000) →
              (∀ c ∈ points, c ∈ t' ↔
                (engine.rewrite t).changed = true ∧ Lua.Spells (engine.rewrite t).text c) ∧
              ((engine.config.mask ≠ [] ∧ ∀ u, Attrs.get? old "s" ≠ some (.text u)) ∨
                  (∀ c ∈ t, Utf8.isEscapedByte c = false) →
                ∀ c ∈ points, c ∉ t')) := by
  intro tree outcome hsuccess
  obtain ⟨count, houtcome, -, hpass⟩ := transform_lua_yields hsuccess
  refine ⟨renewedRoot engine.rewrite tree, congrArg Outcome.tree houtcome, ?_⟩
  rintro (_ | ⟨step, rest⟩) old hne hreaches
  · exact absurd rfl hne
  obtain ⟨fresh, hfresh⟩ := hpass step rest old hreaches
  obtain ⟨t, ht⟩ := exists_literalText_of_ok hfresh
  have hat := @Reaches.at?_renewedRoot engine.rewrite _ _ _ _ hreaches
  rw [renewedLua_string, renewedString_of_ok hfresh] at hat
  refine ⟨t, fresh, _, ht, hat, literalText_of_scrubbedString ht hfresh, fun hvalid =>
    ⟨fun c hc => mem_textAfter_iff hpoints hmem hone hmask hvalid hc, ?_⟩⟩
  rintro (⟨hmasked, hs⟩ | hwhole) c hc
  · exact not_mem_textAfter_of_masked hpoints hmem hone hmask hmasked
      (exists_decode_of_literalText ht hs) hc
  · exact not_mem_textAfter_of_whole hpoints hmem hone hmask hvalid hwhole hc

/-! ## Broken strings at work -/

/-- An engine that puts a mask for each ideograph. -/
def withoutIdeographs (mask : Text) : Engine :=
  ⟨⟨[Text.ofString "[一-鿿]"], mask⟩, [ideographs]⟩

theorem ideographs_isScalar {c : Nat} (h : (0x4E00 ≤ c && c ≤ 0x9FFF) = true) :
    Utf8.IsScalar c := by
  simp only [Bool.and_eq_true, decide_eq_true_eq] at h
  rw [Utf8.isScalar_iff]
  omega

/-- An ideograph within the broken bytes of another. -/
def brokenString : Attrs :=
  [("s", .bytes [0xE4, 0xE4, 0xB8, 0xAD, 0xB8, 0xAD]), ("delimiter", .symbol .doubleQuote)]

/-- An asterisk in the place of the inner ideograph keeps the bytes around it apart. -/
theorem transform_lua_mask_parts_bytes :
    let outcome := (Id.run ((transform (withoutIdeographs [0x2A]).rewrite
      (luaChunk (.lua .string brokenString))).run #[])).1
    outcome.success = true ∧
      ∃ new fresh t', outcome.tree = some new ∧
        new.at? [(0, none)] = some (.lua .string fresh) ∧ Lua.literalText fresh = .ok t' ∧
        ∀ c ∈ t', ¬(0x4E00 ≤ c ∧ c ≤ 0x9FFF) := by
  intro outcome
  have hsuccess : (Id.run ((transform (withoutIdeographs [0x2A]).rewrite
    (luaChunk (.lua .string brokenString))).run #[])).1.success = true := by cbv
  have hmask : ∀ c ∈ (withoutIdeographs [0x2A]).config.mask,
      c ∉ {c : Nat | (0x4E00 ≤ c && c ≤ 0x9FFF) = true} ∧ Utf8.IsScalar c := by
    simp [withoutIdeographs, Utf8.isScalar_iff]
  obtain ⟨new, hnew, hstrings⟩ := transform_lua_point_survives_iff
    {c | (0x4E00 ≤ c && c ≤ 0x9FFF) = true} (fun _ => ideographs_isScalar)
    (withoutIdeographs [0x2A]) ideographs (by simp [withoutIdeographs])
    findsOne_of_test hmask _ _ #[] hsuccess
  obtain ⟨t, fresh, t', ht, hat, ht', hclean⟩ := hstrings [(0, none)] brokenString (by simp)
    ⟨_, ⟨_, _, _, _, rfl, rfl, rfl, by decide, rfl⟩, by simp, rfl⟩
  obtain rfl := Except.ok.inj ht
  have hgone := (hclean fun _ => Lua.lt_of_mem_decode).2
    (.inl ⟨by simp [withoutIdeographs], by simp [brokenString, Attrs.get?_cons]⟩)
  exact ⟨hsuccess, new, fresh, t', hnew, hat, ht', fun c hc hpoint =>
    hgone c (by simpa using hpoint) hc⟩

/-- The string whose bytes are those of the ideograph. -/
def mendedString : Attrs :=
  Lua.renewed brokenString (.symbol .doubleQuote) [0xDCE4, 0xDCB8, 0xDCAD]

/-- Where the inner ideograph is deleted, the bytes around it come together and spell it. -/
theorem transform_lua_deletion_spells_point :
    let outcome := (Id.run ((transform (withoutIdeographs []).rewrite
      (luaChunk (.lua .string brokenString))).run #[])).1
    ideographs.FindsOne {c | (0x4E00 ≤ c && c ≤ 0x9FFF) = true} ∧
      outcome.success = true ∧
      ∃ new fresh, outcome.tree = some new ∧ new.at? [(0, none)] = some (.lua .string fresh) ∧
        Lua.literalText fresh = .ok [0x4E2D] := by
  exact ⟨findsOne_of_test, by cbv, luaChunk (.lua .string mendedString), mendedString, by cbv,
    by cbv, by cbv⟩

end LiteralScrub
