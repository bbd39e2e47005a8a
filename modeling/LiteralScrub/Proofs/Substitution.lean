import Mathlib
import LiteralScrub.Proofs.Mask
import LiteralScrub.Proofs.Resolution
import LiteralScrub.Proofs.Search
import LiteralScrub.Rewrite.Basic

/-!
# Rewriting is a substitution, point by point

`replaceSpans` cuts the text along the spans. If these are in order, apart and within the text,
the result can be told for each offset by itself: an offset in a span has the point of the mask
that goes over it, if the mask has any, and every other offset keeps its point.
-/
namespace LiteralScrub

/-- The spans are in order from `cursor` on and do not overlap. -/
structure InOrder (cursor : Nat) (spans : List Span) : Prop where
  apart : spans.Pairwise fun s t => s.stop ≤ t.start
  start_le_stop : ∀ s ∈ spans, s.start ≤ s.stop
  cursor_le : ∀ s ∈ spans, cursor ≤ s.start

/-- The spans are in order and lie within the text. -/
structure Laid (text : Text) (cursor : Nat) (spans : List Span) : Prop
    extends InOrder cursor spans where
  stop_le : ∀ s ∈ spans, s.stop ≤ text.length

theorem InOrder.tail {cursor : Nat} {s : Span} {rest : List Span}
    (h : InOrder cursor (s :: rest)) : InOrder s.stop rest := by
  obtain ⟨hfirst, hrest⟩ := List.pairwise_cons.mp h.apart
  exact ⟨hrest, fun t ht => h.start_le_stop t (by simp [ht]), hfirst⟩

theorem InOrder.not_covers_of_lt {cursor : Nat} {s : Span} {rest : List Span}
    (h : InOrder cursor (s :: rest)) {i : Nat} (hi : i < s.start) :
    ∀ t ∈ s :: rest, ¬t.Covers i := by
  intro t ht hc
  have hlow := hc.1
  rcases List.mem_cons.mp ht with rfl | ht
  · omega
  · have := h.start_le_stop s (by simp)
    have := h.tail.cursor_le t ht
    omega

theorem Laid.tail {text : Text} {cursor : Nat} {s : Span} {rest : List Span}
    (h : Laid text cursor (s :: rest)) : Laid text s.stop rest :=
  ⟨h.toInOrder.tail, fun t ht => h.stop_le t (by simp [ht])⟩

/-- What stands for the point at an offset: the point itself, or one of the mask if a span covers
the offset. -/
def substitute (mask : Text) (spans : List Span) (point : CodePoint × Nat) : Option CodePoint :=
  match spans.find? fun s => s.Covers point.2 with
  | none => some point.1
  | some s => mask[(point.2 - s.start) % mask.length]?

theorem substitute_of_not_covers {mask : Text} {spans : List Span} {point : CodePoint × Nat}
    (h : ∀ s ∈ spans, ¬s.Covers point.2) : substitute mask spans point = some point.1 := by
  have hnone : (spans.find? fun s => s.Covers point.2) = none := by simpa using h
  simp [substitute, hnone]

theorem substitute_cons_of_covers {mask : Text} {s : Span} {rest : List Span}
    {point : CodePoint × Nat} (h : s.Covers point.2) :
    substitute mask (s :: rest) point = mask[(point.2 - s.start) % mask.length]? := by
  simp [substitute, h]

theorem substitute_cons_of_not_covers {mask : Text} {s : Span} {rest : List Span}
    {point : CodePoint × Nat} (h : ¬s.Covers point.2) :
    substitute mask (s :: rest) point = substitute mask rest point := by
  simp [substitute, h]

/-- The part of a text from one offset up to another. -/
def slice (text : Text) (start stop : Nat) : Text := (text.take stop).drop start

theorem slice_length {text : Text} {start stop : Nat} (h : stop ≤ text.length) :
    (slice text start stop).length = stop - start := by
  simp [slice, h]

/-- The points from an offset on, with their offsets, cut in two at a later offset. -/
theorem zipIdx_drop_eq_append {text : Text} {start stop : Nat} (h : start ≤ stop)
    (hstop : stop ≤ text.length) :
    (text.drop start).zipIdx start =
      (slice text start stop).zipIdx start ++ (text.drop stop).zipIdx stop := by
  have hcut : text.drop start = slice text start stop ++ text.drop stop := by
    conv_lhs => rw [← List.take_append_drop stop text]
    exact List.drop_append_of_le_length (by simpa [hstop] using h)
  rw [hcut, List.zipIdx_append, slice_length hstop]
  congr 2
  omega

theorem filterMap_slice_kept {mask text : Text} {spans : List Span} {start stop : Nat}
    (hstop : stop ≤ text.length)
    (h : ∀ i, start ≤ i → i < stop → ∀ s ∈ spans, ¬s.Covers i) :
    ((slice text start stop).zipIdx start).filterMap (substitute mask spans) =
      slice text start stop := by
  have hkept : ∀ point ∈ (slice text start stop).zipIdx start,
      substitute mask spans point = some point.1 := by
    intro point hpoint
    have hlow := List.le_snd_of_mem_zipIdx hpoint
    have hhigh := List.snd_lt_of_mem_zipIdx hpoint
    rw [slice_length hstop] at hhigh
    exact substitute_of_not_covers (h point.2 hlow (by omega))
  rw [List.filterMap_congr hkept, List.filterMap_eq_map', List.zipIdx_map_fst]

theorem filterMap_slice_masked {mask text : Text} {s : Span} {rest : List Span}
    (hle : s.start ≤ s.stop) (hstop : s.stop ≤ text.length) :
    ((slice text s.start s.stop).zipIdx s.start).filterMap (substitute mask (s :: rest)) =
      Mask.between mask s.start s.stop := by
  have hmasked : ∀ point ∈ (slice text s.start s.stop).zipIdx s.start,
      substitute mask (s :: rest) point = mask[(point.2 - s.start) % mask.length]? := by
    intro point hpoint
    have hlow := List.le_snd_of_mem_zipIdx hpoint
    have hhigh := List.snd_lt_of_mem_zipIdx hpoint
    rw [slice_length hstop] at hhigh
    exact substitute_cons_of_covers ⟨hlow, by omega⟩
  have hlength : ((s.stop : Int) - s.start).toNat = s.stop - s.start := by omega
  rw [List.filterMap_congr hmasked, Mask.between, Mask.fill_eq_filterMap, hlength,
    ← slice_length hstop]
  -- only the offsets count here, and they run through a range
  calc ((slice text s.start s.stop).zipIdx s.start).filterMap
        (fun point => mask[(point.2 - s.start) % mask.length]?)
      = (((slice text s.start s.stop).zipIdx s.start).map Prod.snd).filterMap
        (fun i => mask[(i - s.start) % mask.length]?) := by rw [List.filterMap_map]; rfl
    _ = _ := by
      rw [List.zipIdx_map_snd, List.range'_eq_map_range, List.filterMap_map]
      simp

theorem replaceSpans_eq_filterMap {mask text : Text} {cursor : Nat} {spans : List Span}
    (h : Laid text cursor spans) :
    replaceSpans mask text cursor spans =
      ((text.drop cursor).zipIdx cursor).filterMap (substitute mask spans) := by
  induction spans generalizing cursor with
  | nil =>
    have hid : substitute mask [] = fun point => some point.1 := rfl
    rw [hid, List.filterMap_eq_map', List.zipIdx_map_fst, replaceSpans]
  | cons s rest ih =>
    have hstart := h.cursor_le s (by simp)
    have hle := h.start_le_stop s (by simp)
    have hstop := h.stop_le s (by simp)
    have hafter : ((text.drop s.stop).zipIdx s.stop).filterMap (substitute mask (s :: rest)) =
        replaceSpans mask text s.stop rest := by
      rw [ih h.tail]
      apply List.filterMap_congr
      intro point hpoint
      have hlow := List.le_snd_of_mem_zipIdx hpoint
      exact substitute_cons_of_not_covers fun hc => by have := hc.2; omega
    rw [zipIdx_drop_eq_append hstart (hle.trans hstop), zipIdx_drop_eq_append hle hstop,
      List.filterMap_append, List.filterMap_append, hafter,
      filterMap_slice_kept (hle.trans hstop) fun i _ => h.not_covers_of_lt, filterMap_slice_masked hle hstop,
      replaceSpans, ← List.append_assoc]
    rfl

/-! ## What stands at an offset -/

/-- Spans that are apart have no offset in common, so it does not matter which is looked at
first. -/
theorem substitute_of_covers {mask : Text} {spans : List Span} {point : CodePoint × Nat}
    (hapart : spans.Pairwise fun s t => s.stop ≤ t.start) {s : Span} (hs : s ∈ spans)
    (hc : s.Covers point.2) :
    substitute mask spans point = mask[(point.2 - s.start) % mask.length]? := by
  have hnot : spans.Pairwise fun s t => ¬s.Overlaps t :=
    hapart.imp Span.not_overlaps_of_stop_le
  cases hfind : spans.find? fun t => t.Covers point.2 with
  | none =>
    have := List.find?_eq_none.mp hfind s hs
    simp [hc] at this
  | some t =>
    have ht := List.mem_of_find?_eq_some hfind
    have htc : t.Covers point.2 := by simpa using List.find?_some hfind
    obtain rfl : s = t := by
      by_contra hne
      exact hnot.forall hs ht hne ⟨_, hc, htc⟩
    simp [substitute, hfind]

theorem substitute_isSome {mask : Text} (hmask : mask ≠ []) (spans : List Span)
    (point : CodePoint × Nat) : (substitute mask spans point).isSome := by
  have hpos := List.length_pos_iff.mpr hmask
  unfold substitute
  split
  · rfl
  · simp [Nat.mod_lt _ hpos]

section Masked

variable {mask text : Text} {spans : List Span} (hmask : mask ≠ []) (h : Laid text 0 spans)
include hmask h

theorem replaceSpans_eq_map :
    replaceSpans mask text 0 spans =
      text.zipIdx.map fun point => (substitute mask spans point).getD 0 := by
  rw [replaceSpans_eq_filterMap h, List.drop_zero, ← List.filterMap_eq_map']
  apply List.filterMap_congr
  intro point _
  obtain ⟨c, hc⟩ := Option.isSome_iff_exists.mp (substitute_isSome hmask spans point)
  simp [hc]

theorem replaceSpans_length : (replaceSpans mask text 0 spans).length = text.length := by
  simp [replaceSpans_eq_map hmask h]

theorem replaceSpans_getElem? (i : Nat) :
    (replaceSpans mask text 0 spans)[i]? = text[i]?.bind fun c => substitute mask spans (c, i) := by
  rw [replaceSpans_eq_map hmask h, List.getElem?_map, List.getElem?_zipIdx]
  cases text[i]? with
  | none => rfl
  | some c =>
    obtain ⟨d, hd⟩ := Option.isSome_iff_exists.mp (substitute_isSome hmask spans (c, i))
    simp [hd]

theorem replaceSpans_outside {i : Nat} (hi : ∀ s ∈ spans, ¬s.Covers i) :
    (replaceSpans mask text 0 spans)[i]? = text[i]? := by
  rw [replaceSpans_getElem? hmask h]
  cases text[i]? with
  | none => rfl
  | some c => exact substitute_of_not_covers hi

theorem replaceSpans_inside {s : Span} (hs : s ∈ spans) {i : Nat} (hi : s.Covers i) :
    (replaceSpans mask text 0 spans)[i]? = mask[(i - s.start) % mask.length]? := by
  have hlt : i < text.length := hi.2.trans_le (h.stop_le s hs)
  rw [replaceSpans_getElem? hmask h, List.getElem?_eq_getElem hlt, Option.bind_some]
  exact substitute_of_covers h.apart hs hi

end Masked

/-- The points of a text at the offsets that no span covers. -/
def uncovered (spans : List Span) (text : Text) : Text :=
  (text.zipIdx.filter fun point => ∀ s ∈ spans, ¬s.Covers point.2).map Prod.fst

theorem substitute_nil (spans : List Span) (point : CodePoint × Nat) :
    substitute [] spans point = if ∀ s ∈ spans, ¬s.Covers point.2 then some point.1 else none := by
  split_ifs with h
  · exact substitute_of_not_covers h
  · cases hfind : spans.find? fun t => t.Covers point.2 with
    | none => exact absurd (by simpa using hfind) h
    | some t => simp [substitute, hfind]

section Deleted

variable {text : Text} {spans : List Span}

theorem replaceSpans_nil_eq_uncovered (h : Laid text 0 spans) :
    replaceSpans [] text 0 spans = uncovered spans text := by
  rw [replaceSpans_eq_filterMap h, List.drop_zero, uncovered, ← List.filterMap_eq_filter,
    List.map_filterMap]
  apply List.filterMap_congr
  intro point _
  rw [substitute_nil]
  simp [Option.guard]

theorem replaceSpans_nil_length {cursor : Nat} (h : Laid text cursor spans)
    (hcursor : cursor ≤ text.length) :
    (replaceSpans [] text cursor spans).length + (spans.map Span.length).sum + cursor =
      text.length := by
  induction spans generalizing cursor with
  | nil => simp [replaceSpans, hcursor]
  | cons s rest ih =>
    have hstart := h.cursor_le s (by simp)
    have hle := h.start_le_stop s (by simp)
    have hstop := h.stop_le s (by simp)
    have := ih h.tail hstop
    simp only [replaceSpans, Mask.between, Mask.fill_nil, List.append_nil, List.length_append,
      List.length_drop, List.length_take, List.map_cons, List.sum_cons, Span.length]
    omega

end Deleted

/-! ## Rewriting a text -/

section Rewrite

variable {patterns : List Pattern} {mask text : Text}

variable (patterns text) in
theorem resolve_inOrder : InOrder 0 (resolve text patterns) where
  apart := resolve_pairwise
  start_le_stop := fun s hs => (Span.length_pos.mp (resolve_length_pos s hs)).le
  cursor_le := fun _ _ => Nat.zero_le _

theorem resolve_laid (h : ∀ pattern ∈ patterns, pattern.FindsWithin text) :
    Laid text 0 (resolve text patterns) where
  toInOrder := resolve_inOrder patterns text
  stop_le := by
    intro s hs
    obtain ⟨pattern, hp, hscan, _⟩ := isCandidate_of_mem_resolve hs
    exact stop_le_of_mem_scan (h pattern hp) hscan

theorem rewriteText_spans : (rewriteText patterns mask text).spans = resolve text patterns := by
  unfold rewriteText
  split <;> simp_all

theorem rewriteText_changed :
    (rewriteText patterns mask text).changed = true ↔ resolve text patterns ≠ [] := by
  unfold rewriteText
  split <;> simp_all

theorem rewriteText_text :
    (rewriteText patterns mask text).text = replaceSpans mask text 0 (resolve text patterns) := by
  unfold rewriteText
  split <;> simp_all [replaceSpans]

end Rewrite

/-- Rewriting is the substitution along the resolved spans: a mask goes round over each of them
and moves nothing, and without a mask their offsets are left out. -/
theorem rewriteText_pointwise (patterns : List Pattern) (mask text : Text)
    (hfinds : ∀ pattern ∈ patterns, pattern.FindsWithin text) :
    let spans := resolve text patterns
    let result := rewriteText patterns mask text
    result.spans = spans ∧
    (result.changed = true ↔ spans ≠ []) ∧
    (spans = [] → result.text = text) ∧
    (mask ≠ [] →
      result.text.length = text.length ∧
      (∀ i, (∀ s ∈ spans, ¬s.Covers i) → result.text[i]? = text[i]?) ∧
      (∀ s ∈ spans, ∀ i, s.Covers i →
        result.text[i]? = mask[(i - s.start) % mask.length]?)) ∧
    (mask = [] →
      result.text = uncovered spans text ∧
      result.text.length + (spans.map Span.length).sum = text.length) := by
  intro spans result
  have hlaid : Laid text 0 spans := resolve_laid hfinds
  have htext : result.text = replaceSpans mask text 0 spans := rewriteText_text
  refine ⟨rewriteText_spans, rewriteText_changed, ?_, ?_, ?_⟩
  · intro hnone
    rw [htext, hnone]
    rfl
  · intro hmask
    rw [htext]
    exact ⟨replaceSpans_length hmask hlaid, fun i => replaceSpans_outside hmask hlaid,
      fun s hs i => replaceSpans_inside hmask hlaid hs⟩
  · rintro rfl
    rw [htext]
    exact ⟨replaceSpans_nil_eq_uncovered hlaid, replaceSpans_nil_length hlaid (Nat.zero_le _)⟩

/-- A mask of two points over the longer of two matches, in the middle of a text. -/
theorem rewriteText_pointwise_between :
    let patterns := patternsOf [Text.ofString "ab", Text.ofString "abc"]
    let text := Text.ofString "xabcy"
    let result := rewriteText patterns (Text.ofString "*-") text
    result.spans = [⟨1, 4, 1⟩] ∧ result.changed = true ∧ result.text.length = text.length ∧
      result.text[0]? = some 0x78 ∧ result.text[2]? = some 0x2D ∧ result.text[3]? = some 0x2A ∧
      result.text[4]? = some 0x79 := by
  have hres : resolve (Text.ofString "xabcy")
      (patternsOf [Text.ofString "ab", Text.ofString "abc"]) = [⟨1, 4, 1⟩] := by cbv
  obtain ⟨hspans, hchanged, _, hmasked, _⟩ :=
    rewriteText_pointwise _ (Text.ofString "*-") (Text.ofString "xabcy")
      (patternsOf_findsWithin [Text.ofString "ab", Text.ofString "abc"] _)
  obtain ⟨hlength, houtside, hinside⟩ := hmasked (by decide)
  rw [hres] at hspans hchanged houtside hinside
  refine ⟨hspans, hchanged.mpr (by decide), hlength, houtside 0 (by decide), ?_, ?_,
    houtside 4 (by decide)⟩
  · exact hinside ⟨1, 4, 1⟩ (by simp) 2 (by decide)
  · exact hinside ⟨1, 4, 1⟩ (by simp) 3 (by decide)

end LiteralScrub
