import Mathlib
import LiteralScrub.Log.Setup

/-!
# The names above a name

The names above a name are beginnings of it that end before a dot, the longest one first. Of dots
side by side only every second one counts, so a beginning before a dot need not be among them.
-/
namespace LiteralScrub.Logger

variable {name above : Text} {reversed : Text} {c : CodePoint}

/-- In reverse: a name that is above is what follows a dot. -/
theorem dot_suffix_of_mem_namesAbove (h : above ∈ namesAbove reversed) :
    0x2E :: above.reverse <:+ reversed := by
  fun_induction namesAbove reversed with
  | case1 | case2 => cases h
  | case3 c rest ih =>
    rcases List.mem_cons.mp h with rfl | h
    · rw [List.reverse_reverse]
    · exact (ih h).trans ((List.suffix_cons c rest).trans (List.suffix_cons _ _))
  | case4 d c rest _ ih => exact (ih h).trans (List.suffix_cons d _)

theorem dot_prefix_of_mem_superiors (h : above ∈ superiors name) : above ++ [0x2E] <+: name := by
  rw [← List.reverse_suffix, List.reverse_append]
  exact dot_suffix_of_mem_namesAbove h

theorem isPrefix_of_mem_superiors (h : above ∈ superiors name) : above <+: name :=
  (List.prefix_append above [0x2E]).trans (dot_prefix_of_mem_superiors h)

theorem length_lt_of_mem_superiors (h : above ∈ superiors name) : above.length < name.length := by
  have := (dot_prefix_of_mem_superiors h).length_le
  simpa using this

/-- The longer ones come first. -/
theorem superiors_pairwise (name : Text) :
    (superiors name).Pairwise fun longer shorter => shorter <+: longer := by
  unfold superiors
  generalize name.reverse = reversed
  fun_induction namesAbove reversed with
  | case1 | case2 => exact .nil
  | case3 c rest ih =>
    refine .cons (fun shorter h => ?_) ih
    have hrest : shorter.reverse <:+ rest :=
      (List.suffix_cons _ _).trans (dot_suffix_of_mem_namesAbove h)
    rw [← List.reverse_suffix, List.reverse_reverse]
    exact hrest.trans (List.suffix_cons c rest)
  | case4 d c rest _ ih => exact ih

/-- A beginning before a single dot is above the name, whatever dots there are behind. -/
theorem mem_namesAbove {later : Text} (hlast : later.getLast? ≠ some 0x2E) (habove : above ≠ []) :
    above ∈ namesAbove (later ++ 0x2E :: above.reverse) := by
  have hcut : above ∈ namesAbove (0x2E :: above.reverse) := by
    obtain ⟨c, rest, hreverse⟩ := List.exists_cons_of_ne_nil (List.reverse_ne_nil_iff.mpr habove)
    rw [hreverse, namesAbove, if_pos rfl, ← hreverse, List.reverse_reverse]
    exact List.mem_cons_self
  induction later using List.twoStepInduction with
  | nil => exact hcut
  | singleton d =>
    have hd : d ≠ 0x2E := by simpa using hlast
    rw [List.singleton_append, namesAbove, if_neg hd]
    exact hcut
  | cons_cons d e more ih ih' =>
    rw [List.cons_append, List.cons_append, namesAbove]
    split_ifs
    · -- a dot takes the next code point with it, which is not the last one
      refine List.mem_cons_of_mem _ (ih ?_)
      cases more with
      | nil => simp
      | cons c more => simpa using hlast
    · exact ih' e (by simpa using hlast)

theorem mem_superiors {later : Text} (hfirst : later.head? ≠ some 0x2E) (habove : above ≠ []) :
    above ∈ superiors (above ++ 0x2E :: later) := by
  have hmem : above ∈ namesAbove (later.reverse ++ 0x2E :: above.reverse) :=
    mem_namesAbove (by simpa using hfirst) habove
  simpa [superiors] using hmem

/-- No two dots stand side by side. -/
def SingleDots (name : Text) : Prop := ¬[0x2E, 0x2E] <:+: name

theorem SingleDots.of_isPrefix (h : SingleDots name) (habove : above <+: name) :
    SingleDots above := fun hdots => h (hdots.trans habove.isInfix)

theorem namesAbove_cons (hc : c ≠ 0x2E) (rest : Text) :
    namesAbove (c :: rest) = namesAbove rest := by
  cases rest with
  | nil => rfl
  | cons d rest => rw [namesAbove, if_neg hc]

/-- Without two dots side by side, above a name from the list there are those that follow it. -/
theorem superiors_split (h : SingleDots name) (habove : above ∈ superiors name) :
    ∃ before, superiors name = before ++ above :: superiors above := by
  unfold SingleDots at h
  rw [← List.reverse_infix] at h
  unfold superiors at habove ⊢
  generalize name.reverse = reversed at h habove ⊢
  fun_induction namesAbove reversed with
  | case1 | case2 => cases habove
  | case3 c rest ih =>
    rcases List.mem_cons.mp habove with rfl | habove
    · have hc : c ≠ 0x2E := by
        rintro rfl
        exact h (List.prefix_append [0x2E, 0x2E] rest).isInfix
      exact ⟨[], by rw [List.reverse_reverse, namesAbove_cons hc, List.nil_append]⟩
    · have hrest : rest <:+ 0x2E :: c :: rest :=
        (List.suffix_cons c rest).trans (List.suffix_cons _ _)
      obtain ⟨before, hbefore⟩ := ih (fun hdots => h (hdots.trans hrest.isInfix)) habove
      exact ⟨(c :: rest).reverse :: before, by rw [hbefore, List.cons_append]⟩
  | case4 d c rest _ ih =>
    exact ih (fun hdots => h (hdots.trans (List.suffix_cons d _).isInfix)) habove

end LiteralScrub.Logger
