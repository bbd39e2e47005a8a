import LiteralScrub.Json.Reader
import Mathlib.Data.List.Infix

/-!
# How much JSON can be read

Besides a fault in its writing there are two reasons why a text is not read: it holds an integer of
too many digits, or more brackets and braces open in it than may be nested.
-/
namespace LiteralScrub.Json

variable {α β : Type} {room : Nat} {t t' : Text}

/-- Whether a code point opens an array or an object. -/
def opens (c : CodePoint) : Bool := c == 0x5B || c == 0x7B

/-- What a text holds that cannot be read for a fault, if `room` arrays and objects may be nested. -/
def ReadFault.Founded (room : Nat) (t : Text) : ReadFault → Prop
  | malformed _ _ => True
  | tooManyDigits n => maxDigits < n ∧
      ∃ digits, digits <:+: t ∧ digits.length = n ∧ digits.all isAsciiDigit = true
  | tooDeep _ => room < t.countP opens

theorem ReadFault.Founded.mono {fault : ReadFault} (h : fault.Founded room t') (ht : t' <:+ t) :
    fault.Founded room t := by
  cases fault with
  | malformed cause left => trivial
  | tooManyDigits n =>
    obtain ⟨hn, digits, hdigits, hlength⟩ := h
    exact ⟨hn, digits, hdigits.trans ht.isInfix, hlength⟩
  | tooDeep isArray => exact Nat.lt_of_lt_of_le h (ht.sublist.countP_le)

/-- Inside one array or object more there is room for one less. -/
theorem ReadFault.Founded.inside {fault : ReadFault} {c : CodePoint} (hc : opens c = true)
    (h : fault.Founded (room - 1) t) : fault.Founded room (c :: t) := by
  cases fault with
  | malformed cause left => trivial
  | tooManyDigits n =>
    obtain ⟨hn, digits, hdigits, hlength⟩ := h
    exact ⟨hn, digits, hdigits.trans (List.suffix_cons c t).isInfix, hlength⟩
  | tooDeep isArray =>
    have h' : room - 1 < t.countP opens := h
    show room < (c :: t).countP opens
    rw [List.countP_cons_of_pos hc]
    omega

/-- What reading leaves is the end of the text, and a fault is founded in the text. -/
def Consumes (room : Nat) (t : Text) (r : Except ReadFault (α × Text)) : Prop :=
  (∀ a rest, r = .ok (a, rest) → rest <:+ t) ∧ ∀ fault, r = .error fault → fault.Founded room t

theorem Consumes.ok {a : α} (h : t' <:+ t) : Consumes room t (.ok (a, t')) := by
  simp [Consumes, h]

theorem Consumes.malformed (cause : ReadCause) (left : Nat) :
    Consumes room t (.error (.malformed cause left) : Except ReadFault (α × Text)) := by
  simp [Consumes, ReadFault.Founded]

theorem Consumes.mono {r : Except ReadFault (α × Text)} (h : Consumes room t' r) (ht : t' <:+ t) :
    Consumes room t r :=
  ⟨fun a rest hr => (h.1 a rest hr).trans ht, fun fault hr => (h.2 fault hr).mono ht⟩

theorem Consumes.inside {r : Except ReadFault (α × Text)} {c : CodePoint}
    (h : Consumes (room - 1) t' r) (hc : opens c = true) (ht : t' <:+ t) :
    Consumes room (c :: t) r :=
  ⟨fun a rest hr => (h.1 a rest hr).trans (ht.trans (List.suffix_cons c t)),
    fun fault hr => ((h.2 fault hr).mono ht).inside hc⟩

theorem Consumes.bind {x : Except ReadFault (α × Text)}
    {f : α × Text → Except ReadFault (β × Text)} (hx : Consumes room t x)
    (hf : ∀ a rest, rest <:+ t → Consumes room t (f (a, rest))) : Consumes room t (x >>= f) := by
  cases x with
  | error fault =>
    refine ⟨fun a rest h => (by cases h), fun fault' h => ?_⟩
    obtain rfl : fault = fault' := Except.error.inj h
    exact hx.2 fault rfl
  | ok r => exact hf r.1 r.2 (hx.1 r.1 r.2 rfl)

theorem skipBlanks_suffix (t : Text) : skipBlanks t <:+ t := List.dropWhile_suffix _

/-! ## Strings and numbers -/

theorem readUnicodeEscape_consumes (t : Text) : Consumes room t (readUnicodeEscape t) := by
  have hrest : t.drop 4 <:+ t := List.drop_suffix 4 t
  unfold readUnicodeEscape
  split_ifs
  · exact .malformed _ _
  · cases hexQuad? (t.take 4) with
    | none => exact .malformed _ _
    | some c =>
      dsimp only
      split
      · next more hmore =>
        split_ifs
        · cases hexQuad? (more.take 4) with
          | none => exact .malformed _ _
          | some d =>
            dsimp only
            split_ifs
            · refine .ok ((List.drop_suffix 4 more).trans (.trans ?_ hrest))
              exact hmore ▸ ⟨[0x5C, 0x75], rfl⟩
            · exact .ok (hmore ▸ hrest)
        · exact .ok (hmore ▸ hrest)
      · exact .ok hrest

theorem readString_consumes (whole : Text) (fuel : Nat) (t : Text) :
    Consumes room t (readString whole fuel t) := by
  induction fuel generalizing t with
  | zero => exact .malformed _ _
  | succ fuel ih =>
    cases t with
    | nil => exact .malformed _ _
    | cons c t =>
      have htail : t <:+ c :: t := List.suffix_cons c t
      unfold readString
      split_ifs
      · exact .ok htail
      · exact .malformed _ _
      · split
        · exact .malformed _ _
        · next t =>
          have htail' := (List.suffix_cons 0x75 t).trans htail
          refine .bind ((readUnicodeEscape_consumes t).mono htail') fun point rest hrest => ?_
          exact .bind ((ih rest).mono hrest) fun tail rest hrest => .ok hrest
        · next e t hother =>
          have htail' := (List.suffix_cons e t).trans htail
          cases shortEscape? e with
          | none => exact .malformed _ _
          | some point => exact .bind ((ih t).mono htail') fun tail rest hrest => .ok hrest
      · exact .bind ((ih t).mono htail) fun tail rest hrest => .ok hrest

theorem readFraction_suffix (t : Text) : (readFraction t).2 <:+ t := by
  unfold readFraction
  split
  · next more =>
    dsimp only [spanDigits]
    split_ifs
    · exact List.suffix_rfl
    · exact (List.dropWhile_suffix _).trans (List.suffix_cons _ _)
  · exact List.suffix_rfl

theorem readExponent_suffix (t : Text) : (readExponent t).2 <:+ t := by
  unfold readExponent
  split
  · next e more =>
    split_ifs
    · split
      next negative unsigned hunsigned =>
      have hmore : unsigned <:+ more := by
        split at hunsigned <;> obtain ⟨-, rfl⟩ := Prod.mk.inj hunsigned
        · exact List.suffix_cons _ _
        · exact List.suffix_cons _ _
        · exact List.suffix_rfl
      have hrest : unsigned.dropWhile isAsciiDigit <:+ e :: more :=
        (List.dropWhile_suffix _).trans (hmore.trans (List.suffix_cons e more))
      dsimp only [spanDigits]
      split_ifs
      · exact List.suffix_rfl
      · exact hrest
      · exact hrest
    · exact List.suffix_rfl
  · exact List.suffix_rfl

/-- A text that begins with a number holds its digits; only an integer can have too many. -/
theorem readNumber_cases (t : Text) :
    readNumber t = .ok none ∨ (∃ v rest, readNumber t = .ok (some (v, rest)) ∧ rest <:+ t) ∨
      ∃ digits : Text, readNumber t = .error (.tooManyDigits digits.length) ∧
        maxDigits < digits.length ∧ digits <:+: t ∧ digits.all isAsciiDigit = true := by
  unfold readNumber
  split
  next negative unsigned hunsigned =>
  have hsuffix : unsigned <:+ t := by
    split at hunsigned <;> obtain ⟨-, rfl⟩ := Prod.mk.inj hunsigned
    · exact List.suffix_cons _ _
    · exact List.suffix_rfl
  split
  next whole rest hwhole =>
  have hparts : whole ++ rest = unsigned ∧ whole.all isAsciiDigit = true := by
    split at hwhole <;> obtain ⟨rfl, rfl⟩ := Prod.mk.inj hwhole
    · exact ⟨rfl, rfl⟩
    · exact ⟨List.takeWhile_append_dropWhile, List.all_takeWhile⟩
  have hrest : (readExponent (readFraction rest).2).2 <:+ t :=
    (readExponent_suffix _).trans ((readFraction_suffix rest).trans
      (.trans ⟨whole, hparts.1⟩ hsuffix))
  by_cases hempty : whole.isEmpty = true
  · exact .inl (if_pos hempty)
  · rw [if_neg hempty]
    dsimp only
    split
    · by_cases hdigits : whole.length > maxDigits
      · refine .inr (.inr ⟨whole, if_pos hdigits, hdigits, ?_, hparts.2⟩)
        exact (List.prefix_append whole rest).isInfix.trans (hparts.1 ▸ hsuffix.isInfix)
      · exact .inr (.inl ⟨_, _, if_neg hdigits, hrest⟩)
    · exact .inr (.inl ⟨_, _, rfl, hrest⟩)

theorem readWord?_suffix {v : Json} {rest : Text} (h : readWord? t = some (v, rest)) :
    rest <:+ t := by
  obtain ⟨⟨word, value⟩, -, hfound⟩ := List.exists_of_findSome?_eq_some h
  simp only [Option.ite_none_right_eq_some, Option.some.injEq, Prod.mk.injEq] at hfound
  obtain ⟨-, -, rfl⟩ := hfound
  exact List.drop_suffix _ t

/-! ## Values -/

theorem readValue_consumes {fuel : Nat} (hitems : ∀ room t, Consumes room t (readItems fuel room t))
    (hmembers : ∀ room before t, Consumes room t (readMembers fuel room before t)) (room : Nat)
    (t : Text) : Consumes room t (readValue (fuel + 1) room t) := by
  unfold readValue
  split
  · next rest =>
    refine .bind ((readString_consumes _ fuel rest).mono (List.suffix_cons _ rest)) ?_
    exact fun value rest hrest => .ok hrest
  · next rest =>
    have hskip := skipBlanks_suffix rest
    split_ifs with hroom
    · subst hroom
      exact ⟨by simp, by simp [ReadFault.Founded, opens]⟩
    · split
      · next rest' heq =>
        exact .ok (.trans (List.suffix_cons _ _) (.trans (heq ▸ hskip) (List.suffix_cons _ _)))
      · refine .bind ((hitems (room - 1) _).inside (by decide) hskip) ?_
        exact fun items rest hrest => .ok hrest
  · next rest =>
    have hskip := skipBlanks_suffix rest
    split_ifs with hroom
    · subst hroom
      exact ⟨by simp, by simp [ReadFault.Founded, opens]⟩
    · split
      · next rest' heq =>
        exact .ok (.trans (List.suffix_cons _ _) (.trans (heq ▸ hskip) (List.suffix_cons _ _)))
      · refine .bind ((hmembers (room - 1) [] _).inside (by decide) hskip) ?_
        exact fun members rest hrest => .ok hrest
  · cases hword : readWord? t with
    | some found => exact .ok (readWord?_suffix hword)
    | none =>
      rcases readNumber_cases t with hnumber | ⟨v, rest, hnumber, hrest⟩ |
        ⟨digits, hnumber, hmany, hdigits, hall⟩
      · rw [hnumber]
        exact .malformed _ _
      · rw [hnumber]
        exact .ok hrest
      · rw [hnumber]
        refine ⟨fun a rest h => (by cases h), fun fault h => ?_⟩
        obtain rfl : ReadFault.tooManyDigits digits.length = fault := Except.error.inj h
        exact ⟨hmany, digits, hdigits, rfl, hall⟩

theorem readItems_consumes {fuel : Nat} (hvalue : ∀ room t, Consumes room t (readValue fuel room t))
    (hitems : ∀ room t, Consumes room t (readItems fuel room t)) (room : Nat) (t : Text) :
    Consumes room t (readItems (fuel + 1) room t) := by
  unfold readItems
  refine .bind (hvalue room t) fun item rest hrest => ?_
  have hskip := (skipBlanks_suffix rest).trans hrest
  dsimp only
  split
  · next rest' heq => exact .ok (.trans (List.suffix_cons _ _) (heq ▸ hskip))
  · next rest' heq =>
    have hmore : skipBlanks rest' <:+ t :=
      (skipBlanks_suffix rest').trans (.trans (List.suffix_cons _ _) (heq ▸ hskip))
    exact .bind ((hitems room _).mono hmore) fun items rest hrest => .ok hrest
  · exact .malformed _ _

theorem readMembers_consumes {fuel : Nat}
    (hvalue : ∀ room t, Consumes room t (readValue fuel room t))
    (hmembers : ∀ room before t, Consumes room t (readMembers fuel room before t)) (room : Nat)
    (before : List (Text × Json)) (t : Text) :
    Consumes room t (readMembers (fuel + 1) room before t) := by
  unfold readMembers
  split
  · next rest =>
    refine .bind ((readString_consumes _ fuel rest).mono (List.suffix_cons _ rest)) ?_
    intro key rest hrest
    have hskip := (skipBlanks_suffix rest).trans hrest
    dsimp only
    split
    · next rest' heq =>
      have hmore : skipBlanks rest' <:+ 0x22 :: _ :=
        (skipBlanks_suffix rest').trans (.trans (List.suffix_cons _ _) (heq ▸ hskip))
      refine .bind ((hvalue room _).mono hmore) fun value rest hrest => ?_
      have hskip := (skipBlanks_suffix rest).trans hrest
      dsimp only
      split
      · next rest' heq => exact .ok (.trans (List.suffix_cons _ _) (heq ▸ hskip))
      · next rest' heq =>
        refine (hmembers room _ _).mono ?_
        exact (skipBlanks_suffix rest').trans (.trans (List.suffix_cons _ _) (heq ▸ hskip))
      · exact .malformed _ _
    · exact .malformed _ _
  · exact .malformed _ _

/-- The three readers call each other with less fuel, so one induction serves them all. -/
theorem readers_consume (fuel : Nat) :
    (∀ room t, Consumes room t (readValue fuel room t)) ∧
      (∀ room t, Consumes room t (readItems fuel room t)) ∧
      ∀ room before t, Consumes room t (readMembers fuel room before t) := by
  induction fuel with
  | zero =>
    refine ⟨fun room t => ?_, fun room t => ?_, fun room before t => ?_⟩
    · unfold readValue; exact .malformed _ _
    · unfold readItems; exact .malformed _ _
    · unfold readMembers; exact .malformed _ _
  | succ fuel ih =>
    obtain ⟨hvalue, hitems, hmembers⟩ := ih
    exact ⟨readValue_consumes hitems hmembers, readItems_consumes hvalue hitems,
      readMembers_consumes hvalue hmembers⟩

/-- A fault in reading a text is one in its writing, or the text holds too much. -/
theorem read_founded {maxDepth : Nat} {fault : ReadFault} (h : read maxDepth t = .error fault) :
    fault.Founded maxDepth t := by
  have hvalue : Consumes maxDepth t (readValue (2 * t.length + 2) maxDepth (skipBlanks t)) :=
    ((readers_consume _).1 maxDepth _).mono (skipBlanks_suffix t)
  unfold read at h
  split_ifs at h
  · cases h
    trivial
  · cases hread : readValue (2 * t.length + 2) maxDepth (skipBlanks t) with
    | error fault' =>
      rw [hread] at h
      obtain rfl : fault' = fault := Except.error.inj h
      exact hvalue.2 fault' hread
    | ok r =>
      rw [hread] at h
      dsimp only [bind, Except.bind] at h
      split at h <;> cases h
      trivial

end LiteralScrub.Json
