import LiteralScrub.Proofs.PatternReading

/-!
# Which patterns are too much

A pattern that is not malformed is refused only for a bound of a repetition that is too large, for
an escaped code point that is too large, or for flags that contradict each other. In each case the
pattern holds what it is refused for.
-/
namespace LiteralScrub.Regex

variable {α β : Type} {pattern lead : Text}

/-! ## Groups -/

theorem modify_reads {pre : Progress → Prop} {f : Progress → Progress}
    (h : ∀ s, pre s → Behind pattern [] (f s)) :
    Reads pattern pre (modify f) fun _ => Behind pattern [] := by
  refine fun s hs => ⟨fun a s' heq => ?_, fun failure heq => by cases heq⟩
  obtain ⟨-, rfl⟩ := Prod.mk.inj (Except.ok.inj heq)
  exact h s hs

theorem checkGroupName_keeps (name : Text) : Keeps pattern lead (checkGroupName name) := by
  unfold checkGroupName
  exact Reads.ite (fun _ => refuse_reads _ _) fun _ => Keeps.pure _

theorem readNamedHead_keeps : Keeps pattern lead readNamedHead := by
  refine (accept_keeps _).bind fun defines => Reads.ite (fun _ => ?_) fun _ => ?_
  · refine (takeUntil_keeps _ _).bind fun name => ?_
    exact (checkGroupName_keeps name).bind fun _ => Keeps.pure _
  · refine (accept_keeps _).bind fun refers => Reads.ite (fun _ => ?_) fun _ => ?_
    · refine (takeUntil_keeps _ _).bind fun name => (checkGroupName_keeps name).bind fun _ => ?_
      refine Keeps.get_bind fun s => ?_
      cases s.names.lookup name with
      | none => exact refuse_reads _ _
      | some group => exact (referTo_keeps _ _).bind fun _ => Keeps.pure _
    · refine take_keeps.bind fun token => ?_
      cases token with
      | none => exact refuse_reads _ _
      | some token => exact refuse_reads _ _

theorem readComment_keeps (start fuel : Nat) : Keeps pattern lead (readComment start fuel) := by
  induction fuel generalizing lead with
  | zero => exact refuseAt_reads _ _
  | succ fuel ih =>
    refine peek_reads.bind fun next => Reads.ite (fun _ => (refuseAt_reads _ _).stop) fun _ => ?_
    refine (take_keeps.mono (fun _ h => h.2) fun _ _ => id).bind fun token => ?_
    exact Reads.ite (fun _ => Keeps.pure _) fun _ => ih

theorem readConditionHead_keeps : Keeps pattern lead readConditionHead := by
  refine (takeUntil_keeps _ _).bind fun name => ?_
  have hchecked (group : Nat) : Keeps pattern [] (do
      checkLookbehindGroup group
      return GroupHead.condition group) :=
    (checkLookbehindGroup_keeps group).bind fun _ => Keeps.pure _
  refine Reads.ite (fun _ => Keeps.get_bind fun s => ?_) fun _ => ?_
  · cases s.names.lookup name with
    | none => exact (refuse_reads _ _).stop
    | some group => exact hchecked group
  · cases groupNumber? name with
    | none => exact (refuse_reads _ _).stop
    | some group =>
      refine Reads.ite (fun _ => (refuse_reads _ _).stop) fun _ => ?_
      refine Reads.ite (fun _ => (refuse_reads _ _).stop) fun _ => ?_
      refine tell_reads.bind fun place => Keeps.get_bind fun s => ?_
      refine Reads.ite (fun _ => ?_) fun _ => hchecked group
      exact (modify_reads fun s hs => hs.of_eq rfl rfl rfl).bind fun _ => hchecked group

/-- The flags that were read stand behind the head of a group, and `ending` behind them. -/
def Announces (pattern : Text) (on : Flags) (ending : CodePoint) (s : Progress) : Prop :=
  ∃ letters : Text, Behind pattern (Text.ofString "(?" ++ letters ++ [ending]) s ∧
    (∀ c ∈ letters, (Flags.ofLetter? c).isSome = true) ∧ (on.ascii = true → 0x61 ∈ letters) ∧
    (on.unicode = true → 0x75 ∈ letters)

theorem Announces.weaken {on : Flags} {ending : CodePoint} {s : Progress}
    (h : Announces pattern on ending s) : Behind pattern [] s := by
  obtain ⟨letters, hs, -⟩ := h
  exact hs.weaken

/-- Flags may be set for the whole pattern once their head has been closed. -/
theorem Announces.union {on : Flags} {s : Progress} (h : Announces pattern on 0x29 s) :
    Behind pattern [] { s with flags := s.flags.union on } := by
  obtain ⟨letters, hs, hletters, hascii, hunicode⟩ := h
  refine ⟨hs.weaken.left, fun hflag => ?_, fun hflag => ?_⟩
  · rcases Bool.or_eq_true _ _ ▸ hflag with hflag | hflag
    · exact hs.ascii hflag
    · exact ⟨letters, hs.isInfix, hascii hflag, hletters⟩
  · rcases Bool.or_eq_true _ _ ▸ hflag with hflag | hflag
    · exact hs.unicode hflag
    · exact ⟨letters, hs.isInfix, hunicode hflag, hletters⟩

theorem Flags.letter_of_ascii {c : CodePoint} {flag : Flags} (h : ofLetter? c = some flag)
    (hascii : flag.ascii = true) : c = 0x61 := by
  unfold ofLetter? at h
  split at h <;> cases h <;> first | rfl | cases hascii

theorem Flags.letter_of_unicode {c : CodePoint} {flag : Flags} (h : ofLetter? c = some flag)
    (hunicode : flag.unicode = true) : c = 0x75 := by
  unfold ofLetter? at h
  split at h <;> cases h <;> first | rfl | cases hunicode

/-- The flag of a letter is switched on, and the letter joins those that were read. -/
theorem take_announces {on flag : Flags} {letter : CodePoint}
    (hflag : Flags.ofLetter? letter = some flag) :
    Reads pattern (Announces pattern on letter) take fun token s =>
      ∀ c, token = some (.plain c) → Announces pattern (on.union flag) c s := by
  rintro s ⟨letters, hs, hletters, hascii, hunicode⟩
  refine take_reads.mono (fun _ => id) (fun token s' hs' => ?_) s hs
  rintro c rfl
  refine ⟨letters ++ [letter], by simpa using hs', ?_, fun h => ?_, fun h => ?_⟩
  · exact List.forall_mem_append.mpr ⟨hletters, by simp [hflag]⟩
  · rcases Bool.or_eq_true _ _ ▸ h with h | h
    · exact List.mem_append_left _ (hascii h)
    · simp [Flags.letter_of_ascii hflag h]
  · rcases Bool.or_eq_true _ _ ▸ h with h | h
    · exact List.mem_append_left _ (hunicode h)
    · simp [Flags.letter_of_unicode hflag h]

/-- Each flag that is switched on has its letter among those that were read. -/
theorem readFlagsOn_reads (fuel : Nat) (on : Flags) (letter : CodePoint)
    (hletter : letter = 0x4C ∨ (Flags.ofLetter? letter).isSome = true) :
    Reads pattern (Announces pattern on letter) (readFlagsOn fuel on letter)
      fun r => Announces pattern r.1 r.2 := by
  induction fuel generalizing on letter with
  | zero => exact Reads.pure fun s hs => hs
  | succ fuel ih =>
    unfold readFlagsOn
    refine Reads.ite (fun _ => (refuse_reads _ _).stop) fun hlocale => ?_
    obtain ⟨flag, hflag⟩ := Option.isSome_iff_exists.mp (hletter.resolve_left hlocale)
    rw [hflag]
    refine Reads.ite (fun _ => (refuse_reads _ _).stop) fun _ => ?_
    refine (take_announces hflag).bind fun token => ?_
    cases token with
    | none => exact refuse_reads _ _
    | some token =>
      cases token with
      | escaped c => exact refuse_reads _ _
      | plain c =>
        refine Reads.ite (fun _ => Reads.pure fun s hs => hs c rfl) fun _ => ?_
        refine Reads.ite (fun hflags => ?_) fun _ => refuse_reads _ _
        have hc : c = 0x4C ∨ (Flags.ofLetter? c).isSome = true := by simpa using hflags
        exact (ih _ c hc).mono (fun s hs => hs c rfl) fun _ _ => id

theorem readFlagsOff_keeps (fuel : Nat) (off : Flags) (letter : CodePoint) :
    Keeps pattern lead (readFlagsOff fuel off letter) := by
  induction fuel generalizing lead off letter with
  | zero => exact Keeps.pure _
  | succ fuel ih =>
    unfold readFlagsOff
    refine Reads.ite (fun _ => (refuse_reads _ _).stop) fun _ => take_keeps.bind fun token => ?_
    cases token with
    | none => exact refuse_reads _ _
    | some token =>
      cases token with
      | escaped c => exact refuse_reads _ _
      | plain c =>
        refine Reads.ite (fun _ => Keeps.pure _) fun _ => ?_
        exact Reads.ite (fun _ => ih _ c) fun _ => refuse_reads _ _

/-- Flags for the whole pattern are set only by a head that closes behind them. -/
theorem readFlags_keeps (letter : CodePoint)
    (hletter : letter = 0x2D ∨ letter = 0x4C ∨ (Flags.ofLetter? letter).isSome = true) :
    Keeps pattern (Text.ofString "(?" ++ [letter]) (readFlags letter) := by
  have hstart (s : Progress) (hs : Behind pattern (Text.ofString "(?" ++ [letter]) s) :
      Announces pattern {} letter s :=
    ⟨[], hs, by simp, by simp, by simp⟩
  have hplain (on off : Flags) : Keeps pattern [] (do
      if off.template then refuse (.badFlags "cannot turn off global flag") 1
      if on.overlaps off then refuse (.badFlags "flag turned on and off") 1
      return GroupHead.plain on off) := by
    refine Reads.ite (fun _ => (refuse_reads _ _).stop) fun _ => ?_
    exact Reads.ite (fun _ => (refuse_reads _ _).stop) fun _ => Keeps.pure _
  refine Reads.read_bind (Reads.ite_bind (fun r => Announces pattern r.1 r.2)
    (fun _ => Reads.pure hstart) (fun hminus => ?_) ?_)
  · exact (readFlagsOn_reads _ {} letter (hletter.resolve_left hminus)).mono hstart fun _ _ => id
  · rintro ⟨on, ending⟩
    refine Reads.ite (fun hending => ?_) fun _ =>
      Reads.ite (fun _ => (refuse_reads _ _).stop) fun _ => ?_
    · refine (modify_reads fun s hs => ?_).bind fun _ => Keeps.pure _
      exact (hending ▸ hs : Announces pattern on 0x29 s).union
    · refine Reads.mono (?_ : Keeps pattern [] _) (fun s hs => hs.weaken) fun _ _ => id
      refine Reads.ite (fun _ => take_keeps.bind fun token => ?_) fun _ => hplain on {}
      cases token with
      | none => exact (refuse_reads _ _).stop
      | some token =>
        cases token with
        | escaped c => exact (refuse_reads _ _).stop
        | plain c =>
          refine Reads.ite (fun _ => ?_) fun _ => (refuse_reads _ _).stop
          exact (readFlagsOff_keeps _ _ c).bind fun off => hplain on off

theorem readGroupHead_keeps (start : Nat) : Keeps pattern [0x28] (readGroupHead start) := by
  refine (accept_reads _).bind fun extended => ?_
  cases extended with
  | false => exact Keeps.pure _
  | true =>
    show Reads pattern (Behind pattern (Text.ofString "(?")) _ _
    refine take_reads.bind fun token => ?_
    cases token with
    | none => exact refuse_reads _ _
    | some token =>
      show Reads pattern (Behind pattern (Text.ofString "(?" ++ token.text)) _ _
      dsimp only
      split
      · exact readNamedHead_keeps
      · exact Keeps.pure _
      · exact Reads.read_bind ((readComment_keeps _ _).bind fun _ => Keeps.pure _)
      · exact Keeps.pure _
      · exact Keeps.pure _
      · refine take_keeps.bind fun kind => ?_
        cases kind with
        | none => exact refuse_reads _ _
        | some kind =>
          refine Reads.ite (fun _ => Keeps.pure _) fun _ => ?_
          exact Reads.ite (fun _ => Keeps.pure _) fun _ => refuse_reads _ _
      · exact readConditionHead_keeps
      · exact Keeps.pure _
      · next c _ _ _ _ _ _ _ _ =>
        refine Reads.ite (fun hflags => ?_) fun _ => refuse_reads _ _
        exact readFlags_keeps c (by simpa [or_assoc] using hflags)
      · exact refuse_reads _ _

/-! ## Repetitions -/

/-- A bound that cannot be counted up to is one that the pattern writes. -/
theorem repeatCount_reads {pre : Progress → Prop} (digits : Text)
    (h : ∀ s, pre s → WritesBound pattern digits) :
    Reads pattern pre (repeatCount digits) fun _ => pre := by
  unfold repeatCount
  refine Reads.ite (fun hdigits => (Reads.fail fun s hs => ?_).stop) fun _ =>
    Reads.ite (fun hlarge => (Reads.fail fun s hs => ?_).stop) fun _ => Reads.pure fun s hs => hs
  · exact ⟨hdigits, digits, h s hs, rfl⟩
  · exact ⟨digits, h s hs, hlarge⟩

/-- What was read are two bounds, if a brace closes them. -/
def OpensBounds (pattern lo hi : Text) (s : Progress) : Prop :=
  ∃ written : Text, Behind pattern written s ∧
    (written ++ [0x7D] <:+: pattern → WritesBound pattern lo ∧ WritesBound pattern hi)

theorem accept_bounds {lo hi : Text} :
    Reads pattern (OpensBounds pattern lo hi) (accept 0x7D) fun taken s =>
      Behind pattern [] s ∧ (taken = true → WritesBound pattern lo ∧ WritesBound pattern hi) := by
  rintro s ⟨written, hs, hwritten⟩
  refine (accept_reads 0x7D).mono (fun _ => id) (fun taken s' hs' => ⟨hs'.weaken, ?_⟩) s hs
  rintro rfl
  exact hwritten hs'.isInfix

theorem readBounds_keeps : Keeps pattern [0x7B] readBounds := by
  refine tell_reads.bind fun here => peek_reads.bind fun next => ?_
  refine Reads.ite (fun _ => Reads.pure fun s hs => hs.2.weaken) fun _ => ?_
  refine ((takeAll_reads _).mono (fun s hs => hs.2) fun _ _ => id).bind fun lo => ?_
  refine Reads.and_pre fun hlo => (accept_reads _).bind fun ranged => ?_
  refine Reads.ite_bind (OpensBounds pattern lo) (fun hranged => ?_) (fun hranged => ?_)
    fun hi => accept_bounds.bind fun closed => ?_
  · refine (takeAll_reads _).mono (fun _ => id) fun hi s hs => ⟨_, hs.1, fun h => ?_⟩
    have hwritten : 0x7B :: lo ++ 0x2C :: hi ++ [0x7D] <:+: pattern := by
      simpa [hranged] using h
    exact ⟨.least hlo hs.2 hwritten, .greatest hlo hs.2 hwritten⟩
  · refine Reads.pure fun s hs => ⟨_, hs, fun h => ?_⟩
    have hbound : WritesBound pattern lo := .exactly hlo (by simpa [hranged] using h)
    exact ⟨hbound, hbound⟩
  · cases closed with
    | false =>
      exact ((seek_keeps here).mono (fun s hs => hs.1) fun _ _ => id).bind fun _ => Keeps.pure _
    | true =>
      refine Reads.and_pre fun hbounds => ?_
      obtain ⟨hleast, hgreatest⟩ := hbounds rfl
      refine Reads.ite_bind (fun _ => Behind pattern []) (fun _ => Keeps.pure _)
        (fun _ => repeatCount_reads lo fun _ _ => hleast) fun least => ?_
      refine Reads.ite (fun _ => Keeps.pure _) fun _ => ?_
      refine (repeatCount_reads hi fun _ _ => hgreatest).bind fun greatest => ?_
      exact Reads.ite (fun _ => (refuseAt_reads _ _).stop) fun _ => Keeps.pure _

theorem readRepeatMode_keeps : Keeps pattern lead readRepeatMode := by
  refine (accept_keeps _).bind fun isLazy => Reads.ite (fun _ => Keeps.pure _) fun _ => ?_
  refine (accept_keeps _).bind fun isPossessive => ?_
  exact Reads.ite (fun _ => Keeps.pure _) fun _ => Keeps.pure _

theorem applyRepeat_keeps (place least : Nat) (greatest : Option Nat) (nodes : List Node) :
    Keeps pattern lead (applyRepeat place least greatest nodes) := by
  unfold applyRepeat
  split
  · exact refuseAt_reads _ _
  · exact refuseAt_reads _ _
  · exact refuseAt_reads _ _
  · exact readRepeatMode_keeps.bind fun _ => Keeps.pure _

/-! ## Sequences -/

theorem openGroup_keeps (name : Option Text) : Keeps pattern lead (openGroup name) := by
  refine Reads.get_bind fun s hs => ?_
  have hset (s' : Progress) (hs' : Behind pattern [] s') :
      Reads pattern (· = s) (set s') fun _ => Behind pattern [] := set_reads hs'
  cases name with
  | none =>
    refine (hset _ ?_).bind fun _ => Keeps.pure _
    exact hs.weaken.of_eq rfl rfl rfl
  | some name =>
    dsimp only
    cases s.names.lookup name with
    | some former => exact (refuse_reads _ _).stop
    | none =>
      refine (hset _ ?_).bind fun _ => Keeps.pure _
      exact hs.weaken.of_eq rfl rfl rfl

theorem closeGroup_keeps (index : Nat) (body : List Node) :
    Keeps pattern lead (closeGroup index body) :=
  modify_reads fun _ hs => hs.weaken.of_eq rfl rfl rfl

theorem closeParenthesis_keeps (start : Nat) : Keeps pattern lead (closeParenthesis start) := by
  refine (accept_keeps _).bind fun closed => ?_
  exact Reads.ite (fun _ => refuseAt_reads _ _) fun _ => Keeps.pure _

theorem skipLine_keeps (fuel : Nat) : Keeps pattern lead (skipLine fuel) := by
  induction fuel generalizing lead with
  | zero => exact Keeps.pure _
  | succ fuel ih =>
    refine take_keeps.bind fun token => ?_
    split
    · exact Keeps.pure _
    · exact Keeps.pure _
    · exact ih

/-- Each reader of sequences keeps to the pattern as long as the other two do. -/
structure Sequences (pattern : Text) (fuel : Nat) : Prop where
  alternatives (verbose top : Bool) (done : List (List Node)) :
    Keeps pattern [] (readAlternatives fuel verbose top done)
  sequence (verbose first : Bool) (nodes : List Node) :
    Keeps pattern [] (readSequence fuel verbose first nodes)
  group (verbose : Bool) (start : Nat) (head : GroupHead) :
    Keeps pattern [] (readGroup fuel verbose start head)

theorem Sequences.zero : Sequences pattern 0 := by
  refine ⟨fun _ _ _ => ?_, fun _ _ _ => ?_, fun _ _ _ => ?_⟩
  · unfold readAlternatives
    exact Keeps.pure _
  · unfold readSequence
    exact Keeps.pure _
  · unfold readGroup
    exact Keeps.pure _

variable {fuel : Nat}

theorem readAlternatives_keeps (ih : Sequences pattern fuel) (verbose top : Bool)
    (done : List (List Node)) : Keeps pattern [] (readAlternatives (fuel + 1) verbose top done) := by
  unfold readAlternatives
  refine (ih.sequence _ _ _).bind fun alternative => (accept_keeps _).bind fun more => ?_
  cases more with
  | true => exact Keeps.get_bind fun s => ih.alternatives _ _ _
  | false => exact Keeps.pure _

theorem readGroup_keeps (ih : Sequences pattern fuel) (verbose : Bool) (start : Nat)
    (head : GroupHead) : Keeps pattern [] (readGroup (fuel + 1) verbose start head) := by
  unfold readGroup
  cases head with
  | capture name =>
    refine (openGroup_keeps name).bind fun index => (ih.alternatives _ _ _).bind fun body => ?_
    refine (closeParenthesis_keeps start).bind fun _ => ?_
    exact (closeGroup_keeps index body).bind fun _ => Keeps.pure _
  | plain on off =>
    refine (ih.alternatives _ _ _).bind fun body => ?_
    exact (closeParenthesis_keeps start).bind fun _ => Keeps.pure _
  | atomic =>
    refine (ih.alternatives _ _ _).bind fun body => ?_
    exact (closeParenthesis_keeps start).bind fun _ => Keeps.pure _
  | look behind negative =>
    refine Keeps.get_bind fun s => Reads.ite (fun _ => ?_) fun _ => ?_
    on_goal 1 => refine (modify_reads fun _ hs => hs.of_eq rfl rfl rfl).bind fun _ => ?_
    all_goals
      refine (ih.alternatives _ _ _).bind fun body => Reads.ite (fun _ => ?_) fun _ => ?_
      · refine (modify_reads fun _ hs => hs.of_eq rfl rfl rfl).bind fun _ => ?_
        exact (closeParenthesis_keeps start).bind fun _ => Keeps.pure _
      · exact (closeParenthesis_keeps start).bind fun _ => Keeps.pure _
  | condition group =>
    refine (ih.sequence _ _ _).bind fun yes => (accept_keeps _).bind fun hasNo => ?_
    cases hasNo with
    | false => exact (closeParenthesis_keeps start).bind fun _ => Keeps.pure _
    | true =>
      refine (ih.sequence _ _ _).bind fun no => peek_reads.bind fun token => ?_
      refine Reads.mono (?_ : Keeps pattern [] _) (fun s hs => hs.2) fun _ _ => id
      refine Reads.ite (fun _ => (refuse_reads _ _).stop) fun _ => (Keeps.pure _).bind fun no => ?_
      exact (closeParenthesis_keeps start).bind fun _ => Keeps.pure _
  | backref node => exact Keeps.pure _
  | comment => exact Keeps.pure _
  | globalFlags => exact Keeps.pure _

theorem readSequence_keeps (ih : Sequences pattern fuel) (verbose first : Bool)
    (nodes : List Node) : Keeps pattern [] (readSequence (fuel + 1) verbose first nodes) := by
  unfold readSequence
  refine peek_reads.bind fun token => ?_
  cases token with
  | none => exact Reads.pure fun s hs => hs.2
  | some token =>
    refine Reads.ite (fun _ => Reads.pure fun s hs => hs.2) fun _ => advance_reads.bind fun _ => ?_
    show Reads pattern (Behind pattern token.text) _ _
    cases token with
    | escaped c => exact (readEscape_keeps c).bind fun node => ih.sequence _ _ _
    | plain c =>
      refine Reads.ite (fun _ => (ih.sequence _ _ _).behind) fun _ => ?_
      refine Reads.ite (fun _ => Reads.read_bind ?_) fun _ => Reads.ite (fun _ => ?_) fun _ => ?_
      · exact (skipLine_keeps _).bind fun _ => ih.sequence _ _ _
      · exact readSet_keeps.bind fun node => ih.sequence _ _ _
      refine Reads.ite (fun hrepeat => ?_) fun _ => ?_
      · refine tell_reads.bind fun place => ?_
        refine Reads.ite (fun _ => (Keeps.pure _).bind ?_) fun hstar => ?_
        on_goal 2 => refine Reads.ite (fun _ => (Keeps.pure _).bind ?_) fun hplus => ?_
        on_goal 3 => refine Reads.ite (fun _ => (Keeps.pure _).bind ?_) fun hoption => ?_
        on_goal 4 =>
          obtain rfl : c = 0x7B := by simpa [hstar, hplus, hoption] using hrepeat
          refine readBounds_keeps.bind ?_
        -- whichever mark it was, what follows depends only on the bounds it stands for
        all_goals
          rintro (_ | ⟨least, greatest⟩)
          · exact ih.sequence _ _ _
          · exact (applyRepeat_keeps _ _ _ _).bind fun _ => ih.sequence _ _ _
      refine Reads.ite (fun _ => (ih.sequence _ _ _).behind) fun _ => Reads.ite ?_ fun _ => ?_
      · rintro rfl
        refine tell_reads.bind fun start => (readGroupHead_keeps _).bind fun head => ?_
        cases head with
        | comment => exact ih.sequence _ _ _
        | backref node => exact ih.sequence _ _ _
        | globalFlags =>
          refine Reads.ite (fun _ => (refuseAt_reads _ _).stop) fun _ => ?_
          exact Keeps.get_bind fun s => ih.sequence _ _ _
        | _ => exact (ih.group _ _ _).bind fun node => ih.sequence _ _ _
      · split_ifs <;> exact (ih.sequence _ _ _).behind

theorem sequences (pattern : Text) (fuel : Nat) : Sequences pattern fuel := by
  induction fuel with
  | zero => exact .zero
  | succ fuel ih => exact ⟨readAlternatives_keeps ih, readSequence_keeps ih, readGroup_keeps ih⟩

/-! ## Patterns -/

theorem forIn_keeps {γ : Type} {f : γ → PUnit → ReadM (ForInStep PUnit)}
    (hf : ∀ c, Keeps pattern [] (f c ⟨⟩)) (items : List γ) :
    Keeps pattern [] (forIn items ⟨⟩ f) := by
  induction items with
  | nil => exact Keeps.pure _
  | cons item items ih =>
    rw [List.forIn_cons]
    refine (hf item).bind fun step => ?_
    cases step with
    | done r => exact Keeps.pure _
    | yield r => exact ih

theorem readPattern_keeps : Keeps pattern [] readPattern := by
  refine advance_keeps.bind fun _ => Reads.read_bind ?_
  refine ((sequences pattern _).alternatives _ _ _).bind fun nodes => ?_
  refine Reads.get_bind fun s hs => ?_
  refine Reads.mono (?_ : Keeps pattern [] _) (fun s' hs' => hs' ▸ hs) fun _ _ => id
  refine Reads.ite (fun hflags => (Reads.fail fun _ _ => ?_).stop) fun _ => ?_
  · obtain ⟨hascii, hunicode⟩ := Bool.and_eq_true_iff.mp hflags
    exact ⟨hs.ascii hascii, hs.unicode hunicode⟩
  · refine peek_reads.bind fun token => Reads.ite (fun _ => (refuse_reads _ _).stop) fun _ => ?_
    refine Reads.mono (?_ : Keeps pattern [] _) (fun s' hs' => hs'.2) fun _ _ => id
    refine Keeps.get_bind fun s => (forIn_keeps ?_ s.mentions).bind fun _ => Keeps.pure _
    rintro ⟨group, place⟩
    exact Reads.ite (fun _ => (refuseAt_reads _ _).stop) fun _ => Keeps.pure _

theorem parse_founded {failure : Failure} (h : parse pattern = .error failure) :
    failure.Founded pattern := by
  have hstart : Behind pattern [] {} := ⟨by simp [Progress.left], by simp, by simp⟩
  have hread : (Prod.fst <$> readPattern pattern.toArray {}) = .error failure := h
  cases hrun : readPattern pattern.toArray {} with
  | error failure' =>
    rw [hrun] at hread
    obtain rfl : failure' = failure := Except.error.inj hread
    exact (readPattern_keeps {} hstart).2 failure' hrun
  | ok r =>
    rw [hrun] at hread
    cases hread

/-- The only failures are faults in the writing of a pattern. -/
def FailsMalformed (x : Except Failure α) : Prop :=
  ∀ failure, x = .error failure → ∃ fault position, failure = .malformed fault position

theorem FailsMalformed.pure (a : α) : FailsMalformed (Pure.pure a) := by
  intro failure h
  cases h

theorem FailsMalformed.malformed (fault : Fault) (position : Option Nat) :
    FailsMalformed (.error (.malformed fault position) : Except Failure α) := by
  rintro failure h
  exact ⟨fault, position, (Except.error.inj h).symm⟩

theorem FailsMalformed.bind {x : Except Failure α} {f : α → Except Failure β}
    (hx : FailsMalformed x) (hf : ∀ a, FailsMalformed (f a)) : FailsMalformed (x >>= f) := by
  intro failure h
  cases x with
  | error failure' =>
    obtain rfl : failure' = failure := Except.error.inj h
    exact hx failure' rfl
  | ok a => exact hf a failure h

theorem lookbehindWidth_failsMalformed (groups : Array (Option Width)) (body : List Node) :
    FailsMalformed (lookbehindWidth groups body) := by
  unfold lookbehindWidth
  dsimp only
  split_ifs
  · exact .malformed _ _
  · exact .malformed _ _
  · exact .pure _

mutual

theorem compileNodes_failsMalformed (groups : Array (Option Width)) (flags : Flags)
    (nodes : List Node) : FailsMalformed (compileNodes groups flags nodes) := by
  cases nodes with
  | nil => exact .pure _
  | cons node rest =>
    unfold compileNodes
    refine (compileNode_failsMalformed groups flags node).bind fun steps => ?_
    exact (compileNodes_failsMalformed groups flags rest).bind fun _ => .pure _

theorem compileNode_failsMalformed (groups : Array (Option Width)) (flags : Flags) (node : Node) :
    FailsMalformed (compileNode groups flags node) := by
  unfold compileNode
  cases node with
  | branch alternatives =>
    exact (compileAlternatives_failsMalformed groups flags alternatives).bind fun _ => .pure _
  | repeated mode lo hi body =>
    dsimp only
    split_ifs
    · exact .bind (.malformed _ _) fun _ =>
        (compileNodes_failsMalformed groups flags body).bind fun _ => by cases mode <;> exact .pure _
    · exact (compileNodes_failsMalformed groups flags body).bind fun _ => by
        cases mode <;> exact .pure _
  | group index on off body =>
    cases index with
    | none => exact compileNodes_failsMalformed groups (flags.within on off) body
    | some index =>
      exact (compileNodes_failsMalformed groups (flags.within on off) body).bind fun _ => .pure _
  | atomic body => exact (compileNodes_failsMalformed groups flags body).bind fun _ => .pure _
  | look behind negative body =>
    cases behind with
    | false => exact (compileNodes_failsMalformed groups flags body).bind fun _ => .pure _
    | true =>
      refine (lookbehindWidth_failsMalformed groups body).bind fun back => ?_
      exact (compileNodes_failsMalformed groups flags body).bind fun _ => .pure _
  | conditional group yes no =>
    cases no with
    | none => exact (compileNodes_failsMalformed groups flags yes).bind fun _ => .pure _
    | some no =>
      refine (compileNodes_failsMalformed groups flags yes).bind fun _ => ?_
      exact (compileNodes_failsMalformed groups flags no).bind fun _ => .pure _
  | _ => exact .pure _

theorem compileAlternatives_failsMalformed (groups : Array (Option Width)) (flags : Flags)
    (alternatives : List (List Node)) :
    FailsMalformed (compileAlternatives groups flags alternatives) := by
  cases alternatives with
  | nil => exact .pure _
  | cons alternative rest =>
    unfold compileAlternatives
    refine (compileNodes_failsMalformed groups flags alternative).bind fun _ => ?_
    exact (compileAlternatives_failsMalformed groups flags rest).bind fun _ => .pure _

end

/-- What is behind a failure to compile a pattern: it is nested too deep, or something in it. -/
def Failure.FoundedWithin (tooDeep : Text → Bool) (pattern : Text) (failure : Failure) : Prop :=
  (failure = .nestedTooDeep ∧ tooDeep pattern = true) ∨ failure.Founded pattern

/-- A pattern that does not compile is malformed, or it holds too much. -/
theorem compile_founded {tooDeep : Text → Bool} {failure : Failure}
    (h : compile tooDeep pattern = .error failure) : failure.FoundedWithin tooDeep pattern := by
  unfold compile at h
  split_ifs at h with hdeep
  · exact .inl ⟨(Except.error.inj h).symm, hdeep⟩
  right
  cases hparse : parse pattern with
  | error failure' =>
    rw [hparse] at h
    obtain rfl : failure' = failure := Except.error.inj h
    exact parse_founded hparse
  | ok parsed =>
    rw [hparse] at h
    have hcompile := (compileNodes_failsMalformed parsed.widths parsed.flags parsed.nodes).bind
      fun steps => .pure (⟨steps, parsed.widths.size⟩ : Program)
    obtain ⟨fault, position, rfl⟩ := hcompile failure h
    trivial

end LiteralScrub.Regex
