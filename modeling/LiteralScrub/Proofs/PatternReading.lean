import LiteralScrub.Regex.Program
import Mathlib.Data.List.Infix

/-!
# Following the reading of a pattern

What the text of a pattern holds when it is refused for anything but its form, and how a reader is
followed to it. Reading is followed by what is left of the pattern: what was read just before stands
in front of it. Here are the rules for the parts of a reader, and what the readers of tokens, of
escapes and of sets keep to.
-/
namespace LiteralScrub.Regex

variable {α β : Type} {pattern lead : Text}

/-! ## What a pattern holds -/

/-- The digits are a bound of a repetition, which is written `{n}` or `{lo,hi}`. -/
inductive WritesBound (pattern : Text) : Text → Prop where
  | exactly {n : Text} (hn : n.all isAsciiDigit = true) (h : 0x7B :: n ++ [0x7D] <:+: pattern) :
      WritesBound pattern n
  | least {lo hi : Text} (hlo : lo.all isAsciiDigit = true) (hhi : hi.all isAsciiDigit = true)
      (h : 0x7B :: lo ++ 0x2C :: hi ++ [0x7D] <:+: pattern) : WritesBound pattern lo
  | greatest {lo hi : Text} (hlo : lo.all isAsciiDigit = true) (hhi : hi.all isAsciiDigit = true)
      (h : 0x7B :: lo ++ 0x2C :: hi ++ [0x7D] <:+: pattern) : WritesBound pattern hi

/-- The pattern sets a flag for the whole of it. -/
def SetsFlag (pattern : Text) (letter : CodePoint) : Prop :=
  ∃ letters : Text, Text.ofString "(?" ++ letters ++ Text.ofString ")" <:+: pattern ∧
    letter ∈ letters ∧ ∀ c ∈ letters, (Flags.ofLetter? c).isSome = true

/-- What a pattern holds for which reading it fails. -/
def Failure.Founded (pattern : Text) : Failure → Prop
  | malformed _ _ => True
  | repetitionTooLarge => ∃ digits, WritesBound pattern digits ∧ maxRepeat ≤ digits.toNatBase 10
  | codePointTooLarge => ∃ digits : Text, Text.ofString "\\U" ++ digits <:+: pattern ∧
      digits.length = 8 ∧ digits.all isHexDigit = true ∧ 0x7FFFFFFF < digits.toNatBase 16
  | incompatibleFlags => SetsFlag pattern 0x61 ∧ SetsFlag pattern 0x75
  | tooManyDigits n => 4300 < n ∧ ∃ digits, WritesBound pattern digits ∧ digits.length = n
  | nestedTooDeep => False

/-! ## Following a reader -/

/-- Reading leads from states in `pre` to states in `post`, or a failure is founded in the
pattern. -/
def Reads (pattern : Text) (pre : Progress → Prop) (x : ReadM α) (post : α → Progress → Prop) :
    Prop :=
  ∀ s, pre s → (∀ a s', x pattern.toArray s = .ok (a, s') → post a s') ∧
    ∀ failure, x pattern.toArray s = .error failure → failure.Founded pattern

namespace Reads

variable {pre : Progress → Prop} {post mid : α → Progress → Prop} {last : β → Progress → Prop}

theorem pure {a : α} (h : ∀ s, pre s → post a s) : Reads pattern pre (Pure.pure a) post := by
  refine fun s hs => ⟨fun a' s' heq => ?_, fun failure heq => by cases heq⟩
  obtain ⟨rfl, rfl⟩ := Prod.mk.inj (Except.ok.inj heq)
  exact h s hs

theorem bind {x : ReadM α} {f : α → ReadM β} (hx : Reads pattern pre x mid)
    (hf : ∀ a, Reads pattern (mid a) (f a) last) : Reads pattern pre (x >>= f) last := by
  intro s hs
  obtain ⟨hok, herror⟩ := hx s hs
  have hrun : (x >>= f) pattern.toArray s = x pattern.toArray s >>= fun r => f r.1 pattern.toArray r.2 :=
    rfl
  rw [hrun]
  cases hresult : x pattern.toArray s with
  | error failure =>
    refine ⟨fun b s' h => (by cases h), fun failure' h => ?_⟩
    obtain rfl : failure = failure' := Except.error.inj h
    exact herror failure hresult
  | ok r => exact hf r.1 r.2 (hok r.1 r.2 hresult)

/-- What comes after a failure does not matter. -/
theorem stop {x : ReadM α} {f : α → ReadM β} (hx : Reads pattern pre x fun _ _ => False) :
    Reads pattern pre (x >>= f) last :=
  hx.bind fun _ _ h => h.elim

theorem mono {x : ReadM α} {pre' : Progress → Prop} {post' : α → Progress → Prop}
    (hx : Reads pattern pre x post) (hpre : ∀ s, pre' s → pre s)
    (hpost : ∀ a s, post a s → post' a s) : Reads pattern pre' x post' :=
  fun s hs => ⟨fun a s' h => hpost a s' ((hx s (hpre s hs)).1 a s' h), (hx s (hpre s hs)).2⟩

theorem and_pre {x : ReadM α} {p : Prop} (h : p → Reads pattern pre x post) :
    Reads pattern (fun s => pre s ∧ p) x post :=
  fun s hs => h hs.2 s hs.1

theorem ite {c : Prop} [Decidable c] {x y : ReadM α} (hx : c → Reads pattern pre x post)
    (hy : ¬c → Reads pattern pre y post) : Reads pattern pre (if c then x else y) post := by
  split_ifs with hc
  · exact hx hc
  · exact hy hc

/-- Two ways of reading that go on alike. -/
theorem ite_bind {c : Prop} [Decidable c] {x y : ReadM α} {f : α → ReadM β}
    (mid : α → Progress → Prop) (hx : c → Reads pattern pre x mid)
    (hy : ¬c → Reads pattern pre y mid) (hf : ∀ a, Reads pattern (mid a) (f a) last) :
    Reads pattern pre (if c then x >>= f else y >>= f) last :=
  ite (fun hc => (hx hc).bind hf) fun hc => (hy hc).bind hf

theorem fail {failure : Failure} (h : ∀ s, pre s → failure.Founded pattern) :
    Reads pattern pre (throw failure : ReadM α) post := by
  refine fun s hs => ⟨fun a s' heq => (by cases heq), fun failure' heq => ?_⟩
  obtain rfl : failure = failure' := Except.error.inj heq
  exact h s hs

theorem malformed (fault : Fault) (position : Option Nat) :
    Reads pattern pre (throw (.malformed fault position) : ReadM α) post :=
  fail fun _ _ => trivial

theorem get_bind {f : Progress → ReadM β} (h : ∀ s, pre s → Reads pattern (· = s) (f s) last) :
    Reads pattern pre (get >>= f) last :=
  fun s hs => h s hs s rfl

theorem read_bind {f : Array CodePoint → ReadM β}
    (h : Reads pattern pre (f pattern.toArray) last) : Reads pattern pre (read >>= f) last :=
  h

end Reads

@[simp] theorem Token.text_plain (c : CodePoint) : (plain c).text = [c] := rfl

/-- What is left of a pattern, from the next token on. -/
def Progress.left (pattern : Text) (s : Progress) : Text :=
  s.next.elim [] Token.text ++ pattern.drop s.index

/-- What was read just before stands in front of what is left, and flags have been set by what was
read. -/
structure Behind (pattern lead : Text) (s : Progress) : Prop where
  left : lead ++ s.left pattern <:+ pattern
  ascii : s.flags.ascii = true → SetsFlag pattern 0x61
  unicode : s.flags.unicode = true → SetsFlag pattern 0x75

theorem Behind.weaken {s : Progress} (h : Behind pattern lead s) : Behind pattern [] s :=
  { h with left := (List.suffix_append lead _).trans h.left }

theorem Behind.isInfix {s : Progress} (h : Behind pattern lead s) : lead <:+: pattern :=
  (List.prefix_append lead _).isInfix.trans h.left.isInfix

theorem Behind.of_eq {s s' : Progress} (h : Behind pattern lead s) (hindex : s'.index = s.index)
    (hnext : s'.next = s.next) (hflags : s'.flags = s.flags) : Behind pattern lead s' := by
  refine ⟨?_, ?_, ?_⟩
  · rw [Progress.left, hindex, hnext]
    exact h.left
  · rw [hflags]
    exact h.ascii
  · rw [hflags]
    exact h.unicode

/-- Reading goes on behind `lead`, and nothing is known of what it reads. -/
abbrev Keeps (pattern lead : Text) (x : ReadM α) : Prop :=
  Reads pattern (Behind pattern lead) x fun _ => Behind pattern []

theorem Keeps.pure (a : α) : Keeps pattern lead (Pure.pure a) := Reads.pure fun _ h => h.weaken

theorem Keeps.get_bind {f : Progress → ReadM β} (h : ∀ s, Keeps pattern lead (f s)) :
    Keeps pattern lead (get >>= f) :=
  Reads.get_bind fun s hs => (h s).mono (fun _ heq => heq ▸ hs) fun _ _ => id

theorem Keeps.behind {x : ReadM α} (h : Keeps pattern [] x) : Keeps pattern lead x :=
  h.mono (fun _ hs => hs.weaken) fun _ _ => id

theorem tell_reads {pre : Progress → Prop} : Reads pattern pre tell fun _ => pre :=
  Reads.get_bind fun _ hs => Reads.pure fun _ heq => heq ▸ hs

theorem refuse_reads {pre : Progress → Prop} {post : α → Progress → Prop} (fault : Fault)
    (back : Nat) : Reads pattern pre (refuse fault back) post :=
  tell_reads.bind fun _ => .malformed fault _

theorem peek_reads {pre : Progress → Prop} :
    Reads pattern pre peek fun token s => s.next = token ∧ pre s := by
  refine Reads.get_bind fun s hs => Reads.pure ?_
  rintro _ rfl
  exact ⟨rfl, hs⟩

theorem Behind.advanced {s s' : Progress} (h : Behind pattern lead s)
    (hleft : s'.left pattern = pattern.drop s.index) (hflags : s'.flags = s.flags) :
    Behind pattern (lead ++ s.next.elim [] Token.text) s' := by
  refine ⟨?_, ?_, ?_⟩
  · rw [hleft, List.append_assoc]
    exact h.left
  · rw [hflags]
    exact h.ascii
  · rw [hflags]
    exact h.unicode

theorem set_reads {pre : Progress → Prop} {post : PUnit → Progress → Prop} {s : Progress}
    (h : post ⟨⟩ s) : Reads pattern pre (set s) post := by
  refine fun s' hs => ⟨fun a s'' heq => ?_, fun failure heq => by cases heq⟩
  obtain ⟨-, rfl⟩ := Prod.mk.inj (Except.ok.inj heq)
  exact h

/-- What is left then is the pattern from the index on. -/
theorem advance_reads_left (s : Progress) :
    Reads pattern (· = s) advance
      fun _ s' => s'.left pattern = pattern.drop s.index ∧ s'.flags = s.flags := by
  refine Reads.read_bind (Reads.get_bind fun s' hs => ?_)
  obtain rfl : s = s' := hs.symm
  rw [List.getElem?_toArray]
  split
  · refine set_reads ⟨?_, rfl⟩
    simp [Progress.left]
  · next hc =>
    obtain ⟨hindex, hc⟩ := List.getElem?_eq_some_iff.mp hc
    rw [List.getElem?_toArray]
    cases hd : pattern[s.index + 1]? with
    | none => exact .malformed _ _
    | some d =>
      obtain ⟨hindex', rfl⟩ := List.getElem?_eq_some_iff.mp hd
      refine set_reads ⟨?_, rfl⟩
      rw [List.drop_eq_getElem_cons hindex, List.drop_eq_getElem_cons hindex', hc]
      rfl
  · next c hother hc =>
    obtain ⟨hindex, rfl⟩ := List.getElem?_eq_some_iff.mp hc
    refine set_reads ⟨?_, rfl⟩
    rw [List.drop_eq_getElem_cons hindex]
    rfl

/-- From then on what was the next token has been read. -/
theorem advance_reads {token : Option Token} :
    Reads pattern (fun s => s.next = token ∧ Behind pattern lead s) advance
      fun _ => Behind pattern (lead ++ token.elim [] Token.text) := by
  rintro s ⟨rfl, hs⟩
  obtain ⟨hok, herror⟩ := advance_reads_left s s rfl
  exact ⟨fun a s' h => hs.advanced (hok a s' h).1 (hok a s' h).2, herror⟩

theorem advance_keeps : Keeps pattern lead advance :=
  fun s hs => advance_reads.mono (fun _ => id) (fun _ _ h => h.weaken) s ⟨rfl, hs⟩

theorem take_reads :
    Reads pattern (Behind pattern lead) take
      fun token => Behind pattern (lead ++ token.elim [] Token.text) := by
  refine peek_reads.bind fun token => advance_reads.bind fun _ => Reads.pure fun s hs => hs

theorem accept_reads (c : CodePoint) :
    Reads pattern (Behind pattern lead) (accept c)
      fun taken => Behind pattern (lead ++ if taken then [c] else []) := by
  refine peek_reads.bind fun token => Reads.ite (fun htoken => ?_) fun _ => ?_
  · refine advance_reads.bind fun _ => Reads.pure fun s hs => ?_
    rw [htoken] at hs
    exact hs
  · refine Reads.pure fun s hs => ?_
    simpa using hs.2

theorem seek_keeps (index : Nat) : Keeps pattern lead (seek index) := by
  intro s hs
  have hadvance : Reads pattern _ advance _ := advance_reads_left { s with index }
  obtain ⟨hok, herror⟩ := hadvance _ rfl
  refine ⟨fun a s' h => ?_, herror⟩
  obtain ⟨hleft, hflags⟩ := hok a s' h
  refine ⟨?_, hflags ▸ hs.ascii, hflags ▸ hs.unicode⟩
  rw [List.nil_append, hleft]
  exact List.drop_suffix index pattern

/-- The tokens that are taken satisfy the test. -/
theorem takeUpTo_reads (test : CodePoint → Bool) (n : Nat) :
    Reads pattern (Behind pattern lead) (takeUpTo test n)
      fun t s => Behind pattern (lead ++ t) s ∧ t.all test = true ∧ t.length ≤ n := by
  induction n generalizing lead with
  | zero => exact Reads.pure fun s hs => ⟨by simpa using hs, rfl, Nat.le_refl 0⟩
  | succ n ih =>
    have hnone : ∀ s, Behind pattern lead s →
        Behind pattern (lead ++ []) s ∧ ([] : Text).all test = true ∧ ([] : Text).length ≤ n + 1 :=
      fun s hs => ⟨by simpa using hs, rfl, Nat.zero_le _⟩
    refine peek_reads.bind fun token => ?_
    split
    · next c =>
      refine Reads.ite (fun hc => ?_) fun _ => ?_
      · refine advance_reads.bind fun _ => ih.bind fun t => Reads.pure fun s hs => ?_
        obtain ⟨hs, hall, hlength⟩ := hs
        exact ⟨by simpa using hs, by simp [hc, hall], by simpa using hlength⟩
      · exact Reads.pure fun s hs => hnone s hs.2
    · exact Reads.pure fun s hs => hnone s hs.2

theorem takeAll_reads (test : CodePoint → Bool) :
    Reads pattern (Behind pattern lead) (takeAll test)
      fun t s => Behind pattern (lead ++ t) s ∧ t.all test = true :=
  Reads.read_bind ((takeUpTo_reads test _).mono (fun _ => id) fun _ _ h => ⟨h.1, h.2.1⟩)

theorem take_keeps : Keeps pattern lead take :=
  take_reads.mono (fun _ => id) fun _ _ h => h.weaken

theorem accept_keeps (c : CodePoint) : Keeps pattern lead (accept c) :=
  (accept_reads c).mono (fun _ => id) fun _ _ h => h.weaken

theorem takeUpTo_keeps (test : CodePoint → Bool) (n : Nat) :
    Keeps pattern lead (takeUpTo test n) :=
  (takeUpTo_reads test n).mono (fun _ => id) fun _ _ h => h.1.weaken

theorem refuseUnterminated_reads {pre : Progress → Prop} {post : α → Progress → Prop}
    (terminator : CodePoint) (kind : String) (taken : Text) :
    Reads pattern pre (refuseUnterminated terminator kind taken) post := by
  unfold refuseUnterminated
  split_ifs <;> exact refuse_reads _ _

theorem takeUntil_go_keeps (terminator : CodePoint) (kind : String) (fuel : Nat) (taken : Text) :
    Keeps pattern lead (takeUntil.go terminator kind fuel taken) := by
  induction fuel generalizing lead taken with
  | zero => exact advance_keeps.bind fun _ => refuseUnterminated_reads _ _ _
  | succ fuel ih =>
    refine take_keeps.bind fun token => ?_
    cases token with
    | none => exact refuseUnterminated_reads _ _ _
    | some token =>
      refine Reads.ite (fun _ => ?_) fun _ => ih _
      exact Reads.ite (fun _ => refuse_reads _ _) fun _ => Keeps.pure _

theorem takeUntil_keeps (terminator : CodePoint) (kind : String) :
    Keeps pattern lead (takeUntil terminator kind) :=
  Reads.read_bind (takeUntil_go_keeps terminator kind _ [])

/-! ## Escapes -/

theorem readHex_reads (letter : CodePoint) (count : Nat) :
    Reads pattern (Behind pattern lead) (readHex letter count) fun c s =>
      ∃ digits : Text, Behind pattern (lead ++ digits) s ∧ digits.length = count ∧
        digits.all isHexDigit = true ∧ c = digits.toNatBase 16 := by
  refine (takeUpTo_reads isHexDigit count).bind fun digits => ?_
  refine Reads.ite (fun _ => (refuse_reads _ _).stop) fun hlength => ?_
  exact Reads.pure fun s hs => ⟨digits, hs.1, not_not.mp hlength, hs.2.1, rfl⟩

theorem readHex_keeps (letter : CodePoint) (count : Nat) :
    Keeps pattern lead (readHex letter count) := by
  refine (readHex_reads letter count).mono (fun _ => id) ?_
  rintro c s ⟨digits, hs, -⟩
  exact hs.weaken

/-- A code point that is too large has been written with eight digits. -/
theorem readLongHex_keeps : Keeps pattern (Text.ofString "\\U") readLongHex := by
  refine (readHex_reads 0x55 8).bind fun c => ?_
  refine Reads.ite (fun hlarge => (Reads.fail ?_).stop) fun _ => Reads.ite (fun _ => ?_) fun _ => ?_
  · rintro s ⟨digits, hs, hlength, hall, rfl⟩
    exact ⟨digits, hs.isInfix, hlength, hall, hlarge⟩
  · exact Reads.read_bind (tell_reads.bind fun _ => (refuse_reads _ _).stop)
  · refine Reads.pure ?_
    rintro s ⟨digits, hs, -⟩
    exact hs.weaken

theorem readNamed_keeps : Keeps pattern lead readNamed := by
  refine (accept_keeps _).bind fun taken => ?_
  refine Reads.ite (fun _ => (refuse_reads _ _).stop) fun _ => ?_
  refine (takeUntil_keeps _ _).bind fun name => ?_
  cases characterNamed? name with
  | none => exact refuse_reads _ _
  | some c => exact Keeps.pure c

theorem readNumbered?_keeps (letter : CodePoint) :
    Keeps pattern [0x5C, letter] (readNumbered? letter) := by
  unfold readNumbered?
  split_ifs with hx hu hlong hname
  · exact (readHex_keeps letter 2).bind fun _ => Keeps.pure _
  · exact (readHex_keeps letter 4).bind fun _ => Keeps.pure _
  · subst hlong
    exact readLongHex_keeps.bind fun _ => Keeps.pure _
  · exact readNamed_keeps.bind fun _ => Keeps.pure _
  · exact Keeps.pure none

theorem readPlainEscape_keeps (c : CodePoint) : Keeps pattern lead (readPlainEscape c) := by
  unfold readPlainEscape
  exact Reads.ite (fun _ => (refuse_reads _ _).stop) fun _ => Keeps.pure c

theorem octalValue_keeps (digits : Text) : Keeps pattern lead (octalValue digits) := by
  unfold octalValue
  exact Reads.ite (fun _ => (refuse_reads _ _).stop) fun _ => Keeps.pure _

theorem readSetEscape_keeps (c : CodePoint) : Keeps pattern [0x5C, c] (readSetEscape c) := by
  unfold readSetEscape
  dsimp only
  cases controlEscape? c with
  | some control => exact Keeps.pure _
  | none =>
    cases categoryEscape? c with
    | some category => exact Keeps.pure _
    | none =>
      refine (readNumbered?_keeps c).bind fun number => ?_
      cases number with
      | some number => exact Keeps.pure _
      | none =>
        refine Reads.ite (fun _ => ?_) fun _ =>
          Reads.ite (fun _ => (refuse_reads _ _).stop) fun _ => ?_
        · exact (takeUpTo_keeps _ _).bind fun _ => (octalValue_keeps _).bind fun _ => Keeps.pure _
        · exact (readPlainEscape_keeps c).bind fun _ => Keeps.pure _

theorem checkLookbehindGroup_keeps (group : Nat) :
    Keeps pattern lead (checkLookbehindGroup group) := by
  refine Keeps.get_bind fun s => ?_
  cases s.lookbehind with
  | none => exact Keeps.pure _
  | some groups =>
    refine Reads.ite (fun _ => (refuse_reads _ _).stop) fun _ => ?_
    exact Reads.ite (fun _ => refuse_reads _ _) fun _ => Keeps.pure _

theorem referTo_keeps (group back : Nat) : Keeps pattern lead (referTo group back) := by
  refine Keeps.get_bind fun s => Reads.ite (fun _ => (refuse_reads _ _).stop) fun _ => ?_
  exact (checkLookbehindGroup_keeps group).bind fun _ => Keeps.pure _

theorem readReference_keeps (c : CodePoint) : Keeps pattern lead (readReference c) := by
  refine (takeUpTo_keeps _ _).bind fun more => ?_
  have hgroup (group back : Nat) : Keeps pattern [] (do
      if group < (← get).widths.size then referTo group (back + 1)
      else refuse (.invalidGroupReference group) back) := by
    exact Keeps.get_bind fun s => Reads.ite (fun _ => referTo_keeps _ _) fun _ => refuse_reads _ _
  refine Reads.ite (fun _ => ?_) fun _ => hgroup _ _
  refine (takeUpTo_keeps _ _).bind fun third => Reads.ite (fun _ => ?_) fun _ => hgroup _ _
  exact (octalValue_keeps _).bind fun _ => Keeps.pure _

theorem readEscape_keeps (c : CodePoint) : Keeps pattern [0x5C, c] (readEscape c) := by
  unfold readEscape
  cases anchorEscape? c with
  | some anchor => exact Keeps.pure _
  | none =>
    cases categoryEscape? c with
    | some category => exact Keeps.pure _
    | none =>
      cases controlEscape? c with
      | some control => exact Keeps.pure _
      | none =>
        refine (readNumbered?_keeps c).bind fun number => ?_
        cases number with
        | some number => exact Keeps.pure _
        | none =>
          refine Reads.ite (fun _ => ?_) fun _ =>
            Reads.ite (fun _ => readReference_keeps c) fun _ => ?_
          · exact (takeUpTo_keeps _ _).bind fun _ => Keeps.pure _
          · exact (readPlainEscape_keeps c).bind fun _ => Keeps.pure _

/-! ## Sets -/

theorem refuseAt_reads {pre : Progress → Prop} {post : α → Progress → Prop} (fault : Fault)
    (position : Nat) : Reads pattern pre (refuseAt fault position) post :=
  .malformed fault _

theorem readSetItem_keeps (token : Token) : Keeps pattern token.text (readSetItem token) := by
  cases token with
  | plain c => exact Keeps.pure _
  | escaped c => exact readSetEscape_keeps c

theorem makeRange_keeps (first last : Token) (lo hi : SetItem) :
    Keeps pattern lead (makeRange first last lo hi) := by
  unfold makeRange
  split
  · exact Reads.ite (fun _ => refuse_reads _ _) fun _ => Keeps.pure _
  · exact refuse_reads _ _

theorem readSetItems_keeps (start fuel : Nat) (items : List SetItem) :
    Keeps pattern lead (readSetItems start fuel items) := by
  induction fuel generalizing lead items with
  | zero => exact refuseAt_reads _ _
  | succ fuel ih =>
    refine (take_reads.mono (fun _ h => h.weaken) fun _ _ => id).bind fun token => ?_
    cases token with
    | none => exact refuseAt_reads _ _
    | some first =>
      refine Reads.ite (fun _ => Keeps.pure _) fun _ => ?_
      refine (readSetItem_keeps first).bind fun lo => (accept_keeps _).bind fun taken => ?_
      refine Reads.ite (fun _ => ?_) fun _ => ih _
      refine take_reads.bind fun token => ?_
      cases token with
      | none => exact refuseAt_reads _ _
      | some last =>
        refine Reads.ite (fun _ => Keeps.pure _) fun _ => ?_
        refine (readSetItem_keeps last).bind fun hi => ?_
        exact (makeRange_keeps first last lo hi).bind fun _ => ih _

theorem readSet_keeps : Keeps pattern lead readSet := by
  refine tell_reads.bind fun place => (accept_keeps _).bind fun negated => ?_
  refine Reads.read_bind ((readSetItems_keeps _ _ _).bind fun items => ?_)
  dsimp only
  split
  · exact Keeps.pure _
  · exact Keeps.pure _

end LiteralScrub.Regex
