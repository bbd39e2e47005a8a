import LiteralScrub.Json.Reader
import LiteralScrub.Json.Writer
import Mathlib.Data.List.Infix
import Mathlib.Data.List.TakeWhile
import Mathlib.Tactic.SplitIfs

/-!
# JSON that is written is read back

A document of texts, arrays and objects is written in a form that reads as that document, whatever
code points the texts hold. Line feeds are the only control characters in it.
-/
namespace LiteralScrub.Json

/-! ## Strings -/

theorem escapeLetter?_eq_some {c letter : CodePoint} (h : escapeLetter? c = some letter) :
    shortEscape? letter = some c ∧ letter ≠ 0x75 := by
  unfold escapeLetter? at h
  split at h <;> cases h <;> exact ⟨rfl, by decide⟩

theorem escapeLetter?_eq_none {c : CodePoint} (h : escapeLetter? c = none) :
    c ≠ 0x22 ∧ c ≠ 0x5C := by
  constructor <;> rintro rfl <;> cases h

theorem hexQuad?_ofNatPadded : ∀ c < 0x20, hexQuad? (Text.ofNatPadded 16 4 c) = some c := by
  decide

theorem length_of_hexQuad? {t : Text} {c : CodePoint} (h : hexQuad? t = some c) : t.length = 4 := by
  unfold hexQuad? at h
  split_ifs at h with hdigits
  simp only [Bool.and_eq_true, decide_eq_true_eq] at hdigits
  exact hdigits.1

theorem isHighSurrogate_iff {c : Nat} : isHighSurrogate c = true ↔ 0xD800 ≤ c ∧ c ≤ 0xDBFF := by
  simp [isHighSurrogate]

/-- Behind the digits of a control character there is no second escape to join it with. -/
theorem readUnicodeEscape_ofNatPadded {c : Nat} (hc : c < 0x20) {rest : Text} (hrest : rest ≠ []) :
    readUnicodeEscape (Text.ofNatPadded 16 4 c ++ rest) = .ok (c, rest) := by
  have hquad := hexQuad?_ofNatPadded c hc
  have hlength := length_of_hexQuad? hquad
  have hhigh : isHighSurrogate c = false := by
    rw [← Bool.not_eq_true, isHighSurrogate_iff]
    omega
  unfold readUnicodeEscape
  rw [List.drop_left' hlength, List.take_left' hlength, hquad, if_neg (by simpa using hrest)]
  simp only [hhigh]
  split <;> rfl

section

variable {whole rest : Text} {fuel : Nat}

theorem readString_plain {c : Nat} (hlow : 0x20 ≤ c) (hquote : c ≠ 0x22) (hbackslash : c ≠ 0x5C) :
    readString whole (fuel + 1) (c :: rest) =
      (readString whole fuel rest).map fun r => (c :: r.1, r.2) := by
  have hcontrol : ¬c ≤ 0x1F := by omega
  rw [readString.eq_def whole (fuel + 1) (c :: rest)]
  dsimp only
  rw [if_neg hquote, if_neg hcontrol, if_neg hbackslash]
  cases readString whole fuel rest <;> rfl

theorem readString_shortEscape {c letter : CodePoint} (h : shortEscape? letter = some c)
    (hne : letter ≠ 0x75) :
    readString whole (fuel + 1) (0x5C :: letter :: rest) =
      (readString whole fuel rest).map fun r => (c :: r.1, r.2) := by
  rw [readString, if_neg (by decide), if_neg (by decide), if_pos rfl, h]
  · cases readString whole fuel rest <;> rfl
  · exact hne

theorem readString_unicodeEscape {c : CodePoint} {t : Text}
    (h : readUnicodeEscape t = .ok (c, rest)) :
    readString whole (fuel + 1) (0x5C :: 0x75 :: t) =
      (readString whole fuel rest).map fun r => (c :: r.1, r.2) := by
  rw [readString, if_neg (by decide), if_neg (by decide), if_pos rfl]
  simp only [h, bind, Except.bind]
  cases readString whole fuel rest <;> rfl

/-- A code point in a string, as it is written, is read by one step. -/
theorem readString_writePoint (c : Nat) (hrest : rest ≠ []) :
    readString whole (fuel + 1) (writePoint c ++ rest) =
      (readString whole fuel rest).map fun r => (c :: r.1, r.2) := by
  unfold writePoint
  cases hletter : escapeLetter? c with
  | some letter =>
    obtain ⟨hescape, hne⟩ := escapeLetter?_eq_some hletter
    exact readString_shortEscape hescape hne
  | none =>
    obtain ⟨hquote, hbackslash⟩ := escapeLetter?_eq_none hletter
    by_cases hcontrol : c < 0x20
    · simp only [if_pos hcontrol]
      exact readString_unicodeEscape (readUnicodeEscape_ofNatPadded hcontrol hrest)
    · simp only [if_neg hcontrol]
      exact readString_plain (Nat.not_lt.mp hcontrol) hquote hbackslash

theorem readString_flatMap {t : Text} (h : t.length < fuel) :
    readString whole fuel (t.flatMap writePoint ++ 0x22 :: rest) = .ok (t, rest) := by
  induction t generalizing fuel with
  | nil =>
    obtain ⟨fuel, rfl⟩ := Nat.exists_eq_succ_of_ne_zero (Nat.ne_of_gt h)
    rfl
  | cons c t ih =>
    obtain ⟨fuel, rfl⟩ := Nat.exists_eq_succ_of_ne_zero (Nat.ne_of_gt (Nat.zero_lt_of_lt h))
    have hrest : t.flatMap writePoint ++ 0x22 :: rest ≠ [] := by simp
    rw [List.flatMap_cons, List.append_assoc, readString_writePoint c hrest,
      ih (Nat.lt_of_succ_lt_succ h)]
    rfl

end

/-! ## Documents -/

/-- The document holds texts, which all satisfy `P`, arrays, and objects of different keys; `room`
of them at most are nested. -/
inductive Textual (P : Text → Prop) : Nat → Json → Prop where
  | text {room : Nat} {t : Text} : P t → Textual P room (.text t)
  | array {room : Nat} {items : List Json} :
      (∀ item ∈ items, Textual P room item) → Textual P (room + 1) (.array items)
  | object {room : Nat} {members : List (Text × Json)} : (members.map Prod.fst).Nodup →
      (∀ member ∈ members, P member.1) → (∀ member ∈ members, Textual P room member.2) →
      Textual P (room + 1) (.object members)

variable {P : Text → Prop} {room level outer fuel : Nat} {rest : Text}

theorem writeItems_eq_map (level : Nat) (items : List Json) :
    writeItems level items = items.map (writeAt level) := by
  induction items with
  | nil => rfl
  | cons item items ih => rw [writeItems, ih, List.map_cons]

/-- A member as it is written. -/
def writeMember (level : Nat) (member : Text × Json) : Text :=
  writeString member.1 ++ [0x3A, 0x20] ++ writeAt level member.2

theorem writeMembers_eq_map (level : Nat) (members : List (Text × Json)) :
    writeMembers level members = members.map (writeMember level) := by
  induction members with
  | nil => rfl
  | cons member members ih => rw [writeMembers, ih, List.map_cons, writeMember]

/-- The text begins with something that is not skipped and closes nothing. -/
def Begins (t : Text) : Prop := ∃ c tail, t = c :: tail ∧ c ∈ [0x22, 0x5B, 0x7B]

theorem begins_writeAt {v : Json} (h : Textual P room v) (level : Nat) :
    Begins (writeAt level v) := by
  cases h with
  | text ht => exact ⟨0x22, _, by rw [writeAt, writeString]; rfl, by simp⟩
  | @array room items hitems =>
    rw [writeAt]
    cases writeItems (level + 1) items <;> exact ⟨0x5B, _, rfl, by simp⟩
  | @object room members hkeys hnames hvalues =>
    rw [writeAt]
    cases writeMembers (level + 1) members <;> exact ⟨0x7B, _, rfl, by simp⟩

theorem Begins.skipBlanks_append {t : Text} (h : Begins t) : skipBlanks (t ++ rest) = t ++ rest := by
  obtain ⟨c, tail, rfl, hc⟩ := h
  simp only [List.mem_cons, List.not_mem_nil, or_false] at hc
  rcases hc with rfl | rfl | rfl <;> rfl

theorem Begins.append {t : Text} (h : Begins t) (u : Text) : Begins (t ++ u) := by
  obtain ⟨c, tail, rfl, hc⟩ := h
  exact ⟨c, tail ++ u, rfl, hc⟩

theorem skipBlanks_newLine (level : Nat) (t : Text) :
    skipBlanks (newLine level ++ t) = skipBlanks t := by
  have hblanks : ∀ c ∈ newLine level, isBlank c = true := by
    simp only [newLine, List.mem_cons, List.mem_replicate]
    rintro c (rfl | ⟨-, rfl⟩) <;> rfl
  exact List.dropWhile_append_of_pos hblanks

/-! ## Reading documents -/

/-- The value is read from what is written of it, if the fuel is twice as much. -/
def ReadsBack (room level : Nat) (v : Json) : Prop :=
  ∀ fuel rest, 2 * (writeAt level v).length ≤ fuel →
    readValue fuel room (writeAt level v ++ rest) = .ok (v, rest)

/-- Parts of a document as they are written one after the other. -/
def joined (level : Nat) (parts : List Text) : Text := Text.join (0x2C :: newLine level) parts

theorem joined_cons_cons (level : Nat) (part next : Text) (parts : List Text) :
    joined level (part :: next :: parts) =
      part ++ 0x2C :: (newLine level ++ joined level (next :: parts)) := by
  simp [joined, Text.join]

theorem begins_joined {part : Text} (h : Begins part) (level : Nat) (parts : List Text) :
    Begins (joined level (part :: parts)) := by
  cases parts with
  | nil => exact h
  | cons next parts =>
    rw [joined_cons_cons]
    exact h.append _

/-- The line behind the last part begins at the level outside. -/
theorem skipBlanks_closing (outer : Nat) {c : CodePoint} (hc : isBlank c = false) (rest : Text) :
    skipBlanks (newLine outer ++ c :: rest) = c :: rest := by
  rw [skipBlanks_newLine, skipBlanks, List.dropWhile_cons_of_neg (by simp [hc])]

theorem readItems_last {t tail : Text} {item : Json}
    (hvalue : readValue fuel room t = .ok (item, tail)) (htail : skipBlanks tail = 0x5D :: rest) :
    readItems (fuel + 1) room t = .ok ([item], rest) := by
  rw [readItems, hvalue]
  simp only [bind, Except.bind, htail]
  rfl

theorem readItems_more {t tail more : Text} {item : Json} {items : List Json}
    (hvalue : readValue fuel room t = .ok (item, tail)) (htail : skipBlanks tail = 0x2C :: more)
    (hitems : readItems fuel room (skipBlanks more) = .ok (items, rest)) :
    readItems (fuel + 1) room t = .ok (item :: items, rest) := by
  rw [readItems, hvalue]
  simp only [bind, Except.bind, htail, hitems]
  rfl

theorem readItems_joined {items : List Json} (hne : items ≠ [])
    (hitems : ∀ item ∈ items, Begins (writeAt level item) ∧ ReadsBack room level item)
    (hfuel : 2 * (joined level (items.map (writeAt level))).length < fuel) :
    readItems fuel room
      (joined level (items.map (writeAt level)) ++ (newLine outer ++ 0x5D :: rest)) =
        .ok (items, rest) := by
  induction items generalizing fuel with
  | nil => exact absurd rfl hne
  | cons item items ih =>
    obtain ⟨fuel, rfl⟩ := Nat.exists_eq_succ_of_ne_zero (Nat.ne_of_gt (Nat.zero_lt_of_lt hfuel))
    have hitem := (hitems item List.mem_cons_self).2
    cases items with
    | nil =>
      have hlength : 2 * (writeAt level item).length < fuel + 1 := hfuel
      exact readItems_last (hitem fuel _ (by omega)) (skipBlanks_closing outer (by decide) rest)
    | cons next items =>
      have hrest : ∀ other ∈ next :: items,
          Begins (writeAt level other) ∧ ReadsBack room level other :=
        fun other hother => hitems other (List.mem_cons_of_mem item hother)
      have hbegins := begins_joined (hrest next List.mem_cons_self).1 level
        (items.map (writeAt level))
      rw [List.map_cons, List.map_cons, joined_cons_cons] at hfuel ⊢
      rw [List.length_append, List.length_cons, List.length_append] at hfuel
      rw [List.append_assoc, List.cons_append, List.append_assoc]
      refine readItems_more (hitem fuel _ (by omega)) rfl ?_
      rw [skipBlanks_newLine, hbegins.skipBlanks_append]
      exact ih (by simp) hrest (by rw [List.map_cons]; omega)

theorem insertMember_of_not_mem {key : Text} {members : List (Text × Json)}
    (h : key ∉ members.map Prod.fst) (value : Json) :
    insertMember key value members = members ++ [(key, value)] := by
  induction members with
  | nil => rfl
  | cons member members ih =>
    rw [List.map_cons, List.mem_cons, not_or] at h
    rw [insertMember, if_neg (Ne.symm h.1), ih h.2, List.cons_append]

section

variable {before : List (Text × Json)} {t tail more tail' : Text} {key : Text} {value : Json}

theorem readMembers_last (hkey : readString (0x22 :: t) fuel t = .ok (key, tail))
    (htail : skipBlanks tail = 0x3A :: more)
    (hvalue : readValue fuel room (skipBlanks more) = .ok (value, tail'))
    (htail' : skipBlanks tail' = 0x7D :: rest) :
    readMembers (fuel + 1) room before (0x22 :: t) =
      .ok (insertMember key value before, rest) := by
  rw [readMembers, hkey]
  simp only [bind, Except.bind, htail, hvalue, htail']
  rfl

theorem readMembers_more {more' : Text} (hkey : readString (0x22 :: t) fuel t = .ok (key, tail))
    (htail : skipBlanks tail = 0x3A :: more)
    (hvalue : readValue fuel room (skipBlanks more) = .ok (value, tail'))
    (htail' : skipBlanks tail' = 0x2C :: more') :
    readMembers (fuel + 1) room before (0x22 :: t) =
      readMembers fuel room (insertMember key value before) (skipBlanks more') := by
  rw [readMembers, hkey]
  simp only [bind, Except.bind, htail, hvalue, htail']

end

theorem length_le_flatMap_writePoint (t : Text) : t.length ≤ (t.flatMap writePoint).length := by
  induction t with
  | nil => exact Nat.le_refl 0
  | cons c t ih =>
    have hpoint : 1 ≤ (writePoint c).length := by
      unfold writePoint
      split
      · simp
      · split_ifs <;> simp
    rw [List.flatMap_cons, List.length_append, List.length_cons]
    omega

theorem writeMember_append (level : Nat) (key : Text) (value : Json) (tail : Text) :
    writeMember level (key, value) ++ tail =
      0x22 :: (key.flatMap writePoint ++ 0x22 :: 0x3A :: 0x20 :: (writeAt level value ++ tail)) := by
  simp [writeMember, writeString]

theorem begins_writeMember (level : Nat) (member : Text × Json) :
    Begins (writeMember level member) :=
  ⟨0x22, _, (List.append_nil _).symm.trans (writeMember_append level member.1 member.2 []), by simp⟩

theorem length_writeMember (level : Nat) (key : Text) (value : Json) :
    key.length + (writeAt level value).length + 4 ≤ (writeMember level (key, value)).length := by
  have := length_le_flatMap_writePoint key
  simp only [writeMember, writeString, List.length_append, List.length_cons, List.length_nil]
  omega

theorem readMembers_joined {members before : List (Text × Json)} (hne : members ≠ [])
    (hkeys : ((before ++ members).map Prod.fst).Nodup)
    (hmembers : ∀ member ∈ members,
      Begins (writeAt level member.2) ∧ ReadsBack room level member.2)
    (hfuel : 2 * (joined level (members.map (writeMember level))).length < fuel) :
    readMembers fuel room before
      (joined level (members.map (writeMember level)) ++ (newLine outer ++ 0x7D :: rest)) =
        .ok (before ++ members, rest) := by
  induction members generalizing before fuel with
  | nil => exact absurd rfl hne
  | cons member members ih =>
    obtain ⟨fuel, rfl⟩ := Nat.exists_eq_succ_of_ne_zero (Nat.ne_of_gt (Nat.zero_lt_of_lt hfuel))
    obtain ⟨key, value⟩ := member
    obtain ⟨hbegins, hvalue⟩ : Begins (writeAt level value) ∧ ReadsBack room level value :=
      hmembers (key, value) List.mem_cons_self
    have hlength := length_writeMember level key value
    have hnew : key ∉ before.map Prod.fst := by
      rw [List.map_append, List.nodup_append] at hkeys
      intro hmem
      exact hkeys.2.2 key hmem key (by simp) rfl
    have hinsert := insertMember_of_not_mem hnew value
    -- behind the colon there is one blank
    have hcolon (tail : Text) : skipBlanks (0x20 :: (writeAt level value ++ tail)) =
        writeAt level value ++ tail := hbegins.skipBlanks_append
    cases members with
    | nil =>
      have hfuel' : 2 * (writeMember level (key, value)).length < fuel + 1 := hfuel
      show readMembers (fuel + 1) room before (writeMember level (key, value) ++ _) = _
      rw [writeMember_append, ← hinsert]
      refine readMembers_last (readString_flatMap (by omega)) rfl ?_
        (skipBlanks_closing outer (by decide) rest)
      rw [hcolon]
      exact hvalue fuel _ (by omega)
    | cons next members =>
      have hbegins' : Begins (joined level ((next :: members).map (writeMember level))) :=
        begins_joined (begins_writeMember level next) level _
      rw [List.map_cons, List.map_cons, joined_cons_cons, ← List.map_cons] at hfuel ⊢
      rw [List.length_append, List.length_cons, List.length_append] at hfuel
      rw [List.append_assoc, writeMember_append, List.cons_append, List.append_assoc]
      rw [readMembers_more (readString_flatMap (by omega)) rfl
        (by rw [hcolon]; exact hvalue fuel _ (by omega)) rfl, hinsert, skipBlanks_newLine,
        hbegins'.skipBlanks_append]
      rw [ih (by simp) (by simpa using hkeys)
        (fun other hother => hmembers other (List.mem_cons_of_mem _ hother)) (by omega)]
      rw [List.append_assoc, List.singleton_append]

theorem readValue_array {t : Text} {items : List Json} (hbegins : Begins (skipBlanks t))
    (hitems : readItems fuel room (skipBlanks t) = .ok (items, rest)) :
    readValue (fuel + 1) (room + 1) (0x5B :: t) = .ok (.array items, rest) := by
  rw [readValue, if_neg (Nat.succ_ne_zero room), Nat.add_sub_cancel]
  split
  next hclosing =>
    obtain ⟨c, tail, ht, hc⟩ := hbegins
    cases hclosing.symm.trans ht
    exact absurd hc (by decide)
  next =>
    rw [hitems]
    rfl

theorem readValue_object {t : Text} {members : List (Text × Json)} (hbegins : Begins (skipBlanks t))
    (hmembers : readMembers fuel room [] (skipBlanks t) = .ok (members, rest)) :
    readValue (fuel + 1) (room + 1) (0x7B :: t) = .ok (.object members, rest) := by
  rw [readValue, if_neg (Nat.succ_ne_zero room), Nat.add_sub_cancel]
  split
  next hclosing =>
    obtain ⟨c, tail, ht, hc⟩ := hbegins
    cases hclosing.symm.trans ht
    exact absurd hc (by decide)
  next =>
    rw [hmembers]
    rfl

theorem enclose_append {parts : List Text} (hne : parts ≠ []) (opening closing : CodePoint) :
    enclose level opening closing parts ++ rest =
      opening :: (newLine (level + 1) ++
        (joined (level + 1) parts ++ (newLine level ++ closing :: rest))) := by
  cases parts with
  | nil => exact absurd rfl hne
  | cons part parts => simp [enclose, joined]

theorem length_enclose (level : Nat) (parts : List Text) (opening closing : CodePoint) :
    (joined (level + 1) parts).length + 2 ≤ (enclose level opening closing parts).length := by
  cases parts with
  | nil => exact Nat.le_refl 2
  | cons part parts =>
    simp only [enclose, joined, List.length_append, List.length_cons, List.length_nil]
    omega

theorem readsBack_text (t : Text) : ReadsBack room level (.text t) := by
  intro fuel rest hfuel
  have hlength := length_le_flatMap_writePoint t
  have hwritten : [0x22] ++ t.flatMap writePoint ++ [0x22] ++ rest =
      0x22 :: (t.flatMap writePoint ++ 0x22 :: rest) := by simp
  rw [writeAt, writeString] at hfuel ⊢
  simp only [List.length_append, List.length_cons, List.length_nil] at hfuel
  obtain ⟨fuel, rfl⟩ : ∃ m, fuel = m + 1 := Nat.exists_eq_succ_of_ne_zero (by omega)
  rw [hwritten, readValue, readString_flatMap (by omega)]
  rfl

theorem readsBack_array {items : List Json}
    (hitems : ∀ item ∈ items, Begins (writeAt (level + 1) item) ∧ ReadsBack room (level + 1) item) :
    ReadsBack (room + 1) level (.array items) := by
  intro fuel rest hfuel
  rw [writeAt, writeItems_eq_map] at hfuel ⊢
  have hlength := length_enclose level (items.map (writeAt (level + 1))) 0x5B 0x5D
  obtain ⟨fuel, rfl⟩ : ∃ m, fuel = m + 1 := Nat.exists_eq_succ_of_ne_zero (by omega)
  cases items with
  | nil => rfl
  | cons item items =>
    have hbegins := begins_joined (hitems item List.mem_cons_self).1 (level + 1)
      (items.map (writeAt (level + 1)))
    rw [← List.map_cons] at hbegins
    rw [enclose_append (by simp)]
    refine readValue_array ?_ ?_ <;> rw [skipBlanks_newLine, hbegins.skipBlanks_append]
    · exact hbegins.append _
    · exact readItems_joined (by simp) hitems (by omega)

theorem readsBack_object {members : List (Text × Json)} (hkeys : (members.map Prod.fst).Nodup)
    (hmembers : ∀ member ∈ members,
      Begins (writeAt (level + 1) member.2) ∧ ReadsBack room (level + 1) member.2) :
    ReadsBack (room + 1) level (.object members) := by
  intro fuel rest hfuel
  rw [writeAt, writeMembers_eq_map] at hfuel ⊢
  have hlength := length_enclose level (members.map (writeMember (level + 1))) 0x7B 0x7D
  obtain ⟨fuel, rfl⟩ : ∃ m, fuel = m + 1 := Nat.exists_eq_succ_of_ne_zero (by omega)
  cases members with
  | nil => rfl
  | cons member members =>
    have hbegins := begins_joined (begins_writeMember (level + 1) member) (level + 1)
      (members.map (writeMember (level + 1)))
    rw [← List.map_cons] at hbegins
    rw [enclose_append (by simp)]
    refine readValue_object ?_ ?_ <;> rw [skipBlanks_newLine, hbegins.skipBlanks_append]
    · exact hbegins.append _
    · exact readMembers_joined (by simp) hkeys hmembers (by omega)

theorem readsBack_of_textual {v : Json} (h : Textual P room v) (level : Nat) :
    ReadsBack room level v := by
  induction h generalizing level with
  | text => exact readsBack_text _
  | array hitems ih =>
    exact readsBack_array fun item hitem =>
      ⟨begins_writeAt (hitems item hitem) (level + 1), ih item hitem (level + 1)⟩
  | object hkeys hnames hvalues ih =>
    exact readsBack_object hkeys fun member hmember =>
      ⟨begins_writeAt (hvalues member hmember) (level + 1), ih member hmember (level + 1)⟩

/-- What is written is read as the document it was written from, also with blanks behind it. -/
theorem read_write_append {v : Json} (h : Textual P room v) {blanks : Text}
    (hblanks : ∀ c ∈ blanks, isBlank c = true) : read room (write v ++ blanks) = .ok v := by
  have hbegins := begins_writeAt h 0
  have hmark : (writeAt 0 v ++ blanks).head? ≠ some 0xFEFF := by
    obtain ⟨c, tail, ht, hc⟩ := hbegins
    rw [ht, List.cons_append, List.head?_cons]
    rintro ⟨⟩
    exact absurd hc (by decide)
  have hvalue := readsBack_of_textual h 0 (2 * (writeAt 0 v ++ blanks).length + 2) blanks (by
    rw [List.length_append]
    omega)
  have hend : skipBlanks blanks = [] := List.dropWhile_eq_nil_iff.mpr hblanks
  rw [write, read, if_neg hmark, hbegins.skipBlanks_append]
  show (readValue _ _ _ >>= _) = _
  rw [hvalue]
  simp only [bind, Except.bind, hend]
  rfl

/-! ## What is written -/

section

variable {Q : CodePoint → Prop}

theorem forall_mem_join {sep : Text} {parts : List Text} (hsep : ∀ c ∈ sep, Q c)
    (hparts : ∀ part ∈ parts, ∀ c ∈ part, Q c) : ∀ c ∈ Text.join sep parts, Q c := by
  fun_induction Text.join sep parts with
  | case1 => simp
  | case2 t => exact hparts t List.mem_cons_self
  | case3 t ts hne ih =>
    simp only [List.mem_append]
    rintro c ((hc | hc) | hc)
    · exact hparts t List.mem_cons_self c hc
    · exact hsep c hc
    · exact ih (fun part hpart => hparts part (List.mem_cons_of_mem t hpart)) c hc

theorem forall_mem_newLine (hline : Q 0x0A) (hblank : Q 0x20) (level : Nat) :
    ∀ c ∈ newLine level, Q c := by
  simp only [newLine, List.mem_cons, List.mem_replicate]
  rintro c (rfl | ⟨-, rfl⟩)
  · exact hline
  · exact hblank

theorem digits_ofNatPadded :
    ∀ c < 0x20, ∀ digit ∈ Text.ofNatPadded 16 4 c, 0x20 ≤ digit ∧ digit < 0x7F := by
  decide

theorem escapeLetter?_bounds {c letter : CodePoint} (h : escapeLetter? c = some letter) :
    0x20 ≤ letter ∧ letter < 0x7F := by
  unfold escapeLetter? at h
  split at h <;> cases h <;> decide

theorem forall_mem_writePoint (hascii : ∀ c, 0x20 ≤ c → c < 0x7F → Q c) {c : Nat}
    (hc : 0x20 ≤ c → Q c) : ∀ d ∈ writePoint c, Q d := by
  unfold writePoint
  split
  next letter hletter =>
    obtain ⟨hlow, hhigh⟩ := escapeLetter?_bounds hletter
    simp only [List.mem_cons, List.not_mem_nil, or_false]
    rintro d (rfl | rfl)
    · exact hascii _ (by decide) (by decide)
    · exact hascii _ hlow hhigh
  next =>
    split_ifs with hcontrol
    · simp only [List.mem_append, List.mem_cons, List.not_mem_nil, or_false]
      rintro d ((rfl | rfl) | hd)
      · exact hascii _ (by decide) (by decide)
      · exact hascii _ (by decide) (by decide)
      · obtain ⟨hlow, hhigh⟩ := digits_ofNatPadded c hcontrol d hd
        exact hascii d hlow hhigh
    · intro d hd
      rw [List.mem_singleton.mp hd]
      exact hc (Nat.not_lt.mp hcontrol)

theorem forall_mem_writeString (hascii : ∀ c, 0x20 ≤ c → c < 0x7F → Q c) {t : Text}
    (ht : ∀ c ∈ t, 0x20 ≤ c → Q c) : ∀ c ∈ writeString t, Q c := by
  have hquote : Q 0x22 := hascii _ (by decide) (by decide)
  simp only [writeString, List.mem_append, List.mem_singleton, List.mem_flatMap]
  rintro d ((rfl | ⟨c, hc, hd⟩) | rfl)
  · exact hquote
  · exact forall_mem_writePoint hascii (ht c hc) d hd
  · exact hquote

theorem forall_mem_enclose (hline : Q 0x0A) (hascii : ∀ c, 0x20 ≤ c → c < 0x7F → Q c)
    {opening closing : CodePoint} (hopening : Q opening) (hclosing : Q closing) {parts : List Text}
    (hparts : ∀ part ∈ parts, ∀ c ∈ part, Q c) :
    ∀ c ∈ enclose level opening closing parts, Q c := by
  have hlines := forall_mem_newLine hline (hascii 0x20 (by decide) (by decide))
  cases parts with
  | nil => simp [enclose, hopening, hclosing]
  | cons part parts =>
    have hseparator : ∀ c ∈ 0x2C :: newLine (level + 1), Q c := by
      simpa using ⟨hascii 0x2C (by decide) (by decide), hlines (level + 1)⟩
    have hjoined := forall_mem_join hseparator hparts
    simp only [enclose, List.mem_append, List.mem_singleton]
    rintro c ((((rfl | hc) | hc) | hc) | rfl)
    · exact hopening
    · exact hlines _ c hc
    · exact hjoined c hc
    · exact hlines _ c hc
    · exact hclosing

/-- Outside the texts there are printable characters and line feeds only, and within them no
control characters are written. -/
theorem forall_mem_writeAt (hline : Q 0x0A) (hascii : ∀ c, 0x20 ≤ c → c < 0x7F → Q c) {v : Json}
    (h : Textual (fun t => ∀ c ∈ t, 0x20 ≤ c → Q c) room v) (level : Nat) :
    ∀ c ∈ writeAt level v, Q c := by
  induction h generalizing level with
  | text ht =>
    rw [writeAt]
    exact forall_mem_writeString hascii ht
  | array hitems ih =>
    rw [writeAt, writeItems_eq_map]
    refine forall_mem_enclose hline hascii (hascii _ (by decide) (by decide))
      (hascii _ (by decide) (by decide)) ?_
    simp only [List.mem_map]
    rintro part ⟨item, hitem, rfl⟩
    exact ih item hitem (level + 1)
  | object hkeys hnames hvalues ih =>
    rw [writeAt, writeMembers_eq_map]
    refine forall_mem_enclose hline hascii (hascii _ (by decide) (by decide))
      (hascii _ (by decide) (by decide)) ?_
    simp only [List.mem_map]
    rintro part ⟨member, hmember, rfl⟩ c hc
    simp only [writeMember, List.mem_append, List.mem_cons, List.not_mem_nil, or_false] at hc
    rcases hc with (hc | rfl | rfl) | hc
    · exact forall_mem_writeString hascii (hnames member hmember) c hc
    · exact hascii _ (by decide) (by decide)
    · exact hascii _ (by decide) (by decide)
    · exact ih member hmember (level + 1) c hc

end

end LiteralScrub.Json
