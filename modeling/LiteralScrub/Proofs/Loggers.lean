import LiteralScrub.Proofs.LoggerNames

/-!
# Where loggers stand

The parent of a logger is the nearest known one of the names above its own, or the root. New loggers
come in between, and nothing else changes the order. So the handlers that hear a logger are those of
the loggers on its way up to the root.
-/
namespace LiteralScrub.Registry

open Logger

variable {r r' : Registry} {name other new parent above : Text} {l : Logger} {f : Logger → Logger}

/-! ## What is known -/

theorem find?_of_isRootName (h : isRootName name = true) : r.find? name = some r.root := if_pos h

theorem find?_rootName (r : Registry) : r.find? rootName = some r.root := rfl

theorem name_eq_of_find? (hname : isRootName name ≠ true) (h : r.find? name = some l) :
    l.name = name := by
  rw [find?, if_neg hname] at h
  simpa using List.find?_some h

theorem mem_others_of_find? (hname : isRootName name ≠ true) (h : r.find? name = some l) :
    l ∈ r.others := by
  rw [find?, if_neg hname] at h
  exact List.mem_of_find?_eq_some h

theorem logger_of_find? (h : r.find? name = some l) : r.logger name = l := by
  rw [logger, h, Option.getD_some]

/-- The names are names of one logger. -/
def SameName (name other : Text) : Prop :=
  name = other ∨ isRootName name = true ∧ isRootName other = true

instance (name other : Text) : Decidable (SameName name other) :=
  inferInstanceAs (Decidable (_ ∨ _))

theorem SameName.refl (name : Text) : SameName name name := .inl rfl

theorem sameName_iff_eq (h : isRootName name ≠ true) : SameName name other ↔ name = other :=
  or_iff_left fun ⟨hname, _⟩ => h hname

theorem SameName.find?_eq (h : SameName name other) : r.find? name = r.find? other := by
  rcases h with rfl | ⟨hname, hother⟩
  · rfl
  · rw [find?_of_isRootName hname, find?_of_isRootName hother]

/-- A change that keeps the name of a logger changes no other one. -/
theorem find?_update (hf : ∀ l, (f l).name = l.name) (r : Registry) (name other : Text) :
    (r.update name f).find? other =
      if SameName other name then (r.find? other).map f else r.find? other := by
  unfold update
  by_cases hother : isRootName other = true
  · rw [find?_of_isRootName hother, find?_of_isRootName hother]
    by_cases hroot : isRootName name = true
    · rw [if_pos hroot, if_pos (.inr ⟨hother, hroot⟩), Option.map_some]
    · have hne : ¬SameName other name := by
        rintro (rfl | ⟨-, hroot'⟩)
        · exact hroot hother
        · exact hroot hroot'
      rw [if_neg hroot, if_neg hne]
  · simp only [sameName_iff_eq hother]
    by_cases hroot : isRootName name = true
    · have hne : other ≠ name := fun heq => hother (heq ▸ hroot)
      rw [if_pos hroot, if_neg hne, find?, find?, if_neg hother, if_neg hother]
    · have hname (l : Logger) : (if l.name = name then f l else l).name = l.name := by
        split_ifs
        · exact hf l
        · rfl
      simp only [if_neg hroot, find?, if_neg hother, List.find?_map, Function.comp_def, hname]
      cases hfind : r.others.find? (·.name = other) with
      | none => simp
      | some l =>
        have hl : l.name = other := by simpa using List.find?_some hfind
        split_ifs with heq <;> simp [hl, heq]

/-! ## Parents -/

/-- The parent is the root or one of the names above, and no known one of those is nearer. -/
structure Placed (r : Registry) (name parent : Text) : Prop where
  above : parent = rootName ∨ parent ∈ superiors name
  known : (r.find? parent).isSome = true
  nearest : ∀ above ∈ superiors name, (r.find? above).isSome = true → above <+: parent

theorem placed_parentFor (r : Registry) (name : Text) : r.Placed name (r.parentFor name) := by
  unfold parentFor
  cases hfind : (superiors name).find? fun above => (r.find? above).isSome with
  | none =>
    refine ⟨.inl rfl, rfl, fun above habove hknown => ?_⟩
    exact absurd hknown (List.find?_eq_none.mp hfind above habove)
  | some parent =>
    obtain ⟨hknown, before, after, hsplit, hbefore⟩ := List.find?_eq_some_iff_append.mp hfind
    refine ⟨.inr (List.mem_of_find?_eq_some hfind), hknown, fun above habove habove' => ?_⟩
    have hpairwise := superiors_pairwise name
    rw [hsplit] at habove hpairwise
    rcases List.mem_append.mp habove with hmem | hmem
    · exact absurd habove' (by simpa using hbefore above hmem)
    · rcases List.mem_cons.mp hmem with rfl | hmem
      · exact List.prefix_rfl
      · exact (List.pairwise_cons.mp (List.pairwise_append.mp hpairwise).2.1).1 above hmem

theorem parentFor_mem_superiors (habove : above ∈ superiors name)
    (hknown : (r.find? above).isSome = true) : r.parentFor name ∈ superiors name := by
  unfold parentFor
  cases hfind : (superiors name).find? fun above => (r.find? above).isSome with
  | none => exact absurd hknown (List.find?_eq_none.mp hfind above habove)
  | some parent => exact List.mem_of_find?_eq_some hfind

theorem register_of_known (h : (r.find? new).isSome = true) : r.register new = r := if_pos h

theorem resettle_name (new : Text) (l : Logger) : (resettle new l).name = l.name := by
  unfold resettle
  split
  · rfl
  · split <;> rfl

theorem resettle_handlers (new : Text) (l : Logger) : (resettle new l).handlers = l.handlers := by
  unfold resettle
  split
  · rfl
  · split <;> rfl

theorem resettle_propagates (new : Text) (l : Logger) :
    (resettle new l).propagates = l.propagates := by
  unfold resettle
  split
  · rfl
  · split <;> rfl

theorem resettle_of_parent (h : l.parent = some parent) :
    (resettle new l).parent =
      some (if new ∈ superiors l.name ∧ ¬new <+: parent then new else parent) := by
  unfold resettle
  rw [h]
  simp only [Text.startsWith, Bool.and_eq_true, List.contains_iff_mem, Bool.not_eq_eq_eq_not,
    Bool.not_true, ← Bool.not_eq_true, List.isPrefixOf_iff_prefix]
  split_ifs <;> simp [h]

/-- A new logger has no handlers, and of the others at most the parents change. -/
theorem find?_register (hroot : r.root.parent = none) (h : r.find? new = none) (other : Text) :
    (r.register new).find? other =
      if other = new then some { name := new, parent := some (r.parentFor new) }
      else (r.find? other).map (resettle new) := by
  have hnew : isRootName new ≠ true := fun hnew => by
    rw [find?_of_isRootName hnew] at h
    cases h
  have hregister : r.register new =
      { r with others := r.others.map (resettle new) ++
        [{ name := new, parent := some (r.parentFor new) }] } := by
    rw [register, if_neg (by simp [h])]
  rw [find?, if_neg hnew] at h
  rw [hregister]
  by_cases hother : isRootName other = true
  · have hne : other ≠ new := fun heq => hnew (heq ▸ hother)
    rw [if_neg hne, find?_of_isRootName hother, find?_of_isRootName hother, Option.map_some]
    simp only [resettle, hroot]
  · simp only [find?, if_neg hother, List.find?_append, List.find?_map, Function.comp_def,
      resettle_name]
    split_ifs with heq
    · subst heq
      simp [h]
    · simp [Ne.symm heq]

/-- A logger has the handlers that it had before another one, or itself, was made known. -/
theorem handlers_of_find?_register (hroot : r.root.parent = none)
    (hl : (r.register new).find? name = some l) :
    l.handlers = [] ∨ ∃ old, r.find? name = some old ∧ l.handlers = old.handlers := by
  cases hnew : r.find? new with
  | some known =>
    rw [register_of_known (by simp [hnew])] at hl
    exact .inr ⟨l, hl, rfl⟩
  | none =>
    rw [find?_register hroot hnew] at hl
    split_ifs at hl
    · cases hl
      exact .inl rfl
    · obtain ⟨old, hold, rfl⟩ := Option.map_eq_some_iff.mp hl
      exact .inr ⟨old, hold, resettle_handlers new old⟩

/-! ## Order -/

/-- Every logger hands its entries up, and to the right parent; the root has none. -/
structure Settled (r : Registry) : Prop where
  root : r.root.parent = none
  propagates : ∀ name l, r.find? name = some l → l.propagates = true
  placed : ∀ name l, isRootName name ≠ true → r.find? name = some l →
    ∃ parent, l.parent = some parent ∧ r.Placed name parent

/-- The change leaves a logger where it is. -/
structure KeepsPlace (f : Logger → Logger) : Prop where
  name : ∀ l, (f l).name = l.name
  parent : ∀ l, (f l).parent = l.parent
  propagates : ∀ l, (f l).propagates = l.propagates

theorem KeepsPlace.isSome_find?_update (hf : KeepsPlace f) (r : Registry) (name other : Text) :
    ((r.update name f).find? other).isSome = (r.find? other).isSome := by
  rw [find?_update hf.name]
  split_ifs <;> simp

/-- A logger after a change of some logger: it is changed or it is the same. -/
theorem KeepsPlace.exists_of_find?_update (hf : KeepsPlace f)
    (h : (r.update name f).find? other = some l) :
    ∃ old, r.find? other = some old ∧ l.parent = old.parent ∧ l.propagates = old.propagates := by
  rw [find?_update hf.name] at h
  split_ifs at h
  · obtain ⟨old, hold, rfl⟩ := Option.map_eq_some_iff.mp h
    exact ⟨old, hold, hf.parent old, hf.propagates old⟩
  · exact ⟨l, h, rfl, rfl⟩

theorem Settled.update (h : r.Settled) (hf : KeepsPlace f) (name : Text) :
    (r.update name f).Settled where
  root := by
    obtain ⟨old, hold, hparent, -⟩ := hf.exists_of_find?_update (find?_rootName (r.update name f))
    obtain rfl : r.root = old := Option.some.inj hold
    rw [hparent, h.root]
  propagates other l hl := by
    obtain ⟨old, hold, -, hpropagates⟩ := hf.exists_of_find?_update hl
    rw [hpropagates, h.propagates other old hold]
  placed other l hother hl := by
    obtain ⟨old, hold, hparent, -⟩ := hf.exists_of_find?_update hl
    obtain ⟨parent, hold', hplaced⟩ := h.placed other old hother hold
    refine ⟨parent, hparent.trans hold', hplaced.above, ?_, fun above habove hknown => ?_⟩
    · rw [hf.isSome_find?_update]
      exact hplaced.known
    · rw [hf.isSome_find?_update] at hknown
      exact hplaced.nearest above habove hknown

theorem isSome_find?_register (hroot : r.root.parent = none) (h : r.find? new = none)
    (other : Text) :
    ((r.register new).find? other).isSome = true ↔ other = new ∨ (r.find? other).isSome = true := by
  rw [find?_register hroot h]
  split_ifs with heq <;> simp [heq]

/-- A new logger comes between a logger and its parent if it is nearer. -/
theorem Placed.register (h : r.Placed name parent) (hroot : r.root.parent = none)
    (hnew : r.find? new = none) :
    (r.register new).Placed name
      (if new ∈ superiors name ∧ ¬new <+: parent then new else parent) := by
  have hknown := isSome_find?_register hroot hnew
  split_ifs with hbetween
  · obtain ⟨hmem, hfar⟩ := hbetween
    refine ⟨.inr hmem, (hknown new).mpr (.inl rfl), fun above habove habove' => ?_⟩
    rcases (hknown above).mp habove' with rfl | habove'
    · exact List.prefix_rfl
    · -- both are beginnings of the name, and only the other one is a beginning of the parent
      have hparent := h.nearest above habove habove'
      rcases List.prefix_or_prefix_of_prefix (isPrefix_of_mem_superiors habove)
        (isPrefix_of_mem_superiors hmem) with hle | hle
      · exact hle
      · exact absurd (hle.trans hparent) hfar
  · refine ⟨h.above, (hknown parent).mpr (.inr h.known), fun above habove habove' => ?_⟩
    rcases (hknown above).mp habove' with rfl | habove'
    · exact not_not.mp fun hfar => hbetween ⟨habove, hfar⟩
    · exact h.nearest above habove habove'

theorem register_root (r : Registry) (new : Text) : (r.register new).root = r.root := by
  unfold register
  split_ifs <;> rfl

theorem Settled.register (h : r.Settled) (new : Text) : (r.register new).Settled := by
  cases hnew : r.find? new with
  | some l => rwa [register_of_known (by simp [hnew])]
  | none =>
    have hfind := find?_register h.root hnew
    refine ⟨by rw [register_root, h.root], fun other l hl => ?_, fun other l hother hl => ?_⟩
    · rw [hfind] at hl
      split_ifs at hl
      · cases hl
        rfl
      · obtain ⟨old, hold, rfl⟩ := Option.map_eq_some_iff.mp hl
        rw [resettle_propagates, h.propagates other old hold]
    · rw [hfind] at hl
      split_ifs at hl with heq
      · cases hl
        have hplaced := (placed_parentFor r new).register h.root hnew
        rw [if_neg fun hself => (length_lt_of_mem_superiors hself.1).false] at hplaced
        exact ⟨_, rfl, heq ▸ hplaced⟩
      · obtain ⟨old, hold, rfl⟩ := Option.map_eq_some_iff.mp hl
        obtain ⟨parent, hparent, hplaced⟩ := h.placed other old hother hold
        refine ⟨_, resettle_of_parent hparent, ?_⟩
        rw [name_eq_of_find? hother hold]
        exact hplaced.register h.root hnew

/-! ## Who hears a logger -/

/-- There is a handler on the way from the logger up to the root. -/
inductive Heard (r : Registry) : Text → Prop where
  | own {name : Text} {l : Logger} (hl : r.find? name = some l) (h : l.handlers ≠ []) :
      Heard r name
  | above {name parent : Text} {l : Logger} (hl : r.find? name = some l)
      (hparent : l.parent = some parent) (h : Heard r parent) : Heard r name

theorem Settled.placed_of_parent (h : r.Settled) (hl : r.find? name = some l)
    (hparent : l.parent = some parent) : isRootName name ≠ true ∧ r.Placed name parent := by
  have hname : isRootName name ≠ true := by
    intro hname
    rw [find?_of_isRootName hname, Option.some.injEq] at hl
    cases (hl ▸ hparent).symm.trans h.root
  obtain ⟨parent', hparent', hplaced⟩ := h.placed name l hname hl
  obtain rfl : parent' = parent := Option.some.inj (hparent'.symm.trans hparent)
  exact ⟨hname, hplaced⟩

theorem Settled.find?_parent (h : r.Settled) (hl : r.find? name = some l)
    (hparent : l.parent = some parent) : r.find? parent = some (r.logger parent) := by
  obtain ⟨top, htop⟩ := Option.isSome_iff_exists.mp (h.placed_of_parent hl hparent).2.known
  rw [logger_of_find? htop, htop]

theorem ascend_eq_cons (r : Registry) (bound : Nat) (l : Logger) :
    ascend r bound l = l :: (ascend r bound l).tail := by
  cases bound with
  | zero => rfl
  | succ bound =>
    rw [ascend]
    cases l.parent <;> rfl

theorem mem_ascend_self (r : Registry) (bound : Nat) (l : Logger) : l ∈ ascend r bound l := by
  rw [ascend_eq_cons]
  exact List.mem_cons_self

/-- One step up. -/
theorem ascend_of_parent (bound : Nat) (h : l.parent = some parent) :
    ascend r (bound + 1) l = l :: ascend r bound (r.logger parent) := by
  rw [ascend, h]

theorem Settled.propagates_of_mem_ascend (h : r.Settled) {bound : Nat} {top : Logger}
    (hl : r.find? name = some l) (htop : top ∈ ascend r bound l) : top.propagates = true := by
  induction bound generalizing name l with
  | zero =>
    obtain rfl := List.mem_singleton.mp htop
    exact h.propagates name top hl
  | succ bound ih =>
    cases hparent : l.parent with
    | none =>
      rw [ascend, hparent] at htop
      obtain rfl := List.mem_singleton.mp htop
      exact h.propagates name top hl
    | some parent =>
      rw [ascend_of_parent bound hparent] at htop
      rcases List.mem_cons.mp htop with rfl | htop
      · exact h.propagates name top hl
      · exact ih (h.find?_parent hl hparent) htop

theorem untilSilent_of_propagates {ls : List Logger} (h : ∀ l ∈ ls, l.propagates = true) :
    untilSilent ls = ls := by
  induction ls with
  | nil => rfl
  | cons l rest ih =>
    rw [untilSilent, if_pos (h l List.mem_cons_self),
      ih fun l' hl' => h l' (List.mem_cons_of_mem l hl')]

/-- The entries of a logger come to all handlers on the way up. -/
theorem Settled.handlersFor_eq (h : r.Settled) (hl : r.find? name = some l) :
    r.handlersFor name = (r.lineage name).flatMap Logger.handlers := by
  have hpropagates : ∀ top ∈ r.lineage name, top.propagates = true := by
    intro top htop
    rw [lineage, logger_of_find? hl] at htop
    exact h.propagates_of_mem_ascend hl htop
  rw [handlersFor, untilSilent_of_propagates hpropagates]

theorem Settled.heard_of_mem_ascend (h : r.Settled) {bound : Nat} {top : Logger}
    (hl : r.find? name = some l) (htop : top ∈ ascend r bound l) (hhandlers : top.handlers ≠ []) :
    r.Heard name := by
  induction bound generalizing name l with
  | zero =>
    obtain rfl := List.mem_singleton.mp htop
    exact .own hl hhandlers
  | succ bound ih =>
    cases hparent : l.parent with
    | none =>
      rw [ascend, hparent] at htop
      obtain rfl := List.mem_singleton.mp htop
      exact .own hl hhandlers
    | some parent =>
      rw [ascend_of_parent bound hparent] at htop
      rcases List.mem_cons.mp htop with rfl | htop
      · exact .own hl hhandlers
      · exact .above hl hparent (ih (h.find?_parent hl hparent) htop)

/-- How many loggers have a shorter name, which is as many as there can be on the way up. -/
def countShorter (r : Registry) (name : Text) : Nat :=
  (r.others.filter fun l => l.name.length < name.length).length

theorem countShorter_lt (hparent : isRootName parent ≠ true) (hl : r.find? parent = some l)
    (hlt : parent.length < name.length) : r.countShorter parent < r.countShorter name := by
  have hfilter : r.others.filter (fun l => l.name.length < parent.length) =
      (r.others.filter fun l => l.name.length < name.length).filter
        fun l => l.name.length < parent.length := by
    rw [List.filter_filter]
    refine List.filter_congr fun l _ => ?_
    rw [Bool.eq_iff_iff]
    simp only [Bool.and_eq_true, decide_eq_true_eq]
    omega
  unfold countShorter
  rw [hfilter, List.length_filter_lt_length_iff_exists]
  have hname := name_eq_of_find? hparent hl
  refine ⟨l, List.mem_filter.mpr ⟨mem_others_of_find? hparent hl, ?_⟩, ?_⟩
  · simpa [hname] using hlt
  · simp [hname]

/-- The way up is gone to its end. -/
theorem Heard.exists_mem_ascend (hheard : r.Heard name) (h : r.Settled) :
    ∀ (l : Logger) (bound : Nat), r.find? name = some l →
      (isRootName name = true ∨ r.countShorter name < bound) →
        ∃ top ∈ ascend r bound l, top.handlers ≠ [] := by
  induction hheard with
  | own hl' hhandlers =>
    intro l bound hl _
    obtain rfl := Option.some.inj (hl.symm.trans hl')
    exact ⟨l, mem_ascend_self r bound l, hhandlers⟩
  | @above name parent _ hl' hparent _ ih =>
    intro l bound hl hbound
    obtain rfl := Option.some.inj (hl.symm.trans hl')
    obtain ⟨hname, hplaced⟩ := h.placed_of_parent hl hparent
    have hcount : r.countShorter name < bound := hbound.resolve_left hname
    obtain ⟨bound, rfl⟩ : ∃ b, bound = b + 1 := ⟨bound - 1, by omega⟩
    have htop := h.find?_parent hl hparent
    have hless : isRootName parent = true ∨ r.countShorter parent < bound := by
      by_cases hroot : isRootName parent = true
      · exact .inl hroot
      · have hmem := hplaced.above.resolve_left fun heq => hroot (heq ▸ rfl)
        have := countShorter_lt hroot htop (length_lt_of_mem_superiors hmem)
        exact .inr (by omega)
    obtain ⟨top, hmem, hhandlers⟩ := ih (r.logger parent) bound htop hless
    rw [ascend_of_parent bound hparent]
    exact ⟨top, List.mem_cons_of_mem l hmem, hhandlers⟩

theorem Settled.hasHandlers_iff (h : r.Settled) (hl : r.find? name = some l) :
    r.hasHandlers name = true ↔ r.Heard name := by
  have hhandlers : r.hasHandlers name = true ↔
      ∃ top ∈ ascend r (r.others.length + 1) l, top.handlers ≠ [] := by
    rw [hasHandlers, h.handlersFor_eq hl, lineage, logger_of_find? hl]
    simp
  rw [hhandlers]
  constructor
  · rintro ⟨top, htop, hne⟩
    exact h.heard_of_mem_ascend hl htop hne
  · intro hheard
    refine hheard.exists_mem_ascend h l _ hl (.inr ?_)
    exact Nat.lt_succ_of_le (List.length_filter_le _ _)

/-! ## What goes on being heard -/

/-- Where the root has a handler, every logger is heard. -/
theorem Settled.heard_of_root (h : r.Settled) (hroot : r.root.handlers ≠ [])
    (hl : r.find? name = some l) : r.Heard name := by
  induction hlength : name.length using Nat.strong_induction_on generalizing name l with
  | _ length ih =>
    by_cases hname : isRootName name = true
    · exact .own (find?_of_isRootName hname) hroot
    · obtain ⟨parent, hparent, hplaced⟩ := h.placed name l hname hl
      refine .above hl hparent ?_
      rcases hplaced.above with rfl | hmem
      · exact .own (find?_rootName r) hroot
      · exact ih parent.length (hlength ▸ length_lt_of_mem_superiors hmem)
          (h.find?_parent hl hparent) rfl

/-- All loggers are still there with handlers where they had some. Each has the parent that it had
or one of the new ones. -/
def Continues (r r' : Registry) (news : Set Text) : Prop :=
  ∀ name l, r.find? name = some l → ∃ l', r'.find? name = some l' ∧
    (l.handlers ≠ [] → l'.handlers ≠ []) ∧
    (l'.parent = l.parent ∨ ∃ new ∈ news, new ∈ superiors name ∧ l'.parent = some new)

theorem Continues.trans {r'' : Registry} {news more : Set Text} (h : Continues r r' news)
    (h' : Continues r' r'' more) : Continues r r'' (news ∪ more) := by
  intro name l hl
  obtain ⟨l', hl', hhandlers, hparent⟩ := h name l hl
  obtain ⟨l'', hl'', hhandlers', hparent'⟩ := h' name l' hl'
  refine ⟨l'', hl'', fun hne => hhandlers' (hhandlers hne), ?_⟩
  rcases hparent' with heq | ⟨new, hnew, hmem, heq⟩
  · rcases hparent with hsame | ⟨new, hnew, hmem, hsame⟩
    · exact .inl (heq.trans hsame)
    · exact .inr ⟨new, .inl hnew, hmem, heq.trans hsame⟩
  · exact .inr ⟨new, .inr hnew, hmem, heq⟩

theorem Settled.continues_register (h : r.Settled) (new : Text) :
    Continues r (r.register new) {new} := by
  intro name l hl
  cases hnew : r.find? new with
  | some known =>
    rw [register_of_known (by simp [hnew])]
    exact ⟨l, hl, id, .inl rfl⟩
  | none =>
    have hne : name ≠ new := by
      rintro rfl
      cases hl.symm.trans hnew
    refine ⟨resettle new l, ?_, fun hhandlers => ?_, ?_⟩
    · rw [find?_register h.root hnew, if_neg hne, hl, Option.map_some]
    · rwa [resettle_handlers]
    · cases hparent : l.parent with
      | none => exact .inl (by simp only [resettle, hparent])
      | some parent =>
        rw [resettle_of_parent hparent]
        split_ifs with hbetween
        · have hname := (h.placed_of_parent hl hparent).1
          exact .inr ⟨new, rfl, name_eq_of_find? hname hl ▸ hbetween.1, rfl⟩
        · exact .inl rfl

theorem KeepsPlace.continues_update (hf : KeepsPlace f)
    (hhandlers : ∀ l : Logger, l.handlers ≠ [] → (f l).handlers ≠ []) (r : Registry) (name : Text) :
    Continues r (r.update name f) ∅ := by
  intro other l hl
  rw [find?_update hf.name, hl, Option.map_some]
  split_ifs
  · exact ⟨f l, rfl, hhandlers l, .inl (hf.parent l)⟩
  · exact ⟨l, rfl, id, .inl rfl⟩

/-- What was heard is heard again if the new loggers are. This may be asked only of some loggers, if
with each of them they include all those above it. -/
theorem Heard.of_continues {news : Set Text} {P : Text → Prop} (hheard : r.Heard name)
    (h : r.Settled) (hcontinues : Continues r r' news) (hroot : P rootName)
    (habove : ∀ name above, P name → above ∈ superiors name → P above)
    (hnews : ∀ new ∈ news, P new → r'.Heard new) (hname : P name) : r'.Heard name := by
  induction hheard with
  | own hl hhandlers =>
    obtain ⟨l', hl', hhandlers', -⟩ := hcontinues _ _ hl
    exact .own hl' (hhandlers' hhandlers)
  | @above name parent _ hl hparent _ ih =>
    obtain ⟨l', hl', -, hparent'⟩ := hcontinues _ _ hl
    rcases hparent' with heq | ⟨new, hnew, hmem, heq⟩
    · refine .above hl' (heq.trans hparent) (ih ?_)
      rcases (h.placed_of_parent hl hparent).2.above with rfl | hmem
      · exact hroot
      · exact habove name parent hname hmem
    · exact .above hl' heq (hnews new hnew (habove name new hname hmem))

theorem Heard.of_continues_of_heard {news : Set Text} (hheard : r.Heard name) (h : r.Settled)
    (hcontinues : Continues r r' news) (hnews : ∀ new ∈ news, r'.Heard new) : r'.Heard name :=
  hheard.of_continues (P := fun _ => True) h hcontinues trivial (fun _ _ _ _ => trivial)
    (fun new hnew _ => hnews new hnew) trivial

theorem Settled.handlers_of_heard_rootName (h : r.Settled) (hheard : r.Heard rootName) :
    r.root.handlers ≠ [] := by
  cases hheard with
  | own hl hhandlers => exact Option.some.inj hl ▸ hhandlers
  | above hl hparent _ => cases hparent.symm.trans (Option.some.inj hl ▸ h.root)

/-- Between a logger and its parent comes only what has the same parent, if no two dots stand side
by side. -/
theorem Placed.parentFor_eq (h : r.Placed name parent) (hname : SingleDots name)
    (hparent : parent ∈ superiors name) (hnew : new ∈ superiors name) (hfar : ¬new <+: parent) :
    r.parentFor new = parent := by
  obtain ⟨before, hsplit⟩ := superiors_split hname hnew
  have hmem : parent ∈ superiors new := by
    have hpairwise := superiors_pairwise name
    rw [hsplit] at hparent hpairwise
    rcases List.mem_append.mp hparent with hbefore | hmem
    · exact absurd ((List.pairwise_append.mp hpairwise).2.2 parent hbefore new List.mem_cons_self)
        hfar
    · rcases List.mem_cons.mp hmem with rfl | hmem
      · exact absurd List.prefix_rfl hfar
      · exact hmem
  have hnear := (placed_parentFor r new).nearest parent hmem h.known
  have habove : r.parentFor new ∈ superiors name := by
    rw [hsplit]
    exact List.mem_append_right _ (List.mem_cons_of_mem _ (parentFor_mem_superiors hmem h.known))
  have hback := h.nearest _ habove (placed_parentFor r new).known
  exact hback.eq_of_length_le hnear.length_le

/-- A logger whose name has no two dots side by side stays heard, whatever becomes known. -/
theorem Heard.register_of_singleDots (hheard : r.Heard name) (h : r.Settled) (new : Text)
    (hname : SingleDots name) : (r.register new).Heard name := by
  cases hnew : r.find? new with
  | some l => rwa [register_of_known (by simp [hnew])]
  | none =>
    have hfind := find?_register h.root hnew
    have hfresh : (r.register new).find? new =
        some { name := new, parent := some (r.parentFor new) } := by
      rw [hfind, if_pos rfl]
    induction hheard with
    | own hl hhandlers =>
      obtain ⟨l', hl', hhandlers', -⟩ := h.continues_register new _ _ hl
      exact .own hl' (hhandlers' hhandlers)
    | @above name parent l hl hparent hup ih =>
      obtain ⟨hroot, hplaced⟩ := h.placed_of_parent hl hparent
      have hne : name ≠ new := by
        rintro rfl
        cases hl.symm.trans hnew
      have hl' : (r.register new).find? name = some (resettle new l) := by
        rw [hfind, if_neg hne, hl, Option.map_some]
      rcases hplaced.above with rfl | hmem
      · have hhandlers := h.handlers_of_heard_rootName hup
        exact (h.register new).heard_of_root (register_root r new ▸ hhandlers) hl'
      · have hheard := ih (hname.of_isPrefix (isPrefix_of_mem_superiors hmem))
        refine .above hl' (resettle_of_parent hparent) ?_
        rw [name_eq_of_find? hroot hl]
        split_ifs with hbetween
        · have hfreshParent := hplaced.parentFor_eq hname hmem hbetween.1 hbetween.2
          exact .above hfresh (congrArg some hfreshParent)
            hheard
        · exact hheard

end LiteralScrub.Registry
