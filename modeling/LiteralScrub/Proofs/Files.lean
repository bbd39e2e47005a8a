import LiteralScrub.File.Change
import LiteralScrub.Proofs.Utf8
import Mathlib.Data.List.Infix
import Mathlib.Tactic.SplitIfs

/-!
# Paths from the root, and what is written at them

A path that was made absolute starts at the root and has no `..`, and making it absolute again
leaves it as it is. What is written at such a path is read there.
-/
namespace LiteralScrub

/-- A computation in two steps that does not fail does not fail in either. -/
theorem exists_of_bind_eq_ok {ε α β : Type} {x : Except ε α} {f : α → Except ε β} {b : β}
    (h : x >>= f = .ok b) : ∃ a, x = .ok a ∧ f a = .ok b := by
  cases x with
  | error e => cases h
  | ok a => exact ⟨a, rfl, h⟩

theorem eq_ok_of_mapError {ε δ α : Type} {x : Except ε α} {f : ε → δ} {a : α}
    (h : x.mapError f = .ok a) : x = .ok a := by
  cases x with
  | error e => cases h
  | ok b =>
    cases h
    rfl

theorem exists_of_mapError_eq_error {ε δ α : Type} {x : Except ε α} {f : ε → δ} {e : δ}
    (h : x.mapError f = .error e) : ∃ cause, x = .error cause ∧ e = f cause := by
  cases x with
  | error cause =>
    cases h
    exact ⟨cause, rfl, rfl⟩
  | ok a => cases h

/-! ## Texts of paths and their bytes -/

namespace Text

theorem join_cons_cons (separator part next : Text) (parts : List Text) :
    join separator (part :: next :: parts) =
      part ++ separator ++ join separator (next :: parts) := rfl

theorem join_isPrefix (separator : Text) (parts more : List Text) :
    join separator parts <+: join separator (parts ++ more) := by
  induction parts with
  | nil => exact List.nil_prefix
  | cons part parts ih =>
    cases hrest : parts ++ more with
    | nil =>
      obtain ⟨rfl, rfl⟩ := List.append_eq_nil_iff.mp hrest
      exact List.prefix_rfl
    | cons next rest =>
      rw [List.cons_append, hrest, join_cons_cons, ← hrest, List.append_assoc]
      cases parts with
      | nil => exact List.prefix_append _ _
      | cons second parts =>
        rw [join_cons_cons, List.append_assoc]
        exact (List.prefix_append_right_inj _).mpr ((List.prefix_append_right_inj _).mpr ih)

end Text

theorem Utf8.encodeEscaping?_append (t u : Text) :
    encodeEscaping? (t ++ u) =
      (encodeEscaping? t).bind fun front => (encodeEscaping? u).map (front ++ ·) := by
  induction t with
  | nil => simp [encodeEscaping?]
  | cons c t ih =>
    rw [List.cons_append, encodeEscaping?, encodeEscaping?, ih]
    split_ifs
    · cases encodeEscaping? t <;> cases encodeEscaping? u <;> simp
    · rfl
    · cases encodeEscaping? t <;> cases encodeEscaping? u <;> simp

/-! ## Paths that start at the root -/

namespace Path

variable {p q : Path} {name : Text} {t u : Text}

theorem IsRooted.isAbsolute (h : p.IsRooted) : p.isAbsolute = true := by
  simp [Path.isAbsolute, h.1]

theorem IsRooted.push (h : p.IsRooted) (hname : name ≠ up) : (p.push name).IsRooted := by
  refine ⟨h.1, ?_⟩
  rw [Path.push, List.mem_append, List.mem_singleton, not_or]
  exact ⟨h.2, hname.symm⟩

theorem IsRooted.above (h : p.IsRooted) : p.above.IsRooted := by
  unfold Path.above
  split
  next => rwa [if_pos h.isAbsolute]
  next name hlast =>
    have hname : name ≠ up := by
      rintro rfl
      exact h.2 (List.mem_of_getLast? hlast)
    rw [if_neg hname]
    exact ⟨h.1, fun hmem => h.2 (List.mem_of_mem_dropLast hmem)⟩

theorem isRooted_collapse (h : p.root = [0x2F]) : p.collapse.IsRooted := by
  have hwalk (names : List Text) (q : Path) (hq : q.IsRooted) :
      (names.foldl (fun q name => if name = up then q.above else q.push name) q).IsRooted := by
    induction names generalizing q with
    | nil => exact hq
    | cons name names ih =>
      rw [List.foldl_cons]
      split_ifs with hname
      · exact ih _ hq.above
      · exact ih _ (hq.push hname)
  exact hwalk p.names ⟨p.root, []⟩ ⟨h, List.not_mem_nil⟩

/-- Where nothing is to be taken back, nothing is. -/
theorem IsRooted.collapse_eq (h : p.IsRooted) : p.collapse = p := by
  have hwalk (names : List Text) (q : Path) (hnames : up ∉ names) :
      names.foldl (fun q name => if name = up then q.above else q.push name) q =
        ⟨q.root, q.names ++ names⟩ := by
    induction names generalizing q with
    | nil => simp
    | cons name names ih =>
      rw [List.mem_cons, not_or] at hnames
      rw [List.foldl_cons, if_neg (Ne.symm hnames.1), ih _ hnames.2]
      simp [Path.push]
  rw [collapse, hwalk p.names _ h.2, List.nil_append]

theorem root_above (p : Path) : p.above.root = p.root := by
  unfold above
  split <;> split_ifs <;> rfl

theorem root_of_descend (h : p.descend name = .ok q) : q.root = p.root := by
  unfold descend at h
  split_ifs at h
  · cases h
    exact root_above p
  · obtain ⟨-, -, hpush⟩ := exists_of_bind_eq_ok h
    cases hpush
    rfl

theorem root_of_foldlM_descend {names : List Text} (h : names.foldlM descend p = .ok q) :
    q.root = p.root := by
  induction names generalizing p with
  | nil =>
    cases h
    rfl
  | cons name names ih =>
    rw [List.foldlM_cons] at h
    obtain ⟨next, hnext, hrest⟩ := exists_of_bind_eq_ok h
    rw [ih hrest, root_of_descend hnext]

/-! ## Paths that the system can be asked about -/

theorem bytesOf_eq_ok_iff {bytes : Bytes} :
    bytesOf t = .ok bytes ↔ Utf8.encodeEscaping? t = some bytes ∧ 0 ∉ bytes := by
  unfold bytesOf
  cases Utf8.encodeEscaping? t with
  | none => simp
  | some found =>
    by_cases hzero : 0 ∈ found
    · simp only [if_pos hzero]
      constructor
      · intro h
        cases h
      · rintro ⟨⟨⟩, h⟩
        exact absurd hzero h
    · simp only [if_neg hzero]
      constructor
      · rintro ⟨⟩
        exact ⟨rfl, hzero⟩
      · rintro ⟨⟨⟩, -⟩
        rfl

/-- With a text its beginnings can be asked about. -/
theorem exists_bytesOf_of_isPrefix {bytes : Bytes} (hbeginning : t <+: u)
    (h : bytesOf u = .ok bytes) : ∃ front, bytesOf t = .ok front := by
  obtain ⟨tail, rfl⟩ := hbeginning
  rw [bytesOf_eq_ok_iff, Utf8.encodeEscaping?_append] at h
  obtain ⟨hbytes, hzero⟩ := h
  obtain ⟨front, hfront, hback⟩ := Option.bind_eq_some_iff.mp hbytes
  obtain ⟨back, -, rfl⟩ := Option.map_eq_some_iff.mp hback
  exact ⟨front, bytesOf_eq_ok_iff.mpr ⟨hfront, fun hmem => hzero (List.mem_append_left _ hmem)⟩⟩

/-- A walk from the root goes down name by name. -/
theorem foldlM_descend {names before : List Text} {bytes : Bytes} (hnames : up ∉ names)
    (h : bytesOf (⟨[0x2F], before ++ names⟩ : Path).toText = .ok bytes) :
    names.foldlM descend ⟨[0x2F], before⟩ = .ok ⟨[0x2F], before ++ names⟩ := by
  induction names generalizing before with
  | nil =>
    rw [List.append_nil]
    rfl
  | cons name names ih =>
    rw [List.mem_cons, not_or] at hnames
    rw [List.append_cons] at h ⊢
    have hbeginning : (⟨[0x2F], before ++ [name]⟩ : Path).toText <+:
        (⟨[0x2F], before ++ [name] ++ names⟩ : Path).toText :=
      (List.prefix_append_right_inj [0x2F]).mpr (Text.join_isPrefix _ _ _)
    obtain ⟨front, hfront⟩ := exists_bytesOf_of_isPrefix hbeginning h
    have hstep : descend ⟨[0x2F], before⟩ name = .ok ⟨[0x2F], before ++ [name]⟩ := by
      rw [descend, if_neg (Ne.symm hnames.1), Path.push, hfront]
      rfl
    rw [List.foldlM_cons, hstep]
    exact ih hnames.2 h

end Path

namespace Surroundings

variable {place : Surroundings} {p q : Path}

theorem isRooted_of_resolve (h : place.resolve p = .ok q) : q.IsRooted := by
  obtain ⟨walked, hwalked, hq⟩ := exists_of_bind_eq_ok h
  cases hq
  have hroot := Path.root_of_foldlM_descend hwalked
  refine Path.isRooted_collapse ?_
  unfold Path.under
  split_ifs with habsolute
  · split_ifs at hroot
    · exact hroot
    · simp [Path.isAbsolute, hroot] at habsolute
  · exact place.current_isRooted.1

/-- A path that was made absolute starts at the root and takes nothing back. -/
theorem isRooted_of_normalize {given : PathSource} (h : place.normalize given = .ok q) :
    q.IsRooted := by
  have habsolute {p : Path} (h : place.absolute p = .ok q) : q.IsRooted := by
    obtain ⟨expanded, -, hresolve⟩ := exists_of_bind_eq_ok h
    exact isRooted_of_resolve hresolve
  cases given with
  | path p => exact habsolute h
  | value given =>
    cases given with
    | text t =>
      rw [normalize] at h
      split_ifs at h
      exact habsolute h
    | _ => cases h

/-- It is not changed when it is made absolute again, wherever the program stands by then. -/
theorem normalize_of_isRooted {bytes : Bytes} (h : p.IsRooted)
    (hbytes : Path.bytesOf p.toText = .ok bytes) (place : Surroundings) :
    place.normalize (.path p) = .ok p := by
  have hcollapse := h.collapse_eq
  obtain ⟨root, names⟩ := p
  obtain ⟨rfl, hnames⟩ : root = [0x2F] ∧ Path.up ∉ names := h
  have hwalk : names.foldlM Path.descend ⟨[0x2F], []⟩ = .ok ⟨[0x2F], names⟩ :=
    Path.foldlM_descend hnames hbytes
  show (names.foldlM Path.descend ⟨[0x2F], []⟩ >>= fun walked =>
    Except.ok (place.current.under walked).collapse) = _
  rw [hwalk]
  exact congrArg Except.ok hcollapse

end Surroundings

/-! ## What stands at a place -/

namespace FileTree

variable {tree left : FileTree} {place here : Place} {entry : FileEntry} {path : Path}
  {bytes : Bytes} {shown : Text}

theorem lookup_putEntry (place other : Place) (entry : FileEntry)
    (entries : List (Place × FileEntry)) :
    (putEntry place entry entries).lookup other =
      if other = place then some entry else entries.lookup other := by
  have hself (e : FileEntry) (rest : List (Place × FileEntry)) :
      ((place, e) :: rest).lookup other = if other = place then some e else rest.lookup other := by
    by_cases hother : other = place
    · rw [hother, if_pos rfl, List.lookup_cons_self]
    · rw [if_neg hother, List.lookup_cons, beq_eq_false_iff_ne.mpr hother]
  induction entries with
  | nil => exact hself entry []
  | cons first rest ih =>
    obtain ⟨p, e⟩ := first
    rw [putEntry]
    by_cases hp : p = place
    · rw [if_pos hp, hp, hself, hself]
      split_ifs <;> rfl
    · rw [if_neg hp, List.lookup_cons, List.lookup_cons, ih]
      by_cases hother : other = place
      · rw [hother, if_pos rfl, if_pos rfl, beq_eq_false_iff_ne.mpr (Ne.symm hp)]
      · rw [if_neg hother, if_neg hother]

theorem entry?_put (hplace : place ≠ []) (other : Place) :
    FileTree.entry? (tree.put place entry) other =
      if other = place then some entry else tree.entry? other := by
  unfold entry?
  cases other with
  | nil => simp [Ne.symm hplace]
  | cons name other => exact lookup_putEntry place (name :: other) entry tree.entries

theorem step_eq_ok {next : Place} {name : Text} (hname : name ≠ Path.up)
    (h : tree.step shown here name = .ok next) : next = here ++ [name] := by
  unfold step at h
  split at h
  · cases h
  · cases h
  · rw [if_neg hname] at h
    split_ifs at h
    cases h
    rfl

theorem foldlM_step_eq_ok {names : List Text} (hnames : Path.up ∉ names)
    (h : names.foldlM (tree.step shown) here = .ok place) : place = here ++ names := by
  induction names generalizing here with
  | nil =>
    cases h
    rw [List.append_nil]
  | cons name names ih =>
    rw [List.mem_cons, not_or] at hnames
    rw [List.foldlM_cons] at h
    obtain ⟨next, hnext, hrest⟩ := exists_of_bind_eq_ok h
    rw [ih hnames.2 hrest, step_eq_ok (Ne.symm hnames.1) hnext, ← List.append_cons]

/-- What a walk leads to is no part of the way to it. -/
theorem foldlM_step_put (here : Place) {names : List Text} (hplace : here ++ names ≠ [])
    (hnames : Path.up ∉ names)
    (h : names.foldlM (tree.step shown) here = .ok (here ++ names)) :
    names.foldlM ((tree.put (here ++ names) entry).step shown) here = .ok (here ++ names) := by
  induction names generalizing here with
  | nil => exact h
  | cons name names ih =>
    have hfrom : (tree.put (here ++ name :: names) entry).step shown here name =
        tree.step shown here name := by
      -- the place that is put has more names than any on the way
      have hne : here ≠ here ++ name :: names := by simp
      rw [step, step, entry?_put hplace, if_neg hne]
    rw [List.mem_cons, not_or] at hnames
    rw [List.foldlM_cons] at h ⊢
    obtain ⟨next, hnext, hrest⟩ := exists_of_bind_eq_ok h
    rw [hfrom, hnext]
    obtain rfl := step_eq_ok (Ne.symm hnames.1) hnext
    rw [List.append_cons here name names] at hplace hrest ⊢
    exact ih _ hplace hnames.2 hrest

theorem placeOf_eq_ok_iff :
    tree.placeOf path = .ok place ↔
      ∃ bytes, Path.bytesOf path.toText = .ok bytes ∧ bytes.length ≤ maxPath ∧
        path.names.foldlM (tree.step path.toText) (if path.isAbsolute then [] else tree.current) =
          .ok place := by
  unfold placeOf
  dsimp only
  constructor
  · intro h
    obtain ⟨bytes, hbytes, hwalk⟩ := exists_of_bind_eq_ok h
    by_cases hlength : bytes.length > maxPath
    · rw [if_pos hlength] at hwalk
      cases hwalk
    · rw [if_neg hlength] at hwalk
      exact ⟨bytes, eq_ok_of_mapError hbytes, Nat.not_lt.mp hlength, hwalk⟩
  · rintro ⟨bytes, hbytes, hlength, hwalk⟩
    rw [hbytes]
    show (if bytes.length > maxPath then _ else _) = _
    rw [if_neg (Nat.not_lt.mpr hlength)]
    exact hwalk

/-- A path from the root leads to the place of its names. -/
theorem eq_names_of_placeOf (hpath : path.IsRooted) (h : tree.placeOf path = .ok place) :
    place = path.names := by
  rw [placeOf_eq_ok_iff, if_pos hpath.isAbsolute] at h
  obtain ⟨-, -, -, hwalk⟩ := h
  exact foldlM_step_eq_ok hpath.2 hwalk

/-- It does so also when something else is put there. -/
theorem placeOf_put (hpath : path.IsRooted) (hne : place ≠ []) (h : tree.placeOf path = .ok place) :
    (tree.put place entry).placeOf path = .ok place := by
  obtain rfl := eq_names_of_placeOf hpath h
  rw [placeOf_eq_ok_iff, if_pos hpath.isAbsolute] at h ⊢
  obtain ⟨bytes, hbytes, hlength, hwalk⟩ := h
  exact ⟨bytes, hbytes, hlength, foldlM_step_put [] hne hpath.2 hwalk⟩

/-- What is written is put as a file at the place of the path. -/
theorem exists_of_write (h : tree.write path bytes = .ok left) :
    ∃ place, tree.placeOf path = .ok place ∧ place ≠ [] ∧ left = tree.put place (.file bytes) := by
  obtain ⟨place, hplace, hput⟩ := exists_of_bind_eq_ok h
  have hne : place ≠ [] := by
    rintro rfl
    cases hput
  refine ⟨place, hplace, hne, ?_⟩
  revert hput
  dsimp only
  split <;> rintro ⟨⟩ <;> rfl

/-- What is written is read. -/
theorem read_of_write (hpath : path.IsRooted) (h : tree.write path bytes = .ok left) :
    left.read path = .ok bytes := by
  obtain ⟨place, hplace, hne, rfl⟩ := exists_of_write h
  rw [read, placeOf_put hpath hne hplace]
  simp only [bind, Except.bind, entry?_put hne, if_pos]
  rfl

/-- Where something was written, something else can be written. -/
theorem exists_write_of_write (hpath : path.IsRooted) (h : tree.write path bytes = .ok left)
    (bytes' : Bytes) : ∃ later, left.write path bytes' = .ok later := by
  obtain ⟨place, hplace, hne, rfl⟩ := exists_of_write h
  rw [write, update, placeOf_put hpath hne hplace]
  simp only [bind, Except.bind, entry?_put hne, if_pos]
  exact ⟨_, rfl⟩

theorem probe_of_read (h : tree.read path = .ok bytes) :
    tree.probe path = .ok (some (.file bytes)) := by
  obtain ⟨place, hplace, hentry⟩ := exists_of_bind_eq_ok h
  rw [probe, hplace]
  revert hentry
  dsimp only
  split <;> rintro ⟨⟩
  rename_i hentry
  rw [hentry]

end FileTree

end LiteralScrub
