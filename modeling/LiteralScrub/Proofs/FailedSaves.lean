import Mathlib
import LiteralScrub.Proofs.ConfigFiles

/-!
# What a failed save leaves behind

A save makes directories, empties the file and writes into it. Where it fails before the file is
emptied, all files are as they were. The text is made into bytes only after that, so a text that
cannot be written costs what the file held.
-/
namespace LiteralScrub

namespace FileTree

variable {tree mid left : FileTree} {place : Place} {path : Path} {bytes : Bytes}

/-- What the file at a place holds, if there is a file. -/
def bytesAt? (tree : FileTree) (place : Place) : Option Bytes :=
  match tree.entry? place with
  | some (.file bytes) => some bytes
  | _ => none

/-- The files are the same; there may be more directories. -/
def SameFiles (tree left : FileTree) : Prop := ∀ place, left.bytesAt? place = tree.bytesAt? place

theorem SameFiles.refl (tree : FileTree) : SameFiles tree tree := fun _ => rfl

theorem SameFiles.trans (h : SameFiles tree mid) (h' : SameFiles mid left) : SameFiles tree left :=
  fun place => (h' place).trans (h place)

theorem sameFiles_of_makeDirectory (h : tree.makeDirectory path = .ok left) :
    SameFiles tree left := by
  obtain ⟨place, -, hput⟩ := exists_of_bind_eq_ok h
  revert hput
  split
  · rintro ⟨⟩
  · next hnone =>
    rintro ⟨⟩
    have hne : place ≠ [] := by
      rintro rfl
      cases hnone
    intro other
    unfold bytesAt?
    rw [entry?_put hne]
    by_cases hother : other = place
    · rw [if_pos hother, hother, hnone]
    · rw [if_neg hother]

/-- Writing puts a file at the place of the path and changes no other one. -/
theorem bytesAt?_of_write (hpath : path.IsRooted) (h : tree.write path bytes = .ok left)
    (place : Place) :
    left.bytesAt? place = if place = path.names then some bytes else tree.bytesAt? place := by
  obtain ⟨_, hplace, hne, rfl⟩ := exists_of_write h
  obtain rfl := eq_names_of_placeOf hpath hplace
  unfold bytesAt?
  rw [entry?_put hne]
  split_ifs <;> rfl

end FileTree

namespace Filing

open FileTree

variable {α β : Type}

/-- The tree that a computation leaves, whether it fails or not. -/
def left (x : Filing α) (tree : FileTree) : FileTree := (Id.run (x.run.run tree)).2

/-- The computation leaves all files as they are. -/
def Keeps (x : Filing α) : Prop := ∀ tree, SameFiles tree (left x tree)

theorem Keeps.get : Keeps get := SameFiles.refl

theorem Keeps.bind {x : Filing α} {f : α → Filing β} (hx : Keeps x) (hf : ∀ a, Keeps (f a)) :
    Keeps (x >>= f) := by
  intro tree
  refine (hx tree).trans ?_
  unfold left
  rw [ExceptT.run_bind, StateT.run_bind, Id.run_bind]
  generalize Id.run (StateT.run (ExceptT.run x) tree) = r
  obtain ⟨result, mid⟩ := r
  cases result with
  | error e => exact SameFiles.refl mid
  | ok a => exact hf a mid

theorem makeDirectory_keeps (path : Path) : Keeps (makeDirectory path) := by
  intro tree
  have hleft : left (makeDirectory path) tree = (tree.makeDirectory path).toOption.getD tree := by
    have hget : StateT.run (ExceptT.run (MonadState.get : Filing FileTree)) tree =
      pure (.ok tree, tree) := rfl
    unfold left makeDirectory
    rw [ExceptT.run_bind, StateT.run_bind, hget, pure_bind]
    dsimp only
    cases tree.makeDirectory path with
    | ok made => rfl
    | error e =>
      dsimp only
      rcases tree.probe path with e' | (_ | (_ | _)) <;> rfl
  rw [hleft]
  cases hmake : tree.makeDirectory path with
  | error e => exact SameFiles.refl tree
  | ok made => exact sameFiles_of_makeDirectory hmake

theorem makeDirectories_keeps (depth : Nat) (path : Path) : Keeps (makeDirectories depth path) := by
  induction depth generalizing path with
  | zero =>
    rw [makeDirectories]
    exact makeDirectory_keeps path
  | succ depth ih =>
    rw [makeDirectories]
    refine Keeps.get.bind fun tree => ?_
    split
    · exact (ih path.parent).bind fun _ => makeDirectory_keeps path
    · exact makeDirectory_keeps path

end Filing

namespace LoggedFiling

open FileTree

variable {ε α : Type} {wrap : FileError → ε} {e : ε} {tree left : FileTree} {log : Array LogRecord}

theorem sameFiles_of_value {x : Filing α} (hx : x.Keeps) {result : Except ε α}
    (h : value (ofFiling wrap x) tree log = (result, left)) : SameFiles tree left := by
  rw [value_ofFiling, Prod.mk.injEq] at h
  obtain ⟨-, rfl⟩ := h
  exact hx tree

/-- A change that fails leaves the tree as it is. -/
theorem eq_of_value_change_eq_error {change : FileTree → Except FileError FileTree}
    (h : value (ofFiling wrap (Filing.change change)) tree log = (.error e, left)) :
    left = tree ∧ ∃ fault, change tree = .error fault := by
  rw [value_change] at h
  cases hchange : change tree with
  | ok changed =>
    rw [hchange] at h
    cases h
  | error fault =>
    rw [hchange] at h
    cases h
    exact ⟨rfl, fault, rfl⟩

/-- What fails in a change of files is a failure there. -/
theorem exists_wrap_of_value {x : Filing α}
    (h : value (ofFiling wrap x) tree log = (.error e, left)) : ∃ fault, e = wrap fault := by
  rw [value_ofFiling, Prod.mk.injEq] at h
  obtain ⟨fault, -, he⟩ := exists_of_mapError_eq_error h.1
  exact ⟨fault, he⟩

end LoggedFiling

namespace Config

open LoggedFiling FileTree

variable {entries : List Json} {mask : Json} {given : PathSource} {tree mid left : FileTree}
  {log : Array LogRecord} {path : Path} {config : Config} {e : ConfigFileError}

/-- A configuration that cannot be written has a text with a surrogate. -/
theorem exists_hasSurrogate (h : Utf8.encode? config.toJsonText = none) :
    ∃ t ∈ config.mask :: config.sources, t.hasSurrogate = true := by
  have hsaved : config.toJsonText.hasSurrogate = true := by
    by_contra hclean
    rw [Utf8.encode?, if_neg hclean] at h
    cases h
  by_contra hnone
  push Not at hnone
  have hclean : ∀ c ∈ config.toJsonText, isSurrogate c ≠ true := by
    have hlow {c : Nat} (hc : c < 0x7F) : isSurrogate c ≠ true := by
      rw [ne_eq, isSurrogate_iff]
      omega
    refine forall_mem_saved (hlow (by decide)) (fun c _ hc => hlow hc) ?_
    intro t ht c hc _ hsurrogate
    exact hnone t ht (List.any_eq_true.mpr ⟨c, hc, hsurrogate⟩)
  obtain ⟨c, hc, hsurrogate⟩ := List.any_eq_true.mp hsaved
  exact hclean c hc hsurrogate

/-- A save fails with all files as they were, or the text cannot be written and the file is
empty. -/
theorem of_save_eq_error (h : value (save entries mask given) tree log = (.error e, left)) :
    ((∀ text, e ≠ .unwritable text) ∧ SameFiles tree left) ∨
      ∃ config path mid, ofValues entries mask = .ok config ∧
        tree.around.normalize given = .ok path ∧ Utf8.encode? config.toJsonText = none ∧
        e = .unwritable config.toJsonText ∧ SameFiles tree mid ∧ mid.write path [] = .ok left := by
  unfold save at h
  rcases of_value_bind_eq_error h with hfail | ⟨config, _, log, hconfig, h⟩
  · -- the configuration is not valid
    rw [value_ofLogged, Logged.value_run_adapt, Prod.mk.injEq] at hfail
    obtain ⟨fault, -, rfl⟩ := exists_of_mapError_eq_error hfail.1
    exact .inl ⟨nofun, hfail.2 ▸ .refl _⟩
  rw [value_ofLogged, Logged.value_run_adapt, value_validated, Prod.mk.injEq] at hconfig
  obtain ⟨hvalues, rfl⟩ := hconfig
  rcases of_value_bind_eq_error h with hfail | ⟨_, _, log, hsame, h⟩
  · cases hfail
  cases hsame
  rcases of_value_bind_eq_error h with hfail | ⟨path, _, log, hpath, h⟩
  · -- the path cannot be used
    rw [value_mk_pure, Prod.mk.injEq] at hfail
    obtain ⟨fault, -, rfl⟩ := exists_of_mapError_eq_error hfail.1
    exact .inl ⟨nofun, hfail.2 ▸ .refl _⟩
  rw [value_mk_pure, Prod.mk.injEq] at hpath
  obtain ⟨hpath, rfl⟩ := hpath
  have hkeeps := Filing.makeDirectories_keeps path.parent.names.length path.parent
  rcases of_value_bind_eq_error h with hfail | ⟨_, made, log, hmade, h⟩
  · -- there is no directory for the file
    obtain ⟨fault, rfl⟩ := exists_wrap_of_value hfail
    exact .inl ⟨nofun, sameFiles_of_value hkeeps hfail⟩
  have hsame := sameFiles_of_value hkeeps hmade
  rcases of_value_bind_eq_error h with hfail | ⟨_, cleared, log, hcleared, h⟩
  · -- the file cannot be emptied
    obtain ⟨fault, rfl⟩ := exists_wrap_of_value hfail
    obtain ⟨rfl, -⟩ := eq_of_value_change_eq_error hfail
    exact .inl ⟨nofun, hsame⟩
  have hclear : made.write path [] = .ok cleared := eq_ok_of_value_change hcleared
  cases hbytes : Utf8.encode? config.toJsonText with
  | none =>
    rw [hbytes] at h
    cases h
    exact .inr ⟨config, path, made, eq_ok_of_mapError hvalues, eq_ok_of_mapError hpath, hbytes, rfl,
      hsame, hclear⟩
  | some bytes =>
    -- what was emptied can be written
    rw [hbytes] at h
    rcases of_value_bind_eq_error h with hfail | ⟨_, _, log, -, h⟩
    · obtain ⟨-, fault, hfault⟩ := eq_of_value_change_eq_error hfail
      obtain ⟨later, hlater⟩ := exists_write_of_write
        (Surroundings.isRooted_of_normalize (eq_ok_of_mapError hpath)) hclear bytes
      cases hlater.symm.trans hfault
    · cases h

/-- A save that fails spares every file, unless a text of the configuration has a surrogate: then
the file that was to be replaced is left empty, and the others are spared. -/
theorem save_failed_spares_or_empties
    (h : value (save entries mask given) tree log = (.error e, left)) :
    ((∀ text, e ≠ .unwritable text) ∧ ∀ place, left.bytesAt? place = tree.bytesAt? place) ∨
      ∃ path t, tree.around.normalize given = .ok path ∧ .text t ∈ mask :: entries ∧
        t.hasSurrogate = true ∧ (∃ text, e = .unwritable text) ∧
        left.bytesAt? path.names = some [] ∧
        ∀ place, place ≠ path.names → left.bytesAt? place = tree.bytesAt? place := by
  rcases of_save_eq_error h with
    hspared | ⟨config, path, mid, hvalues, hpath, hbytes, he, hsame, hwrite⟩
  · exact .inl hspared
  · obtain ⟨t, ht, hsurrogate⟩ := exists_hasSurrogate hbytes
    obtain ⟨rfl, rfl⟩ := eq_texts_of_ofValues hvalues
    have hrooted := Surroundings.isRooted_of_normalize hpath
    have hleft := bytesAt?_of_write hrooted hwrite
    have hgiven := List.mem_map_of_mem (f := Json.text) ht
    refine .inr ⟨path, t, hpath, hgiven, hsurrogate, ⟨_, he⟩, ?_, ?_⟩
    · rw [hleft, if_pos rfl]
    · intro place hplace
      rw [hleft, if_neg hplace]
      exact hsame place

/-- What there is after a configuration with one pattern was saved as the only file. -/
def savedAlone (given : PathSource) : FileTree :=
  (value (save [.text [0x61]] (.text []) given) default #[]).2

/-- A file stands where a directory is needed: it is spared, and the text that could not have been
written makes no difference. -/
theorem save_failed_spares_file_in_the_way :
    ∃ left e, value (save [.text [0xD800]] (.text []) (.path ⟨[], [[0x66], [0x63]]⟩))
        (savedAlone (.path ⟨[], [[0x66]]⟩)) #[] = (.error e, left) ∧
      (∀ text, e ≠ .unwritable text) ∧
      ((savedAlone (.path ⟨[], [[0x66]]⟩)).bytesAt? [[0x66]]).isSome = true ∧
      left.bytesAt? [[0x66]] = (savedAlone (.path ⟨[], [[0x66]]⟩)).bytesAt? [[0x66]] := by
  have hsave : (value (save [.text [0xD800]] (.text []) (.path ⟨[], [[0x66], [0x63]]⟩))
      (savedAlone (.path ⟨[], [[0x66]]⟩)) #[]).1 =
        .error (.file (.refused .alreadyThere [0x2F, 0x66])) := by cbv
  refine ⟨_, _, Prod.ext hsave rfl, by simp, by cbv, ?_⟩
  rcases save_failed_spares_or_empties (Prod.ext hsave rfl) with
    ⟨-, hspared⟩ | ⟨_, _, -, -, -, ⟨_, he⟩, -⟩
  · exact hspared _
  · cases he

/-- A configuration was saved; one with a surrogate in a pattern is not saved over it, and
afterwards the file is empty and the configuration that is loaded from it has no patterns. -/
theorem save_failed_empties_file :
    ∃ left text, value (save [.text [0xD800]] (.text []) (.path ⟨[], [[0x63]]⟩))
        (savedAlone (.path ⟨[], [[0x63]]⟩)) #[] = (.error (.unwritable text), left) ∧
      (value (load default (.path ⟨[], [[0x63]]⟩)) (savedAlone (.path ⟨[], [[0x63]]⟩)) #[]).1 =
        .ok ⟨[[0x61]], []⟩ ∧
      (savedAlone (.path ⟨[], [[0x63]]⟩)).bytesAt? [[0x63]] ≠ some [] ∧
      left.bytesAt? [[0x63]] = some [] ∧
      (value (load default (.path ⟨[], [[0x63]]⟩)) left #[]).1 = .ok ⟨[], []⟩ := by
  have hsave : (value (save [.text [0xD800]] (.text []) (.path ⟨[], [[0x63]]⟩))
      (savedAlone (.path ⟨[], [[0x63]]⟩)) #[]).1 =
        .error (.unwritable (⟨[[0xD800]], []⟩ : Config).toJsonText) := by cbv
  refine ⟨_, _, Prod.ext hsave rfl, by cbv, fun hempty => ?_, by cbv, by cbv⟩
  have hsize :
      ((savedAlone (.path ⟨[], [[0x63]]⟩)).bytesAt? [[0x63]]).map List.length = some 53 := by cbv
  rw [hempty] at hsize
  cases hsize

end Config

end LiteralScrub
