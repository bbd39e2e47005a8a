import Mathlib
import LiteralScrub.Config.File
import LiteralScrub.Proofs.EngineLimits
import LiteralScrub.Proofs.Files
import LiteralScrub.Proofs.JsonRoundTrip

/-!
# A configuration is loaded as it was saved

The text of a configuration has no carriage return and can be read as the same document, so neither
the bytes of the file nor the ends of its lines change anything in it.
-/
namespace LiteralScrub

/-- Where there is no carriage return, the lines end as they are to end. -/
theorem Text.unifyLineEnds_of_not_mem {t : Text} (h : 0x0D ∉ t) : t.unifyLineEnds = t := by
  have hgo (before : Text) : Text.unifyLineEndsOnto before t = before.reverse ++ t := by
    fun_induction Text.unifyLineEndsOnto before t with
    | case1 before => simp
    | case2 before rest ih => simp at h
    | case3 before c rest hcrlf ih =>
      rw [List.mem_cons, not_or] at h
      rw [ih h.2]
      simp [Ne.symm h.1]
  exact hgo []

/-! ## Computations on files -/

namespace LoggedFiling

variable {ε α β : Type} {tree mid left : FileTree} {log : Array LogRecord}

/-- What a computation comes to that goes on with a tree and a log, and the tree that it leaves. -/
def value (x : ExceptT ε LoggedFiling α) (tree : FileTree) (log : Array LogRecord) :
    Except ε α × FileTree :=
  Logged.value (x.run.run tree) log

variable {x : ExceptT ε LoggedFiling α} {f : α → ExceptT ε LoggedFiling β} {a : α} {b : β}

/-- A computation goes on from the result and the tree of the one before it. -/
theorem value_bind (x : ExceptT ε LoggedFiling α) (f : α → ExceptT ε LoggedFiling β)
    (tree : FileTree) (log : Array LogRecord) :
    ∃ log', value (x >>= f) tree log =
      value (ExceptT.mk (pure (value x tree log).1) >>= f) (value x tree log).2 log' :=
  ⟨_, rfl⟩

theorem value_bind_of_ok {result : Except ε β × FileTree} (hx : value x tree log = (.ok a, mid))
    (hf : ∀ log', value (f a) mid log' = result) : value (x >>= f) tree log = result := by
  obtain ⟨log', hlog⟩ := value_bind x f tree log
  rw [hlog, hx]
  exact hf log'

theorem exists_of_value_bind_eq_ok (h : value (x >>= f) tree log = (.ok b, left)) :
    ∃ a mid log', value x tree log = (.ok a, mid) ∧ value (f a) mid log' = (.ok b, left) := by
  obtain ⟨log', hlog⟩ := value_bind x f tree log
  rw [hlog] at h
  cases hx : value x tree log with
  | mk result mid =>
    rw [hx] at h
    cases result with
    | error e => cases h
    | ok a => exact ⟨a, mid, log', rfl, h⟩

/-- A computation in two steps fails in the first or in the second. -/
theorem of_value_bind_eq_error {e : ε} (h : value (x >>= f) tree log = (.error e, left)) :
    value x tree log = (.error e, left) ∨
      ∃ a mid log', value x tree log = (.ok a, mid) ∧ value (f a) mid log' = (.error e, left) := by
  obtain ⟨log', hlog⟩ := value_bind x f tree log
  rw [hlog] at h
  cases hx : value x tree log with
  | mk result mid =>
    rw [hx] at h
    cases result with
    | error e' =>
      cases h
      exact .inl rfl
    | ok a => exact .inr ⟨a, mid, log', rfl, h⟩

theorem value_ofLogged (x : ExceptT ε Logged α) (tree : FileTree) (log : Array LogRecord) :
    value (ofLogged x) tree log = (x.run.value log, tree) := rfl

theorem value_mk_pure (result : Except ε α) (tree : FileTree) (log : Array LogRecord) :
    value (ExceptT.mk (pure result)) tree log = (result, tree) := rfl

theorem value_ofFiling (wrap : FileError → ε) (x : Filing α) (tree : FileTree)
    (log : Array LogRecord) :
    value (ofFiling wrap x) tree log =
      ((Id.run (x.run.run tree)).1.mapError wrap, (Id.run (x.run.run tree)).2) := rfl

/-- A change of the tree is made whole or not at all. -/
theorem value_change (wrap : FileError → ε) (change : FileTree → Except FileError FileTree)
    (tree : FileTree) (log : Array LogRecord) :
    value (ofFiling wrap (Filing.change change)) tree log =
      (((change tree).map fun _ => ()).mapError wrap, (change tree).toOption.getD tree) := by
  have hget : StateT.run (ExceptT.run (get : Filing FileTree)) tree = pure (.ok tree, tree) := rfl
  have hrun : StateT.run (ExceptT.run (Filing.change change)) tree =
      pure ((change tree).map fun _ => (), (change tree).toOption.getD tree) := by
    rw [Filing.change, ExceptT.run_bind, StateT.run_bind, hget, pure_bind]
    dsimp only
    cases change tree <;> rfl
  rw [value_ofFiling, hrun]
  rfl

/-- A change that goes through leaves the changed tree. -/
theorem eq_ok_of_value_change {wrap : FileError → ε} {change : FileTree → Except FileError FileTree}
    {u : Unit} (h : value (ofFiling wrap (Filing.change change)) tree log = (.ok u, left)) :
    change tree = .ok left := by
  rw [value_change] at h
  cases hchange : change tree with
  | error e =>
    rw [hchange] at h
    cases h
  | ok changed =>
    rw [hchange] at h
    cases h
    rfl

end LoggedFiling

namespace Config

open LoggedFiling

variable {entries : List Json} {mask : Json} {given : PathSource} {tree left : FileTree}
  {log : Array LogRecord} {path : Path} {config : Config}

/-! ## Saving -/

/-- What is saved is the text of a configuration, at an absolute path. -/
theorem exists_of_save (h : value (save entries mask given) tree log = (.ok path, left)) :
    ∃ config bytes mid, ofValues entries mask = .ok config ∧
      tree.around.normalize given = .ok path ∧ Utf8.encode? config.toJsonText = some bytes ∧
      FileTree.write mid path bytes = .ok left := by
  unfold save at h
  -- of the trees on the way only the last one matters, into which the bytes are written
  obtain ⟨config, checked, log, hconfig, hsave⟩ := exists_of_value_bind_eq_ok h
  obtain ⟨tree', same, log, hsame, hfiling⟩ := exists_of_value_bind_eq_ok hsave
  obtain ⟨path', resolved, log, hpath, hmaking⟩ := exists_of_value_bind_eq_ok hfiling
  obtain ⟨_, made, log, hmade, hclearing⟩ := exists_of_value_bind_eq_ok hmaking
  obtain ⟨_, cleared, log, hcleared, hwriting⟩ := exists_of_value_bind_eq_ok hclearing
  rw [value_ofLogged, Logged.value_run_adapt, value_validated, Prod.mk.injEq] at hconfig
  rw [value_mk_pure, Prod.mk.injEq] at hpath
  obtain ⟨hvalues, rfl⟩ := hconfig
  cases hsame
  cases hbytes : Utf8.encode? config.toJsonText with
  | none =>
    rw [hbytes] at hwriting
    cases hwriting
  | some bytes =>
    rw [hbytes] at hwriting
    obtain ⟨_, written, log, hwritten, hreturn⟩ := exists_of_value_bind_eq_ok hwriting
    cases hreturn
    exact ⟨config, bytes, cleared, eq_ok_of_mapError hvalues, eq_ok_of_mapError hpath.1, hbytes,
      eq_ok_of_value_change hwritten⟩

theorem eq_texts_of_ofValues (h : ofValues entries mask = .ok config) :
    entries = config.sources.map .text ∧ mask = .text config.mask := by
  obtain ⟨sources, hsources, hmask⟩ := exists_of_bind_eq_ok h
  have hentries : entries = sources.map .text := by
    rcases texts_or_other entries with ⟨found, rfl⟩ | ⟨found, value, rest, rfl, hvalue⟩
    · rw [textEntries_texts] at hsources
      cases hsources
      rfl
    · rw [textEntries_of_other 0 found rest hvalue] at hsources
      cases hsources
  cases mask with
  | text t =>
    cases hmask
    exact ⟨hentries, rfl⟩
  | _ => cases hmask

/-! ## The text of a configuration -/

theorem textual_toDocument {P : Text → Prop} {room : Nat} (hkeys : ∀ key ∈ knownKeys, P key)
    (htexts : ∀ t ∈ config.mask :: config.sources, P t) :
    Json.Textual P (room + 2) config.toDocument := by
  have hsources : Json.Textual P (room + 1) (.array (config.sources.map .text)) := by
    refine .array fun item hitem => ?_
    obtain ⟨t, ht, rfl⟩ := List.mem_map.mp hitem
    exact .text (htexts t (List.mem_cons_of_mem _ ht))
  have hdifferent : knownKeys.Nodup := by decide
  refine .object hdifferent ?_ ?_
  · simpa [knownKeys] using hkeys
  · simp only [List.mem_cons, List.not_mem_nil, or_false]
    rintro member (rfl | rfl)
    · exact hsources
    · exact .text (htexts _ List.mem_cons_self)

/-- A configuration is read from its text. -/
theorem value_ofJsonText_toJsonText (limits : Limits) (config : Config) (log : Array LogRecord) :
    (ofJsonText limits (some config.toJsonText)).run.value log = .ok config := by
  have htextual : Json.Textual (fun _ => True) limits.json config.toDocument := by
    obtain ⟨room, hroom⟩ := Nat.exists_eq_add_of_le' limits.two_le_json
    exact hroom ▸ textual_toDocument (fun _ _ => trivial) fun _ _ => trivial
  have hread : Json.read limits.json config.toJsonText = .ok config.toDocument :=
    Json.read_write_append htextual (by simp [Json.isBlank])
  have hspace : config.toJsonText.all isSpace = false := by
    obtain ⟨c, tail, ht, hc⟩ := Json.begins_writeAt htextual 0
    have hprinted : isSpace c = false := by
      simp only [List.mem_cons, List.not_mem_nil, or_false] at hc
      rcases hc with rfl | rfl | rfl <;> cbv
    rw [toJsonText, Json.write, ht, List.cons_append, List.all_cons, hprinted, Bool.false_and]
  have hdocument : (ofDocument config.toDocument).run.value log =
      (textEntries 0 (config.sources.map .text)).map (⟨·, config.mask⟩) :=
    value_ofDocument_masks rfl (.text rfl)
  rw [value_ofJsonText_document hspace hread, hdocument, textEntries_texts]
  rfl

/-- What holds of line feeds, printable characters and the texts of a configuration holds of all
that is saved. -/
theorem forall_mem_saved {Q : CodePoint → Prop} (hline : Q 0x0A)
    (hascii : ∀ c, 0x20 ≤ c → c < 0x7F → Q c)
    (htexts : ∀ t ∈ config.mask :: config.sources, ∀ c ∈ t, 0x20 ≤ c → Q c) :
    ∀ c ∈ config.toJsonText, Q c := by
  have hkeys : ∀ key ∈ knownKeys, ∀ c ∈ key, 0x20 ≤ c ∧ c < 0x7F := by decide
  have htextual : Json.Textual (fun t => ∀ c ∈ t, 0x20 ≤ c → Q c) 2 config.toDocument :=
    textual_toDocument (fun key hkey c hc hlow => hascii c hlow (hkeys key hkey c hc).2) htexts
  have hwritten := Json.forall_mem_writeAt hline hascii htextual 0
  simp only [toJsonText, Json.write, List.mem_append, List.mem_singleton]
  rintro c (hc | rfl)
  · exact hwritten c hc
  · exact hline

/-- Of the control characters only line feeds are in the text. -/
theorem forall_mem_toJsonText (h : ∀ t ∈ config.mask :: config.sources, ∀ c ∈ t, c < 0x110000) :
    ∀ c ∈ config.toJsonText, c ≠ 0x0D ∧ c < 0x110000 := by
  have hpoint {c : Nat} (hlow : 0x20 ≤ c) (hhigh : c < 0x110000) : c ≠ 0x0D ∧ c < 0x110000 :=
    ⟨by omega, hhigh⟩
  exact forall_mem_saved (by decide)
    (fun c hlow hhigh => hpoint hlow (Nat.lt_trans hhigh (by decide)))
    fun t ht c hc hlow => hpoint hlow (h t ht c hc)

/-! ## Loading -/

theorem fileText_of_read {bytes : Bytes} {text : Text} (hread : tree.read path = .ok bytes)
    (htext : Utf8.decode bytes = .ok text) : fileText tree path = .ok text.unifyLineEnds := by
  unfold fileText
  rw [FileTree.probe_of_read hread, hread]
  simp only [Except.mapError, bind, Except.bind, htext]
  rfl

theorem value_load {limits : Limits} {text : Text} (hpath : tree.around.normalize given = .ok path)
    (htext : fileText tree path = .ok text)
    (hconfig : ∀ log, (ofJsonText limits (some text)).run.value log = .ok config) :
    value (load limits given) tree log = (.ok config, tree) := by
  unfold load
  refine value_bind_of_ok rfl fun log => ?_
  rw [hpath]
  refine value_bind_of_ok (value_mk_pure _ _ _) fun log => ?_
  rw [htext]
  refine value_bind_of_ok (value_mk_pure _ _ _) fun log => ?_
  have hread : ((ofJsonText limits (some text)).adapt ConfigFileError.document).run.value log =
      .ok config := by
    rw [Logged.value_run_adapt, hconfig]
    rfl
  refine value_bind_of_ok ((value_ofLogged _ _ _).trans (by rw [hread])) fun log => ?_
  rfl

/-- A configuration that was saved is loaded from the path that was given back, as long as the file
there is not changed, whatever else has become of the files and wherever the program stands. -/
theorem load_of_save (limits : Limits)
    (h : value (save entries mask given) tree log = (.ok path, left))
    (hpoints : ∀ t, .text t ∈ mask :: entries → ∀ c ∈ t, c < 0x110000) :
    ∃ config : Config, entries = config.sources.map .text ∧ mask = .text config.mask ∧
      ∀ later log', later.read path = left.read path →
        value (load limits (.path path)) later log' = (.ok config, later) := by
  obtain ⟨config, bytes, mid, hvalues, hpath, hbytes, hwrite⟩ := exists_of_save h
  obtain ⟨rfl, rfl⟩ := eq_texts_of_ofValues hvalues
  have hrooted := Surroundings.isRooted_of_normalize hpath
  have hsaved : left.read path = .ok bytes := FileTree.read_of_write hrooted hwrite
  have hwritten : ∀ c ∈ config.toJsonText, c ≠ 0x0D ∧ c < 0x110000 := by
    refine forall_mem_toJsonText fun t ht => hpoints t ?_
    rwa [← List.map_cons, List.mem_map_of_injective fun _ _ => Json.text.inj]
  have hlines : config.toJsonText.unifyLineEnds = config.toJsonText :=
    Text.unifyLineEnds_of_not_mem fun hmem => (hwritten _ hmem).1 rfl
  have hdecoded := Utf8.decode_of_encode? hbytes fun c hc => (hwritten c hc).2
  refine ⟨config, rfl, rfl, fun later log' hlater => ?_⟩
  have htext := fileText_of_read (hlater.trans hsaved) hdecoded
  rw [hlines] at htext
  obtain ⟨place, hplace, -⟩ := exists_of_bind_eq_ok (hlater.trans hsaved)
  obtain ⟨encoded, hencoded, -, -⟩ := FileTree.placeOf_eq_ok_iff.mp hplace
  exact value_load (Surroundings.normalize_of_isRooted hrooted hencoded later.around) htext
    (value_ofJsonText_toJsonText limits config)

/-- Quotes, backslashes, control characters, carriage returns and characters beyond the basic plane
come back, and so does a pattern that is given twice. The file is made in a new directory, and the
program has gone there when it loads the file. -/
theorem load_of_save_unusual :
    let config : Config := ⟨[[0x22, 0x5C, 0x01, 0x0D], [0x1F600], [0x1F600]], [0x0D, 0x0A, 0x7F]⟩
    let given : PathSource := .path ⟨[], [[0x61], Path.up, [0x62], [0x63]]⟩
    let path : Path := ⟨[0x2F], [[0x62], [0x63]]⟩
    ∃ left later, value (save (config.sources.map .text) (.text config.mask) given) default #[] =
        (.ok path, left) ∧ later.current = [[0x62]] ∧ later.entries = left.entries ∧
      value (load default (.path path)) later #[] = (.ok config, later) := by
  intro config given path
  let left := (value (save (config.sources.map .text) (.text config.mask) given) default #[]).2
  let later : FileTree := { left with around := { (default : Surroundings) with
    current := ⟨[0x2F], [[0x62]]⟩, current_isRooted := by decide } }
  have hsave : value (save (config.sources.map .text) (.text config.mask) given) default #[] =
      (.ok path, left) := Prod.ext (by rfl) rfl
  have hpoints : ∀ t, .text t ∈ Json.text config.mask :: config.sources.map .text →
      ∀ c ∈ t, c < 0x110000 := by
    simp only [← List.map_cons, List.mem_map_of_injective fun _ _ => Json.text.inj]
    decide
  obtain ⟨loaded, hsources, hmask, hload⟩ := load_of_save default hsave hpoints
  have hloaded : loaded = config := by
    obtain ⟨sources, mask⟩ := loaded
    obtain rfl : config.sources = sources :=
      List.map_injective_iff.mpr (fun _ _ => Json.text.inj) hsources
    obtain rfl : config.mask = mask := Json.text.inj hmask
    rfl
  exact ⟨left, later, hsave, rfl, rfl, hloaded ▸ hload later #[] (by rfl)⟩

end Config

end LiteralScrub
