import LiteralScrub.Proofs.LuaFailures
import LiteralScrub.Proofs.Pipeline
import LiteralScrub.Proofs.Places

/-!
# Trees in which nothing is found

Without patterns an engine hands a tree back as it is. It would come to the same to walk through the
tree: where nothing is found in its literals, a Lua tree stays as it is, and of a Python tree only
empty pieces of interpolated strings go. The pieces are then in a list, whatever gave them.
-/
namespace LiteralScrub

namespace Scrub

variable {rewrite : Text → Rewriting} {onText onText' : Attrs → Text → Attrs} {guarded : Bool}
  {kind : Python.Kind} {attrs : Attrs} {place : Python.Place}

/-! ## Python trees -/

theorem scrubbedItems_congr {items : List Value}
    (ih : ∀ item ∈ items,
      (∀ t ∈ openTexts guarded item, ∀ attrs, onText attrs t = onText' attrs t) →
        scrubbed onText guarded item = scrubbed onText' guarded item)
    (h : ∀ t ∈ openTextsItems guarded items, ∀ attrs, onText attrs t = onText' attrs t) :
    scrubbedItems onText guarded items = scrubbedItems onText' guarded items := by
  rw [openTextsItems_eq_flatMap] at h
  rw [scrubbedItems_eq_map, scrubbedItems_eq_map]
  refine List.map_congr_left fun item hitem => ?_
  split_ifs with hnode
  · refine ih item hitem fun t ht => h t ?_
    exact List.mem_flatMap.mpr ⟨item, hitem, by rwa [if_pos hnode]⟩
  · rfl

/-- Scrubbing depends on what is done to the texts of a tree only. -/
theorem scrubbed_congr (value : Value) : ∀ guarded,
    (∀ t ∈ openTexts guarded value, ∀ attrs, onText attrs t = onText' attrs t) →
      scrubbed onText guarded value = scrubbed onText' guarded value := by
  induction value using Value.induction with
  | list items ih =>
    intro guarded h
    rw [openTexts] at h
    rw [scrubbed, scrubbed, scrubbedItems_congr (fun item hitem => ih item hitem guarded) h]
  | collection type items ih =>
    intro guarded h
    rw [openTexts] at h
    rw [scrubbed, scrubbed, scrubbedItems_congr (fun item hitem => ih item hitem guarded) h]
  | node kind attrs ih =>
    intro guarded h
    cases kind with
    | lua kind => rfl
    | python kind =>
      rw [openTexts] at h
      rw [scrubbed, scrubbed]
      congr 1
      split_ifs at h ⊢ with hconstant hguarded
      · rw [hguarded]
        rfl
      · unfold scrubbedConstant
        split
        · next t ht => exact h t (by simp [ht]) attrs
        · rfl
      · rw [openTextsAttrs_eq_flatMap] at h
        rw [scrubbedAttrs_eq_map, scrubbedAttrs_eq_map]
        refine List.map_congr_left fun attr hattr => ?_
        unfold scrubbedAttr
        split_ifs with hbranch
        · rw [ih attr hattr _ fun t ht => h t ?_]
          exact List.mem_flatMap.mpr ⟨attr, hattr, by rwa [openTextsAttr, if_pos hbranch]⟩
        · rfl
  | leaf value hlist hcollection hnode =>
    intro guarded h
    cases value <;> simp_all [scrubbed]

/-- A constant as it was, whatever its text. -/
def untouched (attrs : Attrs) (_ : Text) : Attrs := attrs

/-- The tree with a list of pieces and no empty ones in each interpolated string, but for those that
are protected. -/
def withoutEmptyPieces (tree : Value) : Value := scrubbed untouched false tree

theorem scrubbed_constant (attrs : Attrs) :
    scrubbed untouched guarded (.node (.python .constant) attrs) =
      .node (.python .constant) attrs := by
  rw [scrubbed, if_pos rfl]
  unfold scrubbedConstant
  split <;> rfl

theorem scrubbed_renewed_of_unchanged {value : Value}
    (h : ∀ t ∈ openTexts false value, (rewrite t).changed = false) :
    scrubbed (renewed rewrite) false value = withoutEmptyPieces value := by
  refine scrubbed_congr value false fun t ht attrs => ?_
  simp [renewed, h t ht, untouched]

theorem isEmptyPiece_fixField (place : Python.Place) (value : Value) :
    isEmptyPiece (Python.fixField place value) = isEmptyPiece value := by
  cases value with
  | node kind attrs =>
    cases kind with
    | lua kind => simp [Python.fixField]
    | python kind =>
      rw [Python.fixField_node]
      by_cases hconstant : kind = .constant
      · subst hconstant
        rw [isEmptyPiece_constant, isEmptyPiece_constant, textAt_placed value_mem_fields]
      · rw [isEmptyPiece_of_ne hconstant, isEmptyPiece_of_ne hconstant]
  | _ => simp [Python.fixField, isEmptyPiece]

theorem fixField_tidied {value : Value} (h : value.isCollection = false) :
    Python.fixField place (tidied kind guarded value) =
      tidied kind guarded (Python.fixField place value) := by
  unfold tidied
  split_ifs
  · rcases value with
      _ | _ | _ | _ | _ | _ | (_ | _) | (_ | _) | _ | items | (_ | _) | _ | ⟨_ | _, _⟩
    case list =>
      simp only [Python.fixField_list, List.filter_map]
      congr 2
      refine List.filter_congr fun item _ => ?_
      rw [Function.comp_apply, apply_ite isEmptyPiece, isEmptyPiece_fixField, ite_self]
    case collection => cases h
    all_goals simp [Python.fixField, Python.fixItems]
  · rfl

/-- The pieces of an interpolated string that are given by a collection other than a list have no
places before they stand in a list. -/
theorem fixField_tidied_fixField (hplace : place.Ended) (value : Value) :
    Python.fixField place (tidied kind guarded (Python.fixField place value)) =
      Python.fixField place (tidied kind guarded value) := by
  cases hcollection : value.isCollection with
  | true =>
    cases value with
    | collection type items => rw [Python.fixField_collection]
    | _ => cases hcollection
  | false => rw [← fixField_tidied hcollection, Python.fixField_fixField _ _ hplace]

theorem fixField_scrubbedAttr {attr : String × Value} (hplace : place.Ended)
    (h : ∀ guarded,
      Python.fixField place (scrubbed untouched guarded (Python.fixField place attr.2)) =
        Python.fixField place (scrubbed untouched guarded attr.2)) :
    Python.fixField place
        (scrubbedAttr untouched guarded kind (attr.1, Python.fixField place attr.2)) =
      Python.fixField place (scrubbedAttr untouched guarded kind attr) := by
  unfold scrubbedAttr
  split_ifs
  · rw [isSealed_fixField, ← fixField_tidied_fixField hplace, h, fixField_tidied_fixField hplace]
  · exact Python.fixField_fixField _ _ hplace

/-- Where places are filled in once empty pieces are gone, it does not matter whether they were
filled in before as well. -/
theorem fixField_scrubbed_untouched (value : Value) :
    ∀ guarded (place : Python.Place), place.Ended →
      Python.fixField place (scrubbed untouched guarded (Python.fixField place value)) =
        Python.fixField place (scrubbed untouched guarded value) := by
  induction value using Value.induction with
  | list items ih =>
    intro guarded place hplace
    rw [Python.fixField_list, scrubbed, scrubbed, Python.fixField_list, Python.fixField_list,
      scrubbedItems_eq_map, scrubbedItems_eq_map, List.map_map, List.map_map, List.map_map]
    congr 1
    refine List.map_congr_left fun item hitem => ?_
    by_cases hnode : item.isPythonNode
    · simp [hnode, ih item hitem guarded place hplace]
    · simp [hnode]
  | collection type items _ =>
    intro guarded place hplace
    rw [Python.fixField_collection]
  | node kind attrs ih =>
    intro guarded place hplace
    cases kind with
    | lua kind => simp [Python.fixField, scrubbed]
    | python kind =>
      by_cases hconstant : kind = .constant
      · subst hconstant
        rw [scrubbed_constant, Python.fixField_node, scrubbed_constant, ← Python.fixField_node,
          Python.fixField_fixField _ _ hplace]
      · rw [Python.fixField_node, scrubbed, scrubbed, Python.fixField_node, Python.fixField_node,
          importsModule_placed, if_neg hconstant, if_neg hconstant, scrubbedAttrs_eq_map,
          scrubbedAttrs_eq_map]
        congr 1
        refine Python.placed_map_placed hplace (fun attr hname => ?_)
          fun attr hattr place hplace => ?_
        · exact if_neg fun hmem => hname (branches_subset_fields kind hmem)
        · exact fixField_scrubbedAttr hplace fun guarded => ih attr hattr guarded place hplace
  | leaf value hlist hcollection hnode =>
    intro guarded place hplace
    cases value <;> simp_all [Python.fixField, scrubbed]

/-- Where there is a new tree there are no complaints, and the root is the given one unless it is a
constant that has changed. -/
theorem transformPython_of_tree {visitor : Visitor} {tree new : Value} {log : Array LogRecord}
    (h : (Id.run ((transformPython visitor tree).run log)).1.tree = some new) :
    let outcome := (Id.run ((transformPython visitor tree).run log)).1
    outcome.errors = [] ∧ outcome.sameRoot = !(outcome.count > 0 && isConstant tree) := by
  obtain ⟨placed, walkedTo, hplaced, hresult, hnew, -⟩ := transformPython_success h
  have houtcome := transformPython_eq visitor hplaced log
  simp only [hresult, hnew] at houtcome
  rw [houtcome]
  exact ⟨rfl, rfl⟩

theorem withPlaces_withoutEmptyPieces (kind : Python.Kind) (attrs : Attrs) :
    Python.withPlaces (withoutEmptyPieces (.node (.python kind) attrs)) =
      .ok (Python.fixField {} (withoutEmptyPieces (.node (.python kind) attrs))) :=
  Python.withPlaces_eq_ok.mpr ⟨isPythonNode_scrubbed _, rfl⟩

/-- A Python tree in which nothing changes is the tree without empty pieces, with its places filled
in. The places that are filled in before the walk are those that are filled in afterwards. -/
theorem transform_python_of_unchanged {log : Array LogRecord}
    (h : (Id.run ((transform rewrite (.node (.python kind) attrs)).run log)).1.success = true)
    (hsame : ∀ t ∈ openTexts false (.node (.python kind) attrs), (rewrite t).changed = false) :
    let outcome := (Id.run ((transform rewrite (.node (.python kind) attrs)).run log)).1
    outcome.count = 0 ∧ outcome.errors = [] ∧ outcome.sameRoot = true ∧
      outcome.tree =
        (Python.withPlaces (withoutEmptyPieces (.node (.python kind) attrs))).toOption := by
  intro outcome
  obtain ⟨new, hnew⟩ := Option.isSome_iff_exists.mp h
  obtain ⟨rfl, hcount⟩ := transform_yields hnew
  obtain ⟨herrors, hroot⟩ := transformPython_of_tree hnew
  have hzero : outcome.count = 0 :=
    hcount.trans (by simpa [changes, List.countP_eq_zero] using hsame)
  have hended : ({} : Python.Place).Ended := ⟨by simp, by simp⟩
  have hpieces : Python.fixField {} (withoutEmptyPieces
      (Python.fixField {} (.node (.python kind) attrs))) =
        Python.fixField {} (withoutEmptyPieces (.node (.python kind) attrs)) :=
    fixField_scrubbed_untouched _ false {} hended
  refine ⟨hzero, herrors, hroot.trans ?_, hnew.trans ?_⟩
  · have hcounted : (Id.run ((transformPython (.rewriting rewrite)
        (.node (.python kind) attrs)).run log)).1.count = 0 := hzero
    simp [hcounted]
  · rw [scrubbed_renewed_of_unchanged (by rwa [openTexts_fixField]), hpieces,
      withPlaces_withoutEmptyPieces]
    rfl

/-! ## Lua trees -/

theorem renewedRoot_of_unchanged {kind : Lua.Kind}
    (ih : ∀ attr ∈ attrs, changedIn rewrite attr.2 = ∅ → renewedLua rewrite attr.2 = attr.2)
    (h : changedBelow rewrite (.node (.lua kind) attrs) = ∅) :
    renewedRoot rewrite (.node (.lua kind) attrs) = .node (.lua kind) attrs := by
  rw [renewedRoot]
  congr 1
  split_ifs with hcalls
  · rfl
  · rw [changedBelow_eq_image (by simpa using hcalls), Set.image_eq_empty] at h
    rw [renewedLuaAttrs_eq_map]
    refine (List.map_congr_left fun attr hattr => ?_).trans (List.map_id attrs)
    split_ifs with hname
    · rfl
    · obtain ⟨i, hi⟩ := List.getElem?_of_mem hattr
      have hempty : changedIn rewrite attr.2 = ∅ := by
        refine Set.eq_empty_of_forall_notMem fun x hx => ?_
        exact Set.eq_empty_iff_forall_notMem.mp h (i, x) ⟨attr, hi, by simpa using hname, hx⟩
      rw [ih attr hattr hempty]
      rfl

/-- Where nothing changes in what an attribute holds, it is as it was. -/
theorem renewedLua_of_unchanged (value : Value) (h : changedIn rewrite value = ∅) :
    renewedLua rewrite value = value := by
  induction value using Value.induction with
  | list items ih =>
    rw [changedIn_list_eq_image, Set.image_eq_empty] at h
    rw [renewedLua, renewedLuaItems_eq_map]
    congr 1
    refine (List.map_congr_left fun item hitem => ?_).trans (List.map_id items)
    split_ifs with hnode
    · obtain ⟨i, hi⟩ := List.getElem?_of_mem hitem
      have hlist : ∀ inner, item ≠ .list inner := by
        rintro inner rfl
        simp [Value.isLuaNode] at hnode
      refine ih item hitem ?_
      rw [changedIn_eq_image_of_ne_list hlist, Set.image_eq_empty]
      refine Set.eq_empty_of_forall_notMem fun position hposition => ?_
      exact Set.eq_empty_iff_forall_notMem.mp h (i, position) ⟨item, hi, hposition⟩
    · rfl
  | node kind attrs ih =>
    cases kind with
    | python kind => rfl
    | lua kind =>
      rw [changedIn_eq_image_of_ne_list (by simp), Set.image_eq_empty] at h
      by_cases hstring : (Value.node (.lua kind) attrs).isLuaString = true
      · obtain ⟨old, hold⟩ := eq_string_of_isLuaString hstring
        rw [hold] at h ⊢
        rw [renewedLua_string, renewedString_of_unchanged fun hchanged => ?_]
        exact Set.eq_empty_iff_forall_notMem.mp h [] (mem_changedFrom_string.mpr ⟨rfl, hchanged⟩)
      · rw [Bool.not_eq_true] at hstring
        rw [changedFrom_eq_changedBelow hstring] at h
        rw [renewedLua_eq_renewedRoot rfl hstring, renewedRoot_of_unchanged ih h]
  | collection type items _ => rfl
  | leaf value hlist hcollection hnode => cases value <;> simp_all [renewedLua]

end Scrub

open Scrub

/-- The text is that of a literal of the tree that is not protected. -/
def IsOpenText (tree : Value) (t : Text) : Prop :=
  t ∈ openTexts false tree ∨
    ∃ position old, position ≠ [] ∧ Reaches tree position (.lua .string old) ∧
      Lua.literalText old = .ok t

/-- Without patterns nothing is found. -/
theorem Engine.not_finds_of_patterns_eq_nil {engine : Engine} (h : engine.patterns = []) (t : Text) :
    ¬engine.Finds t := by
  rintro ⟨s, pattern, hpattern, -⟩
  rw [h] at hpattern
  exact List.not_mem_nil hpattern

theorem Engine.value_apply_of_patterns_eq_nil {engine : Engine} (h : engine.patterns = [])
    (tree : Value) {language : Text} {known : Language}
    (hlanguage : Language.ofName? language = some known) (file : Path) (log : Array LogRecord) :
    (engine.apply tree language file).value log = ⟨some tree, tree, true, 0, []⟩ := by
  rw [value_apply hlanguage, outcome, h, List.isEmpty_nil, if_pos rfl]

/-- A Lua tree in which nothing is found is handed back as it is. -/
theorem transform_lua_of_not_finds {engine : Engine} {kind : Lua.Kind} {attrs : Attrs}
    {log : Array LogRecord}
    (h : (Id.run ((transform engine.rewrite (.node (.lua kind) attrs)).run log)).1.success = true)
    (hnothing : ∀ t, IsOpenText (.node (.lua kind) attrs) t → ¬engine.Finds t) :
    let tree := Value.node (.lua kind) attrs
    (Id.run ((transform engine.rewrite tree).run log)).1 = ⟨some tree, tree, true, 0, []⟩ := by
  intro tree
  obtain ⟨count, houtcome, hcount, -⟩ := transform_lua_yields h
  have hempty : changedBelow engine.rewrite tree = ∅ := by
    refine Set.eq_empty_of_forall_notMem ?_
    rintro position ⟨old, t, hne, hreaches, ht, hchanged⟩
    exact hnothing t (.inr ⟨position, old, hne, hreaches, ht⟩)
      (Engine.changed_iff_finds.mp hchanged)
  have hroot : renewedRoot engine.rewrite tree = tree :=
    renewedRoot_of_unchanged (fun attr _ => renewedLua_of_unchanged attr.2) hempty
  obtain rfl : count = 0 := by simpa [tree, hempty] using hcount.symm
  rw [houtcome, hroot]

/-- A walk without failure through a tree in whose literals nothing is found counts nothing and
complains of nothing. It gives a Lua tree as it was and a Python tree without empty pieces, with its
places filled in. An engine without patterns is such an engine for each tree, and it hands the tree
back without a walk, with the same count and complaints. -/
theorem transform_agrees_with_shortcut (engine : Engine) (kind : NodeKind) (attrs : Attrs)
    (log : Array LogRecord) :
    let tree := Value.node kind attrs
    let outcome := (Id.run ((transform engine.rewrite tree).run log)).1
    outcome.success = true →
      engine.patterns = [] ∨ (∀ t, IsOpenText tree t → ¬engine.Finds t) →
        outcome.count = 0 ∧ outcome.errors = [] ∧ outcome.sameRoot = true ∧
        (tree.isLuaNode = true → outcome.tree = some tree) ∧
        (tree.isPythonNode = true →
          outcome.tree = (Python.withPlaces (withoutEmptyPieces tree)).toOption) ∧
        (engine.patterns = [] → ∀ language known file log', Language.ofName? language = some known →
          (engine.apply tree language file).value log' = ⟨some tree, tree, true, 0, []⟩) := by
  intro tree outcome hsuccess hcase
  have hnothing : ∀ t, IsOpenText tree t → ¬engine.Finds t :=
    hcase.elim (fun hnil t _ => Engine.not_finds_of_patterns_eq_nil hnil t) id
  have hshortcut (hnil : engine.patterns = []) (language : Text) (known : Language) (file : Path)
      (log' : Array LogRecord) (hlanguage : Language.ofName? language = some known) :
      (engine.apply tree language file).value log' = ⟨some tree, tree, true, 0, []⟩ :=
    Engine.value_apply_of_patterns_eq_nil hnil tree hlanguage file log'
  cases kind with
  | lua kind =>
    have houtcome : outcome = ⟨some tree, tree, true, 0, []⟩ :=
      transform_lua_of_not_finds hsuccess hnothing
    rw [houtcome]
    exact ⟨rfl, rfl, rfl, fun _ => rfl, nofun, hshortcut⟩
  | python kind =>
    have hsame : ∀ t ∈ openTexts false tree, (engine.rewrite t).changed = false := by
      intro t ht
      rw [Bool.eq_false_iff, ne_eq, Engine.changed_iff_finds]
      exact hnothing t (.inl ht)
    obtain ⟨hcount, herrors, hroot, htree⟩ := transform_python_of_unchanged hsuccess hsame
    exact ⟨hcount, herrors, hroot, nofun, fun _ => htree, hshortcut⟩

/-! ## Trees at work -/

/-- An engine that has no patterns. -/
def idle : Engine := ⟨⟨[], []⟩, []⟩

/-- The attributes of `print(f"...")`. -/
def printOf (pieces : List Value) : Attrs :=
  [("func", nameOf "print"), ("args", .list [joinedOf pieces]), ("keywords", .list [])]

theorem not_finds_in_print (t : Text)
    (h : IsOpenText (.node (.python .call) (printOf [textOf "", interpolatedImport, textOf "b"])) t) :
    ¬withoutA.Finds t := by
  have htexts : openTexts false (.node (.python .call)
      (printOf [textOf "", interpolatedImport, textOf "b"])) = [[], Text.ofString "b"] := by cbv
  rw [← Engine.changed_iff_finds, Bool.not_eq_true]
  rcases h with hopen | ⟨position, old, -, hreaches, -⟩
  · rw [htexts] at hopen
    obtain rfl | rfl : t = [] ∨ t = Text.ofString "b" := by simpa using hopen
    · cbv
    · cbv
  · exact absurd hreaches (not_reaches_of_not_isLuaNode rfl)

/-- The only matches are in an import and in a format specification, so the walk takes out an empty
piece and nothing else. An engine without patterns walks through a Lua tree to no effect. -/
theorem transform_agrees_with_shortcut_print :
    let outcome := (Id.run ((transform withoutA.rewrite (.node (.python .call)
      (printOf [textOf "", interpolatedImport, textOf "b"]))).run #[])).1
    (outcome.success = true ∧ outcome.count = 0 ∧ outcome.errors = [] ∧
      outcome.tree.map Python.shape = some (Python.shape
        (.node (.python .call) (printOf [interpolatedImport, textOf "b"])))) ∧
      (Id.run ((transform idle.rewrite printing).run #[])).1.tree = some printing ∧
      (idle.apply printing (Text.ofString "lua") {}).value #[] =
        ⟨some printing, printing, true, 0, []⟩ := by
  intro outcome
  have hsuccess : (Id.run ((transform withoutA.rewrite (.node (.python .call)
      (printOf [textOf "", interpolatedImport, textOf "b"]))).run #[])).1.success = true := by cbv
  have hidle : (Id.run ((transform idle.rewrite printing).run #[])).1.success = true := by cbv
  obtain ⟨hcount, herrors, -, -, htree, -⟩ :=
    transform_agrees_with_shortcut withoutA _ _ #[] hsuccess (.inr not_finds_in_print)
  obtain ⟨-, -, -, hprinting, -, hshortcut⟩ :=
    transform_agrees_with_shortcut idle _ _ #[] hidle (.inl rfl)
  have hpieces : withoutEmptyPieces (.node (.python .call)
      (printOf [textOf "", interpolatedImport, textOf "b"])) =
        .node (.python .call) (printOf [interpolatedImport, textOf "b"]) := by cbv
  refine ⟨⟨hsuccess, hcount, herrors, ?_⟩, hprinting rfl, hshortcut rfl _ .lua _ _ (by decide)⟩
  have hplaced := htree rfl
  rw [withPlaces_withoutEmptyPieces, hpieces] at hplaced
  rw [hplaced, Except.toOption, Option.map_some, Python.shape_fixField]

/-- A statement that is an interpolated string. -/
def joinedStmt (pieces : Value) : Value :=
  .node (.python .exprStmt) [("value", .node (.python .joinedStr) [("values", pieces)])]

/-- Without patterns, the walk still turns an empty text in the place of pieces into a list, which
the engine does not as it does not walk. -/
theorem transform_without_patterns_turns_text_into_pieces :
    let outcome := (Id.run ((transform idle.rewrite (joinedStmt (.text []))).run #[])).1
    outcome.success = true ∧ outcome.count = 0 ∧
      outcome.tree.map Python.shape = some (Python.shape (joinedStmt (.list []))) ∧
      (idle.apply (joinedStmt (.text [])) (Text.ofString "python") {}).value #[] =
        ⟨some (joinedStmt (.text [])), joinedStmt (.text []), true, 0, []⟩ := by
  refine ⟨by cbv, by cbv, by cbv, ?_⟩
  have hpython : Language.ofName? (Text.ofString "python") = some .python := by decide
  exact Engine.value_apply_of_patterns_eq_nil rfl _ hpython _ _

end LiteralScrub
