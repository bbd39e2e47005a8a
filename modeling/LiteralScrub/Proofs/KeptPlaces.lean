import Mathlib
import LiteralScrub.Proofs.Origins
import LiteralScrub.Proofs.Places
import LiteralScrub.Proofs.PythonTrees

/-!
# Scrubbing keeps places

Once the places of a tree are filled in, a node of the scrubbed tree stands where the node stood
from which it comes, and there is nothing left to fill in.
-/
namespace LiteralScrub

namespace Python

variable {P : Kind → Attrs → Prop} {value child : Value}

/-! ## Pieces in lists -/

/-- The pieces of an interpolated string are given by no collection other than a list. -/
def Listed (kind : Kind) (attrs : Attrs) : Prop :=
  kind = .joinedStr → ∀ attr ∈ attrs, attr.1 = "values" → attr.2.isCollection = false

theorem listed_placed {kind : Kind} {attrs : Attrs} {place : Place} (h : Listed kind attrs) :
    Listed kind (placed place kind attrs) := by
  rintro rfl attr hattr hname
  rw [placed, List.mem_append, fixFields_eq_map, List.mem_map] at hattr
  rcases hattr with ⟨old, hold, rfl⟩ | hremark
  · rw [isCollection_fixField]
    exact h rfl old (List.mem_filter.mp hold).1 hname
  · have hother := (List.mem_filter.mp hremark).2
    simp [hname, Kind.fields] at hother

theorem listed_fixField (place : Place) (h : Everywhere Listed value) :
    Everywhere Listed (fixField place value) :=
  everywhere_fixField (R := fun _ => True) (fun _ hlisted => ⟨listed_placed hlisted, trivial⟩)
    value place trivial h

theorem Everywhere.combine {Q R : Kind → Attrs → Prop}
    (h : ∀ kind attrs, P kind attrs → Q kind attrs → R kind attrs) (value : Value) :
    Everywhere P value → Everywhere Q value → Everywhere R value := by
  induction value using Value.induction with
  | list items ih =>
    simp only [everywhere_list]
    exact fun hP hQ item hitem hnode =>
      ih item hitem (hP item hitem hnode) (hQ item hitem hnode)
  | node kind attrs ih =>
    cases kind with
    | lua kind => simp [Everywhere]
    | python kind =>
      simp only [everywhere_node]
      exact fun hP hQ => ⟨h kind attrs hP.1 hQ.1, fun attr hattr hname =>
        ih attr hattr (hP.2 attr hattr hname) (hQ.2 attr hattr hname)⟩
  | collection type items _ => simp [Everywhere]
  | leaf value hlist hcollection hnode => cases value <;> simp_all [Everywhere]

theorem Everywhere.mono {Q : Kind → Attrs → Prop} (hP : Everywhere P value)
    (h : ∀ kind attrs, P kind attrs → Q kind attrs) : Everywhere Q value :=
  combine (fun kind attrs hP _ => h kind attrs hP) value hP hP

theorem everywhere_held {position : Option Nat} (h : Everywhere P value)
    (hcollection : value.isCollection = false) (hheld : held position value = some child)
    (hpython : child.isPythonNode = true) : Everywhere P child := by
  cases position with
  | none => rwa [← Option.some.inj hheld]
  | some i =>
    cases value with
    | list items => exact everywhere_list.mp h child (List.mem_of_getElem? hheld) hpython
    | collection type items => cases hcollection
    | _ => cases hheld

end Python

namespace Scrub

open Python

variable {rewrite : Text → Rewriting} {onText : Attrs → Text → Attrs} {guarded : Bool} {kind : Kind}
  {attrs : Attrs}

/-! ## What a route leads to -/

theorem shieldedAt_of_guarded (route : List Step) : ∀ value : Value,
    shieldedAt true value route = true := by
  induction route with
  | nil => exact fun value => shieldedAt_nil true value
  | cons step route ih =>
    intro value
    unfold shieldedAt
    split
    · next kind attrs step' route' heq =>
      cases heq
      cases below? kind attrs step with
      | none => rfl
      | some child => simpa [shielded] using ih child
    · rfl

/-- What holds of every node of a tree holds of what a route leads to, unless nothing changes
there. -/
theorem shieldedAt_or_everywhere {P : Kind → Attrs → Prop}
    (hP : ∀ kind attrs, P kind attrs → Listed kind attrs) {route : List Step} {node : Value} :
    ∀ {guarded value}, Everywhere P value → nodeAt? value route = some node →
      shieldedAt guarded value route = true ∨ Everywhere P node := by
  induction route with
  | nil =>
    intro guarded value h hnode
    exact .inr (Option.some.inj hnode ▸ h)
  | cons step route ih =>
    intro guarded value h hnode
    cases value with
    | node kind attrs =>
      cases kind with
      | lua kind => cases hnode
      | python kind =>
        rw [nodeAt?] at hnode
        obtain ⟨child, hchild, hroute⟩ := Option.bind_eq_some_iff.mp hnode
        obtain ⟨hfield, ⟨value, hget, hheld⟩, hpython⟩ := below?_eq_some_iff.mp hchild
        obtain ⟨hhere, hbelow⟩ := everywhere_node.mp h
        rw [shieldedAt, hchild, Option.elim_some]
        cases hcollection : value.isCollection with
        | false =>
          have hvalue := hbelow _ (Attrs.mem_of_get? hget) hfield
          exact ih (everywhere_held hvalue hcollection hheld hpython) hroute
        | true =>
          -- a collection other than a list is sealed where it gives no pieces
          have hkind : kind ≠ .joinedStr := by
            rintro rfl
            have hname : step.1 = "values" := by simpa [Kind.fields] using hfield
            cases hcollection.symm.trans (hP _ _ hhere rfl _ (Attrs.mem_of_get? hget) hname)
          have hshield : shielded guarded kind attrs step.1 = true := by
            simp [shielded, hget, isSealed, hkind, hcollection]
          rw [hshield]
          exact .inl (shieldedAt_of_guarded route child)
    | _ => cases hnode

/-! ## What a node becomes -/

theorem copyPlace_of_given {names : List String} (h : ∀ name ∈ names, Given attrs name) :
    copyPlace attrs names =
      names.filterMap fun name => (attrs.get? name).map fun value => (name, value) := by
  refine List.filterMap_congr fun name hname => ?_
  obtain ⟨value, hget, hvalue⟩ := h name hname
  rw [hget]
  cases value <;> first | rfl | exact absurd rfl hvalue

/-- A new constant stands where the old one stood. -/
theorem get?_withText {t : Text} {name : String} (h : ∀ name ∈ placeNames, Given attrs name)
    (hname : name ∈ placeNames) : Attrs.get? (withText attrs t) name = attrs.get? name := by
  have hfield : name ∉ Kind.constant.fields := not_mem_fields_of_hasPlace rfl name hname
  have hvalue : name ≠ "value" := fun he => hfield (he ▸ by decide)
  have hkind : name ≠ "kind" := fun he => hfield (he ▸ by decide)
  rw [withText, Attrs.get?_cons, if_neg hvalue, Attrs.get?_cons, if_neg hkind, copyPlace_of_given h,
    Attrs.get?_filterMap, if_pos hname]

theorem settled_withText {t : Text} (h : Everywhere Settled (.node (.python .constant) attrs)) :
    Everywhere Settled (.node (.python .constant) (withText attrs t)) := by
  obtain ⟨hsettled, hbelow⟩ := everywhere_node.mp h
  have hgiven := hsettled.given rfl
  have hremarks : ∀ attr ∈ copyPlace attrs placeNames, attr.1 ∉ Kind.constant.fields := by
    intro attr hattr
    rw [copyPlace_of_given hgiven, List.mem_filterMap] at hattr
    obtain ⟨name, hname, hattr⟩ := hattr
    obtain ⟨value, -, rfl⟩ := Option.map_eq_some_iff.mp hattr
    exact not_mem_fields_of_hasPlace rfl name hname
  refine everywhere_node.mpr ⟨⟨fun _ name hname => ?_, ?_⟩, ?_⟩
  · obtain ⟨value, hget, hvalue⟩ := hgiven name hname
    exact ⟨value, (get?_withText hgiven hname).trans hget, hvalue⟩
  · have hfields : ∀ attr ∈ [("value", .text t), ("kind", (attrs.get? "kind").getD .null)],
        attr.1 ∈ Kind.constant.fields := by simp [Kind.fields]
    exact ordered_append hfields hremarks
  · rw [withText, List.forall_mem_cons, List.forall_mem_cons]
    refine ⟨fun _ => trivial, fun hfield => ?_, fun attr hattr hfield => ?_⟩
    · cases hkind : attrs.get? "kind" with
      | none => trivial
      | some value => exact hbelow _ (Attrs.mem_of_get? hkind) hfield
    · exact absurd hfield (hremarks attr hattr)

theorem get?_scrubbedAttrs_of_not_mem {name : String} (h : name ∉ kind.fields) :
    Attrs.get? (scrubbedAttrs onText guarded kind attrs) name = attrs.get? name := by
  have hbranch : name ∉ branches kind := fun hmem => h (branches_subset_fields kind hmem)
  rw [get?_scrubbedAttrs]
  simp [scrubbedAttr, hbranch]

/-- A node stands where the node stood that was scrubbed. -/
theorem get?_scrubbedNode {name : String} (h : Settled kind attrs) (hname : name ∈ placeNames)
    (hfield : name ∉ kind.fields) :
    Attrs.get? (scrubbedNode (renewed rewrite) guarded kind attrs) name = attrs.get? name := by
  unfold scrubbedNode
  split_ifs with hkind
  · subst hkind
    rcases scrubbedConstant_renewed rewrite guarded attrs with hsame | ⟨t, hnew⟩
    · rw [hsame]
    · rw [hnew]
      exact get?_withText (h.given rfl) hname
  · exact get?_scrubbedAttrs_of_not_mem hfield

/-! ## Settled trees stay settled -/

theorem isCollection_scrubbed (value : Value) :
    (scrubbed onText guarded value).isCollection = value.isCollection := by
  cases value with
  | node kind attrs => cases kind <;> simp [scrubbed, Value.isCollection]
  | _ => simp [scrubbed, Value.isCollection]

theorem settled_tidied {value : Value} (h : Everywhere Settled value)
    (hlisted : kind = .joinedStr → value.isCollection = false) :
    Everywhere Settled (tidied kind guarded value) := by
  unfold tidied
  split_ifs with hjoined
  · split
    · rw [everywhere_list] at h ⊢
      exact fun item hitem => h item (List.mem_filter.mp hitem).1
    · cases hlisted (by simpa using (Bool.and_eq_true_iff.mp hjoined).1)
    all_goals trivial
  · exact h

theorem settled_scrubbedAttrs (h : Settled kind attrs) :
    Settled kind (scrubbedAttrs onText guarded kind attrs) := by
  constructor
  · intro hkind name hname
    obtain ⟨value, hget, hvalue⟩ := h.given hkind name hname
    refine ⟨value, ?_, hvalue⟩
    rw [get?_scrubbedAttrs_of_not_mem (not_mem_fields_of_hasPlace hkind name hname), hget]
  · -- names stay, so the order does
    have hordered := congrArg (List.map fun attr => (attr.1, scrubbedAttr onText guarded kind attr))
      h.ordered
    rw [List.map_append] at hordered
    rw [scrubbedAttrs_eq_map, remarks, List.filter_map, List.filter_map]
    exact hordered

theorem settled_scrubbed (value : Value) : ∀ guarded,
    Everywhere (fun kind attrs => Settled kind attrs ∧ Listed kind attrs) value →
      Everywhere Settled (scrubbed (renewed rewrite) guarded value) := by
  induction value using Value.induction with
  | list items ih =>
    intro guarded h
    rw [everywhere_list] at h
    rw [scrubbed, scrubbedItems_eq_map, everywhere_list]
    intro item hitem hnode
    obtain ⟨old, hold, rfl⟩ := List.mem_map.mp hitem
    have hpython := Value.isPythonNode_of_ite hnode
    rw [if_pos hpython]
    exact ih old hold guarded (h old hold hpython)
  | node kind attrs ih =>
    intro guarded h
    cases kind with
    | lua kind => exact h
    | python kind =>
      rw [scrubbed_node]
      unfold scrubbedNode
      split_ifs with hkind
      · subst hkind
        have hsettled := h.mono fun _ _ => And.left
        rcases scrubbedConstant_renewed rewrite guarded attrs with hsame | ⟨t, hnew⟩
        · rwa [hsame]
        · rw [hnew]
          exact settled_withText hsettled
      · obtain ⟨⟨hsettled, hlisted⟩, hbelow⟩ := everywhere_node.mp h
        refine everywhere_node.mpr ⟨settled_scrubbedAttrs hsettled, fun attr hattr hname => ?_⟩
        rw [scrubbedAttrs_eq_map] at hattr
        obtain ⟨old, hold, rfl⟩ := List.mem_map.mp hattr
        have hvalue := hbelow old hold hname
        dsimp only [scrubbedAttr]
        split_ifs with hbranch
        · refine settled_tidied (ih old hold _ hvalue) fun hjoined => ?_
          rw [isCollection_scrubbed]
          refine hlisted hjoined old hold ?_
          rw [hjoined] at hbranch
          simpa [branches, Kind.fields] using hbranch
        · exact hvalue.mono fun _ _ => And.left
  | collection type items _ =>
    intro guarded h
    simp [scrubbed, Everywhere]
  | leaf value hlist hcollection hnode =>
    intro guarded h
    cases value <;> simp_all [scrubbed, Everywhere]

end Scrub

open Scrub

/-- In a Python tree that an engine scrubs without failure, each node stands where the node stood
from which it comes once the places were filled in, if none is said to begin at nothing and the
pieces of interpolated strings are in lists. So there is nothing left to fill in. What is a field of
a node is no part of its place. -/
theorem transform_keeps_places (engine : Engine) (kind : Python.Kind) (attrs : Attrs)
    (log : Array LogRecord) (hbegun : Python.Everywhere Python.Begun (.node (.python kind) attrs))
    (hlisted : Python.Everywhere Python.Listed (.node (.python kind) attrs)) :
    let tree := Value.node (.python kind) attrs
    let outcome := (Id.run ((transform engine.rewrite tree).run log)).1
    outcome.success = true →
      ∃ placed new, Python.withPlaces tree = .ok placed ∧ outcome.tree = some new ∧
        (walked (visit (.rewriting engine.rewrite) placed) 0 log).1.result = .ok (some new) ∧
        Python.withPlaces new = .ok new ∧
        ∀ route kind' (fresh : Attrs),
          Python.nodeAt? new route = some (.node (.python kind') fresh) →
          ∃ old : Attrs, Python.nodeAt? placed (origin engine.rewrite false placed route) =
              some (.node (.python kind') old) ∧
            ∀ name ∈ Python.placeNames, name ∉ kind'.fields → fresh.get? name = old.get? name := by
  intro tree outcome hsuccess
  obtain ⟨new, hnew⟩ := Option.isSome_iff_exists.mp hsuccess
  obtain ⟨placed, hplaced, hresult, hlast, -⟩ := transform_walks hnew
  have hsettled : Python.Everywhere
      (fun kind attrs => Python.Settled kind attrs ∧ Python.Listed kind attrs) placed := by
    obtain ⟨-, rfl⟩ := Python.withPlaces_eq_ok.mp hplaced
    exact .combine (fun _ _ => And.intro) _
      (Python.settled_fixField _ ⟨nofun, nofun, nofun, nofun⟩ hbegun)
      (Python.listed_fixField _ hlisted)
  obtain rfl : scrubbed (renewed engine.rewrite) false placed = new := by
    obtain ⟨-, rfl⟩ := Python.withPlaces_eq_ok.mp hlast
    exact (Python.fixField_of_settled _ {} (settled_scrubbed placed false hsettled)).symm
  refine ⟨placed, _, hplaced, hnew, hresult, hlast, fun route kind' fresh hroute => ?_⟩
  obtain ⟨old, hold, hfresh⟩ :=
    nodeAt?_scrubbed (fun t => Engine.rewrite_text_of_unchanged) hroute
  rcases shieldedAt_or_everywhere (fun _ _ => And.right) hsettled hold with hshield | hsettledOld
  · rw [hshield, scrubbed_guarded] at hfresh
    exact ⟨fresh, hfresh ▸ hold, fun name _ _ => rfl⟩
  · cases old with
    | node other attrs =>
      cases other with
      | lua other => cases hfresh
      | python other =>
        rw [scrubbed_node] at hfresh
        cases hfresh
        exact ⟨attrs, hold, fun name hname hfield =>
          get?_scrubbedNode (Python.everywhere_node.mp hsettledOld).1.1 hname hfield⟩
    | _ => cases hfresh

/-- An interpolated string of two pieces, with parts of some places. -/
def partlyPlaced : Value :=
  .node (.python .exprStmt) [("value", .node (.python .joinedStr) [
    ("values", .list [textOf "a", .node (.python .constant) [
      ("value", .text (Text.ofString "ab")), ("lineno", .int 3), ("end_lineno", .null)]]),
    ("col_offset", .int 5), ("end_lineno", .int 4)])]

/-- The first piece goes, and the second stands where it stood, with what it lacked from above. -/
theorem transform_keeps_places_of_piece :
    Python.Everywhere Python.Begun partlyPlaced ∧
      Python.Everywhere Python.Listed partlyPlaced ∧
      (Id.run ((transform withoutA.rewrite partlyPlaced).run #[])).1.success = true ∧
      ∃ placed, ∃ fresh old : Attrs, Python.withPlaces partlyPlaced = .ok placed ∧
        (Id.run ((transform withoutA.rewrite partlyPlaced).run #[])).1.tree.bind
          (Python.nodeAt? · [("value", none), ("values", some 0)]) =
            some (.node (.python .constant) fresh) ∧
        Python.nodeAt? placed [("value", none), ("values", some 1)] =
          some (.node (.python .constant) old) ∧
        fresh.get? "value" = some (.text (Text.ofString "b")) ∧
        ∀ name ∈ Python.placeNames, fresh.get? name = old.get? name := by
  have hbegun : Python.Everywhere Python.Begun partlyPlaced := by
    simp [partlyPlaced, textOf, constantOf, Python.Everywhere, Python.EverywhereAttrs,
      Python.EverywhereItems, Python.Begun, Attrs.get?_cons]
  have hlisted : Python.Everywhere Python.Listed partlyPlaced := by
    simp [partlyPlaced, textOf, constantOf, Python.Everywhere, Python.EverywhereAttrs,
      Python.EverywhereItems, Python.Listed, Value.isCollection]
  have hsuccess :
      (Id.run ((transform withoutA.rewrite partlyPlaced).run #[])).1.success = true := by cbv
  obtain ⟨placed, new, hplaced, hnew, -, -, hroutes⟩ :=
    transform_keeps_places withoutA _ _ #[] hbegun hlisted hsuccess
  have hpiece : (Id.run ((transform withoutA.rewrite partlyPlaced).run #[])).1.tree.bind
      (Python.nodeAt? · [("value", none), ("values", some 0)]) =
        some (.node (.python .constant) [("value", .text (Text.ofString "b")), ("kind", .null),
          ("lineno", .int 3), ("col_offset", .int 5), ("end_lineno", .int 4),
          ("end_col_offset", .int 0)]) := by cbv
  have hfound := congrArg (·.bind (Python.nodeAt? · [("value", none), ("values", some 0)])) hnew
  obtain ⟨old, hold, hsame⟩ := hroutes _ _ _ (hfound.symm.trans hpiece)
  obtain ⟨-, rfl⟩ := Python.withPlaces_eq_ok.mp hplaced
  have horigin : origin withoutA.rewrite false (Python.fixField {} partlyPlaced)
      [("value", none), ("values", some 0)] = [("value", none), ("values", some 1)] := by cbv
  refine ⟨hbegun, hlisted, hsuccess, _, _, old, hplaced, hpiece, horigin ▸ hold, rfl,
    fun name hname => ?_⟩
  exact hsame name hname (Python.not_mem_fields_of_hasPlace rfl name hname)

end LiteralScrub
