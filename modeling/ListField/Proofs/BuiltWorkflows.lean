import ListField.Workflow

/-!
# Workflows built one transition at a time

A workflow is built in memory by `Workflow.new` followed by any sequence of `withTransition` and
`withOpenWhenUngrouped` (`Workflow.Built`). Each added transition takes its place in the list,
counted from 1, as its id (`Built.idsArePlaces`). Ids are then distinct, and the transition with
the id of a transition is that transition (`IdsArePlaces.byId?_eq`), so checking a move looks it
up and authorizes it on one and the same transition:

* `lookup_gate_isEnabled`, `lookup_gate_transitionId?`: what the gate of a field reads from a
  workflow, for any field.
* `Built.gate_answers`: a move is valid exactly when the workflow is not enforced for the field
  or some transition makes it; the actor may make it when the field is another one or no
  transition makes it, and otherwise exactly when the first transition that makes it authorizes
  the actor.
-/

namespace ListField
namespace Workflow

/-- The workflows built for field `f` by `new f enabled` followed by any sequence of
`withTransition` and `withOpenWhenUngrouped`. -/
inductive Built (f : FieldId) (enabled : Bool) : Workflow → Prop
  | new : Built f enabled (Workflow.new f enabled)
  | withTransition {w : Workflow} (source : Option ValueId) (target : ValueId) (groups : List GroupId) :
      Built f enabled w → Built f enabled (w.withTransition source target groups)
  | withOpenWhenUngrouped {w : Workflow} (b : Bool) :
      Built f enabled w → Built f enabled (w.withOpenWhenUngrouped b)

/-- Every transition's id is its place in the list, counted from 1. -/
def IdsArePlaces (w : Workflow) : Prop :=
  ∀ (i : Nat) (t : Transition), w.transitions[i]? = some t → t.id = i + 1

/-- Adding a transition keeps ids at their places: the new one goes at the end, numbered by the
length of the list before it. -/
theorem IdsArePlaces.withTransition {w : Workflow} (h : w.IdsArePlaces) (source : Option ValueId)
    (target : ValueId) (groups : List GroupId) : (w.withTransition source target groups).IdsArePlaces := by
  intro i t ht
  simp only [Workflow.withTransition] at ht
  rcases Nat.lt_or_ge i w.transitions.length with hi | hi
  · rw [List.getElem?_append_left hi] at ht
    exact h i t ht
  · rw [List.getElem?_append_right hi, List.getElem?_singleton] at ht
    split at ht
    · -- the one place past the old list holds the new transition
      cases ht
      have hlen : i = w.transitions.length := by omega
      rw [hlen]
    · cases ht

/-- **Built workflows number their transitions by place**; they keep the field and the setting
they were started with. -/
theorem Built.idsArePlaces {f : FieldId} {e : Bool} {w : Workflow} (h : w.Built f e) :
    w.field = f ∧ w.enabled = e ∧ w.IdsArePlaces := by
  induction h with
  | new => exact ⟨rfl, rfl, fun i t ht => by simp [Workflow.new] at ht⟩
  | withTransition source target groups _ ih =>
    exact ⟨ih.1, ih.2.1, ih.2.2.withTransition source target groups⟩
  | withOpenWhenUngrouped b _ ih => exact ih

/-- With ids at their places, the transition found by the id of a transition is that one: no
other place holds its id. -/
theorem IdsArePlaces.byId?_eq {w : Workflow} (h : w.IdsArePlaces) {i : Nat} {t : Transition}
    (ht : w.transitions[i]? = some t) : w.byId? t.id = some t := by
  obtain ⟨hi, rfl⟩ := List.getElem?_eq_some_iff.1 ht
  have hid := h i _ ht
  refine List.find?_eq_some_iff_getElem.2 ⟨by simp, i, hi, rfl, fun j hj => ?_⟩
  have hjd := h j _ (List.getElem?_eq_getElem (Nat.lt_trans hj hi))
  have hne : (j : Int) + 1 ≠ (i : Int) + 1 := by omega
  simp [hjd, hid, hne]

/-- The first transition making a move is the one found by its own id. -/
theorem IdsArePlaces.byId?_of_find? {w : Workflow} (h : w.IdsArePlaces) {source : Option ValueId}
    {target : ValueId} {t : Transition} (ht : w.find? source target = some t) : w.byId? t.id = some t := by
  obtain ⟨-, i, hi, rfl, -⟩ := List.find?_eq_some_iff_getElem.1 ht
  exact h.byId?_eq (List.getElem?_eq_getElem hi)

/-! ## The gate of a field over a workflow -/

theorem lookup_gate_isEnabled (w : Workflow) (g : FieldId) :
    (Gate.make w.lookup g).isEnabled = true ↔ g = w.field ∧ w.enabled = true := by
  by_cases hg : g = w.field <;> cases he : w.enabled <;>
    simp [Gate.make, Gate.isEnabled, Workflow.lookup, state, hg, he]

theorem lookup_gate_transitionId? (w : Workflow) (g : FieldId) (source : Option ValueId)
    (target : ValueId) :
    (Gate.make w.lookup g).transitionId? source target =
      if g = w.field then (w.find? source target).map (·.id) else none := by
  by_cases hg : g = w.field <;> simp [Gate.make, Gate.transitionId?, Workflow.lookup, hg]

/-- **Checking a move against a built workflow.** For the field `g` of the check: the move
`source → target` is valid exactly when the workflow is not enforced for `g` or some transition
makes it; the actor may make it when `g` is another field or no transition makes it, and
otherwise exactly when the first transition making it authorizes the actor, under the workflow's
policy for transitions without groups. Ids are the places of the transitions, from 1. -/
theorem Built.gate_answers {f : FieldId} {e : Bool} {w : Workflow} (hw : w.Built f e) (g : FieldId)
    (source : Option ValueId) (target : ValueId) (a : Actor) :
    ((Gate.make w.lookup g).allows source target = true ↔
      ¬ (g = f ∧ e = true) ∨ ∃ t ∈ w.transitions, t.source = source ∧ t.target = target) ∧
    ((g ≠ f ∨ ∀ t ∈ w.transitions, ¬ (t.source = source ∧ t.target = target)) →
      (Gate.make w.lookup g).canTake ((Gate.make w.lookup g).transitionId? source target) a = true) ∧
    (∀ t, g = f → w.transitions.find? (fun t => t.source == source && t.target == target) = some t →
      (Gate.make w.lookup g).canTake ((Gate.make w.lookup g).transitionId? source target) a =
        t.authorizes a w.openWhenUngrouped) ∧
    ∀ (i : Nat) (t : Transition), w.transitions[i]? = some t → t.id = i + 1 := by
  obtain ⟨rfl, rfl, hids⟩ := hw.idsArePlaces
  have hfound : (w.find? source target).isSome = true ↔
      ∃ t ∈ w.transitions, t.source = source ∧ t.target = target := by
    simp [Workflow.find?, List.find?_isSome]
  refine ⟨?_, fun hnone => ?_, fun t hg ht => ?_, hids⟩
  · -- a move is checked only under an enforced workflow of the field
    by_cases hen : g = w.field ∧ w.enabled = true
    · have hg := hen.1
      simp only [Gate.allows, (lookup_gate_isEnabled w g).2 hen, lookup_gate_transitionId?, if_pos hg,
        Option.isSome_map, Bool.not_true, Bool.false_or, hfound]
      simp [hen]
    · have hoff : (Gate.make w.lookup g).isEnabled = false := by
        simpa using mt (lookup_gate_isEnabled w g).1 hen
      simp [Gate.allows, hoff, hen]
  · -- no transition is found, so there is nothing to authorize
    have hid : (Gate.make w.lookup g).transitionId? source target = none := by
      rw [lookup_gate_transitionId?]
      split
      · next hg =>
        rcases hnone with hne | hall
        · exact absurd hg hne
        · rw [Option.map_eq_none_iff, Workflow.find?, List.find?_eq_none]
          intro t ht hm
          exact hall t ht (by simpa using hm)
      · rfl
    rw [hid]
    rfl
  · -- the id found leads back to the same transition
    have hfind : w.find? source target = some t := ht
    have hid : (Gate.make w.lookup g).transitionId? source target = some t.id := by
      rw [lookup_gate_transitionId?, if_pos hg, hfind]
      rfl
    rw [hid]
    simp [Gate.canTake, Gate.make, Workflow.lookup, hids.byId?_of_find? hfind]

/-- An enforced workflow of two transitions, from unset to `101` and from `101` to `102` for
group 7 only, checked for a member of group 7 moving from `101` to `102`. -/
theorem gate_answers_member_move :
    let w := ((Workflow.new 1 true).withTransition none 101 []).withTransition (some 101) 102 [7]
    let a : Actor := { id := 2, login := "bob", groups := [7] }
    w.Built 1 true ∧
    ((Gate.make w.lookup 1).allows (some 101) 102 = true ↔
      ¬ ((1 : FieldId) = 1 ∧ true = true) ∨ ∃ t ∈ w.transitions, t.source = some 101 ∧ t.target = 102) ∧
    (((1 : FieldId) ≠ 1 ∨ ∀ t ∈ w.transitions, ¬ (t.source = some 101 ∧ t.target = 102)) →
      (Gate.make w.lookup 1).canTake ((Gate.make w.lookup 1).transitionId? (some 101) 102) a = true) ∧
    (∀ t, (1 : FieldId) = 1 →
      w.transitions.find? (fun t => t.source == some 101 && t.target == 102) = some t →
      (Gate.make w.lookup 1).canTake ((Gate.make w.lookup 1).transitionId? (some 101) 102) a =
        t.authorizes a w.openWhenUngrouped) ∧
    ∀ (i : Nat) (t : Transition), w.transitions[i]? = some t → t.id = i + 1 := by
  intro w a
  have hw : w.Built 1 true := .withTransition _ _ _ (.withTransition _ _ _ .new)
  exact ⟨hw, hw.gate_answers 1 (some 101) 102 a⟩

example : ((((Workflow.new 1 true).withTransition none 101 []).withTransition (some 101) 102 [7]).withTransition
    (some 102) 101 []).transitions.map (·.id) = [1, 2, 3] := by
  decide

end Workflow
end ListField
