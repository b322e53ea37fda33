import Mathlib
import ListField.Proofs.Transitions

/-!
# A field's workflow answers as the store does

Validation reads workflows through `WorkflowLookup`, and two sources answer it: the store itself
(`Store.lookup`), and the copy of one field's workflow that the store hands out (`Store.workflow`,
read through `Workflow.lookup`). The copy is a list: the field's transitions in table order, each
with its groups, and the store's policy for transitions that name no group.

`workflow_answers_as_store` states that the copy answers every question about its field as the
store does, in every reachable store: there is a copy exactly when the field has a workflow; the
copy gives the same state; it finds the same transition between two values, which is the one of
lowest id (`lowestTransition`, by `Reachable.edgesOrdered`); and for each transition of the field
it gives every actor the store's answer, the policy for transitions without groups included.
-/

namespace ListField
namespace Store

/-- The lowest id among field `f`'s transitions from `source` to `target`. -/
def lowestTransition (t : Tables) (f : FieldId) (source : Option ValueId) (target : ValueId) :
    Option TransitionId :=
  ((t.transitions.filter fun e => e.field == f && e.target == target && e.source == source).map
    (·.id)).min?

/-- With the transitions in id order, the first matching one is the one of lowest id. -/
theorem findTransition_eq_lowest {t : Tables} (ho : t.EdgesOrdered) (f : FieldId)
    (source : Option ValueId) (target : ValueId) :
    findTransition t f source target = lowestTransition t f source target := by
  have hsorted : ((t.transitions.filter fun e => e.field == f && e.target == target &&
      e.source == source).map (·.id)).Pairwise fun a b => min a b = a :=
    List.pairwise_map.2 ((ho.sorted.filter _).imp fun h => Int.min_eq_left (Int.le_of_lt h))
  rw [lowestTransition, List.min?_eq_head? hsorted, List.head?_map, List.head?_filter]
  rfl

/-- The transition of the copy made from a stored one. -/
def edgeTransition (t : Tables) (e : EdgeRow) : Transition :=
  { id := e.id, source := e.source, target := e.target, groups := transitionGroupsOf t e.id }

/-- The copy of a field's workflow, when the field has one: its state, the store's policy, and
the field's transitions in table order. -/
theorem workflow_eq_some {s : Store} {f : FieldId} {w : Workflow} (h : s.workflow f = some w) :
    workflowState s.tables f ≠ .absent ∧
      w = { field := f, enabled := workflowState s.tables f == .enabled,
            openWhenUngrouped := s.openWhenUngrouped,
            transitions := (s.tables.transitions.filter (·.field == f)).map (edgeTransition s.tables) } := by
  unfold workflow at h
  split at h
  · cases h
  · next hne =>
    cases h
    exact ⟨hne, rfl⟩

theorem workflow_eq_none_iff {s : Store} {f : FieldId} :
    s.workflow f = none ↔ workflowState s.tables f = .absent := by
  unfold workflow
  split <;> simp_all

section Copy

variable {s : Store} {f : FieldId} {w : Workflow}

/-- The copy gives the field's workflow state. -/
theorem state_workflow (h : s.workflow f = some w) : w.lookup.state f = s.lookup.state f := by
  obtain ⟨hne, rfl⟩ := workflow_eq_some h
  simp only [Workflow.lookup, lookup, beq_self_eq_true, if_true, Workflow.state]
  cases hst : workflowState s.tables f
  · exact absurd hst hne
  · rfl
  · rfl

/-- The copy finds the transition the store finds. -/
theorem find_workflow (h : s.workflow f = some w) (source : Option ValueId) (target : ValueId) :
    w.lookup.find f source target = s.lookup.find f source target := by
  obtain ⟨-, rfl⟩ := workflow_eq_some h
  simp only [Workflow.lookup, lookup, beq_self_eq_true, if_true, Workflow.find?, findTransition,
    List.find?_map, List.find?_filter, Option.map_map]
  -- the two searches test the same three columns, in another order
  congr 2
  congr 1
  funext e
  simp only [Function.comp_apply, edgeTransition]
  rw [Bool.eq_iff_iff]
  simp only [decide_eq_true_eq, Bool.and_eq_true]
  tauto

/-- For a transition of the field, the copy gives every actor the store's answer. -/
theorem authorizes_workflow (h : s.workflow f = some w) {e : EdgeRow} (he : e ∈ s.tables.transitions)
    (hf : e.field = f) (a : Actor) : w.lookup.authorizes e.id a = s.lookup.authorizes e.id a := by
  obtain ⟨-, rfl⟩ := workflow_eq_some h
  -- the copy finds a transition with that id, and its groups are the ones stored for the id
  have hfound : (((s.tables.transitions.filter (·.field == f)).map (edgeTransition s.tables)).find?
      (·.id == e.id)).isSome := by
    rw [List.find?_isSome]
    exact ⟨edgeTransition s.tables e, List.mem_map_of_mem (List.mem_filter.2 ⟨he, by simp [hf]⟩),
      by simp [edgeTransition]⟩
  obtain ⟨tr, htr⟩ := Option.isSome_iff_exists.1 hfound
  have hid : tr.id = e.id := by simpa using List.find?_some htr
  obtain ⟨e', -, rfl⟩ := List.mem_map.1 (List.mem_of_find?_eq_some htr)
  have hgroups : (edgeTransition s.tables e').groups = transitionGroupsOf s.tables e.id :=
    congrArg (transitionGroupsOf s.tables) hid
  have hany : s.tables.transitions.any (·.id == e.id) = true := List.any_eq_true.2 ⟨e, he, by simp⟩
  simp only [Workflow.lookup, Workflow.byId?, htr, lookup, hany, if_true, Transition.authorizes, hgroups]

end Copy

/-- **A field's workflow answers as the store does.** In every reachable store, a field has a copy
of its workflow exactly when its workflow is not absent, and the copy answers as the store: the same
state; for any two values, the same transition, which is the field's matching transition of lowest
id; and for each transition of the field and every actor, the same verdict, the policy for
transitions without groups included. -/
theorem workflow_answers_as_store {s : Store} (hs : Reachable s) (f : FieldId) :
    (s.workflow f = none ↔ workflowState s.tables f = .absent) ∧
      ∀ w, s.workflow f = some w →
        w.lookup.state f = s.lookup.state f ∧
        (∀ source target, w.lookup.find f source target = s.lookup.find f source target ∧
          s.lookup.find f source target = .ok (lowestTransition s.tables f source target)) ∧
        ∀ e ∈ s.tables.transitions, e.field = f → ∀ a : Actor,
          w.lookup.authorizes e.id a = s.lookup.authorizes e.id a := by
  refine ⟨workflow_eq_none_iff, fun w h => ⟨state_workflow h, fun source target => ?_,
    fun e he hf a => authorizes_workflow h he hf a⟩⟩
  refine ⟨find_workflow h source target, ?_⟩
  simp only [lookup, findTransition_eq_lowest hs.edgesOrdered]

/-- A field with an enforced workflow of two transitions, the second open to the members group
only: its copy exists and answers as the store does. -/
theorem workflow_answers_with_two_transitions :
    let s := replay [.admin .ensureMembersGroup, .admin (.createUser "alice" none),
      .admin (.createField "status" "Status" .static false false false),
      .admin (.addChoice 1 { label := "Open" }), .admin (.addChoice 1 { label := "Closed" }),
      .admin (.setWorkflow 1 true), .admin (.addTransition 1 none 101 []),
      .admin (.addTransition 1 (some 101) 102 [1])] {}
    Reachable s ∧ (s.workflow 1).isSome = true ∧
      (s.workflow 1 = none ↔ workflowState s.tables 1 = .absent) ∧
      ∀ w, s.workflow 1 = some w →
        w.lookup.state 1 = s.lookup.state 1 ∧
        (∀ source target, w.lookup.find 1 source target = s.lookup.find 1 source target ∧
          s.lookup.find 1 source target = .ok (lowestTransition s.tables 1 source target)) ∧
        ∀ e ∈ s.tables.transitions, e.field = 1 → ∀ a : Actor,
          w.lookup.authorizes e.id a = s.lookup.authorizes e.id a := by
  intro s
  have hs : Reachable s := .replay (.migrated true) _
  have hsome : (s.workflow 1).isSome = true := by
    simp only [s, replay, List.foldl]
    cbv
  exact ⟨hs, hsome, workflow_answers_as_store hs 1⟩

end Store
end ListField
