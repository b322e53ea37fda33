import ListField.Proofs.ValueRows

/-!
# Frames of the administration writes

Each administration write changes a few tables and the counters that number them, and leaves every
other table as it was. This file says which, once per write, for any view of the tables that does
not see those tables (`Keeps`): creating a user touches the users, the memberships and the user
counter; a grant touches the grants; adding a transition touches the workflows, the transitions,
their groups and the transition counter; and so on. The invariants of the store (its history, the
order of its transitions) are then kept by every write that cannot see them.

`Keeps` comes with combinators that walk a do-block: lookups and checks that throw keep every view,
and a change keeps a view that does not see what it changes.
-/

namespace ListField
namespace Store

/-- A store operation that, when it succeeds, leaves the view `v` of the tables as it was. -/
def Keeps {β α : Type} (v : Tables → β) (m : StoreM α) : Prop :=
  ∀ s a s', m.run s = .ok (a, s') → v s'.tables = v s.tables

namespace Keeps

variable {α β γ : Type} {v : Tables → β}

theorem pure' (a : α) : Keeps v (pure a : StoreM α) := by
  intro s b s' h
  cases h
  rfl

theorem bind' {x : StoreM α} {k : α → StoreM γ} (hx : Keeps v x) (hk : ∀ a, Keeps v (k a)) :
    Keeps v (x >>= k) := by
  intro s b s'' h
  obtain ⟨a, s', h₁, h₂⟩ := run_bind_ok h
  exact (hk a s' b s'' h₂).trans (hx s a s' h₁)

theorem get' : Keeps v (get : StoreM Store) := by
  intro s b s' h
  cases h
  rfl

theorem current' : Keeps v current := bind' get' fun _ => pure' _

theorem throw' (e : StoreError) : Keeps v (throw e : StoreM α) := by
  intro s b s' h
  cases h

theorem ite' {c : Prop} [Decidable c] {x y : StoreM α} (hx : Keeps v x) (hy : Keeps v y) :
    Keeps v (if c then x else y) := by
  split
  · exact hx
  · exact hy

theorem change' {f : Tables → Tables} (hf : ∀ t, v (f t) = v t) : Keeps v (change f) := by
  intro s b s' h
  cases h
  exact hf s.tables

theorem transaction' {body : StoreM α} (h : Keeps v body) : Keeps v (transaction body) :=
  bind' get' fun _ => ite' h (throw' _)

/-- A loop whose body keeps the view keeps it. -/
theorem forIn' {δ : Type} (l : List γ) (b : δ) {f : γ → δ → StoreM (ForInStep δ)}
    (hf : ∀ a b, Keeps v (f a b)) : Keeps v (forIn l b f) := by
  induction l generalizing b with
  | nil => exact pure' b
  | cons a l ih =>
    rw [List.forIn_cons]
    refine bind' (hf a b) fun r => ?_
    cases r with
    | done b' => exact pure' b'
    | yield b' => exact ih b'

/-- A check that refuses by throwing keeps every view. -/
theorem check' {c : Prop} [Decidable c] (e : StoreError) :
    Keeps v (if c then throw e else pure () : StoreM Unit) :=
  ite' (throw' e) (pure' ())

end Keeps

open Keeps

section Writes

variable {β : Type} {v : Tables → β}

/-! ## Lookups -/

theorem keeps_groupByName (name : String) : Keeps v (groupByName name) := by
  unfold groupByName
  refine bind' current' fun t => ?_
  split
  · exact pure' _
  · exact throw' _

theorem keeps_actor (login : String) : Keeps v (actor login) := by
  unfold actor
  refine bind' current' fun t => ?_
  dsimp only
  split
  · exact pure' _
  · exact throw' _

theorem keeps_field (f : FieldId) : Keeps v (field f) := by
  unfold field
  refine bind' current' fun t => ?_
  split
  · exact pure' _
  · exact throw' _

/-! ## Writes

The do-notation copies what follows a check into both of its branches, so each write is walked
branch by branch. -/

/-- Creating the members group touches the groups and their counter. -/
theorem keeps_ensureMembersGroup
    (hv : ∀ t gs n, v { t with groups := gs, last := { t.last with groups := n } } = v t) :
    Keeps v ensureMembersGroup := by
  simp only [ensureMembersGroup]
  refine bind' current' fun t => ite' (keeps_groupByName _) ?_
  exact bind' (change' fun _ => hv _ _ _) fun _ => keeps_groupByName _

/-- Creating a user touches the users, the memberships and the user counter. -/
theorem keeps_createUser
    (hv : ∀ t us ms n, v { t with users := us, members := ms, last := { t.last with users := n } } = v t)
    (login : String) (realName : Option String) : Keeps v (createUser login realName) := by
  simp only [createUser, requireText]
  refine transaction' (bind' current' fun t => bind' (check' _) fun _ => ?_)
  refine ite' (bind' (throw' _) fun _ => ?_) ?_ <;>
    exact bind' (change' fun _ => hv _ _ _ _) fun _ => pure' _

/-- Creating a group touches the groups and their counter. -/
theorem keeps_createGroup
    (hv : ∀ t gs n, v { t with groups := gs, last := { t.last with groups := n } } = v t)
    (name : String) : Keeps v (createGroup name) := by
  simp only [createGroup, requireText]
  refine bind' current' fun t => bind' (check' _) fun _ => ?_
  refine ite' (bind' (throw' _) fun _ => ?_) ?_ <;>
    exact bind' (change' fun _ => hv _ _ _) fun _ => pure' _

/-- Adding a member touches the memberships. -/
theorem keeps_addMember (hv : ∀ t ms, v { t with members := ms } = v t) (g : GroupId) (u : UserId) :
    Keeps v (addMember g u) := by
  simp only [addMember]
  refine bind' current' fun t => ite' (pure' _) ?_
  refine ite' ?_ (bind' (throw' _) fun _ => ?_) <;>
    exact bind' (change' fun _ => hv _ _) fun _ => pure' _

/-- Creating a field touches the fields and their counter. -/
theorem keeps_createField
    (hv : ∀ t fs n, v { t with fields := fs, last := { t.last with fields := n } } = v t)
    (name label : String) (source : Source) (required multiple readOnly : Bool) :
    Keeps v (createField name label source required multiple readOnly) := by
  simp only [createField, requireText]
  refine bind' current' fun t => bind' (check' _) fun _ => ?_
  refine ite' (bind' (throw' _) fun _ => ?_) ?_ <;>
    exact bind' (change' fun _ => hv _ _ _) fun _ => pure' _

/-- Adding a choice touches the choices and their counter. -/
theorem keeps_addChoice
    (hv : ∀ t cs n, v { t with choices := cs, last := { t.last with choices := n } } = v t)
    (f : FieldId) (new : NewChoice) : Keeps v (addChoice f new) := by
  simp only [addChoice]
  refine bind' (keeps_field f) fun fld => ?_
  -- the user or group that a choice of a people field names is looked up first
  split
  all_goals first
    | refine bind' (pure' _) fun _ => ?_
    | refine bind' (keeps_actor _) fun _ => bind' (pure' _) fun _ => ?_
    | refine bind' (keeps_groupByName _) fun _ => bind' (pure' _) fun _ => ?_
  all_goals
    refine transaction' (bind' current' fun t => ?_)
    refine ite' (bind' (throw' _) fun _ => ?_) ?_ <;>
      exact bind' (change' fun _ => hv _ _ _) fun _ => pure' _

/-- A grant touches the grants. -/
theorem keeps_grant (hv : ∀ t gs, v { t with grants := gs } = v t) (f : FieldId) (g : GroupId)
    (access : Access) : Keeps v (grant f g access) := by
  simp only [grant]
  exact bind' current' fun t => ite' (pure' _)
    (ite' (change' fun _ => hv _ _) (bind' (throw' _) fun _ => change' fun _ => hv _ _))

/-- Setting a workflow touches the workflows. -/
theorem keeps_setWorkflow (hv : ∀ t ws, v { t with workflows := ws } = v t) (f : FieldId)
    (enabled : Bool) : Keeps v (setWorkflow f enabled) := by
  simp only [setWorkflow]
  exact bind' current' fun t => ite' (change' fun _ => hv _ _)
    (ite' (change' fun _ => hv _ _) (bind' (throw' _) fun _ => change' fun _ => hv _ _))

/-- Adding a transition touches the workflows, the transitions, their groups and the transition
counter. -/
theorem keeps_addTransition (hw : ∀ t ws, v { t with workflows := ws } = v t)
    (htr : ∀ t trs n, v { t with transitions := trs, last := { t.last with transitions := n } } = v t)
    (hg : ∀ t gs, v { t with transitionGroups := gs } = v t)
    (f : FieldId) (source : Option ValueId) (target : ValueId) (groups : List GroupId) :
    Keeps v (addTransition f source target groups) := by
  simp only [addTransition]
  -- both ends must be choices of the field
  refine bind' (forIn' _ _ fun v _ => bind' current' fun t =>
    ite' (pure' _) (bind' (throw' _) fun _ => pure' _)) fun _ => ?_
  refine transaction' (bind' current' fun t => ?_)
  refine ite' ?_ (bind' (change' fun _ => hw _ _) fun _ => ?_)
  -- the edge is found or added, then each group is added to it
  all_goals
    split
    all_goals first
      | refine bind' (pure' _) fun tr => bind' (forIn' _ _ fun g _ => ?_) fun _ => pure' _
      | refine bind' (change' fun _ => htr _ _ _) fun _ =>
          bind' (pure' _) fun tr => bind' (forIn' _ _ fun g _ => ?_) fun _ => pure' _
  all_goals
    refine bind' current' fun t => ite' (pure' _) (ite' ?_ (bind' (throw' _) fun _ => ?_)) <;>
      exact bind' (change' fun _ => hg _ _) fun _ => pure' _

/-- Creating an artifact touches the artifacts and their counter. -/
theorem keeps_createArtifact
    (hv : ∀ t as n, v { t with artifacts := as, last := { t.last with artifacts := n } } = v t)
    (title : String) (author : Actor) : Keeps v (createArtifact title author) := by
  simp only [createArtifact]
  refine bind' current' fun t => ite' ?_ (bind' (throw' _) fun _ => ?_) <;>
    exact bind' (change' fun _ => hv _ _ _) fun _ => pure' _

/-- Deleting a choice touches the choices, the transitions and their groups. -/
theorem keeps_deleteChoice
    (hv : ∀ t cs trs gs, v { t with choices := cs, transitions := trs, transitionGroups := gs } = v t)
    (c : ValueId) : Keeps v (deleteChoice c) := by
  simp only [deleteChoice]
  exact bind' current' fun t => bind' (change' fun _ => hv _ _ _ _) fun _ => pure' _

/-- Renaming a choice touches the choices. -/
theorem keeps_renameChoice (hv : ∀ t cs, v { t with choices := cs } = v t) (c : ValueId)
    (label : String) : Keeps v (renameChoice c label) := by
  simp only [renameChoice]
  refine bind' current' fun t => ?_
  split
  · exact pure' _
  · refine ite' (bind' (throw' _) fun _ => ?_) ?_ <;>
      exact bind' (change' fun _ => hv _ _) fun _ => pure' _

end Writes

end Store
end ListField
