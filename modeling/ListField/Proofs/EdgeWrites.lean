import ListField.Proofs.OpenUnits

/-!
# What the writes of transitions do to the tables

Two administration writes change the transitions: adding one and deleting a choice. This file reads
each as a function of the tables, so that the invariants of the transitions are proved against that
function and not against the do-block.

* `forIn_run_of_step`: a loop of store operations is the fold of its passes. The two loops of
  adding a transition, over the ends and over the groups, fold `endStep` and `groupStep`.
* `addTransition_run`: adding a transition succeeds exactly outside a unit of work, when both ends
  are choices of the field and each group is one the transition has or one of the store. It then
  writes `Tables.addEdge`: the field gets a workflow, not enforced, when it has none; the transition
  keeps its id when it exists and is added with the next id of the counter when it does not
  (`Tables.edgeFor`); and it gets the groups it lacks (`addEdgeGroups`).
* `deleteChoice_tables`: deleting a choice removes it, the transitions ending at it and their
  groups.
-/

namespace ListField
namespace Store

/-! ## Loops of store operations as folds -/

/-- A loop whose every pass, from a store `s` and an element `a`, either fails or goes on from the
store `next s a`, runs as the fold of `next` over the list. -/
theorem forIn_run_of_step {γ : Type} {b : γ → PUnit → StoreM (ForInStep PUnit)}
    (next : Store → γ → Except StoreError Store)
    (hb : ∀ a s, (b a ⟨⟩).run s = (next s a).map fun s₁ => (ForInStep.yield ⟨⟩, s₁)) :
    ∀ (l : List γ) (s : Store),
      (forIn l ⟨⟩ b).run s = (l.foldlM next s).map fun s' => (⟨⟩, s') := by
  intro l
  induction l with
  | nil => intro s; rfl
  | cons a l ih =>
    intro s
    rw [List.forIn_cons, StateT.run_bind, hb, List.foldlM_cons]
    cases next s a with
    | error e => rfl
    | ok s₁ => exact ih s₁

/-! ## The loops over the groups and over the ends -/

/-- The pairs of `tg`, with the pair `(tr, g)` added in order for each group `g` of `gs` that is
not paired with `tr` yet. -/
def addEdgeGroups (tr : TransitionId) : List GroupId → List (TransitionId × GroupId) →
    List (TransitionId × GroupId)
  | [], tg => tg
  | g :: gs, tg => addEdgeGroups tr gs (if tg.contains (tr, g) then tg else tg ++ [(tr, g)])

theorem mem_addEdgeGroups {tr a : TransitionId} {g' : GroupId} :
    ∀ {gs : List GroupId} {tg : List (TransitionId × GroupId)},
      (a, g') ∈ addEdgeGroups tr gs tg ↔ (a, g') ∈ tg ∨ a = tr ∧ g' ∈ gs
  | [], tg => by simp [addEdgeGroups]
  | g :: gs, tg => by
    rw [addEdgeGroups, mem_addEdgeGroups]
    by_cases hg : (tr, g) ∈ tg
    · -- the pair is there already, and stands for `g`
      simp only [List.contains_iff_mem, hg, if_true, List.mem_cons]
      grind
    · simp only [List.contains_iff_mem, hg, if_false, List.mem_append, List.mem_cons, Prod.mk.injEq]
      grind

/-- A pair added for transition `tr` names a group of the store, when each group given is one the
transition has or one of the store. -/
theorem mem_addEdgeGroups_of_groups {t : Tables} {tr : TransitionId} {groups : List GroupId}
    (hg : ∀ g ∈ groups, (tr, g) ∈ t.transitionGroups ∨ ∃ x ∈ t.groups, x.id = g) :
    ∀ p ∈ addEdgeGroups tr groups t.transitionGroups,
      p ∈ t.transitionGroups ∨ p.1 = tr ∧ ∃ x ∈ t.groups, x.id = p.2 := by
  rintro ⟨a, g⟩ hp
  rcases mem_addEdgeGroups.1 hp with hp | ⟨rfl, hmem⟩
  · exact .inl hp
  · rcases hg g hmem with hhas | hex
    · exact .inl hhas
    · exact .inr ⟨rfl, hex⟩

/-- One pass of the loop over the groups of transition `tr`: a group it has is skipped, a group of
the store is added to it, and any other is refused. -/
def groupStep (tr : TransitionId) (s : Store) (g : GroupId) : Except StoreError Store :=
  if s.tables.transitionGroups.contains (tr, g) then .ok s
  else if s.tables.groups.any (·.id == g) then
    .ok { s with tables := { s.tables with transitionGroups := s.tables.transitionGroups ++ [(tr, g)] } }
  else .error (.sql .foreignKey)

/-- The loop over the groups succeeds exactly when each group is one the transition has or one of
the store, and then adds to the transition the groups it lacks. -/
theorem foldlM_groupStep_eq_ok (tr : TransitionId) (gs : List GroupId) :
    ∀ s s', gs.foldlM (groupStep tr) s = .ok s' ↔
      (∀ g ∈ gs, (tr, g) ∈ s.tables.transitionGroups ∨ ∃ x ∈ s.tables.groups, x.id = g) ∧
      s' = { s with tables := { s.tables with
        transitionGroups := addEdgeGroups tr gs s.tables.transitionGroups } } := by
  induction gs with
  | nil =>
    intro s s'
    rw [List.foldlM_nil]
    exact ⟨fun h => ⟨fun g hg => absurd hg List.not_mem_nil, (Except.ok.inj h).symm⟩,
      fun ⟨_, h⟩ => h ▸ rfl⟩
  | cons g gs ih =>
    intro s s'
    rw [List.foldlM_cons]
    by_cases hhas : (tr, g) ∈ s.tables.transitionGroups
    · -- a group the transition has is skipped
      have hstep : groupStep tr s g = .ok s := by simp [groupStep, hhas]
      rw [hstep, except_ok_bind, ih]
      simp [addEdgeGroups, hhas]
    · by_cases hex : ∃ x ∈ s.tables.groups, x.id = g
      · -- a group of the store is added; later passes see it as one the transition has
        have hstep : groupStep tr s g = .ok { s with tables := { s.tables with
            transitionGroups := s.tables.transitionGroups ++ [(tr, g)] } } := by
          simp [groupStep, hhas, hex]
        rw [hstep, except_ok_bind, ih]
        simp only [addEdgeGroups, List.contains_iff_mem, hhas, if_false, List.mem_append,
          List.mem_singleton, Prod.mk.injEq, true_and, List.forall_mem_cons]
        grind
      · have hstep : groupStep tr s g = .error (.sql .foreignKey) := by
          simp only [groupStep, List.contains_iff_mem, hhas, if_false]
          simp only [List.any_eq_true, beq_iff_eq] at hex ⊢
          rw [if_neg hex]
        rw [hstep, except_error_bind]
        simp [hhas, hex]

/-- One pass of the loop over the ends of a new transition of field `f`: an end that is not a
choice of the field is refused. -/
def endStep (f : FieldId) (s : Store) (v : ValueId) : Except StoreError Store :=
  if s.tables.choices.any (fun c => c.id == v && c.field == f) then .ok s else .error (.missing .choice v)

/-- The loop over the ends succeeds exactly when each end is a choice of the field, and changes
nothing. -/
theorem foldlM_endStep_eq_ok (f : FieldId) (s s' : Store) (l : List ValueId) :
    l.foldlM (endStep f) s = .ok s' ↔
      (∀ v ∈ l, s.tables.choices.any (fun c => c.id == v && c.field == f)) ∧ s' = s := by
  induction l with
  | nil =>
    rw [List.foldlM_nil]
    exact ⟨fun h => ⟨fun a ha => absurd ha List.not_mem_nil, (Except.ok.inj h).symm⟩,
      fun ⟨_, h⟩ => h ▸ rfl⟩
  | cons v l ih =>
    by_cases hv : s.tables.choices.any (fun c => c.id == v && c.field == f)
    · rw [List.foldlM_cons, endStep, if_pos hv, except_ok_bind, ih]
      simp only [List.forall_mem_cons, hv, true_and]
    · rw [List.foldlM_cons, endStep, if_neg hv, except_error_bind]
      simp only [reduceCtorEq, List.forall_mem_cons, hv, false_and]

end Store

/-! ## Adding a transition, as a function of the tables -/

namespace Tables

/-- The tables with a workflow, not enforced, for field `f` when it has none. -/
def ensureWorkflow (t : Tables) (f : FieldId) : Tables :=
  if t.workflows.any (·.1 == f) then t else { t with workflows := t.workflows ++ [(f, false)] }

/-- The tables with transition `source → target` of field `f` at the end, numbered by the
counter. -/
def pushEdge (t : Tables) (f : FieldId) (source : Option ValueId) (target : ValueId) : Tables :=
  { t with transitions := t.transitions ++ [⟨t.last.transitions + 1, f, source, target⟩],
           last := { t.last with transitions := t.last.transitions + 1 } }

/-- The id of transition `source → target` of field `f`: the stored one, or else the next id of
the counter. -/
def edgeFor (t : Tables) (f : FieldId) (source : Option ValueId) (target : ValueId) : TransitionId :=
  (Store.findTransition t f source target).getD (t.last.transitions + 1)

/-- The tables after adding transition `source → target` to field `f` for `groups`: the field gets
a workflow when it has none, the transition is added when it is missing, and it gets each group of
`groups` it lacks. -/
def addEdge (t : Tables) (f : FieldId) (source : Option ValueId) (target : ValueId)
    (groups : List GroupId) : Tables :=
  let t₁ := match Store.findTransition t f source target with
    | some _ => t.ensureWorkflow f
    | none => (t.ensureWorkflow f).pushEdge f source target
  { t₁ with transitionGroups := Store.addEdgeGroups (t.edgeFor f source target) groups t.transitionGroups }

variable {t : Tables} {f : FieldId} {source : Option ValueId} {target : ValueId}
  {groups : List GroupId}

@[simp] theorem ensureWorkflow_transitions : (t.ensureWorkflow f).transitions = t.transitions := by
  unfold ensureWorkflow; split <;> rfl

@[simp] theorem ensureWorkflow_last : (t.ensureWorkflow f).last = t.last := by
  unfold ensureWorkflow; split <;> rfl

@[simp] theorem ensureWorkflow_groups : (t.ensureWorkflow f).groups = t.groups := by
  unfold ensureWorkflow; split <;> rfl

/-- A field without a workflow gets one that is defined and not enforced; one with a workflow
keeps it. -/
theorem workflowState_ensureWorkflow :
    Store.workflowState (t.ensureWorkflow f) f =
      if Store.workflowState t f = .absent then .defined else Store.workflowState t f := by
  unfold ensureWorkflow Store.workflowState
  by_cases hw : t.workflows.any (·.1 == f) = true
  · rw [if_pos hw]
    cases hx : t.workflows.find? (·.1 == f) with
    | none =>
      -- a workflow of the field is there, so one is found
      have hsome := List.find?_isSome.2 (List.any_eq_true.1 hw)
      rw [hx] at hsome
      cases hsome
    | some w => rcases w with ⟨_, _ | _⟩ <;> rfl
  · have hnone : t.workflows.find? (·.1 == f) = none := by
      rw [List.find?_eq_none]
      intro x hx hxf
      exact hw (List.any_eq_true.2 ⟨x, hx, hxf⟩)
    rw [if_neg hw, hnone, List.find?_append, hnone]
    simp

theorem addEdge_of_find_some {tr : TransitionId} (h : Store.findTransition t f source target = some tr) :
    t.addEdge f source target groups =
      { t.ensureWorkflow f with transitionGroups := Store.addEdgeGroups tr groups t.transitionGroups } := by
  simp [addEdge, edgeFor, h]

theorem addEdge_of_find_none (h : Store.findTransition t f source target = none) :
    t.addEdge f source target groups =
      { (t.ensureWorkflow f).pushEdge f source target with
        transitionGroups := Store.addEdgeGroups (t.last.transitions + 1) groups t.transitionGroups } := by
  simp [addEdge, edgeFor, h]

@[simp] theorem addEdge_transitionGroups :
    (t.addEdge f source target groups).transitionGroups =
      Store.addEdgeGroups (t.edgeFor f source target) groups t.transitionGroups := rfl

@[simp] theorem addEdge_groups : (t.addEdge f source target groups).groups = t.groups := by
  cases h : Store.findTransition t f source target with
  | some tr => simp [addEdge_of_find_some h]
  | none => simp [addEdge_of_find_none h, pushEdge]

theorem workflowState_addEdge :
    Store.workflowState (t.addEdge f source target groups) f =
      if Store.workflowState t f = .absent then .defined else Store.workflowState t f := by
  rw [← workflowState_ensureWorkflow]
  cases h : Store.findTransition t f source target with
  | some tr => rw [addEdge_of_find_some h]; rfl
  | none => rw [addEdge_of_find_none h]; rfl

end Tables

namespace Store

/-- After the loop over the groups, adding a transition answers with its id. -/
theorem groupLoop_eq_ok {groups : List GroupId} {tr₀ tr : TransitionId} {s₂ s' : Store} :
    ((Except.map (fun s' => (PUnit.unit, s')) (groups.foldlM (groupStep tr₀) s₂)) >>=
        fun p => Except.ok (tr₀, p.2)) = .ok (tr, s') ↔
      (∀ g ∈ groups, (tr₀, g) ∈ s₂.tables.transitionGroups ∨
        ∃ x ∈ s₂.tables.groups, x.id = g) ∧
      tr = tr₀ ∧ s' = { s₂ with tables := { s₂.tables with
        transitionGroups := addEdgeGroups tr₀ groups s₂.tables.transitionGroups } } := by
  cases h : groups.foldlM (groupStep tr₀) s₂ with
  | error e =>
    -- the loop failed, so some group is neither the transition's nor one of the store
    simp only [Except.map, except_error_bind, reduceCtorEq, false_iff]
    rintro ⟨hg, -, -⟩
    have hok := (foldlM_groupStep_eq_ok tr₀ groups s₂ _).2 ⟨hg, rfl⟩
    rw [h] at hok
    cases hok
  | ok s₃ =>
    obtain ⟨hg, rfl⟩ := (foldlM_groupStep_eq_ok tr₀ groups s₂ s₃).1 h
    simp only [Except.map, except_ok_bind, Except.ok.injEq, Prod.mk.injEq]
    constructor
    · rintro ⟨rfl, rfl⟩
      exact ⟨hg, rfl, rfl⟩
    · rintro ⟨-, rfl, rfl⟩
      exact ⟨rfl, rfl⟩

/-- Adding a transition succeeds exactly outside a unit of work, when both ends are choices of the
field and each group is one the transition has or one of the store; it then writes the tables
`addEdge` gives and answers the id of the edge. -/
theorem addTransition_run {f : FieldId} {source : Option ValueId} {target : ValueId}
    {groups : List GroupId} {tr : TransitionId} {s s' : Store} :
    (addTransition f source target groups).run s = .ok (tr, s') ↔
      (∀ v ∈ source.toList ++ [target], s.tables.choices.any (fun c => c.id == v && c.field == f)) ∧
      s.units = [] ∧
      (∀ g ∈ groups, (tr, g) ∈ s.tables.transitionGroups ∨ ∃ x ∈ s.tables.groups, x.id = g) ∧
      tr = s.tables.edgeFor f source target ∧
      s' = { s with tables := s.tables.addEdge f source target groups } := by
  simp only [addTransition, StateT.run_bind]
  rw [forIn_run_of_step (endStep f)]
  swap
  · -- each pass of the first loop checks one end and changes nothing
    intro v s₀
    simp only [endStep, current, StateT.run_bind, StateT.run_get, StateT.run_pure, except_pure,
      except_ok_bind]
    split <;> rfl
  by_cases hends :
    ∀ v ∈ source.toList ++ [target], s.tables.choices.any (fun c => c.id == v && c.field == f)
  swap
  · -- an end that is not a choice of the field stops the first loop
    obtain ⟨e, he⟩ : ∃ e, (source.toList ++ [target]).foldlM (endStep f) s = .error e := by
      cases h : (source.toList ++ [target]).foldlM (endStep f) s with
      | error e => exact ⟨e, rfl⟩
      | ok s₁ => exact absurd ((foldlM_endStep_eq_ok f s s₁ _).1 h).1 hends
    rw [he]
    simp only [Except.map, except_error_bind, reduceCtorEq, false_iff]
    exact fun h => hends h.1
  rw [(foldlM_endStep_eq_ok f s s _).2 ⟨hends, rfl⟩]
  simp only [Except.map, except_ok_bind, transaction_run]
  by_cases hu : s.units = []
  swap
  · -- inside an open unit of work the transaction is refused
    rw [if_neg hu]
    simp only [reduceCtorEq, false_iff]
    exact fun h => hu h.2.1
  rw [if_pos hu]
  simp only [current, StateT.run_bind, StateT.run_get, StateT.run_pure, except_pure, except_ok_bind]
  -- the workflow is there or added, then the edge is found or added: four runs of the group loop
  by_cases hw : (s.tables.workflows.any fun x => x.fst == f) = true <;>
    cases hfind : findTransition s.tables f source target <;>
    simp only [hw, if_true, Bool.false_eq_true, if_false, change_run, except_ok_bind,
      StateT.run_pure, except_pure, StateT.run_bind]
  all_goals
    rw [forIn_run_of_step (groupStep (s.tables.edgeFor f source target))]
    swap
    · intro g s₀
      simp only [StateT.run_bind, StateT.run_get, StateT.run_pure, except_pure, except_ok_bind,
        groupStep, Tables.edgeFor, hfind, Option.getD_some, Option.getD_none]
      split
      · rfl
      · split <;> rfl
    simp only [Tables.edgeFor, hfind, Option.getD_some, Option.getD_none]
    rw [groupLoop_eq_ok]
  all_goals
    -- the tables written are those of `addEdge`, read in the same two cases
    have hedge : ∀ s₃ : Store, s₃.units = s.units → s₃.openWhenUngrouped = s.openWhenUngrouped →
        s₃.tables = s.tables.addEdge f source target groups →
        s₃ = { s with tables := s.tables.addEdge f source target groups } := by
      rintro ⟨t, u, o⟩ rfl rfl rfl
      rfl
    constructor
    · rintro ⟨hg, rfl, rfl⟩
      refine ⟨hends, hu, hg, rfl, hedge _ rfl rfl ?_⟩
      simp only [Tables.addEdge, Tables.ensureWorkflow, Tables.pushEdge, Tables.edgeFor, hw, hfind,
        if_true, Bool.false_eq_true, if_false, Option.getD_some, Option.getD_none]
    · rintro ⟨-, -, hg, rfl, rfl⟩
      refine ⟨hg, rfl, Eq.symm (hedge _ rfl rfl ?_)⟩
      simp only [Tables.addEdge, Tables.ensureWorkflow, Tables.pushEdge, Tables.edgeFor, hw, hfind,
        if_true, Bool.false_eq_true, if_false, Option.getD_some, Option.getD_none]

/-! ## Deleting a choice -/

/-- Deleting a choice removes it, the transitions ending at it and their groups. -/
theorem deleteChoice_tables {v : ValueId} {n : Nat} {s s' : Store}
    (h : (deleteChoice v).run s = .ok (n, s')) :
    ∃ gone : List TransitionId, s'.tables = { s.tables with
      choices := s.tables.choices.filter (·.id != v),
      transitions := s.tables.transitions.filter fun e => !gone.contains e.id,
      transitionGroups := s.tables.transitionGroups.filter fun p => !gone.contains p.1 } := by
  simp only [deleteChoice] at h
  obtain ⟨t, s₁, ht, h⟩ := run_bind_ok h
  rw [current_run] at ht
  cases ht
  obtain ⟨_, s₂, hc, h⟩ := run_bind_ok h
  rw [change_run] at hc
  cases hc
  cases h
  exact ⟨_, rfl⟩

end Store
end ListField
