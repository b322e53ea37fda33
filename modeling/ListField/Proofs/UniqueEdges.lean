import ListField.Proofs.Transitions

/-!
# One transition per pair of ends

No rule of the schema keeps two transitions of a field from joining the same ends: adding a
transition looks the edge up first (an unset start matching only an unset start) and adds a row
only when there is none (`addTransition_run`). This file shows that this keeps the edges unique in
every reachable store, and that adding a transition is idempotent.

* `findTransition_eq_none_iff`, `EdgesValid.findTransition_of_ends`: the lookup finds no edge
  exactly when none joins the ends, and with unique edges it finds the one that does.
* `Tables.EdgesValid`: no two transitions join the same ends, and each group of a transition is a
  group of the store, given to an id the counter has handed out. `Reachable.edgesValid`: every
  reachable store keeps it.
* `addTransition_unique_edges`: what adding a transition does in a reachable store. It answers the
  id of the existing edge, or a fresh id for a new edge without groups. The edge's groups become its
  groups and the given ones, and the field gets a workflow, not enforced, when it had none. It fails
  exactly when an end is not a choice of the field or a group does not exist, and then changes
  nothing.
-/

namespace ListField

/-- The field and the two ends that a transition joins. -/
def EdgeRow.ends (e : EdgeRow) : FieldId × Option ValueId × ValueId := (e.field, e.source, e.target)

theorem mem_sortedIds {ids : List Int} {x : Int} : x ∈ sortedIds ids ↔ x ∈ ids := by
  simp [sortedIds, Selection.mem_keepFirst]

namespace Store

/-! ## Reading transitions and their groups -/

variable {t : Tables} {f : FieldId} {source : Option ValueId} {target : ValueId} {tr : TransitionId}

theorem mem_transitionGroupsOf {g : GroupId} :
    g ∈ transitionGroupsOf t tr ↔ (tr, g) ∈ t.transitionGroups := by
  simp [transitionGroupsOf, mem_sortedIds]

theorem findTransition_eq_none_iff :
    findTransition t f source target = none ↔ ∀ e ∈ t.transitions, e.ends ≠ (f, source, target) := by
  simp only [findTransition, Option.map_eq_none_iff, List.find?_eq_none, EdgeRow.ends, ne_eq,
    Prod.mk.injEq, Bool.and_eq_true, beq_iff_eq, not_and]
  grind

theorem findTransition_eq_some (h : findTransition t f source target = some tr) :
    ∃ e ∈ t.transitions, e.id = tr ∧ e.ends = (f, source, target) := by
  obtain ⟨e, he, rfl⟩ := Option.map_eq_some_iff.1 h
  have hmem := List.mem_of_find?_eq_some he
  have hsat := List.find?_some he
  simp only [Bool.and_eq_true, beq_iff_eq] at hsat
  exact ⟨e, hmem, rfl, by simp [EdgeRow.ends, hsat]⟩

end Store

/-! ## Unique edges -/

namespace Tables

/-- What the workflow tables keep in every reachable store: no two transitions join the same ends,
and each group of a transition is a group of the store, given to an id the counter has handed
out. -/
structure EdgesValid (t : Tables) : Prop where
  ends_nodup : (t.transitions.map EdgeRow.ends).Nodup
  group_le : ∀ p ∈ t.transitionGroups, p.1 ≤ t.last.transitions
  group_mem : ∀ p ∈ t.transitionGroups, ∃ x ∈ t.groups, x.id = p.2

/-- The transitions, their counter and their groups. -/
def links (t : Tables) : (List EdgeRow × Int) × List (TransitionId × GroupId) :=
  (t.edges, t.transitionGroups)

namespace EdgesValid

variable {t t' : Tables}

/-- Removing transitions and their groups and adding groups of the store keep the edges valid. -/
theorem mono (ho : t.EdgesValid) (htr : t'.transitions.Sublist t.transitions)
    (hlast : t.last.transitions ≤ t'.last.transitions)
    (htg : ∀ p ∈ t'.transitionGroups, p ∈ t.transitionGroups)
    (hg : ∀ x ∈ t.groups, x ∈ t'.groups) :
    t'.EdgesValid where
  ends_nodup := ho.ends_nodup.sublist (htr.map _)
  group_le p hp := Int.le_trans (ho.group_le p (htg p hp)) hlast
  group_mem p hp := by
    obtain ⟨x, hx, hid⟩ := ho.group_mem p (htg p hp)
    exact ⟨x, hg x hx, hid⟩

theorem of_links_eq (ho : t.EdgesValid) (hl : t'.links = t.links)
    (hg : ∀ x ∈ t.groups, x ∈ t'.groups) : t'.EdgesValid := by
  obtain ⟨he, htg⟩ := Prod.mk.inj hl
  obtain ⟨htr, hlast⟩ := Prod.mk.inj he
  exact ho.mono (htr ▸ List.Sublist.refl _) (Int.le_of_eq hlast.symm) (fun p hp => htg ▸ hp) hg

theorem of_eq (ho : t.EdgesValid) (h : (t'.links, t'.groups) = (t.links, t.groups)) : t'.EdgesValid :=
  ho.of_links_eq (Prod.mk.inj h).1 fun _ hx => (Prod.mk.inj h).2 ▸ hx

/-- Adding a transition keeps the edges valid: an existing edge gets only groups, and a new one
joins ends that no transition joins yet, with the next id of the counter. -/
theorem addEdge (ho : t.EdgesValid) (hord : t.EdgesOrdered) {groups : List GroupId}
    (hg : ∀ g ∈ groups, (t.edgeFor f source target, g) ∈ t.transitionGroups ∨
      ∃ x ∈ t.groups, x.id = g) :
    (t.addEdge f source target groups).EdgesValid := by
  have hadd := Store.mem_addEdgeGroups_of_groups hg
  cases hfind : Store.findTransition t f source target with
  | some tr =>
    -- the edge exists: its id is one the counter handed out
    obtain ⟨e, he, rfl, -⟩ := Store.findTransition_eq_some hfind
    have hedge : t.edgeFor f source target = e.id := by simp [edgeFor, hfind]
    rw [hedge] at hadd
    rw [addEdge_of_find_some hfind]
    refine ⟨by simpa using ho.ends_nodup, fun p hp => ?_, fun p hp => ?_⟩ <;>
      rcases hadd p hp with hp | ⟨hid, hex⟩
    · simpa using ho.group_le p hp
    · simpa [hid] using hord.le_last e he
    · simpa using ho.group_mem p hp
    · simpa using hex
  | none =>
    -- the edge is new: no transition joins its ends, and it takes the next id
    have hnew := Store.findTransition_eq_none_iff.1 hfind
    have hedge : t.edgeFor f source target = t.last.transitions + 1 := by simp [edgeFor, hfind]
    rw [hedge] at hadd
    rw [addEdge_of_find_none hfind]
    refine ⟨?_, fun p hp => ?_, fun p hp => ?_⟩
    · simp only [pushEdge, ensureWorkflow_transitions, List.map_append, List.map_singleton]
      refine List.nodup_append.2 ⟨ho.ends_nodup, List.nodup_singleton _, ?_⟩
      intro a ha b hb hab
      obtain ⟨e, he, rfl⟩ := List.mem_map.1 ha
      rw [List.mem_singleton.1 hb] at hab
      exact hnew e he hab
    · rcases hadd p hp with hp | ⟨hid, -⟩
      · simpa [pushEdge] using Int.le_trans (ho.group_le p hp) (Int.le_add_one (Int.le_refl _))
      · simp [pushEdge, hid]
    · rcases hadd p hp with hp | ⟨-, hex⟩
      · simpa [pushEdge] using ho.group_mem p hp
      · simpa [pushEdge] using hex

/-- With the edges valid, the transition joining some ends is the one found for them. -/
theorem findTransition_of_ends (ho : t.EdgesValid) {e : EdgeRow} (he : e ∈ t.transitions)
    (hends : e.ends = (f, source, target)) : Store.findTransition t f source target = some e.id := by
  cases hfind : Store.findTransition t f source target with
  | none => exact absurd hends (Store.findTransition_eq_none_iff.1 hfind e he)
  | some tr =>
    -- the transition found joins the same ends, so it is `e`
    obtain ⟨e', he', rfl, hends'⟩ := Store.findTransition_eq_some hfind
    rw [List.inj_on_of_nodup_map ho.ends_nodup he' he (hends'.trans hends.symm)]

end EdgesValid
end Tables

/-! ## Every write keeps the edges valid -/

namespace Store

open Keeps

variable {s s' : Store}

/-- Creating the members group only adds groups. -/
theorem ensureMembersGroup_groups {g : GroupId} (h : ensureMembersGroup.run s = .ok (g, s')) :
    ∀ x ∈ s.tables.groups, x ∈ s'.tables.groups := by
  simp only [ensureMembersGroup] at h
  obtain ⟨t, s₁, ht, h⟩ := run_bind_ok h
  rw [current_run] at ht
  cases ht
  intro x hx
  split at h
  · rw [keeps_groupByName (v := Tables.groups) _ s g s' h]
    exact hx
  · obtain ⟨_, s₂, hc, h⟩ := run_bind_ok h
    rw [change_run] at hc
    cases hc
    rw [keeps_groupByName (v := Tables.groups) _ _ g s' h]
    exact List.mem_append_left _ hx

/-- Creating a group only adds groups. -/
theorem createGroup_groups {name : String} {g : GroupId} (h : (createGroup name).run s = .ok (g, s')) :
    ∀ x ∈ s.tables.groups, x ∈ s'.tables.groups := by
  simp only [createGroup, requireText] at h
  obtain ⟨t, s₁, ht, h⟩ := run_bind_ok h
  rw [current_run] at ht
  cases ht
  obtain ⟨_, s₂, hc, h⟩ := run_bind_ok h
  have e₂ : s₂.tables.groups = s.tables.groups := check' (v := Tables.groups) _ s () s₂ hc
  intro x hx
  split at h
  · obtain ⟨_, _, hthrow, -⟩ := run_bind_ok h
    cases hthrow
  · obtain ⟨_, s₃, hc, h⟩ := run_bind_ok h
    rw [change_run] at hc
    cases hc
    cases h
    exact List.mem_append_left _ (e₂ ▸ hx)

/-- Every administration write keeps the edges valid, in a store whose transitions come in id
order. -/
theorem AdminWrite.edgesValid {w : AdminWrite} (h : w.run.run s = .ok ((), s'))
    (ho : s.tables.EdgesValid) (hord : s.tables.EdgesOrdered) : s'.tables.EdgesValid := by
  cases w with
  | addTransition f source target groups =>
    obtain ⟨tr, s₁, h₁, h⟩ := run_bind_ok h
    cases h
    obtain ⟨-, -, hg, rfl, rfl⟩ := addTransition_run.1 h₁
    exact ho.addEdge hord hg
  | deleteChoice v =>
    obtain ⟨n, s₁, h₁, h⟩ := run_bind_ok h
    cases h
    obtain ⟨gone, ht⟩ := deleteChoice_tables h₁
    rw [ht]
    exact ho.mono List.filter_sublist (Int.le_refl _) (fun p hp => List.mem_of_mem_filter hp)
      fun x hx => hx
  -- the two writes that add groups keep the transitions and their groups
  | ensureMembersGroup =>
    obtain ⟨g, s₁, h₁, h⟩ := run_bind_ok h
    cases h
    exact ho.of_links_eq (keeps_ensureMembersGroup (v := Tables.links) (fun _ _ _ => rfl) s g s' h₁)
      (ensureMembersGroup_groups h₁)
  | createGroup name =>
    obtain ⟨g, s₁, h₁, h⟩ := run_bind_ok h
    cases h
    exact ho.of_links_eq (keeps_createGroup (v := Tables.links) (fun _ _ _ => rfl) name s g s' h₁)
      (createGroup_groups h₁)
  -- every other write keeps the transitions, their groups and the groups
  | createUser login realName =>
    exact ho.of_eq ((bind' (keeps_createUser (v := fun t => (t.links, t.groups)) (fun _ _ _ _ => rfl)
      login realName) fun _ => pure' _) s () s' h)
  | addMember g u =>
    exact ho.of_eq ((bind' (keeps_addMember (v := fun t => (t.links, t.groups)) (fun _ _ => rfl) g u)
      fun _ => pure' _) s () s' h)
  | createField name label source required multiple readOnly =>
    exact ho.of_eq ((bind' (keeps_createField (v := fun t => (t.links, t.groups)) (fun _ _ _ => rfl)
      name label source required multiple readOnly) fun _ => pure' _) s () s' h)
  | addChoice f new =>
    exact ho.of_eq ((bind' (keeps_addChoice (v := fun t => (t.links, t.groups)) (fun _ _ _ => rfl) f new)
      fun _ => pure' _) s () s' h)
  | grant f g access =>
    exact ho.of_eq ((bind' (keeps_grant (v := fun t => (t.links, t.groups)) (fun _ _ => rfl) f g access)
      fun _ => pure' _) s () s' h)
  | setWorkflow f enabled =>
    exact ho.of_eq ((bind' (keeps_setWorkflow (v := fun t => (t.links, t.groups)) (fun _ _ => rfl) f
      enabled) fun _ => pure' _) s () s' h)
  | createArtifact title author =>
    exact ho.of_eq ((bind' (keeps_createArtifact (v := fun t => (t.links, t.groups)) (fun _ _ _ => rfl)
      title author) fun _ => pure' _) s () s' h)
  | renameChoice v label =>
    exact ho.of_eq ((bind' (keeps_renameChoice (v := fun t => (t.links, t.groups)) (fun _ _ => rfl) v
      label) fun _ => pure' _) s () s' h)

/-- A submission leaves the transitions, their groups and the groups alone. -/
theorem submit_links {style : HistoryStyle} {a : Actor} {artifact : ArtifactId}
    {entries : List (FieldId × List ValueId)} {bypass : Bool} {rep : UpdateReport}
    (h : submit style a artifact entries bypass s = .ok (rep, s')) :
    (s'.tables.links, s'.tables.groups) = (s.tables.links, s.tables.groups) := by
  cases hc : rep.changeset with
  | none => rw [(submit_discarded h hc).1]
  | some c =>
    obtain ⟨-, -, -, new, n, -, rfl⟩ := submit_committed h hc
    rfl

/-- **Every reachable store keeps its edges valid.** -/
theorem Reachable.edgesValid (hs : Reachable s) : s.tables.EdgesValid := by
  induction hs with
  | migrated =>
    exact ⟨List.nodup_nil, fun _ h => absurd h List.not_mem_nil, fun _ h => absurd h List.not_mem_nil⟩
  | admin _ hs hrun ih => exact AdminWrite.edgesValid hrun ih hs.edgesOrdered
  | submit _ hrun ih => exact ih.of_eq (submit_links hrun)

/-! ## Adding a transition in a reachable store -/

/-- **Edges are unique, and adding a transition is idempotent.** In every reachable store no two
transitions join the same ends. Adding `source → target` to field `f` for `groups` succeeds exactly
when both ends are choices of `f` and each group exists. When a transition joins those ends it
answers its id and leaves the transitions alone; otherwise it answers an id above every
transition's, which no group was given to yet, and appends the new transition. Either way the
transition's groups become its groups and `groups`, and `f`'s workflow becomes defined when it was
absent and is otherwise kept. A failed addition leaves the store as it was. -/
theorem addTransition_unique_edges (hs : Reachable s) (f : FieldId) (source : Option ValueId)
    (target : ValueId) (groups : List GroupId) :
    (s.tables.transitions.map EdgeRow.ends).Nodup ∧
    ((∃ tr s', (addTransition f source target groups).run s = .ok (tr, s')) ↔
      (∀ v ∈ source.toList ++ [target], ∃ c ∈ s.tables.choices, c.id = v ∧ c.field = f) ∧
      ∀ g ∈ groups, ∃ x ∈ s.tables.groups, x.id = g) ∧
    (∀ tr s', (addTransition f source target groups).run s = .ok (tr, s') →
      (∀ e ∈ s.tables.transitions, e.ends = (f, source, target) →
        tr = e.id ∧ s'.tables.transitions = s.tables.transitions) ∧
      ((∀ e ∈ s.tables.transitions, e.ends ≠ (f, source, target)) →
        (∀ e ∈ s.tables.transitions, e.id < tr) ∧ transitionGroupsOf s.tables tr = [] ∧
        s'.tables.transitions = s.tables.transitions ++ [⟨tr, f, source, target⟩]) ∧
      (∀ g, g ∈ transitionGroupsOf s'.tables tr ↔
        g ∈ transitionGroupsOf s.tables tr ∨ g ∈ groups) ∧
      workflowState s'.tables f =
        if workflowState s.tables f = .absent then .defined else workflowState s.tables f) ∧
    ∀ e, (addTransition f source target groups).run s = .error e →
      (Op.admin (.addTransition f source target groups)).apply s = s := by
  have hv := hs.edgesValid
  have hord := hs.edgesOrdered
  -- a group some transition has is a group of the store
  have hgroups (tr : TransitionId) : (∀ g ∈ groups, (tr, g) ∈ s.tables.transitionGroups ∨
      ∃ x ∈ s.tables.groups, x.id = g) ↔ ∀ g ∈ groups, ∃ x ∈ s.tables.groups, x.id = g := by
    refine ⟨fun h g hg => ?_, fun h g hg => .inr (h g hg)⟩
    rcases h g hg with hhas | hex
    · exact hv.group_mem _ hhas
    · exact hex
  have hends :
      (∀ v ∈ source.toList ++ [target], s.tables.choices.any (fun c => c.id == v && c.field == f)) ↔
        ∀ v ∈ source.toList ++ [target], ∃ c ∈ s.tables.choices, c.id = v ∧ c.field = f := by
    simp
  refine ⟨hv.ends_nodup, ⟨fun ⟨tr, s', h⟩ => ?_, fun ⟨he, hg⟩ => ?_⟩, fun tr s' h => ?_,
    fun e h => ?_⟩
  · obtain ⟨he, -, hg, -, -⟩ := addTransition_run.1 h
    exact ⟨hends.1 he, (hgroups tr).1 hg⟩
  · exact ⟨_, _, addTransition_run.2 ⟨hends.2 he, hs.units_eq_nil, (hgroups _).2 hg, rfl, rfl⟩⟩
  · obtain ⟨-, -, -, rfl, rfl⟩ := addTransition_run.1 h
    refine ⟨fun e he hee => ?_, fun hnone => ?_, fun g => ?_, Tables.workflowState_addEdge⟩
    · -- the edge exists: it is the one found, and only gets groups
      have hfind := hv.findTransition_of_ends he hee
      refine ⟨by simp [Tables.edgeFor, hfind], ?_⟩
      rw [Tables.addEdge_of_find_some hfind]
      exact Tables.ensureWorkflow_transitions
    · -- the edge is new: it takes the next id of the counter, above every id handed out
      have hfind := findTransition_eq_none_iff.2 hnone
      have hedge : s.tables.edgeFor f source target = s.tables.last.transitions + 1 := by
        simp [Tables.edgeFor, hfind]
      rw [hedge]
      refine ⟨fun e he => Int.lt_add_one_iff.2 (hord.le_last e he), ?_, ?_⟩
      · rw [List.eq_nil_iff_forall_not_mem]
        intro g hg
        exact absurd (hv.group_le _ (mem_transitionGroupsOf.1 hg))
          (Int.not_le.2 (Int.lt_add_one_iff.2 (Int.le_refl _)))
      · rw [Tables.addEdge_of_find_none hfind]
        simp [Tables.pushEdge]
    · rw [mem_transitionGroupsOf, mem_transitionGroupsOf, Tables.addEdge_transitionGroups,
        mem_addEdgeGroups]
      simp
  · simp only [Op.apply, AdminWrite.run, StateT.run_bind, h, except_error_bind]

/-- After two choices of a field (numbered 101 and 102) and the transition from unset to the first,
adding the move from the first choice to the second for the members group, in a reachable store:
the move is added. -/
theorem addTransition_after_first_edge :
    let s := replay [.admin .ensureMembersGroup,
      .admin (.createField "status" "Status" .static false false false),
      .admin (.addChoice 1 { label := "Open" }), .admin (.addChoice 1 { label := "Closed" }),
      .admin (.addTransition 1 none 101 [])] {}
    Reachable s ∧ (∃ tr s', (addTransition 1 (some 101) 102 [1]).run s = .ok (tr, s')) ∧
    (s.tables.transitions.map EdgeRow.ends).Nodup ∧
    ((∃ tr s', (addTransition 1 (some 101) 102 [1]).run s = .ok (tr, s')) ↔
      (∀ v ∈ (some (101 : ValueId)).toList ++ [102], ∃ c ∈ s.tables.choices, c.id = v ∧ c.field = 1) ∧
      ∀ g ∈ [(1 : GroupId)], ∃ x ∈ s.tables.groups, x.id = g) ∧
    (∀ tr s', (addTransition 1 (some 101) 102 [1]).run s = .ok (tr, s') →
      (∀ e ∈ s.tables.transitions, e.ends = (1, some 101, 102) →
        tr = e.id ∧ s'.tables.transitions = s.tables.transitions) ∧
      ((∀ e ∈ s.tables.transitions, e.ends ≠ (1, some 101, 102)) →
        (∀ e ∈ s.tables.transitions, e.id < tr) ∧ transitionGroupsOf s.tables tr = [] ∧
        s'.tables.transitions = s.tables.transitions ++ [⟨tr, 1, some 101, 102⟩]) ∧
      (∀ g, g ∈ transitionGroupsOf s'.tables tr ↔
        g ∈ transitionGroupsOf s.tables tr ∨ g ∈ [1]) ∧
      workflowState s'.tables 1 =
        if workflowState s.tables 1 = .absent then .defined else workflowState s.tables 1) ∧
    ∀ e, (addTransition 1 (some 101) 102 [1]).run s = .error e →
      (Op.admin (.addTransition 1 (some 101) 102 [1])).apply s = s := by
  intro s
  have hs : Reachable s := Reachable.replay (.migrated true) _
  have hedges := addTransition_unique_edges hs 1 (some 101) 102 [1]
  -- both choices and the members group exist, so the move is added
  have hpre : (∀ v ∈ (some (101 : ValueId)).toList ++ [102],
      ∃ c ∈ s.tables.choices, c.id = v ∧ c.field = 1) ∧
      ∀ g ∈ [(1 : GroupId)], ∃ x ∈ s.tables.groups, x.id = g := by
    decide +kernel
  exact ⟨hs, hedges.2.1.2 hpre, hedges⟩

end Store
end ListField
