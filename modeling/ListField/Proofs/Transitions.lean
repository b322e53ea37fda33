import ListField.Proofs.EdgeWrites

/-!
# The transitions of a reachable store come in id order

The store looks a workflow transition up as the first matching row of its transitions table
(`Store.findTransition`), and a field's workflow lists its transitions in table order. Both stand
for the matching transition of lowest id because the table is kept in increasing id order
(`Tables.EdgesOrdered`): a new transition takes the next id of the counter and goes at the end,
and deleting a choice only removes transitions.

* By its frame (`Keeps`), every administration write but adding a transition and deleting a choice
  keeps the transitions and their counter (`Tables.edges`).
* `addTransition_edges`, `deleteChoice_edges`: what those two do to them, read off
  `addTransition_run` and `deleteChoice_tables`.
* `Reachable.edgesOrdered`: in every reachable store the transitions come in id order.
-/

namespace ListField

/-- The transitions of the tables, with the last id their counter handed out. -/
def Tables.edges (t : Tables) : List EdgeRow × Int := (t.transitions, t.last.transitions)

/-- The transitions come in increasing id order, none with an id above the counter. -/
structure Tables.EdgesOrdered (t : Tables) : Prop where
  sorted : t.transitions.Pairwise fun e e' => e.id < e'.id
  le_last : ∀ e ∈ t.transitions, e.id ≤ t.last.transitions

namespace Tables.EdgesOrdered

variable {t t' : Tables}

theorem of_edges_eq (ho : t.EdgesOrdered) (h : t'.edges = t.edges) : t'.EdgesOrdered := by
  obtain ⟨htr, hlast⟩ := Prod.mk.inj h
  exact ⟨htr ▸ ho.sorted, htr ▸ hlast ▸ ho.le_last⟩

/-- A transition added at the end with the next id of the counter keeps the order. -/
theorem append (ho : t.EdgesOrdered) {e : EdgeRow} (he : e.id = t.last.transitions + 1)
    (htr : t'.transitions = t.transitions ++ [e]) (hlast : t'.last.transitions = e.id) :
    t'.EdgesOrdered where
  sorted := by
    rw [htr, List.pairwise_append]
    refine ⟨ho.sorted, List.pairwise_singleton _ _, fun x hx y hy => ?_⟩
    rw [List.mem_singleton.1 hy, he]
    exact Int.lt_add_one_iff.2 (ho.le_last x hx)
  le_last x hx := by
    rw [htr, List.mem_append, List.mem_singleton] at hx
    rcases hx with hx | rfl
    · exact hlast ▸ he ▸ Int.le_add_one (ho.le_last x hx)
    · exact Int.le_of_eq hlast.symm

/-- Removing transitions keeps the order. -/
theorem filter (ho : t.EdgesOrdered) (p : EdgeRow → Bool) (htr : t'.transitions = t.transitions.filter p)
    (hlast : t'.last.transitions = t.last.transitions) : t'.EdgesOrdered where
  sorted := htr ▸ ho.sorted.filter p
  le_last x hx := hlast ▸ ho.le_last x (List.mem_of_mem_filter (htr ▸ hx))

end Tables.EdgesOrdered

namespace Store

open Keeps

/-- Deleting a choice removes transitions and leaves their counter alone. -/
theorem deleteChoice_edges {v : ValueId} {n : Nat} {s s' : Store}
    (h : (deleteChoice v).run s = .ok (n, s')) :
    ∃ p, s'.tables.transitions = s.tables.transitions.filter p ∧
      s'.tables.last.transitions = s.tables.last.transitions := by
  obtain ⟨gone, ht⟩ := deleteChoice_tables h
  rw [ht]
  exact ⟨_, rfl, rfl⟩

/-- Adding a transition leaves the transitions alone when the edge exists, and otherwise appends
it with the next id of the counter. -/
theorem addTransition_edges {f : FieldId} {source : Option ValueId} {target : ValueId}
    {groups : List GroupId} {tr : TransitionId} {s s' : Store}
    (h : (addTransition f source target groups).run s = .ok (tr, s')) :
    s'.tables.edges = s.tables.edges ∨
      ∃ e : EdgeRow, e.id = s.tables.last.transitions + 1 ∧
        s'.tables.transitions = s.tables.transitions ++ [e] ∧ s'.tables.last.transitions = e.id := by
  obtain ⟨-, -, -, -, rfl⟩ := addTransition_run.1 h
  cases hfind : findTransition s.tables f source target with
  | some tr₀ =>
    -- the edge exists: only its groups are added
    left
    rw [Tables.addEdge_of_find_some hfind]
    simp [Tables.edges]
  | none =>
    right
    rw [Tables.addEdge_of_find_none hfind]
    exact ⟨⟨s.tables.last.transitions + 1, f, source, target⟩, rfl, by simp [Tables.pushEdge],
      by simp [Tables.pushEdge]⟩

/-- Every administration write keeps the transitions in id order. -/
theorem AdminWrite.edgesOrdered {w : AdminWrite} {s s' : Store} (h : w.run.run s = .ok ((), s'))
    (ho : s.tables.EdgesOrdered) : s'.tables.EdgesOrdered := by
  cases w with
  | addTransition f source target groups =>
    obtain ⟨tr, s₁, h₁, h⟩ := run_bind_ok h
    cases h
    rcases addTransition_edges h₁ with e | ⟨e, he, htr, hlast⟩
    · exact ho.of_edges_eq e
    · exact ho.append he htr hlast
  | deleteChoice v =>
    obtain ⟨n, s₁, h₁, h⟩ := run_bind_ok h
    cases h
    obtain ⟨p, htr, hlast⟩ := deleteChoice_edges h₁
    exact ho.filter p htr hlast
  -- every other write keeps the transitions and their counter
  | ensureMembersGroup =>
    exact ho.of_edges_eq ((bind' (keeps_ensureMembersGroup (v := Tables.edges) fun _ _ _ => rfl)
      fun _ => pure' _) s () s' h)
  | createUser login realName =>
    exact ho.of_edges_eq ((bind' (keeps_createUser (v := Tables.edges) (fun _ _ _ _ => rfl) login
      realName) fun _ => pure' _) s () s' h)
  | createGroup name =>
    exact ho.of_edges_eq ((bind' (keeps_createGroup (v := Tables.edges) (fun _ _ _ => rfl) name)
      fun _ => pure' _) s () s' h)
  | addMember g u =>
    exact ho.of_edges_eq ((bind' (keeps_addMember (v := Tables.edges) (fun _ _ => rfl) g u)
      fun _ => pure' _) s () s' h)
  | createField name label source required multiple readOnly =>
    exact ho.of_edges_eq ((bind' (keeps_createField (v := Tables.edges) (fun _ _ _ => rfl) name label
      source required multiple readOnly) fun _ => pure' _) s () s' h)
  | addChoice f new =>
    exact ho.of_edges_eq ((bind' (keeps_addChoice (v := Tables.edges) (fun _ _ _ => rfl) f new)
      fun _ => pure' _) s () s' h)
  | grant f g access =>
    exact ho.of_edges_eq ((bind' (keeps_grant (v := Tables.edges) (fun _ _ => rfl) f g access)
      fun _ => pure' _) s () s' h)
  | setWorkflow f enabled =>
    exact ho.of_edges_eq ((bind' (keeps_setWorkflow (v := Tables.edges) (fun _ _ => rfl) f enabled)
      fun _ => pure' _) s () s' h)
  | createArtifact title author =>
    exact ho.of_edges_eq ((bind' (keeps_createArtifact (v := Tables.edges) (fun _ _ _ => rfl) title
      author) fun _ => pure' _) s () s' h)
  | renameChoice v label =>
    exact ho.of_edges_eq ((bind' (keeps_renameChoice (v := Tables.edges) (fun _ _ => rfl) v label)
      fun _ => pure' _) s () s' h)

/-- A submission leaves the transitions and their counter alone: it adds a changeset and rows, or
nothing. -/
theorem submit_edges {style : HistoryStyle} {a : Actor} {artifact : ArtifactId}
    {entries : List (FieldId × List ValueId)} {bypass : Bool} {s s' : Store} {rep : UpdateReport}
    (h : submit style a artifact entries bypass s = .ok (rep, s')) : s'.tables.edges = s.tables.edges := by
  cases hc : rep.changeset with
  | none => rw [(submit_discarded h hc).1]
  | some c =>
    obtain ⟨-, -, -, new, n, -, rfl⟩ := submit_committed h hc
    rfl

/-- **The transitions of a reachable store come in id order**, none above the counter. -/
theorem Reachable.edgesOrdered {s : Store} (hs : Reachable s) : s.tables.EdgesOrdered := by
  induction hs with
  | migrated => exact ⟨List.Pairwise.nil, fun _ h => (List.not_mem_nil h).elim⟩
  | admin _ _ hrun ih => exact AdminWrite.edgesOrdered hrun ih
  | submit _ hrun ih => exact ih.of_edges_eq (submit_edges hrun)

end Store
end ListField
