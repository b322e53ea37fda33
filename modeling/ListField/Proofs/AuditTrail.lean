import Mathlib.Data.List.Forall2
import ListField.Proofs.ChangeLaws
import ListField.Update

/-!
# The audit trail replays the stored history

A field's audit trail on an artifact (`Store.history`) walks the artifact's changesets in order,
skips those without a row for the field, and compares each row with the last one seen. Read the
other way round: take the values the field stored, in order (`storedValues`), pair each with the
one stored before it, no value before the first (`steps`), and keep the steps whose sets of
values differ. The trail has exactly one entry for each such step, in order: its changeset, the
diff of the step and the diff's sentence (`history_replays_stored_values`). Since each change
leads from the old values to the new ones (`Change.apply_between`), applying the entries' changes
in order to the empty set gives the values the field stored last.

This holds of any tables, not only of reachable ones: a changeset with several rows for the field
is read through its first, as `rowOf` reads it.
-/

namespace ListField
namespace Store

open Selection

/-- The values field `f` stored in the changesets `cs` that have a row for it, in order, each with
its changeset. -/
def storedValues (t : Tables) (f : FieldId) (cs : List ChangesetRow) :
    List (ChangesetRow × List ValueId) :=
  cs.filterMap fun c => (rowOf t c.id f).map fun row => (c, row.values)

/-- The steps of a field's stored values: each value with the one stored before it, `before` ahead
of the first. -/
def steps (before : List ValueId) (vs : List (ChangesetRow × List ValueId)) :
    List (List ValueId × ChangesetRow × List ValueId) :=
  List.zip (before :: vs.map (·.2)) vs

/-- The audit entry of a step that changes the field's value. -/
def stepEntry (cs : Choices) (sep : String) (step : List ValueId × ChangesetRow × List ValueId) :
    Option HistoryEntry :=
  (Change.between step.1 step.2.2).map fun d => ⟨step.2.1, d, d.render cs sep⟩

section Trail

variable {t : Tables} {cs : Choices} {sep : String} {f : FieldId}

theorem storedValues_cons_of_none {c : ChangesetRow} {rest : List ChangesetRow}
    (h : rowOf t c.id f = none) : storedValues t f (c :: rest) = storedValues t f rest := by
  simp [storedValues, h]

theorem storedValues_cons_of_some {c : ChangesetRow} {rest : List ChangesetRow} {row : ValueRow}
    (h : rowOf t c.id f = some row) :
    storedValues t f (c :: rest) = (c, row.values) :: storedValues t f rest := by
  simp [storedValues, h]

theorem steps_cons (before : List ValueId) (c : ChangesetRow) (vals : List ValueId)
    (vs : List (ChangesetRow × List ValueId)) :
    steps before ((c, vals) :: vs) = (before, c, vals) :: steps vals vs := rfl

/-- The trail from `before` on is the entries of the steps of the stored values that change the
value. -/
theorem historyFrom_eq_filterMap (before : List ValueId) (l : List ChangesetRow) :
    historyFrom t cs sep f before l = (steps before (storedValues t f l)).filterMap (stepEntry cs sep) := by
  induction l generalizing before with
  | nil => rfl
  | cons c rest ih =>
    cases h : rowOf t c.id f with
    | none => simp only [historyFrom, h, storedValues_cons_of_none h, ih]
    | some row =>
      simp only [historyFrom, h, storedValues_cons_of_some h, steps_cons, List.filterMap_cons]
      cases hd : Change.between before row.values with
      | none => simp only [stepEntry, hd, Option.map_none, ih]
      | some d => simp only [stepEntry, hd, Option.map_some, ih]

/-- The entries of a list of steps match, one for one and in order, the steps whose sets of
values differ. -/
theorem forall₂_filterMap_stepEntry (L : List (List ValueId × ChangesetRow × List ValueId)) :
    List.Forall₂ (fun (e : HistoryEntry) (step : List ValueId × ChangesetRow × List ValueId) =>
        e.changeset = step.2.1 ∧ Change.between step.1 step.2.2 = some e.change ∧
          e.rendered = e.change.render cs sep)
      (L.filterMap (stepEntry cs sep)) (L.filter fun step => valueSet step.1 ≠ valueSet step.2.2) := by
  induction L with
  | nil => exact .nil
  | cons step L ih =>
    cases hd : Change.between step.1 step.2.2 with
    | none =>
      -- the same values: the step has no entry and is filtered out
      have hsame := Change.between_eq_none_iff.1 hd
      rw [List.filterMap_cons_none (by simp [stepEntry, hd]),
        List.filter_cons_of_neg (by simp [hsame])]
      exact ih
    | some d =>
      have hne : valueSet step.1 ≠ valueSet step.2.2 := fun e => by
        rw [← Change.between_eq_none_iff, hd] at e
        cases e
      have he : stepEntry cs sep step = some ⟨step.2.1, d, d.render cs sep⟩ := by
        simp [stepEntry, hd]
      rw [List.filterMap_cons_some he, List.filter_cons_of_pos (by simpa using hne)]
      exact .cons ⟨rfl, hd, rfl⟩ ih

/-- The last stored value of a list that starts with `(c, vals)`: the last of the rest, or
`vals` when there is no rest. -/
theorem getLast?_cons_values (x : ChangesetRow × List ValueId) (vs : List (ChangesetRow × List ValueId))
    (d : List ValueId) :
    (((x :: vs).getLast?.map (·.2)).getD d) = ((vs.getLast?.map (·.2)).getD x.2) := by
  cases vs with
  | nil => rfl
  | cons y ys =>
    obtain ⟨z, hz⟩ := Option.isSome_iff_exists.1 (List.getLast?_isSome.2 (List.cons_ne_nil y ys))
    rw [List.getLast?_cons_cons, hz]
    rfl

/-- Applying the trail's changes from `before` on, to the values of `before`, gives the values
stored last (those of `before` when nothing was stored). -/
theorem foldl_apply_historyFrom (before : List ValueId) (l : List ChangesetRow) :
    (historyFrom t cs sep f before l).foldl (fun vals e => e.change.apply vals) (valueSet before) =
      valueSet (((storedValues t f l).getLast?.map (·.2)).getD before) := by
  induction l generalizing before with
  | nil => rfl
  | cons c rest ih =>
    cases h : rowOf t c.id f with
    | none => simp only [historyFrom, h, storedValues_cons_of_none h, ih]
    | some row =>
      rw [storedValues_cons_of_some h, getLast?_cons_values]
      cases hd : Change.between before row.values with
      | none =>
        -- no entry: the values were already those of the row
        simp only [historyFrom, h, hd]
        rw [Change.between_eq_none_iff.1 hd]
        exact ih row.values
      | some d =>
        simp only [historyFrom, h, hd, List.foldl_cons]
        rw [Change.apply_between hd]
        exact ih row.values

theorem storedValues_append (l₁ l₂ : List ChangesetRow) :
    storedValues t f (l₁ ++ l₂) = storedValues t f l₁ ++ storedValues t f l₂ :=
  List.filterMap_append

/-- The trail over two runs of changesets is the trail over the first, then the trail over the
second from the value stored last in the first. -/
theorem historyFrom_append (before : List ValueId) (l₁ l₂ : List ChangesetRow) :
    historyFrom t cs sep f before (l₁ ++ l₂) =
      historyFrom t cs sep f before l₁ ++
        historyFrom t cs sep f (((storedValues t f l₁).getLast?.map (·.2)).getD before) l₂ := by
  induction l₁ generalizing before with
  | nil => rfl
  | cons c rest ih =>
    cases h : rowOf t c.id f with
    | none => simp only [List.cons_append, historyFrom, h, storedValues_cons_of_none h, ih]
    | some row =>
      rw [storedValues_cons_of_some h, getLast?_cons_values]
      cases hd : Change.between before row.values with
      | none => simp only [List.cons_append, historyFrom, h, hd, ih]
      | some d => simp only [List.cons_append, historyFrom, h, hd, ih]

/-- Every entry of a trail names one of the changesets it walked. -/
theorem changeset_mem_of_mem_historyFrom {before : List ValueId} {l : List ChangesetRow}
    {e : HistoryEntry} (he : e ∈ historyFrom t cs sep f before l) : e.changeset ∈ l := by
  induction l generalizing before with
  | nil => cases he
  | cons c rest ih =>
    cases h : rowOf t c.id f with
    | none =>
      simp only [historyFrom, h] at he
      exact List.mem_cons_of_mem _ (ih he)
    | some row =>
      cases hd : Change.between before row.values with
      | none =>
        simp only [historyFrom, h, hd] at he
        exact List.mem_cons_of_mem _ (ih he)
      | some d =>
        simp only [historyFrom, h, hd, List.mem_cons] at he
        rcases he with rfl | he
        · exact List.mem_cons_self
        · exact List.mem_cons_of_mem _ (ih he)

end Trail

/-- **The audit trail replays the stored history.** For any tables, artifact and field, let the
field's stored values be those of the artifact's changesets that have a row for it, in order. The
audit trail has exactly one entry for each step between consecutive stored values (no value before
the first) whose sets of values differ, in order: the entry names the step's changeset, holds the
diff of the step, and its text is the diff's sentence. Applying the entries' changes in order to
the empty set gives the set of values stored last. -/
theorem history_replays_stored_values (style : HistoryStyle) (s : Store) (artifact : ArtifactId)
    (f : Field) :
    List.Forall₂ (fun (e : HistoryEntry) (step : List ValueId × ChangesetRow × List ValueId) =>
        e.changeset = step.2.1 ∧ Change.between step.1 step.2.2 = some e.change ∧
          e.rendered = e.change.render (s.choicesOf f style.noneLabel) style.separator)
      (s.history style artifact f)
      ((steps [] (storedValues s.tables f.id (changesetsOf s.tables artifact))).filter
        fun step => valueSet step.1 ≠ valueSet step.2.2) ∧
    (s.history style artifact f).foldl (fun vals e => e.change.apply vals) ∅ =
      valueSet (((storedValues s.tables f.id (changesetsOf s.tables artifact)).getLast?.map
        (·.2)).getD []) := by
  refine ⟨?_, ?_⟩
  · rw [history, historyFrom_eq_filterMap]
    exact forall₂_filterMap_stepEntry _
  · rw [← valueSet_nil]
    exact foldl_apply_historyFrom [] _

end Store
end ListField
