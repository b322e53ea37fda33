import ListField.Proofs.Canonical
import ListField.Writer

/-!
# What the writer does to one field

The writer of a new changeset (`Writer.saveValue`) reads at most one row, the field's row in the
previous changeset, and writes at most one: a new value, or a copy of the previous row, always
for the field in the new changeset (`RowWrite`, done by `RowStore.perform`). Which one, and what
it answers, depends on whether the field is read-only, on the actor's right to write it, on the
previous row, on what was submitted and on the store's answers.

`saveValue_outcome` gives the whole table: a read-only field gets nothing and counts as saved; a
failed read counts as not saved; with a previous row, a new value goes in exactly when the actor
may write, something was submitted and it names other values than the previous row, and the row
is copied forward otherwise; without one, nothing happens when nothing was submitted, a new value
goes in when the actor may write, and otherwise nothing is written and the field is not saved.
A write that the store refuses counts as not saved and leaves the store as it was.
-/

namespace ListField

/-- A write of the writer to a field's row of the new changeset: a new value, or a copy of an
existing row. -/
inductive RowWrite where
  | insert (ids : List ValueId)
  | link (row : RowId)
  deriving DecidableEq, Repr

/-- Does one write to field `f`'s row of changeset `c`, and tells whether it persisted: a new value
persists when the store takes it, a copy when the store takes it and still has its source row. A
store error leaves the store as it was. -/
def RowStore.perform {σ : Type} (rs : RowStore σ) (c : ChangesetId) (f : FieldId) (st : σ) :
    RowWrite → Bool × σ
  | .insert ids =>
    match rs.insert st c f ids with
    | .ok (_, st') => (true, st')
    | .error _ => (false, st)
  | .link row =>
    match rs.link st c f row with
    | .ok (b, st') => (b, st')
    | .error _ => (false, st)

namespace Writer

open Selection

variable {σ : Type} (rs : RowStore σ) (f : Field) (cs : Choices) (r : Request) (s : SaveRequest)
  (st : σ)

theorem insertRow_eq_perform (ids : List ValueId) :
    insertRow rs f s ids st = rs.perform s.fresh f.id st (.insert (normalize ids)) := rfl

theorem copyForward_eq_perform (prev : StoredRow) :
    copyForward rs f s prev st = rs.perform s.fresh f.id st (.link prev.id) := rfl

/-- **The writer's outcome.** For any row store, field, choices, request and save request: the
writer reads the field's row in the previous changeset (none without a previous changeset), then
makes at most one write, for the field in the new changeset, and answers whether the field is
saved. The actor's right to write (`mayWrite`) holds always with `bypass`; on a new artifact, with
submit access or for a required field with defaults; afterwards, with update access. A read-only
field gets nothing and is saved; a failed read means not saved. With a previous row, the submitted
ids, normalized, are stored exactly when the actor may write and they name other values than the
previous row; otherwise the previous row is copied forward. Without one, nothing is written and the
field is saved when nothing was submitted; submitted ids are stored when the actor may write, and
otherwise nothing is written and the field is not saved. A write persists or not as
`RowStore.perform` says: a store error is a failure. -/
theorem saveValue_outcome :
    mayWrite f cs r s = (s.bypass ||
      if s.isSubmission then r.can .submit f.id || (f.required && !cs.defaults.isEmpty)
      else r.can .update f.id) ∧
    saveValue rs f cs r s st =
      if f.readOnly then (true, st)
      else
        match (s.previous.map fun c => rs.load st c f.id).getD (.ok none), s.submitted with
        | .error _, _ => (false, st)
        | .ok (some prev), some ids =>
          if mayWrite f cs r s = true ∧ valueSet prev.values ≠ valueSet ids then
            rs.perform s.fresh f.id st (.insert (normalize ids))
          else rs.perform s.fresh f.id st (.link prev.id)
        | .ok (some prev), none => rs.perform s.fresh f.id st (.link prev.id)
        | .ok none, none => (true, st)
        | .ok none, some ids =>
          if mayWrite f cs r s then rs.perform s.fresh f.id st (.insert (normalize ids))
          else (false, st) := by
  refine ⟨rfl, ?_⟩
  cases hro : f.readOnly
  · -- the read, then the writer's five ends, split as the table splits them
    cases hp : s.previous with
    | none =>
      cases hsub : s.submitted <;> simp [saveValue, hro, hp, hsub, insertRow_eq_perform]
    | some c =>
      rcases hl : rs.load st c f.id with e | _ | prev <;> cases hsub : s.submitted <;>
        simp [saveValue, hro, hp, hl, hsub, insertRow_eq_perform, copyForward_eq_perform, changes_iff]
  · simp [saveValue, hro]

end Writer
end ListField
