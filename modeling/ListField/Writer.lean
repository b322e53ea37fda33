import ListField.Request
import ListField.Choices
/-!
# Writing a field's value into a new changeset

Every changeset holds a row for each field. `saveValue` decides, for one field, what
that row is:

* a read-only field gets nothing, and counts as saved;
* a field with a previous row gets the submitted value when the actor may write it
  and it differs from the previous one as a set, and a copy of the previous row
  otherwise (copy-forward);
* a field without a previous row gets the submitted value when the actor may write
  it, nothing when nothing was submitted, and is not saved otherwise.

A new value is stored normalized. The writer never validates; callers hand it only
values that passed. Any failure of the row store counts as "not saved".

Rows live in a store of any type `σ`, reached through `RowStore`.
-/

namespace ListField

/-- The stored values of one field in one changeset. -/
structure StoredRow where
  id : RowId
  changeset : ChangesetId
  field : FieldId
  values : List ValueId
  changed : Bool
  deriving DecidableEq, Repr

/-- The row operations a writer needs, over a store of type `σ`. -/
structure RowStore (σ : Type) where
  /-- The row of a field in a changeset. -/
  load : σ → ChangesetId → FieldId → Except StoreError (Option StoredRow)
  /-- Stores a new value as a changed row. -/
  insert : σ → ChangesetId → FieldId → List ValueId → Except StoreError (RowId × σ)
  /-- Copies an existing row forward as an unchanged row; `false` when it is gone. -/
  link : σ → ChangesetId → FieldId → RowId → Except StoreError (Bool × σ)

/-- What to write for one field. -/
structure SaveRequest where
  artifact : ArtifactId
  previous : Option ChangesetId
  fresh : ChangesetId
  submitted : Option (List ValueId)
  isSubmission : Bool
  bypass : Bool

namespace Writer

/-- Whether the actor may write the field: always with `bypass`; on a new artifact
with submit access, or when the field is required and has defaults; afterwards with
update access. -/
def mayWrite (f : Field) (cs : Choices) (r : Request) (s : SaveRequest) : Bool :=
  s.bypass ||
    (if s.isSubmission then r.can .submit f.id || (f.required && !cs.defaults.isEmpty)
     else r.can .update f.id)

/-- Stores `ids` normalized as the field's new row. -/
def insertRow {σ : Type} (rs : RowStore σ) (f : Field) (s : SaveRequest) (ids : List ValueId)
    (st : σ) : Bool × σ :=
  match rs.insert st s.fresh f.id (Selection.normalize ids) with
  | .ok (_, st') => (true, st')
  | .error _ => (false, st)

/-- Copies the previous row forward. -/
def copyForward {σ : Type} (rs : RowStore σ) (f : Field) (s : SaveRequest) (prev : StoredRow)
    (st : σ) : Bool × σ :=
  match rs.link st s.fresh f.id prev.id with
  | .ok (b, st') => (b, st')
  | .error _ => (false, st)

/-- Writes the field's row of the new changeset, and tells whether it was saved. -/
def saveValue {σ : Type} (rs : RowStore σ) (f : Field) (cs : Choices) (r : Request)
    (s : SaveRequest) (st : σ) : Bool × σ :=
  if f.readOnly then (true, st)
  else
    let allowed := mayWrite f cs r s
    let loaded := match s.previous with
      | some c => rs.load st c f.id
      | none => .ok none
    match loaded with
    | .error _ => (false, st)
    | .ok (some prev) =>
      match s.submitted with
      | some ids =>
        if allowed && Selection.changes prev.values ids then insertRow rs f s ids st
        else copyForward rs f s prev st
      | none => copyForward rs f s prev st
    | .ok none =>
      match s.submitted with
      | none => (true, st)
      | some ids => if allowed then insertRow rs f s ids st else (false, st)

theorem saveValue_readOnly {σ : Type} (rs : RowStore σ) (f : Field) (cs : Choices) (r : Request)
    (s : SaveRequest) (st : σ) (h : f.readOnly = true) : saveValue rs f cs r s st = (true, st) := by
  simp [saveValue, h]

end Writer
end ListField
