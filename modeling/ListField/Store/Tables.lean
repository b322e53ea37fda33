import ListField.Access
import ListField.Choice.Basic
import ListField.Field
/-!
# The tables of a project store

A project store is a set of tables, each a list of rows in the order they were
added. Ids are handed out by counters: each table counts from 1, except choices,
which count from 101 across all fields so that no choice gets `noneId`. A counter
only moves forward, so an id is never handed out twice, not even after a row was
deleted; a write that fails or is rolled back leaves the counters as they were.

The tables and their rules:
* `users`: logins are unique and not blank;
* `groups`: names are unique and not blank; `members` pairs a group with a user;
* `fields`: names are unique and not blank;
* `choices`: the allowed values of each field, labels unique within a field; a
  choice of a user or group field points at its user or group;
* `grants`: access of a group on a field;
* `workflows`, `transitions`, `transitionGroups`: the workflow of each field;
* `artifacts`, `changesets`, `rows`: the history of field values; a row's list of ids is
  stored one position at a time and read back in the order of the positions.
-/

namespace ListField

/-- A project user. -/
structure UserRow where
  id : UserId
  login : String
  realName : Option String
  deriving DecidableEq, Repr

/-- A user group. -/
structure GroupRow where
  id : GroupId
  name : String
  deriving DecidableEq, Repr

/-- A stored choice of a field. -/
structure ChoiceRow where
  id : ValueId
  field : FieldId
  label : String
  description : Option String
  rank : Int
  hidden : Bool
  isDefault : Bool
  user : Option UserId
  group : Option GroupId
  decorator : Option Decorator
  deriving DecidableEq, Repr

/-- Access of a group on a field. -/
structure GrantRow where
  field : FieldId
  group : GroupId
  access : Access
  deriving DecidableEq, Repr

/-- A stored workflow transition. -/
structure EdgeRow where
  id : TransitionId
  field : FieldId
  source : Option ValueId
  target : ValueId
  deriving DecidableEq, Repr

/-- A work item. -/
structure ArtifactRow where
  id : ArtifactId
  title : String
  createdBy : UserId
  deriving DecidableEq, Repr

/-- A set of field values recorded together on an artifact. -/
structure ChangesetRow where
  id : ChangesetId
  artifact : ArtifactId
  submittedBy : UserId
  deriving DecidableEq, Repr

/-- One position of a stored list of ids. -/
structure ListEntry where
  position : Nat
  value : ValueId
  deriving DecidableEq, Repr

/-- The stored value of one field in one changeset: whether it records a new value or
copies the previous one, and its list of ids, one entry per position. The entries are the
rows of the list table that point at this row; they go with it, as the table's key begins
with the row's id and they are deleted with it. -/
structure ValueRow where
  id : RowId
  changeset : ChangesetId
  field : FieldId
  changed : Bool
  entries : List ListEntry
  deriving DecidableEq, Repr

namespace ListEntry

/-- The ids of `ids` at the positions from `p` on, as a list is written. -/
def numbered (p : Nat) : List ValueId → List ListEntry
  | [] => []
  | v :: vs => ⟨p, v⟩ :: numbered (p + 1) vs

/-- A stored list read back: its ids in the order of their positions. -/
def read (es : List ListEntry) : List ValueId :=
  (es.mergeSort fun a b => a.position ≤ b.position).map (·.value)

end ListEntry

/-- The ids of a row, in the order of their positions. -/
def ValueRow.values (r : ValueRow) : List ValueId := ListEntry.read r.entries

/-- The artifact as a JSON object. -/
def ArtifactRow.toJson (a : ArtifactRow) : Json :=
  .obj [("id", Json.int a.id), ("title", .str a.title), ("created_by", Json.int a.createdBy)]

/-- The changeset as a JSON object. -/
def ChangesetRow.toJson (c : ChangesetRow) : Json :=
  .obj [("id", Json.int c.id), ("artifact_id", Json.int c.artifact), ("submitted_by", Json.int c.submittedBy)]

/-- The value row as a JSON object. -/
def ValueRow.toJson (r : ValueRow) : Json :=
  .obj [("id", Json.int r.id), ("changeset_id", Json.int r.changeset), ("field_id", Json.int r.field),
    ("value_ids", Json.ints r.values), ("has_changed", .bool r.changed)]

/-- The last id handed out by each table. -/
structure Counters where
  users : Int := 0
  groups : Int := 0
  fields : Int := 0
  choices : Int := 100
  transitions : Int := 0
  artifacts : Int := 0
  changesets : Int := 0
  rows : Int := 0
  deriving DecidableEq, Repr

/-- All tables of a project store. -/
structure Tables where
  users : List UserRow := []
  groups : List GroupRow := []
  members : List (GroupId × UserId) := []
  fields : List Field := []
  choices : List ChoiceRow := []
  grants : List GrantRow := []
  workflows : List (FieldId × Bool) := []
  transitions : List EdgeRow := []
  transitionGroups : List (TransitionId × GroupId) := []
  artifacts : List ArtifactRow := []
  changesets : List ChangesetRow := []
  rows : List ValueRow := []
  last : Counters := {}
  deriving DecidableEq, Repr

end ListField
