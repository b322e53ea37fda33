import ListField.Store.Tables
import ListField.Choices
import ListField.Request
import ListField.Workflow
import ListField.Writer
/-!
# The project store

A `Store` is the tables of a project together with the stack of open units of work.
Opening a unit remembers the tables; committing forgets the memory; rolling back
puts the remembered tables back. Units nest: the innermost one is committed or
rolled back first.

Operations run in `StoreM`. An operation that fails leaves the store exactly as it
was, so each operation is atomic. An operation that runs as a transaction of its own
is refused while a unit is open.

This module holds the reads: users and their groups, fields and their choices,
grants, workflows and stored value rows, and the views that validation and the
writer use (`grants`, `lookup`, `rowStore`). It also holds the writes of value rows,
which run statement by statement on the connection inside a savepoint (`SqlM`).
-/

namespace ListField

/-- A project store: its tables, the open units of work (innermost first, each
holding the tables as they were when it opened), and whether a transition that
names no group is open to everyone. -/
structure Store where
  tables : Tables := {}
  units : List Tables := []
  openWhenUngrouped : Bool := true

/-- An operation on the store; a failure leaves the store unchanged. -/
abbrev StoreM := StateT Store (Except StoreError)

/-- The built-in group every new user joins. -/
def membersGroupName : String := "ugroup_project_members_name_key"

/-- Ids in increasing order, each once. -/
def sortedIds (ids : List Int) : List Int :=
  Selection.keepFirst [] (ids.mergeSort (· ≤ ·))

namespace Store

/-- The current tables. -/
def current : StoreM Tables := return (← get).tables

/-- Changes the tables. -/
def change (f : Tables → Tables) : StoreM Unit :=
  modify fun s => { s with tables := f s.tables }

/-- Runs `body` as a transaction of its own; refused while a unit of work is open. -/
def transaction {α : Type} (body : StoreM α) : StoreM α := do
  if (← get).units.isEmpty then body else throw (.sql .nestedTransaction)

/-! ## Units of work -/

/-- Opens a unit of work. -/
def beginUnit : StoreM Unit :=
  modify fun s => { s with units := s.tables :: s.units }

/-- Keeps what the innermost unit wrote and closes it. -/
def commitUnit : StoreM Unit := do
  match (← get).units with
  | [] => throw (.sql (.noSuchSavepoint "changeset_unit"))
  | _ :: rest => modify fun s => { s with units := rest }

/-- Undoes what the innermost unit wrote and closes it. -/
def rollbackUnit : StoreM Unit := do
  match (← get).units with
  | [] => throw (.sql (.noSuchSavepoint "changeset_unit"))
  | saved :: rest => modify fun s => { s with tables := saved, units := rest }

/-! ## Users and groups -/

/-- The user with login `login`. -/
def userByLogin? (t : Tables) (login : String) : Option UserRow :=
  t.users.find? (·.login == login)

/-- The groups of user `u`, in increasing id order. -/
def groupsOf (t : Tables) (u : UserId) : List GroupId :=
  sortedIds ((t.members.filter (·.2 == u)).map (·.1))

/-- The user with login `login` (blanks around it ignored), with their groups. -/
def actor (login : String) : StoreM Actor := do
  let t ← current
  let l := Text.trim login
  match userByLogin? t l with
  | some u => return { id := u.id, login := l, groups := groupsOf t u.id }
  | none => throw (.notFound .user login)

/-- The group named `name` (blanks around it ignored). -/
def groupByName (name : String) : StoreM GroupId := do
  match (← current).groups.find? (·.name == Text.trim name) with
  | some g => return g.id
  | none => throw (.notFound .group name)

/-- The name of group `g`. -/
def groupName (g : GroupId) : StoreM String := do
  match (← current).groups.find? (·.id == g) with
  | some row => return row.name
  | none => throw (.missing .group g)

/-! ## Fields and choices -/

/-- The field with id `f`. -/
def field (f : FieldId) : StoreM Field := do
  match (← current).fields.find? (·.id == f) with
  | some row => return row
  | none => throw (.missing .field f)

/-- The field named by `key`: an id if it reads as one, else a name (blanks around
it ignored). -/
def fieldByKey (key : String) : StoreM Field := do
  match readId key with
  | .ok f => field f
  | .error _ =>
    match (← current).fields.find? (·.name == Text.trim key) with
    | some row => return row
    | none => throw (.notFound .field key)

/-- All fields, in id order. -/
def fields : StoreM (List Field) := return (← current).fields

/-- A stored choice as the field shows it: a user's choice shows the login and real
name, a group's choice the group name. -/
def choiceOf (t : Tables) (r : ChoiceRow) : Choice :=
  let user := r.user.bind fun u => t.users.find? (·.id == u)
  let group := r.group.bind fun g => t.groups.find? (·.id == g)
  let label := match user, group with
    | some u, _ => u.login
    | none, some g => g.name
    | none, none => r.label
  let description := match user.bind (·.realName) with
    | some n => some n
    | none => r.description
  { id := r.id, label, description, hidden := r.hidden, isDefault := r.isDefault,
    decorator := r.decorator }

/-- Whether choice row `a` comes before `b`: by rank, then by id. -/
def choiceBefore (a b : ChoiceRow) : Bool :=
  a.rank < b.rank || (a.rank == b.rank && a.id ≤ b.id)

/-- The choices of field `f`, in their configured order. -/
def loadChoices (t : Tables) (f : FieldId) : List Choice :=
  ((t.choices.filter (·.field == f)).mergeSort choiceBefore).map (choiceOf t)

/-- The choices of a field, shown with `noneLabel` for "no value". -/
def choicesOf (s : Store) (f : Field) (noneLabel : String) : Choices :=
  { field := f.id, source := f.source, values := loadChoices s.tables f.id, noneLabel }

/-! ## Grants -/

/-- Whether an actor's groups hold one of `accesses` on field `f`. -/
def granted (t : Tables) (a : Actor) (f : FieldId) (accesses : List Access) : Bool :=
  t.grants.any fun g => g.field == f && a.memberOf g.group && accesses.contains g.access

/-- Permissions as the store grants them; update access also grants reading. -/
def grants (s : Store) : Grants := fun a f access =>
  .ok (granted s.tables a f (match access with | .read => [.read, .update] | other => [other]))

/-! ## Workflows -/

/-- The state of field `f`'s workflow. -/
def workflowState (t : Tables) (f : FieldId) : WorkflowState :=
  match t.workflows.find? (·.1 == f) with
  | some (_, true) => .enabled
  | some (_, false) => .defined
  | none => .absent

/-- The first transition of field `f` from `source` to `target`. -/
def findTransition (t : Tables) (f : FieldId) (source : Option ValueId) (target : ValueId) :
    Option TransitionId :=
  (t.transitions.find? fun e => e.field == f && e.target == target && e.source == source).map (·.id)

/-- The groups allowed to take transition `tr`, in increasing id order. -/
def transitionGroupsOf (t : Tables) (tr : TransitionId) : List GroupId :=
  sortedIds ((t.transitionGroups.filter (·.1 == tr)).map (·.2))

/-- Workflows as the store holds them. -/
def lookup (s : Store) : WorkflowLookup where
  state f := .ok (workflowState s.tables f)
  find f source target := .ok (findTransition s.tables f source target)
  authorizes tr a :=
    if s.tables.transitions.any (·.id == tr) then
      let gs := transitionGroupsOf s.tables tr
      .ok (if gs.isEmpty then s.openWhenUngrouped else a.memberOfAny gs)
    else .error (.missing .transition tr)

/-- The workflow of field `f`, if it has one. -/
def workflow (s : Store) (f : FieldId) : Option Workflow :=
  match workflowState s.tables f with
  | .absent => none
  | st =>
    some { field := f, enabled := st == .enabled, openWhenUngrouped := s.openWhenUngrouped,
           transitions := (s.tables.transitions.filter (·.field == f)).map fun e =>
             { id := e.id, source := e.source, target := e.target,
               groups := transitionGroupsOf s.tables e.id } }

/-! ## Value rows

A value row is written on the connection (`SqlM`) in several statements: its head, then its ids
one position at a time. A statement that fails leaves what the statements before it wrote, so
each write of a value runs in a savepoint, which rolls all of it back. -/

/-- A write on the connection: a failure passes its error on and leaves the tables as the
failing statement found them. -/
abbrev SqlM := EStateM StoreError Tables

/-- Runs `write` in a savepoint: what it wrote is kept when it succeeds and rolled back to the
tables the savepoint saw when it fails, and the error is passed on. Unlike a transaction, a
savepoint nests under an open unit of work. -/
def inSavepoint {α : Type} (write : SqlM α) : SqlM α := fun saved =>
  match write.run saved with
  | .ok a t => .ok a t
  | .error e _ => .error e saved

/-- Runs a write of the connection on the store's tables; when it fails, the store is left as
it was. -/
def onConnection {α : Type} (write : SqlM α) : StoreM α := fun s =>
  match write.run s.tables with
  | .ok a t => .ok (a, { s with tables := t })
  | .error e _ => .error e

/-- The row of field `f` in changeset `c`. -/
def rowOf (t : Tables) (c : ChangesetId) (f : FieldId) : Option ValueRow :=
  t.rows.find? fun r => r.changeset == c && r.field == f

/-- A value row as the writer sees it, its ids in the order of their positions. -/
def ValueRow.stored (r : ValueRow) : StoredRow :=
  { id := r.id, changeset := r.changeset, field := r.field, values := r.values, changed := r.changed }

/-- Adds the head of a row for field `f` in changeset `c`, with no ids yet, numbered by the row
counter. Refused when a row already has that number (the counter keeps it free), when the
changeset already has a row for the field, and when the changeset or the field does not
exist. -/
def insertHead (c : ChangesetId) (f : FieldId) (changed : Bool) : SqlM RowId := do
  let t : Tables ← get
  let id := t.last.rows + 1
  if t.rows.any (·.id == id) then throw (.sql (.unique ["changeset_values.changeset_value_id"]))
  if (rowOf t c f).isSome then
    throw (.sql (.unique ["changeset_values.changeset_id", "changeset_values.field_id"]))
  unless t.changesets.any (·.id == c) && t.fields.any (·.id == f) do throw (.sql .foreignKey)
  set ({ t with rows := t.rows ++ [⟨id, c, f, changed, []⟩], last := { t.last with rows := id } } : Tables)
  return id

/-- Adds entry `e` to the list of row `id`. Refused when it holds `noneId`, when the row
already has an id at that position, and when there is no row `id`. -/
def insertEntry (id : RowId) (e : ListEntry) : SqlM Unit := do
  let t : Tables ← get
  if e.value == noneId then throw (.sql (.check "value_id <> 100"))
  if t.rows.any fun r => r.id == id && r.entries.any (·.position == e.position) then
    throw (.sql (.unique ["changeset_value_list.changeset_value_id", "changeset_value_list.position"]))
  unless t.rows.any (·.id == id) do throw (.sql .foreignKey)
  set ({ t with rows := t.rows.map fun r => if r.id == id then { r with entries := r.entries ++ [e] } else r } :
    Tables)

/-- Adds the entries `es` to the list of row `id`, one at a time. -/
def insertEntries (id : RowId) (es : List ListEntry) : SqlM Unit :=
  es.forM (insertEntry id)

/-- The statements that write a new value of field `f` in changeset `c`: a head marked
changed, then the ids at positions `0, 1, …`. -/
def writeValue (c : ChangesetId) (f : FieldId) (ids : List ValueId) : SqlM RowId := do
  let id ← insertHead c f true
  insertEntries id (ListEntry.numbered 0 ids)
  return id

/-- Stores a new value of field `f` in changeset `c`, in one savepoint. -/
def insertValue (c : ChangesetId) (f : FieldId) (ids : List ValueId) : SqlM RowId :=
  inSavepoint (writeValue c f ids)

/-- Copies row `existing` forward into changeset `c`: a head marked unchanged, then the entries
of `existing` at their positions, in one savepoint; `false`, with nothing written, when the row
is gone. -/
def linkValue (c : ChangesetId) (f : FieldId) (existing : RowId) : SqlM Bool :=
  inSavepoint do
    match (← get).rows.find? (·.id == existing) with
    | none => return false
    | some src =>
      let id ← insertHead c f false
      insertEntries id src.entries
      return true

/-- Stores a new value of field `f` in changeset `c`. -/
def insertRow (c : ChangesetId) (f : FieldId) (ids : List ValueId) : StoreM RowId :=
  onConnection (insertValue c f ids)

/-- Copies row `existing` forward into changeset `c`; `false` when it is gone. -/
def linkRow (c : ChangesetId) (f : FieldId) (existing : RowId) : StoreM Bool :=
  onConnection (linkValue c f existing)

/-- The store's value rows, as the writer reaches them. -/
def rowStore : RowStore Store where
  load s c f := .ok ((rowOf s.tables c f).map ValueRow.stored)
  insert s c f ids := (insertRow c f ids).run s
  link s c f existing := (linkRow c f existing).run s

end Store
end ListField
