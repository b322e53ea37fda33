import ListField.Change
import ListField.Store.Admin
import ListField.Validation
/-!
# Artifact updates and history

`submit` records one changeset spanning every field of the project. For each field
it validates what was submitted, then writes the field's row: the new value when it
passed and differs, a copy of the previous row otherwise. A rejected field keeps
its previous value; the other fields still land in the same changeset.

The changeset and its rows are one unit of work. It is kept only when at least one
field records a new value and every field saved; otherwise it is rolled back and the
report says that nothing was recorded.

On a new artifact (no changeset yet) a field left untouched gets its default
choices, written without a permission check.

`history` is a field's audit trail on an artifact, and `snapshot` the latest values
of the fields an actor may read.
-/

namespace ListField

/-- How history is written: the separator of value lists and the label of "no value". -/
structure HistoryStyle where
  separator : String := ", "
  noneLabel : String := "None"

/-- What happened to one field in a changeset. -/
inductive Outcome where
  /-- A new value was recorded. -/
  | updated
  /-- The previous value was carried over, or there was nothing to write. -/
  | unchanged
  /-- The submitted value failed validation; the previous value was carried over. -/
  | rejected (errors : List FieldError)
  /-- The write did not persist. -/
  | failed
  deriving DecidableEq, Repr

/-- The outcome of one field. -/
structure FieldReport where
  field : FieldId
  name : String
  outcome : Outcome
  change : Option String := none
  deriving DecidableEq, Repr

/-- The outcome of a submission. -/
structure UpdateReport where
  artifact : ArtifactId
  changeset : Option ChangesetRow
  isSubmission : Bool
  fields : List FieldReport
  deriving DecidableEq, Repr

/-- Why a submission was refused as a whole. -/
inductive UpdateError where
  | store (e : StoreError)
  | unknownField (f : FieldId)
  deriving DecidableEq, Repr

/-- The sentence that reports a refused submission. -/
def UpdateError.message : UpdateError → String
  | .store e => e.message
  | .unknownField f => "field " ++ toString f ++ " is not a list field of this tracker"

/-- A rejected value as a JSON object. -/
def FieldError.toJson (e : FieldError) : Json :=
  .obj [("kind", .str e.kind.name), ("message", .str e.message)]

/-- The outcome as a JSON object tagged by `status`. -/
def Outcome.toJson : Outcome → Json
  | .updated => .obj [("status", .str "updated")]
  | .unchanged => .obj [("status", .str "unchanged")]
  | .rejected errors => .obj [("status", .str "rejected"), ("errors", .arr (errors.map FieldError.toJson))]
  | .failed => .obj [("status", .str "failed")]

/-- The field's outcome as a JSON object; the change only when there is one. -/
def FieldReport.toJson (f : FieldReport) : Json :=
  .obj ([("field_id", Json.int f.field), ("field", .str f.name), ("outcome", f.outcome.toJson)] ++
    (match f.change with | some c => [("change", .str c)] | none => []))

namespace UpdateReport

/-- The report as a JSON object. -/
def toJson (r : UpdateReport) : Json :=
  .obj [("artifact_id", Json.int r.artifact), ("changeset", Json.opt ChangesetRow.toJson r.changeset),
    ("is_submission", .bool r.isSubmission), ("fields", .arr (r.fields.map FieldReport.toJson))]

/-- Whether some field was rejected. -/
def hasRejections (r : UpdateReport) : Bool :=
  r.fields.any fun f => match f.outcome with | .rejected _ => true | _ => false

/-- Whether some field failed to save. -/
def hasFailures (r : UpdateReport) : Bool :=
  r.fields.any (·.outcome == .failed)

/-- The fields that recorded a new value. -/
def updated (r : UpdateReport) : List FieldReport :=
  r.fields.filter (·.outcome == .updated)

/-- The report of a submission whose changeset was rolled back. -/
def discarded (r : UpdateReport) : UpdateReport :=
  { r with changeset := none,
           fields := r.fields.map fun f =>
             if f.outcome == .updated then { f with outcome := .unchanged, change := none } else f }

end UpdateReport

/-- The submitted ids of each field; a field named twice keeps its last ids. -/
def submittedFor (entries : List (FieldId × List ValueId)) (f : FieldId) : Option (List ValueId) :=
  (entries.reverse.find? (·.1 == f)).map (·.2)

/-- The ids a field gets in a new changeset, and whether they are its defaults: on a new
artifact a field left untouched gets its default choices, any other field the ids
submitted for it, if any. -/
def FieldCheck.idsFor (fc : FieldCheck) (entries : List (FieldId × List ValueId))
    (isSubmission : Bool) : Option (List ValueId) × Bool :=
  let defaults :=
    if (submittedFor entries fc.field.id).isNone && isSubmission then fc.submitDefaults else []
  if defaults.isEmpty then (submittedFor entries fc.field.id, false) else (some defaults, true)

/-- Whether a field's value passes in a submission. Ids that skip the permission check
(with bypass, or the defaults of a new artifact) go through the required flag and the
value checks only; everything else through the full check of a submission. -/
def FieldCheck.judge (fc : FieldCheck) (r : Request) (previous : Option (List ValueId))
    (ids : Option (List ValueId)) (skipPermission isSubmission : Bool) : Bool × Request :=
  match ids with
  | some v =>
    if skipPermission then fc.checkRequiredAndValue r previous v
    else fc.checkSubmission r previous ids isSubmission
  | none => fc.checkSubmission r previous none isSubmission

namespace Store

/-- The report of a field whose value passed, from what the writer left in the tables:
failed when it did not save; updated, with the change from `previousIds`, when changeset
`fresh` holds a new value for the field; unchanged otherwise. -/
def reportSaved (style : HistoryStyle) (cs : Choices) (f : Field) (previousIds : List ValueId)
    (fresh : ChangesetId) (saved : Bool) (t : Tables) : FieldReport :=
  let base : FieldReport := { field := f.id, name := f.name, outcome := .failed }
  if !saved then base
  else
    match rowOf t fresh f.id with
    | some row =>
      if row.changed then
        { base with outcome := .updated,
                    change := Change.describe cs style.separator previousIds row.values }
      else { base with outcome := .unchanged }
    | none => { base with outcome := .unchanged }

/-- Validates and writes one field of a new changeset. -/
def recordField (style : HistoryStyle) (entries : List (FieldId × List ValueId)) (bypass : Bool)
    (artifact : ArtifactId) (previous : Option ChangesetId) (fresh : ChangesetId)
    (r : Request) (f : Field) : StoreM (FieldReport × Request) := do
  let s ← get
  let isSubmission := previous.isNone
  let cs := s.choicesOf f style.noneLabel
  let prevRow := previous.bind fun c => rowOf s.tables c f.id
  let previousValue := prevRow.map fun row => (cs.pick row.values).map (·.id)
  let previousIds := (prevRow.map (·.values)).getD []
  let fc := FieldCheck.make f cs s.lookup
  let (ids, fromDefaults) := fc.idsFor entries isSubmission
  let skipPermission := bypass || fromDefaults
  let (valid, r1) := fc.judge r previousValue ids skipPermission isSubmission
  let save : SaveRequest := { artifact, previous, fresh, submitted := if valid then ids else none,
                              isSubmission, bypass := skipPermission }
  let (saved, s1) := Writer.saveValue rowStore f cs r1 save s
  set s1
  if valid then return (reportSaved style cs f previousIds fresh saved s1.tables, r1)
  else return ({ field := f.id, name := f.name, outcome := .rejected (r1.errorsOf f.id) }, r1)

/-- Validates and writes every field in turn, sharing one request. -/
def recordFields (style : HistoryStyle) (entries : List (FieldId × List ValueId)) (bypass : Bool)
    (artifact : ArtifactId) (previous : Option ChangesetId) (fresh : ChangesetId) :
    Request → List Field → StoreM (List FieldReport)
  | _, [] => return []
  | r, f :: rest => do
    let (report, r1) ← recordField style entries bypass artifact previous fresh r f
    let reports ← recordFields style entries bypass artifact previous fresh r1 rest
    return report :: reports

/-- Creates the changeset and writes every field into it. -/
def record (style : HistoryStyle) (a : Actor) (artifact : ArtifactId)
    (entries : List (FieldId × List ValueId)) (bypass : Bool) (fs : List Field) :
    StoreM UpdateReport := do
  let previous := ((changesetsOf (← current) artifact).getLast?).map (·.id)
  let cset ← createChangeset artifact a
  let r : Request := { actor := a, grants := (← get).grants }
  let reports ← recordFields style entries bypass artifact previous cset.id r fs
  return { artifact, changeset := some cset, isSubmission := previous.isNone, fields := reports }

/-- Records a changeset on `artifact` with the submitted ids of each field. -/
def submit (style : HistoryStyle) (a : Actor) (artifact : ArtifactId)
    (entries : List (FieldId × List ValueId)) (bypass : Bool) (s : Store) :
    Except UpdateError (UpdateReport × Store) :=
  let fs := s.tables.fields
  match (sortedIds (entries.map (·.1))).find? (fun f => !fs.any (·.id == f)) with
  | some f => .error (.unknownField f)
  | none =>
    let run : StoreM UpdateReport := do
      beginUnit
      let report ← record style a artifact entries bypass fs
      if report.hasFailures || report.updated.isEmpty then
        rollbackUnit
        return report.discarded
      else
        commitUnit
        return report
    match run.run s with
    | .ok result => .ok result
    | .error e => .error (.store e)

/-- One step of a field's audit trail. -/
structure HistoryEntry where
  changeset : ChangesetRow
  change : Change
  rendered : String

/-- The entries of an audit trail from `before` on. -/
def historyFrom (t : Tables) (cs : Choices) (sep : String) (f : FieldId) :
    List ValueId → List ChangesetRow → List HistoryEntry
  | _, [] => []
  | before, c :: rest =>
    match rowOf t c.id f with
    | none => historyFrom t cs sep f before rest
    | some row =>
      match Change.between before row.values with
      | some ch => ⟨c, ch, ch.render cs sep⟩ :: historyFrom t cs sep f row.values rest
      | none => historyFrom t cs sep f row.values rest

/-- A field's audit trail on an artifact, oldest first; changesets that did not touch
the field's value are left out. Stored ids are shown as written, so a deleted
choice still shows up as `#<id>`. -/
def history (style : HistoryStyle) (s : Store) (artifact : ArtifactId) (f : Field) :
    List HistoryEntry :=
  historyFrom s.tables (s.choicesOf f style.noneLabel) style.separator f.id []
    (changesetsOf s.tables artifact)

/-- The entry as a JSON object. -/
def HistoryEntry.toJson (e : HistoryEntry) : Json :=
  .obj [("changeset", e.changeset.toJson), ("diff", e.change.toJson), ("rendered", .str e.rendered)]

/-- A field's value in the latest changeset of an artifact. -/
structure FieldSnapshot where
  field : Field
  values : List Choice
  labels : List String

/-- The snapshot as a JSON object. -/
def FieldSnapshot.toJson (f : FieldSnapshot) : Json :=
  .obj [("field", f.field.toJson), ("values", .arr (f.values.map Choice.toJson)),
    ("labels", .arr (f.labels.map Json.str))]

/-- The choices a field holds in changeset `c`, skipping ids that name no choice. -/
def valuesIn (s : Store) (cs : Choices) (c : ChangesetId) (f : FieldId) : List Choice :=
  match rowOf s.tables c f with
  | some row => cs.pick row.values
  | none => []

/-- The latest values of every field the actor may read. -/
def snapshot (style : HistoryStyle) (s : Store) (a : Actor) (artifact : ArtifactId) :
    List FieldSnapshot :=
  let last := ((changesetsOf s.tables artifact).getLast?).map (·.id)
  let r : Request := { actor := a, grants := s.grants }
  (s.tables.fields.filter fun f => r.can .read f.id).map fun f =>
    let cs := s.choicesOf f style.noneLabel
    let values := match last with | some c => s.valuesIn cs c f.id | none => []
    { field := f, values, labels := values.map cs.display }

/-- Whether the actor named `login` has `access` on field `f`. -/
def can (login : String) (f : FieldId) (access : Access) : StoreM Bool := do
  let a ← actor login
  match (← get).grants a f access with
  | .ok b => return b
  | .error e => throw e

/-- Whether the actor named `login` may take transition `tr`. -/
def mayTake (tr : TransitionId) (login : String) : StoreM Bool := do
  let a ← actor login
  match (← get).lookup.authorizes tr a with
  | .ok b => return b
  | .error e => throw e

/-- The change of a field between two changesets, as a sentence. -/
def followUp (style : HistoryStyle) (s : Store) (f : Field) (source : Option ChangesetId)
    (target : ChangesetId) : Option String :=
  let ids := fun c => ((rowOf s.tables c f.id).map (·.values)).getD []
  Change.describe (s.choicesOf f style.noneLabel) style.separator
    ((source.map ids).getD []) (ids target)

end Store
end ListField
