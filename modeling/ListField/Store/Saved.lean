import ListField.Store.Tables
import ListField.Text.JsonRead
/-!
# Saving a store

The tables of a store are saved as one JSON document, a member per table holding
its rows in order, and the id counters. `Tables.ofJson` reads back exactly what
`Tables.toJson` wrote; a document of another shape is refused as a whole.
-/

namespace ListField
namespace Saved

/-- Member `key` of an object, as an integer. -/
def int (j : Json) (key : String) : Option Int := (j.get? key).bind Json.int?

/-- Member `key` of an object, as a string. -/
def str (j : Json) (key : String) : Option String := (j.get? key).bind Json.str?

/-- Member `key` of an object, as a truth value. -/
def bool (j : Json) (key : String) : Option Bool := (j.get? key).bind Json.bool?

/-- Member `key` of an object, which may be absent or `null`. -/
def optional {α : Type} (read : Json → Option α) (j : Json) (key : String) : Option (Option α) :=
  match j.get? key with
  | none => some none
  | some v => (read v).map some

/-- Member `key` of an object, as an array read item by item. -/
def items {α : Type} (read : Json → Option α) (j : Json) (key : String) : Option (List α) :=
  (j.get? key).bind Json.arr? |>.bind (·.mapM read)

/-- A pair of integers as a two-item array. -/
def pair (p : Int × Int) : Json := Json.ints [p.1, p.2]

/-- A pair of integers read from a two-item array. -/
def pair? (j : Json) : Option (Int × Int) :=
  match j with
  | .arr [a, b] => do return (← a.int?, ← b.int?)
  | _ => none

end Saved

open Saved

namespace UserRow

/-- The row as a JSON object. -/
def save (u : UserRow) : Json :=
  .obj [("id", Json.int u.id), ("login", .str u.login), ("real_name", Json.opt .str u.realName)]

/-- The row saved by `save`. -/
def load (j : Json) : Option UserRow := do
  return { id := ← int j "id", login := ← str j "login", realName := ← optional Json.str? j "real_name" }

end UserRow

namespace GroupRow

/-- The row as a JSON object. -/
def save (g : GroupRow) : Json := .obj [("id", Json.int g.id), ("name", .str g.name)]

/-- The row saved by `save`. -/
def load (j : Json) : Option GroupRow := do
  return { id := ← int j "id", name := ← str j "name" }

end GroupRow

namespace Field

/-- The field as a JSON object. -/
def save (f : Field) : Json := f.toJson

/-- The field saved by `save`. -/
def load (j : Json) : Option Field := do
  return { id := ← int j "id", name := ← str j "name", label := ← str j "label",
           source := ← (Source.parse (← str j "bind_kind")).toOption,
           required := ← bool j "required", multiple := ← bool j "multiple", readOnly := ← bool j "read_only" }

end Field

namespace ChoiceRow

/-- The row as a JSON object. -/
def save (c : ChoiceRow) : Json :=
  .obj [("id", Json.int c.id), ("field", Json.int c.field), ("label", .str c.label),
    ("description", Json.opt .str c.description), ("rank", Json.int c.rank), ("hidden", .bool c.hidden),
    ("is_default", .bool c.isDefault), ("user", Json.opt Json.int c.user), ("group", Json.opt Json.int c.group),
    ("decorator", Json.opt (fun d => .str d.render) c.decorator)]

/-- The row saved by `save`. -/
def load (j : Json) : Option ChoiceRow := do
  return { id := ← int j "id", field := ← int j "field", label := ← str j "label",
           description := ← optional Json.str? j "description", rank := ← int j "rank",
           hidden := ← bool j "hidden", isDefault := ← bool j "is_default",
           user := ← optional Json.int? j "user", group := ← optional Json.int? j "group",
           decorator := ← optional (fun d => d.str?.bind fun s => (Decorator.parse s).toOption) j "decorator" }

end ChoiceRow

namespace GrantRow

/-- The row as a JSON object. -/
def save (g : GrantRow) : Json :=
  .obj [("field", Json.int g.field), ("group", Json.int g.group), ("access", .str g.access.name)]

/-- The row saved by `save`. -/
def load (j : Json) : Option GrantRow := do
  return { field := ← int j "field", group := ← int j "group",
           access := ← (Access.parse (← str j "access")).toOption }

end GrantRow

namespace EdgeRow

/-- The row as a JSON object. -/
def save (e : EdgeRow) : Json :=
  .obj [("id", Json.int e.id), ("field", Json.int e.field), ("from", Json.opt Json.int e.source),
    ("to", Json.int e.target)]

/-- The row saved by `save`. -/
def load (j : Json) : Option EdgeRow := do
  return { id := ← int j "id", field := ← int j "field", source := ← optional Json.int? j "from",
           target := ← int j "to" }

end EdgeRow

namespace ArtifactRow

/-- The row saved by `toJson`. -/
def load (j : Json) : Option ArtifactRow := do
  return { id := ← int j "id", title := ← str j "title", createdBy := ← int j "created_by" }

end ArtifactRow

namespace ChangesetRow

/-- The row saved by `toJson`. -/
def load (j : Json) : Option ChangesetRow := do
  return { id := ← int j "id", artifact := ← int j "artifact_id", submittedBy := ← int j "submitted_by" }

end ChangesetRow

namespace ListEntry

/-- The entry as a JSON object. -/
def save (e : ListEntry) : Json := .obj [("position", Json.int e.position), ("value_id", Json.int e.value)]

/-- The entry saved by `save`. -/
def load (j : Json) : Option ListEntry := do
  return { position := (← int j "position").toNat, value := ← int j "value_id" }

end ListEntry

namespace ValueRow

/-- The row as a JSON object, with its entries at their positions. -/
def save (r : ValueRow) : Json :=
  .obj [("id", Json.int r.id), ("changeset_id", Json.int r.changeset), ("field_id", Json.int r.field),
    ("has_changed", .bool r.changed), ("entries", .arr (r.entries.map ListEntry.save))]

/-- The row saved by `save`. -/
def load (j : Json) : Option ValueRow := do
  return { id := ← int j "id", changeset := ← int j "changeset_id", field := ← int j "field_id",
           changed := ← bool j "has_changed", entries := ← items ListEntry.load j "entries" }

end ValueRow

namespace Counters

/-- The counters as a JSON object. -/
def save (c : Counters) : Json :=
  .obj [("users", Json.int c.users), ("groups", Json.int c.groups), ("fields", Json.int c.fields),
    ("choices", Json.int c.choices), ("transitions", Json.int c.transitions),
    ("artifacts", Json.int c.artifacts), ("changesets", Json.int c.changesets), ("rows", Json.int c.rows)]

/-- The counters saved by `save`. -/
def load (j : Json) : Option Counters := do
  return { users := ← int j "users", groups := ← int j "groups", fields := ← int j "fields",
           choices := ← int j "choices", transitions := ← int j "transitions",
           artifacts := ← int j "artifacts", changesets := ← int j "changesets", rows := ← int j "rows" }

end Counters

namespace Tables

/-- The tables as one JSON document. -/
def toJson (t : Tables) : Json :=
  .obj [("users", .arr (t.users.map UserRow.save)), ("groups", .arr (t.groups.map GroupRow.save)),
    ("members", .arr (t.members.map pair)), ("fields", .arr (t.fields.map Field.save)),
    ("choices", .arr (t.choices.map ChoiceRow.save)), ("grants", .arr (t.grants.map GrantRow.save)),
    ("workflows", .arr (t.workflows.map fun (f, on) => .obj [("field", Json.int f), ("enabled", .bool on)])),
    ("transitions", .arr (t.transitions.map EdgeRow.save)),
    ("transition_groups", .arr (t.transitionGroups.map pair)),
    ("artifacts", .arr (t.artifacts.map ArtifactRow.toJson)),
    ("changesets", .arr (t.changesets.map ChangesetRow.toJson)),
    ("rows", .arr (t.rows.map ValueRow.save)), ("last", t.last.save)]

/-- The tables saved by `toJson`. -/
def ofJson (j : Json) : Option Tables := do
  return { users := ← items UserRow.load j "users", groups := ← items GroupRow.load j "groups",
           members := ← items pair? j "members", fields := ← items Field.load j "fields",
           choices := ← items ChoiceRow.load j "choices", grants := ← items GrantRow.load j "grants",
           workflows := ← items (fun w => do return (← int w "field", ← bool w "enabled")) j "workflows",
           transitions := ← items EdgeRow.load j "transitions",
           transitionGroups := ← items pair? j "transition_groups",
           artifacts := ← items ArtifactRow.load j "artifacts",
           changesets := ← items ChangesetRow.load j "changesets",
           rows := ← items ValueRow.load j "rows", last := ← (j.get? "last").bind Counters.load }

/-- The saved text of the tables. -/
def save (t : Tables) : String := t.toJson.pretty ++ "\n"

/-- The tables of a saved text. -/
def load (text : String) : Option Tables := (Json.read text).bind ofJson

end Tables
end ListField
