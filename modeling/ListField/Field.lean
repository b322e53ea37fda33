import ListField.Ids
import ListField.Text.Blank
import ListField.Text.Case
import ListField.Text.Json
/-!
# List fields

A list field takes its values from one source: a static list configured on the
field, the project's users, or its user groups. A field may be required (it must
not be left empty), multiple (it may hold several values) or read-only (writes to
it are ignored).
-/

namespace ListField

/-- Where a field's choices come from. -/
inductive Source where
  /-- Labels configured on the field. -/
  | static
  /-- Project users, one choice per login. -/
  | users
  /-- User groups, one choice per group name. -/
  | groups
  deriving DecidableEq, Repr

/-- A text that names no source. -/
structure SourceError where
  text : String
  deriving DecidableEq, Repr

/-- The sentence that reports a text that names no source. -/
def SourceError.message (e : SourceError) : String :=
  "invalid bind kind: '" ++ e.text ++ "' (expected static|users|ugroups)"

namespace Source

/-- The name of a source, as stored and printed. -/
def name : Source → String
  | .static => "static"
  | .users => "users"
  | .groups => "ugroups"

/-- Reads a source name in any ASCII case between blanks; the singular forms and
`groups` are accepted too. -/
def parse (s : String) : Except SourceError Source :=
  match Text.asciiLower (Text.trim s) with
  | "static" => .ok .static
  | "users" | "user" => .ok .users
  | "ugroups" | "ugroup" | "groups" => .ok .groups
  | _ => .error ⟨s⟩

/-- What a source's choices are, in words. -/
def describe : Source → String
  | .static => "static list"
  | .users => "project users"
  | .groups => "user groups"

end Source

/-- A list field. -/
structure Field where
  id : FieldId
  name : String
  label : String
  source : Source
  required : Bool := false
  multiple : Bool := false
  readOnly : Bool := false
  deriving DecidableEq, Repr

/-- A field as shown to people: `Label (name)`. -/
def Field.displayName (f : Field) : String :=
  f.label ++ " (" ++ f.name ++ ")"

/-- The field as a JSON object. -/
def Field.toJson (f : Field) : Json :=
  .obj [("id", Json.int f.id), ("name", .str f.name), ("label", .str f.label),
    ("bind_kind", .str f.source.name), ("required", .bool f.required),
    ("multiple", .bool f.multiple), ("read_only", .bool f.readOnly)]

end ListField
