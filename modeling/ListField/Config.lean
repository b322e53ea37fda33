import ListField.Text.Decode
import ListField.Text.Shortest
import ListField.Toml.Quoted
import ListField.Toml.Report
import ListField.Update
/-!
# Settings files

A project keeps its settings in a TOML file with three sections:

```text
[history]
separator = ", "
none_label = "None"

[workflow]
unrestricted_when_no_groups = true

[store]
busy_timeout_ms = 5000
```

Every setting has a default, so a missing file, a missing section or a missing key
all mean the defaults; keys the program does not know are ignored. A user keeps an
`output` mode and an `actor` login in a file of their own, both optional.

A setting of the wrong kind is reported at the value written for it (or at its key,
when the value was not written at one place): "invalid type: integer `5`, expected a
string". A section may also be written as an array, whose items are the section's
settings in order.
-/

namespace ListField

/-- The settings of a project. -/
structure ProjectConfig where
  history : HistoryStyle := {}
  /-- Whether a transition without authorized groups is open to everyone. -/
  openWhenUngrouped : Bool := true
  /-- How long a command waits for a busy store, in milliseconds. -/
  busyTimeoutMs : Nat := 5000

/-- The settings of a user. -/
structure UserConfig where
  output : Option String := none
  actor : Option String := none
  deriving DecidableEq, Repr

namespace Toml

/-- The text of a float in an error: the fewest digits that read back, with `.0`
added to a whole number, or `inf`, `-inf` or `NaN`. -/
def FloatLit.text : FloatLit → String
  | .finite neg digits exp =>
    let t := (Shortest.doubleText neg digits exp).getD (if neg then "-inf" else "inf")
    if t.contains '.' || t.endsWith "inf" then t else t ++ ".0"
  | .infinity neg => if neg then "-inf" else "inf"
  | .nan _ => "NaN"

/-- What an item holds, as named in decoding errors; a date is read as a map. -/
def Item.found : Item → Found
  | .scalar (.str s) _ => .str s
  | .scalar (.int n) _ => .int n
  | .scalar (.float f) _ => .float f.text
  | .scalar (.bool b) _ => .bool b
  | .scalar (.datetime _) _ => .map
  | .array .. => .seq
  | .table .. => .map
  | .tables .. => .seq

/-- Why an item does not have the wanted shape, and where, once known. -/
structure Mismatch where
  error : DecodeError
  span : Option Span := none

/-- Reads a value of type `α` out of an item. -/
abbrev Reading (α : Type) := Item → Except Mismatch α

/-- Places a mismatch without a place at `sp`. -/
def placeAt {α : Type} (sp : Option Span) : Except Mismatch α → Except Mismatch α
  | .error m => .error { m with span := m.span.orElse fun _ => sp }
  | r => r

/-- A mismatch of kind: `expected` was wanted. -/
def wrongType {α : Type} (it : Item) (expected : String) : Except Mismatch α :=
  .error { error := .wrongType it.found expected }

/-- A string. -/
def readString : Reading String
  | .scalar (.str s) _ => .ok s
  | it => wrongType it "a string"

/-- A boolean. -/
def readBool : Reading Bool
  | .scalar (.bool b) _ => .ok b
  | it => wrongType it "a boolean"

/-- An unsigned 64-bit number; TOML integers are signed, so any one that is not
negative fits. -/
def readCount : Reading Nat
  | .scalar (.int n) _ =>
    if n < 0 then .error { error := .wrongValue (.int n) "u64" } else .ok n.toNat
  | it => wrongType it "u64"

/-- A setting of a section: its key, and how a value of it updates the section. -/
structure Setting (α : Type) where
  key : String
  update : α → Reading α

/-- The setting read by `r` and stored by `set`. -/
def Setting.of {α β : Type} (key : String) (r : Reading β) (set : α → β → α) : Setting α :=
  { key, update := fun a it => set a <$> r it }

/-- A section named `name` with the given settings, starting from `init`. From a
table each known key is read, in the order written; from an array the items are
the settings in order. A date holds no known key and gives the defaults. -/
def readSection {α : Type} (name : String) (init : α) (settings : List (Setting α)) : Reading α
  | .table _ es _ =>
    es.foldlM (fun a (k, v) =>
      match settings.find? (·.key == k.name) with
      | some st => placeAt (v.span?.orElse fun _ => some k.span) (st.update a v)
      | none => .ok a) init
  | .array items _ => positional items
  | .tables elems _ => positional elems
  | .scalar (.datetime _) _ => .ok init
  | it => wrongType it ("struct " ++ name)
where
  /-- Reads the settings from the items of an array, in order. -/
  positional (items : List Item) : Except Mismatch α :=
    (settings.zip items).foldlM (fun a (st, v) => placeAt v.span? (st.update a v)) init

/-- Reads `it` with `r`, placing an unplaced mismatch at `it`. -/
def readAt {α : Type} (r : Reading α) (it : Item) : Except Mismatch α :=
  placeAt it.span? (r it)

end Toml

open Toml

namespace HistoryStyle

/-- The `history` section. -/
def reading : Reading HistoryStyle :=
  readSection "HistoryConfig" {}
    [Setting.of "separator" readString fun h v => { h with separator := v },
     Setting.of "none_label" readString fun h v => { h with noneLabel := v }]

end HistoryStyle

namespace ProjectConfig

/-- The whole file. -/
def reading : Reading ProjectConfig :=
  readSection "ProjectConfig" {}
    [Setting.of "history" (readAt HistoryStyle.reading) fun c v => { c with history := v },
     Setting.of "workflow" (readAt (readSection "WorkflowConfig" true
        [Setting.of "unrestricted_when_no_groups" readBool fun _ v => v]))
        fun c v => { c with openWhenUngrouped := v },
     Setting.of "store" (readAt (readSection "StoreConfig" (5000 : Nat)
        [Setting.of "busy_timeout_ms" readCount fun _ v => v]))
        fun c v => { c with busyTimeoutMs := v }]

/-- The settings written in a text, or why it is not a settings file. -/
def read (text : String) : Except ReadError ProjectConfig := do
  let doc ← readDocument text
  match readAt reading doc with
  | .ok c => return c
  | .error m => throw { message := m.error.message, mark := m.span.map fun sp => (sp.start, sp.stop) }

/-- The text of a settings file that reads back as `c`. -/
def render (c : ProjectConfig) : String :=
  "[history]\n" ++
  "separator = " ++ quoted c.history.separator ++ "\n" ++
  "none_label = " ++ quoted c.history.noneLabel ++ "\n" ++
  "\n[workflow]\n" ++
  "unrestricted_when_no_groups = " ++ (if c.openWhenUngrouped then "true" else "false") ++ "\n" ++
  "\n[store]\n" ++
  "busy_timeout_ms = " ++ toString c.busyTimeoutMs ++ "\n"

/-- The settings as a document. -/
def toJson (c : ProjectConfig) : Json :=
  .obj [("history", .obj [("separator", .str c.history.separator), ("none_label", .str c.history.noneLabel)]),
        ("workflow", .obj [("unrestricted_when_no_groups", .bool c.openWhenUngrouped)]),
        ("store", .obj [("busy_timeout_ms", Json.int c.busyTimeoutMs)])]

end ProjectConfig

namespace UserConfig

/-- The user's file. -/
def reading : Reading UserConfig :=
  readSection "UserConfig" {}
    [Setting.of "output" readString fun c v => { c with output := some v },
     Setting.of "actor" readString fun c v => { c with actor := some v }]

/-- The user's settings written in a text, or why it is not a settings file. -/
def read (text : String) : Except ReadError UserConfig := do
  let doc ← readDocument text
  match readAt reading doc with
  | .ok c => return c
  | .error m => throw { message := m.error.message, mark := m.span.map fun sp => (sp.start, sp.stop) }

end UserConfig

end ListField
