import ListField.Choice.Decorator
import ListField.Ids
import ListField.Text.Json
/-!
# Choices

A choice is one allowed value of a list field: an id, a label, and an optional
description and colour. A hidden choice stays valid in stored history but is not
offered for selection; a default choice is pre-selected on new artifacts.

The choice with id `noneId` stands for "no value"; it is never stored, and it is
shown with the field's none label.
-/

namespace ListField

/-- One allowed value of a list field. -/
structure Choice where
  id : ValueId
  label : String
  description : Option String := none
  hidden : Bool := false
  isDefault : Bool := false
  decorator : Option Decorator := none
  deriving DecidableEq, Repr

namespace Choice

/-- A visible, non-default choice with only an id and a label. -/
def make (id : ValueId) (label : String) : Choice :=
  { id, label }

/-- The choice that stands for "no value", shown as `label`. -/
def noValue (label : String) : Choice :=
  make noneId label

/-- The same choice, hidden from selection lists. -/
def hide (c : Choice) : Choice := { c with hidden := true }

/-- The same choice, pre-selected on new artifacts. -/
def markDefault (c : Choice) : Choice := { c with isDefault := true }

/-- The same choice with a description. -/
def describe (c : Choice) (text : String) : Choice := { c with description := some text }

/-- The same choice with a colour. -/
def decorate (c : Choice) (d : Decorator) : Choice := { c with decorator := some d }

/-- Whether the choice stands for "no value". -/
def isNone (c : Choice) : Bool := c.id == noneId

/-- The choice as a JSON object: id, label and the two flags, with the description
and the colour only when present. -/
def toJson (c : Choice) : Json :=
  .obj ([("id", Json.int c.id), ("label", .str c.label)] ++
    (match c.description with | some d => [("description", .str d)] | none => []) ++
    [("hidden", .bool c.hidden), ("is_default", .bool c.isDefault)] ++
    (match c.decorator with | some d => [("decorator", .str d.render)] | none => []))

theorem isNone_noValue (label : String) : (noValue label).isNone = true := by
  simp [noValue, make, isNone]

end Choice
end ListField
