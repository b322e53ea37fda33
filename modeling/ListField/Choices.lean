import Std.Data.HashMap
import ListField.Choice.Basic
import ListField.Choice.Selection
import ListField.Field
/-!
# The choices of a field

`Choices` is the list of a field's allowed values in their configured order, with the
source that decides how a value is shown and the label of the "no value" choice.

Lookups by id go through an index built over the list, as the store's constructor
builds it: walking the list with each place, it maps the choice's id to that place, so a
later choice with the same id overwrites the place of an earlier one. A lookup reads the
place from the index, then the choice at that place. Unknown ids have no place (no rank);
they sort after all known ones.

How a value is shown depends on the source:
* a static choice shows its label;
* a user shows `Real Name (login)`, or the bare login when the real name is blank;
* a group shows its name, with built-in keys such as `ugroup_project_members_name_key`
  turned into words (`Project members`).
-/

namespace ListField

/-- The group key prefix of built-in groups. -/
def groupKeyPrefix : String := "ugroup_"

/-- The group key suffix of built-in groups. -/
def groupKeySuffix : String := "_name_key"

/-- A group name as shown to people: a built-in key `ugroup_<words>_name_key` becomes
its words with `_` read as a space and the first letter in upper case; any other
name is shown as it is. -/
def humanizeGroupName (name : String) : String :=
  match name.dropPrefix? groupKeyPrefix with
  | some rest =>
    match rest.toString.dropSuffix? groupKeySuffix with
    | some words =>
      let w := words.toString
      if w.isEmpty then name else Text.capitalize (w.replace "_" " ")
    | none => name
  | none => name

/-- How a source shows one of its choices. -/
def Source.display : Source → Choice → String
  | .static, c => c.label
  | .users, c =>
    match c.description.map Text.trim with
    | some realName => if realName.isEmpty then c.label else realName ++ " (" ++ c.label ++ ")"
    | none => c.label
  | .groups, c => humanizeGroupName c.label

/-- An id that names no choice of the field. -/
structure ChoiceMissing where
  field : FieldId
  value : ValueId
  deriving DecidableEq, Repr

/-- The sentence that reports an id that names no choice of the field. -/
def ChoiceMissing.message (e : ChoiceMissing) : String :=
  "value " ++ toString e.value ++ " not found in field " ++ toString e.field

/-- The allowed values of one field, in their configured order. -/
structure Choices where
  field : FieldId
  source : Source
  values : List Choice
  noneLabel : String := "None"
  deriving Repr

namespace Choices

/-- Inserts each choice's id into `m` with its place, places counted from `place`. -/
def indexFrom (m : Std.HashMap ValueId Nat) (place : Nat) : List Choice → Std.HashMap ValueId Nat
  | [] => m
  | c :: rest => indexFrom (m.insert c.id place) (place + 1) rest

/-- The index of the choices: each id to a place, inserted along the list from an empty
map sized for the list. -/
def index (cs : Choices) : Std.HashMap ValueId Nat :=
  indexFrom (Std.HashMap.emptyWithCapacity cs.values.length) 0 cs.values

/-- The place the index gives id `id`; unknown ids have none. -/
def rank? (cs : Choices) (id : ValueId) : Option Nat :=
  cs.index[id]?

/-- The choice with id `id`: its place from the index, then the choice at that place. -/
def find? (cs : Choices) (id : ValueId) : Option Choice :=
  cs.index[id]?.bind (cs.values[·]?)

/-- Whether the index holds id `id`. -/
def contains (cs : Choices) (id : ValueId) : Bool :=
  cs.index.contains id

/-- The choice with id `id`, or the reason there is none. -/
def get (cs : Choices) (id : ValueId) : Except ChoiceMissing Choice :=
  match cs.find? id with
  | some c => .ok c
  | none => .error ⟨cs.field, id⟩

/-- The choices named by `ids`, in their order, skipping unknown ids. -/
def pick (cs : Choices) (ids : List ValueId) : List Choice :=
  ids.filterMap cs.find?

/-- A choice as shown to people; the "no value" choice shows the none label. -/
def display (cs : Choices) (c : Choice) : String :=
  if c.isNone then cs.noneLabel else cs.source.display c

/-- The text shown for an id: the none label for `noneId`, nothing for unknown ids. -/
def labelFor (cs : Choices) (id : ValueId) : Option String :=
  if id == noneId then some cs.noneLabel else (cs.find? id).map cs.source.display

/-- The choices offered for selection: the visible ones, led by the "no value"
choice when there is at least one and the field is not required. -/
def offered (cs : Choices) (required : Bool) : List Choice :=
  let visible := cs.values.filter (!·.hidden)
  if !visible.isEmpty && !required then Choice.noValue cs.noneLabel :: visible else visible

/-- The offered choice with id `id`. -/
def findOffered (cs : Choices) (id : ValueId) (required : Bool) : Option Choice :=
  (cs.offered required).find? (·.id == id)

/-- The default choices, in order. -/
def defaults (cs : Choices) : List Choice :=
  cs.values.filter (·.isDefault)

/-- The ids of the default choices, or `[noneId]` when there are none. -/
def defaultIds (cs : Choices) : List ValueId :=
  match cs.defaults.map (·.id) with
  | [] => [noneId]
  | ids => ids

/-- The first choice whose label is exactly `label`. -/
def byLabel (cs : Choices) (label : String) : Option Choice :=
  cs.values.find? (·.label == label)

theorem labelFor_none (cs : Choices) : cs.labelFor noneId = some cs.noneLabel := by
  simp [labelFor]

end Choices
end ListField
