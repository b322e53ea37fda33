import ListField.Choice.Basic
import ListField.Choice.Selection
import ListField.Text.Decode
import ListField.Workflow
/-!
# Reading domain values from JSON

Choices, workflows and actors are read from the same JSON objects they are written
as. Unknown members are ignored; the optional members and their defaults are:
* a choice: `description` and `decorator` (absent), `hidden` and `is_default`
  (false); a decorator is read as `#rrggbb` text;
* a workflow: `transitions` (none) and `unrestricted_when_no_groups` (true); a
  transition's `from` (unset) and `authorized_groups` (none);
* an actor: `groups` (none).
Group lists are sets: they come out sorted and without repeats.
-/

namespace ListField
open Decoder

/-- A decorator written as text. -/
def decoratorOf : Decoder Decorator := fun j => do
  let s ← string j
  match Decorator.parse s with
  | .ok d => .ok d
  | .error e => .error (.custom e.message)

/-- A set of group ids. -/
def groupSet : Decoder (List GroupId) := fun j => sortedSet <$> list int64 j
where
  sortedSet (ids : List Int) : List Int := Selection.keepFirst [] (ids.mergeSort (· ≤ ·))

/-- Reads a choice. -/
def Choice.ofJson : Decoder Choice := fun j => do
  let ms ← members "BindValue"
    [("id", checks int64), ("label", checks string), ("description", checks (optional string)),
     ("hidden", checks boolean), ("is_default", checks boolean),
     ("decorator", checks (optional decoratorOf))] j
  return { id := ← need ms "id" int64, label := ← need ms "label" string,
           description := ← withDefault ms "description" (optional string) none,
           hidden := ← withDefault ms "hidden" boolean false,
           isDefault := ← withDefault ms "is_default" boolean false,
           decorator := ← withDefault ms "decorator" (optional decoratorOf) none }

/-- Reads a transition. -/
def Transition.ofJson : Decoder Transition := fun j => do
  let ms ← members "Transition"
    [("id", checks int64), ("from", checks (optional int64)), ("to", checks int64),
     ("authorized_groups", checks groupSet)] j
  return { id := ← need ms "id" int64, source := ← withDefault ms "from" (optional int64) none,
           target := ← need ms "to" int64, groups := ← withDefault ms "authorized_groups" groupSet [] }

/-- Reads a workflow. -/
def Workflow.ofJson : Decoder Workflow := fun j => do
  let ms ← members "Workflow"
    [("field_id", checks int64), ("enabled", checks boolean),
     ("transitions", checks (list Transition.ofJson)),
     ("unrestricted_when_no_groups", checks boolean)] j
  return { field := ← need ms "field_id" int64, enabled := ← need ms "enabled" boolean,
           transitions := ← withDefault ms "transitions" (list Transition.ofJson) [],
           openWhenUngrouped := ← withDefault ms "unrestricted_when_no_groups" boolean true }

/-- Reads an actor. -/
def Actor.ofJson : Decoder Actor := fun j => do
  let ms ← members "Actor"
    [("id", checks int64), ("login", checks string), ("groups", checks groupSet)] j
  return { id := ← need ms "id" int64, login := ← need ms "login" string,
           groups := ← withDefault ms "groups" groupSet [] }

end ListField
