import ListField.Actor
import ListField.StoreError
import ListField.Choice.Selection
/-!
# Workflows

A field's workflow is a set of allowed transitions between its values, plus the
implicit "unset" state written `none`. A workflow is *defined* or *enabled*; only an
enabled workflow restricts writes, and a defined one behaves as if there were none.

A transition may name the groups allowed to take it. When it names none, the
workflow's `openWhenUngrouped` setting decides whether everyone or no one may.

Validation reads workflows through `WorkflowLookup`, whose answers may fail.
`Gate` is the view of one field's workflow used while checking a value: its state
is read once, and a failed answer counts as "no" (an absent workflow, no such edge,
not authorized).
-/

namespace ListField

/-- Whether a field has a workflow, and whether it is enforced. -/
inductive WorkflowState where
  | absent
  | defined
  | enabled
  deriving DecidableEq, Repr

/-- The name of a workflow state. -/
def WorkflowState.name : WorkflowState → String
  | .absent => "absent"
  | .defined => "defined"
  | .enabled => "enabled"

/-- An allowed move of a field's value from `source` (or from unset) to `target`. -/
structure Transition where
  id : TransitionId
  source : Option ValueId
  target : ValueId
  groups : List GroupId := []
  deriving DecidableEq, Repr

/-- Whether an actor may take the transition: a member of one of its groups, or
anyone when it names no group and `openWhenUngrouped` holds. -/
def Transition.authorizes (t : Transition) (a : Actor) (openWhenUngrouped : Bool) : Bool :=
  if t.groups.isEmpty then openWhenUngrouped else a.memberOfAny t.groups

/-- A field's transition rules. -/
structure Workflow where
  field : FieldId
  enabled : Bool
  transitions : List Transition := []
  openWhenUngrouped : Bool := true
  deriving DecidableEq, Repr

namespace Workflow

/-- A workflow of field `f` without transitions, in which a transition that names no group is
open to everyone. -/
def new (f : FieldId) (enabled : Bool) : Workflow := { field := f, enabled }

/-- Adds the transition `source → target` open to `groups`, kept as a set (in increasing order,
each once). Its id is its place in the list counted from 1; the id would stop at the largest
64-bit number, which no list of transitions reaches. -/
def withTransition (w : Workflow) (source : Option ValueId) (target : ValueId)
    (groups : List GroupId) : Workflow :=
  { w with transitions := w.transitions ++
      [{ id := w.transitions.length + 1, source, target,
         groups := Selection.keepFirst [] (groups.mergeSort (· ≤ ·)) }] }

/-- Sets whether a transition that names no group is open to everyone. -/
def withOpenWhenUngrouped (w : Workflow) (openWhenUngrouped : Bool) : Workflow :=
  { w with openWhenUngrouped }

/-- The state of a workflow that exists. -/
def state (w : Workflow) : WorkflowState := if w.enabled then .enabled else .defined

/-- The first transition from `source` to `target`. -/
def find? (w : Workflow) (source : Option ValueId) (target : ValueId) : Option Transition :=
  w.transitions.find? fun t => t.source == source && t.target == target

/-- The transition with id `id`. -/
def byId? (w : Workflow) (id : TransitionId) : Option Transition :=
  w.transitions.find? (·.id == id)

/-- The transition as a JSON object. -/
def transitionJson (t : Transition) : Json :=
  .obj [("id", Json.int t.id), ("from", Json.opt Json.int t.source), ("to", Json.int t.target),
    ("authorized_groups", Json.ints t.groups)]

/-- The workflow as a JSON object. -/
def toJson (w : Workflow) : Json :=
  .obj [("field_id", Json.int w.field), ("enabled", .bool w.enabled),
    ("transitions", .arr (w.transitions.map transitionJson)),
    ("unrestricted_when_no_groups", .bool w.openWhenUngrouped)]

end Workflow

/-- Where validation reads workflows from; each answer may fail. -/
structure WorkflowLookup where
  /-- The state of a field's workflow. -/
  state : FieldId → Except StoreError WorkflowState
  /-- The first transition of a field from `source` to `target`. -/
  find : FieldId → Option ValueId → ValueId → Except StoreError (Option TransitionId)
  /-- Whether an actor may take a transition; an unknown transition fails. -/
  authorizes : TransitionId → Actor → Except StoreError Bool

/-- A lookup that knows no workflow at all. -/
def WorkflowLookup.empty : WorkflowLookup where
  state _ := .ok .absent
  find _ _ _ := .ok none
  authorizes t _ := .error (.missing .transition t)

/-- A lookup that knows one workflow: other fields have none. -/
def Workflow.lookup (w : Workflow) : WorkflowLookup where
  state f := .ok (if f == w.field then w.state else .absent)
  find f source target := .ok (if f == w.field then (w.find? source target).map (·.id) else none)
  authorizes t a :=
    match w.byId? t with
    | some tr => .ok (tr.authorizes a w.openWhenUngrouped)
    | none => .error (.missing .transition t)

/-- One field's workflow as seen while checking a value; the state is read once. -/
structure Gate where
  field : FieldId
  lookup : WorkflowLookup
  state : WorkflowState

namespace Gate

/-- The gate of field `field`; a failed state read counts as no workflow. -/
def make (lookup : WorkflowLookup) (field : FieldId) : Gate :=
  { field, lookup, state := match lookup.state field with | .ok s => s | .error _ => .absent }

/-- Whether the field's workflow is enforced. -/
def isEnabled (g : Gate) : Bool := g.state == .enabled

/-- The transition from `source` to `target`; a failed lookup counts as none. -/
def transitionId? (g : Gate) (source : Option ValueId) (target : ValueId) : Option TransitionId :=
  match g.lookup.find g.field source target with
  | .ok t => t
  | .error _ => none

/-- Whether the move is allowed: always when the workflow is not enforced,
otherwise when the transition exists. -/
def allows (g : Gate) (source : Option ValueId) (target : ValueId) : Bool :=
  !g.isEnabled || (g.transitionId? source target).isSome

/-- Whether an actor may take a transition; no transition needs no permission, and a
failed answer counts as "no". -/
def canTake (g : Gate) (t : Option TransitionId) (a : Actor) : Bool :=
  match t with
  | none => true
  | some id => match g.lookup.authorizes id a with | .ok b => b | .error _ => false

theorem allows_of_not_enabled (g : Gate) (h : g.isEnabled = false) (s : Option ValueId)
    (t : ValueId) : g.allows s t = true := by
  simp [allows, h]

end Gate
end ListField
