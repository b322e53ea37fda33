import ListField.Choices
import ListField.Request
import ListField.Workflow
/-!
# Validation of a submitted value

A check never fails outright: a rejected value records a `FieldError` on the request
and the check answers `false`, so one field's rejection never stops the others.

The checks, in the order `checkSubmission` runs them:
1. permission and the required flag: an empty first value of a required field is
   rejected, and so is any value from an actor without the needed access (submit
   access for a new artifact, update access afterwards);
2. the required flag against the submitted ids (`checkRequired`);
3. every id must name a choice of the field, and a single-value field takes one
   value (`checkValue`);
4. when the field's workflow is enforced, the move from the previous value must be
   an allowed transition that the actor may take.

The previous value is given by the ids of the choices it still resolves to; `none`
means the field has no previous value at all.
-/

namespace ListField

/-- What checking one field's value needs: the field, its choices and its workflow. -/
structure FieldCheck where
  field : Field
  choices : Choices
  gate : Gate

namespace FieldCheck

/-- The check of field `f` with choices `cs`, reading its workflow from `lookup`. -/
def make (f : Field) (cs : Choices) (lookup : WorkflowLookup) : FieldCheck :=
  { field := f, choices := cs, gate := Gate.make lookup f.id }

/-- Records an error of kind `kind` for the checked field. -/
def reject (fc : FieldCheck) (r : Request) (kind : Rejection) (message : String) : Request :=
  r.record fc.field.id ⟨kind, message⟩

/-- The sentence for an empty required field. -/
def requiredMessage (fc : FieldCheck) : String :=
  fc.field.displayName ++ " is required."

/-- The values a new artifact gets when the field is left untouched: the default
choices, or none while the workflow is enforced. -/
def submitDefaults (fc : FieldCheck) : List ValueId :=
  if fc.gate.isEnabled then [] else fc.choices.defaults.map (·.id)

/-- A required field must not be left empty. -/
def checkRequired (fc : FieldCheck) (r : Request) (submitted : List ValueId) : Bool × Request :=
  if fc.field.required && Selection.isNone submitted then
    (false, fc.reject r .required fc.requiredMessage)
  else (true, r)

/-- The move from the previous value to the first submitted id must be allowed and
the actor must be allowed to take it. -/
def checkTransition (fc : FieldCheck) (r : Request) (previous : Option (List ValueId))
    (ids : List ValueId) : Bool × Request :=
  match ids with
  | [] => (false, fc.reject r .transitionToNone "The transition to None is not valid.")
  | target :: _ =>
    let before := previous.getD []
    let edgesExist :=
      if before.isEmpty then fc.gate.allows none target
      else (before.filter (· != target)).all fun source => fc.gate.allows (some source) target
    let shown := (fc.choices.labelFor target).getD (toString target)
    if !edgesExist then
      (false, fc.reject r .invalidTransition
        ("The transition to the value \"" ++ shown ++ "\" is not valid."))
    else if !fc.gate.canTake (fc.gate.transitionId? before.head? target) r.actor then
      (false, fc.reject r .transitionNotAuthorized
        ("You are not allowed to make the transition to \"" ++ shown ++ "\"."))
    else (true, r)

/-- Every id must name a choice of the field, a single-value field takes one value,
and an enforced workflow must allow the move. -/
def checkValue (fc : FieldCheck) (r : Request) (previous : Option (List ValueId))
    (submitted : List ValueId) : Bool × Request :=
  let unknown := submitted.filter fun id => id != noneId && !fc.choices.contains id
  if !unknown.isEmpty then
    (false, fc.reject r .invalidValue
      ("The value " ++ ", ".intercalate (unknown.map toString) ++
        " does not belong to the field " ++ fc.field.label ++ "."))
  else
    let ids := Selection.normalize submitted
    if !fc.field.multiple && ids.length > 1 then
      (false, fc.reject r .tooManyValues
        ("The field " ++ fc.field.label ++ " accepts a single value."))
    else if !fc.gate.isEnabled then (true, r)
    else fc.checkTransition r previous ids

/-- The required flag, then the value. -/
def checkRequiredAndValue (fc : FieldCheck) (r : Request) (previous : Option (List ValueId))
    (submitted : List ValueId) : Bool × Request :=
  match fc.checkRequired r submitted with
  | (true, r1) => fc.checkValue r1 previous submitted
  | other => other

/-- The full check of a submission: permission and the required flag first, then
the value when something was submitted by an actor allowed to. -/
def checkSubmission (fc : FieldCheck) (r : Request) (previous : Option (List ValueId))
    (submitted : Option (List ValueId)) (isSubmission : Bool) : Bool × Request :=
  let f := fc.field.id
  let allowed := if isSubmission then r.can .submit f else r.can .update f
  let something := match submitted with | some (_ :: _) => true | _ => false
  if previous.isNone && !something && allowed && fc.field.required then
    (false, fc.reject r .required fc.requiredMessage)
  else if something && !allowed then
    (false, fc.reject r .permissionDenied
      ("You are not allowed to update the field " ++ fc.field.label ++ "."))
  else
    match submitted with
    | some ids => if allowed then fc.checkRequiredAndValue r previous ids else (true, r)
    | none => (true, r)

theorem checkRequired_true (fc : FieldCheck) (r : Request) (submitted : List ValueId)
    (h : (fc.field.required && Selection.isNone submitted) = false) :
    fc.checkRequired r submitted = (true, r) := by
  simp [checkRequired, h]

end FieldCheck
end ListField
