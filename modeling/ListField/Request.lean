import ListField.Access
import ListField.Actor
import ListField.ErrorCode
import ListField.StoreError
/-!
# Requests

A request runs on behalf of one actor. It answers permission questions through a
`Grants` source, where a failed answer counts as "denied", and it collects the
errors found while checking values, field by field.

Errors are kept in the order they were recorded; `drain` hands them out grouped by
field, fields in increasing id order, and forgets them.
-/

namespace ListField

/-- Why a submitted value was rejected. -/
inductive Rejection where
  | required
  | permissionDenied
  | invalidValue
  | tooManyValues
  | invalidTransition
  | transitionToNone
  | transitionNotAuthorized
  deriving DecidableEq, Repr

namespace Rejection

/-- The name of a kind of rejection. -/
def name : Rejection → String
  | .required => "required"
  | .permissionDenied => "permission_denied"
  | .invalidValue => "invalid_value"
  | .tooManyValues => "too_many_values"
  | .invalidTransition => "invalid_transition"
  | .transitionToNone => "transition_to_none"
  | .transitionNotAuthorized => "transition_not_authorized"

/-- The error code of a kind of rejection. -/
def code : Rejection → ErrorCode
  | .required => .requiredMissing
  | .permissionDenied => .permissionDenied
  | .invalidValue | .tooManyValues => .invalidValue
  | .invalidTransition | .transitionToNone => .invalidTransition
  | .transitionNotAuthorized => .transitionNotAuthorized

end Rejection

/-- A rejected value of one field: the kind of rejection and its sentence. -/
structure FieldError where
  kind : Rejection
  message : String
  deriving DecidableEq, Repr

/-- The error with its code: `<message> (E####)`. -/
def FieldError.display (e : FieldError) : String :=
  e.message ++ " (" ++ e.kind.code.code ++ ")"

/-- Who may do what on which field; an answer may fail. -/
abbrev Grants := Actor → FieldId → Access → Except StoreError Bool

/-- The state of one request: its actor, where permissions come from, and the errors
recorded so far. -/
structure Request where
  actor : Actor
  grants : Grants
  errors : List (FieldId × FieldError) := []

namespace Request

/-- Whether the actor has `access` on field `f`; a failed answer denies. -/
def can (r : Request) (access : Access) (f : FieldId) : Bool :=
  match r.grants r.actor f access with
  | .ok b => b
  | .error _ => false

/-- The request with one more error recorded for field `f`. -/
def record (r : Request) (f : FieldId) (e : FieldError) : Request :=
  { r with errors := r.errors ++ [(f, e)] }

/-- The errors recorded for field `f`, oldest first. -/
def errorsOf (r : Request) (f : FieldId) : List FieldError :=
  r.errors.filterMap fun (g, e) => if g == f then some e else none

/-- Whether any error is recorded for field `f`. -/
def hasErrors (r : Request) (f : FieldId) : Bool := !(r.errorsOf f).isEmpty

/-- The request without the errors of field `f`. -/
def clear (r : Request) (f : FieldId) : Request :=
  { r with errors := r.errors.filter (·.1 != f) }

/-- All recorded errors grouped by field in increasing id order, and the request
without them. -/
def drain (r : Request) : List (FieldId × FieldError) × Request :=
  (r.errors.mergeSort (fun a b => a.1 ≤ b.1), { r with errors := [] })

theorem errorsOf_record_self (r : Request) (f : FieldId) (e : FieldError) :
    (r.record f e).errorsOf f = r.errorsOf f ++ [e] := by
  simp [record, errorsOf, List.filterMap_append]

end Request
end ListField
