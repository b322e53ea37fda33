/-!
# Error codes

Every failure reported to a person carries a stable code `E####`, a short title and
a hint on what to do next. The first digit groups the codes: 1 for the project,
2 for something not found, 3 for a rejected value, 5 for the store, 9 for the rest.
-/

namespace ListField

/-- The kinds of failure reported to people. -/
inductive ErrorCode where
  | notInitialized
  | configParse
  | fieldNotFound
  | artifactNotFound
  | userNotFound
  | groupNotFound
  | choiceNotFound
  | requiredMissing
  | permissionDenied
  | invalidValue
  | invalidTransition
  | transitionNotAuthorized
  | persistenceFailure
  | corruptStore
  | internal
  deriving DecidableEq, Repr

namespace ErrorCode

/-- All error codes, in the order of their numbers. -/
def all : List ErrorCode :=
  [.notInitialized, .configParse, .fieldNotFound, .artifactNotFound, .userNotFound,
   .groupNotFound, .choiceNotFound, .requiredMissing, .permissionDenied, .invalidValue,
   .invalidTransition, .transitionNotAuthorized, .persistenceFailure, .corruptStore,
   .internal]

/-- The stable code, `E####`. -/
def code : ErrorCode → String
  | .notInitialized => "E1001"
  | .configParse => "E1002"
  | .fieldNotFound => "E2001"
  | .artifactNotFound => "E2002"
  | .userNotFound => "E2003"
  | .groupNotFound => "E2004"
  | .choiceNotFound => "E2005"
  | .requiredMissing => "E3001"
  | .permissionDenied => "E3002"
  | .invalidValue => "E3003"
  | .invalidTransition => "E3004"
  | .transitionNotAuthorized => "E3005"
  | .persistenceFailure => "E5001"
  | .corruptStore => "E5002"
  | .internal => "E9001"

/-- The short title. -/
def title : ErrorCode → String
  | .notInitialized => "Project not initialized"
  | .configParse => "Config file parse error"
  | .fieldNotFound => "Field not found"
  | .artifactNotFound => "Artifact not found"
  | .userNotFound => "User not found"
  | .groupNotFound => "User group not found"
  | .choiceNotFound => "List value not found"
  | .requiredMissing => "Required field left empty"
  | .permissionDenied => "Permission denied on field"
  | .invalidValue => "Value does not belong to the field"
  | .invalidTransition => "Invalid workflow transition"
  | .transitionNotAuthorized => "Transition not authorized for user"
  | .persistenceFailure => "Changeset value write failed"
  | .corruptStore => "Corrupt SQLite store"
  | .internal => "Internal unexpected error"

/-- What to do next. -/
def hint : ErrorCode → String
  | .notInitialized => "Run `pk init` to initialize this directory."
  | .configParse => "Fix syntax in .picklist/config.toml and retry."
  | .fieldNotFound => "List fields with `pk field show`."
  | .artifactNotFound => "Create one with `pk artifact create`."
  | .userNotFound => "Create the user with `pk user create` or pass --actor."
  | .groupNotFound => "Create the group with `pk group create`."
  | .choiceNotFound => "List allowed values with `pk field values <field>`."
  | .requiredMissing => "Submit one of the field's values."
  | .permissionDenied => "Grant access with `pk perm grant`."
  | .invalidValue => "List allowed values with `pk field values <field>`."
  | .invalidTransition => "Add the transition with `pk workflow add-transition`."
  | .transitionNotAuthorized => "Add the actor to one of the transition's authorized groups."
  | .persistenceFailure => "Check disk space and write permissions."
  | .corruptStore => "Restore .picklist/picklist.db from a backup."
  | .internal => "Retry once. If persistent, report a bug with logs."

end ErrorCode
end ListField
