import ListField.Text.Blank
import ListField.Text.Case
/-!
# Access kinds

A group is granted read, submit or update access on a field. Submit access lets a
user fill the field when an artifact is created; update access lets them change it
later, and also lets them read it.
-/

namespace ListField

/-- What a grant on a field allows. -/
inductive Access where
  | read
  | submit
  | update
  deriving DecidableEq, Repr

/-- A text that names no access kind. -/
structure AccessError where
  text : String
  deriving DecidableEq, Repr

/-- The sentence that reports a text that names no access kind. -/
def AccessError.message (e : AccessError) : String :=
  "unknown access '" ++ e.text ++ "': expected read, submit or update"

namespace Access

/-- The name of an access kind, as stored and printed. -/
def name : Access → String
  | .read => "read"
  | .submit => "submit"
  | .update => "update"

/-- Reads an access kind in any ASCII case between blanks. -/
def parse (s : String) : Except AccessError Access :=
  match Text.asciiLower (Text.trim s) with
  | "read" => .ok .read
  | "submit" => .ok .submit
  | "update" => .ok .update
  | _ => .error ⟨s⟩

end Access
end ListField
