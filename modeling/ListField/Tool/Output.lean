import ListField.ErrorCode
import ListField.StoreError
import ListField.Update
/-!
# What `pk` prints

Every command prints its result in one of two modes: text for people, or a
pretty-printed JSON document. A failure is reported on standard error: in text as

```text
error: field 'sev' not found
  suggestion: List fields with `pk field show`.
```

and in JSON as `{"error": {"error_code", "message", "suggestion"}}`, the code and the
suggestion only when the failure has them.

Text reports align `key:` pairs in a column of twelve, and write multi-line
changes with their later lines indented under the first.
-/

namespace ListField
namespace Tool

/-- How results are printed. -/
inductive Mode where
  | text
  | json
  deriving DecidableEq, Repr

/-- A failure as reported to the user: what went wrong, what to do about it, and
its stable `E####` code. -/
structure Problem where
  message : String
  suggestion : Option String := none
  code : Option String := none
  deriving DecidableEq, Repr

namespace Problem

/-- A failure with code `c` and its hint. -/
def coded (message : String) (c : ErrorCode) : Problem :=
  { message, suggestion := some c.hint, code := some c.code }

/-- A store failure, with the code of its kind. -/
def ofStore (e : StoreError) : Problem := coded e.message e.code

/-- The report of the failure on standard error. -/
def render (mode : Mode) (p : Problem) : String :=
  match mode with
  | .json =>
    let members := (p.code.map fun c => [("error_code", Json.str c)]).getD [] ++
      [("message", Json.str p.message)] ++
      (p.suggestion.map fun s => [("suggestion", Json.str s)]).getD []
    (Json.obj [("error", .obj members)]).pretty ++ "\n"
  | .text =>
    "error: " ++ p.message ++ "\n" ++ (p.suggestion.map fun s => "  suggestion: " ++ s ++ "\n").getD ""

end Problem

/-- `n` spaces. -/
def spaces (n : Nat) : String := String.ofList (List.replicate n ' ')

/-- A `key: value` line, the key and its colon padded to twelve characters. -/
def textKv (key value : String) : String :=
  let k := key ++ ":"
  k ++ spaces (12 - k.length) ++ " " ++ value ++ "\n"

/-- The lines of a text: split at line feeds, a carriage return before one dropped,
and no empty line after a final line feed. -/
def textLines (s : String) : List String :=
  let parts := s.splitOn "\n"
  let parts := if parts.getLast? == some "" then parts.dropLast else parts
  parts.map fun l => if l.endsWith "\r" then (l.dropEnd 1).toString else l

/-- The lines of a multi-line text, the first after `first` and the others after
`indent`. -/
def hangingLines (first indent text : String) : String :=
  String.join ((textLines text).zipIdx.map fun (line, i) =>
    (if i == 0 then first else indent) ++ line ++ "\n")

/-- The text report of a submission: the changeset recorded (or that none was),
then one entry per field that changed, was rejected or did not save. -/
def reportText (r : UpdateReport) : String :=
  (match r.changeset with
   | some c => "Changeset #" ++ toString c.id ++ " on artifact #" ++ toString r.artifact ++ "\n"
   | none => "No changes recorded on artifact #" ++ toString r.artifact ++ "\n") ++
  String.join (r.fields.map fun f =>
    match f.outcome with
    | .updated =>
      hangingLines ("  " ++ f.name ++ ": ") ("  " ++ spaces f.name.utf8ByteSize ++ "  ") (f.change.getD "updated")
    | .rejected errors => String.join (errors.map fun e => "  " ++ f.name ++ ": rejected: " ++ e.message ++ "\n")
    | .failed => "  " ++ f.name ++ ": not saved\n"
    | .unchanged => "")

/-- The first failure of a submission: the first error of the first rejected field,
or the first field that did not save. -/
def firstProblem (r : UpdateReport) : Option Problem :=
  r.fields.findSome? fun f =>
    match f.outcome with
    | .rejected errors => errors.head?.map fun e => Problem.coded e.message e.kind.code
    | .failed => some (Problem.coded ("the value of " ++ f.name ++ " was not saved") .persistenceFailure)
    | .updated | .unchanged => none

end Tool
end ListField
