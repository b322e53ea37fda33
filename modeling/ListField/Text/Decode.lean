import ListField.Ids
import ListField.Text.Json
/-!
# Reading values out of JSON documents

A `Decoder` reads a value of some shape out of a JSON document, or says why the
document does not have that shape.

An object is read in two passes. First its members are checked in increasing key
order, members of unknown keys skipped, and the first member whose value has the
wrong shape is reported. Then the value is built field by field in the order the
fields are declared, and the first field without a member is reported as missing
(unless it has a default). `null` stands for "absent" only where a field is
optional.

The sentences name what was found: `null`, ``boolean `true` ``, ``integer `5` ``,
``floating point `1.5` ``, `string "x"`, `sequence` or `map`.
-/

namespace ListField

/-- What a document holds, as named in decoding errors. -/
inductive Found where
  | null
  | bool (b : Bool)
  | int (n : Int)
  | float (text : String)
  | str (s : String)
  | seq
  | map
  deriving DecidableEq, Repr

/-- A string as written in a decoding error: in double quotes, with `"`, `\`, and
the common control characters escaped. -/
def debugQuote (s : String) : String :=
  let escape : Char → String := fun c =>
    if c == '"' then "\\\"" else if c == '\\' then "\\\\" else if c == '\n' then "\\n"
    else if c == '\t' then "\\t" else if c == '\r' then "\\r" else if c.toNat == 0 then "\\0"
    else if c.toNat < 0x20 || c.toNat == 0x7F then
      "\\u\x7b" ++ String.ofList (Nat.toDigits 16 c.toNat) ++ "\x7d"
    else c.toString
  "\"" ++ String.join (s.toList.map escape) ++ "\""

namespace Found

/-- What a document holds. -/
def of : Json → Found
  | .null => .null
  | .bool b => .bool b
  | .num m 0 => .int m
  | .num m p => .float (Json.numberText m p)
  | .str s => .str s
  | .arr _ => .seq
  | .obj _ => .map

/-- The words for what a document holds. -/
def describe : Found → String
  | .null => "null"
  | .bool b => "boolean `" ++ (if b then "true" else "false") ++ "`"
  | .int n => "integer `" ++ toString n ++ "`"
  | .float t => "floating point `" ++ t ++ "`"
  | .str s => "string " ++ debugQuote s
  | .seq => "sequence"
  | .map => "map"

end Found

/-- Why a document is not a value of the wanted shape. -/
inductive DecodeError where
  | missing (field : String)
  | wrongType (found : Found) (expected : String)
  | wrongValue (found : Found) (expected : String)
  | custom (message : String)
  deriving DecidableEq, Repr

/-- The sentence that reports a decoding error. -/
def DecodeError.message : DecodeError → String
  | .missing f => "missing field `" ++ f ++ "`"
  | .wrongType found expected => "invalid type: " ++ found.describe ++ ", expected " ++ expected
  | .wrongValue found expected => "invalid value: " ++ found.describe ++ ", expected " ++ expected
  | .custom m => m

/-- Reads a value of type `α` out of a document. -/
abbrev Decoder (α : Type) := Json → Except DecodeError α

namespace Decoder

/-- A signed 64-bit integer; a larger whole number is a wrong value, and a number
with decimal places a wrong type. -/
def int64 : Decoder Int
  | .num m 0 =>
    if idMin ≤ m ∧ m ≤ idMax then .ok m
    else if idMax < m ∧ m ≤ 18446744073709551615 then .error (.wrongValue (.int m) "i64")
    else .error (.wrongType (.float (toString m)) "i64")
  | j => .error (.wrongType (Found.of j) "i64")

/-- A string. -/
def string : Decoder String
  | .str s => .ok s
  | j => .error (.wrongType (Found.of j) "a string")

/-- A boolean. -/
def boolean : Decoder Bool
  | .bool b => .ok b
  | j => .error (.wrongType (Found.of j) "a boolean")

/-- An array, each item read by `d`. -/
def list {α : Type} (d : Decoder α) : Decoder (List α)
  | .arr items => items.mapM d
  | j => .error (.wrongType (Found.of j) "a sequence")

/-- An optional value: `null` is none. -/
def optional {α : Type} (d : Decoder α) : Decoder (Option α)
  | .null => .ok none
  | j => some <$> d j

/-- The members of an object, checked in increasing key order against the decoders
of the known keys. -/
def members (name : String) (known : List (String × (Json → Option DecodeError))) :
    Decoder (List (String × Json))
  | .obj ms =>
    let sorted := ms.mergeSort fun a b => a.1 ≤ b.1
    match sorted.findSome? fun (k, v) => (known.find? (·.1 == k)).bind fun (_, check) => check v with
    | some e => .error e
    | none => .ok sorted
  | j => .error (.wrongType (Found.of j) ("struct " ++ name))

/-- The check of one known key. -/
def checks {α : Type} (d : Decoder α) : Json → Option DecodeError :=
  fun v => match d v with | .ok _ => none | .error e => some e

/-- The value of a required member. -/
def need {α : Type} (ms : List (String × Json)) (key : String) (d : Decoder α) :
    Except DecodeError α :=
  match ms.find? (·.1 == key) with
  | some (_, v) => d v
  | none => .error (.missing key)

/-- The value of a member with a default. -/
def withDefault {α : Type} (ms : List (String × Json)) (key : String) (d : Decoder α) (dflt : α) :
    Except DecodeError α :=
  match ms.find? (·.1 == key) with
  | some (_, v) => d v
  | none => .ok dflt

end Decoder
end ListField
