/-!
# JSON documents

Reports are written as JSON. A document is a tree whose objects keep their members
in the order given, so each writer decides the order of its keys.

`Json.pretty` writes a document over several lines: two spaces of indent per level,
`": "` between a key and its value, a comma at the end of each member but the last,
and `[]` and `{}` for empty containers. Strings are quoted with `\"`, `\\`, the
short escapes `\b \f \n \r \t`, and `\u00xx` for the other control characters;
every other character is written as it is.

Numbers are kept as a decimal mantissa and a count of decimal places, so a number
read from text is kept exactly; an integer has no places.
-/

namespace ListField

/-- A JSON document; objects keep their members in order. -/
inductive Json where
  | null
  | bool (b : Bool)
  /-- The number `mantissa / 10 ^ places`. -/
  | num (mantissa : Int) (places : Nat)
  | str (s : String)
  | arr (items : List Json)
  | obj (members : List (String × Json))
  deriving Repr, Inhabited

namespace Json

/-- The integer `n`. -/
def int (n : Int) : Json := .num n 0

/-- The value of member `key` of an object, if it is there and not `null`. -/
def get? (j : Json) (key : String) : Option Json :=
  match j with
  | .obj members =>
    match members.find? (·.1 == key) with
    | some (_, .null) => none
    | some (_, v) => some v
    | none => none
  | _ => none

/-- Whether an object has member `key`, `null` or not. -/
def has (j : Json) (key : String) : Bool :=
  match j with
  | .obj members => members.any (·.1 == key)
  | _ => false

/-- The integer a number stands for, if it has no decimal places. -/
def int? : Json → Option Int
  | .num m 0 => some m
  | _ => none

/-- The text of a string. -/
def str? : Json → Option String
  | .str s => some s
  | _ => none

/-- The truth value of a boolean. -/
def bool? : Json → Option Bool
  | .bool b => some b
  | _ => none

/-- The items of an array. -/
def arr? : Json → Option (List Json)
  | .arr items => some items
  | _ => none

/-- The members of an object. -/
def obj? : Json → Option (List (String × Json))
  | .obj members => some members
  | _ => none

/-- A list of integers as an array. -/
def ints (ns : List Int) : Json := .arr (ns.map int)

/-- An optional value, `null` when absent. -/
def opt {α : Type} (f : α → Json) : Option α → Json
  | some a => f a
  | none => .null

/-- The lowercase hexadecimal digit of a number below 16. -/
def hexDigit (n : Nat) : Char :=
  if n < 10 then Char.ofNat (48 + n) else Char.ofNat (87 + n)

/-- One character inside a quoted string. -/
def escapeChar (c : Char) : String :=
  if c == '"' then "\\\""
  else if c == '\\' then "\\\\"
  else if c == '\n' then "\\n"
  else if c == '\r' then "\\r"
  else if c == '\t' then "\\t"
  else if c.toNat == 8 then "\\b"
  else if c.toNat == 12 then "\\f"
  else if c.toNat < 0x20 then
    String.ofList ['\\', 'u', '0', '0', hexDigit (c.toNat / 16), hexDigit (c.toNat % 16)]
  else c.toString

/-- A string in double quotes, escaped. -/
def quote (s : String) : String :=
  "\"" ++ String.join (s.toList.map escapeChar) ++ "\""

/-- The decimal text of `m / 10 ^ places`, with at least one digit on each side of
the point when there are places. -/
def numberText (m : Int) (places : Nat) : String :=
  if places == 0 then toString m
  else
    let digits := toString m.natAbs
    let padded := String.ofList (List.replicate (places + 1 - digits.length) '0') ++ digits
    let whole := padded.take (padded.length - places)
    let frac := padded.drop (padded.length - places)
    (if m < 0 then "-" else "") ++ whole.toString ++ "." ++ frac.toString

/-- Spaces for `level` levels of indent. -/
def indent (level : Nat) : String :=
  String.ofList (List.replicate (2 * level) ' ')

mutual

/-- A document over several lines, its first line not indented and its nested lines
indented from `level`. -/
def prettyAt (level : Nat) : Json → String
  | .null => "null"
  | .bool b => if b then "true" else "false"
  | .num m p => numberText m p
  | .str s => quote s
  | .arr [] => "[]"
  | .arr items => "[\n" ++ prettyItems (level + 1) items ++ "\n" ++ indent level ++ "]"
  | .obj [] => "\x7b\x7d"
  | .obj members =>
    "\x7b\n" ++ prettyMembers (level + 1) members ++ "\n" ++ indent level ++ "\x7d"

/-- The items of an array, one per line, each indented by `level`. -/
def prettyItems (level : Nat) : List Json → String
  | [] => ""
  | [x] => indent level ++ prettyAt level x
  | x :: rest => indent level ++ prettyAt level x ++ ",\n" ++ prettyItems level rest

/-- The members of an object, one per line, each indented by `level`. -/
def prettyMembers (level : Nat) : List (String × Json) → String
  | [] => ""
  | [(k, v)] => indent level ++ quote k ++ ": " ++ prettyAt level v
  | (k, v) :: rest =>
    indent level ++ quote k ++ ": " ++ prettyAt level v ++ ",\n" ++ prettyMembers level rest

end

/-- A document over several lines with two spaces of indent per level. -/
def pretty (j : Json) : String := prettyAt 0 j

end Json
end ListField
