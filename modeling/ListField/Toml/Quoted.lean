/-!
# Writing strings as TOML

A string is written in the plainest of the four TOML string forms that can hold
it, tried in this order:

1. `"..."` with only the always-escaped characters escaped (no `"`, `\`, line
   break or control character in the string);
2. `'...'` verbatim (no `'`, line break or control character);
3. `"""..."""` (no `\`, control character or run of more than two `"`);
4. `'''...'''` verbatim (no control character or run of more than two `'`);
5. otherwise `"""..."""` when the string has a line break, and `"..."` when not,
   escaping whatever needs it.

A tab is not a control character here. A multi-line form starts with a line break
when the string has one, so that the string's first line starts a line of its own.
In a `"` form, backspace, tab, form feed, carriage return and `\` have short
escapes, a line break is escaped in the one-line form, a `"` is escaped once it
would make a run longer than the form allows, and other control characters are
written `\uXXXX`.
-/

namespace ListField
namespace Toml

/-- What decides the form of a string. -/
structure StringTraits where
  /-- The longest run of `'`. -/
  apostrophes : Nat := 0
  /-- The longest run of `"`. -/
  quotes : Nat := 0
  /-- Whether a control character other than tab and line feed occurs. -/
  control : Bool := false
  /-- Whether a `\` occurs. -/
  backslash : Bool := false
  /-- Whether a line feed occurs. -/
  newline : Bool := false
  deriving DecidableEq, Repr

/-- Whether a character must be written as an escape code in any string form. -/
def isControl (c : Char) : Bool :=
  (c.toNat ≤ 0x1F && c != '\t' && c != '\n') || c.toNat == 0x7F

/-- The traits of a string. -/
def StringTraits.of (s : String) : StringTraits :=
  (s.toList.foldl step ({}, 0, 0)).1
where
  /-- Adds one character, with the current runs of `'` and `"`. -/
  step (acc : StringTraits × Nat × Nat) (c : Char) : StringTraits × Nat × Nat :=
    let (t, ap, qu) := acc
    let ap := if c == '\'' then ap + 1 else 0
    let qu := if c == '"' then qu + 1 else 0
    ({ apostrophes := max t.apostrophes ap, quotes := max t.quotes qu,
       control := t.control || isControl c, backslash := t.backslash || c == '\\',
       newline := t.newline || c == '\n' }, ap, qu)

/-- Four hexadecimal digits, upper case. -/
def hex4 (n : Nat) : String :=
  let ds := Nat.toDigits 16 n
  String.ofList ((List.replicate (4 - ds.length) '0' ++ ds).map Char.toUpper)

/-- The body of a `"` string: `multiline` allows line breaks and runs of two `"`. -/
def escapedBody (multiline : Bool) (s : String) : String :=
  let limit := if multiline then 2 else 0
  let (out, _) := s.toList.foldl (fun (acc : String × Nat) c =>
      let (out, run) := acc
      let run := if c == '"' then run + 1 else 0
      let piece :=
        if c == '"' then (if run > limit then "\\\"" else "\"")
        else if c == '\x08' then "\\b"
        else if c == '\t' then "\\t"
        else if c == '\n' then (if multiline then "\n" else "\\n")
        else if c == '\x0c' then "\\f"
        else if c == '\r' then "\\r"
        else if c == '\\' then "\\\\"
        else if isControl c then "\\u" ++ hex4 c.toNat
        else c.toString
      (out ++ piece, run)) ("", 0)
  out

/-- The TOML text of a string. -/
def quoted (s : String) : String :=
  let t := StringTraits.of s
  let lead := if t.newline then "\n" else ""
  if !t.control && !t.backslash && t.quotes == 0 && !t.newline then
    "\"" ++ escapedBody false s ++ "\""
  else if !t.control && t.apostrophes == 0 && !t.newline then
    "'" ++ s ++ "'"
  else if !t.control && !t.backslash && t.quotes ≤ 2 then
    "\"\"\"" ++ lead ++ escapedBody true s ++ "\"\"\""
  else if !t.control && t.apostrophes ≤ 2 then
    "'''" ++ lead ++ s ++ "'''"
  else if t.newline then
    "\"\"\"" ++ lead ++ escapedBody true s ++ "\"\"\""
  else
    "\"" ++ escapedBody false s ++ "\""

end Toml
end ListField
