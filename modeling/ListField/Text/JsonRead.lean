import ListField.Text.Json
/-!
# Reading JSON text

`Json.read` turns a JSON text into a document: `null`, `true`, `false`, numbers
(an optional minus, digits, an optional fraction and an optional exponent),
strings with the escapes of JSON (`\uXXXX` included, surrogate pairs joined),
arrays and objects, with blanks between the tokens. Anything else, or anything
after the document but blanks, is not JSON.

Every step of the reader consumes at least one character before it reads a nested
value, so a fuel of twice the length of the text, plus two, is enough for any text.
-/

namespace ListField
namespace Json

/-- Drops the blanks at the start. -/
def skipBlanks : List Char → List Char
  | c :: cs => if c == ' ' || c == '\n' || c == '\r' || c == '\t' then skipBlanks cs else c :: cs
  | [] => []

/-- The value of a hexadecimal digit. -/
def hexValue? (c : Char) : Option Nat :=
  if '0' ≤ c ∧ c ≤ '9' then some (c.toNat - 48)
  else if 'a' ≤ c ∧ c ≤ 'f' then some (c.toNat - 87)
  else if 'A' ≤ c ∧ c ≤ 'F' then some (c.toNat - 55)
  else none

/-- The number written by four hexadecimal digits. -/
def hex4? (a b c d : Char) : Option Nat := do
  return (← hexValue? a) * 4096 + (← hexValue? b) * 256 + (← hexValue? c) * 16 + (← hexValue? d)

/-- The character a short escape stands for. -/
def shortEscape? : Char → Option Char
  | '"' => some '"'
  | '\\' => some '\\'
  | '/' => some '/'
  | 'b' => some (Char.ofNat 8)
  | 'f' => some (Char.ofNat 12)
  | 'n' => some '\n'
  | 'r' => some '\r'
  | 't' => some '\t'
  | _ => none

/-- Reads the rest of a string after its opening quote. -/
def readString (acc : String) : List Char → Option (String × List Char)
  | '"' :: rest => some (acc, rest)
  | '\\' :: 'u' :: a :: b :: c :: d :: rest =>
    match hex4? a b c d with
    | none => none
    | some hi =>
      if 0xD800 ≤ hi ∧ hi < 0xDC00 then
        match rest with
        | '\\' :: 'u' :: e :: f :: g :: h :: more =>
          match hex4? e f g h with
          | some lo =>
            if 0xDC00 ≤ lo ∧ lo < 0xE000 then
              readString (acc.push (Char.ofNat (0x10000 + (hi - 0xD800) * 0x400 + (lo - 0xDC00)))) more
            else none
          | none => none
        | _ => none
      else if 0xDC00 ≤ hi ∧ hi < 0xE000 then none
      else readString (acc.push (Char.ofNat hi)) rest
  | '\\' :: e :: rest =>
    match shortEscape? e with
    | some c => readString (acc.push c) rest
    | none => none
  | c :: rest => if c.toNat < 0x20 then none else readString (acc.push c) rest
  | [] => none

/-- The leading decimal digits, and the rest. -/
def spanDigits : List Char → List Char × List Char
  | c :: cs => if c.isDigit then let (ds, r) := spanDigits cs; (c :: ds, r) else ([], c :: cs)
  | [] => ([], [])

/-- The number written by decimal digits. -/
def digitsValue (ds : List Char) : Nat :=
  ds.foldl (fun n c => n * 10 + (c.toNat - 48)) 0

/-- Reads a number: `-`, digits, `.digits`, `e±digits`. -/
def readNumber (cs : List Char) : Option (Json × List Char) :=
  let (negative, cs) := match cs with
    | '-' :: rest => (true, rest)
    | rest => (false, rest)
  let (whole, cs) := spanDigits cs
  if whole.isEmpty || (whole.length > 1 && whole.head? == some '0') then none
  else
    let (fraction, cs, okFraction) := match cs with
      | '.' :: rest => let (f, r) := spanDigits rest; (f, r, !f.isEmpty)
      | rest => ([], rest, true)
    let (exponent, cs, okExponent) := match cs with
      | e :: rest =>
        if e == 'e' || e == 'E' then
          let (sign, rest) := match rest with
            | '-' :: r => (-1, r)
            | '+' :: r => (1, r)
            | r => (1, r)
          let (ds, r) := spanDigits rest
          ((sign : Int) * digitsValue ds, r, !ds.isEmpty)
        else (0, e :: rest, true)
      | [] => (0, [], true)
    if !okFraction || !okExponent then none
    else
      let mantissa : Int := digitsValue (whole ++ fraction)
      let mantissa := if negative then -mantissa else mantissa
      let places : Int := fraction.length - exponent
      if places ≤ 0 then some (.num (mantissa * Int.pow 10 places.natAbs) 0, cs)
      else some (.num mantissa places.toNat, cs)

mutual

/-- Reads one value, after blanks. -/
def readValue : Nat → List Char → Option (Json × List Char)
  | 0, _ => none
  | fuel + 1, cs =>
    match skipBlanks cs with
    | 'n' :: 'u' :: 'l' :: 'l' :: rest => some (.null, rest)
    | 't' :: 'r' :: 'u' :: 'e' :: rest => some (.bool true, rest)
    | 'f' :: 'a' :: 'l' :: 's' :: 'e' :: rest => some (.bool false, rest)
    | '"' :: rest => (readString "" rest).map fun (s, r) => (.str s, r)
    | '[' :: rest =>
      match skipBlanks rest with
      | ']' :: more => some (.arr [], more)
      | _ => readItems fuel [] rest
    | '{' :: rest =>
      match skipBlanks rest with
      | '}' :: more => some (.obj [], more)
      | _ => readMembers fuel [] rest
    | other => readNumber other

/-- Reads the items of an array after `[`, up to its `]`. -/
def readItems : Nat → List Json → List Char → Option (Json × List Char)
  | 0, _, _ => none
  | fuel + 1, acc, cs =>
    match readValue fuel cs with
    | none => none
    | some (v, rest) =>
      match skipBlanks rest with
      | ',' :: more => readItems fuel (acc ++ [v]) more
      | ']' :: more => some (.arr (acc ++ [v]), more)
      | _ => none

/-- Reads the members of an object after `{`, up to its `}`. -/
def readMembers : Nat → List (String × Json) → List Char → Option (Json × List Char)
  | 0, _, _ => none
  | fuel + 1, acc, cs =>
    match skipBlanks cs with
    | '"' :: rest =>
      match readString "" rest with
      | none => none
      | some (key, rest) =>
        match skipBlanks rest with
        | ':' :: rest =>
          match readValue fuel rest with
          | none => none
          | some (v, rest) =>
            match skipBlanks rest with
            | ',' :: more => readMembers fuel (acc ++ [(key, v)]) more
            | '}' :: more => some (.obj (acc ++ [(key, v)]), more)
            | _ => none
        | _ => none
    | _ => none

end

/-- The document written by a JSON text, if it is one. -/
def read (text : String) : Option Json :=
  let cs := text.toList
  match readValue (2 * cs.length + 2) cs with
  | some (v, rest) => if (skipBlanks rest).isEmpty then some v else none
  | none => none

end Json
end ListField
