import ListField.Toml.Scan
import ListField.Toml.Document
/-!
# Reading TOML text

`readDocument` reads a TOML 1.0 document into its tree of tables, or says where and
why the text is not one. The grammar is read top-down, one line-level statement at
a time (a comment, a header, a `key = value` pair, or a blank line), and each
statement is applied to the document being built before the next is read, so the
first problem in the text is the one reported.

A failure points at the first character that could not be read, and says what was
being read ("invalid basic string"), what would have been accepted ("expected `]`"),
or why a value was refused ("duplicate key `a` in document root"). A conflict found
when a statement is applied points at the start of the statement.

Nesting of arrays and inline tables is limited to `nestingLimit` levels.
-/

namespace ListField
namespace Toml
open Scan

/-! ## Character classes -/

/-- Blanks within a line: space and tab. -/
def isBlankChar (c : Char) : Bool := c == ' ' || c == '\t'

/-- Characters beyond ASCII. -/
def isNonAscii (c : Char) : Bool := 0x80 ≤ c.toNat

/-- Characters allowed in a comment: tab, printable ASCII, and non-ASCII. -/
def isCommentChar (c : Char) : Bool :=
  c == '\t' || (0x20 ≤ c.toNat && c.toNat ≤ 0x7E) || isNonAscii c

/-- Characters written as they are in a basic string. -/
def isBasicChar (c : Char) : Bool :=
  isBlankChar c || c.toNat == 0x21 || (0x23 ≤ c.toNat && c.toNat ≤ 0x5B) ||
    (0x5D ≤ c.toNat && c.toNat ≤ 0x7E) || isNonAscii c

/-- Characters of a literal string. -/
def isLiteralChar (c : Char) : Bool :=
  c == '\t' || (0x20 ≤ c.toNat && c.toNat ≤ 0x26) || (0x28 ≤ c.toNat && c.toNat ≤ 0x7E) ||
    isNonAscii c

/-- Characters of a bare key. -/
def isBareKeyChar (c : Char) : Bool :=
  ('A' ≤ c && c ≤ 'Z') || ('a' ≤ c && c ≤ 'z') || ('0' ≤ c && c ≤ '9') || c == '-' || c == '_'

/-- Decimal digits. -/
def isDigitChar (c : Char) : Bool := '0' ≤ c && c ≤ '9'

/-- Hexadecimal digits, either case. -/
def isHexChar (c : Char) : Bool :=
  isDigitChar c || ('a' ≤ c && c ≤ 'f') || ('A' ≤ c && c ≤ 'F')

/-! ## Blanks, line ends and comments -/

/-- Blanks within a line. -/
def blanks : Scan Unit := do let _ ← takeWhile isBlankChar

/-- A line break: LF or CR LF. -/
def newline : Scan Unit := orElse (char '\n') (do char '\r'; char '\n')

/-- A line break or the end of the text. -/
def lineEnd : Scan Unit := orElse newline eof

/-- A comment, up to the end of its line. -/
def comment : Scan Unit := do char '#'; let _ ← takeWhile isCommentChar

/-- What may follow a value or header on its line: blanks, a comment, the line end. -/
def lineRest : Scan Unit := do blanks; let _ ← opt comment; lineEnd

/-- Blanks and line breaks. -/
def blanksAndNewlines : Scan Unit := do
  let _ ← many (orElse newline (do let _ ← takeWhile1 isBlankChar))

/-- Blanks, comments and line breaks, as allowed between the items of an array. -/
def gap : Scan Unit := fun s i => go (s.size + 1) s i
where
  go : Nat → Array Char → Nat → Step Unit
    | 0, _, i => .ok () i
    | fuel + 1, s, i =>
      match blanks s i with
      | .ok _ j =>
        let step : Option (Scan Unit) := match s[j]? with
          | some '#' => some (do comment; newline)
          | some '\n' | some '\r' => some newline
          | _ => none
        match step with
        | none => .ok () j
        | some p =>
          match p s j with
          | .ok _ k => if k ≤ i then .ok () k else go fuel s k
          | .back k e => .back k e
          | .cut k e => .cut k e
      | .back j e => .back j e
      | .cut j e => .cut j e

/-! ## Strings -/

/-- The value of `n` hexadecimal digits. -/
def hexValue (digits : String) : Nat :=
  digits.foldl (fun n c =>
    let d := if isDigitChar c then c.toNat - '0'.toNat
      else if 'a' ≤ c && c ≤ 'f' then c.toNat - 'a'.toNat + 10
      else c.toNat - 'A'.toNat + 10
    n * 16 + d) 0

/-- Exactly `n` hexadecimal digits naming a character; fewer digits, or a number
that names no character, fail at the first digit. -/
def hexEscape (n : Nat) : Scan Char := fun s i =>
  if runLength isHexChar s i < n then .back i {}
  else
    let v := hexValue (String.ofList ((s.extract i (i + n)).toList))
    if v < 0xD800 || (0xDFFF < v && v < 0x110000) then .ok (Char.ofNat v) (i + n)
    else .back i (Fault.because (Conflict.message .outOfRange))

/-- The character after a backslash in a basic string. -/
def escapeCode : Scan Char := do
  match ← satisfy fun _ => true with
  | 'b' => return '\x08'
  | 'f' => return '\x0c'
  | 'n' => return '\n'
  | 'r' => return '\r'
  | 't' => return '\t'
  | 'u' => label "unicode 4-digit hex code" (commit (hexEscape 4))
  | 'U' => label "unicode 8-digit hex code" (commit (hexEscape 8))
  | '\\' => return '\\'
  | '"' => return '"'
  | _ => abort { notes := .label "escape sequence" ::
      ['b', 'f', 'n', 'r', 't', 'u', 'U', '\\', '"'].map fun c => .expected (.char c) }

/-- A backslash escape. -/
def escaped : Scan String := do char '\\'; let c ← escapeCode; return c.toString

/-- A run of a basic string: unescaped characters or one escape. -/
def basicPiece : Scan String := orElse (takeWhile1 isBasicChar) escaped

/-- A basic string `"..."`. -/
def basicString : Scan String := do
  char '"'
  let pieces ← many basicPiece
  label "basic string" (commit (char '"'))
  return String.join pieces

/-- A backslash at the end of a line, which drops the line break and the blanks
after it. -/
def lineContinuation : Scan String := do
  let _ ← many1 (do char '\\'; blanks; newline; blanksAndNewlines)
  return ""

/-- A run of a multi-line basic string. -/
def multiBasicPiece : Scan String :=
  orElse (takeWhile1 isBasicChar) <|
  orElse lineContinuation <|
  orElse escaped (do newline; return "\n")

/-- One or two quotes inside a multi-line basic string, followed by what `next`
accepts. -/
def innerQuotes (next : Scan Unit) : Scan String :=
  orElse (do literal "\"\""; lookahead next; return "\"\"") (do char '"'; lookahead next; return "\"")

/-- The body of a multi-line basic string: runs, with one or two quotes between
them, and up to two quotes just before the closing delimiter. -/
def multiBasicBody : Scan String := do
  let first ← many multiBasicPiece
  let middle ← many (do
    let q ← innerQuotes (do let _ ← satisfy (· != '"'))
    let p ← multiBasicPiece
    let more ← many multiBasicPiece
    return q ++ p ++ String.join more)
  let last ← opt (innerQuotes (literal "\"\"\""))
  return String.join first ++ String.join middle ++ last.getD ""

/-- A multi-line basic string `"""..."""`; a line break right after the opening
delimiter is dropped. -/
def multiBasicString : Scan String :=
  label "multiline basic string" do
    literal "\"\"\""
    let _ ← opt newline
    let body ← commit multiBasicBody
    commit (literal "\"\"\"")
    return body

/-- A literal string `'...'`. -/
def literalString : Scan String :=
  label "literal string" do
    char '\''
    let body ← commit (takeWhile isLiteralChar)
    commit (char '\'')
    return body

/-- A character of a multi-line literal string, a line break read as LF. -/
def multiLiteralPiece : Scan String :=
  orElse (do let c ← satisfy isLiteralChar; return c.toString) (do newline; return "\n")

/-- One or two apostrophes inside a multi-line literal string, followed by what
`next` accepts. -/
def innerApostrophes (next : Scan Unit) : Scan String :=
  orElse (do literal "''"; lookahead next; return "''") (do char '\''; lookahead next; return "'")

/-- A multi-line literal string `'''...'''`. -/
def multiLiteralString : Scan String :=
  label "multiline literal string" do
    literal "'''"
    let _ ← opt newline
    let body ← commit do
      let first ← many multiLiteralPiece
      let middle ← many (do
        let q ← innerApostrophes (do let _ ← satisfy (· != '\''))
        let ps ← many1 multiLiteralPiece
        return q ++ String.join ps)
      let last ← opt (innerApostrophes (literal "'''"))
      return String.join first ++ String.join middle ++ last.getD ""
    commit (literal "'''")
    return body

/-- Any of the four kinds of string. -/
def stringValue : Scan String :=
  orElse multiBasicString <| orElse basicString <| orElse multiLiteralString literalString

/-! ## Numbers -/

/-- Digits with single underscores between them (`1_000`), after a first digit read
by `first`. -/
def digitsAfter (first : Scan Char) (digit : Char → Bool) : Scan Unit := do
  let _ ← first
  let _ ← many (orElse (do let _ ← satisfy digit)
    (do char '_'; expect (.description "digit") (commit (do let _ ← satisfy digit))))

/-- A decimal integer as written: an optional sign, then `0` or digits not starting
with `0`. -/
def decimalText : Scan String :=
  label "integer" <| consumed do
    let _ ← opt (satisfy fun c => c == '+' || c == '-')
    orElse (digitsAfter (satisfy fun c => '1' ≤ c && c ≤ '9') isDigitChar)
      (do let _ ← satisfy isDigitChar)

/-- Removes the underscores of a number as written. -/
def withoutUnderscores (t : String) : String := String.ofList (t.toList.filter (· != '_'))

/-- Reads a signed 64-bit integer from text already known to be digits. -/
def signedValue (t : String) (base : Nat) : Except String Int :=
  let cs := (withoutUnderscores t).toList
  let (neg, ds) := match cs with
    | '-' :: rest => (true, rest)
    | '+' :: rest => (false, rest)
    | _ => (false, cs)
  let v : Nat := ds.foldl (fun n c =>
    n * base + (if isDigitChar c then c.toNat - '0'.toNat
      else if 'a' ≤ c && c ≤ 'f' then c.toNat - 'a'.toNat + 10
      else c.toNat - 'A'.toNat + 10)) 0
  let n : Int := if neg then -(v : Int) else v
  if n < -9223372036854775808 then .error "number too small to fit in target type"
  else if 9223372036854775807 < n then .error "number too large to fit in target type"
  else .ok n

/-- An integer with a base prefix (`0x`, `0o`, `0b`). -/
def prefixedInteger (pfx : String) (name : String) (digit : Char → Bool) (base : Nat) : Scan Int :=
  commit <| tryMap (label name (do
      literal pfx
      consumed (commit (digitsAfter (satisfy digit) digit)))) fun t => signedValue t base

/-- An integer. -/
def integer : Scan Int := do
  match ← peek2 with
  | (some '0', some 'x') => prefixedInteger "0x" "hexadecimal integer" isHexChar 16
  | (some '0', some 'o') => prefixedInteger "0o" "octal integer" (fun c => '0' ≤ c && c ≤ '7') 8
  | (some '0', some 'b') => prefixedInteger "0b" "binary integer" (fun c => c == '0' || c == '1') 2
  | _ =>
    fun s i => match decimalText s i with
      | .ok t j => match signedValue t 10 with
        | .ok n => .ok n j
        | .error m => .cut i (Fault.because m)
      | .back j e => .back j e
      | .cut j e => .cut j e

/-- Digits that may start with `0`. -/
def zeroDigits : Scan Unit := digitsAfter (satisfy isDigitChar) isDigitChar

/-- A fraction `.digits`. -/
def fraction : Scan Unit := do
  char '.'
  expect (.description "digit") (commit zeroDigits)

/-- An exponent `e±digits`. -/
def exponentPart : Scan Unit := do
  let _ ← satisfy fun c => c == 'e' || c == 'E'
  let _ ← opt (satisfy fun c => c == '+' || c == '-')
  commit zeroDigits

/-- The decimal value of a number with a fraction or an exponent, as written. -/
def floatLit (t : String) : FloatLit :=
  let cs := (withoutUnderscores t).toList
  let (neg, body) := match cs with
    | '-' :: rest => (true, rest)
    | '+' :: rest => (false, rest)
    | _ => (false, cs)
  let mantissa := body.takeWhile fun c => c != 'e' && c != 'E'
  let expText := (body.dropWhile fun c => c != 'e' && c != 'E').drop 1
  let intPart := mantissa.takeWhile (· != '.')
  let fracPart := (mantissa.dropWhile (· != '.')).drop 1
  let digits := (intPart ++ fracPart).foldl (fun n c => n * 10 + (c.toNat - '0'.toNat)) 0
  let (eneg, eds) := match expText with
    | '-' :: rest => (true, rest)
    | '+' :: rest => (false, rest)
    | _ => (false, expText)
  let e : Nat := eds.foldl (fun n c => n * 10 + (c.toNat - '0'.toNat)) 0
  let exp : Int := (if eneg then -(e : Int) else e) - fracPart.length
  .finite neg digits exp

/-- Whether a finite decimal is too large for a double (it would round to infinity). -/
def FloatLit.overflows : FloatLit → Bool
  | .finite _ digits exp =>
    if digits == 0 then false
    else
      let width := (Nat.toDigits 10 digits).length
      if exp + width > 310 then true
      else if exp + width < 308 then false
      else
        -- the largest double plus half an ulp: 2^1024 - 2^970
        let limit : Nat := Nat.pow 2 1024 - Nat.pow 2 970
        if exp ≥ 0 then digits * Nat.pow 10 exp.toNat ≥ limit
        else digits ≥ limit * Nat.pow 10 (-exp).toNat
  | _ => false

/-- `inf` or `nan`, with an optional sign. -/
def specialFloat : Scan FloatLit := do
  let sign ← opt (satisfy fun c => c == '+' || c == '-')
  let neg := sign == some '-'
  orElse (do literal "inf"; return .infinity neg) (do literal "nan"; return .nan neg)

/-- A number with a fraction or an exponent, or a special value. -/
def float : Scan FloatLit :=
  label "floating-point number" <| orElse
    (fun s i => match consumed (do
          let _ ← decimalText
          orElse exponentPart (do fraction; let _ ← opt exponentPart)) s i with
      | .ok t j =>
        -- a number beyond the largest double reads as an infinity, and only the
        -- negative one is accepted
        match floatLit t with
        | f@(.finite neg _ _) =>
          if !f.overflows then .ok f j else if neg then .ok (.infinity true) j else .cut i {}
        | f => .ok f j
      | .back j e => .back j e
      | .cut j e => .cut j e)
    specialFloat

/-! ## Dates and times -/

/-- Exactly `n` digits, with their value, which must lie in `lo..hi`. -/
def datePart (n lo hi : Nat) : Scan Nat :=
  tryMap (takeWhileIn isDigitChar n n) fun t =>
    let v := t.foldl (fun a c => a * 10 + (c.toNat - '0'.toNat)) 0
    if lo ≤ v && v ≤ hi then .ok v else .error (Conflict.message .outOfRange)

/-- A time `hh:mm:ss` with an optional fraction. -/
def partialTime : Scan Unit := do
  let _ ← datePart 2 0 23
  char ':'
  commit do
    let _ ← datePart 2 0 59
    char ':'
    let _ ← datePart 2 0 60
    let _ ← opt (do char '.'; let _ ← takeWhile1 isDigitChar)

/-- A time offset `Z` or `±hh:mm`. -/
def timeOffset : Scan Unit :=
  label "time offset" <| orElse (do let _ ← satisfy fun c => c == 'Z' || c == 'z')
    (do
      let _ ← satisfy fun c => c == '+' || c == '-'
      commit (do let _ ← datePart 2 0 23; char ':'; let _ ← datePart 2 0 59))

/-- A date, a date with a time (and offset), or a time. -/
def dateTime : Scan String :=
  consumed <| orElse
    (do
      let _ ← takeWhileIn isDigitChar 4 4
      char '-'
      commit (do let _ ← datePart 2 1 12; char '-'; let _ ← datePart 2 1 31)
      let _ ← opt (do
        let _ ← satisfy fun c => c == 'T' || c == 't' || c == ' '
        partialTime
        let _ ← opt timeOffset))
    partialTime

/-! ## Keys -/

/-- One key of a dotted key: bare, basic or literal. -/
def simpleKey : Scan Key := do
  let (name, a, b) ← spanned do
    match ← peek with
    | some '"' => basicString
    | some '\'' => literalString
    | _ => takeWhile1 isBareKeyChar
  return { name, span := ⟨a, b⟩ }

/-- A dotted key: keys separated by dots, with blanks around them. -/
def dottedKey : Scan (List Key) :=
  label "key" (sepBy1 (do blanks; let k ← simpleKey; blanks; return k) (char '.'))

/-! ## Values -/

/-- The largest depth of nested arrays and inline tables. -/
def nestingLimit : Nat := 80

/-- The expectations reported when no value starts here. -/
def notAValue {α : Type} (p : Scan α) : Scan α :=
  expect (.char '\'') (expect (.char '"') (label "string" p))

/-- Wraps a scalar read by `p` with its span. -/
def scalarAt (p : Scan Scalar) : Scan Item := do
  let (v, a, b) ← spanned p
  return .scalar v ⟨a, b⟩

/-- An array, its values read by `value`. -/
def arrayOf (value : Scan Item) : Scan Item := do
  let (items, a, b) ← spanned do
    char '['
    let items ← commit do
      let items ← opt (do
        let xs ← sepBy1 (do gap; let v ← value; gap; return v) (char ',')
        let _ ← opt (char ',')
        return xs)
      gap
      return items.getD []
    expect (.char ']') (label "array" (commit (char ']')))
    return items
  return .array items ⟨a, b⟩

/-- An inline table, its values read by `value`. The pairs are checked for
conflicts before the closing brace is read. -/
def inlineTableOf (value : Scan Item) : Scan Item := do
  let (t, a, b) ← spanned do
    char '{'
    let t ← commit do
      let start ← position
      let pairs ← sepBy (do
        let path ← dottedKey
        commit do
          expect (.char '=') (expect (.char '.') (char '='))
          blanks
          let v ← value
          blanks
          return (path, v)) (char ',')
      blanks
      let split := pairs.filterMap fun (path, v) =>
        match path.reverse with
        | k :: parentRev => some (parentRev.reverse, k, v)
        | [] => none
      match inlineTable split ⟨start, start⟩ with
      | .ok t => return t
      | .error c => fun _ _ => .back start (Fault.because c.message)
    expect (.char '}') (label "inline table" (commit (char '}')))
    return t
  return t.withSpan ⟨a, b⟩

/-- A value, with at most `depth` levels of nesting. -/
def value : Nat → Scan Item
  | 0 => fun _ i => .cut i (Fault.because (Conflict.message .tooDeep))
  | depth + 1 => do
    match ← peek with
    | some '"' | some '\'' => scalarAt (Scalar.str <$> stringValue)
    | some '[' => arrayOf (value depth)
    | some '{' => inlineTableOf (value depth)
    | some c =>
      if c == '+' || c == '-' || isDigitChar c then
        orElse (scalarAt (Scalar.datetime <$> dateTime)) <|
        orElse (scalarAt (Scalar.float <$> float)) (scalarAt (Scalar.int <$> integer))
      else if c == '_' then
        expect (.description "leading digit") (scalarAt (Scalar.int <$> integer))
      else if c == '.' then
        expect (.description "leading digit") (scalarAt (Scalar.float <$> float))
      else if c == 't' then
        notAValue (scalarAt (do
          commit (literal "true")
          return .bool true))
      else if c == 'f' then
        notAValue (scalarAt (do
          commit (literal "false")
          return .bool false))
      else if c == 'i' then
        notAValue (scalarAt (do literal "inf"; return .float (.infinity false)))
      else if c == 'n' then
        notAValue (scalarAt (do literal "nan"; return .float (.nan false)))
      else notAValue (fail {})
    | none => fail {}

/-! ## Statements -/

/-- `key = value`, up to the end of its line. -/
def keyValueLine : Scan (List Key × Item) := do
  let path ← dottedKey
  commit do
    expect (.char '=') (expect (.char '.') (char '='))
    blanks
    let v ← value nestingLimit
    expect (.char '#') (expect (.char '\n') lineRest)
    return (path, v)

/-- A header `[key]` or `[[key]]`, up to the end of its line. -/
def headerLine : Scan (Header × List Key × Span) := do
  let (open2, _) ← peek2
  let isElement := open2 == some '[' && (← peek2).2 == some '['
  let (path, a, b) ← spanned do
    if isElement then
      literal "[["
      let path ← commit dottedKey
      expect (.literal "]]") (expect (.char '.') (commit (literal "]]")))
      return path
    else
      char '['
      let path ← commit dottedKey
      expect (.literal "]") (expect (.char '.') (commit (char ']')))
      return path
  expect (.char '#') (expect (.char '\n') (commit lineRest))
  return (if isElement then .element else .table, path, ⟨a, b⟩)

/-- Why a text could not be read: the sentence, and the characters it points at
(from the first to before the last) when the problem is at one place. -/
structure ReadError where
  message : String
  mark : Option (Nat × Nat)
  deriving DecidableEq, Repr

/-- A failure at position `i` of a text of `n` characters: it points at the
character there, or at nothing at the end. -/
def ReadError.at (n i : Nat) (f : Fault) : ReadError :=
  { message := f.message, mark := some (i, if i < n then i + 1 else i) }

/-- Reads the statements from position `i` on into the document being built. -/
def statements (s : Array Char) : Nat → Nat → Building → Except ReadError Building
  | 0, _, b => .ok b
  | fuel + 1, i, b =>
    let fault := fun j f => Except.error (ReadError.at s.size j f)
    match s[i]? with
    | none => .ok b
    | some c =>
      let next : Except ReadError (Nat × Building) :=
        if c == '#' then
          match comment s i with
          | .ok _ j => match lineEnd s j with
            | .ok _ k => .ok (k, b)
            | .back k e | .cut k e => fault k e
          | .back j e | .cut j e => fault j e
        else if c == '[' then
          match headerLine s i with
          | .ok (header, path, span) j =>
            let started := match header with
              | .table => b.startTable path span
              | .element => b.startElement path span
            match started with
            | .ok b' => .ok (j, b')
            | .error c => fault i { notes := [.label "table header"], cause := some c.message }
          | .back j e | .cut j e => fault j { e with notes := e.notes ++ [.label "table header"] }
        else if c == '\n' || c == '\r' then
          match newline s i with
          | .ok _ j => .ok (j, b)
          | .back _ _ | .cut _ _ => fault i {}
        else
          match keyValueLine s i with
          | .ok (path, v) j =>
            match path.reverse with
            | k :: parentRev =>
              match b.addValue parentRev.reverse k v with
              | .ok b' => .ok (j, b')
              | .error c => fault i (Fault.because c.message)
            | [] => .ok (j, b)
          | .back j e | .cut j e => fault j e
      match next with
      | .error e => .error e
      | .ok (j, b') =>
        match blanks s j with
        | .ok _ k => if k ≤ i then .ok b' else statements s fuel k b'
        | .back k e | .cut k e => .error (ReadError.at s.size k e)

/-- Reads a document: an optional byte order mark, then statements. -/
def readDocument (text : String) : Except ReadError Item := do
  let s := text.toList.toArray
  let start := if s[0]? == some '\uFEFF' then 1 else 0
  let i := match blanks s start with | .ok _ j => j | _ => start
  let b ← statements s (s.size + 1) i {}
  match b.finish with
  | .ok root => return root
  | .error c => throw { message := c.message, mark := none }

end Toml
end ListField
