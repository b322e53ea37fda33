import ListField.Toml.Reader
/-!
# Reporting errors in TOML text

An error that points at a place of the text is shown with the line it is on:

```text
TOML parse error at line 1, column 12
  |
1 | output = [
  |            ^
invalid array
expected `]`
```

Lines and columns count from one. The column counts characters up to the place
when the character there is ASCII (or the place is the end of the text), and bytes
otherwise. At the end of a text that ends with a line break the place is on the
last line, one past its break. The carets underline the bytes of the characters
pointed at, at least one and no further than the end of the line.
-/

namespace ListField
namespace Toml

/-- The line (from zero) and column (from zero) of character position `i` of `s`. -/
def lineColumn (s : Array Char) (i : Nat) : Nat × Nat :=
  if s.size = 0 then (0, i)
  else
    let atEnd := s.size ≤ i
    let idx := if atEnd then s.size - 1 else i
    let before := (s.extract 0 idx).toList
    -- the line starts after the last line break before the place
    let lineStart := before.length - (before.reverse.takeWhile (· != '\n')).length
    let line := (before.take lineStart).count '\n'
    let onLine := before.drop lineStart
    let column :=
      if atEnd then onLine.length + 1
      else if (s[idx]?.map fun c => decide (c.toNat < 0x80)).getD true then onLine.length
      else onLine.foldl (fun n c => n + c.utf8Size) 0
    (line, column)

/-- `n` spaces. -/
def spaces (n : Nat) : String := String.ofList (List.replicate n ' ')

/-- The text of an error of reading `text`: the place, when there is one, and the
sentence. -/
def ReadError.render (text : String) (e : ReadError) : String :=
  match e.mark with
  | none => e.message ++ "\n"
  | some (start, stop) =>
    let s := text.toList.toArray
    let (line, column) := lineColumn s start
    let lineNo := toString (line + 1)
    let gutter := spaces (lineNo.length + 1)
    let content := ((text.splitOn "\n")[line]?).getD ""
    let marked := (s.extract start stop).toList.foldl (fun n c => n + c.utf8Size) 0
    let width := min marked (content.utf8ByteSize - column)
    "TOML parse error at line " ++ lineNo ++ ", column " ++ toString (column + 1) ++ "\n" ++
    gutter ++ "|\n" ++
    lineNo ++ " | " ++ content ++ "\n" ++
    gutter ++ "|" ++ spaces (column + 1) ++ String.ofList (List.replicate (max width 1) '^') ++ "\n" ++
    e.message ++ "\n"

end Toml
end ListField
