/-!
# Scanning text with committed and recoverable failures

A `Scan α` reads a value of type `α` from a position of a character array. It
either succeeds with the value and the position after it, or fails at the position
where reading stopped. A failure is recoverable (`back`: an enclosing choice may try
something else from where it started) or committed (`cut`: the text is malformed
here, and no alternative is tried).

A failure carries a `Fault`: the things being read when it happened (innermost
first), the tokens that would have been accepted, and an underlying cause. Its
sentence is "invalid <thing>", then "expected <tokens>", then the cause, each on a
line of its own.

Sequencing keeps the position where a step failed, so a failure points at the first
character that could not be read. `opt`, `orElse` and `many` start again from where
they started when their parser fails recoverably; `tryMap` reports a rejected value
at the start of the text it was read from.
-/

namespace ListField
namespace Toml

/-- A token that would have been accepted where reading stopped. -/
inductive Expected where
  | char (c : Char)
  | literal (s : String)
  | description (s : String)
  deriving DecidableEq, Repr

/-- The words for an expected token: a character or literal in backquotes, a line
break as "newline". -/
def Expected.describe : Expected → String
  | .char '\n' => "newline"
  | .char '`' => "'`'"
  | .char c =>
    if c.toNat < 0x20 || c.toNat == 0x7F then
      "`\\u\x7b" ++ String.ofList (Nat.toDigits 16 c.toNat) ++ "\x7d`"
    else "`" ++ c.toString ++ "`"
  | .literal s => "`" ++ s ++ "`"
  | .description s => s

/-- One piece of context added to a failure on its way out. -/
inductive Note where
  | label (thing : String)
  | expected (e : Expected)
  deriving DecidableEq, Repr

/-- Why reading failed: the notes in the order they were added (innermost first)
and the underlying cause. -/
structure Fault where
  notes : List Note := []
  cause : Option String := none
  deriving DecidableEq, Repr

namespace Fault

/-- A fault with only a cause. -/
def because (cause : String) : Fault := { cause := some cause }

/-- The sentence for the fault: "invalid <innermost thing>", the expected tokens,
and the cause, one per line. -/
def message (f : Fault) : String :=
  let label := f.notes.findSome? fun n => match n with | .label l => some l | _ => none
  let expected := f.notes.filterMap fun n => match n with | .expected e => some e.describe | _ => none
  let parts :=
    (label.map ("invalid " ++ ·)).toList ++
    (if expected.isEmpty then [] else ["expected " ++ ", ".intercalate expected]) ++
    f.cause.toList
  "\n".intercalate parts

end Fault

/-- The outcome of one reading step. -/
inductive Step (α : Type) where
  | ok (a : α) (pos : Nat)
  | back (pos : Nat) (fault : Fault)
  | cut (pos : Nat) (fault : Fault)

/-- Reads an `α` from a position of a character array. -/
def Scan (α : Type) : Type := Array Char → Nat → Step α

namespace Scan

instance : Monad Scan where
  pure a := fun _ i => .ok a i
  bind p f := fun s i =>
    match p s i with
    | .ok a j => f a s j
    | .back j e => .back j e
    | .cut j e => .cut j e

/-- The current position. -/
def position : Scan Nat := fun _ i => .ok i i

/-- The character at the current position, without consuming it. -/
def peek : Scan (Option Char) := fun s i => .ok s[i]? i

/-- The two characters from the current position, without consuming them. -/
def peek2 : Scan (Option Char × Option Char) := fun s i => .ok (s[i]?, s[i + 1]?) i

/-- A recoverable failure here. -/
def fail {α : Type} (f : Fault) : Scan α := fun _ i => .back i f

/-- A committed failure here. -/
def abort {α : Type} (f : Fault) : Scan α := fun _ i => .cut i f

/-- Makes every failure of `p` committed. -/
def commit {α : Type} (p : Scan α) : Scan α := fun s i =>
  match p s i with
  | .back j e => .cut j e
  | r => r

/-- Adds a note to any failure of `p`. -/
def note {α : Type} (n : Note) (p : Scan α) : Scan α := fun s i =>
  match p s i with
  | .back j e => .back j { e with notes := e.notes ++ [n] }
  | .cut j e => .cut j { e with notes := e.notes ++ [n] }
  | r => r

/-- Names the thing being read by `p`. -/
def label {α : Type} (thing : String) (p : Scan α) : Scan α := note (.label thing) p

/-- Adds an expected token to any failure of `p`. -/
def expect {α : Type} (e : Expected) (p : Scan α) : Scan α := note (.expected e) p

/-- `p`, or nothing when it fails recoverably. -/
def opt {α : Type} (p : Scan α) : Scan (Option α) := fun s i =>
  match p s i with
  | .ok a j => .ok (some a) j
  | .back _ _ => .ok none i
  | .cut j e => .cut j e

/-- `p`, or `q` from the same position when `p` fails recoverably. -/
def orElse {α : Type} (p q : Scan α) : Scan α := fun s i =>
  match p s i with
  | .back _ _ => q s i
  | r => r

/-- `p` without consuming anything. -/
def lookahead {α : Type} (p : Scan α) : Scan α := fun s i =>
  match p s i with
  | .ok a _ => .ok a i
  | .back _ e => .back i e
  | .cut _ e => .cut i e

/-- `p`, then `f` on its value; a rejected value fails recoverably at the start. -/
def tryMap {α β : Type} (p : Scan α) (f : α → Except String β) : Scan β := fun s i =>
  match p s i with
  | .ok a j =>
    match f a with
    | .ok b => .ok b j
    | .error m => .back i (Fault.because m)
  | .back j e => .back j e
  | .cut j e => .cut j e

/-- `p`, with the positions it started and stopped at. -/
def spanned {α : Type} (p : Scan α) : Scan (α × Nat × Nat) := fun s i =>
  match p s i with
  | .ok a j => .ok (a, i, j) j
  | .back j e => .back j e
  | .cut j e => .cut j e

/-- The text that `p` consumed. -/
def consumed {α : Type} (p : Scan α) : Scan String := fun s i =>
  match p s i with
  | .ok _ j => .ok (String.ofList ((s.extract i j).toList)) j
  | .back j e => .back j e
  | .cut j e => .cut j e

/-- Repeats `p` while it succeeds, at most `fuel` times. -/
def repeatUpTo {α : Type} (p : Scan α) : Nat → Array Char → Nat → List α → Step (List α)
  | 0, _, i, acc => .ok acc.reverse i
  | fuel + 1, s, i, acc =>
    match p s i with
    | .ok a j => if j ≤ i then .ok (a :: acc).reverse j else repeatUpTo p fuel s j (a :: acc)
    | .back _ _ => .ok acc.reverse i
    | .cut j e => .cut j e

/-- `p` as often as it succeeds; a step that consumes nothing ends the repetition. -/
def many {α : Type} (p : Scan α) : Scan (List α) := fun s i =>
  repeatUpTo p (s.size + 1 - i) s i []

/-- `p` at least once. -/
def many1 {α : Type} (p : Scan α) : Scan (List α) := do
  let a ← p
  let rest ← many p
  return a :: rest

/-- Items read by `p`, one or more, separated by `sep`; a separator not followed by
an item is left unread. -/
def sepBy1 {α β : Type} (p : Scan α) (sep : Scan β) : Scan (List α) := do
  let a ← p
  let rest ← many (do let _ ← sep; p)
  return a :: rest

/-- Items read by `p`, none or more, separated by `sep`. -/
def sepBy {α β : Type} (p : Scan α) (sep : Scan β) : Scan (List α) := do
  match ← opt (sepBy1 p sep) with
  | some xs => return xs
  | none => return []

/-- One character of a class. -/
def satisfy (pred : Char → Bool) : Scan Char := fun s i =>
  match s[i]? with
  | some c => if pred c then .ok c (i + 1) else .back i {}
  | none => .back i {}

/-- The character `c`. -/
def char (c : Char) : Scan Unit := fun s i =>
  if s[i]? == some c then .ok () (i + 1) else .back i {}

/-- The characters of `lit`, in order. -/
def literal (lit : String) : Scan Unit := fun s i =>
  let cs := lit.toList
  if (s.extract i (i + cs.length)).toList == cs then .ok () (i + cs.length) else .back i {}

/-- The length of the run of characters of a class from position `i`. -/
def runLength (pred : Char → Bool) (s : Array Char) (i : Nat) : Nat :=
  go (s.size - i) i 0
where
  go : Nat → Nat → Nat → Nat
    | 0, _, n => n
    | fuel + 1, j, n =>
      match s[j]? with
      | some c => if pred c then go fuel (j + 1) (n + 1) else n
      | none => n

/-- Between `lo` and `hi` characters of a class, as many as there are; fewer than
`lo` fails without consuming. -/
def takeWhileIn (pred : Char → Bool) (lo hi : Nat) : Scan String := fun s i =>
  let n := min (runLength pred s i) hi
  if n < lo then .back i {}
  else .ok (String.ofList ((s.extract i (i + n)).toList)) (i + n)

/-- Characters of a class, as many as there are (possibly none). -/
def takeWhile (pred : Char → Bool) : Scan String := takeWhileIn pred 0 (Nat.pow 2 64)

/-- Characters of a class, at least one. -/
def takeWhile1 (pred : Char → Bool) : Scan String := takeWhileIn pred 1 (Nat.pow 2 64)

/-- Succeeds only at the end of the text. -/
def eof : Scan Unit := fun s i => if s.size ≤ i then .ok () i else .back i {}

end Scan
end Toml
end ListField
