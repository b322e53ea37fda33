/-!
# Mistakes on the command line

Why a command line could not be read, and the message that says so:

```text
error: the following required arguments were not provided:
  <LOGIN>

Usage: pk user create <LOGIN>

For more information, try '--help'.
```

A message starts with `error: `, may give tips (a similar name, or how to pass a
word as a value), shows the usage line when it helps, and ends by pointing at the
help of the command.
-/

namespace ListField
namespace Cli

/-- Why a command line could not be read. -/
inductive ArgError where
  /-- A word that is none of the command's arguments. -/
  | unknown (word : String) (similar : Option String) (tips : List String) (usage : String)
  /-- A word where a subcommand was expected. -/
  | unknownSubcommand (word : String) (similar : List String) (tips : List String) (usage : String)
  /-- A value its argument does not accept. -/
  | badValue (value arg reason : String)
  /-- An argument given without its value. -/
  | missingValue (arg : String)
  /-- An argument given twice that may be given once. -/
  | repeated (arg : String) (usage : String)
  /-- Arguments that must be given and were not. -/
  | missingRequired (args : List String) (usage : String)
  /-- A command that needs a subcommand, given none. -/
  | missingSubcommand (command : String) (names : List String) (usage : String)
  /-- A value given to a switch. -/
  | extraValue (value arg : String) (usage : String)
  deriving DecidableEq, Repr

namespace ArgError

/-- The tip naming similar words: `a similar argument exists: '--json'`. -/
def similarTip (kind : String) : List String → String
  | [one] => "a similar " ++ kind ++ " exists: '" ++ one ++ "'"
  | many => "some similar " ++ kind ++ "s exist: " ++ ", ".intercalate (many.map fun w => "'" ++ w ++ "'")

/-- The tips of a message, after a blank line. -/
def tipLines (similar : Option String) (tips : List String) : String :=
  (match similar with
   | some s => "\n\n  tip: " ++ s
   | none => if tips.isEmpty then "" else "\n") ++
  String.join (tips.map fun t => "\n  tip: " ++ t)

/-- The first sentence of the message, its tips, and its usage line if it has one. -/
def body : ArgError → String × Option String
  | .unknown w similar tips usage =>
    ("unexpected argument '" ++ w ++ "' found" ++ tipLines (similar.map (similarTip "argument" [·])) tips,
     some usage)
  | .unknownSubcommand w similar tips usage =>
    ("unrecognized subcommand '" ++ w ++ "'" ++
      tipLines (if similar.isEmpty then none else some (similarTip "subcommand" similar)) tips, some usage)
  | .badValue v a r => ("invalid value '" ++ v ++ "' for '" ++ a ++ "': " ++ r, none)
  | .missingValue a => ("a value is required for '" ++ a ++ "' but none was supplied", none)
  | .repeated a usage => ("the argument '" ++ a ++ "' cannot be used multiple times", some usage)
  | .missingRequired args usage =>
    ("the following required arguments were not provided:" ++ String.join (args.map ("\n  " ++ ·)),
     some usage)
  | .missingSubcommand c names usage =>
    ("'" ++ c ++ "' requires a subcommand but one was not provided\n  [subcommands: " ++
      ", ".intercalate names ++ "]", some usage)
  | .extraValue v a usage =>
    ("unexpected value '" ++ v ++ "' for '" ++ a ++ "' found; no more were expected", some usage)

/-- The message, ending with a pointer to `hint` (how to ask for help) when there
is one. -/
def render (e : ArgError) (hint : Option String) : String :=
  let (first, usage) := e.body
  "error: " ++ first ++ (match usage with | some u => "\n\nUsage: " ++ u | none => "") ++
  (match hint with
   | some h => "\n\nFor more information, try '" ++ h ++ "'.\n"
   | none => "\n")

end ArgError
end Cli
end ListField
