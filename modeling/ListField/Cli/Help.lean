import ListField.Cli.Grammar
/-!
# Usage lines and help text

The usage line of a command names the program and the command path, `[OPTIONS]`
when the command has a named argument that is not required, the required named
arguments, every positional argument (`<NAME>` when required, `[NAME]` otherwise)
and `<COMMAND>` when a subcommand must follow.

When reading stopped on a missing or unknown argument, the usage is told from what
was given (`Command.usageFor`): the required named arguments and those given, then
every positional argument, and no `[OPTIONS]`.

Help is the description, the usage, the subcommands, the positional arguments, the
named arguments, one section per custom heading, and the text after. Within a
section, the names are padded to one column so that the descriptions line up; a
section whose descriptions would not fit on a line of 100 columns puts each
description on a line of its own.
-/

namespace ListField
namespace Cli

/-- `n` spaces. -/
def pad (n : Nat) : String := String.ofList (List.replicate n ' ')

/-- The width of a text on a terminal, counting one column per character. -/
def width (s : String) : Nat := s.length

/-- The width of the terminal that help is laid out for. -/
def termWidth : Nat := 100

/-- Appends `x` unless it is there already. -/
def insertNew (xs : List String) (x : String) : List String :=
  if xs.contains x then xs else xs ++ [x]

namespace Command

/-- Whether the usage line shows `[OPTIONS]`: some named argument other than the
built-in switches may be left out. -/
def needsOptionsTag (c : Command) : Bool :=
  c.args.any fun a => !a.positional && !a.required &&
    (a.action == .flag || a.action == .single || a.action == .append)

/-- The arguments of a usage line: named arguments first (the required ones, then
those in `used`), then each positional argument in place. `optional` shows the
required and used ones as optional. -/
def usageArgs (c : Command) (used : List String) (optional : Bool) : List String :=
  let picked := c.requiredArgs.map (·.id) ++ used
  let named := (picked.filterMap c.byId?).filter (!·.positional)
  let opts := named.foldl (fun acc a => insertNew acc (a.displayAs !optional)) []
  let pos := c.positionals.map fun p =>
    if picked.contains p.id then p.displayAs !optional else p.displayAs false
  opts ++ pos

/-- The usage line of the command run as `bin`, before anything was given. -/
def usage (c : Command) (bin : String) : String :=
  let parts := [bin] ++ (if c.needsOptionsTag then ["[OPTIONS]"] else []) ++ c.usageArgs [] false ++
    (if c.hasSubcommands then ["<COMMAND>"] else [])
  " ".intercalate parts

/-- The usage line told from the arguments `used`. -/
def usageFor (c : Command) (bin : String) (used : List String) : String :=
  if used.isEmpty then c.usage bin
  else " ".intercalate ([bin] ++ c.usageArgs used false ++ (if c.hasSubcommands then ["<COMMAND>"] else []))

end Command

namespace Arg

/-- The default value as listed in help: `[default: static]`. -/
def specText (a : Arg) : String :=
  match a.default with
  | some d => "[default: " ++ (if d.any Char.isWhitespace then "\"" ++ d ++ "\"" else d) ++ "]"
  | none => ""

/-- The description of an argument in help, with its default. -/
def helpText (a : Arg) : String :=
  let spec := a.specText
  if spec.isEmpty then a.help else if a.help.isEmpty then spec else a.help ++ " " ++ spec

/-- The width an argument's name takes in its section (named arguments leave room
for `-s, `). -/
def nameWidth (a : Arg) : Nat :=
  width a.display + (if a.positional then 0 else 4)

/-- The name of an argument at the start of its help line. -/
def helpName (a : Arg) : String :=
  if a.positional then a.display
  else
    let shortPart := match a.short with
      | some s => "-" ++ s.toString ++ (if a.long.isSome then ", " else "")
      | none => "    "
    let longPart := match a.long with
      | some l => "--" ++ l
      | none => ""
    shortPart ++ longPart ++ (if a.takesValue then " " ++ a.placeholder a.required else "")

/-- The sort key of an argument within a named section: its display order, then its
short letter (lower case first) or its long name. -/
def sortKey (a : Arg) : Nat × String :=
  let key := match a.short, a.long with
    | some s, _ => s.toLower.toString ++ (if s.isLower then "0" else "1")
    | none, some l => l
    | none, none => "\x7b" ++ a.id
  (a.order, key)

/-- Whether `a` may be listed before `b`: by their sort keys. -/
def keyBefore (a b : Arg) : Bool :=
  let (m, x) := a.sortKey
  let (n, y) := b.sortKey
  m < n || (m == n && x ≤ y)

end Arg

/-- Lines of a section from rows of a name, a description and the width the
description counts for: each name padded to the column of the descriptions, or,
when some description would not fit on the line, each description on a line of its
own. -/
def layout (rows : List (String × String × Nat)) (longest : Nat) : List String :=
  let taken := longest + 4
  let tooLong := rows.any fun (_, _, w) =>
    termWidth ≥ taken && taken * 10 > termWidth * 4 && w > termWidth - taken
  rows.map fun (name, h, _) =>
    if tooLong then "  " ++ name ++ "\n" ++ pad 10 ++ h
    else "  " ++ name ++ pad (longest + 2 - width name) ++ h

/-- The help lines of arguments, in the order given. -/
def argLines (args : List Arg) : List String :=
  let longest := args.foldl (fun m a =>
    if a.takesValue || a.long.isSome || a.short.isNone then max m a.nameWidth else m) 2
  layout (args.map fun a => (a.helpName, a.helpText, width a.help + width a.specText)) longest

namespace Command

/-- The lines listing the subcommands. -/
def subcommandLines (c : Command) : List String :=
  let subs := c.subcommands
  let longest := subs.foldl (fun m s => max m (width s.name)) 2
  layout (subs.map fun s => (s.name, s.about, width s.about)) longest

/-- The sections of the help: subcommands, positional arguments, named arguments and
one section per custom heading, in the order headings first appear. -/
def sections (c : Command) : List (String × List String) :=
  let plainPos := c.args.filter fun a => a.positional && a.heading.isNone
  let plainNamed := (c.args.filter fun a => !a.positional && a.heading.isNone).mergeSort Arg.keyBefore
  let headings := c.args.foldl (fun acc a => match a.heading with
    | some h => insertNew acc h
    | none => acc) []
  (if c.hasSubcommands then [("Commands", c.subcommandLines)] else []) ++
  (if plainPos.isEmpty then [] else [("Arguments", argLines plainPos)]) ++
  (if plainNamed.isEmpty then [] else [("Options", argLines plainNamed)]) ++
  headings.map fun h =>
    (h, argLines ((c.args.filter (·.heading == some h)).mergeSort Arg.keyBefore))

/-- The help of the command run as `bin`. -/
def helpText (c : Command) (bin : String) : String :=
  let body := "\n\n".intercalate (c.sections.map fun (h, lines) => h ++ ":\n" ++ "\n".intercalate lines)
  let text := (if c.about.isEmpty then "" else c.about ++ "\n") ++ "\nUsage: " ++ c.usage bin ++ "\n\n" ++
    body ++ (match c.afterHelp with | some t => "\n\n" ++ t | none => "")
  (text.trimAsciiEnd.toString) ++ "\n"

end Command
end Cli
end ListField
