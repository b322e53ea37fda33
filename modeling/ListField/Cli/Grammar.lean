/-!
# Command-line grammars

A command line is read against a tree of commands. Each command has a name, a
one-line description, optional text shown after its help, its arguments and its
subcommands.

An argument is either given by position or by name (`--long`, `-s`). A named
argument is a switch (`flag`), takes one value once (`single`), or takes one value
each time it is given (`append`). A positional argument takes one value, or one or
more when it `append`s. `help` and `version` print text and stop.

`Command.complete` turns a tree as written into the tree that is read: every
command gets a `--help` switch, the root its `--version` switch, the root's global
arguments reach every command below it, and a command with subcommands gets a
`help` subcommand that prints the help of the others.

Arguments are listed in help in a display order: the named arguments of a command
are numbered from 0 in the order they are written, and positional ones come after
(order 999).
-/

namespace ListField
namespace Cli

/-- What an argument does when it is given. -/
inductive Action where
  /-- A switch, on when given; it may be given once. -/
  | flag
  /-- One value; it may be given once. -/
  | single
  /-- One value each time it is given (one or more for a positional argument). -/
  | append
  /-- Prints the help of the command. -/
  | help
  /-- Prints the version of the program. -/
  | version
  deriving DecidableEq, Repr

/-- One argument of a command. -/
structure Arg where
  id : String
  /-- The name after `--`. -/
  long : Option String := none
  /-- The letter after `-`. -/
  short : Option Char := none
  /-- The placeholder of its value, as in `<NAME>`. -/
  valueName : String := ""
  help : String := ""
  action : Action := .flag
  positional : Bool := false
  required : Bool := false
  /-- The value used when the argument is not given. -/
  default : Option String := none
  /-- The section of the help it is listed in; the standard one when none. -/
  heading : Option String := none
  /-- The place of the argument in the help. -/
  order : Nat := 999
  /-- Whether the argument is also an argument of every command below. -/
  global : Bool := false
  /-- Checks one value: the reason it is rejected, if it is. -/
  check : String → Option String := fun _ => none

namespace Arg

/-- Whether the argument is given with a value. -/
def takesValue (a : Arg) : Bool :=
  a.positional || a.action == .single || a.action == .append

/-- Whether a positional argument takes one or more values. -/
def isMultiple (a : Arg) : Bool := a.positional && a.action == .append

/-- The placeholder of the value: `<NAME>` when required, `[NAME]` for an optional
positional argument, with `...` after one that takes several values. -/
def placeholder (a : Arg) (required : Bool) : String :=
  let name := if a.positional && !required then "[" ++ a.valueName ++ "]" else "<" ++ a.valueName ++ ">"
  name ++ (if a.isMultiple then "..." else "")

/-- The argument as it is named in usage, shown as required or not: `--name <VALUE>`,
`-s`, `<NAME>` or `[NAME]...`. -/
def displayAs (a : Arg) (required : Bool) : String :=
  if a.positional then a.placeholder required
  else
    let name := match a.long, a.short with
      | some l, _ => "--" ++ l
      | none, some s => "-" ++ s.toString
      | none, none => a.id
    name ++ (if a.takesValue then " " ++ a.placeholder required else "")

/-- The argument as it is named in messages. -/
def display (a : Arg) : String := a.displayAs a.required

/-- The built-in switch that prints help. -/
def helpSwitch : Arg :=
  { id := "help", long := some "help", short := some 'h', help := "Print help", action := .help }

/-- The built-in switch that prints the version. -/
def versionSwitch : Arg :=
  { id := "version", long := some "version", short := some 'V', help := "Print version",
    action := .version }

end Arg

/-- A command and the commands below it. -/
structure Command where
  name : String
  about : String := ""
  afterHelp : Option String := none
  /-- The version printed by `--version`, for the root. -/
  version : Option String := none
  args : List Arg := []
  subcommands : List Command := []
  /-- Whether the command has a `--help` switch. -/
  helpSwitch : Bool := true

namespace Command

/-- Numbers the named arguments in the order written, and puts every argument in
the section `heading`. -/
def numbered (heading : Option String) (args : List Arg) : List Arg :=
  let step := fun (acc : List Arg × Nat) (a : Arg) =>
    let (done, n) := acc
    let a := { a with heading := heading.orElse fun _ => a.heading }
    if a.positional then (done ++ [a], n) else (done ++ [{ a with order := n }], n + 1)
  (args.foldl step ([], 0)).1

/-- The subcommand that prints the help of the others. -/
def helpCommand : Command :=
  { name := "help", about := "Print this message or the help of the given subcommand(s)",
    args := [{ id := "subcommand", valueName := "COMMAND", positional := true, action := .append,
               help := "Print help for the subcommand(s)" }],
    helpSwitch := false }

mutual

/-- The command as it is read: with the global arguments `inherited` from above,
its built-in switches and, when it has subcommands, the `help` subcommand. -/
def complete (inherited : List Arg) : Command → Command
  | ⟨name, about, afterHelp, version, args, subs, helpSwitch⟩ =>
    let own := args ++ inherited.filter fun g => !args.any (·.id == g.id)
    let switches := (if helpSwitch then [Arg.helpSwitch] else []) ++
      (if version.isSome then [Arg.versionSwitch] else [])
    let globals := own.filter (·.global)
    { name, about, afterHelp, version, args := own ++ switches,
      subcommands := if subs.isEmpty then [] else completeAll globals subs ++ [helpCommand], helpSwitch }

/-- Each command of a list as it is read, with the global arguments `inherited`. -/
def completeAll (inherited : List Arg) : List Command → List Command
  | [] => []
  | c :: cs => complete inherited c :: completeAll inherited cs

end

/-- The positional arguments, in order. -/
def positionals (c : Command) : List Arg := c.args.filter (·.positional)

/-- The positional argument at place `i` (from 1). -/
def positionalAt? (c : Command) (i : Nat) : Option Arg := c.positionals[i - 1]?

/-- The argument named `--long`. -/
def byLong? (c : Command) (long : String) : Option Arg := c.args.find? (·.long == some long)

/-- The argument named `-s`. -/
def byShort? (c : Command) (s : Char) : Option Arg := c.args.find? (·.short == some s)

/-- The argument with identifier `id`. -/
def byId? (c : Command) (id : String) : Option Arg := c.args.find? (·.id == id)

/-- The subcommand named `name`. -/
def sub? (c : Command) (name : String) : Option Command := c.subcommands.find? (·.name == name)

/-- Whether the command has subcommands besides `help`. -/
def hasSubcommands (c : Command) : Bool := c.subcommands.any (·.name != "help")

/-- The arguments that must be given, in the order written. -/
def requiredArgs (c : Command) : List Arg := c.args.filter (·.required)

end Command
end Cli
end ListField
