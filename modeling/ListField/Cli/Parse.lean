import ListField.Cli.Error
import ListField.Cli.Help
import ListField.Text.Similar
/-!
# Reading a command line

The words of a command line are read from left to right against a command:

* a word naming a subcommand hands the rest of the line to it (`help` prints the
  help of the subcommands named after it);
* `--` makes every later word a positional value;
* `--name` and `--name=value` are named arguments, `-abc` a group of switches;
* a word after a named argument that takes a value is its value;
* any other word is the value of the next positional argument (the last one may
  take several).

Values are checked when their argument is complete: when the next argument starts
or the line ends. A named argument that is not the command's is reported with the
most similar name there is.

Once the words are read, arguments not given take their defaults, and the command
is checked: it needs its subcommand, and its required arguments. A command with
subcommands given nothing at all prints its help instead.

Reading ends with an `Invocation` (the path of subcommands and the arguments given
at each level), or with text to print: help or the version (`Halt.shown`), or why
the line is wrong (`Halt.failed`).
-/

namespace ListField
namespace Cli

/-- One argument as given, or filled in from its default. -/
structure Given where
  id : String
  values : List String
  explicit : Bool := true
  deriving DecidableEq, Repr

/-- How reading ends early: text to print as asked for, or why the line is wrong. -/
inductive Halt where
  | shown (text : String)
  | failed (text : String)
  deriving DecidableEq, Repr

/-- What the next word is read as. -/
inductive Expecting where
  | anything
  /-- The value of a named argument. -/
  | valueOf (id : String)
  /-- Another value of a positional argument that takes several. -/
  | moreOf (id : String)
  deriving DecidableEq, Repr

/-- The values of an argument not yet checked. -/
structure Pending where
  arg : Arg
  values : List String

/-- Where reading a command's words stands. -/
structure Reading where
  given : List Given := []
  pending : Option Pending := none
  expecting : Expecting := .anything
  /-- The place of the next positional argument, from 1. -/
  position : Nat := 1
  afterDashes : Bool := false

/-- The arguments of a command line: the subcommands named, from the root, and the
arguments given at each level, the root's first. -/
structure Invocation where
  path : List String
  levels : List (List Given)
  deriving DecidableEq, Repr

namespace Invocation

/-- The arguments given at every level, the root's first. -/
def all (inv : Invocation) : List Given := inv.levels.flatten

/-- Whether a switch was given at some level. -/
def flag (inv : Invocation) (id : String) : Bool := inv.all.any fun g => g.id == id && g.explicit

/-- The values of an argument: as given at the deepest level that gives it, else its
default. -/
def values (inv : Invocation) (id : String) : List String :=
  let mine := inv.all.filter (·.id == id)
  match (mine.filter (·.explicit)).getLast? with
  | some g => g.values
  | none => (mine.getLast?.map (·.values)).getD []

/-- The value of an argument that takes one. -/
def value? (inv : Invocation) (id : String) : Option String := (inv.values id).head?

end Invocation

namespace Reading

/-- The arguments given on the line so far, in the order they were taken. -/
def explicitIds (st : Reading) : List String := (st.given.filter (·.explicit)).map (·.id)

/-- Whether the argument was given on the line. -/
def has (st : Reading) (id : String) : Bool := st.given.any fun g => g.id == id && g.explicit

end Reading

/-- How to ask for the help of a command, if it can be asked for. -/
def Command.helpHint (c : Command) : Option String :=
  if c.helpSwitch then some "--help" else if c.subcommands.isEmpty then none else some "help"

/-- The failure for a mistake in the words of command `c`. -/
def Command.fail {α : Type} (c : Command) (e : ArgError) : Except Halt α :=
  .error (.failed (e.render c.helpHint))

/-- The first value that `a` rejects, with the reason. -/
def Arg.firstRejected (a : Arg) (values : List String) : Option (String × String) :=
  values.findSome? fun v => (a.check v).map fun r => (v, r)

/-- Takes argument `a` with `values`: checks that a value was given and that each is
accepted, that an argument given once is not given again, and prints help or the
version when asked. -/
def take (c : Command) (bin : String) (st : Reading) (a : Arg) (values : List String) :
    Except Halt Reading :=
  match a.action with
  | .help => .error (.shown (c.helpText bin))
  | .version => .error (.shown (c.name ++ " " ++ c.version.getD "" ++ "\n"))
  | .flag =>
    if st.has a.id then c.fail (.repeated a.display (c.usage bin))
    else .ok { st with given := st.given ++ [{ id := a.id, values := ["true"] }] }
  | .single =>
    if values.isEmpty then c.fail (.missingValue a.display)
    else if st.has a.id then c.fail (.repeated a.display (c.usage bin))
    else match a.firstRejected values with
      | some (v, r) => c.fail (.badValue v a.display r)
      | none => .ok { st with given := st.given ++ [{ id := a.id, values }] }
  | .append =>
    if values.isEmpty then c.fail (.missingValue a.display)
    else match a.firstRejected values with
      | some (v, r) => c.fail (.badValue v a.display r)
      | none =>
        if st.has a.id then
          .ok { st with given := st.given.map fun g => if g.id == a.id then { g with values := g.values ++ values } else g }
        else .ok { st with given := st.given ++ [{ id := a.id, values }] }

/-- Completes the argument whose values were being collected. -/
def settle (c : Command) (bin : String) (st : Reading) : Except Halt Reading :=
  match st.pending with
  | none => .ok st
  | some p => take c bin { st with pending := none } p.arg p.values

/-- Completes the argument being collected, then takes `a` with `values`. -/
def react (c : Command) (bin : String) (st : Reading) (a : Arg) (values : List String) :
    Except Halt Reading := do
  let st ← settle c bin st
  take c bin { st with expecting := .anything } a values

/-- Completes the argument being collected, on the way to reporting another
mistake. When the argument itself is wrong, it counts as given if it was given
with values (a repeated one is dropped), and stays as it was if it had none. -/
def settleQuietly (c : Command) (bin : String) (st : Reading) : Reading :=
  match st.pending with
  | none => st
  | some p =>
    let rest := { st with pending := none }
    match take c bin rest p.arg p.values with
    | .ok st' => st'
    | .error _ =>
      if p.values.isEmpty then rest
      else if rest.has p.arg.id then
        if p.arg.action == .single then { rest with given := rest.given.filter (·.id != p.arg.id) } else rest
      else { rest with given := rest.given ++ [{ id := p.arg.id, values := [] }] }

/-- Prints the help of the subcommands named by `words`, from command `c`. -/
def helpFor (c : Command) (bin : String) : List String → Halt
  | [] => .shown (c.helpText bin)
  | w :: rest =>
    match c.sub? w with
    | some s => helpFor s (bin ++ " " ++ s.name) rest
    | none => .failed ((ArgError.unknownSubcommand w [] [] (c.usage bin)).render c.helpHint)

/-- The similar long name for a mistyped `--name`: one of the command's, or one of a
subcommand named later on the line (the first named). -/
def similarLong (c : Command) (name : String) (rest : List String) : Option (String × Option String) :=
  match (Similar.similarTo name (c.args.filterMap (·.long))).getLast? with
  | some l => some (l, none)
  | none =>
    let scored := c.subcommands.filterMap fun s =>
      match (Similar.similarTo name (s.args.filterMap (·.long))).getLast?, rest.idxOf? s.name with
      | some l, some i => some (i, (l, some s.name))
      | _, _ => none
    (scored.foldl (fun best x => match best with
      | some b => if x.1 < b.1 then some x else some b
      | none => some x) none).map (·.2)

/-- The mistake of an unknown `--name`. -/
def unknownLong (c : Command) (bin : String) (st : Reading) (name : String) (rest : List String) :
    Except Halt Reading :=
  let st := settleQuietly c bin st
  let similar := similarLong c name rest
  let st := match similar with
    | some (l, none) =>
      match c.byLong? l with
      | some a => if st.has a.id then st else { st with given := st.given ++ [({ id := a.id, values := [] } : Given)] }
      | none => st
    | _ => st
  let word := "--" ++ name
  let trailingTip := similar.isNone && !st.afterDashes && !c.positionals.isEmpty
  let tips := (if trailingTip then ["to pass '" ++ word ++ "' as a value, use '-- " ++ word ++ "'"] else []) ++
    (match similar with
     | some (l, some s) => ["'" ++ s ++ " --" ++ l ++ "' exists"]
     | _ => [])
  let similarArg := match similar with
    | some (l, none) => some ("--" ++ l)
    | _ => none
  c.fail (.unknown word similarArg tips (c.usageFor bin st.explicitIds))

/-- Whether a word looks like a named argument. -/
def looksNamed (w : String) : Bool := w.startsWith "-" && w != "-" && w != "--"

/-- The mistake of a word that fits nowhere. -/
def misplaced (c : Command) (bin : String) (st : Reading) (w : String) : Except Halt Reading :=
  if st.afterDashes && (c.sub? w).isSome then
    c.fail (.unknown w none ["subcommand '" ++ w ++ "' exists; to use it, remove the '--' before it"]
      (c.usage bin))
  else
    let trailingTip := !st.afterDashes && !c.positionals.isEmpty && looksNamed w
    if !c.subcommands.isEmpty then
      let candidates := Similar.similarTo w (c.subcommands.map (·.name))
      if !candidates.isEmpty then c.fail (.unknownSubcommand w candidates [] (c.usage bin))
      else if c.positionals.isEmpty then c.fail (.unknownSubcommand w [] [] (c.usage bin))
      else c.fail (.unknown w none (if trailingTip then ["to pass '" ++ w ++ "' as a value, use '-- " ++ w ++ "'"] else [])
        (c.usage bin))
    else
      c.fail (.unknown w none (if trailingTip then ["to pass '" ++ w ++ "' as a value, use '-- " ++ w ++ "'"] else [])
        (c.usage bin))

/-- Reads the switches of a group `-abc`. -/
def readShorts (c : Command) (bin : String) : Reading → List Char → Except Halt Reading
  | st, [] => .ok st
  | st, ch :: more =>
    match c.byShort? ch with
    | some a =>
      if a.takesValue then
        let attached := String.ofList more
        let v := if attached.startsWith "=" then (attached.drop 1).toString else attached
        if attached.isEmpty then do
          let st ← settle c bin st
          .ok { st with pending := some ⟨a, []⟩, expecting := .valueOf a.id }
        else react c bin st a [v]
      else do
        let st ← react c bin st a []
        readShorts c bin st more
    | none =>
      let st := settleQuietly c bin st
      let word := "-" ++ ch.toString
      let tips := if !st.afterDashes && !c.positionals.isEmpty then
        ["to pass '" ++ word ++ "' as a value, use '-- " ++ word ++ "'"] else []
      c.fail (.unknown word none tips (c.usage bin))

/-- Reads a named argument `--name` or `--name=value`. -/
def readLong (c : Command) (bin : String) (st : Reading) (w : String) (rest : List String) :
    Except Halt Reading :=
  let body := (w.drop 2).toString
  let (name, attached) := match body.splitOn "=" with
    | [n] => (n, none)
    | n :: vs => (n, some ("=".intercalate vs))
    | [] => (body, none)
  match c.byLong? name with
  | some a =>
    if a.takesValue then
      match attached with
      | some v => react c bin st a [v]
      | none => do
        let st ← settle c bin st
        .ok { st with pending := some ⟨a, []⟩, expecting := .valueOf a.id }
    else
      match attached with
      | some v =>
        let used := (st.given.filter fun g => g.explicit && !(c.byId? g.id).any (·.required)).map (·.id) ++ [a.id]
        c.fail (.extraValue v a.display (c.usageFor bin used))
      | none => react c bin st a []
  | none => unknownLong c bin st name rest

/-- Reads a positional value. -/
def readPositional (c : Command) (bin : String) (st : Reading) (w : String) : Except Halt Reading :=
  match c.positionalAt? st.position with
  | some p => do
    let collecting := match st.pending with
      | some q => q.arg.id == p.id && p.isMultiple
      | none => false
    let st ← if collecting then pure st else settle c bin st
    let values := match st.pending with
      | some q => if q.arg.id == p.id then q.values ++ [w] else [w]
      | none => [w]
    let st := { st with pending := some ⟨p, values⟩ }
    if p.isMultiple then .ok { st with expecting := .moreOf p.id }
    else .ok { st with expecting := .anything, position := st.position + 1 }
  | none => misplaced c bin (settleQuietly c bin st) w

/-- Reads the words of command `c`, up to a subcommand (returned with the words
after it). -/
def readWords (c : Command) (bin : String) : Nat → List String → Reading →
    Except Halt (Reading × Option (Command × List String))
  | 0, _, st => .ok (st, none)
  | _, [], st => .ok (st, none)
  | fuel + 1, w :: rest, st =>
    let inMore := match st.expecting with | .moreOf _ => true | _ => false
    match (if !st.afterDashes && !inMore then c.sub? w else none) with
    | some s =>
      if s.name == "help" && !s.helpSwitch then .error (helpFor c bin rest)
      else .ok (st, some (s, rest))
    | none =>
      if st.afterDashes then do
        let st ← readPositional c bin st w
        readWords c bin fuel rest st
      else if w == "--" then readWords c bin fuel rest { st with afterDashes := true }
      else if w.startsWith "--" then do
        let st ← readLong c bin st w rest
        readWords c bin fuel rest st
      else if w.startsWith "-" && w.length > 1 then do
        let st ← readShorts c bin st (w.drop 1).toString.toList
        readWords c bin fuel rest st
      else
        match st.expecting, st.pending with
        | .valueOf id, some p =>
          if p.arg.id == id then
            readWords c bin fuel rest { st with pending := some { p with values := p.values ++ [w] },
                                                expecting := .anything }
          else do
            let st ← readPositional c bin st w
            readWords c bin fuel rest st
        | _, _ => do
          let st ← readPositional c bin st w
          readWords c bin fuel rest st

/-- Fills in the defaults of the arguments not given. -/
def withDefaults (c : Command) (st : Reading) : Reading :=
  c.args.foldl (fun st a =>
    match a.default with
    | some d => if st.given.any (·.id == a.id) then st
      else { st with given := st.given ++ [{ id := a.id, values := [d], explicit := false }] }
    | none => st) st

/-- Checks that the required arguments were given. -/
def checkRequired (c : Command) (bin : String) (st : Reading) : Except Halt Unit :=
  let missing := c.requiredArgs.filter fun a => !st.has a.id
  let highest := missing.foldl (fun m a =>
    if a.positional then max m (((c.positionals.findIdx? (·.id == a.id)).map (· + 1)).getD 0) else m) 0
  let earlier := (c.positionals.zipIdx.filter fun (p, i) => i + 1 < highest && !st.has p.id).map (·.1)
  let missing := missing ++ earlier
  if missing.isEmpty then .ok ()
  else
    let picked := c.requiredArgs ++ missing
    let named := (picked.filter fun a => !a.positional && !st.has a.id).foldl
      (fun acc a => insertNew acc (a.displayAs true)) []
    let pos := (c.positionals.filter fun p => picked.any (·.id == p.id) && !st.has p.id).map
      (·.displayAs true)
    c.fail (.missingRequired (named ++ pos) (c.usageFor bin (st.explicitIds ++ missing.map (·.id))))

/-- Reads the words of command `c` run as `bin`, and of the subcommands they name. -/
def readCommand : Nat → Command → String → List String → Except Halt (List String × List (List Given))
  | 0, _, _, _ => .ok ([], [])
  | depth + 1, c, bin, words => do
    let (st, next) ← readWords c bin (words.length + 1) words {}
    let below ← match next with
      | some (s, rest) => do
        let (path, levels) ← readCommand depth s (bin ++ " " ++ s.name) rest
        pure (some (s.name :: path, levels))
      | none => pure none
    let st ← settle c bin st
    let st := withDefaults c st
    match below with
    | some (path, levels) => do
      checkRequired c bin st
      return (path, st.given :: levels)
    | none =>
      if !c.subcommands.isEmpty then
        if st.explicitIds.isEmpty then .error (.failed (c.helpText bin))
        else c.fail (.missingSubcommand bin (c.subcommands.map (·.name)) (c.usage bin))
      else do
        checkRequired c bin st
        return ([], [st.given])

/-- Reads a command line against the grammar `root` (as written; it is completed
here), run as `bin`. -/
def read (root : Command) (bin : String) (words : List String) : Except Halt Invocation := do
  let (path, levels) ← readCommand (words.length + 1) (root.complete []) bin words
  return { path, levels }

end Cli
end ListField
