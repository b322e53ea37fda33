import ListField.Access
import ListField.Choice.Decorator
import ListField.Cli.Parse
import ListField.Field
/-!
# The command line of `pk`

`pk` sets up list fields (`init`, `field`, `user`, `group`, `perm`, `workflow`) and
records values on artifacts (`artifact`, `set`, `show`, `history`). Every command
takes the switches `--verbose`, `--json` and `--actor <ACTOR>`.

`grammar` is the tree of commands as listed in help; `Task` is what a command line
asks for once read, with its values decoded (`Task.ofInvocation`). Values that must
name a source, an access kind, a colour or an artifact are checked while the line
is read, so a line that reads always decodes.
-/

namespace ListField
namespace Tool

open Cli

/-- The reason a value is rejected, if it is. -/
def rejects {ε α : Type} (reason : ε → String) (r : Except ε α) : Option String :=
  match r with
  | .ok _ => none
  | .error e => some (reason e)

/-- A switch. -/
def switch (id long help : String) : Arg :=
  { id, long := some long, help }

/-- A named argument that takes one value. -/
def option (id long valueName help : String) : Arg :=
  { id, long := some long, valueName, help, action := .single }

/-- A positional argument. -/
def place (id valueName help : String) : Arg :=
  { id, valueName, help, positional := true, action := .single, required := true }

/-- The positional argument of a field, by name or id. -/
def fieldPlace : Arg := place "field" "FIELD" "Field name or id"

/-- The positional argument of an artifact id. -/
def artifactPlace : Arg :=
  { place "artifact" "ARTIFACT" "Artifact id" with check := rejects IntError.message ∘ readId }

/-- The switch that skips permission checks. -/
def bypassSwitch (help : String) : Arg := switch "bypass_permissions" "bypass-permissions" help

/-- A command with its arguments numbered for help, in section `heading`. -/
def command (name about : String) (heading : Option String) (args : List Arg) : Command :=
  { name, about, args := Command.numbered heading args }

/-- The commands of `pk field`. -/
def fieldCommands : List Command :=
  [command "create" "Create a list field" none
    [place "name" "NAME" "Machine name (`status`)",
     option "label" "label" "LABEL" "Display label; defaults to the name",
     { option "kind" "kind" "KIND" "Value source: static, users or ugroups" with
       default := some "static", check := rejects SourceError.message ∘ Source.parse },
     switch "required" "required" "",
     switch "multiple" "multiple" "Allow several values at once",
     switch "read_only" "read-only" ""],
   command "add-value" "Add an allowed value to a field" none
    [fieldPlace,
     place "label" "LABEL" "Label; for user- and group-bound fields, the login or group name",
     option "description" "description" "DESCRIPTION" "",
     switch "hidden" "hidden" "Hide the value from selection lists",
     switch "is_default" "default" "Pre-select the value on new artifacts",
     { option "decorator" "decorator" "DECORATOR" "Colour shown next to the value (`#rrggbb`)" with
       check := rejects DecoratorError.message ∘ Decorator.parse }],
   command "values" "List a field's selectable values" none
    [fieldPlace, switch "all" "all" "Include hidden values and omit the \"None\" entry"],
   command "show" "Show one field, or every field" none
    [{ place "field" "FIELD" "Field name or id; all fields when omitted" with required := false }]]

/-- The commands of `pk workflow`. -/
def workflowCommands : List Command :=
  [command "enable" "Enforce the field's transitions" none [fieldPlace],
   command "disable" "Keep the transitions but stop enforcing them" none [fieldPlace],
   command "add-transition" "Add an allowed transition" none
    [fieldPlace,
     option "from" "from" "FROM" "Source value; omit (or pass `none`) for the initial transition",
     { option "to" "to" "TO" "Target value" with required := true },
     { option "groups" "group" "GROUPS" "Groups allowed to make the transition (repeatable)" with
       action := .append }],
   command "show" "List the field's transitions" none [fieldPlace]]

/-- A command that only groups subcommands. -/
def family (name about : String) (afterHelp : Option String) (subcommands : List Command) : Command :=
  { name, about, afterHelp, subcommands }

/-- The commands of `pk`, as listed in help. -/
def grammar : Command :=
  { name := "picklist-cli", version := some "0.4.0",
    about := "pk: list fields, workflows and changeset history for work items",
    args := Command.numbered none
      [{ switch "verbose" "verbose" "Enable debug logging for picklist crates" with
         short := some 'v', global := true },
       { switch "json" "json" "Emit JSON output instead of human-readable text" with global := true },
       { option "actor" "actor" "ACTOR" "Act as this login (overrides PICKLIST_ACTOR and the user config)" with
         global := true }],
    subcommands :=
      [{ command "init" "Initialize a picklist project" (some "Setup")
          [switch "force" "force" "Rewrite `.picklist/config.toml` with defaults even if the project exists"] with
         afterHelp := some "EXAMPLES:\n    pk init\n    pk init --force --json" },
       family "field" "Manage list fields and their values"
         (some "EXAMPLES:\n    pk field create status --label Status\n    pk field add-value status Open --default\n    pk field values status")
         fieldCommands,
       family "user" "Manage users" none
         [command "create" "Create a user; they join the project members group" none
           [place "login" "LOGIN" "Login name",
            option "name" "name" "NAME" "Display name, shown as `Real Name (login)` in user-bound fields"]],
       family "group" "Manage user groups" none
         [command "create" "Create a user group" none [place "name" "NAME" ""],
          command "add-member" "Add a user to a group" none
           [place "group" "GROUP" "Group name", place "login" "LOGIN" "User login"]],
       family "perm" "Grant field permissions"
         (some "EXAMPLES:\n    pk perm grant status developers read submit update")
         [command "grant" "Grant read, submit or update access on a field to a group" none
           [fieldPlace, place "group" "GROUP" "Group name",
            { place "access" "ACCESS" "Access kinds: read, submit, update" with
              action := .append, check := rejects AccessError.message ∘ Access.parse }]],
       family "workflow" "Configure field workflows"
         (some "EXAMPLES:\n    pk workflow add-transition status --to Open\n    pk workflow add-transition status --from Open --to Closed --group leads\n    pk workflow enable status")
         workflowCommands,
       family "artifact" "Create artifacts"
         (some "EXAMPLES:\n    pk artifact create \"Login page crashes\" --set status=Open")
         [command "create" "Create an artifact and record its first changeset" none
           [place "title" "TITLE" "",
            { option "assignments" "set" "FIELD=VALUES"
                "Initial values `field=value[,value...]` (repeatable). Untouched fields get their default values" with
              action := .append },
            bypassSwitch "Skip permission checks on the initial values"]],
       { command "set" "Record new field values on an artifact" (some "Artifacts")
          [artifactPlace,
           { place "assignments" "FIELD=VALUES"
               "Assignments `field=value[,value...]`; `field=` clears the field. A value is an exact label, `none`, a value id, or a label in any case, tried in that order" with
             action := .append },
           bypassSwitch "Skip permission checks (imports and administrative fixes)"] with
         afterHelp := some "EXAMPLES:\n    pk set 1 status=Closed\n    pk set 1 platforms=Linux,macOS severity=" },
       command "show" "Show an artifact's current values" (some "Artifacts") [artifactPlace],
       { command "history" "Show the change history of one field" (some "Artifacts")
          [artifactPlace, fieldPlace] with
         afterHelp := some "EXAMPLES:\n    pk history 1 status" }] }

/-- What a command line asks `pk` to do. -/
inductive Task where
  | init (force : Bool)
  | createField (name : String) (label : Option String) (source : Source) (required multiple readOnly : Bool)
  | addValue (field label : String) (description : Option String) (hidden isDefault : Bool)
      (decorator : Option Decorator)
  | listValues (field : String) (all : Bool)
  | showFields (field : Option String)
  | createUser (login : String) (name : Option String)
  | createGroup (name : String)
  | addMember (group login : String)
  | grant (field group : String) (accesses : List Access)
  | setWorkflow (field : String) (enabled : Bool)
  | addTransition (field : String) (source : Option String) (target : String) (groups : List String)
  | showWorkflow (field : String)
  | createArtifact (title : String) (assignments : List String) (bypass : Bool)
  | setValues (artifact : Int) (assignments : List String) (bypass : Bool)
  | showArtifact (artifact : Int)
  | history (artifact : Int) (field : String)
  deriving Repr

/-- A command line as read: the switches every command takes, and the task. -/
structure Order where
  verbose : Bool
  json : Bool
  actor : Option String
  task : Task
  deriving Repr

namespace Task

/-- The task of a command line read against `grammar`. -/
def ofInvocation (inv : Invocation) : Option Task :=
  let text := fun id => (inv.value? id).getD ""
  let artifact := ((readId (text "artifact")).toOption).getD 0
  match inv.path with
  | ["init"] => some (.init (inv.flag "force"))
  | ["field", "create"] =>
    some (.createField (text "name") (inv.value? "label")
      (((Source.parse (text "kind")).toOption).getD .static)
      (inv.flag "required") (inv.flag "multiple") (inv.flag "read_only"))
  | ["field", "add-value"] =>
    some (.addValue (text "field") (text "label") (inv.value? "description") (inv.flag "hidden")
      (inv.flag "is_default") ((inv.value? "decorator").bind fun d => (Decorator.parse d).toOption))
  | ["field", "values"] => some (.listValues (text "field") (inv.flag "all"))
  | ["field", "show"] => some (.showFields (inv.value? "field"))
  | ["user", "create"] => some (.createUser (text "login") (inv.value? "name"))
  | ["group", "create"] => some (.createGroup (text "name"))
  | ["group", "add-member"] => some (.addMember (text "group") (text "login"))
  | ["perm", "grant"] =>
    some (.grant (text "field") (text "group")
      ((inv.values "access").filterMap fun a => (Access.parse a).toOption))
  | ["workflow", "enable"] => some (.setWorkflow (text "field") true)
  | ["workflow", "disable"] => some (.setWorkflow (text "field") false)
  | ["workflow", "add-transition"] =>
    some (.addTransition (text "field") (inv.value? "from") (text "to") (inv.values "groups"))
  | ["workflow", "show"] => some (.showWorkflow (text "field"))
  | ["artifact", "create"] =>
    some (.createArtifact (text "title") (inv.values "assignments") (inv.flag "bypass_permissions"))
  | ["set"] => some (.setValues artifact (inv.values "assignments") (inv.flag "bypass_permissions"))
  | ["show"] => some (.showArtifact artifact)
  | ["history"] => some (.history artifact (text "field"))
  | _ => none

end Task

/-- How reading a command line ends: an order, or text to print and the exit status. -/
inductive Parsed where
  | order (o : Order)
  | halt (text : String) (toErr : Bool) (status : Nat)
  deriving Repr

/-- Reads the arguments of `pk`. Help and the version go to standard output with
status 0; a mistake, or help shown for want of a subcommand, goes to standard error
with status 2. -/
def readLine (words : List String) : Parsed :=
  match Cli.read grammar "pk" words with
  | .error (.shown t) => .halt t false 0
  | .error (.failed t) => .halt t true 2
  | .ok inv =>
    match Task.ofInvocation inv with
    | some task => .order { verbose := inv.flag "verbose", json := inv.flag "json",
                            actor := inv.value? "actor", task }
    | none => .halt "" true 2

end Tool
end ListField
