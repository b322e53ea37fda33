import ListField.Config
import ListField.Tool.Grammar
import ListField.Tool.Output
/-!
# Running a command

A command of `pk` runs against a project directory and its surroundings: the
variables of its environment and the user's config file. It may change the
project (its store and its config file), and it writes to standard output and
standard error.

`Session` is the monad commands run in. It reads the `Context` (the output mode,
the configs and the `--actor` switch), keeps the project and what was printed,
and may stop with the message of the failure. Stopping keeps what was done before:
a store write that succeeded stays written, as it does on disk, and a failure
already reported on standard error stays reported.
-/

namespace ListField
namespace Tool

/-- The files of a project that `pk` reads and writes. -/
structure Project where
  /-- The store, once the project is initialized. -/
  store : Option Tables := none
  /-- The text of `.picklist/config.toml`, when the file exists. -/
  config : Option String := none

/-- What a command runs in besides the project: the path of the project directory,
the variables of the environment, and the files outside the project, by path. -/
structure Surroundings where
  root : String
  env : String → Option String
  files : String → Option String

/-- The project directory's store file. -/
def Surroundings.storePath (s : Surroundings) : String := s.root ++ "/.picklist/picklist.db"

/-- The project directory's config file. -/
def Surroundings.configPath (s : Surroundings) : String := s.root ++ "/.picklist/config.toml"

/-- Whether a path starts at the root of the file system. -/
def isAbsolute (path : String) : Bool := path.startsWith "/"

/-- `dir/name`, without a second slash when `dir` ends with one. -/
def joinPath (dir name : String) : String :=
  if dir.endsWith "/" then dir ++ name else dir ++ "/" ++ name

/-- `.config` in the home directory, when `HOME` is set and not empty. -/
def Surroundings.homeConfig (s : Surroundings) : Option String :=
  match s.env "HOME" with
  | some h => if h.isEmpty then none else some (joinPath h ".config")
  | none => none

/-- The user's config directory: `XDG_CONFIG_HOME` when it is an absolute path,
else `.config` in the home directory. -/
def Surroundings.configDir (s : Surroundings) : Option String :=
  match s.env "XDG_CONFIG_HOME" with
  | some x => if isAbsolute x then some x else s.homeConfig
  | none => s.homeConfig

/-- The user config file, when there is a config directory. -/
def Surroundings.userConfigPath (s : Surroundings) : Option String :=
  s.configDir.map (joinPath · "picklist/config.toml")

/-- A variable of the environment, unless it is blank. -/
def Surroundings.setting (s : Surroundings) (name : String) : Option String :=
  (s.env name).filter (!Text.isBlankText ·)

/-- What a command reads: the surroundings, the output mode, the configs and the
`--actor` switch. -/
structure Context where
  surroundings : Surroundings
  mode : Mode
  config : ProjectConfig
  user : UserConfig
  actorFlag : Option String

/-- The project and what was printed so far. -/
structure Workspace where
  project : Project
  out : String := ""
  err : String := ""

/-- A command: it reads the context, changes the workspace, and may stop with the
message of a failure. -/
abbrev Session := ReaderT Context (ExceptT String (StateM Workspace))

namespace Session

/-- Prints on standard output. -/
def say (text : String) : Session Unit :=
  modify fun w => { w with out := w.out ++ text }

/-- Prints on standard error. -/
def complain (text : String) : Session Unit :=
  modify fun w => { w with err := w.err ++ text }

/-- Stops with message `message`, reporting nothing. -/
def stop {α : Type} (message : String) : Session α := throw message

/-- Reports a failure in the output mode and stops. -/
def fail {α : Type} (p : Problem) : Session α := do
  complain (p.render (← read).mode)
  stop p.message

/-- Prints a result: the JSON document in JSON mode, the text otherwise. -/
def emit (json : Json) (text : String) : Session Unit := do
  match (← read).mode with
  | .json => say (json.pretty ++ "\n")
  | .text => say text

/-- The store as it stands, with the workflow setting of the project config. -/
def store : Session Store := do
  return { tables := ((← get).project.store).getD {},
           openWhenUngrouped := (← read).config.openWhenUngrouped }

/-- Checks that the project is initialized. -/
def openStore : Session Unit := do
  if (← get).project.store.isNone then
    fail (.coded ("no picklist project at " ++ (← read).surroundings.root) .notInitialized)

/-- Runs a store operation; its failure is reported with its code. -/
def inStore {α : Type} (m : StoreM α) : Session α := do
  match m.run (← store) with
  | .ok (a, s) =>
    modify fun w => { w with project := { w.project with store := some s.tables } }
    return a
  | .error e => fail (.ofStore e)

/-- The history settings of the project. -/
def style : Session HistoryStyle := return (← read).config.history

/-- The choices of a field, with the project's none label. -/
def choicesOf (f : Field) : Session Choices := do
  return (← store).choicesOf f (← style).noneLabel

/-- The login of the acting user: the `--actor` switch, `PICKLIST_ACTOR`, the user
config's `actor`, then `USER`, the first that is not blank, without the blanks
around it. -/
def actorLogin (c : Context) : Option String :=
  let given := fun (o : Option String) => (o.map Text.trim).filter (!·.isEmpty)
  (given c.actorFlag).orElse fun _ =>
  ((c.surroundings.setting "PICKLIST_ACTOR").map Text.trim).orElse fun _ =>
  (given c.user.actor).orElse fun _ =>
  (c.surroundings.setting "USER").map Text.trim

/-- The acting user, with their groups. -/
def requireActor : Session Actor := do
  match actorLogin (← read) with
  | some login => inStore (Store.actor login)
  | none =>
    fail (.coded ("Actor login required for this command. " ++
      "Set --actor, PICKLIST_ACTOR, or `actor` in the user config.") .userNotFound)

/-- The field named by `key`: an id, else a name. -/
def fieldOf (key : String) : Session Field := inStore (Store.fieldByKey key)

end Session
end Tool
end ListField
