import ListField.Tool.Commands
/-!
# One run of `pk`

A run reads the command line, then the configs, then runs the task:

1. A command line that asks for help or the version prints it (status 0); one that
   does not read prints why, or the help when a subcommand is missing (status 2).
2. The project config (`.picklist/config.toml`, defaults when absent) and the user
   config (`picklist/config.toml` in the user's config directory) are read. A config
   that does not parse stops the run with status 1, reported in JSON only when
   `--json` was given, since the output mode is not known yet.
3. The output mode is `--json`, else `PICKLIST_FORMAT`, else the user config's
   `output` (`text` or `human`, or `json`, in any case between blanks; anything else
   is passed over), else text.
4. The task runs. A failure ends the run with status 1 and a last line
   `Error: <message>` on standard error.
-/

namespace ListField
namespace Tool

/-- What a run printed, and its exit status. -/
structure Transcript where
  status : Nat
  out : String := ""
  err : String := ""
  deriving DecidableEq, Repr

/-- A text with every line indented by four spaces, including an empty last one. -/
def indentLines (s : String) : String := "    " ++ s.replace "\n" "\n    "

/-- The report of a config file at `path` that does not parse. -/
def configFailure (json : Bool) (path text : String) (e : Toml.ReadError) : Transcript :=
  let cause := Toml.ReadError.render text e
  let mode := if json then Mode.json else .text
  { status := 1,
    err := (Problem.coded ("Failed to parse " ++ path ++ ": " ++ cause) .configParse).render mode ++
      "Error: Failed to parse " ++ path ++ "\n\nCaused by:\n" ++ indentLines cause ++ "\n" }

/-- The output mode a name stands for. -/
def modeNamed (raw : String) : Option Mode :=
  match Text.asciiLower (Text.trim raw) with
  | "text" | "human" => some .text
  | "json" => some .json
  | _ => none

/-- The output mode: `--json`, else the environment's choice, else the user's. -/
def resolveMode (json : Bool) (env user : Option String) : Mode :=
  if json then .json else ((env.bind modeNamed).orElse fun _ => user.bind modeNamed).getD .text

/-- A config that did not parse: its path, its text and the error. -/
structure ConfigFault where
  path : String
  text : String
  error : Toml.ReadError

/-- Reads the project config, then the user config; a missing file gives defaults. -/
def loadConfigs (s : Surroundings) (p : Project) : Except ConfigFault (ProjectConfig × UserConfig) := do
  let project ← match p.config with
    | none => pure {}
    | some text =>
      match ProjectConfig.read text with
      | .ok c => pure c
      | .error e => throw ⟨s.configPath, text, e⟩
  let user ← match s.userConfigPath with
    | none => pure {}
    | some path =>
      match s.files path with
      | none => pure {}
      | some text =>
        match UserConfig.read text with
        | .ok c => pure c
        | .error e => throw ⟨path, text, e⟩
  return (project, user)

/-- Runs `pk` with the words of a command line on a project; the transcript and the
project afterwards. -/
def run (s : Surroundings) (p : Project) (words : List String) : Transcript × Project :=
  match readLine words with
  | .halt text toErr status => (if toErr then { status, err := text } else { status, out := text }, p)
  | .order o =>
    match loadConfigs s p with
    | .error f => (configFailure o.json f.path f.text f.error, p)
    | .ok (config, user) =>
      let ctx : Context :=
        { surroundings := s, mode := resolveMode o.json (s.env "PICKLIST_FORMAT") user.output,
          config, user, actorFlag := o.actor }
      let (r, w) := (((perform o.task).run ctx).run.run { project := p }).run
      match r with
      | .ok () => ({ status := 0, out := w.out, err := w.err }, w.project)
      | .error message => ({ status := 1, out := w.out, err := w.err ++ "Error: " ++ message ++ "\n" }, w.project)

end Tool
end ListField
