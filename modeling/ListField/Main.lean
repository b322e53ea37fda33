import ListField.Store.Saved
import ListField.Tool.Program
/-!
# The `pk` program

Runs one command line in the working directory: reads the variables `pk` looks
at, the project's config and store files and the user's config file, runs the
command, saves what it changed, prints what it printed and exits with its status.
The store is saved as the JSON document of `Tables.save`.
-/

open ListField ListField.Tool

/-- The variables of the environment that `pk` reads. -/
def watchedVariables : List String := ["HOME", "XDG_CONFIG_HOME", "PICKLIST_ACTOR", "PICKLIST_FORMAT", "USER"]

/-- The text of a file, or nothing when it cannot be read. -/
def readIfThere (path : String) : IO (Option String) := do
  try
    return some (← IO.FS.readFile path)
  catch _ =>
    return none

/-- Runs `pk` with the words of its command line. -/
def main (args : List String) : IO UInt32 := do
  let root := (← IO.currentDir).toString
  let mut vars : List (String × String) := []
  for name in watchedVariables do
    if let some v ← IO.getEnv name then
      vars := vars ++ [(name, v)]
  let found := vars
  let env : String → Option String := fun name => (found.find? (·.1 == name)).map (·.2)
  let userPath := ({ root, env, files := fun _ => none } : Surroundings).userConfigPath
  let userText ← match userPath with
    | some path => readIfThere path
    | none => pure none
  let s : Surroundings := { root, env, files := fun path => if some path == userPath then userText else none }
  let config ← readIfThere s.configPath
  let store ← match ← readIfThere s.storePath with
    | none => pure none
    | some text =>
      match Tables.load text with
      | some t => pure (some t)
      | none =>
        IO.eprintln ("Error: open store " ++ s.storePath ++ ": not a store file")
        return 1
  let (t, after) := run s { store, config } args
  if after.config != config || after.store != store then
    IO.FS.createDirAll (root ++ "/.picklist")
  if after.config != config then
    if let some text := after.config then IO.FS.writeFile s.configPath text
  if after.store != store then
    if let some tables := after.store then IO.FS.writeFile s.storePath tables.save
  IO.print t.out
  IO.eprint t.err
  return t.status.toUInt32
