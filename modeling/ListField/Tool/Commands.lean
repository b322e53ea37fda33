import ListField.Tool.Session
/-!
# The commands of `pk`

Each command checks that the project is initialized, looks up what it names (a
field by name or id, a group or a user by name), makes its change through the
store, and prints the result. A lookup or a write that fails is reported with the
code of its kind and stops the command; what was written before stays written.

Values are named on the command line by tokens, resolved against the field's
choices in this order (`resolveToken`): an exact label, `none` in any case or the
none label (for "no value"), a choice id, then a label in any case.

`artifact create` and `set` record a changeset and print its report; a field that
was rejected or did not save then fails the command, after the report.
-/

namespace ListField
namespace Tool

open Session

/-- The choice named by `token`: an exact label, "no value" (`none` in any case, or
the none label), a choice id, or a label in any ASCII case, the first that matches. -/
def resolveToken (cs : Choices) (token : String) : Option ValueId :=
  let t := Text.trim token
  let anyCase := (cs.values.find? fun c => Text.eqIgnoreAsciiCase c.label t).map (·.id)
  match cs.byLabel t with
  | some c => some c.id
  | none =>
    if Text.eqIgnoreAsciiCase t "none" || t == cs.noneLabel then some noneId
    else match readId t with
      | .ok id => if cs.contains id then some id else anyCase
      | .error _ => anyCase

/-- The failure of a token that names no choice of field `f`. -/
def notAValue (f : Field) (token : String) : Problem :=
  .coded ("'" ++ token ++ "' is not a value of the field " ++ f.label) .choiceNotFound

/-- The tokens of a comma-separated list, without the blanks around each, the empty ones
skipped. -/
def tokensOf (tokens : String) : List String :=
  ((tokens.toList.splitOn ',').map fun t => Text.trim (String.ofList t)).filter (!·.isEmpty)

/-- The choices named by a comma-separated list of tokens; empty tokens are
skipped, so an empty list clears the field. -/
def resolveTokens (cs : Choices) (f : Field) (tokens : String) : Session (List ValueId) :=
  (tokensOf tokens).mapM fun t =>
    match resolveToken cs t with
    | some id => pure id
    | none => fail (notAValue f t)

/-- Splits `field=values` at the first `=`; the field must not be blank. -/
def splitAssignment (raw : String) : Option (String × String) :=
  match raw.splitOn "=" with
  | key :: first :: rest =>
    let k := Text.trim key
    if k.isEmpty then none else some (k, "=".intercalate (first :: rest))
  | _ => none

/-- The submitted ids of each assignment `field=values`. -/
def parseAssignments (raws : List String) : Session (List (FieldId × List ValueId)) :=
  raws.mapM fun raw =>
    match splitAssignment raw with
    | none => fail { message := "expected FIELD=VALUES, got '" ++ raw ++ "'" }
    | some (key, tokens) => do
      let f ← fieldOf key
      let ids ← resolveTokens (← choicesOf f) f tokens
      pure (f.id, ids)

/-- Records a changeset on `artifact` as the acting user. -/
def submitValues (artifact : ArtifactId) (entries : List (FieldId × List ValueId)) (bypass : Bool) :
    Session UpdateReport := do
  let a ← requireActor
  match Store.submit (← style) a artifact entries bypass (← store) with
  | .ok (r, s) =>
    modify fun w => { w with project := { w.project with store := some s.tables } }
    return r
  | .error (.store e) => fail (.ofStore e)
  | .error e => fail (.coded e.message .fieldNotFound)

/-- Fails when a field of the report was rejected or did not save. -/
def checkReport (r : UpdateReport) : Session Unit :=
  match firstProblem r with
  | some p => fail p
  | none => pure ()

/-- An object's members followed by `more`. -/
def extend (j : Json) (more : List (String × Json)) : Json :=
  match j with
  | .obj members => .obj (members ++ more)
  | other => other

/-- A choice as listed: the choice and how it is shown. -/
def choiceRow (cs : Choices) (c : Choice) : Json :=
  extend c.toJson [("display", .str (cs.display c))]

/-- `pk init`: creates the store and the default config, or with `--force` writes
the default config again. An existing store keeps its data. -/
def initProject (force : Bool) : Session Unit := do
  let c ← read
  let p := (← get).project
  if p.store.isSome && !force then
    stop ".picklist/ already exists. Use `pk init --force` to reinitialize."
  if force || p.config.isNone then
    modify fun w => { w with project := { w.project with config := some (ProjectConfig.render {}) } }
  modify fun w => { w with project := { w.project with store := some (w.project.store.getD {}) } }
  let _ ← inStore Store.ensureMembersGroup
  let storePath := c.surroundings.storePath
  let configPath := c.surroundings.configPath
  emit (.obj [("ok", .bool true), ("store", .str storePath), ("config", .str configPath),
      ("schema_version", Json.int 2)])
    ("Initialized .picklist/\n" ++ textKv "store" storePath ++ textKv "config" configPath ++
      "\nNext steps:\n  pk user create <login>\n  pk field create status --label Status\n")

/-- `pk user create`. -/
def createUser (login : String) (name : Option String) : Session Unit := do
  openStore
  let id ← inStore (Store.createUser login name)
  let l := Text.trim login
  emit (.obj ([("id", Json.int id), ("login", .str l)] ++ (name.map fun n => [("name", Json.str n)]).getD []))
    ("Created user " ++ l ++ " (#" ++ toString id ++ ")\n")

/-- `pk group create`. -/
def createGroup (name : String) : Session Unit := do
  openStore
  let id ← inStore (Store.createGroup name)
  let n := Text.trim name
  emit (.obj [("id", Json.int id), ("name", .str n)]) ("Created group " ++ n ++ " (#" ++ toString id ++ ")\n")

/-- `pk group add-member`. -/
def addMember (group login : String) : Session Unit := do
  openStore
  let g ← inStore (Store.groupByName group)
  let u ← inStore (Store.actor login)
  let added ← inStore (Store.addMember g u.id)
  emit (.obj [("group", .str group), ("login", .str u.login), ("added", .bool added)])
    (if added then "Added " ++ login ++ " to " ++ group ++ "\n"
     else login ++ " is already a member of " ++ group ++ "\n")

/-- `pk perm grant`. -/
def grantAccess (field group : String) (accesses : List Access) : Session Unit := do
  openStore
  let f ← fieldOf field
  let g ← inStore (Store.groupByName group)
  for a in accesses do
    inStore (Store.grant f.id g a)
  let names := accesses.map Access.name
  emit (.obj [("field", .str f.name), ("group", .str group), ("access", .arr (names.map Json.str))])
    ("Granted " ++ ", ".intercalate names ++ " on " ++ f.name ++ " to " ++ group ++ "\n")

/-- `pk field create`; the label defaults to the name. -/
def createField (name : String) (label : Option String) (source : Source) (required multiple readOnly : Bool) :
    Session Unit := do
  openStore
  let n := Text.trim name
  let f ← inStore (Store.createField n (label.getD n) source required multiple readOnly)
  emit f.toJson ("Created field " ++ f.displayName ++ " (#" ++ toString f.id ++ ", " ++ f.source.name ++ ")\n")

/-- `pk field add-value`. -/
def addValue (field label : String) (description : Option String) (hidden isDefault : Bool)
    (decorator : Option Decorator) : Session Unit := do
  openStore
  let f ← fieldOf field
  if Text.isBlankText label then fail (.coded "value label must not be empty" .invalidValue)
  let id ← inStore (Store.addChoice f.id { label := Text.trim label, description, hidden, isDefault, decorator })
  let cs ← choicesOf f
  match cs.get id with
  | .error e => fail (.coded e.message .choiceNotFound)
  | .ok c =>
    emit (choiceRow cs c) ("Added " ++ cs.display c ++ " (#" ++ toString c.id ++ ") to " ++ f.name ++ "\n")

/-- One line of `pk field values`: id, display, colour and flags. -/
def choiceLine (cs : Choices) (c : Choice) : String :=
  let flags := (if c.isDefault then ["default"] else []) ++ (if c.hidden then ["hidden"] else [])
  let colour := (c.decorator.map fun d => " " ++ d.render).getD ""
  toString c.id ++ "  " ++ cs.display c ++ colour ++
    (if flags.isEmpty then "" else " [" ++ ", ".intercalate flags ++ "]") ++ "\n"

/-- `pk field values`: the choices offered, or with `--all` every choice. -/
def listValues (field : String) (all : Bool) : Session Unit := do
  openStore
  let f ← fieldOf field
  let cs ← choicesOf f
  let listed := if all then cs.values else cs.offered f.required
  emit (.arr (listed.map (choiceRow cs))) (String.join (listed.map (choiceLine cs)))

/-- How a field's workflow is shown: absent, enabled or disabled. -/
def workflowWord : Option Bool → Option String
  | none => none
  | some true => some "enabled"
  | some false => some "disabled"

/-- The text of one field in `pk field show`. -/
def fieldText (f : Field) (count : Nat) (workflow : Option Bool) : String :=
  let flags := (if f.required then ["required"] else []) ++ (if f.multiple then ["multiple"] else []) ++
    (if f.readOnly then ["read-only"] else [])
  textKv "field" f.displayName ++ textKv "id" (toString f.id) ++ textKv "kind" f.source.describe ++
    (if flags.isEmpty then "" else textKv "flags" (", ".intercalate flags)) ++
    textKv "values" (toString count) ++ textKv "workflow" ((workflowWord workflow).getD "none") ++ "\n"

/-- `pk field show`: one field, or every field. -/
def showFields (field : Option String) : Session Unit := do
  openStore
  let fs ← match field with
    | some key => do pure [← fieldOf key]
    | none => inStore Store.fields
  let s ← store
  let label := (← style).noneLabel
  let details := fs.map fun f => (f, (s.choicesOf f label).values.length, (s.workflow f.id).map (·.enabled))
  emit (.arr (details.map fun (f, n, w) =>
      extend f.toJson [("values", Json.int n), ("workflow", Json.opt Json.str (workflowWord w))]))
    (String.join (details.map fun (f, n, w) => fieldText f n w))

/-- `pk workflow enable` and `pk workflow disable`. -/
def setWorkflow (field : String) (enabled : Bool) : Session Unit := do
  openStore
  let f ← fieldOf field
  inStore (Store.setWorkflow f.id enabled)
  emit (.obj [("field", .str f.name), ("enabled", .bool enabled)])
    ("Workflow " ++ (if enabled then "enabled" else "disabled") ++ " on " ++ f.name ++ "\n")

/-- The label of a choice id, or `#id` when it names no choice. -/
def labelOrId (cs : Choices) (id : ValueId) : String :=
  (cs.labelFor id).getD ("#" ++ toString id)

/-- The choice named by `token` as the end of a transition; "no value" is refused. -/
def transitionEnd (cs : Choices) (f : Field) (token : String) : Session ValueId :=
  match (resolveToken cs token).filter (· != noneId) with
  | some id => pure id
  | none => fail (notAValue f token)

/-- `pk workflow add-transition`; no `--from` (or `none`) is the initial transition. -/
def addTransition (field : String) (source : Option String) (target : String) (groups : List String) :
    Session Unit := do
  openStore
  let f ← fieldOf field
  let cs ← choicesOf f
  let src ← match source.map Text.trim with
    | none => pure none
    | some t => if t.isEmpty || Text.eqIgnoreAsciiCase t "none" then pure none else some <$> transitionEnd cs f t
  let tgt ← transitionEnd cs f target
  let gs ← groups.mapM fun g => inStore (Store.groupByName g)
  let tr ← inStore (Store.addTransition f.id src tgt gs)
  let fromLabel := match src with
    | some id => labelOrId cs id
    | none => cs.noneLabel
  emit (.obj [("id", Json.int tr), ("field", .str f.name), ("from", Json.opt Json.int src), ("to", Json.int tgt),
      ("groups", .arr (groups.map Json.str))])
    ("Transition " ++ fromLabel ++ " -> " ++ labelOrId cs tgt ++ " saved on " ++ f.name ++ "\n")

/-- `pk workflow show`: a field without a workflow shows as disabled, with no
transitions. -/
def showWorkflow (field : String) : Session Unit := do
  openStore
  let f ← fieldOf field
  let cs ← choicesOf f
  let w := ((← store).workflow f.id).getD { field := f.id, enabled := false }
  let rows ← w.transitions.mapM fun t => do
    let names ← t.groups.mapM fun g => inStore (Store.groupName g)
    let fromLabel := match t.source with
      | some id => labelOrId cs id
      | none => cs.noneLabel
    pure (t.id, fromLabel, labelOrId cs t.target, names)
  emit (.obj [("field", .str f.name), ("enabled", .bool w.enabled),
      ("transitions", .arr (rows.map fun (id, a, b, names) =>
        .obj [("id", Json.int id), ("from", .str a), ("to", .str b), ("groups", .arr (names.map Json.str))]))])
    (f.displayName ++ " workflow: " ++ (if w.enabled then "enabled" else "disabled") ++ "\n" ++
      String.join (rows.map fun (_, a, b, names) =>
        "  " ++ a ++ " -> " ++ b ++ "  (" ++ (if names.isEmpty then "any group" else ", ".intercalate names) ++ ")\n"))

/-- `pk artifact create`: the artifact and its first changeset. -/
def createArtifact (title : String) (assignments : List String) (bypass : Bool) : Session Unit := do
  openStore
  let a ← requireActor
  let entries ← parseAssignments assignments
  let art ← inStore (Store.createArtifact (Text.trim title) a)
  let r ← submitValues art.id entries bypass
  emit (.obj [("artifact", art.toJson), ("update", r.toJson)])
    ("Created artifact #" ++ toString art.id ++ ": " ++ art.title ++ "\n" ++ reportText r)
  checkReport r

/-- `pk set`: a changeset on an existing artifact. -/
def setValues (artifact : ArtifactId) (assignments : List String) (bypass : Bool) : Session Unit := do
  openStore
  let _ ← inStore (Store.artifact artifact)
  let entries ← parseAssignments assignments
  let r ← submitValues artifact entries bypass
  emit r.toJson (reportText r)
  checkReport r

/-- `pk show`: the latest values of the fields the acting user may read. -/
def showArtifact (artifact : ArtifactId) : Session Unit := do
  openStore
  let art ← inStore (Store.artifact artifact)
  let a ← requireActor
  let snaps := Store.snapshot (← style) (← store) a art.id
  let label := (← style).noneLabel
  emit (extend art.toJson [("fields", .arr (snaps.map Store.FieldSnapshot.toJson))])
    ("#" ++ toString art.id ++ " " ++ art.title ++ "\n" ++
      String.join (snaps.map fun s =>
        textKv s.field.name (if s.labels.isEmpty then label else ", ".intercalate s.labels)))

/-- The text of one history entry: the changeset, then the change, its later lines
indented under the first. -/
def historyText (e : Store.HistoryEntry) : String :=
  let head := "#" ++ toString e.changeset.id
  let lines := textLines e.rendered
  head ++ "  " ++ lines.headD "" ++ "\n" ++
    String.join ((lines.drop 1).map fun l => spaces head.length ++ "  " ++ l ++ "\n")

/-- `pk history`: a field's audit trail on an artifact. -/
def history (artifact : ArtifactId) (field : String) : Session Unit := do
  openStore
  let _ ← inStore (Store.artifact artifact)
  let f ← fieldOf field
  let entries := Store.history (← style) (← store) artifact f
  emit (.arr (entries.map Store.HistoryEntry.toJson))
    (if entries.isEmpty then f.name ++ ": no changes\n" else String.join (entries.map historyText))

/-- Runs a task. -/
def perform : Task → Session Unit
  | .init force => initProject force
  | .createField n l s r m ro => createField n l s r m ro
  | .addValue f l d h i c => addValue f l d h i c
  | .listValues f all => listValues f all
  | .showFields f => showFields f
  | .createUser l n => createUser l n
  | .createGroup n => createGroup n
  | .addMember g l => addMember g l
  | .grant f g as => grantAccess f g as
  | .setWorkflow f e => setWorkflow f e
  | .addTransition f s t gs => addTransition f s t gs
  | .showWorkflow f => showWorkflow f
  | .createArtifact t as b => createArtifact t as b
  | .setValues a as b => setValues a as b
  | .showArtifact a => showArtifact a
  | .history a f => history a f

end Tool
end ListField
