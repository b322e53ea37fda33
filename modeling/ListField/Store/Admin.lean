import ListField.Store.Basic
/-!
# Writes to the project store

The administration writes: users, groups and memberships, fields and their choices,
grants, workflows, artifacts and changesets, and the raw value rows.

Each write checks the table rules in the order the database does: a check rule on
the new row first, then uniqueness, then the rows it refers to. A write that may
not happen twice is told apart from one that is simply skipped: adding a member,
a grant, or a group to a transition twice changes nothing and succeeds.
-/

namespace ListField
namespace Store

/-- Refuses a text that is blank. -/
def requireText (text rule : String) : StoreM Unit :=
  if text.isEmpty then throw (.sql (.check rule)) else pure ()

/-- Creates the built-in members group if it is missing, and gives its id. -/
def ensureMembersGroup : StoreM GroupId := do
  let t ← current
  unless t.groups.any (·.name == membersGroupName) do
    let id := t.last.groups + 1
    change fun t => { t with groups := t.groups ++ [⟨id, membersGroupName⟩],
                             last := { t.last with groups := id } }
  groupByName membersGroupName

/-- Creates a user; they join the members group when it exists. -/
def createUser (login : String) (realName : Option String) : StoreM UserId :=
  transaction do
    let t ← current
    let l := Text.trim login
    requireText l "length(trim(login)) > 0"
    if t.users.any (·.login == l) then throw (.sql (.unique ["users.login"]))
    let id := t.last.users + 1
    let joins := (t.groups.find? (·.name == membersGroupName)).map (·.id)
    change fun t => { t with users := t.users ++ [⟨id, l, realName⟩],
                             members := t.members ++ (joins.map (·, id)).toList,
                             last := { t.last with users := id } }
    return id

/-- Creates a group. -/
def createGroup (name : String) : StoreM GroupId := do
  let t ← current
  let n := Text.trim name
  requireText n "length(trim(name)) > 0"
  if t.groups.any (·.name == n) then throw (.sql (.unique ["ugroups.name"]))
  let id := t.last.groups + 1
  change fun t => { t with groups := t.groups ++ [⟨id, n⟩], last := { t.last with groups := id } }
  return id

/-- Adds a user to a group; `false` when they already were a member. -/
def addMember (g : GroupId) (u : UserId) : StoreM Bool := do
  let t ← current
  if t.members.contains (g, u) then return false
  unless t.groups.any (·.id == g) && t.users.any (·.id == u) do throw (.sql .foreignKey)
  change fun t => { t with members := t.members ++ [(g, u)] }
  return true

/-- Creates a field named `name` (blanks around it cut off). -/
def createField (name label : String) (source : Source) (required multiple readOnly : Bool) :
    StoreM Field := do
  let t ← current
  let n := Text.trim name
  requireText n "length(trim(name)) > 0"
  if t.fields.any (·.name == n) then throw (.sql (.unique ["fields.name"]))
  let id := t.last.fields + 1
  let f : Field := { id, name := n, label, source, required, multiple, readOnly }
  change fun t => { t with fields := t.fields ++ [f], last := { t.last with fields := id } }
  return f

/-- A choice to add to a field. -/
structure NewChoice where
  label : String
  description : Option String := none
  hidden : Bool := false
  isDefault : Bool := false
  decorator : Option Decorator := none

/-- Adds a choice at the end of a field's order. A user or group field's choice is
labelled with the login or group name, which must exist. -/
def addChoice (f : FieldId) (new : NewChoice) : StoreM ValueId := do
  let fld ← field f
  let (user, group) ← match fld.source with
    | .static => pure (none, none)
    | .users => do let a ← actor new.label; pure (some a.id, none)
    | .groups => do let g ← groupByName new.label; pure (none, some g)
  transaction do
    let t ← current
    let own := t.choices.filter (·.field == f)
    let rank := match own.map (·.rank) with
      | [] => 0
      | r :: rs => rs.foldl max r + 1
    let l := Text.trim new.label
    if own.any (·.label == l) then
      throw (.sql (.unique ["bind_values.field_id", "bind_values.label"]))
    let id := t.last.choices + 1
    let row : ChoiceRow :=
      { id := id, field := f, label := l, description := new.description, rank := rank,
        hidden := new.hidden, isDefault := new.isDefault, user := user, group := group,
        decorator := new.decorator }
    change fun t => { t with choices := t.choices ++ [row], last := { t.last with choices := id } }
    return id

/-- Grants `access` on field `f` to group `g`. -/
def grant (f : FieldId) (g : GroupId) (access : Access) : StoreM Unit := do
  let t ← current
  unless t.grants.contains ⟨f, g, access⟩ do
    unless t.fields.any (·.id == f) && t.groups.any (·.id == g) do throw (.sql .foreignKey)
    change fun t => { t with grants := t.grants ++ [⟨f, g, access⟩] }

/-- Gives field `f` a workflow if it has none, and sets whether it is enforced. -/
def setWorkflow (f : FieldId) (enabled : Bool) : StoreM Unit := do
  let t ← current
  if t.workflows.any (·.1 == f) then
    change fun t => { t with workflows := t.workflows.map fun w => if w.1 == f then (f, enabled) else w }
  else
    unless t.fields.any (·.id == f) do throw (.sql .foreignKey)
    change fun t => { t with workflows := t.workflows ++ [(f, enabled)] }

/-- Adds the transition `source → target` to field `f`'s workflow, or extends the
groups of the one that exists. A field without a workflow gets one that is not
enforced. Both ends must be choices of the field. -/
def addTransition (f : FieldId) (source : Option ValueId) (target : ValueId)
    (groups : List GroupId) : StoreM TransitionId := do
  for v in source.toList ++ [target] do
    unless (← current).choices.any fun c => c.id == v && c.field == f do
      throw (.missing .choice v)
  transaction do
    let t ← current
    unless t.workflows.any (·.1 == f) do
      change fun t => { t with workflows := t.workflows ++ [(f, false)] }
    let tr ← match findTransition t f source target with
      | some tr => pure tr
      | none => do
        let id := t.last.transitions + 1
        change fun t => { t with transitions := t.transitions ++ [⟨id, f, source, target⟩],
                                 last := { t.last with transitions := id } }
        pure id
    for g in groups do
      let t ← current
      unless t.transitionGroups.contains (tr, g) do
        unless t.groups.any (·.id == g) do throw (.sql .foreignKey)
        change fun t => { t with transitionGroups := t.transitionGroups ++ [(tr, g)] }
    return tr

/-- Creates an artifact. -/
def createArtifact (title : String) (author : Actor) : StoreM ArtifactRow := do
  let t ← current
  unless t.users.any (·.id == author.id) do throw (.sql .foreignKey)
  let id := t.last.artifacts + 1
  let row : ArtifactRow := ⟨id, title, author.id⟩
  change fun t => { t with artifacts := t.artifacts ++ [row], last := { t.last with artifacts := id } }
  return row

/-- The artifact with id `a`. -/
def artifact (a : ArtifactId) : StoreM ArtifactRow := do
  match (← current).artifacts.find? (·.id == a) with
  | some row => return row
  | none => throw (.missing .artifact a)

/-- The changesets of artifact `a`, oldest first. -/
def changesetsOf (t : Tables) (a : ArtifactId) : List ChangesetRow :=
  t.changesets.filter (·.artifact == a)

/-- Opens a changeset on an existing artifact. -/
def createChangeset (a : ArtifactId) (author : Actor) : StoreM ChangesetRow := do
  let _ ← artifact a
  let t ← current
  unless t.users.any (·.id == author.id) do throw (.sql .foreignKey)
  let id := t.last.changesets + 1
  let row : ChangesetRow := ⟨id, a, author.id⟩
  change fun t => { t with changesets := t.changesets ++ [row], last := { t.last with changesets := id } }
  return row

/-- Deletes choice `v`, and the transitions that start or end at it; gives the
number of choices deleted. Stored history keeps the id. -/
def deleteChoice (v : ValueId) : StoreM Nat := do
  let t ← current
  let gone := t.transitions.filter fun e => e.target == v || e.source == some v
  let goneIds := gone.map (·.id)
  change fun t => { t with
    choices := t.choices.filter (·.id != v),
    transitions := t.transitions.filter fun e => !goneIds.contains e.id,
    transitionGroups := t.transitionGroups.filter fun p => !goneIds.contains p.1 }
  return (t.choices.filter (·.id == v)).length

/-- Gives choice `v` a new label, as it is; gives the number of choices changed. -/
def renameChoice (v : ValueId) (label : String) : StoreM Nat := do
  let t ← current
  match t.choices.find? (·.id == v) with
  | none => return 0
  | some row =>
    if t.choices.any fun c => c.field == row.field && c.label == label && c.id != v then
      throw (.sql (.unique ["bind_values.field_id", "bind_values.label"]))
    change fun t => { t with choices := t.choices.map fun c => if c.id == v then { c with label } else c }
    return 1

end Store
end ListField
