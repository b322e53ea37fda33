import ListField.StoreError
import ListField.Store.Tables
/-!
# Schema versions

A store file carries the version of its layout. Version 1 creates the core tables
and a metadata row recording the version; version 2 adds colours to choices and the
indexes the read paths need. Migrating applies, in order, each version above the
recorded one, each as a transaction of its own, and records the new version after
each step.

`Schema` is what migrations see of a database: the recorded version, which parts of
the layout exist, the version written in the metadata row, and the rows of the core
tables, which no migration writes (a column added by version 2 starts empty in every
row). The recorded version
is a 32-bit number; a number written there that does not fit is stored as 0, and a
negative one cannot be read back as a version.
-/

namespace ListField

/-- What migrations see of a database. -/
structure Schema where
  recorded : Int := 0
  coreTables : Bool := false
  decorators : Bool := false
  indexes : Bool := false
  metaVersion : Option Int := none
  tables : Tables := {}
  deriving DecidableEq, Repr

namespace Schema

/-- The newest layout version. -/
def latest : Nat := 2

/-- The versions there are, in the order they are applied. -/
def migrations : List Nat := [1, 2]

/-- The core tables created by version 1. -/
def coreTableNames : List String :=
  ["users", "ugroups", "ugroup_members", "fields", "bind_values", "field_permissions",
   "workflows", "transitions", "transition_groups", "artifacts", "changesets",
   "changeset_values", "changeset_value_list", "store_meta"]

/-- The indexes created by version 2, which the read paths need. -/
def requiredIndexes : List String :=
  ["idx_bind_values_field_rank", "idx_transitions_field_to", "idx_ugroup_members_user",
   "idx_changesets_artifact", "idx_changeset_values_field"]

/-- Records version `v`; a number outside the 32-bit range is recorded as 0. -/
def record (s : Schema) (v : Int) : Schema :=
  { s with recorded := if -2147483648 ≤ v ∧ v ≤ 2147483647 then v else 0 }

/-- The recorded version, if it is one. -/
def version (s : Schema) : Except StoreError Nat :=
  if s.recorded < 0 then .error (.sql (.conversion .tooSmall))
  else if s.recorded > 4294967295 then .error (.sql (.conversion .tooLarge))
  else .ok s.recorded.toNat

/-- The core layout of version 1; tables that exist are kept, and the metadata row
is written only if it is missing. -/
def createCore (s : Schema) : Schema :=
  { s with coreTables := true, metaVersion := s.metaVersion.orElse fun _ => some 1 }

/-- The additions of version 2. -/
def addDecorators (s : Schema) : Except StoreError Schema :=
  if !s.coreTables then .error (.sql (.noSuchTable "bind_values"))
  else if s.decorators then .error (.sql (.duplicateColumn "decorator"))
  else .ok { s with decorators := true, indexes := true, metaVersion := s.metaVersion.map fun _ => 2 }

/-- Applies version `v` and records it. -/
def step (s : Schema) (v : Nat) : Except StoreError Schema := do
  let s' ← if v == 1 then pure (createCore s) else addDecorators s
  return { s'.record v with metaVersion := s'.metaVersion.map fun _ => (v : Int) }

/-- Applies the versions in `pending` that lie above `current`. -/
def applyFrom (current : Nat) : List Nat → Schema → Except StoreError Nat × Schema
  | [], s => (.ok current, s)
  | v :: rest, s =>
    if v ≤ current then applyFrom current rest s
    else match step s v with
      | .ok s' => applyFrom v rest s'
      | .error e => (.error e, s)

/-- Brings the layout up to the newest version, and gives the version reached. -/
def migrate (s : Schema) : Except StoreError Nat × Schema :=
  match s.version with
  | .error e => (.error e, s)
  | .ok current => applyFrom current migrations s

/-- The names of the tables and indexes that exist, in increasing order. -/
def objects (s : Schema) : List String :=
  ((if s.coreTables then coreTableNames else []) ++ (if s.indexes then requiredIndexes else [])).mergeSort
    (fun a b => a ≤ b)

end Schema
end ListField
