/-!
# TOML documents

A document is a tree of tables. A table maps keys to items in the order the keys
were first written; an item is a scalar, an array of values, a table, or an array of
tables (`[[name]]`). Every item remembers where it was written, so that a value of
the wrong shape can be pointed at.

Tables come about in four ways, and the rules for writing to them differ:
* a header `[a.b]` defines `a.b` (explicit);
* a header or a dotted key may create the tables on its path (`a` for `[a.b]`),
  which stay open for a later header (implicit);
* a dotted key `a.b = 1` creates `a` as a dotted table, which no header may define
  afterwards;
* `{ ... }` writes a table as a value (inline), which is closed once written.

`Conflict` names the ways a well-formed document can still be invalid: a key
defined twice, or a dotted key that runs into a value.
-/

namespace ListField
namespace Toml

/-- A range of character positions of the source text. -/
structure Span where
  start : Nat
  stop : Nat
  deriving DecidableEq, Repr

/-- A number written with a fraction or an exponent: its sign, its decimal digits
and the power of ten they are scaled by, or one of the special values. -/
inductive FloatLit where
  | finite (negative : Bool) (digits : Nat) (exponent : Int)
  | infinity (negative : Bool)
  | nan (negative : Bool)
  deriving DecidableEq, Repr

/-- A value that holds no other values. -/
inductive Scalar where
  | str (s : String)
  | int (n : Int)
  | float (f : FloatLit)
  | bool (b : Bool)
  | datetime (text : String)
  deriving DecidableEq, Repr

/-- A key as written, with where it was written. -/
structure Key where
  name : String
  span : Span
  deriving DecidableEq, Repr

/-- How a table came about. -/
structure TableKind where
  inline : Bool := false
  implicit : Bool := false
  dotted : Bool := false
  deriving DecidableEq, Repr

/-- An item of a document. -/
inductive Item where
  | scalar (v : Scalar) (span : Span)
  | array (items : List Item) (span : Span)
  | table (kind : TableKind) (entries : List (Key × Item)) (span : Option Span)
  | tables (elems : List Item) (span : Option Span)
  deriving Repr

namespace Item

/-- An empty table of the given kind. -/
def emptyTable (kind : TableKind) : Item := .table kind [] none

/-- Where the item was written, if it was written at one place. -/
def span? : Item → Option Span
  | .scalar _ sp => some sp
  | .array _ sp => some sp
  | .table _ _ sp => sp
  | .tables _ sp => sp

/-- The kind of value an item is, as named in conflicts. -/
def typeName : Item → String
  | .scalar (.str _) _ => "string"
  | .scalar (.int _) _ => "integer"
  | .scalar (.float _) _ => "float"
  | .scalar (.bool _) _ => "boolean"
  | .scalar (.datetime _) _ => "datetime"
  | .array _ _ => "array"
  | .table k _ _ => if k.inline then "inline table" else "table"
  | .tables _ _ => "array of tables"

/-- Whether the item is a value (as opposed to a table or an array of tables written
with headers). -/
def isValue : Item → Bool
  | .scalar .. | .array .. => true
  | .table k _ _ => k.inline
  | .tables .. => false

/-- The item, written at `sp` when it is a table. -/
def withSpan (sp : Span) : Item → Item
  | .table kind es _ => .table kind es (some sp)
  | other => other

/-- The entries of a table item. -/
def entries : Item → List (Key × Item)
  | .table _ es _ => es
  | _ => []

end Item

/-- Why a document that reads well is still invalid. -/
inductive Conflict where
  | duplicateKey (key : String) (table : Option (List String))
  | extendsValue (path : List String) (actual : String)
  | outOfRange
  | tooDeep
  deriving DecidableEq, Repr

/-- The sentence that reports a conflict. -/
def Conflict.message : Conflict → String
  | .duplicateKey key none => "duplicate key `" ++ key ++ "`"
  | .duplicateKey key (some []) => "duplicate key `" ++ key ++ "` in document root"
  | .duplicateKey key (some path) => "duplicate key `" ++ key ++ "` in table `" ++ ".".intercalate path ++ "`"
  | .extendsValue path actual =>
    "dotted key `" ++ ".".intercalate path ++ "` attempted to extend non-table type (" ++ actual ++ ")"
  | .outOfRange => "value is out of range"
  | .tooDeep => "recursion limit exceeded"

/-- The entry of key `name`, if there is one. -/
def lookupEntry (entries : List (Key × Item)) (name : String) : Option Item :=
  (entries.find? (·.1.name == name)).map (·.2)

/-- Replaces the item of key `name`. -/
def setEntry (entries : List (Key × Item)) (name : String) (item : Item) : List (Key × Item) :=
  entries.map fun (k, v) => if k.name == name then (k, item) else (k, v)

/-- Removes the entry of key `name`. -/
def dropEntry (entries : List (Key × Item)) (name : String) : List (Key × Item) :=
  entries.filter (·.1.name != name)

/-- Replaces the last element of a list. -/
def replaceLast {α : Type} : List α → α → List α
  | [], _ => []
  | [_], a => [a]
  | x :: rest, a => x :: replaceLast rest a

/-- Walks down `path` from table `t` and applies `f` to the table reached, rebuilding
the tables on the way. Missing tables are created implicit (dotted when `dotted`);
an array of tables is entered at its last element; a value on the path is a conflict,
and so is an explicit table entered by a dotted key. `done` holds the keys walked
so far. Inside an inline table (`inInline`) the tables walked through and created
are inline ones; elsewhere an inline table on the path is a value. -/
def descend {β : Type} (dotted inInline : Bool) (f : Item → Except Conflict (Item × β)) :
    List String → List Key → Item → Except Conflict (Item × β)
  | _, [], t => f t
  | done, k :: rest, t => do
    let child ← match lookupEntry t.entries k.name with
      | none => pure (Item.emptyTable { implicit := true, dotted, inline := inInline })
      | some c => pure c
    let path := done ++ [k.name]
    match child with
    | .table kind es sp =>
      if kind.inline && !inInline then throw (.extendsValue path "inline table")
      if dotted && !kind.implicit then throw (.duplicateKey k.name none)
      let (child', b) ← descend dotted inInline f path rest (.table kind es sp)
      return (update t k child', b)
    | .tables elems sp =>
      match elems.getLast? with
      | some last =>
        let (last', b) ← descend dotted inInline f path rest last
        return (update t k (.tables (replaceLast elems last') sp), b)
      | none => throw (.extendsValue path "array of tables")
    | other => throw (.extendsValue path other.typeName)
where
  /-- Writes `child` under `k`, appending the key when it is new. -/
  update (t : Item) (k : Key) (child : Item) : Item :=
    match t with
    | .table kind es sp =>
      if (lookupEntry es k.name).isSome then .table kind (setEntry es k.name child) sp
      else .table kind (es ++ [(k, child)]) sp
    | other => other

/-- Inserts `key = value` into the table reached by the dotted `path` from `t`,
whose own path is `tablePath`. -/
def insertValue (tablePath : List String) (path : List Key) (key : Key) (value : Item) (t : Item) :
    Except Conflict Item := do
  let (t', _) ← descend true false (fun target => do
      match target with
      | .table kind es sp =>
        -- a dotted key may only write into dotted tables, and a plain key only into others
        if kind.dotted == path.isEmpty then throw (.duplicateKey key.name none)
        if (lookupEntry es key.name).isSome then
          throw (.duplicateKey key.name (some tablePath))
        return (.table kind (es ++ [(key, value)]) sp, ())
      | _ => throw (.duplicateKey key.name none)) [] path t
  return t'

/-- What a header starts: a table, or an element of an array of tables. -/
inductive Header where
  | table
  | element
  deriving DecidableEq, Repr

/-- A document being read: the finished part, and the table that the latest header
started (with its path and kind). -/
structure Building where
  root : Item := Item.emptyTable {}
  current : Item := Item.emptyTable {}
  path : List Key := []
  header : Header := .table
  deriving Repr

namespace Building

/-- The names of a key path. -/
def names (path : List Key) : List String := path.map (·.name)

/-- Where an array of tables was written: from its first header to the end of its
last table. -/
def tablesSpan (elems : List Item) : Option Span :=
  match elems.head?.bind Item.span?, elems.getLast?.bind Item.span? with
  | some a, some z => some ⟨a.start, z.stop⟩
  | _, _ => none

/-- Files the current table into the finished part. -/
def finish (b : Building) : Except Conflict Item := do
  match b.path.reverse with
  | [] => return b.current
  | last :: parentRev =>
    let parent := parentRev.reverse
    let (root, _) ← descend false false (fun p => do
        match p with
        | .table kind es sp =>
          match b.header, lookupEntry es last.name with
          | .element, none =>
            return (.table kind (es ++ [(last, .tables [b.current] (tablesSpan [b.current]))]) sp, ())
          | .element, some (.tables elems _) =>
            let elems' := elems ++ [b.current]
            return (.table kind (setEntry es last.name (.tables elems' (tablesSpan elems'))) sp, ())
          | .element, some _ => throw (.duplicateKey last.name (some (names parent)))
          | .table, none => return (.table kind (es ++ [(last, b.current)]) sp, ())
          | .table, some (.table k _ _) =>
            if k.implicit then return (.table kind (setEntry es last.name b.current) sp, ())
            else throw (.duplicateKey last.name (some (names parent)))
          | .table, some _ => throw (.duplicateKey last.name (some (names parent)))
        | _ => throw (.duplicateKey last.name (some (names parent)))) [] parent b.root
    return root

/-- Adds `key = value` (under the dotted `path`) to the current table. -/
def addValue (b : Building) (path : List Key) (key : Key) (value : Item) : Except Conflict Building := do
  let current ← insertValue (names b.path) path key value b.current
  return { b with current }

/-- Starts the table of header `[path]`. A table that exists only implicitly is
taken over with what it holds; any other item at that key is a conflict. -/
def startTable (b : Building) (path : List Key) (span : Span) : Except Conflict Building := do
  let root ← b.finish
  match path.reverse with
  | [] => return b
  | last :: parentRev =>
    let parent := parentRev.reverse
    let (root', taken) ← descend false false (fun p => do
        match p with
        | .table kind es sp =>
          match lookupEntry es last.name with
          | none => return (p, [])
          | some (.table k ces _) =>
            if k.implicit && !k.dotted then return (.table kind (dropEntry es last.name) sp, ces)
            else throw (.duplicateKey last.name (some (names parent)))
          | some _ => throw (.duplicateKey last.name (some (names parent)))
        | _ => throw (.duplicateKey last.name (some (names parent)))) [] parent root
    return { root := root', current := .table {} taken (some span), path, header := .table }

/-- Starts a new element of the array of tables of header `[[path]]`. -/
def startElement (b : Building) (path : List Key) (span : Span) : Except Conflict Building := do
  let root ← b.finish
  match path.reverse with
  | [] => return b
  | last :: parentRev =>
    let parent := parentRev.reverse
    let (root', _) ← descend false false (fun p => do
        match p with
        | .table kind es sp =>
          match lookupEntry es last.name with
          | none => return (.table kind (es ++ [(last, .tables [] none)]) sp, ())
          | some (.tables ..) => return (p, ())
          | some _ => throw (.duplicateKey last.name (some (names parent)))
        | _ => throw (.duplicateKey last.name (some (names parent)))) [] parent root
    return { root := root', current := .table {} [] (some span), path, header := .element }

end Building

/-- Builds an inline table from its `key = value` pairs, each under a dotted path. -/
def inlineTable (pairs : List (List Key × Key × Item)) (span : Span) : Except Conflict Item :=
  List.foldlM addPair (Item.table { inline := true } [] (some span)) pairs
where
  /-- Adds one pair; a key may be given once, and dotted paths make inline tables. -/
  addPair (t : Item) (pair : List Key × Key × Item) : Except Conflict Item := do
    let (path, key, value) := pair
    let (t', _) ← descend true true (fun target => do
        match target with
        | .table kind es sp =>
          if kind.dotted == path.isEmpty then throw (.duplicateKey key.name none)
          if (lookupEntry es key.name).isSome then throw (.duplicateKey key.name none)
          return (.table kind (es ++ [(key, value)]) sp, ())
        | _ => throw (.duplicateKey key.name none)) [] path t
    return t'

end Toml
end ListField
