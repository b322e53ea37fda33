import ListField.ErrorCode
import ListField.Ids
/-!
# Store errors

A store operation fails in one of three ways: a named thing is not there, the
database refused a statement, or a stored row cannot be read back. Each failure has
one sentence (`StoreError.message`) and one error code (`StoreError.code`).

The database refuses a statement for a cause of `SqlFault`: a uniqueness, check or
foreign key rule, a savepoint or table that does not exist, a transaction opened
inside another one, or a stored number that does not fit.
-/

namespace ListField

/-- The kinds of things looked up by name or id. -/
inductive Entity where
  | field
  | artifact
  | user
  | group
  | choice
  | transition
  | other (name : String)
  deriving DecidableEq, Repr

/-- The word for a kind of thing, as written in messages. -/
def Entity.word : Entity → String
  | .field => "field"
  | .artifact => "artifact"
  | .user => "user"
  | .group => "group"
  | .choice => "bind value"
  | .transition => "transition"
  | .other name => name

/-- The kind of thing a word names. -/
def Entity.ofWord : String → Entity
  | "field" => .field
  | "artifact" => .artifact
  | "user" => .user
  | "group" => .group
  | "bind value" => .choice
  | "transition" => .transition
  | name => .other name

/-- Why the database refused a statement. -/
inductive SqlFault where
  /-- A row would repeat the values of a unique column set. -/
  | unique (columns : List String)
  /-- A row breaks a check rule, given by its text. -/
  | check (rule : String)
  /-- A row refers to a row that does not exist. -/
  | foreignKey
  /-- A savepoint of that name is not open. -/
  | noSuchSavepoint (name : String)
  /-- A transaction was opened while another one is open. -/
  | nestedTransaction
  /-- A statement names a table that does not exist. -/
  | noSuchTable (name : String)
  /-- A column is added to a table that already has it. -/
  | duplicateColumn (name : String)
  /-- A stored integer does not fit the wanted type. -/
  | conversion (cause : IntError)
  deriving DecidableEq, Repr

/-- The database's sentence for a refused statement. -/
def SqlFault.message : SqlFault → String
  | .unique columns => "UNIQUE constraint failed: " ++ ", ".intercalate columns
  | .check rule => "CHECK constraint failed: " ++ rule
  | .foreignKey => "FOREIGN KEY constraint failed"
  | .noSuchSavepoint name => "no such savepoint: " ++ name
  | .nestedTransaction => "cannot start a transaction within a transaction"
  | .noSuchTable name => "no such table: " ++ name
  | .duplicateColumn name => "duplicate column name: " ++ name
  | .conversion cause => "Conversion error from type Integer at index: 0, " ++ cause.message

/-- Why a store operation failed. -/
inductive StoreError where
  /-- Nothing of kind `entity` is named `key`. -/
  | notFound (entity : Entity) (key : String)
  /-- The database refused a statement. -/
  | sql (fault : SqlFault)
  /-- A stored row cannot be read back. -/
  | corrupt (text : String)
  deriving DecidableEq, Repr

namespace StoreError

/-- The sentence that reports a store failure. -/
def message : StoreError → String
  | .notFound entity key => entity.word ++ " " ++ key ++ " not found"
  | .sql fault => "sqlite error: " ++ fault.message
  | .corrupt text => "corrupt store: " ++ text

/-- The error code of a store failure. -/
def code : StoreError → ErrorCode
  | .notFound .field _ => .fieldNotFound
  | .notFound .artifact _ => .artifactNotFound
  | .notFound .user _ => .userNotFound
  | .notFound .group _ => .groupNotFound
  | .notFound .choice _ => .choiceNotFound
  | .notFound _ _ => .internal
  | .sql _ => .persistenceFailure
  | .corrupt _ => .corruptStore

/-- A thing of kind `entity` with id `id` is not there. -/
def missing (entity : Entity) (id : Int) : StoreError :=
  .notFound entity (toString id)

end StoreError
end ListField
