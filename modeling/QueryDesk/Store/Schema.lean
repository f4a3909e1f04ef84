import QueryDesk.Catalog

/-!
# The schema of the database

The tables as the database describes them. They are made in one of two ways: directly from the
declarations when the service connects, or by the migration. The two ways differ in the type of ids,
in defaults, in whether moments may be null, and in how addresses of users are kept unique.
-/

namespace QueryDesk.Schema

/-- A column as the database describes it. -/
structure TableColumn where
  name : String
  type : String
  nullable : Bool := false
  default? : Option String := none
  deriving DecidableEq, Repr

/-- Columns that hold the key of another table. -/
structure ForeignKey where
  columns : List String
  table : String
  targets : List String
  deriving DecidableEq, Repr

/-- An index. -/
structure TableIndex where
  name : String
  columns : List String
  unique : Bool := false
  deriving DecidableEq, Repr

/-- A table as the database describes it; its indexes are sorted by name. -/
structure Table where
  name : String
  columns : List TableColumn
  primaryKey : List String := ["id"]
  foreignKeys : List ForeignKey := []
  indexes : List TableIndex := []
  /-- The groups of columns whose values are unique without an index of their own. -/
  unique : List (List String) := []
  deriving DecidableEq, Repr

/-- How tables are made. -/
inductive Origin where
  | declared
  | migrated
  deriving DecidableEq, Repr

namespace Origin

/-- A column of UUIDs. -/
def uuid (o : Origin) (name : String) : TableColumn :=
  ⟨name, if o = .migrated then "NUMERIC" else "CHAR(32)", false, none⟩

/-- A column of moments. -/
def moment (o : Origin) (name : String) : TableColumn :=
  ⟨name, "DATETIME", o = .migrated, none⟩

/-- A column with a default, in quotes, that only the migration writes into the database. -/
def column (o : Origin) (name type default : String) : TableColumn :=
  ⟨name, type, false, if o = .migrated then some default else none⟩

/-- The columns that every table has. -/
def commonColumns (o : Origin) : List TableColumn :=
  [o.uuid "id", o.moment "created_at", o.moment "updated_at"]

end Origin

/-- The type of texts of a width. -/
def varchar (width : Nat) : String :=
  s!"VARCHAR({width})"

/-- A column of texts of a width. -/
def textColumn (name : String) (width : Nat) : TableColumn :=
  ⟨name, varchar width, false, none⟩

/-- The index of one column of a table. -/
def index (table column : String) (unique : Bool := false) : TableIndex :=
  ⟨s!"ix_{table}_{column}", [column], unique⟩

/-- The columns of an entity. -/
def columns (o : Origin) : Entity → List TableColumn
  | .user => o.commonColumns ++ [textColumn "full_name" 200, textColumn "email" 255,
      o.column "role" (varchar 30) "'member'", o.column "status" (varchar 30) "'active'",
      o.column "balance" "NUMERIC(12, 2)" "'0'"]
  | .post => o.commonColumns ++ [o.uuid "user_id", textColumn "title" 200,
      ⟨"body", "TEXT", true, none⟩, o.column "status" (varchar 30) "'draft'",
      o.column "views" "INTEGER" "'0'"]
  | .otpSession => o.commonColumns ++ [textColumn "purpose" 30, textColumn "email" 255,
      textColumn "code_hash" 255, o.column "attempts" "INTEGER" "'0'", o.moment "expires_at"]

/-- The foreign keys of an entity. -/
def foreignKeys : Entity → List ForeignKey
  | .post => [⟨["user_id"], "users", ["id"]⟩]
  | .user | .otpSession => []

/-- The indexes of an entity. -/
def indexes (o : Origin) : Entity → List TableIndex
  | .user => [index "users" "created_at", index "users" "email" (o = .declared),
      index "users" "status"]
  | .post => [index "posts" "created_at", index "posts" "user_id"]
  | .otpSession => [index "otp_sessions" "created_at", index "otp_sessions" "email"]

/-- The table of an entity. -/
def table (o : Origin) (e : Entity) : Table where
  name := e.table
  columns := columns o e
  foreignKeys := foreignKeys e
  indexes := indexes o e
  unique := if e = .user ∧ o = .migrated then [["email"]] else []

/-- The tables of all entities. -/
def tables (o : Origin) : List Table :=
  [Entity.user, .post, .otpSession].map (table o)

/-- The table in which the migration keeps its version. -/
def versionTable : Table where
  name := "alembic_version"
  columns := [textColumn "version_num" 32]
  primaryKey := ["version_num"]

/-- How far a database has been migrated. -/
inductive Level where
  /-- It was never migrated. -/
  | untouched
  /-- Nothing is left of the migration but the table of its version. -/
  | base
  | latest
  deriving DecidableEq, Repr

/-- A direction of migration. -/
inductive Direction where
  | upgrade
  | downgrade
  deriving DecidableEq, Repr

/-- Migrates to the end of a direction. -/
def Level.migrate (_ : Level) : Direction → Level
  | .upgrade => .latest
  | .downgrade => .base

/-- The tables of a database that was migrated so far. -/
def Level.tables : Level → List Table
  | .untouched => []
  | .base => [versionTable]
  | .latest => versionTable :: Schema.tables .migrated

/-- The tables of a new database after migrations. -/
def migrated (directions : List Direction) : List Table :=
  (directions.foldl Level.migrate Level.untouched).tables

end QueryDesk.Schema
