/-!
# The catalog

The entities that are stored, their columns and their associations. An association leads from an
entity to another one by a column that holds the other's key on one of the two sides.
-/

namespace QueryDesk

/-- A kind of stored row. -/
inductive Entity where
  | user
  | post
  | otpSession
  deriving DecidableEq, Repr

/-- What a column holds. -/
inductive ColumnKind where
  | uuid
  | text
  | whole
  | decimal
  | moment
  deriving DecidableEq, Repr

/-- A column of an entity. -/
structure Column where
  name : String
  kind : ColumnKind
  deriving DecidableEq, Repr

/-- A way from an entity to its associated rows: rows belong together when the source's column
    equals the target's. -/
structure Association where
  name : String
  target : Entity
  sourceColumn : String
  targetColumn : String
  deriving DecidableEq, Repr

namespace Entity

/-- The name of an entity. -/
def name : Entity → String
  | user => "User"
  | post => "Post"
  | otpSession => "OtpSession"

/-- The name of the table of an entity. -/
def table : Entity → String
  | user => "users"
  | post => "posts"
  | otpSession => "otp_sessions"

/-- The columns that every entity has. -/
def commonColumns : List Column :=
  [⟨"id", .uuid⟩, ⟨"created_at", .moment⟩, ⟨"updated_at", .moment⟩]

/-- The columns of an entity. -/
def columns : Entity → List Column
  | user => commonColumns ++ [⟨"full_name", .text⟩, ⟨"email", .text⟩, ⟨"role", .text⟩,
      ⟨"status", .text⟩, ⟨"balance", .decimal⟩]
  | post => commonColumns ++ [⟨"user_id", .uuid⟩, ⟨"title", .text⟩, ⟨"body", .text⟩,
      ⟨"status", .text⟩, ⟨"views", .whole⟩]
  | otpSession => commonColumns ++ [⟨"purpose", .text⟩, ⟨"email", .text⟩, ⟨"code_hash", .text⟩,
      ⟨"attempts", .whole⟩, ⟨"expires_at", .moment⟩]

/-- The associations of an entity. -/
def associations : Entity → List Association
  | user => [⟨"posts", .post, "id", "user_id"⟩]
  | post => [⟨"user", .user, "user_id", "id"⟩]
  | otpSession => []

/-- The column of a name. -/
def column? (e : Entity) (name : String) : Option Column :=
  e.columns.find? (·.name == name)

/-- The association of a name. -/
def association? (e : Entity) (name : String) : Option Association :=
  e.associations.find? (·.name == name)

end Entity

/-- A column together with its entity. -/
structure ColumnRef where
  entity : Entity
  column : Column
  deriving DecidableEq, Repr

namespace ColumnRef

/-- The column as log lines name it. -/
def label (c : ColumnRef) : String :=
  s!"{c.entity.name}.{c.column.name}"

/-- The column as statements name it. -/
def qualified (c : ColumnRef) : String :=
  s!"{c.entity.table}.{c.column.name}"

end ColumnRef

end QueryDesk
