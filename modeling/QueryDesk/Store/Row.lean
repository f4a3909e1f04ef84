import QueryDesk.Store.Cell
import QueryDesk.Time.Moment

/-!
# Rows

The rows of the three tables, the cells that their columns hold, and the members that a row has in
an answer. Stored moments have no zone. A table stands in the order in which the store visits its
rows, which nothing that is asked of the store fixes.
-/

namespace QueryDesk

/-- A user. -/
structure User where
  id : Uuid
  fullName : String
  email : String
  role : String := "member"
  status : String := "active"
  balance : Binary64 := .finite false 0
  createdAt : Moment
  updatedAt : Moment
  deriving DecidableEq, Repr

/-- A post of a user. -/
structure Post where
  id : Uuid
  userId : Uuid
  title : String
  body : Option String := none
  status : String := "draft"
  views : Int := 0
  createdAt : Moment
  updatedAt : Moment
  deriving DecidableEq, Repr

/-- A one-time code that was sent for a purpose to an address. -/
structure OtpSession where
  id : Uuid
  purpose : String
  email : String
  /-- The code; nothing reads it but the check of a submitted one. -/
  code : String
  attempts : Int := 0
  createdAt : Moment
  updatedAt : Moment
  expiresAt : Moment
  deriving DecidableEq, Repr

/-- A row of any table. -/
inductive Row where
  | user (u : User)
  | post (p : Post)
  | otpSession (s : OtpSession)
  deriving DecidableEq, Repr

/-- The tables, each in the order in which the store visits its rows. -/
structure Database where
  users : List User := []
  posts : List Post := []
  otpSessions : List OtpSession := []

/-- The rows of an entity, as they are visited. -/
def Database.rows (db : Database) : Entity → List Row
  | .user => db.users.map .user
  | .post => db.posts.map .post
  | .otpSession => db.otpSessions.map .otpSession

namespace Row

/-- A text as a cell. -/
def textCell (s : String) : Cell :=
  .text s.toList

/-- A UUID as a cell: its digits. -/
def uuidCell (u : Uuid) : Cell :=
  .text u.hex

/-- A moment as a cell. -/
def momentCell (m : Moment) : Cell :=
  .text m.storedText

/-- The id of a row. -/
def id : Row → Uuid
  | user u => u.id
  | post p => p.id
  | otpSession s => s.id

/-- The cell of a column; a name that is no column has none. -/
def cell : Row → String → Cell
  | user u, "id" => uuidCell u.id
  | user u, "full_name" => textCell u.fullName
  | user u, "email" => textCell u.email
  | user u, "role" => textCell u.role
  | user u, "status" => textCell u.status
  | user u, "balance" => .ofStored u.balance
  | user u, "created_at" => momentCell u.createdAt
  | user u, "updated_at" => momentCell u.updatedAt
  | post p, "id" => uuidCell p.id
  | post p, "user_id" => uuidCell p.userId
  | post p, "title" => textCell p.title
  | post p, "body" => (p.body.map textCell).getD .null
  | post p, "status" => textCell p.status
  | post p, "views" => .int p.views
  | post p, "created_at" => momentCell p.createdAt
  | post p, "updated_at" => momentCell p.updatedAt
  | otpSession s, "id" => uuidCell s.id
  | otpSession s, "purpose" => textCell s.purpose
  | otpSession s, "email" => textCell s.email
  | otpSession s, "code_hash" => textCell s.code
  | otpSession s, "attempts" => .int s.attempts
  | otpSession s, "expires_at" => momentCell s.expiresAt
  | otpSession s, "created_at" => momentCell s.createdAt
  | otpSession s, "updated_at" => momentCell s.updatedAt
  | _, _ => .null

/-- A stored moment as a value: its zone is lost. -/
def storedMoment (m : Moment) : Value :=
  .moment m.unzoned

/-- The columns of a row with their values, amounts having two decimal places. -/
def members : Row → Members
  | user u => [("id", .uuid u.id), ("created_at", storedMoment u.createdAt),
      ("updated_at", storedMoment u.updatedAt), ("full_name", .text u.fullName),
      ("email", .text u.email), ("role", .text u.role), ("status", .text u.status),
      ("balance", .float ((Cell.unsignedZero u.balance).roundPlaces 2))]
  | post p => [("id", .uuid p.id), ("created_at", storedMoment p.createdAt),
      ("updated_at", storedMoment p.updatedAt), ("user_id", .uuid p.userId),
      ("title", .text p.title), ("body", (p.body.map .text).getD .null),
      ("status", .text p.status), ("views", .int p.views)]
  | otpSession s => [("id", .uuid s.id), ("created_at", storedMoment s.createdAt),
      ("updated_at", storedMoment s.updatedAt), ("purpose", .text s.purpose),
      ("email", .text s.email), ("code_hash", .text s.code), ("attempts", .int s.attempts),
      ("expires_at", storedMoment s.expiresAt)]

end Row

end QueryDesk
