import Mathlib.Data.List.Nodup
import QueryDesk.Store.Select

/-!
# Rows with their authors

The only association that a listing of users or posts ever joins leads from a post to its author.
While ids of users differ, a post has at most one author, so the join neither drops nor repeats a
post.
-/

namespace QueryDesk

/-- No two rows of a table are stored under the same id. -/
def Database.Keyed (db : Database) : Prop :=
  ∀ e, ((db.rows e).map (·.id.hex)).Nodup

/-- The user that a post names as its author, if there is one. -/
def Database.author? (db : Database) : Row → Option Row
  | .post p => (db.users.find? (·.id.hex == p.userId.hex)).map .user
  | _ => none

/-- The join of the author of a post. -/
def authorJoin : Join :=
  ⟨["user"], ⟨"user", .user, "user_id", "id"⟩⟩

/-- Among elements with distinct keys, those of a key are the first one. -/
theorem filter_eq_find?_of_nodup {α β : Type} [BEq β] [LawfulBEq β] {key : α → β}
    {xs : List α}
    (distinct : (xs.map key).Nodup) (k : β) :
    xs.filter (key · == k) = (xs.find? (key · == k)).toList := by
  induction xs with
  | nil => rfl
  | cons x rest ih =>
    obtain ⟨fresh, distinct⟩ := List.nodup_cons.mp distinct
    cases same : key x == k with
    | true =>
      have none_left : rest.filter (key · == k) = [] := by
        rw [List.filter_eq_nil_iff]
        intro y mem same'
        rw [beq_iff_eq] at same same'
        exact fresh (List.mem_map.mpr ⟨y, mem, same'.trans same.symm⟩)
      rw [List.filter_cons, List.find?_cons, same, if_pos rfl, none_left]
      rfl
    | false =>
      rw [List.filter_cons, List.find?_cons, same, if_neg Bool.false_ne_true]
      exact ih distinct

theorem Cell.compareText_eq_iff {a b : List Char} : compareText a b = .eq ↔ a = b := by
  induction a generalizing b with
  | nil => cases b <;> simp [compareText]
  | cons c rest ih =>
    cases b with
    | nil => simp [compareText]
    | cons d rest' =>
      rw [compareText, Ordering.then_eq_eq, ih, Nat.compare_eq_eq, Char.toNat_inj, List.cons.injEq]

theorem Cell.compare?_text_eq_iff {a b : List Char} :
    (Cell.compare? (.text a) (.text b) == some .eq) = true ↔ a = b := by
  rw [beq_iff_eq, Cell.compare?, Option.some.injEq, Cell.order, compareText_eq_iff]
  all_goals simp

namespace Plan

theorem associated_author {db : Database} (keyed : db.Keyed) (p : Post) :
    associated db authorJoin.association (some (.post p)) = (db.author? (.post p)).toList := by
  have same_user : ∀ u : User,
      (Cell.compare? ((Row.post p).cell authorJoin.association.sourceColumn)
        ((Row.user u).cell authorJoin.association.targetColumn) == some .eq) =
      (u.id.hex == p.userId.hex) := by
    intro u
    have meaning : (Cell.compare? (.text p.userId.hex) (.text u.id.hex) == some .eq) = true ↔
        (u.id.hex == p.userId.hex) = true := by
      rw [Cell.compare?_text_eq_iff, beq_iff_eq, eq_comm]
    exact Bool.eq_iff_iff.mpr meaning
  have users : associated db authorJoin.association (some (.post p)) =
      (db.users.map Row.user).filter fun t =>
        Cell.compare? ((Row.post p).cell authorJoin.association.sourceColumn)
          (t.cell authorJoin.association.targetColumn) == some .eq := rfl
  have distinct : (db.users.map (·.id.hex)).Nodup := by
    have rows := keyed .user
    rwa [Database.rows, List.map_map] at rows
  rw [users, List.filter_map, Function.comp_def]
  simp only [same_user]
  rw [filter_eq_find?_of_nodup distinct, Database.author?]
  cases db.users.find? (·.id.hex == p.userId.hex) <;> rfl

/-- A row with the rows that joins of its author add. -/
def extended (db : Database) (root : Entity) (joins : List Join) (row : Row) : JoinedRow :=
  (root, some row) :: joins.map fun _ => (.user, db.author? row)

theorem joinOnto_author {db : Database} (keyed : db.Keyed) (p : Post) :
    joinOnto db authorJoin .post [(.post, some (.post p))] =
      [extended db .post [authorJoin] (.post p)] := by
  have found := associated_author keyed p
  have source : (List.lookup Entity.post [(Entity.post, some (Row.post p))]).join =
      some (.post p) := rfl
  rw [joinOnto, source, found, extended]
  cases db.author? (.post p) <;> rfl

/-- The plan reads one entity, or posts with their authors. -/
structure Reads (plan : Plan) (root : Entity) : Prop where
  entity : plan.entity = root
  joins : plan.joins = [] ∨ (root = .post ∧ plan.joins = [authorJoin])

/-- Joining gives each row of the plan's entity once. -/
theorem Reads.joinedRows_eq {plan : Plan} {root : Entity} (reads : Reads plan root) {db : Database}
    (keyed : db.Keyed) :
    joinedRows db plan = (db.rows root).map (extended db root plan.joins) := by
  rcases reads.joins with none | ⟨isPost, author⟩
  · rw [joinedRows, none, reads.entity]
    rfl
  · subst isPost
    have source : sourceOf .post [authorJoin] authorJoin = .post := rfl
    rw [joinedRows, author, reads.entity, List.foldl_cons, List.foldl_nil, source, Database.rows,
      List.map_map, List.flatMap_map, List.map_map]
    induction db.posts with
    | nil => rfl
    | cons p rest ih =>
      rw [List.flatMap_cons, List.map_cons, ih]
      exact congrArg (· ++ _) (joinOnto_author keyed p)

end Plan

end QueryDesk
