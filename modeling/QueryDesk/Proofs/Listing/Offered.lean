import QueryDesk.Proofs.Listing.Demands
import QueryDesk.Proofs.Store.Joined
import QueryDesk.Store.Listing

/-!
# The offered resources

Users and posts are offered with a handful of fields. Each of them leads to a column of the resource
itself, or from a post to a column of its author, so that a plan of theirs joins authors at most.
-/

namespace QueryDesk

/-! ## Tokens of fields -/

namespace FieldPath

theorem toList_token (field : String) : (token field).toList =
    if field.toList.contains '.' then '$' :: field.toList ++ ['$'] else field.toList := by
  unfold token
  split
  · exact String.toList_ofList
  · rfl

theorem contains_token (field : String) :
    (token field).toList.contains '.' = field.toList.contains '.' := by
  rw [toList_token]
  split
  · rename_i dotted
    rw [dotted]
    simp at dotted
    simp [dotted]
  · rfl

theorem token_injective : Function.Injective token := by
  intro one two same
  have dots : one.toList.contains '.' = two.toList.contains '.' := by
    rw [← contains_token one, ← contains_token two, same]
  have texts := congrArg String.toList same
  rw [toList_token, toList_token, dots] at texts
  apply String.toList_inj.mp
  split at texts
  · exact List.append_cancel_right (List.cons.inj texts).2
  · exact texts

end FieldPath

/-- The column that a field names: one of the entity itself or, after the name of an association,
    one of the associated entity. -/
def fieldColumn? (e : Entity) (field : String) : Option ColumnRef :=
  match (Text.splitAt '.' field.toList).map String.ofList with
  | [name] => (e.column? name).map (⟨e, ·⟩)
  | [via, name] => (e.association? via).bind fun association =>
      (association.target.column? name).map (⟨association.target, ·⟩)
  | _ => none

/-- The name of a column of the entity itself is its own token and no key of a group. -/
theorem Entity.own_column {e : Entity} {field : String} {column : Column}
    (own : e.column? field = some column) : column.name = field ∧
      FieldPath.token field = field ∧ resolve e field = ⟨[], some ⟨e, column⟩⟩ ∧
      Combinator.ofKey? field = none := by
  have known : ∀ e : Entity, ∀ c ∈ e.columns, FieldPath.token c.name = c.name ∧
      resolve e c.name = ⟨[], some ⟨e, c⟩⟩ ∧ Combinator.ofKey? c.name = none := by
    intro e
    cases e <;> decide +kernel
  have named : column.name = field := by simpa using List.find?_some own
  refine ⟨named, ?_⟩
  rw [← named]
  exact known e column (List.mem_of_find?_eq_some own)

namespace Plan

/-- A token leads to a column of the entity itself, or by the author of a post to one of users. -/
inductive Near (root : Entity) (token : String) : Prop where
  | own {column} (resolves : resolve root token = ⟨[], some ⟨root, column⟩⟩)
  | author {column} (isPost : root = .post)
      (resolves : resolve root token = ⟨[authorJoin], some ⟨.user, column⟩⟩)

/-- A field leads by its token to the column that it names, and this is near. -/
def isNear (root : Entity) (format : FieldPath.Format) (field : String) : Bool :=
  match resolve root (format field) with
  | ⟨[], some column⟩ => column.entity == root && fieldColumn? root field == some column
  | ⟨[join], some column⟩ => root == .post && join == authorJoin && column.entity == .user &&
      fieldColumn? root field == some column
  | _ => false

theorem near_of_isNear {root : Entity} {format : FieldPath.Format} {field : String}
    (near : isNear root format field = true) : Near root (format field) := by
  unfold isNear at near
  split at near
  · rename_i column resolves
    obtain ⟨e, c⟩ := column
    simp only [Bool.and_eq_true, beq_iff_eq] at near
    obtain ⟨rfl, -⟩ := near
    exact .own resolves
  · rename_i join column resolves
    obtain ⟨e, c⟩ := column
    simp only [Bool.and_eq_true, beq_iff_eq] at near
    obtain ⟨⟨⟨isPost, rfl⟩, rfl⟩, -⟩ := near
    exact .author isPost resolves
  · cases near

theorem column?_of_isNear {root : Entity} {format : FieldPath.Format} {field : String}
    (near : isNear root format field = true) :
    (resolve root (format field)).column? = fieldColumn? root field ∧
      ((resolve root (format field)).column?).isSome = true := by
  unfold isNear at near
  split at near
  · rename_i column resolves
    simp only [Bool.and_eq_true, beq_iff_eq] at near
    rw [resolves, near.2]
    exact ⟨rfl, rfl⟩
  · rename_i join column resolves
    simp only [Bool.and_eq_true, beq_iff_eq] at near
    rw [resolves, near.2]
    exact ⟨rfl, rfl⟩
  · cases near

/-! ## Joins and cells of near tokens -/

theorem addJoins_authors {joined more : List Join}
    (joined_authors : joined = [] ∨ joined = [authorJoin])
    (authors : ∀ join ∈ more, join = authorJoin) :
    addJoins joined more = if joined = [] ∧ more = [] then [] else [authorJoin] := by
  induction more generalizing joined with
  | nil => rcases joined_authors with rfl | rfl <;> simp [addJoins]
  | cons join rest ih =>
    obtain rfl := authors join List.mem_cons_self
    have rest_authors : ∀ join ∈ rest, join = authorJoin :=
      fun join mem => authors join (List.mem_cons_of_mem _ mem)
    have first : addJoins joined (authorJoin :: rest) = addJoins [authorJoin] rest := by
      rcases joined_authors with rfl | rfl <;> simp [addJoins]
    rw [first, ih (.inr rfl) rest_authors]
    simp

/-- Near tokens need no join but that of the author. -/
theorem joinsOf_near {root : Entity} {tokens : List String}
    (near : ∀ token ∈ tokens, Near root token) :
    (∀ join ∈ joinsOf root tokens, join = authorJoin) ∧
      (joinsOf root tokens ≠ [] → root = .post) := by
  constructor
  · intro join mem
    obtain ⟨token, inTokens, joins⟩ := List.mem_flatMap.mp mem
    cases near token inTokens with
    | own resolves =>
      rw [resolves] at joins
      cases joins
    | author isPost resolves =>
      rw [resolves] at joins
      exact List.mem_singleton.mp joins
  · intro nonempty
    obtain ⟨join, mem⟩ := List.exists_mem_of_ne_nil _ nonempty
    obtain ⟨token, inTokens, joins⟩ := List.mem_flatMap.mp mem
    cases near token inTokens with
    | own resolves =>
      rw [resolves] at joins
      cases joins
    | author isPost resolves => exact isPost

/-- A plan whose tokens are near reads its entity, with authors at most. -/
theorem Planned.reads {root : Entity} {spec : QuerySpec} {plan : Plan}
    (planned : Planned root spec plan) (near : ∀ token ∈ specTokens spec, Near root token) :
    Reads plan root := by
  obtain ⟨authors, isPost⟩ := joinsOf_near near
  refine ⟨planned.entity, ?_⟩
  rw [planned.joins, addJoins_authors (.inl rfl) authors]
  split
  · exact .inl rfl
  · rename_i joins
    refine .inr ⟨isPost fun none => joins ⟨rfl, none⟩, rfl⟩

/-- The cell of a column for a row of an entity: of its own, or for another entity's column of its
    author, null without one. -/
def cellAt (db : Database) (root : Entity) (row : Row) (c : ColumnRef) : Cell :=
  if c.entity = root then row.cell c.column.name
  else ((db.author? row).map (·.cell c.column.name)).getD .null

/-- A plan has the cells of a row and its author at the end of its tokens. -/
theorem Planned.agree {root : Entity} {spec : QuerySpec} {plan : Plan}
    (planned : Planned root spec plan) (near : ∀ token ∈ specTokens spec, Near root token)
    (db : Database) (row : Row) :
    Agree root (specTokens spec) (extended db root plan.joins row).cell (cellAt db root row) := by
  intro token mem c leads
  cases near token mem with
  | own resolves =>
    rw [resolves] at leads
    cases leads
    simp [JoinedRow.cell, extended, cellAt]
  | author isPost resolves =>
    rw [resolves] at leads
    cases leads
    have joins : plan.joins = [authorJoin] := by
      obtain ⟨authors, -⟩ := joinsOf_near near
      rw [planned.joins, addJoins_authors (.inl rfl) authors, if_neg]
      rintro ⟨-, none⟩
      have here : authorJoin ∈ joinsOf root (specTokens spec) :=
        List.mem_flatMap.mpr ⟨token, mem, by rw [resolves]; exact List.mem_cons_self⟩
      rw [none] at here
      cases here
    rw [joins, isPost]
    cases author : db.author? row with
    | none => simp only [JoinedRow.cell, extended, cellAt, author]; rfl
    | some found => simp only [JoinedRow.cell, extended, cellAt, author]; rfl

end Plan

/-! ## Offered resources -/

/-- The fields of a resource that a request can reach. -/
def Resource.fields (r : Resource) : List String :=
  r.config.searchFields ++ r.config.sortFields ++ r.config.filterFields

/-- A resource may be offered when each of its fields is near and has no token of a group, and a
    search asks all of its fields. -/
structure Offered (r : Resource) : Prop where
  format : r.format = FieldPath.token
  near : ∀ field ∈ r.fields, Plan.isNear r.entity r.format field = true
  single : ∀ field ∈ r.fields, Combinator.ofKey? (r.format field) = none
  searchesAll : r.config.searchCombinator = .all

theorem offered_users : Offered .users := by
  refine ⟨rfl, ?_, ?_, rfl⟩ <;> decide +kernel

theorem offered_posts : Offered .posts := by
  refine ⟨rfl, ?_, ?_, rfl⟩ <;> decide +kernel

/-- Both resources of the service may be offered. -/
theorem offered_of_shipped {r : Resource} (shipped : r = .users ∨ r = .posts) : Offered r := by
  rcases shipped with rfl | rfl
  · exact offered_users
  · exact offered_posts

theorem Offered.apart {r : Resource} (offered : Offered r) {field : String} (mem : field ∈ r.fields)
    (combinator : Combinator) : r.format field ≠ combinator.key := by
  intro same
  have none := offered.single field mem
  rw [same, Plan.ofKey?_key] at none
  cases none

end QueryDesk
