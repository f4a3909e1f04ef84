import QueryDesk.Proofs.Value.Plain
import QueryDesk.Service.Basic

/-!
# Listings are JSON-ready

The columns of a row always have JSON-ready forms, so a listing shows each of its rows. Nothing that
it shows is of a kind that JSON lacks, and no list request fails for that reason.
-/

namespace QueryDesk

variable {v : Value} {property : Value → Prop}

namespace Row

/-- No column holds another value within its own, or a signaling NaN. -/
theorem columns_are_leaves (r : Row) :
    ∀ column ∈ r.members, column.2.children = [] ∧ column.2.isSignalingNan = false := by
  cases r with
  | user | otpSession => simp [members, storedMoment, Value.children, Value.isSignalingNan]
  | post p =>
    cases body : p.body <;>
      simp [members, storedMoment, body, Value.children, Value.isSignalingNan]

theorem plain_members (r : Row) : (Value.object r.members).plain = .ok r.item := by
  have form : (Value.object r.members).HasForm := by
    refine Value.hasForm_iff.mpr ⟨rfl, fun child mem => ?_⟩
    obtain ⟨column, among, rfl⟩ := List.mem_map.mp mem
    obtain ⟨hollow, number⟩ := r.columns_are_leaves column among
    exact Value.hasForm_iff_throughout.mpr (Value.throughout_of_leaf hollow number)
  obtain ⟨w, given⟩ := form
  rw [item, given]

/-- A row is shown by a JSON-ready form of its members. -/
theorem item_isFormOf (r : Row) : r.item.IsFormOf (.object r.members) :=
  Value.isFormOf_of_plain r.plain_members

end Row

theorem Listing.value_isJsonReady (l : Listing) : l.value.IsJsonReady := by
  have items : (Value.list (l.items.map Row.item)).IsJsonReady := by
    refine Value.throughout_iff.mpr ⟨rfl, fun child mem => ?_⟩
    obtain ⟨row, -, rfl⟩ := List.mem_map.mp mem
    exact row.item_isFormOf.ready
  have number (n : Int) : (Value.int n).IsJsonReady := Value.throughout_of_leaf rfl rfl
  have limit : ((l.limit.map Value.int).getD .null).IsJsonReady := by
    cases l.limit with
    | none => exact Value.throughout_of_leaf rfl rfl
    | some n => exact number n
  refine Value.throughout_iff.mpr ⟨rfl, ?_⟩
  simp only [Value.children, value, List.map_cons, List.map_nil, List.forall_mem_cons]
  exact ⟨items, number _, limit, number _, List.forall_mem_nil _⟩

namespace Json

theorem leavesOfItems_eq (items : List Value) : leavesOfItems items = items.flatMap leaves := by
  induction items with
  | nil => rfl
  | cons item rest ih => rw [leavesOfItems, ih, List.flatMap_cons]

theorem leavesOfMembers_eq (members : Members) :
    leavesOfMembers members = (members.map Prod.snd).flatMap leaves := by
  induction members with
  | nil => rfl
  | cons member rest ih => rw [leavesOfMembers, ih, List.map_cons, List.flatMap_cons]

theorem leaves_cases (v : Value) : leaves v = [v] ∨ leaves v = v.children.flatMap leaves := by
  cases v with
  | list items => exact .inr (leavesOfItems_eq items)
  | tuple items => exact .inr (leavesOfItems_eq items)
  | object members => exact .inr (leavesOfMembers_eq members)
  | _ => exact .inl rfl

/-- What holds throughout a value holds of its leaves. -/
theorem forall_mem_leaves (all : v.Throughout property) : ∀ leaf ∈ leaves v, property leaf := by
  induction v using Value.induction_on_children with
  | step v ih =>
    obtain ⟨own, within⟩ := Value.throughout_iff.mp all
    intro leaf mem
    rcases leaves_cases v with alone | further
    · rw [alone, List.mem_singleton] at mem
      exact mem ▸ own
    · rw [further, List.mem_flatMap] at mem
      obtain ⟨child, among, mem⟩ := mem
      exact ih child among (within child among) leaf mem

theorem formFault?_ne_kind (kind : v.isJsonKind = true) : formFault? v ≠ some .kind := by
  cases v with
  | int n =>
    rw [formFault?]
    split <;> simp
  | float x =>
    rw [formFault?]
    split <;> simp
  | decimal | uuid | moment | date => cases kind
  | _ => exact nofun

/-- A JSON-ready value is not refused for a kind. -/
theorem writeFault?_ne_kind (ready : v.IsJsonReady) : writeFault? v ≠ some .kind := by
  intro refused
  rcases Option.or_eq_some_iff.mp refused with found | ⟨-, found⟩
  · obtain ⟨leaf, mem, fault⟩ := List.exists_of_findSome?_eq_some found
    exact formFault?_ne_kind (forall_mem_leaves ready leaf mem) fault
  · split at found <;> cases found

end Json

/-- No list request ends because its answer holds a value of a kind that JSON lacks. -/
theorem Service.list_ne_kind (s : Service) (resource : Resource) (r : Http.Request) :
    s.list resource r ≠ .error (.write .kind) := by
  unfold Service.list
  split
  · rename_i listing listed
    have written := Json.writeFault?_ne_kind listing.value_isJsonReady
    unfold Answer.json
    split
    · exact nofun
    · rename_i fault refused
      intro same
      cases same
      exact written refused
  · exact nofun

end QueryDesk
