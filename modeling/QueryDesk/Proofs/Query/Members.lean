import QueryDesk.Query.Merge

/-!
# Laws of objects

An object with distinct keys is known by what its keys hold. Writing keeps keys distinct, and an
object that pairs make holds under each key what the pairs say last.
-/

namespace QueryDesk.Members

theorem get?_cons (key other : String) (value : Value) (members : Members) :
    get? key ((other, value) :: members) =
      if key = other then some value else get? key members := by
  rw [get?, List.lookup_cons]
  by_cases same : key = other
  · simp [same]
  · have differs : (key == other) = false := by simpa using same
    simp [same, differs, get?]

theorem mem_of_get? {key : String} {value : Value} {members : Members}
    (holds : get? key members = some value) : (key, value) ∈ members := by
  induction members with
  | nil => cases holds
  | cons member rest ih =>
    obtain ⟨other, v⟩ := member
    rw [get?_cons] at holds
    split at holds
    · rename_i same
      cases holds
      rw [same]
      exact List.mem_cons_self
    · exact List.mem_cons_of_mem _ (ih holds)

theorem get?_eq_none_of_notMem {key : String} {members : Members} (absent : key ∉ keys members) :
    get? key members = none := by
  cases holds : get? key members with
  | none => rfl
  | some value =>
    have mem : key ∈ keys members := List.mem_map_of_mem (f := Prod.fst) (mem_of_get? holds)
    exact absurd mem absent

/-- While keys are distinct, what is in an object is what its keys hold. -/
theorem mem_iff_get? {members : Members} (distinct : (keys members).Nodup) {key : String}
    {value : Value} : (key, value) ∈ members ↔ get? key members = some value := by
  refine ⟨fun mem => ?_, mem_of_get?⟩
  induction members with
  | nil => cases mem
  | cons member rest ih =>
    obtain ⟨other, v⟩ := member
    obtain ⟨fresh, distinct⟩ := List.nodup_cons.mp distinct
    rw [get?_cons]
    rcases List.mem_cons.mp mem with same | later
    · cases same
      rw [if_pos rfl]
    · have ne : key ≠ other := fun same =>
        fresh (List.mem_map.mpr ⟨(key, value), later, same⟩)
      rw [if_neg ne]
      exact ih distinct later

theorem mem_keys_iff {members : Members} (distinct : (keys members).Nodup) {key : String} :
    key ∈ keys members ↔ (get? key members).isSome = true := by
  simp [keys, mem_iff_get? distinct, Option.isSome_iff_exists]

theorem get?_set (key other : String) (value : Value) (members : Members) :
    get? other (set key value members) =
      if other = key then some value else get? other members := by
  split
  · rename_i same
    rw [same, get?_set_self]
  · rename_i ne
    exact get?_set_of_ne ne value members

theorem nodup_keys_of_single {members : Members}
    (single : members = [] ∨ ∃ pair, members = [pair]) : (keys members).Nodup := by
  rcases single with rfl | ⟨pair, rfl⟩
  · exact List.Pairwise.nil
  · exact List.pairwise_singleton _ _

theorem nodup_keys_set {members : Members} (distinct : (keys members).Nodup) (key : String)
    (value : Value) : (keys (set key value members)).Nodup := by
  rw [keys_set]
  split
  · exact distinct
  · rename_i fresh
    rw [List.nodup_append]
    refine ⟨distinct, List.pairwise_singleton _ _, fun a mem b mem' same => ?_⟩
    rw [List.mem_singleton] at mem'
    exact fresh (mem' ▸ same ▸ mem)

/-- Pairs written one after the other. -/
def write (members pairs : Members) : Members :=
  pairs.foldl (fun members pair => set pair.1 pair.2 members) members

theorem ofPairs_eq (pairs : Members) : ofPairs pairs = write [] pairs := rfl

theorem write_append (members pairs more : Members) :
    write members (pairs ++ more) = write (write members pairs) more :=
  List.foldl_append

theorem nodup_keys_write {members : Members} (distinct : (keys members).Nodup) (pairs : Members) :
    (keys (write members pairs)).Nodup := by
  induction pairs generalizing members with
  | nil => exact distinct
  | cons pair rest ih => exact ih (nodup_keys_set distinct pair.1 pair.2)

theorem nodup_keys_nil : (keys []).Nodup :=
  List.nodup_nil

theorem nodup_keys_ofPairs (pairs : Members) : (keys (ofPairs pairs)).Nodup :=
  nodup_keys_write nodup_keys_nil pairs

/-- Pairs with distinct keys replace what their keys held. -/
theorem get?_write {pairs : Members} (distinct : (keys pairs).Nodup) (key : String)
    (members : Members) :
    get? key (write members pairs) = (get? key pairs).or (get? key members) := by
  induction pairs generalizing members with
  | nil => rfl
  | cons pair rest ih =>
    obtain ⟨other, value⟩ := pair
    obtain ⟨fresh, distinct⟩ := List.nodup_cons.mp distinct
    have later := ih distinct (set other value members)
    rw [get?_set] at later
    rw [get?_cons]
    refine later.trans ?_
    split
    · rename_i same
      rw [same, get?_eq_none_of_notMem fresh]
      rfl
    · rfl

theorem forall_mem_set {property : String × Value → Prop} {members : Members} {key : String}
    {value : Value} (held : ∀ m ∈ members, property m) (own : property (key, value)) :
    ∀ m ∈ set key value members, property m := by
  induction members with
  | nil => simpa [set] using own
  | cons member others ih =>
    obtain ⟨other, former⟩ := member
    rw [List.forall_mem_cons] at held
    dsimp only [set]
    split
    · rename_i same
      rw [List.forall_mem_cons, same]
      exact ⟨own, held.2⟩
    · rw [List.forall_mem_cons]
      exact ⟨held.1, ih held.2⟩

theorem forall_mem_write {property : String × Value → Prop} {members pairs : Members}
    (held : ∀ m ∈ members, property m) (given : ∀ p ∈ pairs, property p) :
    ∀ m ∈ write members pairs, property m := by
  induction pairs generalizing members with
  | nil => exact held
  | cons pair rest ih =>
    rw [List.forall_mem_cons] at given
    exact ih (forall_mem_set held given.1) given.2

end QueryDesk.Members

namespace QueryDesk.Contribution

open Members

theorem merged_pair (source other : String) (first second : Members) :
    merged [⟨source, first⟩, ⟨other, second⟩] = write (write [] first) second := by
  have writes_eq : (writes [⟨source, first⟩, ⟨other, second⟩]).map (fun w => (w.key, w.value)) =
      first ++ second := by
    simp [writes, Function.comp_def]
  rw [merged, writes_eq, ofPairs_eq, write_append]

theorem nodup_keys_merged (contributions : List Contribution) :
    (keys (merged contributions)).Nodup :=
  nodup_keys_ofPairs _

/-- The second of two contributions wins. -/
theorem get?_merged (source other : String) {first second : Members}
    (distinct : (keys first).Nodup) (distinct' : (keys second).Nodup) (key : String) :
    get? key (merged [⟨source, first⟩, ⟨other, second⟩]) =
      (get? key second).or (get? key first) := by
  rw [merged_pair, get?_write distinct', get?_write distinct]
  congr 1
  exact Option.or_none

end QueryDesk.Contribution
