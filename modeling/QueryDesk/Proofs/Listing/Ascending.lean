import QueryDesk.Proofs.Listing.Reordered
import QueryDesk.Proofs.Listing.Sorted

/-!
# Sort texts

The sort keys of a text are those of its tokens whose key is a sort field. A token that begins with
a hyphen asks for descending order, and its key is empty: no column has an empty token, so that all
rows are in ascending order. The key of a token holds neither a hyphen nor an ampersand, and neither
does any field that is sorted by.
-/

namespace QueryDesk.Sort

/-! ## Keys of tokens -/

/-- The key of a token: the text before its first hyphen, or the token if it has none. -/
inductive KeyOf (token : String) (key : String) : Prop
  | whole (same : token = key) (unmarked : '-' ∉ key.toList)
  | before {rest} (split : token.toList = key.toList ++ '-' :: rest) (unmarked : '-' ∉ key.toList)

/-- The sort keys that a list of tokens asks for: a token whose key is a sort field adds the field's
    token, descending after a hyphen, and any other token adds nothing. -/
inductive Selects (config : ResourceConfig) (format : FieldPath.Format) :
    List String → List OrderClause → Prop
  | nil : Selects config format [] []
  | take {token key direction tokens clauses} (keyOf : KeyOf token key)
      (listed : key ∈ config.sortFields)
      (descends : direction = .desc ↔ token.toList.head? = some '-')
      (onward : Selects config format tokens clauses) :
      Selects config format (token :: tokens) (⟨format key, direction⟩ :: clauses)
  | drop {token key tokens clauses} (keyOf : KeyOf token key) (unlisted : key ∉ config.sortFields)
      (onward : Selects config format tokens clauses) :
      Selects config format (token :: tokens) clauses

variable {config : ResourceConfig} {format : FieldPath.Format} {token : String}

theorem keyOf_key (cs : List Char) : KeyOf (String.ofList cs) (key cs) := by
  have unmarked : '-' ∉ (key cs).toList := by
    intro mem
    rw [key, String.toList_ofList] at mem
    simpa using List.mem_takeWhile_imp mem
  have whole : cs = (key cs).toList ++ cs.dropWhile (· ≠ '-') := by
    rw [key, String.toList_ofList, List.takeWhile_append_dropWhile]
  cases after : cs.dropWhile (· ≠ '-') with
  | nil =>
    rw [after, List.append_nil] at whole
    refine .whole ?_ unmarked
    rw [whole, String.ofList_toList]
    exact congrArg key whole
  | cons c rest =>
    have hyphen := List.head?_dropWhile_not (· ≠ '-') cs
    rw [after] at hyphen whole
    obtain rfl : c = '-' := by simpa using hyphen
    have split : (String.ofList cs).toList = (key cs).toList ++ '-' :: rest := by
      rw [String.toList_ofList]
      exact whole
    exact .before split unmarked

theorem direction_eq_desc_iff {cs : List Char} : direction cs = .desc ↔ cs.head? = some '-' := by
  unfold direction
  split
  · rename_i hyphen
    simp [hyphen]
  · rename_i other
    simp [other]

/-- What is selected of tokens is what they ask for. -/
theorem selects_filter (config : ResourceConfig) (format : FieldPath.Format)
    (tokens : List (List Char)) :
    Selects config format (tokens.map String.ofList)
      ((tokens.filter (config.sortFields.contains <| key ·)).map fun token =>
        ⟨format (key token), direction token⟩) := by
  induction tokens with
  | nil => exact .nil
  | cons token tokens ih =>
    have descends : direction token = .desc ↔ (String.ofList token).toList.head? = some '-' := by
      rw [String.toList_ofList, direction_eq_desc_iff]
    by_cases listed : key token ∈ config.sortFields
    · have kept : config.sortFields.contains (key token) = true := by simpa using listed
      rw [List.filter_cons, if_pos kept]
      exact .take (keyOf_key token) listed descends ih
    · have dropped : ¬ config.sortFields.contains (key token) = true := by simpa using listed
      rw [List.filter_cons, if_neg dropped]
      exact .drop (keyOf_key token) listed ih

/-- The key of a token is a part of it. -/
theorem KeyOf.subset {field : String} (keyOf : KeyOf token field) : field.toList ⊆ token.toList := by
  cases keyOf with
  | whole same _ => exact same ▸ List.Subset.refl _
  | before split _ =>
    rw [split]
    exact List.subset_append_left _ _

/-- A field with a hyphen or an ampersand is the key of no token. -/
theorem not_keyOf {field sort : String} {tokens : List String}
    (marked : '-' ∈ field.toList ∨ '&' ∈ field.toList) (splits : Text.Splits '&' sort tokens) :
    ∀ token ∈ tokens, ¬ KeyOf token field := by
  intro token mem keyOf
  rcases marked with hyphen | ampersand
  · cases keyOf with
    | whole _ unmarked => exact unmarked hyphen
    | before _ unmarked => exact unmarked hyphen
  · exact splits.unmarked token mem (keyOf.subset ampersand)

/-- The sort keys of a sort text. -/
inductive Sorts (config : ResourceConfig) (format : FieldPath.Format) :
    String → List OrderClause → Prop
  | empty : Sorts config format "" []
  | tokens {sort tokens clauses} (nonempty : sort ≠ "") (splits : Text.Splits '&' sort tokens)
      (selects : Selects config format tokens clauses) : Sorts config format sort clauses

theorem order_sorts (config : ResourceConfig) (format : FieldPath.Format) (sort : String) :
    ∃ clauses, order (.text sort) config format = .ok clauses ∧ Sorts config format sort clauses := by
  by_cases empty : sort = ""
  · subst empty
    exact ⟨[], rfl, .empty⟩
  · have truthy : (Value.text sort).isTruthy = true := by simpa [Value.isTruthy] using empty
    refine ⟨ofText sort config format, ?_, .tokens empty (Text.splits_split '&' sort) ?_⟩
    · rw [order, truthy]
      rfl
    · exact selects_filter config format _

/-- A sort key that is descending stands for the empty field. -/
theorem field_of_descends {v : Value} {clauses : List OrderClause} {clause : OrderClause}
    (ordered : order v config format = .ok clauses) (mem : clause ∈ clauses)
    (descends : clause.direction ≠ .asc) : clause.field = format "" := by
  unfold order at ordered
  split at ordered
  · cases ordered
    cases mem
  · split at ordered
    · cases ordered
      obtain ⟨token, -, rfl⟩ := List.mem_map.mp mem
      by_cases empty : key token = ""
      · exact congrArg format empty
      · exact absurd (direction_of_key empty) descends
    · cases ordered

end QueryDesk.Sort

namespace QueryDesk

variable {config : ResourceConfig} {format : FieldPath.Format}

/-! ## The order of a plan -/

/-- The empty token leads to no column. -/
theorem column?_of_empty (e : Entity) : (resolve e "").column? = none := rfl

/-- An order is ascending once all that is descending in it stands for the empty token. -/
theorem Plan.ascending_of_orderKeys {e : Entity} {order : List OrderClause}
    (descends : ∀ clause ∈ order, clause.direction ≠ .asc → clause.field = "") :
    ∀ key ∈ Plan.orderKeys e order, key.2 = .asc := by
  intro key mem
  obtain ⟨clause, inOrder, found⟩ := List.mem_flatMap.mp mem
  obtain ⟨column, leads, rfl⟩ := Option.map_eq_some_iff.mp (Option.mem_toList.mp found)
  by_contra direction
  rw [descends clause inOrder direction, column?_of_empty] at leads
  cases leads

theorem Plan.order_of_ofSpec {e : Entity} {spec : QuerySpec} {plan : Plan}
    (planned : Plan.ofSpec e spec = .ok plan ∨ Plan.ofSpecPaged e spec = .ok plan) :
    plan.order = Plan.orderKeys e spec.order := by
  rcases planned with planned | planned
  · exact (Plan.ofSpec_planned planned).order
  · obtain ⟨unpaged, whole, paged⟩ := bind_eq_ok_iff.mp planned
    cases paged
    exact (Plan.ofSpec_planned whole).order

/-- Descending order cannot be asked for, and neither can a field with a hyphen or an ampersand,
    whatever the sort fields are. All sort keys of the plan of compiled parameters are ascending.
    A sort text has the sort keys that its tokens ask for, and none if it is empty. -/
theorem sorted_ascending (config : ResourceConfig) {format : FieldPath.Format}
    (known : format = FieldPath.token ∨ format = FieldPath.underscored) :
    (∀ (params : List (String × String)) (e : Entity) (compiled : CompiledQuery) (plan : Plan),
      compileQuery (Members.texts params) config format = .ok compiled →
      (Plan.ofSpec e compiled.spec = .ok plan ∨ Plan.ofSpecPaged e compiled.spec = .ok plan) →
      ∀ key ∈ plan.order, key.2 = .asc) ∧
    (∀ sort, ∃ clauses, Sort.order (.text sort) config format = .ok clauses ∧
      Sort.Sorts config format sort clauses) ∧
    ∀ field : String, '-' ∈ field.toList ∨ '&' ∈ field.toList →
      ∀ sort tokens, Text.Splits '&' sort tokens → ∀ token ∈ tokens, ¬ Sort.KeyOf token field := by
  refine ⟨?_, Sort.order_sorts config format, fun field marked sort tokens => Sort.not_keyOf marked⟩
  intro params e compiled plan compiles planned
  obtain ⟨search, filters, compiles, -⟩ :=
    (compileQuery_eq_ok_iff (r := ⟨e, config, format⟩)).mp compiles
  have unnamed : format "" = "" := by
    rcases known with rfl | rfl <;> rfl
  rw [Plan.order_of_ofSpec planned]
  apply Plan.ascending_of_orderKeys
  intro clause mem descends
  rw [Sort.field_of_descends compiles.ordered mem descends]
  exact unnamed

/-- Where the empty name is a sort field, a hyphen before a token makes a descending sort key, and
    the plan drops it. -/
theorem posts_ascending_despite_hyphen :
    let config : ResourceConfig := { sortFields := ["", "title", "a-b"] }
    let sort := "-title&a-b&title-x"
    ∃ compiled plan, compileQuery (Members.texts [("sort", sort)]) config = .ok compiled ∧
      Plan.ofSpecPaged .post compiled.spec = .ok plan ∧
      compiled.spec.order = [⟨"", .desc⟩, ⟨"title", .asc⟩] ∧ plan.order.length = 1 ∧
      (∀ key ∈ plan.order, key.2 = .asc) ∧
      Sort.Sorts config FieldPath.token sort compiled.spec.order := by
  intro config sort
  have orders : (compileQuery (Members.texts [("sort", sort)]) config).toOption.map
      (·.spec.order) = some [⟨"", .desc⟩, ⟨"title", .asc⟩] := by
    decide +kernel
  obtain ⟨compiled, compiles, order⟩ := toOption_map_eq_some_iff.mp orders
  have keys : ((compileQuery (Members.texts [("sort", sort)]) config).toOption.bind fun compiled =>
      (Plan.ofSpecPaged .post compiled.spec).toOption.map (·.order.length)) = some 1 := by
    decide +kernel
  rw [compiles] at keys
  obtain ⟨plan, planned, length⟩ := toOption_map_eq_some_iff.mp keys
  obtain ⟨ascending, sorts, -⟩ := sorted_ascending config (.inl rfl)
  obtain ⟨clauses, ordered, selected⟩ := sorts sort
  have same : Sort.order (.text sort) config = .ok [⟨"", .desc⟩, ⟨"title", .asc⟩] := by
    decide +kernel
  obtain rfl := Except.ok.inj (ordered.symm.trans same)
  refine ⟨compiled, plan, compiles, planned, order, length, ?_, order ▸ selected⟩
  exact ascending _ _ compiled plan compiles (.inr planned)

/-- The empty text has the empty token, and where the empty name is a sort field this token asks
    for a sort key; the text has none all the same. -/
theorem empty_sort_unselected :
    let config : ResourceConfig := { sortFields := [""] }
    Sort.order (.text "") config = .ok [] ∧
      ∀ tokens, Text.Splits '&' "" tokens → ¬ Sort.Selects config FieldPath.token tokens [] := by
  intro config
  refine ⟨rfl, ?_⟩
  intro tokens splits selects
  obtain rfl : tokens = [""] := Text.splits_iff.mp splits
  cases selects with
  | drop keyOf unlisted _ =>
    cases keyOf with
    | whole same _ => exact unlisted (same ▸ List.mem_singleton_self _)
    | before split _ => simp at split

end QueryDesk
