import QueryDesk.Proofs.Listing.Answered
import QueryDesk.Proofs.Plan.Hereditary
import QueryDesk.Proofs.Store.Patterns

/-!
# What a search finds

A search puts the text between percent signs and hands it to the store as it is. A row that has the
text in its search fields is always found, and a text with percent signs or underscores finds more.
A null contains nothing. With no search fields nothing is asked of a row.
-/

namespace QueryDesk

open Condition

variable {e : Entity} {config : ResourceConfig} {db : Database} {s : String}

/-- The parameters that search all rows for a text. -/
def searching (s : String) : List (String × String) :=
  [("search", s), ("limit", "-1")]

/-- The fields that are searched are columns of texts of the entity itself. -/
def SearchesOwn (e : Entity) (config : ResourceConfig) : Prop :=
  ∀ field ∈ config.searchFields, e.column? field = some ⟨field, .text⟩

/-- A field of a row is not null and contains a text, up to ASCII case; a NUL ends what it holds. -/
def Row.Shows (row : Row) (s field : String) : Prop :=
  ∃ cs, (row.cell field).text? = some cs ∧ Like.Contains s.toList cs

/-- The search fields of a row contain a text: all of them or some, as they are combined. -/
def ResourceConfig.Finds (config : ResourceConfig) (s : String) (row : Row) : Prop :=
  match config.searchCombinator with
  | .all => ∀ field ∈ config.searchFields, row.Shows s field
  | .any => ∃ field ∈ config.searchFields, row.Shows s field

/-! ## Truths of patterns -/

theorem Search.toList_pattern (s : String) :
    (pattern s).toList = '%' :: (s.toList ++ ['%']) := by
  rw [pattern, String.toList_append, String.toList_append]
  rfl

theorem likeTruth_eq_true_iff {pattern : String} {cell : Cell} :
    likeTruth pattern cell = some true ↔
      ∃ cs, cell.text? = some cs ∧ Like.holds pattern.toList cs = true := by
  simp [likeTruth]

theorem Row.Shows.matched {row : Row} {field : String} (whole : '\x00' ∉ s.toList)
    (shows : row.Shows s field) : likeTruth (Search.pattern s) (row.cell field) = some true := by
  obtain ⟨cs, holds, contains⟩ := shows
  rw [likeTruth_eq_true_iff, Search.toList_pattern]
  exact ⟨cs, holds, Like.holds_of_contains whole contains⟩

theorem Row.shows_of_matched {row : Row} {field : String} (whole : '\x00' ∉ s.toList)
    (noPercent : '%' ∉ s.toList) (noUnderscore : '_' ∉ s.toList)
    (matched : likeTruth (Search.pattern s) (row.cell field) = some true) : row.Shows s field := by
  rw [likeTruth_eq_true_iff, Search.toList_pattern] at matched
  obtain ⟨cs, holds, cut⟩ := matched
  exact ⟨cs, holds, Like.contains_of_holds whole noPercent noUnderscore cut⟩

/-- The case of ASCII letters in a text does not matter to its pattern. -/
theorem likeTruth_lower {s s' : String}
    (lower : Text.asciiLower s'.toList = Text.asciiLower s.toList) (cell : Cell) :
    likeTruth (Search.pattern s') cell = likeTruth (Search.pattern s) cell := by
  have patterns : Text.asciiLower (Search.pattern s').toList =
      Text.asciiLower (Search.pattern s).toList := by
    unfold Text.asciiLower at lower ⊢
    simp only [Search.toList_pattern, List.map_cons, List.map_append, lower]
  unfold likeTruth
  congr 1
  funext cs
  rw [Like.holds, Like.holds, patterns]

/-! ## The plan of a search -/

/-- What a search says: its patterns, if there are fields to be searched. -/
def searchEntries (config : ResourceConfig) (s : String) : Members :=
  if config.searchFields = [] then []
  else [(config.searchCombinator.key,
    .list (Search.clauses config FieldPath.token (Search.pattern s)))]

theorem compiles_searching (e : Entity) (config : ResourceConfig) (asked : s ≠ "") :
    Compiles (Members.texts (searching s)) ⟨e, config, FieldPath.token⟩
      ⟨{}, [], searchEntries config s⟩ (searchEntries config s) [] := by
  have spared : ∀ p ∈ searching s, Filter.reserved.contains p.1 = true := by
    have keys : ∀ key ∈ ["search", "limit"], Filter.reserved.contains key = true := by decide
    rw [searching, List.forall_mem_cons, List.forall_mem_singleton]
    exact ⟨keys _ List.mem_cons_self, keys _ (List.mem_cons_of_mem _ List.mem_cons_self)⟩
  refine ⟨rfl, ?_, rfl, filterPredicate_of_reserved spared _ _, ?_⟩
  · obtain ⟨search, searched⟩ := searchPredicate_isOk (some s) config FieldPath.token
    have given : param (Members.texts (searching s)) "search" = ofText? (some s) := by
      rw [param_texts]
      rfl
    rw [← given] at searched
    have text : textOf (searching s) "search" = s := rfl
    rw [searched, searchPredicate_texts searched, text]
    simp only [asked, false_or, searchEntries]
  · simp only [searchEntries]
    split <;> rfl

theorem predicateTruths_searching (own : SearchesOwn e config) (s : String)
    (cells : ColumnRef → Cell) : Plan.predicateTruths cells e (searchEntries config s) =
      Plan.groupTruths config.searchCombinator (config.searchFields.map fun field =>
        likeTruth (Search.pattern s) (cells ⟨e, ⟨field, .text⟩⟩)) := by
  unfold searchEntries
  split
  · rename_i nothing
    rw [nothing]
    rfl
  · refine Plan.predicateTruths_group (fun field mem => ?_) _
    obtain ⟨-, token, resolves, single⟩ := Entity.own_column (own field mem)
    rw [token, Plan.predicateTruths_pattern (by rw [resolves]) single]

/-- Nothing but patterns for columns of texts is handed over. -/
def Condition.HandsPatterns (c : Condition) : Prop :=
  ∀ slot ∈ c.slots, ∃ column, slot = .pattern column ∧ column.column.kind = .text

theorem Condition.handsPatterns_hereditary : Hereditary HandsPatterns := by
  refine ⟨fun slot mem => absurd mem List.not_mem_nil, fun combinator conditions => ?_⟩
  simp only [HandsPatterns, slots, mem_slotsOf]
  constructor
  · intro group c mem slot handed
    exact group slot ⟨c, mem, handed⟩
  · rintro members slot ⟨c, mem, handed⟩
    exact members c mem slot handed

/-- The specification of a search. -/
def searchSpec (config : ResourceConfig) (s : String) : QuerySpec :=
  ⟨{}, [], searchEntries config s⟩

theorem own_of_token (own : SearchesOwn e config) {token : String}
    (follows : token ∈ Plan.specTokens (searchSpec config s)) :
    ∃ column, resolve e token = ⟨[], some ⟨e, column⟩⟩ := by
  rw [Plan.specTokens, searchSpec, List.map_nil, List.append_nil,
    Plan.mem_predicateTokens] at follows
  obtain ⟨key, v, entry, follows⟩ := follows
  unfold searchEntries at entry
  split at entry
  · cases entry
  · obtain ⟨rfl, rfl⟩ := Prod.mk.inj (List.mem_singleton.mp entry)
    have single : ∀ field ∈ config.searchFields,
        Combinator.ofKey? (FieldPath.token field) = none := by
      intro field mem
      obtain ⟨-, token, -, single⟩ := Entity.own_column (own field mem)
      rwa [token]
    rw [Plan.entryTokens_group, Search.clauses, Plan.mem_clauseTokens_single _ single] at follows
    obtain ⟨field, mem, rfl⟩ := follows
    obtain ⟨-, token, resolves, -⟩ := Entity.own_column (own field mem)
    exact ⟨_, by rw [token, resolves]⟩

theorem near_of_searching (own : SearchesOwn e config) (s : String) :
    ∀ token ∈ Plan.specTokens (searchSpec config s), Plan.Near e token := by
  intro token follows
  obtain ⟨column, resolves⟩ := own_of_token own follows
  exact .own resolves

theorem handsPatterns_searching (own : SearchesOwn e config) (s : String) :
    Plan.Gives HandsPatterns
      (Plan.found (Plan.predicateConditions e (searchSpec config s).predicate)) := by
  rw [Plan.found_predicate]
  refine .gathered fun ⟨key, v⟩ entry => ?_
  rw [searchSpec, searchEntries] at entry
  split at entry
  · cases entry
  · obtain ⟨rfl, rfl⟩ := Prod.mk.inj (List.mem_singleton.mp entry)
    refine .group handsPatterns_hereditary fun item among => ?_
    obtain ⟨field, mem, rfl⟩ := List.mem_map.mp among
    obtain ⟨-, token, resolves, single⟩ := Entity.own_column (own field mem)
    refine .clause handsPatterns_hereditary ?_
    rw [token, Plan.entryConditions, single]
    refine .leaf fun column leads w => ⟨.like column (Search.pattern s), rfl, ?_⟩
    rw [resolves] at leads
    cases leads
    exact fun slot handed => ⟨_, List.mem_singleton.mp handed, rfl⟩

/-- A search is planned without joins, and the store takes its plan. -/
theorem exists_plan_of_searching (own : SearchesOwn e config) (s : String) :
    ∃ plan, Plan.ofSpec e (searchSpec config s) = .ok plan ∧ plan.fault? = none ∧
      plan.joins = [] := by
  obtain ⟨plan, planned, patterns⟩ := (handsPatterns_searching own s).planned
  have means := Plan.ofSpec_planned planned
  have unjoined : plan.joins = [] := by
    have nothing : Plan.joinsOf e (Plan.specTokens (searchSpec config s)) = [] := by
      refine List.flatMap_eq_nil_iff.mpr fun token follows => ?_
      obtain ⟨column, resolves⟩ := own_of_token own follows
      rw [resolves]
    rw [means.joins, nothing]
    rfl
  refine ⟨plan, planned, Plan.fault?_eq_none_iff.mpr ⟨?_, ?_, ?_⟩, unjoined⟩
  · simp [Plan.hasDistinctTables, Plan.entities, unjoined]
  · intro slot handed
    obtain ⟨-, c, mem, handed⟩ := Plan.mem_slots.mp handed
    obtain ⟨column, rfl, isText⟩ := patterns c mem slot handed
    exact ⟨by rw [Operand.Slot.isBindable, isText]; rfl, rfl⟩
  · rw [Plan.pageFault?, means.limit, means.offset]
    rfl

/-! ## The answer -/

/-- The listing of all rows that a plan selects. -/
def Plan.wholeListing (db : Database) (plan : Plan) : Listing :=
  ⟨(plan.paginate {}).run db, (plan.selected db).length, none, 0⟩

theorem list_searching (db : Database) (own : SearchesOwn e config) (asked : s ≠ "") :
    ∃ plan, Plan.Planned e (searchSpec config s) plan ∧ plan.joins = [] ∧
      (⟨e, config, FieldPath.token⟩ : Resource).list db (Members.texts (searching s)) =
        .ok (plan.wholeListing db) := by
  obtain ⟨plan, planned, counts, unjoined⟩ := exists_plan_of_searching own s
  have runs : Runs ⟨e, config, FieldPath.token⟩ db (searchSpec config s) plan
      (plan.wholeListing db) :=
    ⟨planned, counts, Plan.fault?_paginate counts rfl, rfl⟩
  exact ⟨plan, Plan.ofSpec_planned planned, unjoined,
    list_eq_ok_iff.mpr ⟨_, _, _, plan, compiles_searching e config asked, runs⟩⟩

theorem mem_searched_iff (own : SearchesOwn e config) (keyed : db.Keyed) {plan : Plan}
    (planned : Plan.Planned e (searchSpec config s) plan) (unjoined : plan.joins = []) {row : Row} :
    row ∈ (plan.wholeListing db).items ↔ row ∈ db.rows e ∧
      Plan.AllTrue (Plan.groupTruths config.searchCombinator
        (config.searchFields.map fun field => likeTruth (Search.pattern s) (row.cell field))) := by
  have reads : Plan.Reads plan e := ⟨planned.entity, .inl unjoined⟩
  have accepted : plan.accepts (plan.seen db row) = true ↔ Plan.AllTrue (Plan.predicateTruths
      (Plan.cellAt db e row) e (searchSpec config s).predicate) :=
    planned.accepts_seen_iff (near_of_searching own s)
  rw [Plan.wholeListing, reads.run_unlimited keyed, Plan.mem_ordered, planned.entity, accepted,
    searchSpec, predicateTruths_searching own]
  simp only [Plan.cellAt, if_true]

/-- A search for the same text in another ASCII case gives the same listing. -/
theorem list_searching_lower (db : Database) (own : SearchesOwn e config) {s' : String}
    (asked : s ≠ "") (lower : Text.asciiLower s'.toList = Text.asciiLower s.toList) :
    (⟨e, config, FieldPath.token⟩ : Resource).list db (Members.texts (searching s')) =
      (⟨e, config, FieldPath.token⟩ : Resource).list db (Members.texts (searching s)) := by
  have asked' : s' ≠ "" := by
    rintro rfl
    have nothing : s.toList = [] := List.map_eq_nil_iff.mp lower.symm
    exact asked (String.toList_eq_nil_iff.mp nothing)
  obtain ⟨plan, planned, unjoined, answer⟩ := list_searching db own asked
  obtain ⟨plan', planned', unjoined', answer'⟩ := list_searching db own asked'
  have order : plan'.order = plan.order := planned'.order.trans planned.order.symm
  have accept : ∀ row, plan'.accepts row = plan.accepts row := by
    intro row
    rw [Bool.eq_iff_iff, planned'.accepts_iff, planned.accepts_iff, searchSpec, searchSpec,
      predicateTruths_searching own, predicateTruths_searching own]
    simp only [likeTruth_lower lower]
  obtain ⟨selected, run⟩ := Plan.results_congr db (planned'.entity.trans planned.entity.symm)
    (unjoined'.trans unjoined.symm) order accept
  rw [answer, answer', Plan.wholeListing, Plan.wholeListing, selected, run]

/-- A search is answered. It finds every row whose search fields contain the text, all of them or
    some as they are combined, and a text without percent signs and underscores finds no other row,
    unless nothing is searched for some to contain it. Where all fields have to contain the text, no
    row is found that has a null in one of them. The case of ASCII letters does not matter. -/
theorem search_finds_parts (own : SearchesOwn e config) (keyed : db.Keyed) (asked : s ≠ "")
    (whole : '\x00' ∉ s.toList) :
    ∃ listing, (⟨e, config, FieldPath.token⟩ : Resource).list db (Members.texts (searching s)) =
        .ok listing ∧
      (∀ row ∈ db.rows e, config.Finds s row → row ∈ listing.items) ∧
      ('%' ∉ s.toList → '_' ∉ s.toList →
        (config.searchCombinator = .any → config.searchFields ≠ []) →
        ∀ row ∈ listing.items, row ∈ db.rows e ∧ config.Finds s row) ∧
      (config.searchCombinator = .all →
        ∀ row ∈ listing.items, ∀ field ∈ config.searchFields, row.cell field ≠ .null) ∧
      ∀ s', Text.asciiLower s'.toList = Text.asciiLower s.toList →
        (⟨e, config, FieldPath.token⟩ : Resource).list db (Members.texts (searching s')) =
          .ok listing := by
  obtain ⟨plan, planned, unjoined, answer⟩ := list_searching db own asked
  refine ⟨_, answer, ?_, ?_, ?_, fun s' lower => ?_⟩
  · intro row stored finds
    refine (mem_searched_iff own keyed planned unjoined).mpr ⟨stored, ?_⟩
    unfold ResourceConfig.Finds at finds
    cases combined : config.searchCombinator with
    | all =>
      rw [combined] at finds
      rw [Plan.allTrue_group_all, Plan.AllTrue, List.forall_mem_map]
      exact fun field mem => (finds field mem).matched whole
    | any =>
      rw [combined] at finds
      obtain ⟨field, mem, shows⟩ := finds
      rw [Plan.allTrue_group_any]
      exact fun _ => List.mem_map.mpr ⟨field, mem, shows.matched whole⟩
  · intro noPercent noUnderscore something row mem
    obtain ⟨stored, matched⟩ := (mem_searched_iff own keyed planned unjoined).mp mem
    refine ⟨stored, ?_⟩
    unfold ResourceConfig.Finds
    cases combined : config.searchCombinator with
    | all =>
      rw [combined, Plan.allTrue_group_all, Plan.AllTrue, List.forall_mem_map] at matched
      exact fun field mem => Row.shows_of_matched whole noPercent noUnderscore (matched field mem)
    | any =>
      rw [combined, Plan.allTrue_group_any, ne_eq, List.map_eq_nil_iff] at matched
      obtain ⟨field, mem, found⟩ := List.mem_map.mp (matched (something combined))
      exact ⟨field, mem, Row.shows_of_matched whole noPercent noUnderscore found⟩
  · intro combined row mem field searched null
    obtain ⟨-, matched⟩ := (mem_searched_iff own keyed planned unjoined).mp mem
    rw [combined, Plan.allTrue_group_all, Plan.AllTrue, List.forall_mem_map] at matched
    have found := matched field searched
    rw [null] at found
    cases found
  · rw [list_searching_lower db own asked lower, answer]

theorem posts_searched :
    let config : ResourceConfig := { searchFields := ["title", "body"] }
    ∃ listing, (⟨.post, config, FieldPath.token⟩ : Resource).list sampleDatabase
        (Members.texts (searching "L")) = .ok listing ∧
      listing.items.map (·.id.value) = [1] ∧
      (∀ row, row ∈ listing.items ↔ row ∈ sampleDatabase.rows .post ∧ config.Finds "L" row) ∧
      (⟨.post, config, FieldPath.token⟩ : Resource).list sampleDatabase
        (Members.texts (searching "l")) = .ok listing := by
  intro config
  have own : SearchesOwn .post config := by
    unfold SearchesOwn
    decide +kernel
  obtain ⟨listing, listed, found, others, -, lower⟩ :=
    search_finds_parts own sampleDatabase_keyed (s := "L") (by decide) (by decide)
  have answer : ((⟨.post, config, FieldPath.token⟩ : Resource).list sampleDatabase
      (Members.texts (searching "L"))).toOption.map (·.items.map (·.id.value)) = some [1] := by
    decide +kernel
  rw [listed] at answer
  refine ⟨listing, listed, Option.some.inj answer, fun row => ⟨?_, ?_⟩,
    lower "l" (by decide +kernel)⟩
  · exact others (by decide) (by decide) (fun combined => absurd combined (by decide)) row
  · rintro ⟨stored, finds⟩
    exact found row stored finds

/-- A user whose name has a NUL within it. -/
def nulDatabase : Database :=
  let day : Moment := ⟨63902908800000000, none⟩
  { users :=
      [{ id := ⟨1⟩, fullName := "a\x00bob", email := "a@x", createdAt := day, updatedAt := day }] }

/-- The store does not look behind a NUL, and a search of no fields for some to contain a text finds
    every row. -/
theorem searches_apart_from_parts :
    (∃ listing, (⟨.user, { searchFields := ["full_name"] }, FieldPath.token⟩ : Resource).list
        nulDatabase (Members.texts (searching "bob")) = .ok listing ∧
      ∃ row ∈ nulDatabase.rows .user, row ∉ listing.items ∧ ∃ cs,
        row.cell "full_name" = .text cs ∧ "bob".toList <:+: cs) ∧
    ∃ listing, (⟨.user, { searchCombinator := .any }, FieldPath.token⟩ : Resource).list
        nulDatabase (Members.texts (searching "x")) = .ok listing ∧
      ∃ row ∈ listing.items, ¬ ({ searchCombinator := .any } : ResourceConfig).Finds "x" row := by
  have answers :
      ((⟨.user, { searchFields := ["full_name"] }, FieldPath.token⟩ : Resource).list
        nulDatabase (Members.texts (searching "bob"))).toOption.map Listing.items = some [] ∧
      ((⟨.user, { searchCombinator := .any }, FieldPath.token⟩ : Resource).list
        nulDatabase (Members.texts (searching "x"))).toOption.map Listing.items =
          some (nulDatabase.rows .user) := by
    decide +kernel
  obtain ⟨⟨listing, listed, missed⟩, ⟨listing', listed', all⟩⟩ :=
    answers.imp toOption_map_eq_some_iff.mp toOption_map_eq_some_iff.mp
  refine ⟨⟨listing, listed, _, List.mem_cons_self, ?_, _, rfl, ['a', '\x00'], [], rfl⟩,
    listing', listed', _, by rw [all]; exact List.mem_cons_self, ?_⟩
  · rw [missed]
    exact List.not_mem_nil
  · rintro ⟨field, mem, -⟩
    cases mem

end QueryDesk
