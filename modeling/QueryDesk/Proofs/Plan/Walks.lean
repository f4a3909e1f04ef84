import Mathlib.Data.List.Infix
import QueryDesk.Proofs.Plan.Joins

/-!
# Walks along associations

A token walks from the root along the associations that its names, all but the last, lead along. A
plan joins each path that some token walks once, in the order in which the paths are walked first.
So each path is joined after the one that it prolongs.
-/

namespace QueryDesk

/-! ## Walks -/

theorem inits_eq_cons (names : List String) : names.inits = [] :: names.inits.tail := by
  cases names <;> simp

namespace Entity

/-- The entity at the end of a path of associations. -/
def along? (e : Entity) : List String → Option Entity
  | [] => some e
  | name :: rest => (e.association? name).bind fun a => a.target.along? rest

/-- The paths that names walk: the beginnings of all names but the last that are associations. -/
def walk (e : Entity) (names : List String) : List (List String) :=
  names.dropLast.inits.tail.filter fun path => (e.along? path).isSome

theorem along?_append (e : Entity) (path : List String) (name : String) :
    e.along? (path ++ [name]) =
      (e.along? path).bind fun parent => (parent.association? name).map (·.target) := by
  induction path generalizing e with
  | nil => cases found : e.association? name <;> simp [along?, found]
  | cons first rest ih =>
    rw [List.cons_append, along?, along?]
    cases e.association? first with
    | none => rfl
    | some a => exact ih a.target

theorem walk_cons (e : Entity) (name next : String) (others : List String) :
    e.walk (name :: next :: others) = (e.association? name).elim [] fun a =>
      [name] :: (a.target.walk (next :: others)).map (name :: ·) := by
  rw [walk, List.dropLast_cons_cons, List.inits_cons, List.tail_cons, List.filter_map]
  cases found : e.association? name with
  | none => simp [Function.comp_def, along?, found]
  | some a =>
    have onward : ((fun path => (e.along? path).isSome) ∘ (name :: ·)) =
        fun path => (a.target.along? path).isSome := by
      funext path
      simp [along?, found]
    rw [onward, inits_eq_cons, List.filter_cons_of_pos rfl]
    rfl

end Entity

/-- The joins on a way are those of the paths that its names walk. -/
theorem map_path_follow (path : List String) (e : Entity) (names : List String) :
    (follow path e names).joins.map (·.path) = (e.walk names).map (path ++ ·) := by
  induction names generalizing path e with
  | nil => rfl
  | cons name rest ih =>
    cases rest with
    | nil => rfl
    | cons next others =>
      rw [Entity.walk_cons]
      unfold follow
      cases e.association? name with
      | none => rfl
      | some a => simp [ih]

/-- The join at the end of a path has the association that the path ends with. -/
theorem association_of_follow {path : List String} {e : Entity} {names : List String} {join : Join}
    (mem : join ∈ (follow path e names).joins) :
    ∃ parent name, join.path = path ++ (parent ++ [name]) ∧
      (e.along? parent).bind (·.association? name) = some join.association := by
  induction names generalizing path e with
  | nil => cases mem
  | cons name rest ih =>
    cases rest with
    | nil => cases mem
    | cons next others =>
      unfold follow at mem
      cases found : e.association? name with
      | none =>
        rw [found] at mem
        cases mem
      | some a =>
        rw [found] at mem
        rcases List.mem_cons.mp mem with rfl | later
        · exact ⟨[], name, rfl, found⟩
        · obtain ⟨parent, last, ends, association⟩ := ih later
          refine ⟨name :: parent, last, by simp [ends], ?_⟩
          rwa [Entity.along?, found]

/-! ## Paths without repeats -/

theorem eraseDups_concat {α : Type} [BEq α] [LawfulBEq α] (xs : List α) (x : α) :
    (xs ++ [x]).eraseDups = if x ∈ xs then xs.eraseDups else xs.eraseDups ++ [x] := by
  rw [List.eraseDups_append, List.removeAll]
  by_cases known : x ∈ xs
  · simp [known]
  · simp [known, List.eraseDups_cons]

theorem nodup_eraseDups {α : Type} [BEq α] [LawfulBEq α] (xs : List α) : xs.eraseDups.Nodup := by
  induction xs using List.reverseRecOn with
  | nil => exact List.nodup_nil
  | append_singleton xs x ih =>
    rw [eraseDups_concat]
    split
    · exact ih
    · rename_i fresh
      refine List.nodup_append.mpr ⟨ih, List.nodup_singleton x, ?_⟩
      rintro a mem b last rfl
      obtain rfl := List.mem_singleton.mp last
      exact fresh (List.mem_eraseDups.mp mem)

/-- Joining each path once leaves out the repeats among the paths. -/
theorem map_path_addJoins (joins : List Join) :
    (addJoins [] joins).map (·.path) = (joins.map (·.path)).eraseDups := by
  induction joins using List.reverseRecOn with
  | nil => rfl
  | append_singleton joins join ih =>
    have known : (addJoins [] joins).any (·.path == join.path) = true ↔
        join.path ∈ joins.map (·.path) := by
      rw [← List.mem_eraseDups, ← ih]
      simp
    rw [Plan.addJoins_append, Plan.addJoins_cons, List.map_append, List.map_singleton,
      eraseDups_concat, ← ih]
    by_cases present : join.path ∈ joins.map (·.path)
    · rw [if_pos (known.mpr present), if_pos present]
      rfl
    · rw [if_neg (mt known.mp present), if_neg present, ← List.map_singleton, ← List.map_append]
      rfl

/-! ## Parents first -/

/-- Each path stands after the one that it prolongs. -/
def ParentsFirst (paths : List (List String)) : Prop :=
  ∀ before path after, paths = before ++ path :: after →
    path.dropLast = [] ∨ path.dropLast ∈ before

theorem parentsFirst_nil : ParentsFirst [] := by
  intro before path after split
  simp at split

theorem parentsFirst_concat {paths : List (List String)} {path : List String} :
    ParentsFirst (paths ++ [path]) ↔
      ParentsFirst paths ∧ (path.dropLast = [] ∨ path.dropLast ∈ paths) := by
  constructor
  · intro parents
    refine ⟨fun before other after split => ?_, parents paths path [] rfl⟩
    exact parents before other (after ++ [path]) (by rw [split]; simp)
  · rintro ⟨parents, parent⟩ before other after split
    rcases List.eq_nil_or_concat after with rfl | ⟨inner, last, rfl⟩
    · obtain ⟨rfl, same⟩ := List.append_inj' split rfl
      cases same
      exact parent
    · have whole : paths ++ [path] = (before ++ other :: inner) ++ [last] := by simpa using split
      exact parents before other inner (List.append_inj' whole rfl).1

theorem ParentsFirst.append {paths others : List (List String)} (parents : ParentsFirst paths)
    (parents' : ParentsFirst others) : ParentsFirst (paths ++ others) := by
  induction others using List.reverseRecOn with
  | nil => simpa using parents
  | append_singleton others path ih =>
    obtain ⟨before, parent⟩ := parentsFirst_concat.mp parents'
    rw [← List.append_assoc, parentsFirst_concat]
    exact ⟨ih before, parent.imp_right (List.mem_append_right paths)⟩

theorem ParentsFirst.eraseDups {paths : List (List String)} (parents : ParentsFirst paths) :
    ParentsFirst paths.eraseDups := by
  induction paths using List.reverseRecOn with
  | nil => exact parentsFirst_nil
  | append_singleton paths path ih =>
    obtain ⟨before, parent⟩ := parentsFirst_concat.mp parents
    rw [eraseDups_concat]
    split
    · exact ih before
    · exact parentsFirst_concat.mpr ⟨ih before, parent.imp_right List.mem_eraseDups.mpr⟩

/-- Names walk a path only after the one that it prolongs. -/
theorem parentsFirst_walk (e : Entity) (names : List String) : ParentsFirst (e.walk names) := by
  rw [Entity.walk]
  generalize names.dropLast = names
  induction names using List.reverseRecOn with
  | nil => exact parentsFirst_nil
  | append_singleton names name ih =>
    have longer : (names ++ [name]).inits.tail = names.inits.tail ++ [names ++ [name]] := by
      rw [List.inits_append, inits_eq_cons names]
      simp
    rw [longer, List.filter_append, List.filter_cons, List.filter_nil]
    by_cases reached : (e.along? (names ++ [name])).isSome = true
    · rw [if_pos reached, parentsFirst_concat, List.dropLast_concat]
      refine ⟨ih, ?_⟩
      by_cases first : names = []
      · exact .inl first
      · have begins : names ∈ names.inits.tail := by
          have whole : names ∈ names.inits := (List.mem_inits _ _).mpr List.prefix_rfl
          rw [inits_eq_cons] at whole
          exact (List.mem_cons.mp whole).resolve_left first
        have leads : (e.along? names).isSome = true := by
          rw [Entity.along?_append] at reached
          exact Option.isSome_of_isSome_bind reached
        exact .inr (List.mem_filter.mpr ⟨begins, leads⟩)
    · rw [if_neg reached, List.append_nil]
      exact ih

/-! ## The joins of a plan -/

namespace Plan

variable {root : Entity} {spec : QuerySpec} {plan : Plan}

/-- The paths that tokens walk, in order. -/
def walkedPaths (root : Entity) (tokens : List String) : List (List String) :=
  tokens.flatMap fun token => root.walk (FieldPath.parts token)

theorem map_path_joinsOf (root : Entity) (tokens : List String) :
    (joinsOf root tokens).map (·.path) = walkedPaths root tokens := by
  rw [joinsOf, walkedPaths, List.map_flatMap]
  congr 1
  funext token
  rw [resolve, map_path_follow]
  simp

theorem parentsFirst_walkedPaths (root : Entity) (tokens : List String) :
    ParentsFirst (walkedPaths root tokens) := by
  induction tokens with
  | nil => exact parentsFirst_nil
  | cons token rest ih =>
    rw [walkedPaths, List.flatMap_cons]
    exact (parentsFirst_walk root _).append ih

/-- A plan joins each path that is walked by a token of the predicate or of the order, once, in the
    order in which the paths are walked first, and no other. The join of a path has the association
    that the path ends with, and is made after that of the path that it prolongs. -/
theorem joined_as_walked (planned : ofSpec root spec = .ok plan) :
    plan.joins.map (·.path) = (walkedPaths root (specTokens spec)).eraseDups ∧
    (plan.joins.map (·.path)).Nodup ∧ ParentsFirst (plan.joins.map (·.path)) ∧
    (∀ join ∈ plan.joins, ∃ parent name, join.path = parent ++ [name] ∧
      (root.along? parent).bind (·.association? name) = some join.association) ∧
    ∀ token ∈ specTokens spec, ∀ path ∈ root.walk (FieldPath.parts token),
      ∃! join, join ∈ plan.joins ∧ join.path = path := by
  have joins := (ofSpec_planned planned).joins
  have paths : plan.joins.map (·.path) = (walkedPaths root (specTokens spec)).eraseDups := by
    rw [joins, map_path_addJoins, map_path_joinsOf]
  have once : (plan.joins.map (·.path)).Nodup := by
    rw [paths]
    exact nodup_eraseDups _
  refine ⟨paths, once, ?_, ?_, ?_⟩
  · rw [paths]
    exact (parentsFirst_walkedPaths root _).eraseDups
  · intro join mem
    rw [joins] at mem
    obtain ⟨token, -, onWay⟩ :=
      mem_joinsOf.mp ((mem_of_mem_addJoins mem).resolve_left List.not_mem_nil)
    exact association_of_follow onWay
  · intro token follows path walked
    have joined : path ∈ plan.joins.map (·.path) := by
      rw [paths, List.mem_eraseDups]
      exact List.mem_flatMap.mpr ⟨token, follows, walked⟩
    obtain ⟨join, mem, rfl⟩ := List.mem_map.mp joined
    refine ⟨join, ⟨mem, rfl⟩, ?_⟩
    rintro other ⟨mem', same⟩
    exact List.inj_on_of_nodup_map once mem' mem same

/-- Tokens that walk to the author of a post: two end there, one of them at an unknown field, one
    goes on to the author's posts, and one stops halfway. -/
def authorWalks : QuerySpec where
  predicate := [("$user.nope$", .text "x"),
    ("OR", .list [.object [("$user.posts.title$", .text "y")], .object [("title", .null)]])]
  order := [⟨"user.full_name", .asc⟩, ⟨"user.nope.title", .desc⟩]

theorem author_joined_once :
    ∃ plan, ofSpec .post authorWalks = .ok plan ∧
      plan.joins.map (·.path) = [["user"], ["user", "posts"]] := by
  have comes_through : (ofSpec .post authorWalks).toOption.isSome = true := by decide +kernel
  have walked : (walkedPaths .post (specTokens authorWalks)).eraseDups =
      [["user"], ["user", "posts"]] := by
    decide +kernel
  obtain ⟨plan, planned⟩ := exists_ok_of_isSome comes_through
  exact ⟨plan, planned, (joined_as_walked planned).1.trans walked⟩

end Plan

end QueryDesk
