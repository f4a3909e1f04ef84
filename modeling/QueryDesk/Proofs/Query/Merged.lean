import Mathlib.Algebra.GroupWithZero.Nat
import Mathlib.Data.Finset.Card
import QueryDesk.Proofs.Plan.Walks
import QueryDesk.Proofs.Query.Members

/-!
# Merged contributions

Merging goes contribution by contribution. A further contribution replaces what is held under its
keys, adds its other keys at the end, and records each of the replacements with the contribution
that had the key last.
-/

namespace QueryDesk

theorem eraseDups_append_eraseDups {α : Type} [BEq α] [LawfulBEq α] (xs ys : List α) :
    (xs ++ ys.eraseDups).eraseDups = (xs ++ ys).eraseDups := by
  induction ys using List.reverseRecOn with
  | nil => rfl
  | append_singleton ys y ih =>
    rw [eraseDups_concat, ← List.append_assoc, eraseDups_concat (xs ++ ys)]
    by_cases known : y ∈ ys
    · rw [if_pos known, ih, if_pos (List.mem_append_right xs known)]
    · rw [if_neg known, ← List.append_assoc, eraseDups_concat, ih]
      simp only [List.mem_append, List.mem_eraseDups]

theorem eraseDups_eq_self {α : Type} [BEq α] [LawfulBEq α] {xs : List α} (distinct : xs.Nodup) :
    xs.eraseDups = xs := by
  induction xs using List.reverseRecOn with
  | nil => rfl
  | append_singleton xs x ih =>
    obtain ⟨distinct, -, apart⟩ := List.nodup_append.mp distinct
    have fresh : x ∉ xs := fun mem => apart x mem x List.mem_cons_self rfl
    rw [eraseDups_concat, if_neg fresh, ih distinct]

/-! ## Writing -/

namespace Members

variable {members others : Members}

/-- Objects with the same distinct keys in the same order that hold the same are the same. -/
theorem eq_of_get? (distinct : (keys members).Nodup) (same : keys members = keys others)
    (holds : ∀ key, get? key members = get? key others) : members = others := by
  induction members generalizing others with
  | nil =>
    cases others with
    | nil => rfl
    | cons => cases same
  | cons member rest ih =>
    cases others with
    | nil => cases same
    | cons other rest' =>
      obtain ⟨key, value⟩ := member
      obtain ⟨key', value'⟩ := other
      obtain ⟨rfl, same'⟩ : key = key' ∧ keys rest = keys rest' := List.cons.inj same
      obtain ⟨fresh, distinct⟩ := List.nodup_cons.mp distinct
      have first : value = value' := by simpa [get?_cons] using holds key
      have later : rest = rest' := by
        refine ih distinct same' fun other => ?_
        by_cases own : other = key
        · rw [own, get?_eq_none_of_notMem fresh, get?_eq_none_of_notMem (same' ▸ fresh)]
        · simpa [get?_cons, own] using holds other
      rw [first, later]

/-- New keys stand after the others, in the order in which they are first written. -/
theorem keys_write (distinct : (keys members).Nodup) (pairs : Members) :
    keys (write members pairs) = (keys members ++ keys pairs).eraseDups := by
  induction pairs using List.reverseRecOn with
  | nil => simpa [write, keys] using (eraseDups_eq_self distinct).symm
  | append_singleton pairs pair ih =>
    have keys_concat : keys (pairs ++ [pair]) = keys pairs ++ [pair.1] := List.map_append
    have last : write members (pairs ++ [pair]) = set pair.1 pair.2 (write members pairs) :=
      write_append members pairs [pair]
    rw [last, keys_set, ih, keys_concat, ← List.append_assoc, eraseDups_concat]
    simp only [List.mem_eraseDups]

theorem keys_ofPairs (pairs : Members) : keys (ofPairs pairs) = (keys pairs).eraseDups :=
  keys_write nodup_keys_nil pairs

/-- A key holds what was written under it last. -/
theorem get?_write_last (key : String) (members pairs : Members) :
    get? key (write members pairs) = (get? key pairs.reverse).or (get? key members) := by
  induction pairs using List.reverseRecOn with
  | nil => rfl
  | append_singleton pairs pair ih =>
    have last : write members (pairs ++ [pair]) = set pair.1 pair.2 (write members pairs) :=
      write_append members pairs [pair]
    rw [last, get?_set, ih, List.reverse_concat, get?_cons]
    split <;> rfl

/-- Writing pairs one by one is writing the object that they make. -/
theorem write_ofPairs (distinct : (keys members).Nodup) (pairs : Members) :
    write members (ofPairs pairs) = write members pairs := by
  have distinct' := nodup_keys_ofPairs pairs
  refine eq_of_get? (nodup_keys_write distinct _) ?_ fun key => ?_
  · rw [keys_write distinct, keys_write distinct, keys_ofPairs, eraseDups_append_eraseDups]
  · rw [get?_write distinct', get?_write_last key members, ofPairs_eq, get?_write_last key []]
    congr 1
    exact Option.or_none

end Members

/-! ## One more contribution -/

namespace Contribution

open Members

variable {cs more : List Contribution} {c : Contribution} {key : String}

/-- The last of the contributions that have a key. -/
def last? (key : String) (cs : List Contribution) : Option Contribution :=
  cs.reverse.find? (key ∈ keys ·.entries)

theorem last?_concat (key : String) (cs : List Contribution) (c : Contribution) :
    last? key (cs ++ [c]) = if key ∈ keys c.entries then some c else last? key cs := by
  rw [last?, List.reverse_concat, List.find?_cons]
  by_cases has : key ∈ keys c.entries
  · simp [has]
  · simp [has, last?]

theorem merged_append (cs more : List Contribution) :
    merged (cs ++ more) = write (merged cs) (more.flatMap (·.entries)) := by
  have entries_eq (cs : List Contribution) :
      (writes cs).map (fun w => (w.key, w.value)) = cs.flatMap (·.entries) := by
    simp [writes, List.map_flatMap, Function.comp_def]
  rw [merged, merged, entries_eq, entries_eq, List.flatMap_append, ofPairs_eq, write_append]
  rfl

theorem merged_concat (cs : List Contribution) (c : Contribution) :
    merged (cs ++ [c]) = write (merged cs) c.entries := by
  rw [merged_append, List.flatMap_singleton]

theorem keys_merged (cs : List Contribution) :
    keys (merged cs) = (cs.flatMap (keys ·.entries)).eraseDups := by
  have start := merged_append [] cs
  have flat : keys (cs.flatMap (·.entries)) = cs.flatMap (keys ·.entries) := List.map_flatMap
  rw [List.nil_append] at start
  rw [start, keys_write (nodup_keys_merged []), flat]
  rfl

/-- The last contribution that has a key decides what it holds. -/
theorem get?_merged_last (distinct : ∀ c ∈ cs, (keys c.entries).Nodup) (key : String) :
    get? key (merged cs) = (last? key cs).bind (get? key ·.entries) := by
  induction cs using List.reverseRecOn with
  | nil => rfl
  | append_singleton cs c ih =>
    rw [List.forall_mem_append, List.forall_mem_singleton] at distinct
    rw [merged_concat, get?_write distinct.2, ih distinct.1, last?_concat]
    by_cases has : key ∈ keys c.entries
    · obtain ⟨value, holds⟩ := Option.isSome_iff_exists.mp ((mem_keys_iff distinct.2).mp has)
      rw [if_pos has, holds, Option.bind_some, holds]
      rfl
    · rw [if_neg has, get?_eq_none_of_notMem has]
      rfl

/-- Merging in two halves is merging at once. -/
theorem merged_halves (cs more : List Contribution) (source other : String) :
    merged (cs ++ more) = merged [⟨source, merged cs⟩, ⟨other, merged more⟩] := by
  have half : merged more = ofPairs (more.flatMap (·.entries)) := merged_append [] more
  have again : write [] (merged cs) = merged cs := write_ofPairs nodup_keys_nil _
  rw [merged_pair, again, half, write_ofPairs (nodup_keys_merged cs), merged_append]

/-! ## The log -/

/-- What one contribution replaces of earlier ones: the entries under keys that some of these have,
    each with the last of them. -/
def replaces (earlier : List Contribution) (c : Contribution) : List Replacement :=
  (keys c.entries).filterMap fun key =>
    (last? key earlier).map fun previous => ⟨key, previous.source, c.source⟩

theorem replacementsAfter_append (earlier ws vs : List Write) :
    replacementsAfter earlier (ws ++ vs) =
      replacementsAfter earlier ws ++ replacementsAfter (ws.reverse ++ earlier) vs := by
  induction ws generalizing earlier with
  | nil => rfl
  | cons w ws ih => simp [replacementsAfter, ih]

/-- The writes of one contribution. -/
def own (source : String) (entries : Members) : List Write :=
  entries.map fun entry => ⟨source, entry.1, entry.2⟩

theorem writes_concat (cs : List Contribution) (c : Contribution) :
    writes (cs ++ [c]) = writes cs ++ own c.source c.entries := by
  rw [writes, List.flatMap_append, List.flatMap_singleton]
  rfl

theorem mem_own {w : Write} {source : String} {entries : Members} :
    w ∈ own source entries ↔ w.source = source ∧ (w.key, w.value) ∈ entries := by
  obtain ⟨writer, key, value⟩ := w
  constructor
  · intro mem
    obtain ⟨entry, has, same⟩ := List.mem_map.mp mem
    cases same
    exact ⟨rfl, has⟩
  · rintro ⟨rfl, has⟩
    exact List.mem_map.mpr ⟨(key, value), has, rfl⟩

theorem find?_own (source : String) (entries : Members) (key : String) :
    ((own source entries).reverse.find? (·.key == key)).map Write.source =
      if key ∈ keys entries then some source else none := by
  cases found : (own source entries).reverse.find? (·.key == key) with
  | none =>
    have fresh : key ∉ keys entries := by
      intro mem
      obtain ⟨⟨other, value⟩, has, rfl⟩ := List.mem_map.mp mem
      have written : ⟨source, other, value⟩ ∈ own source entries := mem_own.mpr ⟨rfl, has⟩
      simpa using List.find?_eq_none.mp found _ (List.mem_reverse.mpr written)
    rw [if_neg fresh]
    rfl
  | some w =>
    have same : w.key = key := by simpa using List.find?_some found
    obtain ⟨writer, has⟩ := mem_own.mp (List.mem_reverse.mp (List.mem_of_find?_eq_some found))
    have mem : key ∈ keys entries := List.mem_map.mpr ⟨_, has, same⟩
    rw [if_pos mem, Option.map_some, writer]

/-- The latest write under a key is by the last contribution that has it. -/
theorem find?_writes (key : String) (cs : List Contribution) :
    ((writes cs).reverse.find? (·.key == key)).map Write.source =
      (last? key cs).map Contribution.source := by
  induction cs using List.reverseRecOn with
  | nil => rfl
  | append_singleton cs c ih =>
    rw [writes_concat, List.reverse_append, List.find?_append, Option.map_or, find?_own, ih,
      last?_concat]
    split <;> rfl

/-- A contribution with distinct keys replaces what was written under them before it. -/
theorem replacementsAfter_own (earlier : List Write) (source : String) {entries : Members}
    (distinct : (keys entries).Nodup) : replacementsAfter earlier (own source entries) =
      (keys entries).filterMap fun key =>
        ((earlier.find? (·.key == key)).map Write.source).map fun replaced =>
          ⟨key, replaced, source⟩ := by
  induction entries generalizing earlier with
  | nil => rfl
  | cons entry entries ih =>
    obtain ⟨key, value⟩ := entry
    obtain ⟨fresh, distinct⟩ := List.nodup_cons.mp distinct
    have unseen : ∀ other ∈ keys entries,
        ((⟨source, key, value⟩ : Write) :: earlier).find? (·.key == other) =
          earlier.find? (·.key == other) := by
      intro other mem
      refine List.find?_cons_of_neg ?_
      rw [beq_iff_eq]
      rintro rfl
      exact fresh mem
    have onward := ih (⟨source, key, value⟩ :: earlier) distinct
    have later := List.filterMap_congr fun other mem => congrArg (fun found =>
      (Option.map Write.source found).map fun replaced =>
        (⟨other, replaced, source⟩ : Replacement)) (unseen other mem)
    have first : keys ((key, value) :: entries) = key :: keys entries := rfl
    have write : own source ((key, value) :: entries) =
        ⟨source, key, value⟩ :: own source entries := rfl
    rw [write, replacementsAfter, onward, later, first, List.filterMap_cons]
    cases earlier.find? (·.key == key) <;> rfl

theorem replacements_concat (cs : List Contribution) {c : Contribution}
    (distinct : (keys c.entries).Nodup) :
    replacements (cs ++ [c]) = replacements cs ++ replaces cs c := by
  rw [replacements, writes_concat, replacementsAfter_append, List.append_nil,
    replacementsAfter_own _ _ distinct]
  simp only [find?_writes, Option.map_map]
  rfl

/-- The replacements of a merge, contribution by contribution. -/
def rewrites (cs : List Contribution) : List Replacement :=
  cs.zipIdx.flatMap fun (c, place) => replaces (cs.take place) c

theorem rewrites_concat (cs : List Contribution) (c : Contribution) :
    rewrites (cs ++ [c]) = rewrites cs ++ replaces cs c := by
  have before : ∀ d ∈ cs.zipIdx, replaces ((cs ++ [c]).take d.2) d.1 =
      replaces (cs.take d.2) d.1 := by
    intro d mem
    have place : d.2 < cs.length := by simpa using (List.mem_zipIdx mem).2.1
    rw [List.take_append_of_le_length (Nat.le_of_lt place)]
  rw [rewrites, List.zipIdx_append, List.flatMap_append, List.flatMap_congr before]
  simp [rewrites]

theorem replacements_eq (distinct : ∀ c ∈ cs, (keys c.entries).Nodup) :
    replacements cs = rewrites cs := by
  induction cs using List.reverseRecOn with
  | nil => rfl
  | append_singleton cs c ih =>
    rw [List.forall_mem_append, List.forall_mem_singleton] at distinct
    rw [replacements_concat cs distinct.2, rewrites_concat, ih distinct.1]

/-- A write either replaces another one or adds a key. -/
theorem length_replacementsAfter {earlier : List Write} {members : Members}
    (known : ∀ key, key ∈ keys members ↔ ∃ e ∈ earlier, e.key = key) (ws : List Write) :
    (replacementsAfter earlier ws).length +
        (keys (write members (ws.map fun w => (w.key, w.value)))).length =
      ws.length + (keys members).length := by
  induction ws generalizing earlier members with
  | nil => simp [replacementsAfter, write]
  | cons w ws ih =>
    have known' : ∀ key, key ∈ keys (set w.key w.value members) ↔
        ∃ e ∈ w :: earlier, e.key = key := by
      intro key
      rw [keys_set, List.exists_mem_cons_iff, ← known]
      split
      · rename_i again
        exact ⟨.inr, fun either => either.elim (fun same => same ▸ again) id⟩
      · rw [List.mem_append, List.mem_singleton, or_comm, eq_comm]
    have onward := ih known'
    have next : write members ((w :: ws).map fun w => (w.key, w.value)) =
        write (set w.key w.value members) (ws.map fun w => (w.key, w.value)) := rfl
    rw [keys_set] at onward
    rw [next, replacementsAfter, List.length_append, List.length_cons]
    by_cases again : w.key ∈ keys members
    · have found : (earlier.find? (·.key == w.key)).isSome = true := by
        simpa using (known w.key).mp again
      obtain ⟨e, found⟩ := Option.isSome_iff_exists.mp found
      rw [if_pos again] at onward
      simp only [found, Option.map_some, Option.toList_some, List.length_singleton]
      omega
    · have fresh : earlier.find? (·.key == w.key) = none := by
        simpa [known] using again
      rw [if_neg again, List.length_append, List.length_singleton] at onward
      simp only [fresh, Option.map_none, Option.toList_none, List.length_nil]
      omega

/-- The keys of a merge are one for each entry that replaced no other. -/
theorem length_replacements (cs : List Contribution) :
    (replacements cs).length + (keys (merged cs)).length = (cs.map (·.entries.length)).sum := by
  have none : ∀ key, key ∈ keys [] ↔ ∃ e ∈ ([] : List Write), e.key = key := by simp [keys]
  have total : (writes cs).length = (cs.map (·.entries.length)).sum := by
    simp [writes, List.length_flatMap]
  exact (length_replacementsAfter none (writes cs)).trans total

/-- Contributions with distinct keys are merged in order: a key is held if some contribution has it,
    it holds what the last of these says, and it keeps the place of the first. Merging in two halves
    is merging at once. The log has a line for each entry under a key that an earlier contribution
    has, with the last of these, so it is as long as there are more entries than keys. -/
theorem merged_in_order (cs : List Contribution)
    (distinct : ∀ c ∈ cs, (keys c.entries).Nodup) :
    (∀ key, key ∈ keys (merged cs) ↔ ∃ c ∈ cs, key ∈ keys c.entries) ∧
    (∀ key, get? key (merged cs) = (last? key cs).bind (get? key ·.entries)) ∧
    keys (merged cs) = (cs.flatMap (keys ·.entries)).eraseDups ∧
    (∀ xs ys source other, cs = xs ++ ys →
      merged cs = merged [⟨source, merged xs⟩, ⟨other, merged ys⟩]) ∧
    log cs = (rewrites cs).map Replacement.line ∧
    (log cs).length + (cs.flatMap (keys ·.entries)).toFinset.card =
      (cs.map (·.entries.length)).sum := by
  refine ⟨fun key => ?_, get?_merged_last distinct, keys_merged cs, ?_, ?_, ?_⟩
  · rw [keys_merged, List.mem_eraseDups, List.mem_flatMap]
  · rintro xs ys source other rfl
    exact merged_halves xs ys source other
  · rw [log, replacements_eq distinct]
  · have once : (cs.flatMap (keys ·.entries)).toFinset = (keys (merged cs)).toFinset := by
      ext key
      rw [keys_merged, List.mem_toFinset, List.mem_toFinset, List.mem_eraseDups]
    rw [once, List.toFinset_card_of_nodup (nodup_keys_merged cs), log, List.length_map,
      length_replacements]

/-- A search, a filter and a further contribution that share keys. -/
def sampleContributions : List Contribution := [
  ⟨"search", [("AND", .list []), ("status", .text "draft")]⟩,
  ⟨"filter", [("status", .text "live"), ("role", .null)]⟩,
  ⟨"scope", [("role", .text "member"), ("AND", .null), ("status", .text "old")]⟩]

theorem sampleContributions_merged :
    (∀ c ∈ sampleContributions, (keys c.entries).Nodup) ∧
    keys (merged sampleContributions) = ["AND", "status", "role"] ∧
    get? "status" (merged sampleContributions) = some (.text "old") ∧
    log sampleContributions = [
      ⟨.debug, "predicate key 'status' from search replaced by filter"⟩,
      ⟨.debug, "predicate key 'role' from filter replaced by scope"⟩,
      ⟨.debug, "predicate key 'AND' from search replaced by scope"⟩,
      ⟨.debug, "predicate key 'status' from filter replaced by scope"⟩] := by
  have distinct : ∀ c ∈ sampleContributions, (keys c.entries).Nodup := by decide
  obtain ⟨-, holds, order, -, logged, -⟩ := merged_in_order sampleContributions distinct
  exact ⟨distinct, order.trans (by decide), (holds "status").trans rfl,
    logged.trans (by decide +kernel)⟩

end Contribution

end QueryDesk
