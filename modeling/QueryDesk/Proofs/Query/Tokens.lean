import QueryDesk.Proofs.Listing.Offered
import QueryDesk.Proofs.Text.Cut
import QueryDesk.Query.FieldPath

/-!
# Tokens read back

The token of a field is read back as the names between the points of the field. The one exception
are fields without a point that stand between dollar signs themselves: their own dollar signs are
taken for those of a token.
-/

namespace QueryDesk.FieldPath

/-- A text of two characters or more with a dollar sign at either end. -/
structure IsWrapped (cs : List Char) : Prop where
  long : 2 ≤ cs.length
  front : cs.head? = some '$'
  back : cs.getLast? = some '$'

variable {cs inner : List Char} {field : String}

/-! ## Dollar signs -/

theorem isWrapped_wrap (inner : List Char) : IsWrapped ('$' :: inner ++ ['$']) where
  long := by simp
  front := rfl
  back := List.getLast?_concat

theorem IsWrapped.exists_inner (wrapped : IsWrapped cs) : ∃ inner, cs = '$' :: inner ++ ['$'] := by
  obtain ⟨long, front, back⟩ := wrapped
  obtain ⟨before, rfl⟩ := List.getLast?_eq_some_iff.mp back
  cases before with
  | nil => exact absurd long (by decide)
  | cons c inner =>
    obtain rfl := Option.some.inj front
    exact ⟨inner, rfl⟩

theorem unwrap_wrap (inner : List Char) : unwrap ('$' :: inner ++ ['$']) = inner := by
  obtain ⟨long, front, back⟩ := isWrapped_wrap inner
  have both : (1 < ('$' :: inner ++ ['$']).length && ('$' :: inner ++ ['$']).head? == some '$' &&
      ('$' :: inner ++ ['$']).getLast? == some '$') = true := by
    rw [front, back]
    simp
  rw [unwrap, if_pos both, List.cons_append, List.tail_cons, List.dropLast_concat]

theorem unwrap_of_not_isWrapped (unwrapped : ¬ IsWrapped cs) : unwrap cs = cs := by
  refine if_neg fun both => unwrapped ?_
  simp only [Bool.and_eq_true, decide_eq_true_eq, beq_iff_eq] at both
  exact ⟨both.1.1, both.1.2, both.2⟩

/-! ## Names -/

/-- The names in a text are its parts between points, without the empty ones. -/
theorem names_of_splits {parts : List String} (splits : Text.Splits '.' field parts) :
    names field.toList = parts.filter (· ≠ "") := by
  rw [Text.splits_iff.mp splits, names, Text.split, List.filter_map]
  congr 2
  funext part
  cases part <;> simp

/-- A text without points is its own name, unless it is empty. -/
theorem names_of_undotted (undotted : '.' ∉ cs) :
    names cs = if cs = [] then [] else [String.ofList cs] := by
  rw [names, Text.splitAt_of_notMem undotted]
  cases cs <;> rfl

/-- Without its dollar signs, a text without points has another name or none. -/
theorem names_inner_ne (undotted : '.' ∉ inner) : names inner ≠ names ('$' :: inner ++ ['$']) := by
  have undotted' : '.' ∉ '$' :: inner ++ ['$'] := by simpa using undotted
  have nonempty : '$' :: inner ++ ['$'] ≠ [] := List.cons_ne_nil _ _
  rw [names_of_undotted undotted, names_of_undotted undotted', if_neg nonempty]
  split
  · exact List.cons_ne_nil _ _ ∘ Eq.symm
  · intro same
    have lengths := congrArg List.length (String.ofList_injective (List.cons.inj same).1)
    simp only [List.length_append, List.length_cons, List.length_nil] at lengths
    omega

/-! ## Tokens -/

theorem parts_of_dotted (dotted : '.' ∈ field.toList) :
    parts (token field) = names field.toList := by
  have pointed : field.toList.contains '.' = true := by simpa using dotted
  rw [parts, toList_token, if_pos pointed, unwrap_wrap]

theorem parts_of_undotted (undotted : '.' ∉ field.toList) :
    parts (token field) = names (unwrap field.toList) := by
  have plain : ¬ field.toList.contains '.' = true := by simpa using undotted
  rw [parts, toList_token, if_neg plain]

/-- A token is read back as the names of its field just if the field has a point or does not stand
    between dollar signs itself, and no two fields have the same token. -/
theorem token_read_back : (∀ field segments, Text.Splits '.' field segments →
      (parts (token field) = segments.filter (· ≠ "") ↔
        '.' ∈ field.toList ∨ ¬ IsWrapped field.toList)) ∧
    Function.Injective token := by
  refine ⟨fun field segments splits => ?_, token_injective⟩
  rw [← names_of_splits splits]
  by_cases dotted : '.' ∈ field.toList
  · exact iff_of_true (parts_of_dotted dotted) (.inl dotted)
  · rw [parts_of_undotted dotted, or_iff_right dotted]
    constructor
    · intro same wrapped
      obtain ⟨inner, whole⟩ := wrapped.exists_inner
      have undotted : '.' ∉ inner := fun mem => dotted (by simp [whole, mem])
      rw [whole, unwrap_wrap] at same
      exact names_inner_ne undotted same
    · intro unwrapped
      rw [unwrap_of_not_isWrapped unwrapped]

/-- A path with empty parts and dollar signs at its ends is read back; a field between dollar signs
    is not. -/
theorem dollar_path_read_back :
    parts (token "$.user..email$") = ["$", "user", "email$"] ∧
      parts (token "$body$") ≠ ["$body$"] := by
  obtain ⟨reads, -⟩ := token_read_back
  have path : Text.Splits '.' "$.user..email$" ["$", "user", "", "email$"] :=
    ⟨by decide, by decide, by decide⟩
  have lone : Text.Splits '.' "$body$" ["$body$"] := ⟨by decide, by decide, by decide⟩
  constructor
  · exact (reads _ _ path).mpr (.inl (by decide))
  · intro same
    rcases (reads _ _ lone).mp same with dotted | unwrapped
    · exact absurd dotted (by decide)
    · exact unwrapped ⟨by decide, by decide, by decide⟩

end QueryDesk.FieldPath
