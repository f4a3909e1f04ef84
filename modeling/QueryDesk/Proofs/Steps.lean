import QueryDesk.Validation

/-!
# Results of steps

A chain of steps gives a result only if each of its steps does, and so does a list of independent
answers.
-/

namespace QueryDesk

theorem ok_bind {ε α β : Type} (a : α) (next : α → Except ε β) :
    ((.ok a : Except ε α) >>= next) = next a :=
  rfl

theorem bind_eq_ok_iff {ε α β : Type} {step : Except ε α} {next : α → Except ε β} {b : β} :
    (step >>= next) = .ok b ↔ ∃ a, step = .ok a ∧ next a = .ok b := by
  cases step with
  | error fault => simp [bind, Except.bind]
  | ok a => simp [bind, Except.bind]

theorem mapError_eq_ok_iff {ε ε' α : Type} {result : Except ε α} {f : ε → ε'} {a : α} :
    result.mapError f = .ok a ↔ result = .ok a := by
  cases result with
  | error fault => constructor <;> rintro ⟨⟩
  | ok a => constructor <;> (rintro ⟨⟩; rfl)

theorem map_eq_ok_iff {ε α β : Type} {result : Except ε α} {f : α → β} {b : β} :
    result.map f = .ok b ↔ ∃ a, result = .ok a ∧ f a = b := by
  cases result with
  | error fault => simp [Except.map]
  | ok a => simp [Except.map]

theorem toOption_eq_some_iff {ε α : Type} {result : Except ε α} {a : α} :
    result.toOption = some a ↔ result = .ok a := by
  cases result with
  | error fault => simp [Except.toOption]
  | ok b => simp [Except.toOption]

theorem toOption_map_eq_some_iff {ε α β : Type} {result : Except ε α} {f : α → β} {b : β} :
    result.toOption.map f = some b ↔ ∃ a, result = .ok a ∧ f a = b := by
  simp only [Option.map_eq_some_iff, toOption_eq_some_iff]

theorem exists_ok_of_isSome {ε α : Type} {result : Except ε α}
    (gives : result.toOption.isSome = true) : ∃ a, result = .ok a := by
  obtain ⟨a, found⟩ := Option.isSome_iff_exists.mp gives
  exact ⟨a, toOption_eq_some_iff.mp found⟩

namespace Validation

theorem both_eq_ok_iff {α β : Type} {first : Validated α} {second : Validated β} {a : α} {b : β} :
    both first second = .ok (a, b) ↔ first = .ok a ∧ second = .ok b := by
  cases first <;> cases second <;> simp [both]

theorem every_cons_eq_ok_iff {α : Type} {first : Validated α} {rest : List (Validated α)}
    {values : List α} : every (first :: rest) = .ok values ↔
      ∃ a others, first = .ok a ∧ every rest = .ok others ∧ a :: others = values := by
  simp only [every, map_eq_ok_iff, Prod.exists, both_eq_ok_iff, and_assoc]

end Validation

end QueryDesk
