import Mathlib.Data.List.Forall2

/-!
Steps that may fail, one after the other. A chain of them gives a value exactly when every step
does, and otherwise the error of the first step that fails.
-/

namespace Predictor

variable {ε α β : Type}

@[simp] theorem ok_bind (a : α) (next : α → Except ε β) : Except.ok a >>= next = next a := rfl

@[simp] theorem error_bind (e : ε) (next : α → Except ε β) :
    Except.error e >>= next = .error e := rfl

theorem bind_eq_ok_iff {step : Except ε α} {next : α → Except ε β} {b : β} :
    step >>= next = .ok b ↔ ∃ a, step = .ok a ∧ next a = .ok b := by
  cases step <;> simp

theorem bind_eq_error_iff {step : Except ε α} {next : α → Except ε β} {e : ε} :
    step >>= next = .error e ↔ step = .error e ∨ ∃ a, step = .ok a ∧ next a = .error e := by
  cases step <;> simp

/-! ## Lists -/

variable {f : α → Except ε β} {l : List α}

theorem mapM_eq_ok_iff {found : List β} :
    l.mapM f = .ok found ↔ List.Forall₂ (fun a b => f a = .ok b) l found := by
  induction l generalizing found with
  | nil => cases found <;> simp [pure, Except.pure]
  | cons a rest ih =>
    simp only [List.mapM_cons, bind_eq_ok_iff, ih, List.forall₂_cons_left_iff]
    constructor
    · rintro ⟨b, head, more, tail, ⟨⟩⟩
      exact ⟨b, more, head, tail, rfl⟩
    · rintro ⟨b, more, head, tail, rfl⟩
      exact ⟨b, head, more, tail, rfl⟩

theorem exists_mapM_iff : (∃ found, l.mapM f = .ok found) ↔ ∀ a ∈ l, ∃ b, f a = .ok b := by
  simp only [mapM_eq_ok_iff]
  induction l with
  | nil => exact iff_of_true ⟨[], .nil⟩ (by simp)
  | cons a rest ih =>
    rw [List.forall_mem_cons, ← ih]
    constructor
    · rintro ⟨_, _ | ⟨head, tail⟩⟩
      exact ⟨⟨_, head⟩, _, tail⟩
    · rintro ⟨⟨b, head⟩, more, tail⟩
      exact ⟨b :: more, .cons head tail⟩

/-- The elements in front of the first bad one are good. -/
theorem mapM_eq_error_iff {e : ε} : l.mapM f = .error e ↔
    ∃ front bad back, l = front ++ bad :: back ∧ (∀ a ∈ front, ∃ b, f a = .ok b) ∧
      f bad = .error e := by
  induction l with
  | nil => simp [pure, Except.pure]
  | cons a rest ih =>
    simp only [List.mapM_cons, bind_eq_error_iff, ih]
    constructor
    · rintro (head | ⟨b, head, ⟨front, bad, back, rfl, good, failed⟩ | ⟨_, _, ⟨⟩⟩⟩)
      · exact ⟨[], a, rest, rfl, by simp, head⟩
      · exact ⟨a :: front, bad, back, rfl, List.forall_mem_cons.2 ⟨⟨b, head⟩, good⟩, failed⟩
    · rintro ⟨front | ⟨b, front⟩, bad, back, split, good, failed⟩
      · obtain ⟨rfl, rfl⟩ := List.cons.inj split
        exact .inl failed
      · obtain ⟨rfl, rfl⟩ := List.cons.inj split
        obtain ⟨⟨b, head⟩, good⟩ := List.forall_mem_cons.1 good
        exact .inr ⟨b, head, .inl ⟨front, bad, back, rfl, good, failed⟩⟩

end Predictor
