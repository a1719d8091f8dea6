import Mathlib.Data.List.DropRight

/-!
# Streaks

A streak counts the elements of a kind since the last element that
resets it: what a failure counter holds that every success clears.
-/

namespace Streak

variable {α : Type*}

/-- The elements after the last one that satisfies `reset`. -/
def sinceLast (reset : α → Bool) (xs : List α) : List α := xs.rtakeWhile fun x => !reset x

/-- How many of them satisfy `p`. -/
def streak (reset p : α → Bool) (xs : List α) : Nat := (sinceLast reset xs).countP p

@[simp] theorem streak_nil (reset p : α → Bool) : streak reset p [] = 0 := by
  simp [streak, sinceLast]

theorem streak_append_reset {reset p : α → Bool} {x : α} (xs : List α) (h : reset x = true) :
    streak reset p (xs ++ [x]) = 0 := by
  rw [streak, sinceLast, List.rtakeWhile_concat_neg _ _ _ (by simp [h])]
  rfl

theorem streak_append_keep {reset p : α → Bool} {x : α} (xs : List α) (h : reset x = false) :
    streak reset p (xs ++ [x]) = streak reset p xs + if p x then 1 else 0 := by
  rw [streak, sinceLast, List.rtakeWhile_concat_pos _ _ _ (by simp [h]), List.countP_append,
    List.countP_singleton]
  rfl

/-- As long as nothing has reset it, a streak counts everything. -/
theorem streak_of_no_reset {reset : α → Bool} (p : α → Bool) {xs : List α}
    (h : ∀ x ∈ xs, reset x = false) : streak reset p xs = xs.countP p := by
  have hall : sinceLast reset xs = xs :=
    List.rtakeWhile_eq_self_iff.mpr fun x hx => by simp [h x hx]
  rw [streak, hall]

end Streak
