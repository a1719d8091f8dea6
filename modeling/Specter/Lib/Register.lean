import Mathlib.Data.List.Induction

/-!
# Last-write registers

A fold over a stream keeps a *register* when the component it projects
to is only ever replaced: an element of the stream either writes a new
value or leaves the old one. The component then holds the last value
written, whatever else the fold does - no matter which elements the
writes are interleaved with, and no matter what the other components of
the state are.
-/

namespace Register

variable {α β σ : Type*}

/-- The last value written by `xs`, `init` if nothing is written. -/
def last (w : α → Option β) (init : β) (xs : List α) : β :=
  (xs.filterMap w).getLast?.getD init

/-- `step` keeps `proj` as a register with writes `w`. -/
def Keeps (step : σ → α → σ) (proj : σ → β) (w : α → Option β) : Prop :=
  ∀ s a, proj (step s a) = (w a).getD (proj s)

/-! ## Reading the last write off the stream -/

@[simp] theorem last_nil (w : α → Option β) (init : β) : last w init [] = init := rfl

theorem last_append_singleton (w : α → Option β) (init : β) (xs : List α) (x : α) :
    last w init (xs ++ [x]) = (w x).getD (last w init xs) := by
  unfold last
  rw [List.filterMap_append]
  cases h : w x with
  | none => simp [h]
  | some b => simp [h]

theorem last_of_write {w : α → Option β} {init : β} {before after : List α} {x : α} {b : β}
    (hx : w x = some b) (hafter : ∀ y ∈ after, w y = none) :
    last w init (before ++ x :: after) = b := by
  have hnone : after.filterMap w = [] := List.filterMap_eq_nil_iff.mpr hafter
  simp [last, hx, hnone]

/-- Either nothing was written, or the value stems from one element that
no later one overwrites. -/
theorem last_eq_init_or (w : α → Option β) (init : β) (xs : List α) :
    ((∀ x ∈ xs, w x = none) ∧ last w init xs = init) ∨
      ∃ before x after b, xs = before ++ x :: after ∧ w x = some b
        ∧ (∀ y ∈ after, w y = none) ∧ last w init xs = b := by
  induction xs using List.reverseRecOn with
  | nil => exact Or.inl ⟨by simp, rfl⟩
  | append_singleton xs x ih =>
      rw [last_append_singleton]
      cases hx : w x with
      | some b => exact Or.inr ⟨xs, x, [], b, rfl, hx, by simp, rfl⟩
      | none =>
          rcases ih with ⟨hnone, hlast⟩ | ⟨before, y, after, b, rfl, hy, hafter, hlast⟩
          · refine Or.inl ⟨fun z hz => ?_, hlast⟩
            rcases List.mem_append.mp hz with h | h
            · exact hnone z h
            · rwa [List.mem_singleton.mp h]
          · refine Or.inr ⟨before, y, after ++ [x], b, by simp, hy, fun z hz => ?_, hlast⟩
            rcases List.mem_append.mp hz with h | h
            · exact hafter z h
            · rwa [List.mem_singleton.mp h]

/-! ## What the fold holds -/

theorem Keeps.foldl {step : σ → α → σ} {proj : σ → β} {w : α → Option β}
    (h : Keeps step proj w) (s : σ) (xs : List α) :
    proj (xs.foldl step s) = last w (proj s) xs := by
  induction xs using List.reverseRecOn with
  | nil => rfl
  | append_singleton xs x ih =>
      rw [List.foldl_append, last_append_singleton, ← ih]
      exact h _ x

end Register
