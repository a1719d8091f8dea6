import Mathlib.Data.List.Induction

/-!
# Runs of a machine that may stop with an error

A machine takes inputs one at a time and either moves to a next state or
ends with an error. Its runs are the monadic folds of its step over
input lists; this module has the one induction rule every invariant of
a run goes through, the splitting of a run at a point, and what a run
puts out on its way.
-/

namespace Run

variable {ε ι σ : Type}

/-- The state after the inputs `is`, or the error that ended the run. -/
def run (step : σ → ι → Except ε σ) (s : σ) (is : List ι) : Except ε σ :=
  is.foldlM step s

variable {step : σ → ι → Except ε σ} {s s' : σ}

@[simp] theorem run_nil : run step s [] = .ok s := rfl

theorem run_cons_ok {i : ι} {is : List ι} {t : σ} (h : step s i = .ok t) :
    run step s (i :: is) = run step t is := by
  rw [run, List.foldlM_cons, h]; rfl

theorem run_cons_error {i : ι} {is : List ι} {e : ε} (h : step s i = .error e) :
    run step s (i :: is) = .error e := by
  rw [run, List.foldlM_cons, h]; rfl

theorem run_append (is js : List ι) :
    run step s (is ++ js) = (run step s is >>= fun t => run step t js) := by
  simp [run, List.foldlM_append]

theorem run_append_ok {is js : List ι} (h : run step s (is ++ js) = .ok s') :
    ∃ t, run step s is = .ok t ∧ run step t js = .ok s' := by
  rw [run_append] at h
  cases ht : run step s is with
  | error e => rw [ht] at h; cases h
  | ok t => rw [ht] at h; exact ⟨t, rfl, h⟩

theorem run_append_of_ok {is js : List ι} {t : σ} (h : run step s is = .ok t) :
    run step s (is ++ js) = run step t js := by
  rw [run_append, h]; rfl

theorem run_append_singleton {is : List ι} {i : ι} {t : σ}
    (h : run step s is = .ok t) : run step s (is ++ [i]) = step t i := by
  rw [run_append_of_ok h]
  simp [run]

/-- **Run induction.** What holds of the start with no inputs taken, and
is handed on by every step together with the inputs taken so far, holds
at the end of every run. -/
theorem run_induction {P : List ι → σ → Prop} (h0 : P [] s)
    (hstep : ∀ is t i t', run step s is = .ok t → P is t → step t i = .ok t' →
      P (is ++ [i]) t') :
    ∀ {is t}, run step s is = .ok t → P is t := by
  intro is
  induction is using List.reverseRecOn with
  | nil => intro t h; cases h; exact h0
  | append_singleton is i ih =>
      intro t' h
      obtain ⟨t, ht, hi⟩ := run_append_ok h
      rw [← run_append_of_ok ht, run_append_singleton ht] at hi
      exact hstep is t i t' ht (ih ht) hi

/-! ## Outputs -/

section Outputs

variable {ω : Type} {out : σ → ι → List ω}

/-- What the steps of a run put out, the step that ends it included. -/
def outputs (step : σ → ι → Except ε σ) (out : σ → ι → List ω) : σ → List ι → List ω
  | _, [] => []
  | s, i :: is =>
    out s i ++
      match step s i with
      | .ok t => outputs step out t is
      | .error _ => []

theorem outputs_append_of_ok {is : List ι} {t : σ} (js : List ι) (h : run step s is = .ok t) :
    outputs step out s (is ++ js) = outputs step out s is ++ outputs step out t js := by
  induction is generalizing s with
  | nil => cases h; rfl
  | cons i is ih =>
      cases hi : step s i with
      | error e => rw [run_cons_error hi] at h; cases h
      | ok m =>
          rw [run_cons_ok hi] at h
          simp only [List.cons_append, outputs, hi, ih h, List.append_assoc]

theorem outputs_append_singleton {is : List ι} {t : σ} (i : ι) (h : run step s is = .ok t) :
    outputs step out s (is ++ [i]) = outputs step out s is ++ out t i := by
  rw [outputs_append_of_ok [i] h]
  cases hi : step t i <;> simp [outputs, hi]

end Outputs

end Run
