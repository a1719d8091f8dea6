import Specter.Lib.Shell

/-!
# What a script has executed

A machine can be made to keep a log of the commands it executes, with
their statuses, beside its state. Scripts behave on it as they do
without one (`eval_logged`).

Without `pipefail`, a failure that a completed script has in its log is
that of a command whose status is tested or lost (`masked`), and a
script that exits has in its log the failure of a command whose status
counts (`fatal`). Both are read off the script.
-/

namespace Shell

variable {C σ T : Type}

def Machine.logged (m : Machine C σ T) : Machine C (σ × List (C × Nat)) T where
  exec c s input :=
    let r := m.exec c s.1 input
    ⟨r.status, r.output, (r.state, s.2 ++ [(c, r.status)])⟩
  pipefail := m.pipefail

theorem pipe_logged (m : Machine C σ T) (c : C) (cs : List C) (s : σ × List (C × Nat))
    (input : T) :
    pipe m c cs s.1 input = Prod.map id Prod.fst (pipe m.logged c cs s input) := by
  induction cs generalizing c s input with
  | nil => rfl
  | cons d ds ih =>
      have hrest := ih d (m.logged.exec c s input).state (m.logged.exec c s input).output
      simp only [pipe, Machine.logged] at hrest ⊢
      rw [hrest]
      rfl

theorem pipe_ne_nil (m : Machine C σ T) (c : C) (cs : List C) (s : σ) (input : T) :
    (pipe m c cs s input).1 ≠ [] := by
  cases cs <;> simp [pipe]

theorem getLastD_pipe_cons (m : Machine C σ T) (c d : C) (ds : List C) (s : σ) (input : T) :
    (pipe m c (d :: ds) s input).1.getLastD 0 =
      (pipe m d ds (m.exec c s input).state (m.exec c s input).output).1.getLastD 0 := by
  have hne := pipe_ne_nil m d ds (m.exec c s input).state (m.exec c s input).output
  simp only [pipe]
  rw [List.getLastD_eq_getLast?, List.getLastD_eq_getLast?, List.getLast?_cons,
    List.getLast?_eq_some_getLast hne]
  rfl

variable {m : Machine C σ T} {a : Script C}

theorem pipe_masked {c : C} {cs : List C} {s : σ × List (C × Nat)} {input : T}
    (h : (pipe m.logged c cs s input).1.getLastD 0 = 0) :
    ∀ x ∈ (pipe m.logged c cs s input).2.2,
      x ∈ s.2 ∨ x.2 = 0 ∨ x.1 ∈ (c :: cs).dropLast := by
  induction cs generalizing c s input with
  | nil =>
      intro x hx
      rcases List.mem_append.mp hx with hx | hx
      · exact Or.inl hx
      · rw [List.mem_singleton.mp hx]
        exact Or.inr (Or.inl h)
  | cons d ds ih =>
      rw [getLastD_pipe_cons] at h
      intro x hx
      rcases ih h x hx with hold | hzero | hmem
      · rcases List.mem_append.mp hold with hold | hnew
        · exact Or.inl hold
        · rw [List.mem_singleton.mp hnew]
          exact Or.inr (Or.inr List.mem_cons_self)
      · exact Or.inr (Or.inl hzero)
      · exact Or.inr (Or.inr (List.mem_cons_of_mem _ hmem))

/-- A failure of one of `cs` is in the log. -/
def FailedIn (cs : List C) (log : List (C × Nat)) : Prop :=
  ∃ x ∈ log, x.2 ≠ 0 ∧ x.1 ∈ cs

theorem FailedIn.mono {cs cs' : List C} {log : List (C × Nat)} (hsub : cs ⊆ cs')
    (h : FailedIn cs log) : FailedIn cs' log := by
  obtain ⟨x, hx, hk, hc⟩ := h
  exact ⟨x, hx, hk, hsub hc⟩

theorem pipe_failed {c : C} {cs : List C} {s : σ × List (C × Nat)} {input : T}
    (h : (pipe m.logged c cs s input).1.getLastD 0 ≠ 0) :
    FailedIn [cs.getLastD c] (pipe m.logged c cs s input).2.2 := by
  induction cs generalizing c s input with
  | nil =>
      exact ⟨(c, (m.exec c s.1 input).status),
        List.mem_append_right _ (List.mem_singleton_self _), h, List.mem_singleton_self _⟩
  | cons d ds ih =>
      rw [getLastD_pipe_cons] at h
      rw [List.getLastD_cons]
      exact ih h

theorem pipe_congr {m m' : Machine C σ T} {c : C} {cs : List C}
    (h : ∀ d ∈ c :: cs, ∀ s input, m.exec d s input = m'.exec d s input) (s : σ) (input : T) :
    pipe m c cs s input = pipe m' c cs s input := by
  induction cs generalizing c s input with
  | nil => simp only [pipe, h c List.mem_cons_self s input]
  | cons d ds ih =>
      simp only [pipe, h c List.mem_cons_self s input]
      rw [ih fun e he => h e (List.mem_cons_of_mem _ he)]

theorem pipe_first (m : Machine C σ T) (c : C) (cs : List C) (s : σ × List (C × Nat))
    (input : T) : (c, (m.exec c s.1 input).status) ∈ (pipe m.logged c cs s input).2.2 := by
  have hmem : (c, (m.exec c s.1 input).status) ∈ (m.logged.exec c s input).state.2 :=
    List.mem_append_right _ (List.mem_singleton_self _)
  cases cs with
  | nil => exact hmem
  | cons d ds =>
      let r := m.logged.exec c s input
      have hkeeps : r.state.2 ⊆ (pipe m.logged d ds r.state r.output).2.2 :=
        pipe_keeps (m := m.logged) (R := fun s t => s.2 ⊆ t.2) (fun _ _ _ => List.Subset.trans)
          (fun _ _ _ _ => List.subset_append_left _ _) _ _
      exact hkeeps hmem

variable [Inhabited T]

/-- **Logging is silent.** -/
theorem eval_logged (m : Machine C σ T) (a : Script C) (checked : Bool)
    (s : σ × List (C × Nat)) :
    eval m a checked s.1 = Prod.map id Prod.fst (eval m.logged a checked s) := by
  induction a generalizing checked s with
  | skip => rfl
  | pipeline c cs =>
      simp only [eval, pipe_logged m c cs s default]
      rfl
  | withOutput c d => rfl
  | orElse a b iha ihb =>
      simp only [eval, iha false s]
      rcases eval m.logged a false s with ⟨status | status, t⟩
      · by_cases h : status = 0
        · simp [Prod.map, h]
        · simpa [Prod.map, h] using ihb checked t
      · rfl
  | andThen a b iha ihb =>
      simp only [eval, iha false s]
      rcases eval m.logged a false s with ⟨status | status, t⟩
      · by_cases h : status = 0
        · simpa [Prod.map, h] using ihb checked t
        · simp [Prod.map, h]
      · rfl
  | ifThenElse c a b ihc iha ihb =>
      simp only [eval, ihc false s]
      rcases eval m.logged c false s with ⟨status | status, t⟩
      · by_cases h : status = 0
        · simpa [Prod.map, h] using iha checked t
        · simpa [Prod.map, h] using ihb checked t
      · rfl
  | subshell a iha =>
      simp only [eval, iha checked s]
      rfl
  | seq a b iha ihb =>
      simp only [eval, iha checked s]
      rcases eval m.logged a checked s with ⟨status | status, t⟩
      · exact ihb checked t
      · rfl

/-- The commands a script executes, with their statuses. -/
def executed (m : Machine C σ T) (a : Script C) (s : σ) : List (C × Nat) :=
  (eval m.logged a true (s, [])).2.2

/-- Nothing is taken out of the log, and only commands of the script go in. -/
theorem eval_log (m : Machine C σ T) (a : Script C) (checked : Bool) (s : σ × List (C × Nat)) :
    s.2 ⊆ (eval m.logged a checked s).2.2 ∧
      ∀ x ∈ (eval m.logged a checked s).2.2, x ∈ s.2 ∨ x.1 ∈ a.commands := by
  refine eval_keeps (m := m.logged)
    (R := fun s t => s.2 ⊆ t.2 ∧ ∀ x ∈ t.2, x ∈ s.2 ∨ x.1 ∈ a.commands)
    (fun s => ⟨List.Subset.refl _, fun x hx => Or.inl hx⟩) ?_ ?_ checked s
  · rintro s t u ⟨hst, hs⟩ ⟨htu, ht⟩
    exact ⟨List.Subset.trans hst htu, fun x hx => (ht x hx).elim (hs x) Or.inr⟩
  · intro c hc s input
    refine ⟨List.subset_append_left _ _, fun x hx => (List.mem_append.mp hx).imp id fun hx => ?_⟩
    rw [List.mem_singleton.mp hx]
    exact hc

/-- What a script does not contain, it has not logged. -/
theorem mem_log_before {s t : σ × List (C × Nat)} (h : Completes m.logged a s t) {c : C}
    {k : Nat} (hx : (c, k) ∈ t.2) (hc : c ∉ a.commands) : (c, k) ∈ s.2 := by
  have hlog := (eval_log m a true s).2
  rw [h.eval_eq] at hlog
  exact (hlog (c, k) hx).resolve_right hc

/-! ## Failures that do not count -/

/-- The commands a completed script may have seen fail. -/
def Script.masked : Script C → List C
  | .skip => []
  | .pipeline c cs => (c :: cs).dropLast
  | .withOutput c _ => [c]
  | .orElse a b | .andThen a b => a.commands ++ b.masked
  | .ifThenElse cond thn els => cond.commands ++ thn.masked ++ els.masked
  | .subshell a => a.masked
  | .seq a b => a.masked ++ b.masked

/-- What a script does unchecked, it can have seen fail. -/
theorem mem_log_unchecked {s t : σ × List (C × Nat)} {flow : Flow}
    (h : eval m.logged a false s = (flow, t)) :
    ∀ x ∈ t.2, x ∈ s.2 ∨ x.2 = 0 ∨ x.1 ∈ a.commands := by
  intro x hx
  have hlog := (eval_log m a false s).2
  rw [h] at hlog
  exact (hlog x hx).imp id Or.inr

theorem masked_of_next (hpf : m.pipefail = false) {n : Nat} {s t : σ × List (C × Nat)}
    (h : eval m.logged a true s = (.next n, t)) :
    ∀ x ∈ t.2, x ∈ s.2 ∨ x.2 = 0 ∨ x.1 ∈ a.masked := by
  -- one part after another
  have chain {ms ms' : List C} {s t u : σ × List (C × Nat)}
      (hst : ∀ x ∈ t.2, x ∈ s.2 ∨ x.2 = 0 ∨ x.1 ∈ ms)
      (htu : ∀ x ∈ u.2, x ∈ t.2 ∨ x.2 = 0 ∨ x.1 ∈ ms') :
      ∀ x ∈ u.2, x ∈ s.2 ∨ x.2 = 0 ∨ x.1 ∈ ms ++ ms' := by
    intro x hx
    rcases htu x hx with hx | hx | hx
    · rcases hst x hx with hx | hx | hx
      · exact Or.inl hx
      · exact Or.inr (Or.inl hx)
      · exact Or.inr (Or.inr (List.mem_append_left _ hx))
    · exact Or.inr (Or.inl hx)
    · exact Or.inr (Or.inr (List.mem_append_right _ hx))
  have weaken {ms ms' : List C} {s t : σ × List (C × Nat)} (hsub : ms ⊆ ms')
      (hst : ∀ x ∈ t.2, x ∈ s.2 ∨ x.2 = 0 ∨ x.1 ∈ ms) :
      ∀ x ∈ t.2, x ∈ s.2 ∨ x.2 = 0 ∨ x.1 ∈ ms' :=
    fun x hx => (hst x hx).imp id (Or.imp id fun h => hsub h)
  induction a generalizing n s t with
  | skip => cases h; exact fun x hx => Or.inl hx
  | pipeline c cs =>
      simp only [eval, Flow.of, true_and, Prod.mk.injEq] at h
      obtain ⟨hflow, rfl⟩ := h
      split at hflow
      · cases hflow
      · rename_i hzero
        have hlast : (pipe m.logged c cs s default).1.getLastD 0 = 0 := by
          simpa [pipeStatus, Machine.logged, hpf] using hzero
        exact pipe_masked hlast
  | withOutput c d =>
      simp only [eval, Flow.of, true_and, Prod.mk.injEq] at h
      obtain ⟨hflow, rfl⟩ := h
      split at hflow
      · cases hflow
      · rename_i hzero
        have hlast : (pipe m.logged c [d] s default).1.getLastD 0 = 0 := by
          simpa [pipe] using hzero
        exact pipe_masked hlast
  | orElse a b iha ihb =>
      simp only [eval] at h
      split at h
      · rename_i k u heq
        have hu := mem_log_unchecked heq
        split at h
        · cases h
          exact weaken (List.subset_append_left _ _) hu
        · exact chain hu (ihb h)
      · cases h
  | andThen a b iha ihb =>
      simp only [eval] at h
      split at h
      · rename_i k u heq
        have hu := mem_log_unchecked heq
        split at h
        · exact chain hu (ihb h)
        · cases h
          exact weaken (List.subset_append_left _ _) hu
      · cases h
  | ifThenElse c a b ihc iha ihb =>
      simp only [eval] at h
      split at h
      · rename_i k u heq
        have hu := mem_log_unchecked heq
        split at h
        · exact weaken (List.subset_append_left _ _) (chain hu (iha h))
        · refine weaken ?_ (chain hu (ihb h))
          intro x hx
          simp only [Script.masked, List.mem_append] at hx ⊢
          tauto
      · cases h
  | subshell a iha =>
      simp only [eval, Prod.mk.injEq] at h
      obtain ⟨hflow, rfl⟩ := h
      cases hinner : eval m.logged a true s with
      | mk flow u =>
          cases flow with
          | next k => exact iha hinner
          | exit k =>
              rw [hinner] at hflow
              have hk := exit_ne_zero hinner
              simp [Flow.of, Flow.status, hk] at hflow
  | seq a b iha ihb =>
      simp only [eval] at h
      split at h
      · rename_i k u heq
        exact chain (iha heq) (ihb h)
      · cases h

/-- **What a completed script has seen fail** is among its masked commands. -/
theorem masked_of_completes (hpf : m.pipefail = false) {s s' : σ} (h : Completes m a s s')
    {c : C} {k : Nat} (hmem : (c, k) ∈ executed m a s) (hk : k ≠ 0) : c ∈ a.masked := by
  obtain ⟨n, hn⟩ := h
  have hlogged := eval_logged m a true (s, [])
  rw [hn] at hlogged
  cases heq : eval m.logged a true (s, []) with
  | mk flow t =>
      rw [heq] at hlogged
      obtain ⟨rfl, -⟩ := Prod.mk.inj hlogged
      rw [executed, heq] at hmem
      rcases masked_of_next hpf heq (c, k) hmem with hx | hx | hx
      · cases hx
      · exact absurd hx hk
      · exact hx

/-! ## Failures that count -/

/-- The commands whose failing status a completed script can end with. -/
def Script.carried : Script C → List C
  | .skip | .pipeline _ _ | .withOutput _ _ | .subshell _ => []
  | .orElse _ b | .seq _ b => b.carried
  | .andThen a b => a.commands ++ b.carried
  | .ifThenElse _ thn els => thn.carried ++ els.carried

/-- The commands whose failure a script can exit at. -/
def Script.fatal : Script C → List C
  | .skip => []
  | .pipeline c cs => [cs.getLastD c]
  | .withOutput _ d => [d]
  | .orElse _ b | .andThen _ b => b.fatal
  | .ifThenElse _ thn els => thn.fatal ++ els.fatal
  | .subshell a => a.fatal ++ a.carried
  | .seq a b => a.fatal ++ b.fatal

/-- Unchecked, a script never exits. -/
theorem exists_next_unchecked (m : Machine C σ T) (a : Script C) (s : σ) :
    ∃ n t, eval m a false s = (.next n, t) := by
  induction a generalizing s with
  | skip => exact ⟨0, s, rfl⟩
  | pipeline c cs => exact ⟨_, _, by simp [eval, Flow.of]; exact ⟨rfl, rfl⟩⟩
  | withOutput c d => exact ⟨_, _, by simp [eval, Flow.of]; exact ⟨rfl, rfl⟩⟩
  | orElse a b iha ihb =>
      obtain ⟨n, t, h⟩ := iha s
      simp only [eval, h]
      split
      · exact ⟨0, t, rfl⟩
      · exact ihb t
  | andThen a b iha ihb =>
      obtain ⟨n, t, h⟩ := iha s
      simp only [eval, h]
      split
      · exact ihb t
      · exact ⟨n, t, rfl⟩
  | ifThenElse c a b ihc iha ihb =>
      obtain ⟨n, t, h⟩ := ihc s
      simp only [eval, h]
      split
      · exact iha t
      · exact ihb t
  | subshell a iha =>
      obtain ⟨n, t, h⟩ := iha s
      exact ⟨n, t, by simp [eval, h, Flow.of, Flow.status]⟩
  | seq a b iha ihb =>
      obtain ⟨n, t, h⟩ := iha s
      simp only [eval, h]
      exact ihb t

theorem failed_unchecked (hpf : m.pipefail = false) {n : Nat} {s t : σ × List (C × Nat)}
    (h : eval m.logged a false s = (.next n, t)) (hn : n ≠ 0) : FailedIn a.commands t.2 := by
  induction a generalizing n s t with
  | skip => cases h; exact absurd rfl hn
  | pipeline c cs =>
      simp only [eval, Flow.of, Bool.false_eq_true, false_and, if_false, Prod.mk.injEq,
        Flow.next.injEq] at h
      obtain ⟨rfl, rfl⟩ := h
      refine FailedIn.mono ?_ (pipe_failed (by simpa [pipeStatus, Machine.logged, hpf] using hn))
      exact List.cons_subset.mpr ⟨List.getLastD_mem_cons, List.nil_subset _⟩
  | withOutput c d =>
      simp only [eval, Flow.of, Bool.false_eq_true, false_and, if_false, Prod.mk.injEq,
        Flow.next.injEq] at h
      obtain ⟨rfl, rfl⟩ := h
      have hlast : (pipe m.logged c [d] s default).1.getLastD 0 ≠ 0 := by
        simpa [pipe] using hn
      exact FailedIn.mono (List.subset_cons_self c [d]) (pipe_failed hlast)
  | orElse a b iha ihb =>
      obtain ⟨k, u, hk⟩ := exists_next_unchecked m.logged a s
      simp only [eval, hk] at h
      split at h
      · cases h; exact absurd rfl hn
      · exact FailedIn.mono (List.subset_append_right _ _) (ihb h hn)
  | andThen a b iha ihb =>
      obtain ⟨k, u, hk⟩ := exists_next_unchecked m.logged a s
      simp only [eval, hk] at h
      split at h
      · exact FailedIn.mono (List.subset_append_right _ _) (ihb h hn)
      · cases h
        exact FailedIn.mono (List.subset_append_left _ _) (iha hk hn)
  | ifThenElse c a b ihc iha ihb =>
      obtain ⟨k, u, hk⟩ := exists_next_unchecked m.logged c s
      simp only [eval, hk] at h
      split at h
      · refine FailedIn.mono ?_ (iha h hn)
        intro x hx
        simp [Script.commands, hx]
      · exact FailedIn.mono (List.subset_append_right _ _) (ihb h hn)
  | subshell a iha =>
      obtain ⟨k, u, hk⟩ := exists_next_unchecked m.logged a s
      simp only [eval, hk, Flow.of, Bool.false_eq_true, false_and, if_false, Prod.mk.injEq,
        Flow.next.injEq] at h
      obtain ⟨rfl, rfl⟩ := h
      exact iha hk hn
  | seq a b iha ihb =>
      obtain ⟨k, u, hk⟩ := exists_next_unchecked m.logged a s
      simp only [eval, hk] at h
      exact FailedIn.mono (List.subset_append_right _ _) (ihb h hn)

theorem carried_of_next (hpf : m.pipefail = false) {n : Nat} {s t : σ × List (C × Nat)}
    (h : eval m.logged a true s = (.next n, t)) (hn : n ≠ 0) : FailedIn a.carried t.2 := by
  have of_zero {k : Nat} (hk : Flow.of true k = .next n) : False := by
    unfold Flow.of at hk
    split at hk
    · cases hk
    · rename_i hzero
      cases hk
      exact hzero ⟨rfl, hn⟩
  induction a generalizing s t with
  | skip => cases h; exact absurd rfl hn
  | pipeline c cs => exact (of_zero (congrArg Prod.fst h)).elim
  | withOutput c d => exact (of_zero (congrArg Prod.fst h)).elim
  | orElse a b _ ihb =>
      obtain ⟨k, u, hk⟩ := exists_next_unchecked m.logged a s
      simp only [eval, hk] at h
      split at h
      · cases h; exact absurd rfl hn
      · exact ihb h
  | andThen a b _ ihb =>
      obtain ⟨k, u, hk⟩ := exists_next_unchecked m.logged a s
      simp only [eval, hk] at h
      split at h
      · exact FailedIn.mono (List.subset_append_right _ _) (ihb h)
      · cases h
        exact FailedIn.mono (List.subset_append_left _ _) (failed_unchecked hpf hk hn)
  | ifThenElse c a b _ iha ihb =>
      obtain ⟨k, u, hk⟩ := exists_next_unchecked m.logged c s
      simp only [eval, hk] at h
      split at h
      · exact FailedIn.mono (List.subset_append_left _ _) (iha h)
      · exact FailedIn.mono (List.subset_append_right _ _) (ihb h)
  | subshell a _ => exact (of_zero (congrArg Prod.fst h)).elim
  | seq a b _ ihb =>
      simp only [eval] at h
      split at h
      · exact ihb h
      · cases h

theorem fatal_of_exit (hpf : m.pipefail = false) {n : Nat} {s t : σ × List (C × Nat)}
    (h : eval m.logged a true s = (.exit n, t)) : FailedIn a.fatal t.2 := by
  have ne_zero {k n : Nat} (hk : Flow.of true k = .exit n) : k ≠ 0 := by
    unfold Flow.of at hk
    split at hk
    · rename_i hne
      exact hne.2
    · cases hk
  induction a generalizing n s t with
  | skip => cases h
  | pipeline c cs =>
      have hstatus := ne_zero (congrArg Prod.fst h)
      obtain rfl := congrArg Prod.snd h
      exact pipe_failed (by simpa [pipeStatus, Machine.logged, hpf] using hstatus)
  | withOutput c d =>
      have hstatus := ne_zero (congrArg Prod.fst h)
      obtain rfl := congrArg Prod.snd h
      have hlast : (pipe m.logged c [d] s default).1.getLastD 0 ≠ 0 := by
        simpa [pipe] using hstatus
      exact pipe_failed hlast
  | orElse a b _ ihb =>
      obtain ⟨k, u, hk⟩ := exists_next_unchecked m.logged a s
      simp only [eval, hk] at h
      split at h
      · cases h
      · exact ihb h
  | andThen a b _ ihb =>
      obtain ⟨k, u, hk⟩ := exists_next_unchecked m.logged a s
      simp only [eval, hk] at h
      split at h
      · exact ihb h
      · cases h
  | ifThenElse c a b _ iha ihb =>
      obtain ⟨k, u, hk⟩ := exists_next_unchecked m.logged c s
      simp only [eval, hk] at h
      split at h
      · exact FailedIn.mono (List.subset_append_left _ _) (iha h)
      · exact FailedIn.mono (List.subset_append_right _ _) (ihb h)
  | subshell a iha =>
      have hstatus := ne_zero (congrArg Prod.fst h)
      obtain rfl := congrArg Prod.snd h
      cases hinner : eval m.logged a true s with
      | mk flow u =>
          rw [hinner] at hstatus
          simp only [eval, hinner]
          cases flow with
          | exit k => exact FailedIn.mono (List.subset_append_left _ _) (iha hinner)
          | next k =>
              exact FailedIn.mono (List.subset_append_right _ _)
                (carried_of_next hpf hinner hstatus)
  | seq a b iha ihb =>
      simp only [eval] at h
      split at h
      · exact FailedIn.mono (List.subset_append_right _ _) (ihb h)
      · rename_i heq
        cases h
        exact FailedIn.mono (List.subset_append_left _ _) (iha heq)

/-- **What a script ends at** is a failure of one of its commands that count. -/
theorem fatal_of_status (hpf : m.pipefail = false) {s : σ} (h : (runScript m a s).2 ≠ 0) :
    FailedIn (a.fatal ++ a.carried) (executed m a s) := by
  have hstatus := congrArg (Flow.status ∘ Prod.fst) (eval_logged m a true (s, []))
  cases heq : eval m.logged a true (s, []) with
  | mk flow t =>
      rw [heq] at hstatus
      rw [executed, heq]
      replace h : flow.status ≠ 0 := fun hzero => h (hstatus.trans hzero)
      cases flow with
      | exit k => exact FailedIn.mono (List.subset_append_left _ _) (fatal_of_exit hpf heq)
      | next k => exact FailedIn.mono (List.subset_append_right _ _) (carried_of_next hpf heq h)

/-- A logged status is one that the command ended with, in a state that
the script has led to. -/
theorem eval_log_status {R : σ → σ → Prop} (hrefl : ∀ s, R s s)
    (htrans : ∀ s t u, R s t → R t u → R s u)
    (h : ∀ c ∈ a.commands, ∀ s input, R s (m.exec c s input).state) (checked : Bool)
    (s : σ × List (C × Nat)) :
    ∀ x ∈ (eval m.logged a checked s).2.2,
      x ∈ s.2 ∨ ∃ u input, R s.1 u ∧ (m.exec x.1 u input).status = x.2 := by
  refine (eval_keeps (m := m.logged) (a := a)
    (R := fun s t => R s.1 t.1 ∧
      ∀ x ∈ t.2, x ∈ s.2 ∨ ∃ u input, R s.1 u ∧ (m.exec x.1 u input).status = x.2)
    (fun s => ⟨hrefl s.1, fun x hx => Or.inl hx⟩) ?_ ?_ checked s).2
  · rintro s t u ⟨hst, hs⟩ ⟨htu, ht⟩
    refine ⟨htrans _ _ _ hst htu, fun x hx => (ht x hx).elim (hs x) ?_⟩
    rintro ⟨v, input, hv, hstatus⟩
    exact Or.inr ⟨v, input, htrans _ _ _ hst hv, hstatus⟩
  · intro c hc s input
    refine ⟨h c hc s.1 input, fun x hx => (List.mem_append.mp hx).imp id fun hx => ?_⟩
    rw [List.mem_singleton.mp hx]
    exact ⟨s.1, input, hrefl s.1, rfl⟩

theorem executed_status {s : σ} {x : C × Nat} (h : x ∈ executed m a s) :
    ∃ t input, (m.exec x.1 t input).status = x.2 := by
  have hlog := eval_log_status (m := m) (a := a) (R := fun _ _ => True) (fun _ => trivial)
    (fun _ _ _ _ _ => trivial) (fun _ _ _ _ => trivial) true (s, []) x h
  obtain ⟨t, input, -, hstatus⟩ := hlog.resolve_left List.not_mem_nil
  exact ⟨t, input, hstatus⟩

/-- The command a script begins with. -/
def Script.first? : Script C → Option C
  | .skip => none
  | .pipeline c _ | .withOutput c _ => some c
  | .orElse a _ | .andThen a _ | .seq a _ | .subshell a => a.first?
  | .ifThenElse cond _ _ => cond.first?

theorem first_mem_log {c : C} (h : a.first? = some c) (checked : Bool)
    (s : σ × List (C × Nat)) :
    (c, (m.exec c s.1 default).status) ∈ (eval m.logged a checked s).2.2 := by
  induction a generalizing checked s with
  | skip => cases h
  | pipeline c' cs =>
      cases h
      exact pipe_first m c cs s default
  | withOutput c' d =>
      cases h
      exact pipe_first m c [d] s default
  | orElse a b iha _ =>
      have ha := iha h false s
      obtain ⟨n, t, heq⟩ := exists_next_unchecked m.logged a s
      rw [heq] at ha
      simp only [eval, heq]
      split
      · exact ha
      · exact (eval_log m b checked t).1 ha
  | andThen a b iha _ =>
      have ha := iha h false s
      obtain ⟨n, t, heq⟩ := exists_next_unchecked m.logged a s
      rw [heq] at ha
      simp only [eval, heq]
      split
      · exact (eval_log m b checked t).1 ha
      · exact ha
  | ifThenElse cond a b ihc _ _ =>
      have ha := ihc h false s
      obtain ⟨n, t, heq⟩ := exists_next_unchecked m.logged cond s
      rw [heq] at ha
      simp only [eval, heq]
      split
      · exact (eval_log m a checked t).1 ha
      · exact (eval_log m b checked t).1 ha
  | subshell a iha => exact iha h checked s
  | seq a b iha _ =>
      have ha := iha h checked s
      simp only [eval]
      split
      · rename_i n t heq
        rw [heq] at ha
        exact (eval_log m b checked t).1 ha
      · rename_i n t heq
        rw [heq] at ha
        exact ha

theorem completes_logged {s s' : σ} (h : Completes m a s s') :
    Completes m.logged a (s, []) (s', executed m a s) := by
  obtain ⟨n, hn⟩ := h
  have hlogged := eval_logged m a true (s, [])
  rw [hn] at hlogged
  obtain ⟨hflow, hstate⟩ := Prod.mk.inj hlogged
  exact ⟨n, Prod.ext hflow.symm (Prod.ext hstate.symm rfl)⟩

/-- A completed block has executed the first command of its statements. -/
theorem first_executed {as : List (Script C)} {c : C} {s s' : σ} (ha : a ∈ as)
    (hc : a.first? = some c) (h : Completes m (.block as) s s') :
    ∃ u, (c, (m.exec c u default).status) ∈ executed m (.block as) s := by
  obtain ⟨t, t', -, hcompl, hlater⟩ := Completes.of_mem_block (m := m.logged)
    (R := fun s t => s.2 ⊆ t.2) (fun _ => List.Subset.refl _) (fun _ _ _ => List.Subset.trans)
    (fun _ _ _ _ => List.subset_append_left _ _) ha (completes_logged h)
  have hmem : _ ∈ (eval m.logged a true t).2.2 := first_mem_log hc true t
  rw [hcompl.eval_eq] at hmem
  exact ⟨t.1, hlater hmem⟩

theorem executed_append {as : List (Script C)} {s t : σ} (h : Completes m (.block as) s t)
    (bs : List (Script C)) :
    executed m (.block (as ++ bs)) s =
      (eval m.logged (.block bs) true (t, executed m (.block as) s)).2.2 :=
  congrArg Prod.snd ((completes_logged h).eval_block_append bs)

theorem first_block_cons (a : Script C) (as : List (Script C)) :
    (Script.block (a :: as)).first? = a.first? := by
  cases as <;> rfl

/-- What a completed block is followed by is begun. -/
theorem first_executed_append {as bs : List (Script C)} {c : C} {s t : σ}
    (h : Completes m (.block as) s t) (hc : a.first? = some c) :
    (c, (m.exec c t default).status) ∈ executed m (.block (as ++ a :: bs)) s := by
  rw [executed_append h]
  exact first_mem_log ((first_block_cons a bs).trans hc) true (t, _)

/-- A script none of whose commands that count fails completes. -/
theorem eval_of_fatal (hpf : m.pipefail = false)
    (h : ∀ c ∈ a.fatal ++ a.carried, ∀ t input, (m.exec c t input).status = 0) (s : σ) :
    ∃ s', eval m a true s = (.next 0, s') := by
  have hstatus : (runScript m a s).2 = 0 := by
    by_contra hne
    obtain ⟨x, hx, hfailed, hc⟩ := fatal_of_status hpf hne
    obtain ⟨t, input, hk⟩ := executed_status hx
    exact hfailed (hk.symm.trans (h x.1 hc t input))
  obtain ⟨n, hn⟩ := completes_of_status hstatus
  rw [runScript, hn] at hstatus
  obtain rfl : n = 0 := hstatus
  exact ⟨_, hn⟩

/-! ## Two machines -/

/-- A script behaves the same on machines that do the same for its commands. -/
theorem eval_congr {m m' : Machine C σ T} (hpf : m.pipefail = m'.pipefail) {a : Script C}
    (h : ∀ c ∈ a.commands, ∀ s input, m.exec c s input = m'.exec c s input) (checked : Bool)
    (s : σ) : eval m a checked s = eval m' a checked s := by
  induction a generalizing checked s with
  | skip => rfl
  | pipeline c cs => simp only [eval, pipe_congr h s default, pipeStatus, hpf]
  | withOutput c d =>
      simp only [eval, h c List.mem_cons_self, h d (List.mem_cons_of_mem _ List.mem_cons_self)]
  | orElse a b iha ihb | andThen a b iha ihb | seq a b iha ihb =>
      simp only [eval, iha fun c hc => h c (List.mem_append_left _ hc),
        ihb fun c hc => h c (List.mem_append_right _ hc)]
  | ifThenElse c a b ihc iha ihb =>
      have hsub (d : C) : d ∈ c.commands ∨ d ∈ a.commands ∨ d ∈ b.commands →
          ∀ s input, m.exec d s input = m'.exec d s input := fun hd =>
        h d (by simpa [Script.commands, or_assoc] using hd)
      simp only [eval, ihc fun d hd => hsub d (Or.inl hd),
        iha fun d hd => hsub d (Or.inr (Or.inl hd)), ihb fun d hd => hsub d (Or.inr (Or.inr hd))]
  | subshell a iha => simp only [eval, iha h]

theorem eval_block_congr {m m' : Machine C σ T} {as : List (Script C)}
    (h : ∀ a ∈ as, ∀ s, eval m a true s = eval m' a true s) (s : σ) :
    eval m (.block as) true s = eval m' (.block as) true s := by
  induction as using Script.block.induct generalizing s with
  | case1 => rfl
  | case2 a => exact h a List.mem_cons_self s
  | case3 a b as ih =>
      simp only [Script.block, eval, h a List.mem_cons_self s,
        ih fun c hc => h c (List.mem_cons_of_mem _ hc)]

end Shell
