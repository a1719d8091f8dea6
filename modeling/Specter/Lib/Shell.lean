import Mathlib.Data.List.Basic

/-!
# Shell scripts under `set -e`

A script is a tree of lists, conditionals and pipelines over commands
that are a parameter, as is what a command does to a state and a stream.
Under `set -e` a script ends at the first failing command, unless the
failure is tested: the condition of an `if`, and what stands left of
`||` or `&&`, run unchecked.

Two judgements say what became of a script: it `Completes`, going from
one state to another, or it `Exits` at a failing command. The rules for
both follow the constructors. A fact that every command keeps goes
through a whole script by `eval_keeps`; together with
`Completes.of_mem_block` that gives what a completed script has done
from what one of its statements does.
-/

namespace Shell

variable {C σ T : Type}

structure Reply (σ T : Type) where
  status : Nat
  output : T
  state : σ

/-- A shell: what the commands do, and whether `set -o pipefail` is on. -/
structure Machine (C σ T : Type) where
  exec : C → σ → T → Reply σ T
  pipefail : Bool

inductive Script (C : Type) where
  | skip
  | pipeline (c : C) (cs : List C)
  | withOutput (c d : C)  -- `d "$(c)"`: the status of `c` is lost
  | orElse (a b : Script C)
  | andThen (a b : Script C)
  | ifThenElse (cond thn els : Script C)
  | subshell (a : Script C)
  | seq (a b : Script C)

namespace Script

def cmd (c : C) : Script C := .pipeline c []

/-- Statements in sequence; the status is that of the last. -/
def block : List (Script C) → Script C
  | [] => .skip
  | [a] => a
  | a :: b :: as => .seq a (block (b :: as))

def commands : Script C → List C
  | .skip => []
  | .pipeline c cs => c :: cs
  | .withOutput c d => [c, d]
  | .orElse a b | .andThen a b | .seq a b => a.commands ++ b.commands
  | .ifThenElse cond thn els => cond.commands ++ thn.commands ++ els.commands
  | .subshell a => a.commands

@[simp] theorem commands_cmd (c : C) : (cmd c).commands = [c] := rfl

@[simp] theorem commands_block (as : List (Script C)) :
    (block as).commands = as.flatMap commands := by
  induction as using block.induct with
  | case1 => rfl
  | case2 a => simp [block]
  | case3 a b as ih => rw [block, commands, ih, @List.flatMap_cons _ _ a]

end Script

/-! ## Evaluation -/

inductive Flow where
  | next (status : Nat)
  | exit (status : Nat)
deriving Repr, DecidableEq

def Flow.status : Flow → Nat
  | .next n | .exit n => n

/-- What a status leads to, where it is checked or not. -/
def Flow.of (checked : Bool) (status : Nat) : Flow :=
  if checked ∧ status ≠ 0 then .exit status else .next status

/-- A pipeline's statuses. Each command reads what the one before it
printed. -/
def pipe (m : Machine C σ T) : C → List C → σ → T → List Nat × σ
  | c, [], s, input => ([(m.exec c s input).status], (m.exec c s input).state)
  | c, d :: ds, s, input =>
    let r := m.exec c s input
    let (statuses, s) := pipe m d ds r.state r.output
    (r.status :: statuses, s)

/-- The status of a pipeline is that of its last command or, with
`pipefail`, of its last command that failed. -/
def pipeStatus (m : Machine C σ T) (statuses : List Nat) : Nat :=
  if m.pipefail then statuses.foldr (fun status rest => if rest = 0 then status else rest) 0
  else statuses.getLastD 0

theorem pipeStatus_singleton (m : Machine C σ T) (n : Nat) : pipeStatus m [n] = n := by
  simp only [pipeStatus, List.foldr_cons, List.foldr_nil, if_true]
  split <;> rfl

theorem pipe_keeps {m : Machine C σ T} {R : σ → σ → Prop}
    (htrans : ∀ s t u, R s t → R t u → R s u) {c : C} {cs : List C}
    (h : ∀ d ∈ c :: cs, ∀ s input, R s (m.exec d s input).state) (s : σ) (input : T) :
    R s (pipe m c cs s input).2 := by
  induction cs generalizing c s input with
  | nil => exact h c List.mem_cons_self s input
  | cons d ds ih =>
      exact htrans _ _ _ (h c List.mem_cons_self s input)
        (ih (fun e he => h e (List.mem_cons_of_mem _ he)) _ _)

variable [Inhabited T]

@[simp] def eval (m : Machine C σ T) : Script C → Bool → σ → Flow × σ
  | .skip, _, s => (.next 0, s)
  | .pipeline c cs, checked, s =>
    let (statuses, s) := pipe m c cs s default
    (.of checked (pipeStatus m statuses), s)
  | .withOutput c d, checked, s =>
    let r := m.exec c s default
    let r := m.exec d r.state r.output
    (.of checked r.status, r.state)
  | .orElse a b, checked, s =>
    match eval m a false s with
    | (.next status, s) => if status = 0 then (.next 0, s) else eval m b checked s
    | (.exit status, s) => (.exit status, s)
  | .andThen a b, checked, s =>
    match eval m a false s with
    | (.next status, s) => if status = 0 then eval m b checked s else (.next status, s)
    | (.exit status, s) => (.exit status, s)
  | .ifThenElse cond thn els, checked, s =>
    match eval m cond false s with
    | (.next status, s) => if status = 0 then eval m thn checked s else eval m els checked s
    | (.exit status, s) => (.exit status, s)
  | .subshell a, checked, s =>
    let (flow, s) := eval m a checked s
    (.of checked flow.status, s)
  | .seq a b, checked, s =>
    match eval m a checked s with
    | (.next _, s) => eval m b checked s
    | (.exit status, s) => (.exit status, s)

/-- The script run by a shell of its own: the state it leaves and its
exit status. -/
def runScript (m : Machine C σ T) (a : Script C) (s : σ) : σ × Nat :=
  ((eval m a true s).2, (eval m a true s).1.status)

def Completes (m : Machine C σ T) (a : Script C) (s s' : σ) : Prop :=
  ∃ n, eval m a true s = (.next n, s')

def Exits (m : Machine C σ T) (a : Script C) (s s' : σ) : Prop :=
  ∃ n, eval m a true s = (.exit n, s')

variable {m : Machine C σ T} {a b : Script C} {as bs : List (Script C)} {s s' t : σ}

theorem completes_or_exits (m : Machine C σ T) (a : Script C) (s : σ) :
    Completes m a s (eval m a true s).2 ∨ Exits m a s (eval m a true s).2 := by
  cases h : eval m a true s with
  | mk flow s' =>
      cases flow with
      | next n => exact Or.inl ⟨n, h⟩
      | exit n => exact Or.inr ⟨n, h⟩

theorem Completes.eval_eq (h : Completes m a s s') : (eval m a true s).2 = s' := by
  obtain ⟨n, hn⟩ := h; rw [hn]

theorem Exits.eval_eq (h : Exits m a s s') : (eval m a true s).2 = s' := by
  obtain ⟨n, hn⟩ := h; rw [hn]

theorem Flow.of_eq_exit {checked : Bool} {status n : Nat} (h : Flow.of checked status = .exit n) :
    n ≠ 0 := by
  unfold Flow.of at h
  split at h
  · rename_i hc; cases h; exact hc.2
  · cases h

/-- `set -e` ends a script with the failing status. -/
theorem exit_ne_zero {checked : Bool} {n : Nat} (h : eval m a checked s = (.exit n, s')) :
    n ≠ 0 := by
  induction a generalizing checked s s' with
  | skip => cases h
  | pipeline c cs => exact Flow.of_eq_exit (congrArg Prod.fst h)
  | withOutput c d => exact Flow.of_eq_exit (congrArg Prod.fst h)
  | orElse a b iha ihb =>
      simp only [eval] at h
      split at h
      · split at h
        · cases h
        · exact ihb h
      · rename_i heq
        cases h; exact iha heq
  | andThen a b iha ihb =>
      simp only [eval] at h
      split at h
      · split at h
        · exact ihb h
        · cases h
      · rename_i heq
        cases h; exact iha heq
  | ifThenElse c a b ihc iha ihb =>
      simp only [eval] at h
      split at h
      · split at h
        · exact iha h
        · exact ihb h
      · rename_i heq
        cases h; exact ihc heq
  | subshell a _ => exact Flow.of_eq_exit (congrArg Prod.fst h)
  | seq a b iha ihb =>
      simp only [eval] at h
      split at h
      · exact ihb h
      · rename_i heq
        cases h; exact iha heq

theorem completes_of_status (h : (runScript m a s).2 = 0) :
    Completes m a s (runScript m a s).1 := by
  rcases completes_or_exits m a s with hc | ⟨n, hn⟩
  · exact hc
  · rw [runScript, hn] at h
    exact absurd h (exit_ne_zero hn)

/-! ## What every command keeps -/

section Keeps

variable {R : σ → σ → Prop}

/-- **Frame rule.** A relation that is a preorder and that every command
of a script stays in, the script stays in. -/
theorem eval_keeps (hrefl : ∀ s, R s s) (htrans : ∀ s t u, R s t → R t u → R s u)
    {a : Script C} (h : ∀ c ∈ a.commands, ∀ s input, R s (m.exec c s input).state)
    (checked : Bool) (s : σ) : R s (eval m a checked s).2 := by
  induction a generalizing checked s with
  | skip => exact hrefl s
  | pipeline c cs => exact pipe_keeps htrans h s default
  | withOutput c d =>
      exact htrans _ _ _ (h c List.mem_cons_self s default)
        (h d (List.mem_cons_of_mem _ List.mem_cons_self) _ _)
  | orElse a b iha ihb =>
      have ha := iha (fun c hc => h c (List.mem_append_left _ hc)) false s
      have hb := ihb (fun c hc => h c (List.mem_append_right _ hc)) checked
      simp only [eval]
      split
      · rename_i heq
        rw [heq] at ha
        split
        · exact ha
        · exact htrans _ _ _ ha (hb _)
      · rename_i heq
        rw [heq] at ha; exact ha
  | andThen a b iha ihb =>
      have ha := iha (fun c hc => h c (List.mem_append_left _ hc)) false s
      have hb := ihb (fun c hc => h c (List.mem_append_right _ hc)) checked
      simp only [eval]
      split
      · rename_i heq
        rw [heq] at ha
        split
        · exact htrans _ _ _ ha (hb _)
        · exact ha
      · rename_i heq
        rw [heq] at ha; exact ha
  | ifThenElse c a b ihc iha ihb =>
      have hc := ihc (fun d hd => h d (by simp [Script.commands, hd])) false s
      have ha := iha (fun d hd => h d (by simp [Script.commands, hd])) checked
      have hb := ihb (fun d hd => h d (by simp [Script.commands, hd])) checked
      simp only [eval]
      split
      · rename_i heq
        rw [heq] at hc
        split
        · exact htrans _ _ _ hc (ha _)
        · exact htrans _ _ _ hc (hb _)
      · rename_i heq
        rw [heq] at hc; exact hc
  | subshell a iha => exact iha h checked s
  | seq a b iha ihb =>
      have ha := iha (fun c hc => h c (List.mem_append_left _ hc)) checked s
      have hb := ihb (fun c hc => h c (List.mem_append_right _ hc)) checked
      simp only [eval]
      split
      · rename_i heq
        rw [heq] at ha
        exact htrans _ _ _ ha (hb _)
      · rename_i heq
        rw [heq] at ha; exact ha

end Keeps

/-! ## Rules for completed scripts -/

@[simp] theorem completes_skip : Completes m .skip s s' ↔ s' = s := by
  simp [Completes, eval, eq_comm]

theorem completes_seq : Completes m (.seq a b) s s' ↔
    ∃ t, Completes m a s t ∧ Completes m b t s' := by
  constructor
  · rintro ⟨n, h⟩
    simp only [eval] at h
    split at h
    · rename_i k t heq
      exact ⟨t, ⟨k, heq⟩, n, h⟩
    · cases h
  · rintro ⟨t, ⟨k, hk⟩, n, hn⟩
    exact ⟨n, by simp only [eval, hk, hn]⟩

theorem completes_pipeline {c : C} {cs : List C} : Completes m (.pipeline c cs) s s' ↔
    pipeStatus m (pipe m c cs s default).1 = 0 ∧ s' = (pipe m c cs s default).2 := by
  simp only [Completes, eval, Flow.of, true_and, Prod.mk.injEq]
  by_cases h : pipeStatus m (pipe m c cs s default).1 = 0 <;> simp [h, eq_comm]

theorem completes_cmd {c : C} : Completes m (.cmd c) s s' ↔
    (m.exec c s default).status = 0 ∧ s' = (m.exec c s default).state := by
  rw [Script.cmd, completes_pipeline, pipe, pipeStatus_singleton]

theorem completes_withOutput {c d : C} : Completes m (.withOutput c d) s s' ↔
    (m.exec d (m.exec c s default).state (m.exec c s default).output).status = 0 ∧
      s' = (m.exec d (m.exec c s default).state (m.exec c s default).output).state := by
  simp only [Completes, eval, Flow.of, true_and, Prod.mk.injEq]
  by_cases h : (m.exec d (m.exec c s default).state (m.exec c s default).output).status = 0 <;>
    simp [h, eq_comm]

theorem completes_pipe_pipefail {c d : C} (hpf : m.pipefail = true) :
    Completes m (.pipeline c [d]) s s' ↔
      (m.exec c s default).status = 0 ∧
      (m.exec d (m.exec c s default).state (m.exec c s default).output).status = 0 ∧
      s' = (m.exec d (m.exec c s default).state (m.exec c s default).output).state := by
  rw [completes_pipeline]
  simp only [pipe, pipeStatus, hpf, if_true, List.foldr_cons, List.foldr_nil]
  split
  · rename_i hd
    exact ⟨fun ⟨hc, hs⟩ => ⟨hc, hd, hs⟩, fun ⟨hc, _, hs⟩ => ⟨hc, hs⟩⟩
  · rename_i hd
    exact ⟨fun h => absurd h.1 hd, fun h => absurd h.2.1 hd⟩

/-! ### Commands that are tested -/

theorem eval_cmd_unchecked (m : Machine C σ T) (c : C) (s : σ) :
    eval m (.cmd c) false s = (.next (m.exec c s default).status, (m.exec c s default).state) := by
  simp [Script.cmd, eval, pipe, pipeStatus_singleton, Flow.of]

theorem eval_ifThenElse {cond thn els : Script C} {checked : Bool} {n : Nat}
    (h : eval m cond false s = (.next n, t)) :
    eval m (.ifThenElse cond thn els) checked s =
      if n = 0 then eval m thn checked t else eval m els checked t := by
  simp only [eval, h]

theorem completes_if {c : C} {thn els : Script C} :
    Completes m (.ifThenElse (.cmd c) thn els) s s' ↔
      if (m.exec c s default).status = 0 then Completes m thn (m.exec c s default).state s'
      else Completes m els (m.exec c s default).state s' := by
  simp only [Completes, eval, eval_cmd_unchecked]
  split <;> rfl

/-- `c || true` always completes. -/
theorem completes_orElse_skip {c : C} :
    Completes m (.orElse (.cmd c) .skip) s s' ↔ s' = (m.exec c s default).state := by
  simp only [Completes, eval, eval_cmd_unchecked]
  split <;> simp [eq_comm]

theorem completes_subshell : Completes m (.subshell a) s s' ↔ runScript m a s = (s', 0) := by
  simp only [Completes, eval, runScript, Flow.of, true_and, Prod.mk.injEq]
  by_cases h : (eval m a true s).1.status = 0 <;> simp [h]

/-- A list `c && d` has the status of the command it ends with. -/
theorem runScript_andThen {c d : C} :
    runScript m (.andThen (.cmd c) (.cmd d)) s =
      if (m.exec c s default).status = 0 then
        ((m.exec d (m.exec c s default).state default).state,
          (m.exec d (m.exec c s default).state default).status)
      else ((m.exec c s default).state, (m.exec c s default).status) := by
  simp only [runScript, eval, eval_cmd_unchecked]
  split
  · simp only [Script.cmd, eval, pipe, pipeStatus_singleton, Flow.of]
    split <;> rfl
  · rfl

/-! ## Rules for blocks -/

@[simp] theorem completes_block_nil : Completes m (.block []) s s' ↔ s' = s := completes_skip

theorem completes_block_cons : Completes m (.block (a :: as)) s s' ↔
    ∃ t, Completes m a s t ∧ Completes m (.block as) t s' := by
  cases as with
  | nil => simp [Script.block]
  | cons b as => exact completes_seq

theorem exits_block_cons : Exits m (.block (a :: as)) s s' ↔
    Exits m a s s' ∨ ∃ t, Completes m a s t ∧ Exits m (.block as) t s' := by
  cases as with
  | nil =>
      refine ⟨Or.inl, ?_⟩
      rintro (h | ⟨t, _, n, hn⟩)
      · exact h
      · cases hn
  | cons b as =>
      constructor
      · rintro ⟨n, h⟩
        simp only [Script.block, eval] at h
        split at h
        · rename_i k t heq
          exact Or.inr ⟨t, ⟨k, heq⟩, n, h⟩
        · rename_i k t heq
          cases h; exact Or.inl ⟨n, heq⟩
      · rintro (⟨n, hn⟩ | ⟨t, ⟨k, hk⟩, n, hn⟩)
        · exact ⟨n, by simp only [Script.block, eval, hn]⟩
        · exact ⟨n, by simp only [Script.block, eval, hk, hn]⟩

theorem completes_block_append : Completes m (.block (as ++ bs)) s s' ↔
    ∃ t, Completes m (.block as) s t ∧ Completes m (.block bs) t s' := by
  induction as generalizing s with
  | nil => simp
  | cons a as ih =>
      simp only [List.cons_append, completes_block_cons, ih]
      constructor
      · rintro ⟨u, hu, t, ht, hs'⟩
        exact ⟨t, ⟨u, hu, ht⟩, hs'⟩
      · rintro ⟨t, ⟨u, hu, ht⟩, hs'⟩
        exact ⟨u, hu, t, ht, hs'⟩

/-- A statement in the middle of a completed block. -/
theorem completes_block_split : Completes m (.block (as ++ a :: bs)) s s' ↔
    ∃ t t', Completes m (.block as) s t ∧ Completes m a t t' ∧ Completes m (.block bs) t' s' := by
  rw [completes_block_append]
  constructor
  · rintro ⟨t, has, hrest⟩
    obtain ⟨t', ha, hbs⟩ := completes_block_cons.mp hrest
    exact ⟨t, t', has, ha, hbs⟩
  · rintro ⟨t, t', has, ha, hbs⟩
    exact ⟨t, has, completes_block_cons.mpr ⟨t', ha, hbs⟩⟩

/-- A block that has ended stays ended, -/
theorem Exits.block_append (h : Exits m (.block as) s s') (bs : List (Script C)) :
    Exits m (.block (as ++ bs)) s s' := by
  induction as generalizing s with
  | nil => obtain ⟨n, hn⟩ := h; cases hn
  | cons a as ih =>
      rcases exits_block_cons.mp h with ha | ⟨t, ht, hrest⟩
      · exact exits_block_cons.mpr (Or.inl ha)
      · exact exits_block_cons.mpr (Or.inr ⟨t, ht, ih hrest⟩)

/-- and one that has completed leaves the rest to what follows. -/
theorem Completes.eval_block_append (h : Completes m (.block as) s t) (bs : List (Script C)) :
    (eval m (.block (as ++ bs)) true s).2 = (eval m (.block bs) true t).2 := by
  rcases completes_or_exits m (.block bs) t with hbs | hbs
  · exact (completes_block_append.mpr ⟨t, h, hbs⟩).eval_eq
  · suffices hexits : Exits m (.block (as ++ bs)) s (eval m (.block bs) true t).2 from
      hexits.eval_eq
    induction as generalizing s with
    | nil =>
        rw [completes_block_nil] at h
        subst h; exact hbs
    | cons a as ih =>
        obtain ⟨u, hu, hrest⟩ := completes_block_cons.mp h
        exact exits_block_cons.mpr (Or.inr ⟨u, hu, ih hrest⟩)

/-- No `&&` list is the last of the script: its left side may fail and
leave a status other than 0 behind, without ending the script. -/
def Script.Plain : Script C → Prop
  | .skip | .pipeline _ _ | .withOutput _ _ | .subshell _ => True
  | .orElse _ b | .seq _ b => b.Plain
  | .andThen _ _ => False
  | .ifThenElse _ thn els => thn.Plain ∧ els.Plain

theorem plain_block (h : ∀ a ∈ as.getLast?, a.Plain) : (Script.block as).Plain := by
  induction as using Script.block.induct with
  | case1 => trivial
  | case2 a => exact h a rfl
  | case3 a b as ih => exact ih (by simpa [List.getLast?_cons_cons] using h)

theorem next_eq_zero (ha : a.Plain) {n : Nat} (h : eval m a true s = (.next n, s')) : n = 0 := by
  have of_zero : ∀ {k : Nat}, Flow.of true k = .next n → n = 0 := by
    intro k hk
    unfold Flow.of at hk
    split at hk
    · cases hk
    · rename_i hc
      cases hk; simpa using hc
  induction a generalizing s s' with
  | skip => cases h; rfl
  | pipeline c cs => exact of_zero (congrArg Prod.fst h)
  | withOutput c d => exact of_zero (congrArg Prod.fst h)
  | orElse a b _ ihb =>
      simp only [eval] at h
      split at h
      · split at h
        · cases h; rfl
        · exact ihb ha h
      · cases h
  | andThen a b _ _ => exact ha.elim
  | ifThenElse c a b _ iha ihb =>
      simp only [eval] at h
      split at h
      · split at h
        · exact iha ha.1 h
        · exact ihb ha.2 h
      · cases h
  | subshell a _ => exact of_zero (congrArg Prod.fst h)
  | seq a b _ ihb =>
      simp only [eval] at h
      split at h
      · exact ihb ha h
      · cases h

/-- For a plain script, to complete is to have exit status 0. -/
theorem runScript_eq_iff (ha : a.Plain) : runScript m a s = (s', 0) ↔ Completes m a s s' := by
  constructor
  · intro h
    have hc := completes_of_status (congrArg Prod.snd h)
    rwa [h] at hc
  · rintro ⟨n, hn⟩
    obtain rfl := next_eq_zero ha hn
    rw [runScript, hn]; rfl

/-- A statement of a completed block completed on the way, and what every
command keeps holds before and after it. -/
theorem Completes.of_mem_block {R : σ → σ → Prop} (hrefl : ∀ s, R s s)
    (htrans : ∀ s t u, R s t → R t u → R s u)
    (hkeeps : ∀ c ∈ (Script.block as).commands, ∀ s input, R s (m.exec c s input).state)
    (ha : a ∈ as) (h : Completes m (.block as) s s') :
    ∃ t t', R s t ∧ Completes m a t t' ∧ R t' s' := by
  induction as generalizing s with
  | nil => cases ha
  | cons a' as ih =>
      obtain ⟨u, hu, hrest⟩ := completes_block_cons.mp h
      have hkeeps_head : ∀ c ∈ a'.commands, ∀ s input, R s (m.exec c s input).state :=
        fun c hc => hkeeps c (by simp [hc])
      have hkeeps_rest : ∀ c ∈ (Script.block as).commands, ∀ s input,
          R s (m.exec c s input).state := fun c hc =>
        hkeeps c (by
          rw [Script.commands_block] at hc ⊢
          exact List.mem_append_right _ hc)
      rcases List.mem_cons.mp ha with rfl | ha
      · refine ⟨s, u, hrefl s, hu, ?_⟩
        have := eval_keeps (m := m) hrefl htrans hkeeps_rest true u
        rwa [hrest.eval_eq] at this
      · obtain ⟨t, t', hst, hcompl, ht'⟩ := ih hkeeps_rest ha hrest
        have hsu := eval_keeps (m := m) hrefl htrans hkeeps_head true s
        rw [hu.eval_eq] at hsu
        exact ⟨t, t', htrans _ _ _ hsu hst, hcompl, ht'⟩

end Shell
