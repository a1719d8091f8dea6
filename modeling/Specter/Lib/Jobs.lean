import Specter.Lib.Run

/-!
# Processes and job control

A world is the processes started so far, a pid being a position in it.
Programs are a parameter: of a program it is known only that it may end
at any moment, with any status. A shell runs a list of statements: it
starts programs, in the foreground (and then waits for them) or as
background jobs, waits for jobs, and sends signals.

A signal to a shell ends it, and does not reach the child it is waiting
for; a signal to a program is only noted. Which process moves next is
left open: a run is any sequence of moves that are possible.

Ended processes stay in the world with their status, so pids are not
used twice (`Step.later`).
-/

namespace Jobs

variable {P : Type}

/-! ## Scripts -/

inductive Cmd (P : Type) where
  | run (program : P)  -- in the foreground
  | builtin
deriving Repr, DecidableEq

/-- Statements. Jobs are numbered in the order the shell starts them. -/
inductive Stmt (P : Type) where
  | simple (cmd : Cmd P)
  | background (program : P)  -- `program &`
  | backgroundLoop (body : List (Cmd P))  -- `while true; do body; done &`
  | wait (job : Nat)  -- `wait pid`
  | waitAny (jobs : List Nat)  -- `wait -n pid …`
  | kill (jobs : List Nat)  -- `kill pid … || true`
  | exec (program : P)
deriving Repr, DecidableEq

structure Shell (P : Type) where
  errexit : Bool  -- `set -e`
  todo : List (Stmt P)
  again : Option (List (Cmd P))  -- the body, if this is a `while true`
  child : Option Nat  -- the pid of the foreground child it waits for
  jobs : List Nat  -- the pids of its jobs
  last : Nat  -- `$?`
deriving Repr, DecidableEq

inductive Activity (P : Type) where
  | program (p : P)
  | shell (sh : Shell P)
deriving Repr, DecidableEq

/-- What a move of a shell does beyond the shell itself. -/
inductive Effect (P : Type) where
  | none
  | start (new : Activity P)
  | signal (pids : List Nat)
  | exit (status : Nat)
  | become (p : P)
deriving Repr, DecidableEq

namespace Shell

/-- A shell about to run a script. -/
def start (errexit : Bool) (todo : List (Stmt P)) : Shell P where
  errexit := errexit
  todo := todo
  again := none
  child := none
  jobs := []
  last := 0

/-- A shell about to run a `while true`. -/
def loop (errexit : Bool) (body : List (Cmd P)) : Shell P where
  errexit := errexit
  todo := []
  again := some body
  child := none
  jobs := []
  last := 0

def pids (sh : Shell P) (jobs : List Nat) : List Nat := jobs.filterMap (sh.jobs[·]?)

/-- The statement at hand is over; under `set -e` a failure is the end of
the script. -/
def finish (sh : Shell P) (status : Nat) : Shell P × Effect P :=
  ({ sh with todo := sh.todo.tail, child := none, last := status },
    if sh.errexit ∧ status ≠ 0 then .exit status else .none)

theorem finish_failed {sh : Shell P} {status : Nat} (herrexit : sh.errexit = true)
    (hfailed : status ≠ 0) : (sh.finish status).2 = .exit status :=
  if_pos ⟨herrexit, hfailed⟩

/-- The next move of a shell that waits for nothing. A process it starts
gets the pid `fresh`, and a builtin returns `status`. -/
def execute (sh : Shell P) (fresh status : Nat) : Option (Shell P × Effect P) :=
  match sh.child, sh.todo with
  | some _, _ => none
  | none, [] =>
    match sh.again with
    | some body => some ({ sh with todo := body.map .simple }, .none)
    | none => some (sh, .exit sh.last)
  | none, .simple (.run p) :: _ => some ({ sh with child := some fresh }, .start (.program p))
  | none, .simple .builtin :: _ => some (sh.finish status)
  | none, .background p :: rest =>
    some ({ sh with todo := rest, jobs := sh.jobs ++ [fresh], last := 0 }, .start (.program p))
  | none, .backgroundLoop body :: rest =>
    some ({ sh with todo := rest, jobs := sh.jobs ++ [fresh], last := 0 },
      .start (.shell (loop sh.errexit body)))
  | none, .kill jobs :: rest => some ({ sh with todo := rest, last := 0 }, .signal (sh.pids jobs))
  | none, .exec p :: _ => some (sh, .become p)
  | none, .wait _ :: _ => none
  | none, .waitAny _ :: _ => none

/-- The processes any of which lets a waiting shell go on by having ended. -/
def awaits (sh : Shell P) : List Nat :=
  match sh.child, sh.todo with
  | some child, _ => [child]
  | none, .wait job :: _ => sh.pids [job]
  | none, .waitAny jobs :: _ => sh.pids jobs
  | none, _ => []

end Shell

/-! ## Processes -/

structure Process (P : Type) where
  activity : Activity P
  status : Option Nat  -- once it has ended
  signalled : Bool
deriving Repr, DecidableEq

namespace Process

def new (activity : Activity P) : Process P := ⟨activity, none, false⟩

/-- What a shell returns that SIGTERM ends. -/
def terminated : Nat := 143

def signal (pr : Process P) : Process P :=
  match pr.status, pr.activity with
  | some _, _ => pr
  | none, .program _ => { pr with signalled := true }
  | none, .shell _ => { pr with status := some terminated, signalled := true }

def become (pr : Process P) (activity : Activity P) : Process P := { pr with activity := activity }

def exit (pr : Process P) (status : Nat) : Process P := { pr with status := some status }

end Process

abbrev World (P : Type) := List (Process P)

def World.signal (w : World P) (pids : List Nat) : World P :=
  pids.foldl (·.modify · Process.signal) w

/-- The shell at `pid` moves on to `sh`, with an effect. -/
def World.perform (w : World P) (pid : Nat) (sh : Shell P) : Effect P → World P
  | .none => w.modify pid (·.become (.shell sh))
  | .start new => w.modify pid (·.become (.shell sh)) ++ [.new new]
  | .signal pids => World.signal (w.modify pid (·.become (.shell sh))) pids
  | .exit status => w.modify pid fun pr => (pr.become (.shell sh)).exit status
  | .become p => w.modify pid (·.become (.program p))

/-! ## Moves -/

inductive Event where
  | ends (pid status : Nat)  -- a program ends
  | runs (pid status : Nat)  -- a shell makes its next move
  | reaps (pid child : Nat)  -- a waiting shell learns that `child` has ended
deriving Repr, DecidableEq

/-- The process that moves. -/
def Event.pid : Event → Nat
  | .ends pid _ | .runs pid _ | .reaps pid _ => pid

/-- The world after an event, or the event if it is not possible. -/
def step (w : World P) (e : Event) : Except Event (World P) :=
  match e with
  | .ends pid status =>
    match w[pid]? with
    | some ⟨.program _, none, _⟩ => .ok (w.modify pid (·.exit status))
    | _ => .error e
  | .runs pid status =>
    match w[pid]? with
    | some ⟨.shell sh, none, _⟩ =>
      match sh.execute w.length status with
      | some (sh', effect) => .ok (w.perform pid sh' effect)
      | none => .error e
    | _ => .error e
  | .reaps pid child =>
    match w[pid]?, (w[child]?).bind (·.status) with
    | some ⟨.shell sh, none, _⟩, some status =>
      if child ∈ sh.awaits then .ok (w.perform pid (sh.finish status).1 (sh.finish status).2)
      else .error e
    | _, _ => .error e

/-- The moves as a relation. -/
inductive Step (w : World P) : Event → World P → Prop
  | ends {pid status : Nat} {p : P} {signalled : Bool}
      (h : w[pid]? = some ⟨.program p, none, signalled⟩) :
      Step w (.ends pid status) (w.modify pid (·.exit status))
  | runs {pid status : Nat} {sh sh' : Shell P} {effect : Effect P} {signalled : Bool}
      (h : w[pid]? = some ⟨.shell sh, none, signalled⟩)
      (hmove : sh.execute w.length status = some (sh', effect)) :
      Step w (.runs pid status) (w.perform pid sh' effect)
  | reaps {pid child status : Nat} {sh : Shell P} {signalled : Bool} {pr : Process P}
      (h : w[pid]? = some ⟨.shell sh, none, signalled⟩)
      (hchild : w[child]? = some pr) (hstatus : pr.status = some status)
      (hawaits : child ∈ sh.awaits) :
      Step w (.reaps pid child) (w.perform pid (sh.finish status).1 (sh.finish status).2)

theorem step_ok_iff {w w' : World P} {e : Event} : step w e = .ok w' ↔ Step w e w' := by
  constructor
  · intro h
    cases e with
    | ends pid status =>
        simp only [step] at h
        split at h
        · obtain rfl := Except.ok.inj h
          exact .ends ‹_›
        · cases h
    | runs pid status =>
        simp only [step] at h
        split at h
        · split at h
          · obtain rfl := Except.ok.inj h
            exact .runs ‹_› ‹_›
          · cases h
        · cases h
    | reaps pid child =>
        simp only [step] at h
        split at h
        · rename_i hshell hstatus
          obtain ⟨pr, hchild, hended⟩ := Option.bind_eq_some_iff.mp hstatus
          split at h
          · obtain rfl := Except.ok.inj h
            exact .reaps hshell hchild hended ‹_›
          · cases h
        · cases h
  · intro h
    cases h with
    | ends h => simp [step, h]
    | runs h hmove => simp [step, h, hmove]
    | reaps h hchild hstatus hawaits => simp [step, h, hchild, hstatus, hawaits]

/-- The moves of a world with one shell, which is its first process: a
program ends, the shell moves on, or it learns of an end. -/
theorem Step.script_cases {sh : Shell P} {exit : Option Nat} {sg : Bool} {rest : World P}
    {e : Event} {w' : World P} (hrest : ∀ pr ∈ rest, ∃ p, pr.activity = .program p)
    (h : Step (⟨.shell sh, exit, sg⟩ :: rest) e w') :
    (∃ i status pr, rest[i]? = some pr ∧ pr.status = none ∧
        w' = ⟨.shell sh, exit, sg⟩ :: rest.modify i (·.exit status))
    ∨ exit = none ∧ ∃ sh' effect,
        w' = World.perform (⟨.shell sh, exit, sg⟩ :: rest) 0 sh' effect
        ∧ ((∃ status, e = .runs 0 status
              ∧ sh.execute (rest.length + 1) status = some (sh', effect))
          ∨ ∃ child status pr, e = .reaps 0 child ∧ child ∈ sh.awaits
            ∧ (⟨.shell sh, exit, sg⟩ :: rest)[child]? = some pr
            ∧ pr.status = some status ∧ sh.finish status = (sh', effect)) := by
  have hshell {i : Nat} {sh : Shell P} {status : Option Nat} {sg : Bool} :
      rest[i]? ≠ some ⟨.shell sh, status, sg⟩ := by
    intro hi
    obtain ⟨p, hactivity⟩ := hrest _ (List.mem_of_getElem? hi)
    cases hactivity
  cases h with
  | @ends pid status p sg' hp =>
      cases pid with
      | zero => cases hp
      | succ i => exact Or.inl ⟨i, status, _, hp, rfl, rfl⟩
  | @runs pid status _ sh' effect _ hp hmove =>
      cases pid with
      | zero =>
          cases hp
          exact Or.inr ⟨rfl, sh', effect, rfl, Or.inl ⟨status, rfl, hmove⟩⟩
      | succ i => exact absurd hp hshell
  | @reaps pid child status _ _ pr hp hchild hstatus hawaits =>
      cases pid with
      | zero =>
          cases hp
          exact Or.inr ⟨rfl, _, _, rfl,
            Or.inr ⟨child, status, pr, rfl, hawaits, hchild, hstatus, rfl⟩⟩
      | succ i => exact absurd hp hshell

/-! ## What stays -/

theorem Process.signal_signal (pr : Process P) : pr.signal.signal = pr.signal := by
  obtain ⟨activity, status, signalled⟩ := pr
  cases status with
  | some status => rfl
  | none => cases activity <;> rfl

theorem World.getElem?_signal (w : World P) (pids : List Nat) (q : Nat) :
    (w.signal pids)[q]? = if q ∈ pids then w[q]?.map Process.signal else w[q]? := by
  unfold World.signal
  induction pids generalizing w with
  | nil => rfl
  | cons pid pids ih =>
      rw [List.foldl_cons, ih, List.getElem?_modify]
      by_cases hq : pid = q
      · subst hq
        by_cases hmem : pid ∈ pids
        · simp [hmem, Function.comp_def, Process.signal_signal]
        · simp [hmem]
      · simp [hq, Ne.symm hq]

/-- What has been started stays what it is, what has ended stays so, and a
signal is not taken back. -/
structure Process.Later (pr pr' : Process P) : Prop where
  program : ∀ p, pr.activity = .program p → pr'.activity = .program p
  status : ∀ status, pr.status = some status → pr'.status = some status
  signalled : pr.signalled = true → pr'.signalled = true

theorem Process.Later.refl (pr : Process P) : pr.Later pr := ⟨fun _ h => h, fun _ h => h, id⟩

theorem Process.Later.trans {pr pr' pr'' : Process P} (h : pr.Later pr') (h' : pr'.Later pr'') :
    pr.Later pr'' :=
  ⟨fun p hp => h'.program p (h.program p hp), fun s hs => h'.status s (h.status s hs),
    fun hs => h'.signalled (h.signalled hs)⟩

theorem Process.later_signal (pr : Process P) : pr.Later pr.signal := by
  obtain ⟨activity, status, signalled⟩ := pr
  cases status with
  | some status => exact .refl _
  | none =>
      cases activity with
      | program p => exact ⟨fun _ h => h, fun _ h => h, fun _ => rfl⟩
      | shell sh => exact ⟨fun _ h => h, nofun, fun _ => rfl⟩

def World.Later (w w' : World P) : Prop :=
  ∀ (pid : Nat) (pr : Process P), w[pid]? = some pr → ∃ pr', w'[pid]? = some pr' ∧ pr.Later pr'

theorem World.Later.refl (w : World P) : w.Later w := fun _ pr h => ⟨pr, h, .refl pr⟩

theorem World.Later.trans {w w' w'' : World P} (h : w.Later w') (h' : w'.Later w'') :
    w.Later w'' := by
  intro pid pr hpr
  obtain ⟨pr', hpr', hlater⟩ := h pid pr hpr
  obtain ⟨pr'', hpr'', hlater'⟩ := h' pid pr' hpr'
  exact ⟨pr'', hpr'', hlater.trans hlater'⟩

theorem World.later_modify {w : World P} {pid : Nat} {f : Process P → Process P}
    (h : ∀ pr, w[pid]? = some pr → pr.Later (f pr)) : w.Later (w.modify pid f) := by
  intro q pr hpr
  rw [List.getElem?_modify, hpr]
  by_cases hq : pid = q
  · subst hq
    exact ⟨f pr, by simp, h pr hpr⟩
  · exact ⟨pr, by simp [hq], .refl pr⟩

theorem World.later_append (w new : World P) : w.Later (w ++ new) :=
  fun _ pr hpr => ⟨pr, List.getElem?_append_left (List.getElem?_eq_some_iff.mp hpr).1 ▸ hpr,
    .refl pr⟩

theorem World.later_signal (w : World P) (pids : List Nat) : w.Later (w.signal pids) := by
  intro q pr hpr
  rw [World.getElem?_signal, hpr]
  split
  · exact ⟨pr.signal, rfl, pr.later_signal⟩
  · exact ⟨pr, rfl, .refl pr⟩

theorem World.later_perform {w : World P} {pid : Nat} {sh : Shell P} {signalled : Bool}
    (h : w[pid]? = some ⟨.shell sh, none, signalled⟩) (sh' : Shell P) (effect : Effect P) :
    w.Later (w.perform pid sh' effect) := by
  -- the process that moves is a shell and alive, so it has nothing to keep but the signal
  have hkeeps (f : Process P → Process P) (hf : ∀ pr, (f pr).signalled = pr.signalled) :
      w.Later (w.modify pid f) := by
    refine World.later_modify fun pr hpr => ?_
    obtain rfl := Option.some.inj (h.symm.trans hpr)
    exact ⟨nofun, nofun, fun hs => (hf _).trans hs⟩
  cases effect with
  | none => exact hkeeps _ fun _ => rfl
  | start new =>
      exact (hkeeps (·.become (.shell sh')) fun _ => rfl).trans (World.later_append _ _)
  | signal pids =>
      exact (hkeeps (·.become (.shell sh')) fun _ => rfl).trans (World.later_signal _ _)
  | exit status => exact hkeeps _ fun _ => rfl
  | become p => exact hkeeps _ fun _ => rfl

/-- **Step.** -/
theorem Step.later {w w' : World P} {e : Event} (h : Step w e w') : w.Later w' := by
  cases h with
  | ends h =>
      refine World.later_modify fun pr hpr => ?_
      obtain rfl := Option.some.inj (h.symm.trans hpr)
      exact ⟨fun _ hp => hp, nofun, id⟩
  | runs h hmove => exact World.later_perform h _ _
  | reaps h hchild hstatus hawaits => exact World.later_perform h _ _

/-- **Run.** -/
theorem run_later {w w' : World P} {es : List Event} (h : Run.run step w es = .ok w') :
    w.Later w' :=
  Run.run_induction (P := fun _ w' => w.Later w') (.refl w)
    (fun _ _ _ _ _ ih hstep => ih.trans (step_ok_iff.mp hstep).later) h

/-- `pid` has been started and has ended. -/
def World.Ended (w : World P) (pid : Nat) : Prop := ∃ pr ∈ w[pid]?, pr.status ≠ none

/-- `pid` was sent a signal while it was alive. -/
def World.Signalled (w : World P) (pid : Nat) : Prop := ∃ pr ∈ w[pid]?, pr.signalled = true

instance (w : World P) (pid : Nat) : Decidable (w.Ended pid) :=
  inferInstanceAs (Decidable (∃ pr ∈ w[pid]?, pr.status ≠ none))

instance (w : World P) (pid : Nat) : Decidable (w.Signalled pid) :=
  inferInstanceAs (Decidable (∃ pr ∈ w[pid]?, pr.signalled = true))

theorem World.Later.ended {w w' : World P} (h : w.Later w') {pid : Nat} (hended : w.Ended pid) :
    w'.Ended pid := by
  obtain ⟨pr, hpr, hstatus⟩ := hended
  obtain ⟨pr', hpr', hlater⟩ := h pid pr hpr
  obtain ⟨status, hsome⟩ := Option.ne_none_iff_exists'.mp hstatus
  exact ⟨pr', hpr', by simp [hlater.status status hsome]⟩

theorem World.Later.signalled {w w' : World P} (h : w.Later w') {pid : Nat}
    (hsignalled : w.Signalled pid) : w'.Signalled pid := by
  obtain ⟨pr, hpr, hsig⟩ := hsignalled
  obtain ⟨pr', hpr', hlater⟩ := h pid pr hpr
  exact ⟨pr', hpr', hlater.signalled hsig⟩

theorem World.ended_perform_exit {w : World P} {pid : Nat} {pr : Process P}
    (h : w[pid]? = some pr) (sh : Shell P) (status : Nat) :
    (w.perform pid sh (.exit status)).Ended pid := by
  refine ⟨(pr.become (.shell sh)).exit status, ?_, Option.some_ne_none _⟩
  simp [World.perform, h]

/-- By at most `n` moves of its own, whatever the others do, `pid` gets to
its end. -/
def World.CanEnd (w : World P) (pid n : Nat) : Prop :=
  ∃ es w', es.length ≤ n ∧ (∀ e ∈ es, e.pid = pid) ∧ Run.run step w es = .ok w' ∧ w'.Ended pid

theorem World.Ended.canEnd {w : World P} {pid : Nat} (h : w.Ended pid) (n : Nat) :
    w.CanEnd pid n :=
  ⟨[], w, Nat.zero_le n, nofun, rfl, h⟩

theorem World.CanEnd.mono {w : World P} {pid m n : Nat} (h : w.CanEnd pid m) (hle : m ≤ n) :
    w.CanEnd pid n := by
  obtain ⟨es, w', hlength, hrest⟩ := h
  exact ⟨es, w', Nat.le_trans hlength hle, hrest⟩

theorem World.CanEnd.of_step {w w' : World P} {e : Event} {n : Nat} (hstep : step w e = .ok w')
    (h : w'.CanEnd e.pid n) : w.CanEnd e.pid (n + 1) := by
  obtain ⟨es, w'', hlength, hpid, hrun, hended⟩ := h
  refine ⟨e :: es, w'', Nat.succ_le_succ hlength, fun e' he' => ?_,
    (Run.run_cons_ok hstep).trans hrun, hended⟩
  rcases List.mem_cons.mp he' with rfl | he'
  · rfl
  · exact hpid e' he'

/-- What has ended makes no move. -/
theorem Step.not_ended {w w' : World P} {e : Event} (h : Step w e w') : ¬ w.Ended e.pid := by
  rintro ⟨pr, hpr, hstatus⟩
  cases h with
  | ends h | runs h | reaps h =>
      obtain rfl := Option.some.inj (h.symm.trans hpr)
      exact hstatus rfl

/-! ## Running programs -/

def World.RunsAt (w : World P) (pid : Nat) (p : P) : Prop :=
  ∃ pr ∈ w[pid]?, pr.activity = .program p ∧ pr.status = none

instance [DecidableEq P] (w : World P) (pid : Nat) (p : P) : Decidable (w.RunsAt pid p) :=
  inferInstanceAs (Decidable (∃ pr ∈ w[pid]?, pr.activity = .program p ∧ pr.status = none))

theorem World.RunsAt.not_ended {w : World P} {pid : Nat} {p : P} (h : w.RunsAt pid p) :
    ¬ w.Ended pid := by
  rintro ⟨pr, hpr, hstatus⟩
  obtain ⟨pr', hpr', -, halive⟩ := h
  obtain rfl := Option.some.inj (hpr.symm.trans hpr')
  exact hstatus halive

theorem World.runsAt_of_modify {w : World P} {pid q : Nat} {p : P} {f : Process P → Process P}
    (hf : ∀ pr, (f pr).activity = .program p → (f pr).status = none →
      pr.activity = .program p ∧ pr.status = none)
    (h : World.RunsAt (w.modify pid f) q p) : w.RunsAt q p := by
  obtain ⟨pr', hpr', hactivity, hstatus⟩ := h
  rw [Option.mem_def, List.getElem?_modify] at hpr'
  obtain ⟨pr, hpr, rfl⟩ := Option.map_eq_some_iff.mp hpr'
  refine ⟨pr, hpr, ?_⟩
  split at hactivity
  · rw [if_pos ‹_›] at hstatus
    exact hf pr hactivity hstatus
  · rw [if_neg ‹_›] at hstatus
    exact ⟨hactivity, hstatus⟩

theorem World.runsAt_of_signal {w : World P} {pids : List Nat} {q : Nat} {p : P}
    (h : (w.signal pids).RunsAt q p) : w.RunsAt q p := by
  obtain ⟨pr', hpr', hactivity, hstatus⟩ := h
  rw [Option.mem_def, World.getElem?_signal] at hpr'
  split at hpr'
  · obtain ⟨pr, hpr, rfl⟩ := Option.map_eq_some_iff.mp hpr'
    obtain ⟨activity, status, signalled⟩ := pr
    cases status with
    | some status => cases hstatus
    | none =>
        cases activity with
        | program p' => exact ⟨_, hpr, hactivity, rfl⟩
        | shell sh => cases hactivity
  · exact ⟨pr', hpr', hactivity, hstatus⟩

/-- A program runs only if it ran before, unless a shell starts one. -/
theorem World.runsAt_of_perform {w : World P} {pid q : Nat} {sh : Shell P} {effect : Effect P}
    {p : P} (hstart : ∀ new, effect ≠ .start new) (hbecome : ∀ p, effect ≠ .become p)
    (h : (w.perform pid sh effect).RunsAt q p) : w.RunsAt q p := by
  have hshell (pr : Process P) (hactivity : (pr.become (.shell sh)).activity = .program p)
      (_ : (pr.become (.shell sh)).status = none) :
      pr.activity = .program p ∧ pr.status = none := by cases hactivity
  cases effect with
  | none => exact World.runsAt_of_modify hshell h
  | start new => exact absurd rfl (hstart new)
  | signal pids => exact World.runsAt_of_modify hshell (World.runsAt_of_signal h)
  | exit status => exact World.runsAt_of_modify (fun _ _ hstatus => by cases hstatus) h
  | become p => exact absurd rfl (hbecome p)

/-- **Step.** Only a shell's own move starts a program. -/
theorem Step.runsAt {w w' : World P} {e : Event} (h : Step w e w')
    (hquiet : ∀ pid status sh sg sh' effect, e = .runs pid status →
      w[pid]? = some ⟨.shell sh, none, sg⟩ → sh.execute w.length status = some (sh', effect) →
        (∀ new, effect ≠ .start new) ∧ ∀ p, effect ≠ .become p)
    {q : Nat} {p : P} (hrun : w'.RunsAt q p) : w.RunsAt q p := by
  cases h with
  | ends h => exact World.runsAt_of_modify (fun _ _ hstatus => by cases hstatus) hrun
  | runs h hmove =>
      obtain ⟨hstart, hbecome⟩ := hquiet _ _ _ _ _ _ rfl h hmove
      exact World.runsAt_of_perform hstart hbecome hrun
  | reaps h hchild hstatus hawaits =>
      refine World.runsAt_of_perform (fun new => ?_) (fun p => ?_) hrun
      · unfold Shell.finish
        split <;> nofun
      · unfold Shell.finish
        split <;> nofun

theorem World.RunsAt.perform {w : World P} {pid q : Nat} {sh : Shell P} {sg : Bool} {p : P}
    (h : w.RunsAt q p) (hshell : w[pid]? = some ⟨.shell sh, none, sg⟩) (sh' : Shell P)
    (effect : Effect P) : (w.perform pid sh' effect).RunsAt q p := by
  obtain ⟨pr, hpr, hactivity, hstatus⟩ := h
  have hne : pid ≠ q := by
    rintro rfl
    obtain rfl := Option.some.inj (hshell.symm.trans hpr)
    cases hactivity
  have hkeeps (f : Process P → Process P) : (w.modify pid f)[q]? = some pr := by
    rw [List.getElem?_modify_ne _ _ hne]
    exact hpr
  cases effect with
  | none => exact ⟨pr, hkeeps _, hactivity, hstatus⟩
  | start new =>
      refine ⟨pr, ?_, hactivity, hstatus⟩
      rw [Option.mem_def, World.perform,
        List.getElem?_append_left (List.getElem?_eq_some_iff.mp (hkeeps _)).1]
      exact hkeeps _
  | signal pids =>
      obtain ⟨activity, status, signalled⟩ := pr
      obtain rfl : activity = .program p := hactivity
      obtain rfl : status = none := hstatus
      simp only [World.RunsAt, World.perform, World.getElem?_signal, hkeeps]
      split <;> exact ⟨_, rfl, rfl, rfl⟩
  | exit status => exact ⟨pr, hkeeps _, hactivity, hstatus⟩
  | become p => exact ⟨pr, hkeeps _, hactivity, hstatus⟩

/-- **Step.** A running program runs on until it ends by itself. -/
theorem Step.keeps_runsAt {w w' : World P} {e : Event} (h : Step w e w') {q : Nat} {p : P}
    (hends : ∀ status, e ≠ .ends q status) (hrun : w.RunsAt q p) : w'.RunsAt q p := by
  cases h with
  | @ends pid status p' sg h =>
      have hne : pid ≠ q := by
        rintro rfl
        exact hends status rfl
      obtain ⟨pr, hpr, hrest⟩ := hrun
      exact ⟨pr, by rwa [Option.mem_def, List.getElem?_modify_ne _ _ hne], hrest⟩
  | runs h hmove => exact hrun.perform h _ _
  | reaps h hchild hstatus hawaits => exact hrun.perform h _ _

/-- **Run.** A program that was running has ended exactly if that is among the events. -/
theorem run_ended_iff {w w' : World P} {es : List Event} (h : Run.run step w es = .ok w')
    {q : Nat} {p : P} (hrun : w.RunsAt q p) :
    w'.Ended q ↔ ∃ status, .ends q status ∈ es := by
  induction es generalizing w with
  | nil =>
      obtain rfl := Except.ok.inj h
      simpa using hrun.not_ended
  | cons e es ih =>
      cases hstep : step w e with
      | error e' => rw [Run.run_cons_error hstep] at h; cases h
      | ok m =>
          rw [Run.run_cons_ok hstep] at h
          have hmove := step_ok_iff.mp hstep
          by_cases hends : ∃ status, e = .ends q status
          · obtain ⟨status, rfl⟩ := hends
            have hended : w'.Ended q := by
              cases hmove with
              | @ends _ _ p' sg hp =>
                  exact (run_later h).ended
                    ⟨(⟨.program p', none, sg⟩ : Process P).exit status, by simp [hp],
                      Option.some_ne_none _⟩
            exact iff_of_true hended ⟨status, List.mem_cons_self⟩
          · push Not at hends
            rw [ih h (hmove.keeps_runsAt hends hrun)]
            simp [fun status => (hends status).symm]

/-! ## Loops -/

/-- A `while true` without `set -e`, at some point of its body. -/
structure Shell.Loops (sh : Shell P) (body : List (Cmd P)) : Prop where
  errexit : sh.errexit = false
  again : sh.again = some body
  todo : ∀ stmt ∈ sh.todo, ∃ cmd ∈ body, stmt = .simple cmd

theorem Shell.loops_loop (body : List (Cmd P)) : (Shell.loop false body).Loops body :=
  ⟨rfl, rfl, nofun⟩

/-- A loop does nothing to the world but start a command of its body,
which it then waits for. -/
theorem Shell.Loops.execute {sh sh' : Shell P} {body : List (Cmd P)} {fresh status : Nat}
    {effect : Effect P} (h : sh.Loops body)
    (hmove : sh.execute fresh status = some (sh', effect)) :
    sh'.Loops body ∧ sh.child = none ∧
      (effect = .none ∧ sh'.child = none ∨
        ∃ p, .run p ∈ body ∧ effect = .start (.program p) ∧ sh'.child = some fresh) := by
  obtain ⟨errexit, todo, again, child, jobs, last⟩ := sh
  obtain ⟨herrexit, hagain, htodo⟩ := h
  subst herrexit hagain
  cases child with
  | some c => cases hmove
  | none =>
      cases todo with
      | nil =>
          cases hmove
          refine ⟨⟨rfl, rfl, fun stmt hstmt => ?_⟩, rfl, Or.inl ⟨rfl, rfl⟩⟩
          obtain ⟨cmd, hcmd, rfl⟩ := List.mem_map.mp hstmt
          exact ⟨cmd, hcmd, rfl⟩
      | cons stmt rest =>
          obtain ⟨cmd, hcmd, rfl⟩ := htodo stmt (List.mem_cons_self ..)
          cases cmd with
          | run p =>
              cases hmove
              exact ⟨⟨rfl, rfl, htodo⟩, rfl, Or.inr ⟨p, hcmd, rfl, rfl⟩⟩
          | builtin =>
              cases hmove
              exact ⟨⟨rfl, rfl, fun stmt hstmt => htodo stmt (List.mem_cons_of_mem _ hstmt)⟩, rfl,
                Or.inl ⟨rfl, rfl⟩⟩

theorem Shell.Loops.finish {sh : Shell P} {body : List (Cmd P)} (h : sh.Loops body)
    (status : Nat) :
    (sh.finish status).1.Loops body ∧ (sh.finish status).1.child = none
      ∧ (sh.finish status).2 = .none :=
  ⟨⟨h.errexit, h.again, fun stmt hstmt => h.todo stmt (List.mem_of_mem_tail hstmt)⟩, rfl, by
    simp [Shell.finish, h.errexit]⟩

/-- It waits for nothing but the command it has started. -/
theorem Shell.Loops.awaits {sh : Shell P} {body : List (Cmd P)} {child : Nat} (h : sh.Loops body)
    (hchild : child ∈ sh.awaits) : sh.child = some child := by
  obtain ⟨errexit, todo, again, child', jobs, last⟩ := sh
  cases child' with
  | some c =>
      rw [List.mem_singleton.mp hchild]
  | none =>
      cases todo with
      | nil => cases hchild
      | cons stmt rest =>
          obtain ⟨cmd, -, rfl⟩ := h.todo stmt (List.mem_cons_self ..)
          cases hchild

end Jobs
