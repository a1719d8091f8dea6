import Specter.Lib.Jobs

/-!
# The access point and its two daemons

`wifi-start.sh` from the start of hostapd on. It waits for either daemon
to end and then kills the other; but it is under `set -e`, so a status
other than 0 that comes back from `wait -n` ends it at that line. The
survivor is killed exactly in those runs in which this never happens
while there is one (`killsSurvivor_iff`).
-/

namespace Specter

open Jobs

inductive WifiProgram where
  | hostapd | sleep | dnsmasq
deriving Repr, DecidableEq

def wifiStart : List (Stmt WifiProgram) :=
  [.background .hostapd,  -- HOSTAPD_PID=$!
    .simple (.run .sleep),  -- sleep 2
    .background .dnsmasq,  -- DNSMASQ_PID=$!
    .waitAny [0, 1],
    .kill [0, 1]]

/-- `set -e`. -/
def wifiShell : Shell WifiProgram := Shell.start true wifiStart

def scriptPid : Nat := 0
def hostapdPid : Nat := 1
def dnsmasqPid : Nat := 3

def daemons : List Nat := [hostapdPid, dnsmasqPid]

def wifiWorld : World WifiProgram := [.new (.shell wifiShell)]

/-! ## The claim and its condition -/

/-- The script has come to its wait, and both daemons run. -/
structure ReachedWait (w : World WifiProgram) : Prop where
  reached : ∃ events, Run.run step wifiWorld events = .ok w
  script : ∃ sh, w[scriptPid]? = some ⟨.shell sh, none, false⟩
    ∧ sh.todo = [.waitAny [0, 1], .kill [0, 1]]
  hostapd : w.RunsAt hostapdPid .hostapd
  dnsmasq : w.RunsAt dnsmasqPid .dnsmasq

/-- From the wait on: whenever the script has exited, every daemon has
ended or was sent a signal; and once a daemon has ended, the script does
get to its exit. -/
structure KillsSurvivor (events : List Event) : Prop where
  killed : ∀ w₀ pre w, ReachedWait w₀ → pre <+: events → Run.run step w₀ pre = .ok w →
    w.Ended scriptPid → ∀ daemon ∈ daemons, w.Ended daemon ∨ w.Signalled daemon
  exits : ∀ w₀ pre w, ReachedWait w₀ → pre <+: events → Run.run step w₀ pre = .ok w →
    (∃ daemon ∈ daemons, w.Ended daemon) → w.CanEnd scriptPid 3

/-- `wait -n` comes back with 0, or has left no survivor. -/
def CleanOrLast (w : World WifiProgram) (daemon : Nat) : Prop :=
  (w[daemon]?).bind (·.status) = some 0 ∨ ∀ other ∈ daemons, w.Ended other

def NoFailureSurvived (events : List Event) : Prop :=
  ∀ w₀ pre daemon w w', ReachedWait w₀ → pre ++ [.reaps scriptPid daemon] <+: events →
    Run.run step w₀ pre = .ok w → step w (.reaps scriptPid daemon) = .ok w' →
      CleanOrLast w daemon

/-! ## Worlds after the wait -/

/-- The script with its last `n` statements still to run. -/
def wifiScript (n last : Nat) : Shell WifiProgram where
  errexit := true
  todo := wifiStart.drop (wifiStart.length - n)
  again := none
  child := none
  jobs := daemons
  last := last

/-- The script, the two daemons, and the `sleep` that has returned. -/
def around (script hostapd dnsmasq : Process WifiProgram) : World WifiProgram :=
  [script, hostapd, ⟨.program .sleep, some 0, false⟩, dnsmasq]

theorem around_script {sh sh' : Shell WifiProgram} {exit : Option Nat}
    {hostapd dnsmasq : Process WifiProgram} {sg : Bool}
    (h : (around ⟨.shell sh, exit, false⟩ hostapd dnsmasq)[scriptPid]? =
      some ⟨.shell sh', none, sg⟩) : sh = sh' ∧ exit = none := by
  injection Option.some.inj h with hactivity hexit
  exact ⟨Activity.shell.inj hactivity, hexit⟩

/-- The script at its wait, and both daemons running. -/
def atWait : World WifiProgram :=
  around ⟨.shell (wifiScript 2 0), none, false⟩ (.new (.program .hostapd))
    (.new (.program .dnsmasq))

/-- A daemon ends, or the script moves. -/
theorem step_around {sh : Shell WifiProgram} {exit hostapd dnsmasq : Option Nat}
    {sg sg' : Bool} {e : Event} {w' : World WifiProgram}
    (h : Step (around ⟨.shell sh, exit, false⟩ ⟨.program .hostapd, hostapd, sg⟩
      ⟨.program .dnsmasq, dnsmasq, sg'⟩) e w') :
    (∃ status, w' = around ⟨.shell sh, exit, false⟩ ⟨.program .hostapd, some status, sg⟩
        ⟨.program .dnsmasq, dnsmasq, sg'⟩)
    ∨ (∃ status, w' = around ⟨.shell sh, exit, false⟩ ⟨.program .hostapd, hostapd, sg⟩
        ⟨.program .dnsmasq, some status, sg'⟩)
    ∨ exit = none ∧ ∃ sh' effect,
        w' = (around ⟨.shell sh, exit, false⟩ ⟨.program .hostapd, hostapd, sg⟩
          ⟨.program .dnsmasq, dnsmasq, sg'⟩).perform scriptPid sh' effect
        ∧ ((∃ status, e = .runs scriptPid status ∧ sh.execute 4 status = some (sh', effect))
          ∨ ∃ daemon status pr, e = .reaps scriptPid daemon ∧ daemon ∈ sh.awaits
            ∧ (around ⟨.shell sh, exit, false⟩ ⟨.program .hostapd, hostapd, sg⟩
                ⟨.program .dnsmasq, dnsmasq, sg'⟩)[daemon]? = some pr
            ∧ pr.status = some status ∧ sh.finish status = (sh', effect)) := by
  rcases h.script_cases (by simp) with ⟨i, status, pr, hpr, halive, rfl⟩ | hscript
  · rcases i with _ | _ | _ | i
    · exact Or.inl ⟨status, rfl⟩
    · cases hpr
      cases halive
    · exact Or.inr (Or.inl ⟨status, rfl⟩)
    · cases hpr
  · exact Or.inr (Or.inr hscript)

section Around

variable {script hostapd dnsmasq : Process WifiProgram}

@[simp] theorem ended_script :
    (around script hostapd dnsmasq).Ended scriptPid ↔ script.status ≠ none := by
  simp [around, World.Ended, scriptPid]

@[simp] theorem ended_hostapd :
    (around script hostapd dnsmasq).Ended hostapdPid ↔ hostapd.status ≠ none := by
  simp [around, World.Ended, hostapdPid]

@[simp] theorem ended_dnsmasq :
    (around script hostapd dnsmasq).Ended dnsmasqPid ↔ dnsmasq.status ≠ none := by
  simp [around, World.Ended, dnsmasqPid]

@[simp] theorem signalled_hostapd :
    (around script hostapd dnsmasq).Signalled hostapdPid ↔ hostapd.signalled = true := by
  simp [around, World.Signalled, hostapdPid]

@[simp] theorem signalled_dnsmasq :
    (around script hostapd dnsmasq).Signalled dnsmasqPid ↔ dnsmasq.signalled = true := by
  simp [around, World.Signalled, dnsmasqPid]

theorem forall_daemons {q : Nat → Prop} :
    (∀ daemon ∈ daemons, q daemon) ↔ q hostapdPid ∧ q dnsmasqPid := by
  simp [daemons]

/-- A failure is the end of the script. -/
theorem perform_failed {status : Nat} (h : status ≠ 0) :
    (around ⟨.shell (wifiScript 2 0), none, false⟩ hostapd dnsmasq).perform scriptPid
        ((wifiScript 2 0).finish status).1 ((wifiScript 2 0).finish status).2
      = around ⟨.shell (wifiScript 1 status), some status, false⟩ hostapd dnsmasq := by
  rw [Shell.finish_failed rfl h]
  rfl

end Around

/-- Ended, or sent a signal. -/
def Gone (status : Option Nat) (signalled : Bool) : Prop := status ≠ none ∨ signalled = true

/-- Where the script is, and what has become of the daemons. -/
inductive Watching : World WifiProgram → Prop
  | waiting (hostapd dnsmasq : Option Nat) :
      Watching (around ⟨.shell (wifiScript 2 0), none, false⟩ ⟨.program .hostapd, hostapd, false⟩
        ⟨.program .dnsmasq, dnsmasq, false⟩)
  | killing (hostapd dnsmasq : Option Nat) :
      Watching (around ⟨.shell (wifiScript 1 0), none, false⟩ ⟨.program .hostapd, hostapd, false⟩
        ⟨.program .dnsmasq, dnsmasq, false⟩)
  | leaving {hostapd dnsmasq : Option Nat} {sg sg' : Bool} (h : Gone hostapd sg)
      (h' : Gone dnsmasq sg') :
      Watching (around ⟨.shell (wifiScript 0 0), none, false⟩ ⟨.program .hostapd, hostapd, sg⟩
        ⟨.program .dnsmasq, dnsmasq, sg'⟩)
  | left (sh : Shell WifiProgram) (status : Nat) {hostapd dnsmasq : Option Nat} {sg sg' : Bool}
      (h : Gone hostapd sg) (h' : Gone dnsmasq sg') :
      Watching (around ⟨.shell sh, some status, false⟩ ⟨.program .hostapd, hostapd, sg⟩
        ⟨.program .dnsmasq, dnsmasq, sg'⟩)

/-- **Step.** -/
theorem Watching.step {w w' : World WifiProgram} {e : Event} (h : Watching w)
    (hstep : Step w e w') (hclean : ∀ daemon, e = .reaps scriptPid daemon → CleanOrLast w daemon) :
    Watching w' := by
  have hended (status : Nat) (sg : Bool) : Gone (some status) sg := Or.inl (Option.some_ne_none _)
  cases h with
  | waiting hostapd dnsmasq =>
      rcases step_around hstep with ⟨status, rfl⟩ | ⟨status, rfl⟩ | ⟨-, sh', effect, rfl, hmove⟩
      · exact .waiting _ _
      · exact .waiting _ _
      rcases hmove with ⟨status, -, hmove⟩ | ⟨daemon, status, pr, rfl, -, hpr, hstatus, hmove⟩
      · cases hmove
      · obtain ⟨rfl, rfl⟩ := Prod.ext_iff.mp hmove
        rcases hclean daemon rfl with hzero | hlast
        · rw [hpr, Option.bind_some, hstatus] at hzero
          obtain rfl := Option.some.inj hzero
          exact .killing _ _
        · by_cases hzero : status = 0
          · subst hzero
            exact .killing _ _
          · obtain ⟨hhostapd, hdnsmasq⟩ := forall_daemons.mp hlast
            rw [ended_hostapd] at hhostapd
            rw [ended_dnsmasq] at hdnsmasq
            rw [perform_failed hzero]
            exact .left _ _ (Or.inl hhostapd) (Or.inl hdnsmasq)
  | killing hostapd dnsmasq =>
      rcases step_around hstep with ⟨status, rfl⟩ | ⟨status, rfl⟩ | ⟨-, sh', effect, rfl, hmove⟩
      · exact .killing _ _
      · exact .killing _ _
      rcases hmove with ⟨status, -, hmove⟩ | ⟨daemon, status, pr, -, hawaits, -⟩
      · cases hmove
        -- both are signalled, unless they have ended already
        cases hostapd with
        | none =>
            cases dnsmasq with
            | none => exact .leaving (Or.inr rfl) (Or.inr rfl)
            | some _ => exact .leaving (Or.inr rfl) (hended _ _)
        | some _ =>
            cases dnsmasq with
            | none => exact .leaving (hended _ _) (Or.inr rfl)
            | some _ => exact .leaving (hended _ _) (hended _ _)
      · cases hawaits
  | leaving hgone hgone' =>
      rcases step_around hstep with ⟨status, rfl⟩ | ⟨status, rfl⟩ | ⟨-, sh', effect, rfl, hmove⟩
      · exact .leaving (hended _ _) hgone'
      · exact .leaving hgone (hended _ _)
      rcases hmove with ⟨status, -, hmove⟩ | ⟨daemon, status, pr, -, hawaits, -⟩
      · cases hmove
        exact .left _ _ hgone hgone'
      · cases hawaits
  | left sh status hgone hgone' =>
      rcases step_around hstep with ⟨status, rfl⟩ | ⟨status, rfl⟩ | ⟨hexit, -⟩
      · exact .left sh _ (hended _ _) hgone'
      · exact .left sh _ hgone (hended _ _)
      · cases hexit

/-- A failure that comes back from `wait -n` ends the script, and leaves
the survivor alone. -/
theorem Watching.abandoned {w w' : World WifiProgram} {daemon : Nat} (h : Watching w)
    (hstep : Step w (.reaps scriptPid daemon) w') (hdirty : ¬ CleanOrLast w daemon) :
    w'.Ended scriptPid ∧ ∃ survivor ∈ daemons, ¬ w'.Ended survivor ∧ ¬ w'.Signalled survivor := by
  cases hstep with
  | @reaps _ _ status sh sg pr hp hchild hstatus hawaits =>
    cases h with
    | waiting hostapd dnsmasq =>
        obtain ⟨rfl, -⟩ := around_script hp
        have hfailed : status ≠ 0 := by
          rintro rfl
          exact hdirty (Or.inl (by rw [hchild]; exact hstatus))
        have hlast : ¬ (hostapd ≠ none ∧ dnsmasq ≠ none) := by
          intro hboth
          refine hdirty (Or.inr (forall_daemons.mpr ?_))
          simpa using hboth
        rw [perform_failed hfailed, ended_script]
        refine ⟨Option.some_ne_none _, ?_⟩
        have hdaemon : daemon = hostapdPid ∨ daemon = dnsmasqPid := by
          have hmem : daemon ∈ [hostapdPid, dnsmasqPid] := hawaits
          simpa using hmem
        rcases hdaemon with rfl | rfl
        · obtain rfl := Option.some.inj hchild
          have hended : hostapd = some status := hstatus
          have halive : dnsmasq = none := by simpa [hended] using hlast
          exact ⟨dnsmasqPid, by decide, by simp [halive], by simp⟩
        · obtain rfl := Option.some.inj hchild
          have hended : dnsmasq = some status := hstatus
          have halive : hostapd = none := by simpa [hended] using hlast
          exact ⟨hostapdPid, by decide, by simp [halive], by simp⟩
    | killing hostapd dnsmasq =>
        obtain ⟨rfl, -⟩ := around_script hp
        cases hawaits
    | leaving hgone hgone' =>
        obtain ⟨rfl, -⟩ := around_script hp
        cases hawaits
    | left sh status hgone hgone' => cases (around_script hp).2

/-- What a step can do besides is end the script, `wait -n` having failed. -/
theorem Watching.step_or {w w' : World WifiProgram} {e : Event} (h : Watching w)
    (hstep : Step w e w') : Watching w' ∨ w'.Ended scriptPid := by
  by_cases hclean : ∀ daemon, e = .reaps scriptPid daemon → CleanOrLast w daemon
  · exact Or.inl (h.step hstep hclean)
  · push Not at hclean
    obtain ⟨daemon, rfl, hdirty⟩ := hclean
    exact Or.inr (h.abandoned hstep hdirty).1

theorem run_watching_or {events : List Event} {w : World WifiProgram}
    (h : Run.run step atWait events = .ok w) : Watching w ∨ w.Ended scriptPid := by
  refine Run.run_induction (P := fun _ w => Watching w ∨ w.Ended scriptPid)
    (Or.inl (.waiting none none)) (fun _ w e w' _ ih hstep => ?_) h
  rw [step_ok_iff] at hstep
  rcases ih with hwatching | hended
  · exact hwatching.step_or hstep
  · exact Or.inr (hstep.later.ended hended)

/-! ## From the start of hostapd to the wait -/

/-- What the first statements go through. -/
inductive Starting : World WifiProgram → Prop
  | opening : Starting [⟨.shell wifiShell, none, false⟩]
  | started (hostapd : Option Nat) :
      Starting [⟨.shell { wifiScript 4 0 with jobs := [hostapdPid] }, none, false⟩,
        ⟨.program .hostapd, hostapd, false⟩]
  | sleeping (hostapd sleep : Option Nat) :
      Starting [⟨.shell { wifiScript 4 0 with jobs := [hostapdPid], child := some 2 }, none, false⟩,
        ⟨.program .hostapd, hostapd, false⟩, ⟨.program .sleep, sleep, false⟩]
  | slept (hostapd : Option Nat) :
      Starting [⟨.shell { wifiScript 3 0 with jobs := [hostapdPid] }, none, false⟩,
        ⟨.program .hostapd, hostapd, false⟩, ⟨.program .sleep, some 0, false⟩]

/-- **Step.** They lead to the wait, unless `sleep` fails. -/
theorem Starting.step {w w' : World WifiProgram} {e : Event} (h : Starting w)
    (hstep : Step w e w') : Starting w' ∨ Watching w' ∨ w'.Ended scriptPid := by
  cases h with
  | opening =>
      rcases hstep.script_cases (by simp) with ⟨i, status, pr, hpr, -, rfl⟩ |
        ⟨-, sh', effect, rfl, ⟨status, -, hmove⟩ | ⟨child, status, pr, -, hawaits, -⟩⟩
      · cases hpr
      · cases hmove
        exact Or.inl (.started none)
      · cases hawaits
  | started hostapd =>
      rcases hstep.script_cases (by simp) with ⟨i, status, pr, hpr, -, rfl⟩ |
        ⟨-, sh', effect, rfl, ⟨status, -, hmove⟩ | ⟨child, status, pr, -, hawaits, -⟩⟩
      · rcases i with _ | i
        · exact Or.inl (.started (some status))
        · cases hpr
      · cases hmove
        exact Or.inl (.sleeping hostapd none)
      · cases hawaits
  | sleeping hostapd sleep =>
      rcases hstep.script_cases (by simp) with ⟨i, status, pr, hpr, -, rfl⟩ |
        ⟨-, sh', effect, rfl, ⟨status, -, hmove⟩ |
          ⟨child, status, pr, -, hawaits, hchild, hstatus, hmove⟩⟩
      · rcases i with _ | _ | i
        · exact Or.inl (.sleeping (some status) sleep)
        · exact Or.inl (.sleeping hostapd (some status))
        · cases hpr
      · cases hmove
      · obtain ⟨rfl, rfl⟩ := Prod.ext_iff.mp hmove
        obtain rfl : child = 2 := List.mem_singleton.mp hawaits
        obtain rfl := Option.some.inj hchild
        obtain rfl : sleep = some status := hstatus
        by_cases hzero : status = 0
        · subst hzero
          exact Or.inl (.slept hostapd)
        · rw [Shell.finish_failed rfl hzero]
          exact Or.inr (Or.inr (World.ended_perform_exit rfl _ _))
  | slept hostapd =>
      rcases hstep.script_cases (by simp) with ⟨i, status, pr, hpr, halive, rfl⟩ |
        ⟨-, sh', effect, rfl, ⟨status, -, hmove⟩ | ⟨child, status, pr, -, hawaits, -⟩⟩
      · rcases i with _ | _ | i
        · exact Or.inl (.slept (some status))
        · cases hpr
          cases halive
        · cases hpr
      · cases hmove
        exact Or.inr (Or.inl (.waiting hostapd none))
      · cases hawaits

theorem run_starting {events : List Event} {w : World WifiProgram}
    (h : Run.run step wifiWorld events = .ok w) :
    Starting w ∨ Watching w ∨ w.Ended scriptPid := by
  refine Run.run_induction (P := fun _ w => Starting w ∨ Watching w ∨ w.Ended scriptPid)
    (Or.inl .opening) (fun _ w e w' _ ih hstep => ?_) h
  rw [step_ok_iff] at hstep
  rcases ih with hstarting | hwatching | hended
  · exact hstarting.step hstep
  · exact Or.inr (hwatching.step_or hstep)
  · exact Or.inr (Or.inr (hstep.later.ended hended))

/-- However it is reached, the wait is always reached in the same way. -/
theorem reachedWait_iff {w : World WifiProgram} : ReachedWait w ↔ w = atWait := by
  constructor
  · rintro ⟨⟨events, hrun⟩, ⟨sh, hsh, htodo⟩, hhostapd, hdnsmasq⟩
    rcases run_starting hrun with hstarting | hwatching | ⟨pr, hpr, hstatus⟩
    · cases hstarting <;> cases hsh <;> cases htodo
    · cases hwatching with
      | waiting hostapd dnsmasq =>
          obtain rfl : hostapd = none :=
            not_not.mp fun h => hhostapd.not_ended (ended_hostapd.mpr h)
          obtain rfl : dnsmasq = none :=
            not_not.mp fun h => hdnsmasq.not_ended (ended_dnsmasq.mpr h)
          rfl
      | killing hostapd dnsmasq => cases hsh; cases htodo
      | leaving hgone hgone' => cases hsh; cases htodo
      | left sh status hgone hgone' => cases hsh
    · obtain rfl := Option.some.inj (hsh.symm.trans hpr)
      exact absurd rfl hstatus
  · rintro rfl
    exact ⟨⟨[.runs scriptPid 0, .runs scriptPid 0, .ends 2 0, .reaps scriptPid 2,
      .runs scriptPid 0], by decide⟩, ⟨_, rfl, rfl⟩, by decide, by decide⟩

theorem run_watching {events : List Event} (h : NoFailureSurvived events) :
    ∀ {pre w}, Run.run step atWait pre = .ok w → pre <+: events → Watching w := by
  intro pre w hrun
  refine Run.run_induction (P := fun pre w => pre <+: events → Watching w)
    (fun _ => .waiting none none) (fun pre w e w' hw ih hstep hpre => ?_) hrun
  refine (ih ((List.prefix_append _ _).trans hpre)).step (step_ok_iff.mp hstep) ?_
  rintro daemon rfl
  exact h atWait pre daemon w w' (reachedWait_iff.mpr rfl) hpre hw hstep

/-! ## Supervision -/

theorem Watching.gone {w : World WifiProgram} (h : Watching w) (hexit : w.Ended scriptPid) :
    ∀ daemon ∈ daemons, w.Ended daemon ∨ w.Signalled daemon := by
  cases h with
  | waiting hostapd dnsmasq => exact absurd rfl (ended_script.mp hexit)
  | killing hostapd dnsmasq => exact absurd rfl (ended_script.mp hexit)
  | leaving hgone hgone' => exact absurd rfl (ended_script.mp hexit)
  | left sh status hgone hgone' =>
      rw [forall_daemons, ended_hostapd, ended_dnsmasq, signalled_hostapd, signalled_dnsmasq]
      exact ⟨hgone, hgone'⟩

theorem around_leaving_canEnd (hostapd dnsmasq : Process WifiProgram) :
    (around ⟨.shell (wifiScript 0 0), none, false⟩ hostapd dnsmasq).CanEnd scriptPid 1 := by
  let left := around ⟨.shell (wifiScript 0 0), some 0, false⟩ hostapd dnsmasq
  have hleft : left.CanEnd scriptPid 0 := (ended_script.mpr (Option.some_ne_none 0)).canEnd 0
  exact World.CanEnd.of_step (e := .runs scriptPid 0) rfl hleft

theorem around_killing_canEnd (hostapd dnsmasq : Process WifiProgram) :
    (around ⟨.shell (wifiScript 1 0), none, false⟩ hostapd dnsmasq).CanEnd scriptPid 2 :=
  World.CanEnd.of_step (e := .runs scriptPid 0) rfl
    (around_leaving_canEnd hostapd.signal dnsmasq.signal)

theorem step_wait {hostapd dnsmasq pr : Process WifiProgram} {daemon status : Nat}
    (hdaemon : daemon ∈ daemons)
    (hpr : (around ⟨.shell (wifiScript 2 0), none, false⟩ hostapd dnsmasq)[daemon]? = some pr)
    (hstatus : pr.status = some status) :
    step (around ⟨.shell (wifiScript 2 0), none, false⟩ hostapd dnsmasq) (.reaps scriptPid daemon)
      = .ok ((around ⟨.shell (wifiScript 2 0), none, false⟩ hostapd dnsmasq).perform scriptPid
          ((wifiScript 2 0).finish status).1 ((wifiScript 2 0).finish status).2) :=
  step_ok_iff.mpr (.reaps rfl hpr hstatus hdaemon)

/-- The script is not held up once a daemon has ended. -/
theorem Watching.canEnd {w : World WifiProgram} (h : Watching w)
    (hended : ∃ daemon ∈ daemons, w.Ended daemon) : w.CanEnd scriptPid 3 := by
  cases h with
  | waiting hostapd dnsmasq =>
      obtain ⟨daemon, hdaemon, pr, hpr, hstatus⟩ := hended
      obtain ⟨status, hsome⟩ := Option.ne_none_iff_exists'.mp hstatus
      refine World.CanEnd.of_step (step_wait hdaemon hpr hsome) ?_
      by_cases hzero : status = 0
      · subst hzero
        exact around_killing_canEnd _ _
      · rw [perform_failed hzero]
        exact (ended_script.mpr (Option.some_ne_none _)).canEnd 2
  | killing hostapd dnsmasq => exact (around_killing_canEnd _ _).mono (by omega)
  | leaving hgone hgone' => exact (around_leaving_canEnd _ _).mono (by omega)
  | left sh status hgone hgone' => exact (ended_script.mpr (Option.some_ne_none _)).canEnd 3

/-- **Supervision.** In a run from its wait on, the script kills the
survivor before it exits if and only if `wait -n` never fails while there
is one. -/
theorem killsSurvivor_iff (events : List Event) :
    KillsSurvivor events ↔ NoFailureSurvived events := by
  constructor
  · intro h w₀ pre daemon w w' hwait hpre hrun hstep
    by_contra hdirty
    have hmove := step_ok_iff.mp hstep
    have hrun' := (Run.run_append_singleton hrun).trans hstep
    obtain rfl := reachedWait_iff.mp hwait
    have hwatching := (run_watching_or hrun).resolve_right hmove.not_ended
    obtain ⟨hexit, survivor, hsurvivor, halive, hspared⟩ := hwatching.abandoned hmove hdirty
    rcases h.killed _ _ w' hwait hpre hrun' hexit survivor hsurvivor with hended | hsignalled
    · exact halive hended
    · exact hspared hsignalled
  · intro h
    refine ⟨fun w₀ pre w hwait hpre hrun => ?_, fun w₀ pre w hwait hpre hrun => ?_⟩
    · obtain rfl := reachedWait_iff.mp hwait
      exact (run_watching h hrun hpre).gone
    · obtain rfl := reachedWait_iff.mp hwait
      exact (run_watching h hrun hpre).canEnd

/-- hostapd crashes: the script ends at `wait -n`, and dnsmasq stays. -/
theorem dnsmasq_survives_crash :
    ¬ KillsSurvivor [.ends hostapdPid 1, .reaps scriptPid hostapdPid] := by
  intro h
  let w : World WifiProgram := around ⟨.shell (wifiScript 1 1), some 1, false⟩
    ⟨.program .hostapd, some 1, false⟩ (.new (.program .dnsmasq))
  have hrun : Run.run step atWait [.ends hostapdPid 1, .reaps scriptPid hostapdPid] = .ok w := by
    decide
  have hdnsmasq := h.killed atWait _ w (reachedWait_iff.mpr rfl) List.prefix_rfl hrun (by decide)
    dnsmasqPid (by decide)
  exact absurd hdnsmasq (by decide)

end Specter
