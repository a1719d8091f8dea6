import Specter.Lib.Jobs

/-!
# The camera relay and its cloud side

`camera-relay.sh` with a cloud stream runs the GCS pipeline and, beside
it, a loop that starts the cloud pipeline again whenever it exits. When
the GCS pipeline exits, it kills the loop. The signal does not reach the
pipeline the loop is waiting for, so the script leaves nothing behind
exactly in those runs in which no cloud pipeline is running at that
moment, or the one that is ends by itself in time (`supervises_iff`).
-/

namespace Specter

open Jobs

inductive Pipeline where
  | encoded | gcs | cloud
deriving Repr, DecidableEq

inductive RelayProgram where
  | gstLaunch (pipeline : Pipeline)
  | sleep
deriving Repr, DecidableEq

/-- What the script reads in its environment file, as far as it decides on
it. -/
structure RelayEnv where
  encodeVideo : String  -- `ENCODE_VIDEO`
  cloudStream : String  -- `CLOUD_STREAM`
deriving Repr, DecidableEq

/-- The body of the cloud loop. -/
def retryLoop : List (Cmd RelayProgram) :=
  [.run (.gstLaunch .cloud),
    .builtin,  -- echo "Cloud pipeline exited, retrying in 5s..."
    .run .sleep]

def cloudRelay : List (Stmt RelayProgram) :=
  [.background (.gstLaunch .gcs),  -- GCS_PID=$!
    .backgroundLoop retryLoop,  -- CLOUD_PID=$!
    .wait 0,
    .kill [1]]

def cameraRelay (env : RelayEnv) : List (Stmt RelayProgram) :=
  if env.encodeVideo = "true" then [.exec (.gstLaunch .encoded)]
  else if env.cloudStream = "true" then cloudRelay
  else [.exec (.gstLaunch .gcs)]

/-- A stream to the cloud and none encoded here. -/
structure CloudEnv extends RelayEnv where
  notEncoded : encodeVideo ≠ "true"
  toCloud : cloudStream = "true"

/-- The script as systemd starts it. -/
def relayWorld (env : RelayEnv) : World RelayProgram :=
  [.new (.shell (Shell.start false (cameraRelay env)))]

def relayPid : Nat := 0
def gcsPid : Nat := 1
def loopPid : Nat := 2

/-! ## The claim and its condition -/

/-- The script runs as long as the GCS pipeline does; once that has ended
it gets to its exit; and nothing but a `sleep` outlives it. -/
structure Supervises (env : CloudEnv) (events : List Event) : Prop where
  keepsRunning : ∀ pre w pid, pre <+: events →
    Run.run step (relayWorld env.toRelayEnv) pre = .ok w →
      w.RunsAt pid (.gstLaunch .gcs) → ¬ w.Ended relayPid
  exits : ∀ pre w, pre <+: events → Run.run step (relayWorld env.toRelayEnv) pre = .ok w →
    w.Ended gcsPid → w.CanEnd relayPid 4
  clean : ∀ pre w, pre <+: events → Run.run step (relayWorld env.toRelayEnv) pre = .ok w →
    w.Ended relayPid → ∀ pr ∈ w, pr.status = none → pr.activity = .program .sleep

/-- The script is about to kill the loop. -/
def AtKill (w : World RelayProgram) : Prop :=
  ∃ sh, w[relayPid]? = some ⟨.shell sh, none, false⟩ ∧ sh.todo = [.kill [1]]

/-- A cloud pipeline that is running when the loop is killed ends by
itself before the script exits. -/
def CloudGone (env : CloudEnv) (events : List Event) : Prop :=
  ∀ pre status mid w w', pre ++ .runs relayPid status :: mid <+: events →
    Run.run step (relayWorld env.toRelayEnv) pre = .ok w → AtKill w →
    Run.run step w (.runs relayPid status :: mid) = .ok w' → w'.Ended relayPid →
      ∀ pid, w.RunsAt pid (.gstLaunch .cloud) → ∃ status, .ends pid status ∈ mid

/-! ## Worlds of the script -/

/-- The script with its last `n` statements still to run. -/
def relayScript (n last : Nat) : Shell RelayProgram where
  errexit := false
  todo := cloudRelay.drop (4 - n)
  again := none
  child := none
  jobs := [gcsPid, loopPid].take (4 - n)
  last := last

/-- Once both sides have been started. -/
def beside (script : Process RelayProgram) (gcs : Option Nat) (loop : Process RelayProgram)
    (cloud : List (Process RelayProgram)) : World RelayProgram :=
  script :: ⟨.program (.gstLaunch .gcs), gcs, false⟩ :: loop :: cloud

/-- What the loop has started. -/
def CloudSide (cloud : List (Process RelayProgram)) : Prop :=
  ∀ pr ∈ cloud, ∃ p, .run p ∈ retryLoop ∧ pr.activity = .program p

section Beside

variable {script loop : Process RelayProgram} {gcs : Option Nat}
  {cloud : List (Process RelayProgram)}

@[simp] theorem ended_relay :
    (beside script gcs loop cloud).Ended relayPid ↔ script.status ≠ none := by
  simp [beside, World.Ended, relayPid]

@[simp] theorem ended_gcs : (beside script gcs loop cloud).Ended gcsPid ↔ gcs ≠ none := by
  simp [beside, World.Ended, gcsPid]

@[simp] theorem ended_loop :
    (beside script gcs loop cloud).Ended loopPid ↔ loop.status ≠ none := by
  simp [beside, World.Ended, loopPid]

end Beside

/-- Where the script is. -/
inductive Relaying : World RelayProgram → Prop
  | opening : Relaying [⟨.shell (relayScript 4 0), none, false⟩]
  | streaming (gcs : Option Nat) :
      Relaying [⟨.shell (relayScript 3 0), none, false⟩, ⟨.program (.gstLaunch .gcs), gcs, false⟩]
  | waiting (gcs : Option Nat) {loop : Shell RelayProgram} {cloud : List (Process RelayProgram)}
      (hloop : loop.Loops retryLoop) (hcloud : CloudSide cloud) :
      Relaying (beside ⟨.shell (relayScript 2 0), none, false⟩ gcs ⟨.shell loop, none, false⟩ cloud)
  | killing (last gcs : Nat) {loop : Shell RelayProgram} {cloud : List (Process RelayProgram)}
      (hloop : loop.Loops retryLoop) (hcloud : CloudSide cloud) :
      Relaying (beside ⟨.shell (relayScript 1 last), none, false⟩ (some gcs)
        ⟨.shell loop, none, false⟩ cloud)
  | leaving (gcs : Nat) {loop : Shell RelayProgram} {cloud : List (Process RelayProgram)}
      (hloop : loop.Loops retryLoop) (hcloud : CloudSide cloud) :
      Relaying (beside ⟨.shell (relayScript 0 0), none, false⟩ (some gcs)
        ⟨.shell loop, some Process.terminated, true⟩ cloud)
  | left (gcs : Nat) {loop : Shell RelayProgram} {cloud : List (Process RelayProgram)}
      (hloop : loop.Loops retryLoop) (hcloud : CloudSide cloud) :
      Relaying (beside ⟨.shell (relayScript 0 0), some 0, false⟩ (some gcs)
        ⟨.shell loop, some Process.terminated, true⟩ cloud)

theorem CloudSide.ends {cloud : List (Process RelayProgram)} (h : CloudSide cloud)
    (i status : Nat) : CloudSide (cloud.modify i (·.exit status)) := by
  intro pr hpr
  obtain ⟨j, hj⟩ := List.mem_iff_getElem?.mp hpr
  rw [List.getElem?_modify] at hj
  obtain ⟨pr', hpr', rfl⟩ := Option.map_eq_some_iff.mp hj
  obtain ⟨p, hp, hactivity⟩ := h pr' (List.mem_of_getElem? hpr')
  refine ⟨p, hp, ?_⟩
  split <;> exact hactivity

theorem CloudSide.starts {cloud : List (Process RelayProgram)} (h : CloudSide cloud)
    {p : RelayProgram} (hp : .run p ∈ retryLoop) : CloudSide (cloud ++ [.new (.program p)]) := by
  intro pr hpr
  rcases List.mem_append.mp hpr with hold | hnew
  · exact h pr hold
  · exact ⟨p, hp, by rw [List.mem_singleton.mp hnew]; rfl⟩

theorem CloudSide.no_shell {cloud : List (Process RelayProgram)} (h : CloudSide cloud) {i : Nat}
    {sh : Shell RelayProgram} {status : Option Nat} {sg : Bool} :
    cloud[i]? ≠ some ⟨.shell sh, status, sg⟩ := by
  intro hi
  obtain ⟨p, -, hactivity⟩ := h _ (List.mem_of_getElem? hi)
  cases hactivity

/-- The GCS pipeline ends, the cloud side moves, or the script does. -/
theorem step_beside {sh loop : Shell RelayProgram} {exit gcs dead : Option Nat} {sg : Bool}
    {cloud : List (Process RelayProgram)} (hloop : loop.Loops retryLoop) (hcloud : CloudSide cloud)
    {e : Event} {w' : World RelayProgram}
    (h : Step (beside ⟨.shell sh, exit, false⟩ gcs ⟨.shell loop, dead, sg⟩ cloud) e w') :
    (∃ status, w' = beside ⟨.shell sh, exit, false⟩ (some status) ⟨.shell loop, dead, sg⟩ cloud)
    ∨ (∃ loop' cloud', loop'.Loops retryLoop ∧ CloudSide cloud' ∧
        w' = beside ⟨.shell sh, exit, false⟩ gcs ⟨.shell loop', dead, sg⟩ cloud')
    ∨ exit = none ∧ ∃ sh' effect,
        w' = (beside ⟨.shell sh, exit, false⟩ gcs ⟨.shell loop, dead, sg⟩ cloud).perform relayPid
          sh' effect
        ∧ ((∃ fresh status, e = .runs relayPid status
              ∧ sh.execute fresh status = some (sh', effect))
          ∨ ∃ child status pr, child ∈ sh.awaits
            ∧ (beside ⟨.shell sh, exit, false⟩ gcs ⟨.shell loop, dead, sg⟩ cloud)[child]? = some pr
            ∧ pr.status = some status ∧ sh.finish status = (sh', effect)) := by
  cases h with
  | @ends pid status p _ hp =>
      rcases pid with _ | _ | _ | i
      · cases hp
      · exact Or.inl ⟨status, rfl⟩
      · cases hp
      · exact Or.inr (Or.inl ⟨loop, _, hloop, hcloud.ends i status, rfl⟩)
  | @runs pid status _ sh' effect _ hp hmove =>
      rcases pid with _ | _ | _ | i
      · cases hp
        exact Or.inr (Or.inr ⟨rfl, sh', effect, rfl, Or.inl ⟨_, status, rfl, hmove⟩⟩)
      · cases hp
      · cases hp
        obtain ⟨hloop', -, ⟨rfl, -⟩ | ⟨p, hp, rfl, -⟩⟩ := hloop.execute hmove
        · exact Or.inr (Or.inl ⟨sh', cloud, hloop', hcloud, rfl⟩)
        · exact Or.inr (Or.inl ⟨sh', _, hloop', hcloud.starts hp, rfl⟩)
      · exact (hcloud.no_shell hp).elim
  | @reaps pid child status _ _ pr hp hchild hstatus hawaits =>
      rcases pid with _ | _ | _ | i
      · cases hp
        exact Or.inr (Or.inr ⟨rfl, _, _, rfl,
          Or.inr ⟨child, status, pr, hawaits, hchild, hstatus, rfl⟩⟩)
      · cases hp
      · cases hp
        obtain ⟨hloop', -, heffect⟩ := hloop.finish status
        rw [heffect]
        exact Or.inr (Or.inl ⟨_, cloud, hloop', hcloud, rfl⟩)
      · exact (hcloud.no_shell hp).elim

theorem step_opening {e : Event} {w' : World RelayProgram}
    (h : Step [⟨.shell (relayScript 4 0), none, false⟩] e w') :
    w' = [⟨.shell (relayScript 3 0), none, false⟩, .new (.program (.gstLaunch .gcs))] := by
  rcases h.script_cases (by simp) with ⟨i, status, pr, hpr, -, rfl⟩ |
    ⟨-, sh', effect, rfl, ⟨status, -, hmove⟩ | ⟨child, status, pr, -, hawaits, -⟩⟩
  · cases hpr
  · cases hmove
    rfl
  · cases hawaits

theorem step_streaming {gcs : Option Nat} {e : Event} {w' : World RelayProgram}
    (h : Step [⟨.shell (relayScript 3 0), none, false⟩,
      ⟨.program (.gstLaunch .gcs), gcs, false⟩] e w') :
    (∃ status, w' = [⟨.shell (relayScript 3 0), none, false⟩,
      ⟨.program (.gstLaunch .gcs), some status, false⟩])
    ∨ w' = beside ⟨.shell (relayScript 2 0), none, false⟩ gcs
        (.new (.shell (Shell.loop false retryLoop))) [] := by
  rcases h.script_cases (by simp) with ⟨i, status, pr, hpr, -, rfl⟩ |
    ⟨-, sh', effect, rfl, ⟨status, -, hmove⟩ | ⟨child, status, pr, -, hawaits, -⟩⟩
  · rcases i with _ | i
    · cases hpr
      exact Or.inl ⟨status, rfl⟩
    · cases hpr
  · cases hmove
    exact Or.inr rfl
  · cases hawaits

/-- Without `set -e` the script goes on whatever comes back from its
`wait`. -/
theorem finish_wait (status : Nat) :
    (relayScript 2 0).finish status = (relayScript 1 status, .none) := rfl

/-- **Step.** -/
theorem Relaying.step {w w' : World RelayProgram} {e : Event} (h : Relaying w)
    (hstep : Step w e w') : Relaying w' := by
  cases h with
  | opening =>
      obtain rfl := step_opening hstep
      exact .streaming none
  | streaming gcs =>
      rcases step_streaming hstep with ⟨status, rfl⟩ | rfl
      · exact .streaming (some status)
      · exact .waiting gcs (Shell.loops_loop retryLoop) nofun
  | waiting gcs hloop hcloud =>
      rcases step_beside hloop hcloud hstep with ⟨status, rfl⟩ |
        ⟨loop', cloud', hloop', hcloud', rfl⟩ | ⟨-, sh', effect, rfl, hmove⟩
      · exact .waiting _ hloop hcloud
      · exact .waiting _ hloop' hcloud'
      rcases hmove with ⟨_, _, -, hmove⟩ | ⟨child, status, pr, hawaits, hpr, hstatus, hmove⟩
      · cases hmove
      · -- the job it waits for is the GCS pipeline, which has ended
        have hgcs : child = gcsPid := List.mem_singleton.mp hawaits
        subst hgcs
        obtain rfl := Option.some.inj hpr
        obtain rfl : gcs = some status := hstatus
        rw [finish_wait] at hmove
        cases hmove
        exact .killing status status hloop hcloud
  | killing last gcs hloop hcloud =>
      rcases step_beside hloop hcloud hstep with ⟨status, rfl⟩ |
        ⟨loop', cloud', hloop', hcloud', rfl⟩ | ⟨-, sh', effect, rfl, hmove⟩
      · exact .killing _ _ hloop hcloud
      · exact .killing _ _ hloop' hcloud'
      rcases hmove with ⟨_, _, -, hmove⟩ | ⟨child, status, pr, hawaits, -⟩
      · cases hmove
        exact .leaving _ hloop hcloud
      · cases hawaits
  | leaving gcs hloop hcloud =>
      rcases step_beside hloop hcloud hstep with ⟨status, rfl⟩ |
        ⟨loop', cloud', hloop', hcloud', rfl⟩ | ⟨-, sh', effect, rfl, hmove⟩
      · exact .leaving _ hloop hcloud
      · exact .leaving _ hloop' hcloud'
      rcases hmove with ⟨_, _, -, hmove⟩ | ⟨child, status, pr, hawaits, -⟩
      · cases hmove
        exact .left _ hloop hcloud
      · cases hawaits
  | left gcs hloop hcloud =>
      rcases step_beside hloop hcloud hstep with ⟨status, rfl⟩ |
        ⟨loop', cloud', hloop', hcloud', rfl⟩ | ⟨hexit, -⟩
      · exact .left _ hloop hcloud
      · exact .left _ hloop' hcloud'
      · cases hexit

/-! ## The kill -/

/-- The loop is killed by the script, and no program is started by that. -/
theorem Relaying.killed {w w' : World RelayProgram} {e : Event} (h : Relaying w)
    (hstep : Step w e w') (halive : ¬ w.Ended loopPid) (hended : w'.Ended loopPid) :
    AtKill w ∧ (∃ status, e = .runs relayPid status)
      ∧ ∀ pid p, w'.RunsAt pid p → w.RunsAt pid p := by
  cases h with
  | opening =>
      obtain rfl := step_opening hstep
      exact absurd hended (by decide)
  | streaming gcs =>
      rcases step_streaming hstep with ⟨status, rfl⟩ | rfl
      · simp [World.Ended, loopPid] at hended
      · exact absurd rfl (ended_loop.mp hended)
  | waiting gcs hloop hcloud =>
      rcases step_beside hloop hcloud hstep with ⟨status, rfl⟩ |
        ⟨loop', cloud', -, -, rfl⟩ | ⟨-, sh', effect, rfl, hmove⟩
      · exact absurd rfl (ended_loop.mp hended)
      · exact absurd rfl (ended_loop.mp hended)
      rcases hmove with ⟨_, _, -, hmove⟩ | ⟨child, status, pr, -, -, -, hmove⟩
      · cases hmove
      · rw [finish_wait] at hmove
        cases hmove
        exact absurd rfl (ended_loop.mp hended)
  | killing last gcs hloop hcloud =>
      rcases step_beside hloop hcloud hstep with ⟨status, rfl⟩ |
        ⟨loop', cloud', -, -, rfl⟩ | ⟨-, sh', effect, rfl, hmove⟩
      · exact absurd rfl (ended_loop.mp hended)
      · exact absurd rfl (ended_loop.mp hended)
      rcases hmove with ⟨_, status, rfl, hmove⟩ | ⟨child, status, pr, hawaits, -⟩
      · cases hmove
        exact ⟨⟨_, rfl, rfl⟩, ⟨status, rfl⟩, fun pid p => World.runsAt_of_perform nofun nofun⟩
      · cases hawaits
  | leaving gcs hloop hcloud => exact absurd (ended_loop.mpr (Option.some_ne_none _)) halive
  | left gcs hloop hcloud => exact absurd (ended_loop.mpr (Option.some_ne_none _)) halive

/-- Afterwards no program is started any more. -/
theorem Relaying.quiet {w w' : World RelayProgram} {e : Event} (h : Relaying w)
    (hstep : Step w e w') (hended : w.Ended loopPid) {pid : Nat} {p : RelayProgram}
    (hruns : w'.RunsAt pid p) : w.RunsAt pid p := by
  refine hstep.runsAt (fun pid status sh sg sh' effect _ hp hmove => ?_) hruns
  cases h with
  | opening => exact absurd hended (by decide)
  | streaming gcs => simp [World.Ended, loopPid] at hended
  | waiting gcs hloop hcloud => exact absurd rfl (ended_loop.mp hended)
  | killing last gcs hloop hcloud => exact absurd rfl (ended_loop.mp hended)
  | leaving gcs hloop hcloud =>
      rcases pid with _ | _ | _ | i
      · cases hp
        cases hmove
        exact ⟨nofun, nofun⟩
      · cases hp
      · cases hp
      · exact (hcloud.no_shell hp).elim
  | left gcs hloop hcloud =>
      rcases pid with _ | _ | _ | i
      · cases hp
      · cases hp
      · cases hp
      · exact (hcloud.no_shell hp).elim

/-! ## Runs -/

theorem relayWorld_eq (env : CloudEnv) :
    relayWorld env.toRelayEnv = [⟨.shell (relayScript 4 0), none, false⟩] := by
  rw [relayWorld, cameraRelay, if_neg env.notEncoded, if_pos env.toCloud]
  rfl

/-- **Run.** -/
theorem run_relaying {env : CloudEnv} {events : List Event} {w : World RelayProgram}
    (h : Run.run step (relayWorld env.toRelayEnv) events = .ok w) : Relaying w := by
  rw [relayWorld_eq] at h
  exact Run.run_induction (P := fun _ w => Relaying w) .opening
    (fun _ _ _ _ _ ih hstep => ih.step (step_ok_iff.mp hstep)) h

/-- Behind the world lies the moment of the kill, and what runs now ran then. -/
def BehindKill (env : CloudEnv) (events : List Event) (w : World RelayProgram) : Prop :=
  ∃ pre status mid w₀, events = pre ++ .runs relayPid status :: mid
    ∧ Run.run step (relayWorld env.toRelayEnv) pre = .ok w₀ ∧ AtKill w₀
    ∧ Run.run step w₀ (.runs relayPid status :: mid) = .ok w
    ∧ ∀ pid p, w.RunsAt pid p → w₀.RunsAt pid p

/-- **Run.** A run that has lost its loop is behind the kill. -/
theorem behindKill_of_ended {env : CloudEnv} {events : List Event} {w : World RelayProgram}
    (h : Run.run step (relayWorld env.toRelayEnv) events = .ok w) :
    w.Ended loopPid → BehindKill env events w := by
  refine Run.run_induction (P := fun events w => w.Ended loopPid → BehindKill env events w)
    (fun hended => ?_) (fun events w e w' hw ih hstep hended => ?_) h
  · rw [relayWorld_eq] at hended
    exact absurd hended (by decide)
  · have hmove := step_ok_iff.mp hstep
    by_cases hbefore : w.Ended loopPid
    · obtain ⟨pre, status, mid, w₀, rfl, hpre, hkill, hmid, hran⟩ := ih hbefore
      refine ⟨pre, status, mid ++ [e], w₀, by simp, hpre, hkill, ?_, fun pid p hruns => ?_⟩
      · rw [← List.cons_append, Run.run_append_singleton hmid]
        exact hstep
      · exact hran pid p ((run_relaying hw).quiet hmove hbefore hruns)
    · obtain ⟨hkill, ⟨status, rfl⟩, hran⟩ := (run_relaying hw).killed hmove hbefore hended
      exact ⟨events, status, [], w, rfl, hw, hkill, Run.run_cons_ok hstep, hran⟩

theorem Relaying.keepsRunning {w : World RelayProgram} (h : Relaying w) {pid : Nat}
    (hgcs : w.RunsAt pid (.gstLaunch .gcs)) : ¬ w.Ended relayPid := by
  cases h with
  | opening => decide
  | streaming gcs => simp [World.Ended, relayPid]
  | waiting gcs hloop hcloud => exact fun hexit => ended_relay.mp hexit rfl
  | killing last gcs hloop hcloud => exact fun hexit => ended_relay.mp hexit rfl
  | leaving gcs hloop hcloud => exact fun hexit => ended_relay.mp hexit rfl
  | left gcs hloop hcloud =>
      obtain ⟨pr, hpr, hactivity, hstatus⟩ := hgcs
      rcases pid with _ | _ | _ | i
      · cases hpr
        cases hactivity
      · cases hpr
        cases hstatus
      · cases hpr
        cases hactivity
      · -- the loop starts no GCS pipeline
        obtain ⟨p, hp, hp'⟩ := hcloud pr (List.mem_of_getElem? hpr)
        rw [hactivity] at hp'
        cases hp'
        exact absurd hp (by decide)

theorem beside_leaving_canEnd (gcs : Option Nat) (loop : Process RelayProgram)
    (cloud : List (Process RelayProgram)) :
    (beside ⟨.shell (relayScript 0 0), none, false⟩ gcs loop cloud).CanEnd relayPid 1 := by
  let left := beside ⟨.shell (relayScript 0 0), some 0, false⟩ gcs loop cloud
  have hleft : left.CanEnd relayPid 0 := (ended_relay.mpr (Option.some_ne_none 0)).canEnd 0
  exact World.CanEnd.of_step (e := .runs relayPid 0) rfl hleft

theorem beside_killing_canEnd (last : Nat) (gcs : Option Nat) (loop : Process RelayProgram)
    (cloud : List (Process RelayProgram)) :
    (beside ⟨.shell (relayScript 1 last), none, false⟩ gcs loop cloud).CanEnd relayPid 2 :=
  World.CanEnd.of_step (e := .runs relayPid 0) rfl (beside_leaving_canEnd gcs loop.signal cloud)

theorem beside_waiting_canEnd (gcs : Nat) (loop : Process RelayProgram)
    (cloud : List (Process RelayProgram)) :
    (beside ⟨.shell (relayScript 2 0), none, false⟩ (some gcs) loop cloud).CanEnd relayPid 3 :=
  World.CanEnd.of_step (e := .reaps relayPid gcsPid) rfl (beside_killing_canEnd gcs _ loop cloud)

/-- The script is not held up once the GCS pipeline has ended. -/
theorem Relaying.canEnd {w : World RelayProgram} (h : Relaying w) (hgcs : w.Ended gcsPid) :
    w.CanEnd relayPid 4 := by
  cases h with
  | opening => exact absurd hgcs (by decide)
  | streaming gcs =>
      obtain ⟨pr, hpr, hstatus⟩ := hgcs
      cases hpr
      obtain ⟨status, rfl⟩ := Option.ne_none_iff_exists'.mp hstatus
      exact World.CanEnd.of_step (e := .runs relayPid 0) rfl (beside_waiting_canEnd status _ [])
  | waiting gcs hloop hcloud =>
      obtain ⟨status, rfl⟩ := Option.ne_none_iff_exists'.mp (ended_gcs.mp hgcs)
      exact (beside_waiting_canEnd status _ _).mono (by omega)
  | killing last gcs hloop hcloud => exact (beside_killing_canEnd _ _ _ _).mono (by omega)
  | leaving gcs hloop hcloud => exact (beside_leaving_canEnd _ _ _).mono (by omega)
  | left gcs hloop hcloud => exact (ended_relay.mpr (Option.some_ne_none _)).canEnd 4

/-- What may outlive the script. -/
theorem Relaying.alive_of_ended {w : World RelayProgram} (h : Relaying w)
    (hexit : w.Ended relayPid) :
    w.Ended loopPid ∧ ∀ pr ∈ w, pr.status = none →
      pr.activity = .program .sleep ∨ pr.activity = .program (.gstLaunch .cloud) := by
  cases h with
  | opening => exact absurd hexit (by decide)
  | streaming gcs => simp [World.Ended, relayPid] at hexit
  | waiting gcs hloop hcloud => exact absurd rfl (ended_relay.mp hexit)
  | killing last gcs hloop hcloud => exact absurd rfl (ended_relay.mp hexit)
  | leaving gcs hloop hcloud => exact absurd rfl (ended_relay.mp hexit)
  | left gcs hloop hcloud =>
      refine ⟨ended_loop.mpr (Option.some_ne_none _), ?_⟩
      simp only [beside, List.forall_mem_cons, reduceCtorEq, false_implies, true_and]
      intro pr hpr _
      obtain ⟨p, hp, hactivity⟩ := hcloud pr hpr
      have hbody : p = .gstLaunch .cloud ∨ p = .sleep := by simpa [retryLoop] using hp
      rcases hbody with rfl | rfl
      · exact Or.inr hactivity
      · exact Or.inl hactivity

/-! ## Supervision -/

/-- **Supervision.** In a run the script does all that is asked of it if
and only if the cloud pipeline running at the kill, should there be one,
ends by itself before the script exits. -/
theorem supervises_iff (env : CloudEnv) (events : List Event) :
    Supervises env events ↔ CloudGone env events := by
  constructor
  · intro h pre status mid w w' hpre hrun _ hrun' hexit pid hruns
    have hended : w'.Ended pid := by
      by_contra halive
      obtain ⟨pr, hpr, hactivity, -⟩ := hruns
      obtain ⟨pr', hpr', hlater⟩ := run_later hrun' pid pr hpr
      have hall := (Run.run_append_of_ok hrun).trans hrun'
      have hsleep := h.clean _ w' hpre hall hexit pr' (List.mem_of_getElem? hpr')
        (by_contra fun hstatus => halive ⟨pr', hpr', hstatus⟩)
      rw [hlater.program _ hactivity] at hsleep
      cases hsleep
    obtain ⟨status', hends⟩ := (run_ended_iff hrun' hruns).mp hended
    exact ⟨status', (List.mem_cons.mp hends).resolve_left fun heq => Event.noConfusion heq⟩
  · intro h
    refine ⟨fun pre w pid _ hrun => (run_relaying hrun).keepsRunning,
      fun pre w _ hrun => (run_relaying hrun).canEnd, fun pre w hpre hrun hexit pr hpr halive => ?_⟩
    obtain ⟨hloop, hcloud⟩ := (run_relaying hrun).alive_of_ended hexit
    refine (hcloud pr hpr halive).resolve_right fun hactivity => ?_
    obtain ⟨pre', status, mid, w₀, rfl, hrun₀, hkill, hmid, hran⟩ := behindKill_of_ended hrun hloop
    obtain ⟨pid, hpid⟩ := List.mem_iff_getElem?.mp hpr
    have hruns : w.RunsAt pid (.gstLaunch .cloud) := ⟨pr, hpid, hactivity, halive⟩
    have hruns₀ := hran pid _ hruns
    obtain ⟨status', hends⟩ := h pre' status mid w₀ w hpre hrun₀ hkill hmid hexit pid hruns₀
    exact hruns.not_ended ((run_ended_iff hmid hruns₀).mpr ⟨status', List.mem_cons_of_mem _ hends⟩)

def benchRelay : CloudEnv := ⟨⟨"false", "true"⟩, by decide, rfl⟩

/-- The GCS pipeline exits while the cloud pipeline is up, which then
outlives the script. -/
theorem cloud_pipeline_orphaned :
    ¬ Supervises benchRelay [.runs relayPid 0, .runs relayPid 0, .runs loopPid 0, .runs loopPid 0,
      .ends gcsPid 1, .reaps relayPid gcsPid, .runs relayPid 0, .runs relayPid 0] := by
  intro h
  let w : World RelayProgram := beside ⟨.shell (relayScript 0 0), some 0, false⟩ (some 1)
    ⟨.shell { Shell.loop false retryLoop with
      todo := retryLoop.map .simple
      child := some 3 }, some Process.terminated, true⟩
    [.new (.program (.gstLaunch .cloud))]
  have hrun : Run.run step (relayWorld benchRelay.toRelayEnv)
      [.runs relayPid 0, .runs relayPid 0, .runs loopPid 0, .runs loopPid 0, .ends gcsPid 1,
        .reaps relayPid gcsPid, .runs relayPid 0, .runs relayPid 0] = .ok w := by decide
  have hsleep := h.clean _ w List.prefix_rfl hrun (by decide) (.new (.program (.gstLaunch .cloud)))
    (by decide) rfl
  cases hsleep

end Specter
