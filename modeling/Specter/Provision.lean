import Specter.Setup

/-!
# What a setup script leaves in the configuration files

Each script copies the template of its environment file over the file in
`/etc/specter`, and two of them render a configuration file from it. A
configuration file is written in one place of one script
(`setupScript_writes`): at the end of a completed script it has the text
written there, and after one that failed that text or the one it had. Of
a template that `envsubst` could not render, the file gets what was
printed of it.
-/

namespace Specter

open Posix Shell Shell.Script

theorem Evolves.files_eq {cs : List Cmd} {sys sys' : System} (h : Evolves cs sys sys') {f : File}
    (hf : ∀ c ∈ cs, c.target ≠ some f) : sys'.files f = sys.files f := by
  obtain ⟨as, -, hfiles, has⟩ := h.journal
  rw [hfiles]
  refine System.applyAll_files_of_not_wrote fun text hmem => ?_
  obtain ⟨c, hc, hdoes⟩ := has _ hmem
  exact hf c hc hdoes

section Statements

variable {site : Site} {board : Board} {pipefail : Bool} {p p' : Proc}

theorem evolves_of_completes {a : Script Cmd}
    (h : Completes (shell site board pipefail) a p p') :
    Evolves a.commands p.sys p'.sys := by
  have hev := eval_evolves site board pipefail a true p
  rwa [h.eval_eq] at hev

theorem completes_performed {c : Cmd} (h : Completes (shell site board pipefail) (.cmd c) p p') :
    ∃ out, perform site board p [] c = some (out, p') := by
  obtain ⟨hstatus, rfl⟩ := completes_cmd.mp h
  exact exec_ok hstatus

theorem file_of_cp {src : Source} {dst : File}
    (h : Completes (shell site board pipefail) (.cmd (.cp src dst)) p p') :
    p'.sys.files dst = some (site.checkout.file src) := by
  obtain ⟨out, hperform⟩ := completes_performed h
  obtain ⟨-, rfl⟩ := Proc.write_some hperform
  simp [Proc.apply, System.apply]

/-- What `envsubst` prints, failed or not. -/
def rendering (site : Site) (board : Board) (vars : Text) (template : Source) : Text :=
  if board.status (.envsubst template) = 0 then
    site.envsubst vars (site.checkout.file template)
  else board.output (.envsubst template)

theorem exec_envsubst (p : Proc) (template : Source) :
    exec site board (.envsubst template) p [] =
      ⟨board.status (.envsubst template), rendering site board p.exported template, p⟩ := by
  unfold exec rendering
  by_cases h : board.status (.envsubst template) = 0 <;> simp [h, perform]

theorem file_of_tee {f : File} {input : Text}
    (h : (exec site board (.tee f) p input).status = 0) :
    (exec site board (.tee f) p input).state.sys.files f = some input := by
  obtain ⟨out, hperform⟩ := exec_ok h
  obtain ⟨-, heq⟩ := Proc.write_some hperform
  rw [heq]
  simp [Proc.apply, System.apply]

/-- What a command that prints `text` prints, failed or not. -/
def printed (board : Board) (c : Cmd) (text : Text) : Text :=
  if board.status c = 0 then text else board.output c

theorem exec_echo (p : Proc) (text : Text) :
    exec site board (.echo text) p [] =
      ⟨board.status (.echo text), printed board (.echo text) (text ++ ['\n']), p⟩ := by
  unfold exec printed
  by_cases h : board.status (.echo text) = 0 <;> simp [h, perform]

end Statements

/-! ## Statements that write a file -/

/-- The statements leave `text` in the file if they complete, and `text`
or what was there if they do not. -/
structure Writes (site : Site) (board : Board) (as : List (Script Cmd)) (f : File)
    (text : Text) : Prop where
  completed : ∀ {p p'}, Completes (shell site board false) (.block as) p p' →
    p'.sys.files f = some text
  always : ∀ p, (eval (shell site board false) (.block as) true p).2.sys.files f =
      p.sys.files f ∨
    (eval (shell site board false) (.block as) true p).2.sys.files f = some text

section Writes

variable {site : Site} {board : Board}

theorem exec_tee_files (f : File) (p : Proc) (input : Text) :
    (exec site board (.tee f) p input).state.sys.files f = p.sys.files f ∨
      (exec site board (.tee f) p input).state.sys.files f = some input := by
  by_cases h : (exec site board (.tee f) p input).status = 0
  · exact Or.inr (file_of_tee h)
  · exact Or.inl (by rw [exec_failed h])

theorem writes_cp (src : Source) (dst : File) :
    Writes site board [.cmd (.cp src dst)] dst (site.checkout.file src) where
  completed h := file_of_cp h
  always p := by
    by_cases hstatus : (exec site board (.cp src dst) p []).status = 0
    · exact Or.inr (file_of_cp (completes_cmd.mpr ⟨hstatus, rfl⟩))
    · exact Or.inl (congrArg (fun q : Proc => q.sys.files dst) (exec_failed hstatus))

/-- A pipeline into `tee`. -/
theorem tee_files {c : Cmd} {f : File} {text : Text} {p : Proc} {status : Nat}
    (h : exec site board c p [] = ⟨status, text, p⟩) :
    (eval (shell site board false) (.pipeline c [.tee f]) true p).2 =
      (exec site board (.tee f) p text).state := by
  have hfirst : (shell site board false).exec c p default = ⟨status, text, p⟩ := h
  simp only [eval, pipe, hfirst]
  rfl

theorem file_of_pipe_tee {c : Cmd} {f : File} {text : Text} {p p' : Proc} {status : Nat}
    (h : exec site board c p [] = ⟨status, text, p⟩)
    (hc : Completes (shell site board false) (.pipeline c [.tee f]) p p') :
    p'.sys.files f = some text := by
  have hfirst : (shell site board false).exec c p default = ⟨status, text, p⟩ := h
  obtain ⟨hstatus, rfl⟩ := completes_pipeline.mp hc
  simp only [pipe, pipeStatus, hfirst] at hstatus ⊢
  exact file_of_tee hstatus

theorem writes_echo (text : Text) (f : File) :
    Writes site board [.pipeline (.echo text) [.tee f]] f
      (printed board (.echo text) (text ++ ['\n'])) where
  completed h := file_of_pipe_tee (exec_echo _ text) h
  always p := by
    have hecho : exec site board (.echo text) p [] = _ := exec_echo p text
    rw [block, tee_files hecho]
    exact exec_tee_files f p _

/-- The statements by which a script provides its variables and renders
a template with them. -/
def provide (src : Source) (env : File) (template : Source) (conf : File) : List (Script Cmd) :=
  [.cmd (.cp src env), .cmd (.source env), .cmd .export,
    .pipeline (.envsubst template) [.tee conf]]

theorem provide_eq (src : Source) (env : File) (template : Source) (conf : File) :
    provide src env template conf =
      [.cmd (.cp src env), .cmd (.source env), .cmd .export] ++
        [.pipeline (.envsubst template) [.tee conf]] := rfl

/-- Where the first three complete, the template's variables are exported. -/
theorem exported_of_completes {src : Source} {env conf : File} (hne : env ≠ conf) {p q : Proc}
    (h : Completes (shell site board false)
      (.block [.cmd (.cp src env), .cmd (.source env), .cmd .export]) p q) :
    q.exported = site.checkout.file src ∧ q.sys.files conf = p.sys.files conf := by
  have hframe := (evolves_of_completes h).files_eq (f := conf) (by simp [Cmd.target, hne])
  simp only [completes_block_cons, completes_block_nil] at h
  obtain ⟨r, hcp, s, hsource, t, hexport, rfl⟩ := h
  have hfile := file_of_cp hcp
  obtain ⟨_, hperform⟩ := completes_performed hsource
  obtain ⟨text, htext, heq⟩ := Option.map_eq_some_iff.mp hperform
  obtain rfl : text = site.checkout.file src := Option.some.inj (htext.symm.trans hfile)
  obtain ⟨_, hexported⟩ := completes_performed hexport
  cases heq
  cases hexported
  exact ⟨rfl, hframe⟩

theorem writes_provide (src template : Source) {env conf : File} (hne : env ≠ conf) :
    Writes site board (provide src env template conf) conf
      (rendering site board (site.checkout.file src) template) where
  completed {p p'} h := by
    rw [provide_eq, completes_block_append] at h
    obtain ⟨q, hthree, hrender⟩ := h
    obtain ⟨hexported, -⟩ := exported_of_completes hne hthree
    rw [← hexported]
    exact file_of_pipe_tee (exec_envsubst q template) hrender
  always p := by
    rcases completes_or_exits (shell site board false)
        (.block [.cmd (.cp src env), .cmd (.source env), .cmd .export]) p with hc | hx
    · obtain ⟨hexported, hframe⟩ := exported_of_completes hne hc
      rw [provide_eq, hc.eval_block_append, block, tee_files (exec_envsubst _ template), hexported,
        ← hframe]
      exact exec_tee_files conf _ _
    · rw [provide_eq, (hx.block_append _).eval_eq]
      refine Or.inl ((eval_evolves site board false _ true p).files_eq ?_)
      simp [Cmd.target, hne]

end Writes

/-! ## The five scripts -/

def envFile : Module → File
  | .wifi => .wifiEnv
  | .mavlink => .mavlinkRouterEnv
  | .camera => .cameraRelayEnv
  | .cellular => .cellularEnv
  | .telemetry => .telemetrySenderEnv

def envTemplate : Module → Source
  | .wifi => .wifiEnv
  | .mavlink => .mavlinkRouterEnv
  | .camera => .cameraRelayEnv
  | .cellular => .cellularEnv
  | .telemetry => .telemetrySenderEnv

/-- The template a script renders, and the file it renders it to. -/
def renders : Module → Option (Source × File)
  | .wifi => some (.hostapdConf, .hostapdConf)
  | .mavlink => some (.mavlinkRouterConf, .mainConf)
  | .camera | .cellular | .telemetry => none

def daemonConf : Text := "DAEMON_CONF=\"/etc/hostapd/hostapd.conf\"".toList

/-- `config/telemetry-sender.env.template`. -/
def telemetrySenderTemplate : Text :=
  ("MAVLINK_SOURCE=tcp:127.0.0.1:5760\n" ++
    "CLOUD_INGEST_URL=http://cloud-ip:8000/api/v1/ingest/telemetry\n" ++
    "DRONE_ID=drone-1\n" ++
    "DRONE_API_KEY=\n" ++
    "SEND_INTERVAL=1\n").toList

/-- The configuration files are those under `/etc`. -/
def File.isConfig (f : File) : Bool :=
  match f.dir with
  | .systemd | .etcDefault | .etcHostapd | .etcSpecter | .etcMavlinkRouter => true
  | .usrBin | .optSpecter | .optSpecterBin | .optSpecterSrc | .optSpecterVenv => false

/-- The text a completed script leaves in a configuration file, if it
writes it. -/
def configText (site : Site) (board : Board) : Module → File → Option Text
  | .wifi, .wifiEnv => some (site.checkout.file .wifiEnv)
  | .wifi, .hostapdConf => some (rendering site board (site.checkout.file .wifiEnv) .hostapdConf)
  | .wifi, .defaultHostapd => some (printed board (.echo daemonConf) (daemonConf ++ ['\n']))
  | .wifi, .unit .droneWifi => some (site.checkout.file (.unit .droneWifi))
  | .mavlink, .mavlinkRouterEnv => some (site.checkout.file .mavlinkRouterEnv)
  | .mavlink, .mainConf =>
    some (rendering site board (site.checkout.file .mavlinkRouterEnv) .mavlinkRouterConf)
  | .mavlink, .unit .mavlinkRouter => some (site.checkout.file (.unit .mavlinkRouter))
  | .camera, .cameraRelayEnv => some (site.checkout.file .cameraRelayEnv)
  | .camera, .unit .cameraRelay => some (site.checkout.file (.unit .cameraRelay))
  | .cellular, .cellularEnv => some (site.checkout.file .cellularEnv)
  | .telemetry, .telemetrySenderEnv => some (site.checkout.file .telemetrySenderEnv)
  | .telemetry, .unit .telemetrySender => some (site.checkout.file (.unit .telemetrySender))
  | _, _ => none

variable {site : Site} {board : Board} {m : Module} {sys sys' : System}

theorem untouched_of_all {as : List (Script Cmd)} {f : File}
    (h : (block as).commands.all (fun c => c.target ≠ some f) = true) :
    ∀ c ∈ (block as).commands, c.target ≠ some f :=
  fun c hc => by simpa using List.all_eq_true.mp h c hc

/-- Each configuration file is written in one place of its script. -/
theorem setupScript_writes {f : File} {text : Text} (hf : configText site board m f = some text) :
    ∃ pre as post, setupScript m = pre ++ (as ++ post) ∧ Writes site board as f text ∧
      (∀ c ∈ (block pre).commands, c.target ≠ some f) ∧
      ∀ c ∈ (block post).commands, c.target ≠ some f := by
  have place {text : Text} (i n : Nat) (hi : i ≤ n) {as : List (Script Cmd)}
      (has : ((setupScript m).drop i).take (n - i) = as)
      (hpre : (block ((setupScript m).take i)).commands.all (fun c => c.target ≠ some f) = true)
      (hpost : (block ((setupScript m).drop n)).commands.all (fun c => c.target ≠ some f) = true)
      (hw : Writes site board as f text) :
      ∃ pre as post, setupScript m = pre ++ (as ++ post) ∧ Writes site board as f text ∧
        (∀ c ∈ (block pre).commands, c.target ≠ some f) ∧
        ∀ c ∈ (block post).commands, c.target ≠ some f := by
    subst has
    refine ⟨_, _, _, ?_, hw, untouched_of_all hpre, untouched_of_all hpost⟩
    have hdrop : (setupScript m).drop n = ((setupScript m).drop i).drop (n - i) := by
      rw [List.drop_drop, Nat.add_sub_cancel' hi]
    rw [hdrop, List.take_append_drop, List.take_append_drop]
  cases m with
  | wifi =>
      cases f with
      | wifiEnv => cases hf; exact place 8 9 (by decide) rfl rfl rfl (writes_cp _ _)
      | hostapdConf =>
          cases hf; exact place 8 12 (by decide) rfl rfl rfl (writes_provide _ _ nofun)
      | defaultHostapd => cases hf; exact place 12 13 (by decide) rfl rfl rfl (writes_echo _ _)
      | unit svc =>
          cases svc <;> cases hf; exact place 13 14 (by decide) rfl rfl rfl (writes_cp _ _)
      | _ => cases hf
  | mavlink =>
      cases f with
      | mavlinkRouterEnv => cases hf; exact place 4 5 (by decide) rfl rfl rfl (writes_cp _ _)
      | mainConf => cases hf; exact place 4 8 (by decide) rfl rfl rfl (writes_provide _ _ nofun)
      | unit svc => cases svc <;> cases hf; exact place 8 9 (by decide) rfl rfl rfl (writes_cp _ _)
      | _ => cases hf
  | camera =>
      cases f with
      | cameraRelayEnv => cases hf; exact place 6 7 (by decide) rfl rfl rfl (writes_cp _ _)
      | unit svc => cases svc <;> cases hf; exact place 8 9 (by decide) rfl rfl rfl (writes_cp _ _)
      | _ => cases hf
  | cellular =>
      cases f with
      | cellularEnv => cases hf; exact place 3 4 (by decide) rfl rfl rfl (writes_cp _ _)
      | _ => cases hf
  | telemetry =>
      cases f with
      | telemetrySenderEnv => cases hf; exact place 8 9 (by decide) rfl rfl rfl (writes_cp _ _)
      | unit svc =>
          cases svc <;> cases hf; exact place 11 12 (by decide) rfl rfl rfl (writes_cp _ _)
      | _ => cases hf

/-- **What a completed script leaves,** -/
theorem runSetup_configText {f : File} {text : Text} (hf : configText site board m f = some text)
    (h : runSetup site board m sys = (sys', 0)) : sys'.files f = some text := by
  obtain ⟨p, hp, rfl⟩ := runSetup_completes h
  obtain ⟨pre, as, post, hscript, hwrites, -, hpost⟩ := setupScript_writes hf
  rw [hscript, completes_block_append] at hp
  obtain ⟨q, -, hrest⟩ := hp
  obtain ⟨q', has, hlast⟩ := completes_block_append.mp hrest
  rw [(evolves_of_completes hlast).files_eq hpost]
  exact hwrites.completed has

/-- **and what any leaves.** -/
theorem runSetup_configText_or {f : File} {text : Text}
    (hf : configText site board m f = some text) (sys : System) :
    (runSetup site board m sys).1.files f = sys.files f ∨
      (runSetup site board m sys).1.files f = some text := by
  obtain ⟨pre, as, post, hscript, hwrites, hpre, hpost⟩ := setupScript_writes hf
  have hframe {bs : List (Script Cmd)} (hbs : ∀ c ∈ (block bs).commands, c.target ≠ some f)
      (p : Proc) : (eval (shell site board false) (.block bs) true p).2.sys.files f =
        p.sys.files f :=
    (eval_evolves site board false _ true p).files_eq hbs
  have hrun : (runSetup site board m sys).1.files f =
      (eval (shell site board false) (.block (pre ++ (as ++ post))) true
        (Proc.start sys)).2.sys.files f := by
    rw [← hscript]; rfl
  rw [hrun]
  have hstart : _ = sys.files f := hframe hpre (Proc.start sys)
  rcases completes_or_exits (shell site board false) (.block pre) (Proc.start sys) with hc | hx
  · rw [hc.eval_block_append]
    set q := (eval (shell site board false) (.block pre) true (Proc.start sys)).2
    have has := hwrites.always q
    rcases completes_or_exits (shell site board false) (.block as) q with hc' | hx'
    · rw [hc'.eval_block_append, hframe hpost]
      rwa [hstart] at has
    · rw [(hx'.block_append post).eval_eq]
      rwa [hstart] at has
  · rw [(hx.block_append _).eval_eq]
    exact Or.inl hstart

/-- The rendered file is what `envsubst` made of the template. -/
theorem runSetup_renders {template : Source} {conf : File}
    (hr : renders m = some (template, conf)) (h : runSetup site board m sys = (sys', 0)) :
    sys'.files conf =
      some (rendering site board (site.checkout.file (envTemplate m)) template) := by
  refine runSetup_configText (m := m) ?_ h
  cases m <;> cases hr <;> rfl

/-- Completed or not, a script writes no other configuration file. -/
theorem runSetup_files_of_configText (sys : System) {f : File} (hconfig : f.isConfig)
    (hf : configText site board m f = none) :
    (runSetup site board m sys).1.files f = sys.files f := by
  refine (runSetup_evolves site board m sys).files_eq fun c hc htarget => ?_
  have hall : (block (setupScript m)).commands.all (fun c =>
      c.target.all fun f => !f.isConfig || (configText site board m f).isSome) = true := by
    cases m <;> rfl
  have h := List.all_eq_true.mp hall c hc
  simp [htarget, hconfig, hf] at h

theorem configText_envFile (site : Site) (board : Board) (m : Module) :
    configText site board m (envFile m) = some (site.checkout.file (envTemplate m)) := by
  cases m <;> rfl

theorem configText_isConfig {f : File} {text : Text} (h : configText site board m f = some text) :
    f.isConfig := by
  unfold configText at h
  split at h <;> first | rfl | cases h

/-- The boards decide on texts, not on which files are written. -/
theorem configText_eq_none {board' : Board} {f : File} (h : configText site board m f = none) :
    configText site board' m f = none := by
  unfold configText at h ⊢
  split at h <;> first | rfl | cases h

end Specter
