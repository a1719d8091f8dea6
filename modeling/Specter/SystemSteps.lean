import Specter.System

/-!
# What commands and scripts do to a system

`exec_evolves` says once what any command can do: make directories,
write the file it is about, enable or restart the service it is about,
and undo nothing. The same then holds of every script over its commands
(`eval_evolves`), failed or not, and the rest of the development reads
what it needs off `Evolves`.
-/

namespace Specter

open Posix Shell

/-! ## Actions -/

@[simp] theorem System.applyAll_nil (sys : System) : sys.applyAll [] = sys := rfl

@[simp] theorem System.applyAll_cons (sys : System) (a : Action) (as : List Action) :
    sys.applyAll (a :: as) = (sys.apply a).applyAll as := rfl

theorem System.applyAll_append (sys : System) (as bs : List Action) :
    sys.applyAll (as ++ bs) = (sys.applyAll as).applyAll bs := List.foldl_append

@[simp] theorem System.apply_dirs (sys : System) (a : Action) : (sys.apply a).dirs = sys.dirs := by
  cases a <;> rfl

@[simp] theorem System.apply_enabled (sys : System) (a : Action) :
    (sys.apply a).enabled = sys.enabled := by
  cases a <;> rfl

@[simp] theorem System.apply_journal (sys : System) (a : Action) :
    (sys.apply a).journal = sys.journal ++ [a] := by
  cases a <;> rfl

@[simp] theorem System.applyAll_dirs (sys : System) (as : List Action) :
    (sys.applyAll as).dirs = sys.dirs := by
  induction as generalizing sys with
  | nil => rfl
  | cons a as ih => rw [System.applyAll_cons, ih, System.apply_dirs]

@[simp] theorem System.applyAll_enabled (sys : System) (as : List Action) :
    (sys.applyAll as).enabled = sys.enabled := by
  induction as generalizing sys with
  | nil => rfl
  | cons a as ih => rw [System.applyAll_cons, ih, System.apply_enabled]

@[simp] theorem System.applyAll_journal (sys : System) (as : List Action) :
    (sys.applyAll as).journal = sys.journal ++ as := by
  induction as generalizing sys with
  | nil => simp
  | cons a as ih => rw [System.applyAll_cons, ih, System.apply_journal, List.append_assoc]; rfl

theorem System.applyAll_files_congr {sys sys' : System} (h : sys.files = sys'.files)
    (as : List Action) : (sys.applyAll as).files = (sys'.applyAll as).files := by
  induction as generalizing sys sys' with
  | nil => exact h
  | cons a as ih =>
      refine ih ?_
      cases a <;> simp [System.apply, h]

theorem System.applyAll_files_of_not_wrote {sys : System} {f : File} {as : List Action}
    (h : ∀ text, Action.wrote f text ∉ as) : (sys.applyAll as).files f = sys.files f := by
  induction as generalizing sys with
  | nil => rfl
  | cons a as ih =>
      rw [System.applyAll_cons, ih fun text ht => h text (List.mem_cons_of_mem _ ht)]
      cases a with
      | wrote f' text =>
          have hne : f ≠ f' := fun heq => h text (heq ▸ List.mem_cons_self)
          simp [System.apply, Function.update_of_ne hne]
      | restarted svc => rfl

theorem System.applyAll_files_ne_none {sys : System} {f : File} (h : sys.files f ≠ none)
    (as : List Action) : (sys.applyAll as).files f ≠ none := by
  induction as generalizing sys with
  | nil => exact h
  | cons a as ih =>
      refine ih ?_
      cases a with
      | wrote f' text =>
          by_cases hf : f = f'
          · subst hf; simp [System.apply]
          · simpa [System.apply, Function.update_of_ne hf] using h
      | restarted svc => exact h

/-! ## Commands -/

def Cmd.target : Cmd → Option File
  | .cp _ f | .tee f => some f
  | .installPrebuilt | .buildMavlinkRouter => some .mavlinkRouterd
  | .uvSync | .uvPipInstall => some .sitePackages
  | _ => none

/-- The actions a command can have in the journal. -/
def Cmd.Does (c : Cmd) : Action → Prop
  | .wrote f _ => c.target = some f
  | .restarted svc => c = .restart svc

/-- What the commands `cs` can have done to a system. -/
structure Evolves (cs : List Cmd) (sys sys' : System) : Prop where
  dirs : sys.dirs ⊆ sys'.dirs
  enabled : sys.enabled ⊆ sys'.enabled
  enabledBy : ∀ svc ∈ sys'.enabled, svc ∈ sys.enabled ∨ .enable svc ∈ cs
  journal : ∃ as, sys'.journal = sys.journal ++ as ∧ sys'.files = (sys.applyAll as).files ∧
    ∀ a ∈ as, ∃ c ∈ cs, c.Does a

theorem Evolves.refl (cs : List Cmd) (sys : System) : Evolves cs sys sys where
  dirs := Finset.Subset.refl _
  enabled := Finset.Subset.refl _
  enabledBy := fun _ h => Or.inl h
  journal := ⟨[], by simp, rfl, by simp⟩

theorem Evolves.trans {cs : List Cmd} {sys₁ sys₂ sys₃ : System} (h : Evolves cs sys₁ sys₂)
    (h' : Evolves cs sys₂ sys₃) : Evolves cs sys₁ sys₃ where
  dirs := h.dirs.trans h'.dirs
  enabled := h.enabled.trans h'.enabled
  enabledBy := fun svc hsvc => (h'.enabledBy svc hsvc).elim (h.enabledBy svc) Or.inr
  journal := by
    obtain ⟨as, hj, hf, has⟩ := h.journal
    obtain ⟨bs, hj', hf', hbs⟩ := h'.journal
    refine ⟨as ++ bs, by rw [hj', hj, List.append_assoc], ?_, ?_⟩
    · rw [hf', System.applyAll_append, System.applyAll_files_congr hf]
    · intro a ha
      exact (List.mem_append.mp ha).elim (has a) (hbs a)

theorem Evolves.files_ne_none {cs : List Cmd} {sys sys' : System} (h : Evolves cs sys sys')
    {f : File} (hf : sys.files f ≠ none) : sys'.files f ≠ none := by
  obtain ⟨as, _, hfiles, _⟩ := h.journal
  rw [hfiles]
  exact System.applyAll_files_ne_none hf as

theorem Evolves.mem_journal {cs : List Cmd} {sys sys' : System} (h : Evolves cs sys sys')
    {a : Action} (ha : a ∈ sys.journal) : a ∈ sys'.journal := by
  obtain ⟨as, hj, _, _⟩ := h.journal
  rw [hj]; exact List.mem_append_left _ ha

theorem Evolves.does {cs : List Cmd} {sys sys' : System} (h : Evolves cs sys sys')
    {a : Action} (ha : a ∈ sys'.journal) : a ∈ sys.journal ∨ ∃ c ∈ cs, c.Does a := by
  obtain ⟨as, hj, _, has⟩ := h.journal
  rw [hj] at ha
  exact (List.mem_append.mp ha).imp id (has a)

theorem Evolves.apply {c : Cmd} {a : Action} (ha : c.Does a) (sys : System) :
    Evolves [c] sys (sys.apply a) where
  dirs := by simp
  enabled := by simp
  enabledBy := fun svc h => Or.inl (by simpa using h)
  journal := ⟨[a], by simp, rfl, by simpa using ha⟩

theorem Evolves.makeDirs (cs : List Cmd) (p : Proc) (dirs : List Dir) :
    Evolves cs p.sys (p.makeDirs dirs).sys where
  dirs := Finset.subset_union_left
  enabled := Finset.Subset.refl _
  enabledBy := fun _ h => Or.inl h
  journal := ⟨[], by simp [Proc.makeDirs], rfl, by simp⟩

theorem Proc.write_some {p p' : Proc} {f : File} {text out : Text}
    (h : p.write f text = some (out, p')) : f.dir ∈ p.sys.dirs ∧ p' = p.apply (.wrote f text) := by
  unfold Proc.write at h
  split at h
  · rename_i hdir
    cases h; exact ⟨hdir, rfl⟩
  · cases h

theorem Proc.test_some {p p' : Proc} {passed : Prop} [Decidable passed] {out : Text}
    (h : p.test passed = some (out, p')) : passed ∧ p' = p := by
  unfold Proc.test at h
  split at h
  · rename_i hpassed
    cases h; exact ⟨hpassed, rfl⟩
  · cases h

theorem Proc.test_congr {p : Proc} {passed passed' : Prop} [Decidable passed]
    [Decidable passed'] (h : passed ↔ passed') : p.test passed = p.test passed' := by
  simp only [Proc.test, h]

theorem Proc.write_evolves {c : Cmd} {p p' : Proc} {f : File} {text out : Text}
    (hc : c.target = some f) (h : p.write f text = some (out, p')) :
    Evolves [c] p.sys p'.sys := by
  obtain ⟨_, rfl⟩ := Proc.write_some h
  exact .apply (a := .wrote f text) hc p.sys

theorem Proc.test_evolves {c : Cmd} {p p' : Proc} {passed : Prop} [Decidable passed] {out : Text}
    (h : p.test passed = some (out, p')) : Evolves [c] p.sys p'.sys := by
  obtain ⟨_, rfl⟩ := Proc.test_some h
  exact .refl _ _

theorem perform_evolves {site : Site} {board : Board} {p p' : Proc} {input out : Text} {c : Cmd}
    (h : perform site board p input c = some (out, p')) : Evolves [c] p.sys p'.sys := by
  cases c with
  | echo | «export» | envsubst | daemonReload | isActive | echoWith | tool =>
      cases h; exact .refl _ _
  | chmod | chown | testPrebuilt | start | grepKeyUnset | cdOptSpecter | testWheels =>
      exact Proc.test_evolves h
  | cp | tee | buildMavlinkRouter | uvPipInstall => exact Proc.write_evolves rfl h
  | installPrebuilt =>
      obtain ⟨text, _, hw⟩ := Option.bind_eq_some_iff.mp h
      exact Proc.write_evolves rfl hw
  | source f =>
      obtain ⟨text, _, hw⟩ := Option.map_eq_some_iff.mp h
      cases hw; exact .refl _ _
  | mkdirP dirs =>
      cases h
      exact .makeDirs _ p dirs
  | enable svc =>
      simp only [perform] at h
      split at h
      · cases h
      · cases h
        exact
          { dirs := Finset.Subset.refl _
            enabled := Finset.subset_insert _ _
            enabledBy := by
              intro svc' hsvc
              rcases Finset.mem_insert.mp hsvc with rfl | hmem
              · exact Or.inr List.mem_cons_self
              · exact Or.inl hmem
            journal := ⟨[], by simp, rfl, by simp⟩ }
  | restart svc =>
      simp only [perform] at h
      split at h
      · cases h
      · cases h
        exact .apply (a := .restarted svc) rfl p.sys
  | uvSync =>
      simp only [perform] at h
      split at h
      · cases h
      · exact (Evolves.makeDirs _ p _).trans (Proc.write_evolves rfl h)

/-- **Step.** What any command does, failed or not. -/
theorem exec_evolves (site : Site) (board : Board) (c : Cmd) (p : Proc) (input : Text) :
    Evolves [c] p.sys (exec site board c p input).state.sys := by
  unfold exec
  split
  · exact .refl _ _
  · split
    · rename_i heq
      exact perform_evolves heq
    · exact .refl _ _

theorem Evolves.mono {cs ds : List Cmd} {sys sys' : System} (h : Evolves cs sys sys')
    (hsub : cs ⊆ ds) : Evolves ds sys sys' where
  dirs := h.dirs
  enabled := h.enabled
  enabledBy := fun svc hsvc => (h.enabledBy svc hsvc).imp id fun hc => hsub hc
  journal := by
    obtain ⟨as, hj, hf, has⟩ := h.journal
    refine ⟨as, hj, hf, fun a ha => ?_⟩
    obtain ⟨c, hc, hdoes⟩ := has a ha
    exact ⟨c, hsub hc, hdoes⟩

/-- **Run.** What any script does, completed or not. -/
theorem eval_evolves (site : Site) (board : Board) (pipefail : Bool) (a : Script Cmd)
    (checked : Bool) (p : Proc) :
    Evolves a.commands p.sys (eval (shell site board pipefail) a checked p).2.sys := by
  refine eval_keeps (m := shell site board pipefail)
    (R := fun p p' => Evolves a.commands p.sys p'.sys)
    (fun p => .refl _ p.sys) (fun _ _ _ => .trans) ?_ checked p
  intro c hc p input
  exact (exec_evolves site board c p input).mono (by simpa using hc)

/-- A command that ends with 0 has done what it does. -/
theorem exec_ok {site : Site} {board : Board} {c : Cmd} {p : Proc} {input : Text}
    (h : (exec site board c p input).status = 0) :
    ∃ out, perform site board p input c = some (out, (exec site board c p input).state) := by
  unfold exec at h ⊢
  split at h
  · rename_i hne
    exact absurd h hne
  · rename_i hne
    rw [if_neg hne]
    split at h
    · rename_i out p' heq
      exact ⟨out, by rw [heq]⟩
    · cases h

/-- A failed command leaves the system as it was. -/
theorem exec_failed {site : Site} {board : Board} {c : Cmd} {p : Proc} {input : Text}
    (h : (exec site board c p input).status ≠ 0) : (exec site board c p input).state = p := by
  unfold exec at h ⊢
  split
  · rfl
  · rename_i hzero
    rw [if_neg hzero] at h
    cases hperform : perform site board p input c with
    | none => rfl
    | some r => rw [hperform] at h; exact absurd rfl h

/-- A statement of a block that completed, with what the block did before
and after it. -/
theorem completed_of_mem {site : Site} {board : Board} {pipefail : Bool}
    {as : List (Script Cmd)} {a : Script Cmd} {p p' : Proc} (ha : a ∈ as)
    (h : Completes (shell site board pipefail) (.block as) p p') :
    ∃ q q', Evolves (Script.block as).commands p.sys q.sys ∧
      Completes (shell site board pipefail) a q q' ∧
      Evolves (Script.block as).commands q'.sys p'.sys := by
  refine Completes.of_mem_block (R := fun p p' => Evolves (Script.block as).commands p.sys p'.sys)
    (fun p => .refl _ p.sys) (fun _ _ _ => .trans) ?_ ha h
  intro c hc p input
  exact (exec_evolves site board c p input).mono (by simpa using hc)

theorem performed_of_mem {site : Site} {board : Board} {pipefail : Bool}
    {as : List (Script Cmd)} {c : Cmd} {p p' : Proc} (hc : .cmd c ∈ as)
    (h : Completes (shell site board pipefail) (.block as) p p') :
    ∃ q q' out, Evolves (Script.block as).commands p.sys q.sys ∧
      perform site board q [] c = some (out, q') ∧
      Evolves (Script.block as).commands q'.sys p'.sys := by
  obtain ⟨q, q', hq, hcompl, hq'⟩ := completed_of_mem hc h
  obtain ⟨hstatus, rfl⟩ := completes_cmd.mp hcompl
  obtain ⟨out, hout⟩ := exec_ok hstatus
  exact ⟨q, _, out, hq, hout, hq'⟩

end Specter
