import Mathlib.Data.List.Basic
import Mathlib.Logic.Function.Basic
import Specter.Profile

/-!
# `install.sh`

The installer as a function of its arguments, the profiles directory and
the system it runs on. What the setup scripts do is a parameter: any
function from a system to a system and an exit status. So is the system
itself, `σ`; the one thing `install.sh` does to it on its own is to
record the profile's name.

Only what the terminal shows on the way (usage, progress lines) is left
out: it is printed and not read again.
-/

namespace Specter

open Posix

variable {σ : Type}

/-! ## Arguments -/

structure Options where
  profile : Text
  dryRun : Bool
deriving Repr, DecidableEq

def Options.init : Options where
  profile := []
  dryRun := false

/-- Why the script ends before its first module. -/
inductive Stop where
  | help
  | unknownArgument (arg : Text)
  | profileRequired
  | unknownProfile (profile : Text)
  | unknownModule (profile line : Text)
  | dryRun (profile : Text) (modules : List Module)
  | noModules (profile : Text)
deriving Repr, DecidableEq

/-- What `die` is given; help and a dry run end in `exit 0`. -/
def Stop.error : Stop → Option Text
  | .help | .dryRun _ _ => none
  | .unknownArgument arg => some ("unknown argument: ".toList ++ arg)
  | .profileRequired => some "--profile is required".toList
  | .unknownProfile profile => some ("unknown profile: ".toList ++ profile)
  | .unknownModule profile line =>
    some ("profile '".toList ++ profile ++ "' names unknown module: '".toList ++ line ++
      "'".toList)
  | .noModules profile =>
    some ("profile '".toList ++ profile ++ "' selects no modules".toList)

def isHelp (arg : Text) : Bool := arg = "-h".toList || arg = "--help".toList

/-- `--profile=*`. -/
def isAssignment (arg : Text) : Bool := "--profile=".toList.isPrefixOf arg

/-- One pass of the argument loop: what is left of the arguments, and the
variables. With nothing after `--profile`, `shift 2` fails and shifts
nothing. -/
def argPass (arg : Text) (rest : List Text) (o : Options) :
    Except Stop (List Text × Options) :=
  if arg = "--profile".toList then
    match rest with
    | [] => .ok ([arg], { o with profile := [] })
    | value :: rest => .ok (rest, { o with profile := value })
  else if isAssignment arg then
    .ok (rest, { o with profile := (arg.dropWhile (· ≠ '=')).drop 1 })
  else if arg = "--dry-run".toList then .ok (rest, { o with dryRun := true })
  else if isHelp arg then .error .help
  else .error (.unknownArgument arg)

/-- The argument loop, in at most so many passes. -/
def argLoop : Nat → List Text → Options → Option (Except Stop Options)
  | _, [], o => some (.ok o)
  | 0, _ :: _, _ => none
  | fuel + 1, arg :: rest, o =>
    match argPass arg rest o with
    | .ok (args, o) => argLoop fuel args o
    | .error why => some (.error why)

def ArgsEnd (args : List Text) : Prop := ∃ fuel, (argLoop fuel args Options.init).isSome

def ParsedAs (args : List Text) (o : Options) : Prop :=
  ∃ fuel, argLoop fuel args Options.init = some (.ok o)

/-- A pass uses up an argument, but for the one that meets `--profile` at
the end. -/
theorem argPass_ok {arg : Text} {rest args : List Text} {o o' : Options}
    (h : argPass arg rest o = .ok (args, o')) :
    args.length ≤ rest.length ∨ arg = "--profile".toList ∧ args = [arg] := by
  unfold argPass at h
  split at h
  · rename_i harg
    cases rest with
    | nil => cases h; exact Or.inr ⟨harg, rfl⟩
    | cons value rest => cases h; exact Or.inl (Nat.le_succ _)
  · repeat' split at h
    all_goals cases h
    all_goals exact Or.inl le_rfl

theorem argLoop_profile_last (fuel : Nat) (o : Options) :
    argLoop fuel ["--profile".toList] o = none := by
  induction fuel generalizing o with
  | zero => rfl
  | succ fuel ih => exact ih _

/-- As many passes as there are arguments are enough, if any number is. -/
theorem argLoop_enough {fuel : Nat} {args : List Text} {o : Options}
    {r : Except Stop Options} (h : argLoop fuel args o = some r) {n : Nat}
    (hn : args.length ≤ n) : argLoop n args o = some r := by
  induction fuel generalizing args o n with
  | zero =>
      cases args with
      | nil => cases n <;> exact h
      | cons arg rest => cases h
  | succ fuel ih =>
      cases args with
      | nil => cases n <;> exact h
      | cons arg rest =>
          obtain ⟨n, rfl⟩ : ∃ k, n = k + 1 := ⟨n - 1, by simp at hn; omega⟩
          simp only [argLoop] at h ⊢
          cases hpass : argPass arg rest o with
          | error why => rw [hpass] at h; exact h
          | ok p =>
              obtain ⟨args, o'⟩ := p
              simp only [hpass] at h ⊢
              rcases argPass_ok hpass with hlen | ⟨rfl, rfl⟩
              · exact ih h (by simp at hn; omega)
              · rw [argLoop_profile_last] at h; cases h

/-! ## Modules -/

inductive Result where
  | ok | failed
deriving Repr, DecidableEq

def Result.of (status : Nat) : Result := if status = 0 then .ok else .failed

theorem Result.of_eq_failed {status : Nat} : Result.of status = .failed ↔ status ≠ 0 := by
  unfold Result.of; split <;> simp [*]

/-- What the script meets: the text of `$PROFILES_DIR/<name>.conf`, the
setup script of a module, the two commands that record a profile's name,
and what `systemctl is-active` prints. -/
structure InstallEnv (σ : Type) where
  profiles : Text → Option Text
  setup : Module → σ → σ × Nat
  record : Text → σ → σ
  isActive : Service → σ → Text

structure ModuleRun (σ : Type) where
  module : Module
  before : σ
  after : σ
  status : Nat
deriving DecidableEq

structure Progress (σ : Type) where
  sys : σ
  result : Module → Option Result
  runs : List (ModuleRun σ)

def moduleStep (env : InstallEnv σ) (p : Progress σ) (module : Module) : Progress σ :=
  let (sys, status) := env.setup module p.sys
  { sys := sys
    result := Function.update p.result module (some (Result.of status))
    runs := p.runs ++ [⟨module, p.sys, sys, status⟩] }

def moduleLoop (env : InstallEnv σ) (modules : List Module) (sys : σ) : Progress σ :=
  modules.foldl (moduleStep env) ⟨sys, fun _ => none, []⟩

structure Row where
  module : Module
  install : Option Result
  service : Text
deriving Repr, DecidableEq

def summaryRow (env : InstallEnv σ) (result : Module → Option Result) (sys : σ)
    (module : Module) : Row where
  module := module
  install := result module
  service :=
    match module.service with
    | some svc => substitute (env.isActive svc sys)
    | none => "n/a".toList

structure Report (σ : Type) where
  stop : Option Stop  -- why it ended early, if it did
  runs : List (ModuleRun σ)
  sys : σ
  summary : List Row
  error : Option Text  -- what `die` was given, if it was called
deriving DecidableEq

/-- `die` exits with 1; the other ends of the script are `exit 0` and
its last line. -/
def Report.status (report : Report σ) : Nat := if report.error = none then 0 else 1

def stopped (sys : σ) (why : Stop) : Report σ where
  stop := some why
  runs := []
  sys := sys
  summary := []
  error := why.error

/-- From the module loop on. -/
def installModules (env : InstallEnv σ) (profile : Text) (modules : List Module) (sys : σ) :
    Report σ :=
  let p := moduleLoop env modules sys
  let sys := env.record profile p.sys
  let summary := modules.map (summaryRow env p.result sys)
  let anyFailed := summary.any fun row => row.install = some .failed
  { stop := none
    runs := p.runs
    sys := sys
    summary := summary
    error := if anyFailed then some "one or more modules failed to install".toList else none }

/-- From the end of the argument loop on. -/
def installWith (env : InstallEnv σ) (o : Options) (sys : σ) : Report σ :=
  if o.profile = [] then stopped sys .profileRequired
  else
    match env.profiles o.profile with
    | none => stopped sys (.unknownProfile o.profile)
    | some text =>
      match selected text with
      | .error line => stopped sys (.unknownModule o.profile line)
      | .ok modules =>
        if o.dryRun then stopped sys (.dryRun o.profile modules)
        else if modules = [] then stopped sys (.noModules o.profile)
        else installModules env o.profile modules sys

/-- The script, if its argument loop ends. -/
def install (env : InstallEnv σ) (args : List Text) (sys : σ) : Option (Report σ) :=
  match argLoop args.length args Options.init with
  | none => none
  | some (.error why) => some (stopped sys why)
  | some (.ok o) => some (installWith env o sys)

end Specter
