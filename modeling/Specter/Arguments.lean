import Specter.InstallContract

/-!
# Does the argument loop end?

A pass of the loop uses up an option, except that `--profile` as the
last argument stays: `shift 2` fails, nothing is under `set -e`, and the
next pass meets the same list. So the loop ends, within as many passes
as there are arguments, on exactly those lists it does not come down to
a `--profile` without its value (`argLoop_ends_iff`).
-/

namespace Specter

open Posix

/-- The words of an option that the loop goes past. -/
inductive IsOption : List Text → Prop
  | profile (value : Text) : IsOption ["--profile".toList, value]
  | assignment {arg : Text} (h : isAssignment arg) : IsOption [arg]
  | dryRun : IsOption ["--dry-run".toList]

/-- Options, and then `--profile` with nothing after it. -/
def Dangling (args : List Text) : Prop :=
  ∃ opts : List (List Text), (∀ w ∈ opts, IsOption w) ∧
    args = opts.flatten ++ ["--profile".toList]

theorem not_dangling_nil : ¬ Dangling [] := by
  rintro ⟨opts, -, heq⟩
  exact List.append_ne_nil_of_right_ne_nil _ (List.cons_ne_nil _ _) heq.symm

theorem dangling_profile : Dangling ["--profile".toList] := ⟨[], nofun, rfl⟩

/-! ## One pass -/

/-- The first word tells how many there are. -/
theorem IsOption.eq_of_append {w w' xs ys : List Text} (h : IsOption w) (h' : IsOption w')
    (heq : w ++ xs = w' ++ ys) : w = w' := by
  have hprofile : ¬ isAssignment "--profile".toList := by decide
  have hdry : "--profile".toList ≠ "--dry-run".toList := by decide
  have hlength : w.length = w'.length := by
    cases h with
    | profile value =>
        cases h' with
        | profile value' => rfl
        | assignment h' => exact absurd ((List.cons.inj heq).1 ▸ h') hprofile
        | dryRun => exact absurd (List.cons.inj heq).1 hdry
    | assignment h =>
        cases h' with
        | profile value' => exact absurd ((List.cons.inj heq).1 ▸ h) hprofile
        | assignment h' => rfl
        | dryRun => rfl
    | dryRun =>
        cases h' with
        | profile value' => exact absurd (List.cons.inj heq).1.symm hdry
        | assignment h' => rfl
        | dryRun => rfl
  exact (List.append_inj heq hlength).1

theorem IsOption.append_ne_profile {w xs : List Text} (h : IsOption w) :
    w ++ xs ≠ ["--profile".toList] := by
  intro heq
  cases h with
  | profile value => cases heq
  | assignment h =>
      rw [(List.cons.inj heq).1] at h
      exact absurd h (by decide)
  | dryRun => exact absurd (List.cons.inj heq).1 (by decide)

theorem dangling_append {w args : List Text} (hw : IsOption w) :
    Dangling (w ++ args) ↔ Dangling args := by
  constructor
  · rintro ⟨opts, hopts, heq⟩
    cases opts with
    | nil => exact absurd heq hw.append_ne_profile
    | cons w' opts =>
        rw [List.flatten_cons, List.append_assoc] at heq
        obtain rfl := hw.eq_of_append (hopts w' List.mem_cons_self) heq
        exact ⟨opts, fun v hv => hopts v (List.mem_cons_of_mem _ hv), List.append_cancel_left heq⟩
  · rintro ⟨opts, hopts, rfl⟩
    exact ⟨w :: opts, List.forall_mem_cons.mpr ⟨hw, hopts⟩, by simp⟩

/-- A pass goes past an option, or meets `--profile` at the end and stays. -/
theorem argPass_takes {arg : Text} {rest args : List Text} {o o' : Options}
    (h : argPass arg rest o = .ok (args, o')) :
    (∃ w, IsOption w ∧ arg :: rest = w ++ args) ∨
      arg :: rest = ["--profile".toList] ∧ args = ["--profile".toList] := by
  unfold argPass at h
  split at h
  · rename_i harg
    cases rest with
    | nil => cases h; rw [harg]; exact Or.inr ⟨rfl, rfl⟩
    | cons value rest => cases h; rw [harg]; exact Or.inl ⟨_, .profile value, rfl⟩
  · split at h
    · rename_i hassign
      cases h
      exact Or.inl ⟨_, .assignment hassign, rfl⟩
    · split at h
      · rename_i hdry
        cases h
        rw [hdry]
        exact Or.inl ⟨_, .dryRun, rfl⟩
      · split at h <;> cases h

/-- **Pass.** A pass keeps a list dangling, and makes none so. -/
theorem dangling_pass {arg : Text} {rest args : List Text} {o o' : Options}
    (h : argPass arg rest o = .ok (args, o')) : Dangling (arg :: rest) ↔ Dangling args := by
  rcases argPass_takes h with ⟨w, hw, heq⟩ | ⟨hstays, rfl⟩
  · rw [heq, dangling_append hw]
  · rw [hstays]

/-- The script ends at a word that starts no option. -/
theorem not_dangling_of_error {arg : Text} {rest : List Text} {o : Options} {why : Stop}
    (h : argPass arg rest o = .error why) : ¬ Dangling (arg :: rest) := by
  have hstart : arg ≠ "--profile".toList ∧ ¬ isAssignment arg ∧ arg ≠ "--dry-run".toList := by
    rcases argPass_error h with ⟨-, hhelp⟩ | ⟨-, hunknown⟩
    · rw [isHelp, Bool.or_eq_true, decide_eq_true_eq, decide_eq_true_eq] at hhelp
      rcases hhelp with rfl | rfl <;> decide
    · simp only [KnownArgument, not_or] at hunknown
      exact ⟨hunknown.1, hunknown.2.1, hunknown.2.2.1⟩
  rintro ⟨opts, hopts, heq⟩
  cases opts with
  | nil => exact hstart.1 (List.cons.inj heq).1
  | cons w opts =>
      rw [List.flatten_cons, List.append_assoc] at heq
      cases hopts w List.mem_cons_self with
      | profile value => exact hstart.1 (List.cons.inj heq).1
      | assignment hassign => exact hstart.2.1 ((List.cons.inj heq).1 ▸ hassign)
      | dryRun => exact hstart.2.2 (List.cons.inj heq).1

/-! ## The loop -/

/-- **Loop.** No number of passes gets past a dangling list, -/
theorem argLoop_dangling {args : List Text} (h : Dangling args) (fuel : Nat) (o : Options) :
    argLoop fuel args o = none := by
  induction fuel generalizing args o with
  | zero =>
      cases args with
      | nil => exact absurd h not_dangling_nil
      | cons arg rest => rfl
  | succ fuel ih =>
      cases args with
      | nil => exact absurd h not_dangling_nil
      | cons arg rest =>
          rw [argLoop]
          cases hpass : argPass arg rest o with
          | error why => exact absurd h (not_dangling_of_error hpass)
          | ok p =>
              obtain ⟨args, o'⟩ := p
              exact ih ((dangling_pass hpass).mp h) o'

/-- and with any other, a pass for each argument is enough. -/
theorem argLoop_of_not_dangling {args : List Text} (h : ¬ Dangling args) {fuel : Nat}
    (hfuel : args.length ≤ fuel) (o : Options) : (argLoop fuel args o).isSome := by
  induction fuel generalizing args o with
  | zero =>
      rw [List.eq_nil_of_length_eq_zero (Nat.le_zero.mp hfuel)]
      rfl
  | succ fuel ih =>
      cases args with
      | nil => rfl
      | cons arg rest =>
          rw [argLoop]
          cases hpass : argPass arg rest o with
          | error why => rfl
          | ok p =>
              obtain ⟨args, o'⟩ := p
              have hargs : ¬ Dangling args := fun hd => h ((dangling_pass hpass).mpr hd)
              rcases argPass_ok hpass with hlen | ⟨rfl, rfl⟩
              · exact ih hargs (hlen.trans (Nat.le_of_succ_le_succ hfuel)) o'
              · exact absurd dangling_profile hargs

/-- **Termination, exactly.** The loop ends, with the script or with the
list used up, within as many passes as there are arguments, if and only
if the list is not dangling; and with a dangling one it never ends. -/
theorem argLoop_ends_iff (args : List Text) :
    ((argLoop args.length args Options.init).isSome ↔ ¬ Dangling args) ∧
      (ArgsEnd args ↔ ¬ Dangling args) := by
  have hend (h : ¬ Dangling args) : (argLoop args.length args Options.init).isSome :=
    argLoop_of_not_dangling h le_rfl Options.init
  refine ⟨⟨fun h hd => ?_, hend⟩, ⟨fun ⟨fuel, h⟩ hd => ?_, fun h => ⟨args.length, hend h⟩⟩⟩
  · rw [argLoop_dangling hd] at h
    cases h
  · rw [argLoop_dangling hd] at h
    cases h

/-- `./install.sh --dry-run --profile` never ends. -/
theorem profile_without_value_loops :
    ¬ (argLoop 2 ["--dry-run".toList, "--profile".toList] Options.init).isSome ∧
      ¬ ArgsEnd ["--dry-run".toList, "--profile".toList] := by
  have hd : Dangling ["--dry-run".toList, "--profile".toList] :=
    (dangling_append .dryRun).mpr dangling_profile
  refine ⟨by decide, fun ⟨fuel, h⟩ => ?_⟩
  rw [argLoop_dangling hd] at h
  cases h

end Specter
