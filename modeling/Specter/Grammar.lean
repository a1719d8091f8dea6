import Specter.InstallContract
import Specter.Lib.EnvFile
import Specter.Selection

/-!
# The profile grammar

The format has a name of the canonical set on a line of its own, with
blanks around it, or nothing; and `#` starts a comment. What the script
looks at is a line without any of its blanks, inner ones as well. So it
accepts every profile of the format, and besides those the ones in which
a name is split by blanks (`accepted_iff_documented_iff`). The NULs that
`read` drops are as good as blanks here.
-/

namespace Specter

open EnvFile Posix

/-- A comment, blanks or a module's name. -/
def DocumentedLine (line : Text) : Prop :=
  trim (uncomment line) = [] ∨ isCanonical (trim (uncomment line))

def Documented (profile : Text) : Prop := ∀ l ∈ lines profile, DocumentedLine l

def Accepted (profile : Text) : Prop := ∃ sel, selection profile = .ok sel

instance : DecidablePred DocumentedLine := fun _ => inferInstanceAs (Decidable (_ ∨ _))

instance : DecidablePred Documented := fun profile =>
  inferInstanceAs (Decidable (∀ l ∈ lines profile, DocumentedLine l))

/-! ## What the script makes of a line -/

/-- What `read` or `tr` deletes. -/
def dropped (c : Char) : Bool := isSpace c || c = '\x00'

def squeezed (line : Text) : Text := (uncomment line).filter (!dropped ·)

/-- Nothing is deleted but the blanks at the ends. -/
def InOnePiece (line : Text) : Prop := ∀ c ∈ trim (uncomment line), ¬ dropped c

/-- Without its blanks, too, the line names no module. -/
def NamesNothing (line : Text) : Prop := squeezed line ≠ [] ∧ ¬ isCanonical (squeezed line)

theorem normalise_filter (line : Text) :
    normalise (line.filter (· ≠ '\x00')) = squeezed line := by
  have hstop : (fun c : Char => !decide (c ≠ '\x00') || decide (c ≠ '#')) =
      fun c => decide (c ≠ '#') := by
    funext c
    by_cases hc : c = '\x00'
    · subst hc; decide
    · simp [hc]
  have hkeep : (fun c => !isSpace c && decide (c ≠ '\x00')) = (!dropped ·) := by
    funext c
    simp [dropped]
  rw [normalise, uncomment, List.takeWhile_filter, hstop, deleteClass, List.filter_filter, hkeep]
  rfl

theorem filter_trim {p : Char → Bool} (hp : ∀ c, isSpace c → p c = false) (t : Text) :
    (trim t).filter p = t.filter p := by
  have hdrop (t : Text) : (t.dropWhile isSpace).filter p = t.filter p := by
    induction t with
    | nil => rfl
    | cons c cs ih =>
        by_cases hc : isSpace c
        · simp [hc, hp c hc, ih]
        · simp [hc]
  rw [trim, List.rdropWhile, List.filter_reverse, hdrop, List.filter_reverse, List.reverse_reverse,
    hdrop]

theorem squeezed_eq_filter_trim (line : Text) :
    squeezed line = (trim (uncomment line)).filter (!dropped ·) :=
  (filter_trim (fun c hc => by simp [dropped, hc]) _).symm

theorem squeezed_of_inOnePiece {line : Text} (h : InOnePiece line) :
    squeezed line = trim (uncomment line) := by
  rw [squeezed_eq_filter_trim, List.filter_eq_self]
  intro c hc
  simpa using h c hc

theorem DocumentedLine.inOnePiece {line : Text} (h : DocumentedLine line) : InOnePiece line := by
  rcases h with hnil | hname
  · simp [InOnePiece, hnil]
  · obtain ⟨m, hm⟩ := isCanonical_iff.mp hname
    have hplain : m.name.all (!dropped ·) = true := by
      cases m <;> rfl
    intro c hc
    rw [← hm] at hc
    simpa using List.all_eq_true.mp hplain c hc

/-- A line of the format is one the script takes, in one piece. -/
theorem documentedLine_iff (line : Text) :
    DocumentedLine line ↔ InOnePiece line ∧ ¬ NamesNothing line := by
  have hnames (h : InOnePiece line) : DocumentedLine line ↔ ¬ NamesNothing line := by
    rw [DocumentedLine, NamesNothing, squeezed_of_inOnePiece h, not_and_or, not_not, not_not]
  exact ⟨fun h => ⟨h.inOnePiece, (hnames h.inOnePiece).mp h⟩, fun h => (hnames h.1).mpr h.2⟩

/-! ## Acceptance -/

/-- The reader's lines are those of the file, but for blank ones. -/
theorem mem_readLoop_iff {profile n : Text} (hn : n ≠ []) :
    n ∈ (readLoop profile).map normalise ↔ n ∈ (lines profile).map squeezed := by
  have hblank : normalise [] = [] := rfl
  induction profile using lineInduction with
  | unterminated l hl =>
      have hl' : '\n' ∉ l.filter (· ≠ '\x00') := fun h => hl (List.mem_of_mem_filter h)
      rw [readLoop, lines_unterminated hl', lines_unterminated hl]
      by_cases hnil : l = []
      · simp [hnil]
      · rw [if_neg hnil, List.map_singleton, ← normalise_filter]
        split
        · rename_i hfilter
          rw [hfilter, hblank]
          simp [hn]
        · rfl
  | line l t hl ih =>
      have hl' : '\n' ∉ l.filter (· ≠ '\x00') := fun h => hl (List.mem_of_mem_filter h)
      have hlines : readLoop (l ++ '\n' :: t) = l.filter (· ≠ '\x00') :: readLoop t := by
        simpa [readLoop] using lines_append hl' (t.filter (· ≠ '\x00'))
      rw [hlines, lines_append hl, List.map_cons, List.map_cons, List.mem_cons, List.mem_cons,
        normalise_filter]
      exact or_congr_right ih

theorem accepted_iff (profile : Text) :
    Accepted profile ↔ ∀ l ∈ lines profile, ¬ NamesNothing l := by
  have hselected : Accepted profile ↔ ∃ names, requested (readLoop profile) = .ok names := by
    unfold Accepted
    rw [selection_refines, selected]
    cases requested (readLoop profile) with
    | error e =>
        constructor
        · rintro ⟨_, h⟩
          cases h
        · rintro ⟨_, h⟩
          cases h
    | ok names => exact iff_of_true ⟨_, rfl⟩ ⟨_, rfl⟩
  rw [hselected, requested_eq]
  constructor
  · rintro h l hl ⟨hne, hunknown⟩
    obtain ⟨l', hl', heq⟩ :=
      List.mem_map.mp ((mem_readLoop_iff hne).mpr (List.mem_map_of_mem hl))
    rcases h l' hl' with hblank | hname
    · exact hne (heq ▸ hblank)
    · rw [heq, mem_canonicalNames] at hname
      exact hunknown hname
  · intro h l hl
    by_cases hblank : normalise l = []
    · exact Or.inl hblank
    · obtain ⟨l', hl', heq⟩ :=
        List.mem_map.mp ((mem_readLoop_iff hblank).mp (List.mem_map_of_mem hl))
      refine Or.inr (mem_canonicalNames.mpr ?_)
      by_contra hunknown
      rw [← heq] at hblank hunknown
      exact h l' hl' ⟨hblank, hunknown⟩

variable {σ : Type}

/-- Nothing is run for a profile that is not accepted. -/
theorem install_of_not_accepted {env : InstallEnv σ} {args : List Text} {sys : σ}
    {report : Report σ} {profile : Text} (h : install env args sys = some report)
    (hprofile : env.profiles (profileOf args) = some profile) (hrejected : ¬ Accepted profile) :
    report.runs = [] ∧ report.sys = sys := by
  cases hstop : report.stop with
  | some why =>
      rcases contract_of_install h with
        ⟨why', rfl, -⟩ | ⟨o, text, modules, -, -, -, -, -, -, -, hinstalled⟩
      · exact ⟨rfl, rfl⟩
      · rw [hinstalled.stop] at hstop
        cases hstop
  | none =>
      obtain ⟨text, htext, hsel, -⟩ := installed_of_install h hstop
      obtain rfl := Option.some.inj (hprofile.symm.trans htext)
      refine absurd ⟨(modulesOf env args).map Module.name, ?_⟩ hrejected
      rw [selection_refines, hsel]
      rfl

/-- **The grammar, exactly.** A profile is accepted just if it is of the
format, if and only if every line is in one piece or some line names
nothing; and nothing is run for a profile that is not accepted. -/
theorem accepted_iff_documented_iff (profile : Text) :
    ((Accepted profile ↔ Documented profile) ↔
      (∀ l ∈ lines profile, InOnePiece l) ∨ ∃ l ∈ lines profile, NamesNothing l)
    ∧ ∀ (σ : Type) (env : InstallEnv σ) args sys report, install env args sys = some report →
        env.profiles (profileOf args) = some profile → ¬ Accepted profile →
          report.runs = [] ∧ report.sys = sys := by
  refine ⟨?_, fun _ _ _ _ _ h => install_of_not_accepted h⟩
  have hdocumented : Documented profile ↔
      (∀ l ∈ lines profile, InOnePiece l) ∧ Accepted profile := by
    simp only [Documented, documentedLine_iff, accepted_iff, forall_and]
  have hnothing : (∃ l ∈ lines profile, NamesNothing l) ↔ ¬ Accepted profile := by
    rw [accepted_iff]
    push Not
    rfl
  rw [hdocumented, hnothing]
  tauto

/-- A name split by a blank is accepted. -/
theorem split_name_accepted :
    selection "wi fi\n".toList = .ok ["wifi".toList] ∧
      ¬ (Accepted "wi fi\n".toList ↔ Documented "wi fi\n".toList) := by
  have hsel : selection "wi fi\n".toList = .ok ["wifi".toList] := by
    rw [selection_refines]
    decide
  refine ⟨hsel, fun h => ?_⟩
  exact absurd (h.mp ⟨_, hsel⟩) (by decide)

end Specter
