import Specter.Lib.Text

/-!
# Profiles and their two readers

A profile lists the modules of a drone, one name a line. `install.sh`
reads it with a `read` loop and resolves it to `SELECTED`; `update.sh`
reads it again, with `sed` and `grep`, each time it asks `has_module`.

The readers differ in three things: in what is space (`tr` deletes the
C locale's class, `sed` the current locale's), in a name that is no
module (`install.sh` gives up, `update.sh` never looks at it) and in NUL
(`read` drops it). On a text that `install.sh` accepts, they agree
(`hasModule_iff_selected`): every non-blank line is then one of the five
names, which no locale has spaces in.
-/

namespace Specter

open Posix

/-! ## Modules -/

inductive Module where
  | wifi | mavlink | camera | cellular | telemetry
deriving Repr, DecidableEq

inductive Service where
  | droneWifi | mavlinkRouter | cameraRelay | telemetrySender
deriving Repr, DecidableEq

/-- `CANONICAL_MODULES`, in the order they are installed in. -/
def canonicalModules : List Module := [.wifi, .mavlink, .camera, .cellular, .telemetry]

theorem mem_canonicalModules (m : Module) : m ∈ canonicalModules := by
  cases m <;> decide

theorem canonicalModules_nodup : canonicalModules.Nodup := by decide

def Module.name : Module → Text
  | .wifi => "wifi".toList
  | .mavlink => "mavlink".toList
  | .camera => "camera".toList
  | .cellular => "cellular".toList
  | .telemetry => "telemetry".toList

/-- `MODULE_SERVICE`. -/
def Module.service : Module → Option Service
  | .wifi => some .droneWifi
  | .mavlink => some .mavlinkRouter
  | .camera => some .cameraRelay
  | .cellular => none
  | .telemetry => some .telemetrySender

theorem Module.name_ne_nil (m : Module) : m.name ≠ [] := by
  cases m <;> decide

theorem Module.deleteClass_name (ws : SpaceClass) (m : Module) :
    deleteClass ws.isSpace m.name = m.name := by
  have plain : m.name.all (fun c => c.toNat < 128 && !isSpace c) = true := by
    cases m <;> rfl
  refine List.filter_eq_self.mpr fun c hc => ?_
  have hc := List.all_eq_true.mp plain c hc
  simp only [Bool.and_eq_true, decide_eq_true_eq] at hc
  rw [ws.ascii c hc.1]
  exact hc.2

/-! ## The reader of `install.sh` -/

/-- A line up to its first `#`. -/
def uncomment (line : Text) : Text := line.takeWhile (· ≠ '#')

def normalise (line : Text) : Text := deleteClass isSpace (uncomment line)

def isCanonical (line : Text) : Bool := canonicalModules.any fun m => m.name = line

/-- `REQUESTED`, or the first line that names no module. -/
def requested : List Text → Except Text (List Text)
  | [] => .ok []
  | line :: rest =>
    let line := normalise line
    if line = [] then requested rest
    else if isCanonical line then do
      let names ← requested rest
      return line :: names
    else .error line

/-- The lines a `read` loop gives the body; `read` drops NULs. -/
def readLoop (profile : Text) : List Text := lines (profile.filter (· ≠ '\x00'))

def select (names : List Text) : List Module :=
  canonicalModules.filter fun m => m.name ∈ names

/-- `SELECTED` for the text of a profile, or the name it is rejected for. -/
def selected (profile : Text) : Except Text (List Module) :=
  (requested (readLoop profile)).map select

theorem isCanonical_iff {line : Text} : isCanonical line ↔ ∃ m : Module, m.name = line := by
  simp only [isCanonical, List.any_eq_true, decide_eq_true_eq]
  exact ⟨fun ⟨m, _, h⟩ => ⟨m, h⟩, fun ⟨m, h⟩ => ⟨m, mem_canonicalModules m, h⟩⟩

theorem readLoop_of_noNul {profile : Text} (h : '\x00' ∉ profile) :
    readLoop profile = lines profile := by
  rw [readLoop, List.filter_eq_self.mpr]
  intro c hc
  simpa using fun hc0 : c = '\x00' => h (hc0 ▸ hc)

/-- The names an accepted profile requests are those of its lines, and
its lines are blank or name a module. -/
theorem requested_ok {ls names : List Text} (h : requested ls = .ok names) :
    (∀ m : Module, m.name ∈ names ↔ ∃ l ∈ ls, normalise l = m.name) ∧
    ∀ l ∈ ls, normalise l = [] ∨ ∃ m : Module, m.name = normalise l := by
  induction ls generalizing names with
  | nil => cases h; simp
  | cons line rest ih =>
      simp only [requested] at h
      split at h
      · rename_i hblank
        obtain ⟨hnames, hlines⟩ := ih h
        refine ⟨fun m => ?_, ?_⟩
        · simp [hnames, hblank, m.name_ne_nil.symm]
        · simpa [hblank] using hlines
      · split at h
        · rename_i hcanonical
          cases hrest : requested rest with
          | error e => rw [hrest] at h; cases h
          | ok names' =>
              rw [hrest] at h
              cases h
              obtain ⟨hnames, hlines⟩ := ih hrest
              refine ⟨fun m => ?_, ?_⟩
              · simp [hnames, eq_comm]
              · simpa [isCanonical_iff.mp hcanonical] using hlines
        · cases h

/-- A profile is rejected for one of its lines, which names no module. -/
theorem requested_error {ls : List Text} {line : Text} (h : requested ls = .error line) :
    line ≠ [] ∧ (¬ ∃ m : Module, m.name = line) ∧ ∃ l ∈ ls, normalise l = line := by
  induction ls with
  | nil => cases h
  | cons l rest ih =>
      simp only [requested] at h
      split at h
      · obtain ⟨hne, hunknown, l', hl', heq⟩ := ih h
        exact ⟨hne, hunknown, l', List.mem_cons_of_mem _ hl', heq⟩
      · rename_i hne
        split at h
        · cases hrest : requested rest with
          | error e =>
              rw [hrest] at h
              cases h
              obtain ⟨hne', hunknown, l', hl', heq⟩ := ih hrest
              exact ⟨hne', hunknown, l', List.mem_cons_of_mem _ hl', heq⟩
          | ok names' => rw [hrest] at h; cases h
        · rename_i hcanonical
          cases h
          exact ⟨hne, fun hm => hcanonical (isCanonical_iff.mpr hm), l, List.mem_cons_self, rfl⟩

@[simp] theorem mem_select {m : Module} {names : List Text} :
    m ∈ select names ↔ m.name ∈ names := by
  simp [select, mem_canonicalModules]

/-- `SELECTED` is in canonical order, without repetition. -/
theorem select_sublist (names : List Text) : (select names).Sublist canonicalModules :=
  List.filter_sublist

theorem select_nodup (names : List Text) : (select names).Nodup :=
  canonicalModules_nodup.sublist (select_sublist names)

theorem selected_ok {profile : Text} {sel : List Module} (h : selected profile = .ok sel) :
    ∃ names, requested (readLoop profile) = .ok names ∧ sel = select names := by
  cases hr : requested (readLoop profile) with
  | error e => rw [selected, hr] at h; cases h
  | ok names => rw [selected, hr] at h; cases h; exact ⟨names, rfl, rfl⟩

theorem requested_of_blank {ls : List Text} (h : ∀ l ∈ ls, normalise l = []) :
    requested ls = .ok [] := by
  induction ls with
  | nil => rfl
  | cons l ls ih =>
      rw [requested, if_pos (h l List.mem_cons_self)]
      exact ih fun l' hl' => h l' (List.mem_cons_of_mem _ hl')

theorem selected_eq_nil_iff (text : Text) :
    selected text = .ok [] ↔ ∀ line ∈ readLoop text, normalise line = [] := by
  constructor
  · intro h line hline
    obtain ⟨names, hnames, hsel⟩ := selected_ok h
    obtain ⟨hmem, hlines⟩ := requested_ok hnames
    rcases hlines line hline with hblank | ⟨m, hm⟩
    · exact hblank
    · have hin : m ∈ select names := mem_select.mpr ((hmem m).mpr ⟨line, hline, hm.symm⟩)
      rw [← hsel] at hin
      cases hin
  · intro hblank
    rw [selected, requested_of_blank hblank]
    rfl

/-! ## The reader of `update.sh` -/

/-- `sed 's/#.*//; s/[[:space:]]//g'` on a line. -/
def squeeze (ws : SpaceClass) (line : Text) : Text := deleteClass ws.isSpace (uncomment line)

/-- `has_module`: the profile's file is there, and a line of what `sed`
makes of it is the name (`grep -qxF`). -/
def hasModule (ws : SpaceClass) (profileFile : Option Text) (m : Module) : Bool :=
  match profileFile with
  | none => false
  | some profile => m.name ∈ lines (edit (squeeze ws) profile)

theorem squeeze_eq (ws : SpaceClass) (line : Text) :
    squeeze ws line = deleteClass ws.isSpace (normalise line) :=
  (deleteClass_deleteClass ws _).symm

theorem newline_notMem_squeeze (ws : SpaceClass) (l : Text) (hl : '\n' ∉ l) :
    '\n' ∉ squeeze ws l := fun h =>
  hl ((List.takeWhile_sublist _).mem (List.mem_of_mem_filter h))

theorem hasModule_iff (ws : SpaceClass) (profile : Text) (m : Module) :
    hasModule ws (some profile) m ↔ ∃ l ∈ lines profile, squeeze ws l = m.name := by
  rw [hasModule, decide_eq_true_iff]
  exact mem_lines_edit (newline_notMem_squeeze ws) m.name_ne_nil profile

/-- On a line that is blank or names a module, the readers see the same
name. -/
theorem squeeze_eq_name_iff (ws : SpaceClass) {l : Text} (m : Module)
    (hl : normalise l = [] ∨ ∃ m' : Module, m'.name = normalise l) :
    squeeze ws l = m.name ↔ normalise l = m.name := by
  rw [squeeze_eq]
  rcases hl with hblank | ⟨m', hm'⟩
  · rw [hblank]; exact Iff.rfl
  · rw [← hm', m'.deleteClass_name ws]

/-- The readers agree on every text `install.sh` accepts. -/
theorem hasModule_iff_selected (ws : SpaceClass) {profile : Text} {sel : List Module}
    (hnul : '\x00' ∉ profile) (h : selected profile = .ok sel) (m : Module) :
    hasModule ws (some profile) m ↔ m ∈ sel := by
  obtain ⟨names, hnames, rfl⟩ := selected_ok h
  rw [readLoop_of_noNul hnul] at hnames
  obtain ⟨hmem, hlines⟩ := requested_ok hnames
  rw [hasModule_iff, mem_select, hmem]
  refine exists_congr fun l => and_congr_right fun hl => ?_
  exact squeeze_eq_name_iff ws m (hlines l hl)

end Specter
