import Mathlib.Logic.Relation
import Specter.Profile

/-!
# How `install.sh` resolves a profile

The loops of the script, statement by statement: a `read` loop that
collects `REQUESTED` or calls `die`, and two nested loops that build
`SELECTED`. Together they are `selected` (`selection_refines`), and so
one filter: the canonical names that are lines of the profile, once
comments and space are gone. Which spelling of the profile the names come
from makes no difference (`selection_correct`).
-/

namespace Specter

open Posix

/-- `CANONICAL_MODULES`, as the words they are in the script. -/
def canonicalNames : List Text := canonicalModules.map Module.name

/-! ## `REQUESTED` -/

/-- The loop of `is_canonical`, and its status. -/
def isCanonicalLoop (arg : Text) : List Text → Nat
  | [] => 1
  | m :: ms => if m = arg then 0 else isCanonicalLoop arg ms

/-- The body of the `read` loop, or what it dies of. -/
def requestBody (line : Text) (req : List Text) : Except Text (List Text) :=
  let line := cutLongest (fun t => t.head? = some '#') line
  let line := substitute (deleteClass isSpace line)
  if line = [] then .ok req
  else if isCanonicalLoop line canonicalNames ≠ 0 then .error line
  else .ok (req ++ [line])

/-- `while IFS= read -r line || [ -n "$line" ]`, on what is left of the file. -/
def requestLoop (profile : Text) (req : List Text) : Except Text (List Text) :=
  if _h : (readLine profile).terminated ∨ (readLine profile).line ≠ [] then do
    let req ← requestBody (readLine profile).line req
    requestLoop (readLine profile).rest req
  else .ok req
termination_by profile.length
decreasing_by
  have hle := readLine_rest_le profile
  cases profile with
  | nil => simp [readLine] at _h
  | cons c cs => simp only [List.length_cons] at hle ⊢; omega

/-! ## `SELECTED` -/

/-- `"${REQUESTED[@]:-}"`: an empty array gives one empty word. -/
def words (req : List Text) : List Text := if req = [] then [[]] else req

/-- The inner loop, up to its `break`. -/
def pickLoop (m : Text) (sel : List Text) : List Text → List Text
  | [] => sel
  | r :: rs => if m = r then sel ++ [m] else pickLoop m sel rs

/-- The outer loop. -/
def selectLoop (req : List Text) (sel : List Text) : List Text → List Text
  | [] => sel
  | m :: ms => selectLoop req (pickLoop m sel (words req)) ms

/-- `SELECTED` for the text of a profile, or the name the script dies of. -/
def selection (profile : Text) : Except Text (List Text) := do
  let req ← requestLoop profile []
  return selectLoop req [] canonicalNames

/-! ## The loops are `selected` -/

theorem isCanonicalLoop_eq_zero (arg : Text) (ms : List Text) :
    isCanonicalLoop arg ms = 0 ↔ arg ∈ ms := by
  induction ms with
  | nil => simp [isCanonicalLoop]
  | cons m ms ih =>
      unfold isCanonicalLoop
      split
      · rename_i heq
        simp [heq]
      · rename_i hne
        simp [ih, Ne.symm hne]

theorem mem_canonicalNames {n : Text} : n ∈ canonicalNames ↔ isCanonical n := by
  rw [isCanonical_iff, canonicalNames, List.mem_map]
  exact ⟨fun ⟨m, _, h⟩ => ⟨m, h⟩, fun ⟨m, h⟩ => ⟨m, mem_canonicalModules m, h⟩⟩

theorem newline_notMem_deleteClass (t : Text) : '\n' ∉ deleteClass isSpace t := fun h => by
  have hspace := (List.mem_filter.mp h).2
  revert hspace
  decide

/-- The two commands normalise a line; the substitution has no newline to drop. -/
theorem normalise_eq (line : Text) :
    substitute (deleteClass isSpace (cutLongest (fun t => t.head? = some '#') line)) =
      normalise line := by
  rw [cutLongest_from]
  refine List.rdropWhile_eq_self_iff.mpr fun hne => ?_
  intro hlast
  refine newline_notMem_deleteClass (line.takeWhile (· ≠ '#')) ?_
  have hmem := List.getLast_mem hne
  rwa [of_decide_eq_true hlast] at hmem

theorem requestBody_eq (line : Text) (req : List Text) (ls : List Text) :
    (requestBody line req >>= fun req => (requested ls).map (req ++ ·)) =
      (requested (line :: ls)).map (req ++ ·) := by
  have hcanonical : isCanonicalLoop (normalise line) canonicalNames ≠ 0 ↔
      ¬ isCanonical (normalise line) := by
    rw [ne_eq, isCanonicalLoop_eq_zero, mem_canonicalNames]
  unfold requestBody
  simp only [normalise_eq, requested]
  by_cases hblank : normalise line = []
  · rw [if_pos hblank, if_pos hblank]
    rfl
  · rw [if_neg hblank, if_neg hblank]
    by_cases hname : isCanonical (normalise line)
    · rw [if_neg (not_not.mpr hname ∘ hcanonical.mp), if_pos hname]
      cases requested ls with
      | error e => rfl
      | ok names => simp [Except.map, bind, Except.bind, pure, Except.pure]
    · rw [if_pos (hcanonical.mpr hname), if_neg hname]
      rfl

/-- The invariant of the loop: what is collected comes before what the
rest of the file requests. -/
theorem requestLoop_eq (profile : Text) : ∀ req,
    requestLoop profile req = (requested (readLoop profile)).map (req ++ ·) := by
  induction profile using lineInduction with
  | unterminated l hl =>
      intro req
      have hrest (req : List Text) : requestLoop [] req = .ok req := by
        rw [requestLoop]; rfl
      have hl' : '\n' ∉ l.filter (· ≠ '\x00') := fun h => hl (List.mem_of_mem_filter h)
      rw [requestLoop, readLine_unterminated hl, readLoop, lines_unterminated hl']
      split
      · rename_i hline
        rw [if_neg (by simpa using hline), ← requestBody_eq]
        simp [hrest, requested, Except.map]
      · rename_i hline
        rw [if_pos (by simpa using hline)]
        simp [requested, Except.map]
  | line l t hl ih =>
      intro req
      have hl' : '\n' ∉ l.filter (· ≠ '\x00') := fun h => hl (List.mem_of_mem_filter h)
      have hlines : readLoop (l ++ '\n' :: t) = l.filter (· ≠ '\x00') :: readLoop t := by
        simpa [readLoop] using lines_append hl' (t.filter (· ≠ '\x00'))
      rw [requestLoop, dif_pos (by simp [readLine_append hl]), readLine_append hl, hlines,
        ← requestBody_eq]
      simp only [ih]

theorem pickLoop_eq (m : Text) (sel rs : List Text) :
    pickLoop m sel rs = if m ∈ rs then sel ++ [m] else sel := by
  induction rs with
  | nil => simp [pickLoop]
  | cons r rs ih => by_cases h : m = r <;> simp [pickLoop, h, ih]

theorem selectLoop_eq (req sel : List Text) {ms : List Text} (hms : [] ∉ ms) :
    selectLoop req sel ms = sel ++ ms.filter fun m => m ∈ req := by
  induction ms generalizing sel with
  | nil => simp [selectLoop]
  | cons m ms ih =>
      simp only [List.mem_cons, not_or] at hms
      -- the padding matches no name
      have hwords : m ∈ words req ↔ m ∈ req := by
        unfold words
        split
        · rename_i hnil
          simp [hnil, Ne.symm hms.1]
        · exact Iff.rfl
      rw [selectLoop, pickLoop_eq, ih _ hms.2]
      by_cases h : m ∈ req <;> simp [hwords, h]

theorem nil_notMem_canonicalNames : [] ∉ canonicalNames := by decide

/-- **Refinement.** -/
theorem selection_refines (profile : Text) :
    selection profile = (selected profile).map (·.map Module.name) := by
  rw [selection, requestLoop_eq, selected]
  cases requested (readLoop profile) with
  | error e => rfl
  | ok names =>
      simp only [Except.map, List.nil_append, bind, Except.bind, pure, Except.pure,
        selectLoop_eq names [] nil_notMem_canonicalNames]
      rw [canonicalNames, select, List.filter_map]
      rfl

/-! ## One filter -/

/-- The names in a profile: its lines, normalised, without the blank ones. -/
def namesIn (profile : Text) : List Text := ((lines profile).map normalise).filter (· ≠ [])

theorem mem_namesIn {profile n : Text} :
    n ∈ namesIn profile ↔ n ≠ [] ∧ n ∈ (lines profile).map normalise := by
  simp [namesIn, and_comm]

variable {profile profile' : Text}

theorem requested_eq (ls : List Text) :
    (∃ names, requested ls = .ok names) ↔
      ∀ l ∈ ls, normalise l = [] ∨ normalise l ∈ canonicalNames := by
  simp only [mem_canonicalNames, isCanonical_iff]
  constructor
  · rintro ⟨names, h⟩
    exact (requested_ok h).2
  · intro h
    cases hr : requested ls with
    | ok names => exact ⟨names, rfl⟩
    | error n =>
        obtain ⟨hne, hunknown, l, hl, rfl⟩ := requested_error hr
        exact absurd ((h l hl).resolve_left hne) hunknown

theorem requested_iff_namesIn (hnul : '\x00' ∉ profile) :
    (∃ names, requested (readLoop profile) = .ok names) ↔
      ∀ n ∈ namesIn profile, n ∈ canonicalNames := by
  rw [requested_eq, readLoop_of_noNul hnul]
  constructor
  · intro h n hn
    obtain ⟨hne, hmem⟩ := mem_namesIn.mp hn
    obtain ⟨l, hl, rfl⟩ := List.mem_map.mp hmem
    exact (h l hl).resolve_left hne
  · intro h l hl
    by_cases hblank : normalise l = []
    · exact Or.inl hblank
    · exact Or.inr (h _ (mem_namesIn.mpr ⟨hblank, List.mem_map_of_mem hl⟩))

/-- An accepted profile's `SELECTED`, -/
theorem selection_of_names (hnul : '\x00' ∉ profile)
    (h : ∀ n ∈ namesIn profile, n ∈ canonicalNames) :
    selection profile = .ok (canonicalNames.filter fun n => n ∈ namesIn profile) := by
  obtain ⟨names, hnames⟩ := (requested_iff_namesIn hnul).mpr h
  have hmem := (requested_ok hnames).1
  rw [readLoop_of_noNul hnul] at hmem
  rw [selection_refines, selected, hnames]
  refine congrArg Except.ok ?_
  rw [canonicalNames, List.filter_map, select]
  refine congrArg (List.map Module.name) (List.filter_congr fun m _ => ?_)
  rw [Function.comp_apply, decide_eq_decide, hmem, mem_namesIn, List.mem_map]
  exact ⟨fun hl => ⟨m.name_ne_nil, hl⟩, fun hl => hl.2⟩

/-- and any other profile's end. -/
theorem selection_of_unknown (hnul : '\x00' ∉ profile)
    (h : ∃ n ∈ namesIn profile, n ∉ canonicalNames) : ∃ n, selection profile = .error n := by
  rw [selection_refines, selected]
  cases hr : requested (readLoop profile) with
  | error n => exact ⟨n, rfl⟩
  | ok names =>
      obtain ⟨n, hn, hunknown⟩ := h
      exact absurd ((requested_iff_namesIn hnul).mp ⟨names, hr⟩ n hn) hunknown

/-! ## Spelling -/

/-- With a carriage return before each newline. -/
def crlf (profile : Text) : Text :=
  profile.flatMap fun c => if c = '\n' then ['\r', '\n'] else [c]

/-- The same profile, spelled otherwise. -/
inductive Respell : Text → Text → Prop
  | permute {p p' : Text} (h : (lines p').Perm (lines p)) : Respell p p'
  | again {p p' l : Text} (hl : l ∈ lines p) (h : (lines p').Perm (l :: lines p)) : Respell p p'
  | blank {p p' l : Text} (hl : normalise l = []) (h : (lines p').Perm (l :: lines p)) :
    Respell p p'
  | comment {p p' l note : Text} {before after : List Text}
    (h : lines p = before ++ l :: after)
    (h' : lines p' = before ++ (l ++ '#' :: note) :: after) : Respell p p'
  | crlf {p : Text} : Respell p (crlf p)
  | finalNewline {p : Text} : Respell p (p ++ ['\n'])

theorem uncomment_cons (c : Char) (cs : Text) :
    uncomment (c :: cs) = if c = '#' then [] else c :: uncomment cs := by
  unfold uncomment
  by_cases hc : c = '#' <;> simp [hc]

theorem normalise_comment (l note : Text) : normalise (l ++ '#' :: note) = normalise l := by
  have huncomment : uncomment (l ++ '#' :: note) = uncomment l := by
    induction l with
    | nil => simp [uncomment]
    | cons c cs ih => rw [List.cons_append, uncomment_cons, uncomment_cons, ih]
  rw [normalise, huncomment, normalise]

/-- A carriage return is space, or behind the comment. -/
theorem normalise_return (l : Text) : normalise (l ++ ['\r']) = normalise l := by
  unfold normalise
  induction l with
  | nil => decide
  | cons c cs ih =>
      rw [List.cons_append, uncomment_cons, uncomment_cons]
      split
      · rfl
      · simp only [deleteClass, List.filter_cons] at ih ⊢
        rw [ih]

theorem lines_finalNewline (t : Text) :
    lines (t ++ ['\n']) = lines t ∨ lines (t ++ ['\n']) = lines t ++ [[]] := by
  induction t using lineInduction with
  | unterminated l hl =>
      rw [lines_append hl, lines_unterminated hl]
      by_cases hnil : l = [] <;> simp [hnil]
  | line l t hl ih =>
      rw [List.append_assoc, List.cons_append, lines_append hl, lines_append hl]
      rcases ih with h | h <;> rw [h] <;> simp

theorem normalised_crlf (t : Text) :
    (lines (crlf t)).map normalise = (lines t).map normalise := by
  have hplain {l : Text} (hl : '\n' ∉ l) : crlf l = l := by
    induction l with
    | nil => rfl
    | cons c cs ih =>
        simp only [List.mem_cons, not_or] at hl
        rw [crlf, List.flatMap_cons, if_neg (Ne.symm hl.1), ← crlf, ih hl.2]
        rfl
  induction t using lineInduction with
  | unterminated l hl => rw [hplain hl]
  | line l t hl ih =>
      have hsplit : crlf (l ++ '\n' :: t) = (l ++ ['\r']) ++ '\n' :: crlf t := by
        simp only [crlf, List.flatMap_append, List.flatMap_cons, if_pos, List.append_assoc]
        rw [← crlf, hplain hl]
        rfl
      have hreturn : '\n' ∉ l ++ ['\r'] := by simp [hl]
      rw [hsplit, lines_append hreturn, lines_append hl, List.map_cons, List.map_cons,
        normalise_return, ih]

/-- Spelling does not change the names, -/
theorem Respell.namesIn_iff (h : Respell profile profile') (n : Text) :
    n ∈ namesIn profile' ↔ n ∈ namesIn profile := by
  rw [mem_namesIn, mem_namesIn]
  refine and_congr_right fun hne => ?_
  cases h with
  | permute h => exact (h.map normalise).mem_iff
  | again hl h =>
      rw [(h.map normalise).mem_iff, List.map_cons, List.mem_cons]
      exact or_iff_right_of_imp fun heq => heq ▸ List.mem_map_of_mem hl
  | blank hl h =>
      rw [(h.map normalise).mem_iff, List.map_cons, List.mem_cons, hl]
      exact or_iff_right hne
  | comment h h' =>
      rw [h, h']
      simp only [List.map_append, List.map_cons, normalise_comment]
  | crlf => rw [normalised_crlf]
  | finalNewline =>
      rcases lines_finalNewline profile with h | h <;> rw [h]
      have hblank : n ≠ normalise [] := hne
      simp [hblank]

/-- nor does any number of changes of it. -/
theorem respelled_namesIn (h : Relation.EqvGen Respell profile profile') (n : Text) :
    n ∈ namesIn profile ↔ n ∈ namesIn profile' := by
  induction h with
  | rel p p' h => exact (h.namesIn_iff n).symm
  | refl p => exact Iff.rfl
  | symm p p' _ ih => exact ih.symm
  | trans p q r _ _ ih ih' => exact ih.trans ih'

theorem selection_congr (hnul : '\x00' ∉ profile) (hnul' : '\x00' ∉ profile')
    (h : ∀ n, n ∈ namesIn profile ↔ n ∈ namesIn profile') :
    (selection profile).toOption = (selection profile').toOption := by
  by_cases hknown : ∀ n ∈ namesIn profile, n ∈ canonicalNames
  · rw [selection_of_names hnul hknown,
      selection_of_names hnul' fun n hn => hknown n ((h n).mpr hn)]
    simp only [h]
  · push Not at hknown
    obtain ⟨n, hn, hunknown⟩ := hknown
    obtain ⟨e, he⟩ := selection_of_unknown hnul ⟨n, hn, hunknown⟩
    obtain ⟨e', he'⟩ := selection_of_unknown hnul' ⟨n, (h n).mp hn, hunknown⟩
    rw [he, he']
    rfl

/-- **Selection.** A profile is accepted just if every name in it is
canonical, and `SELECTED` is then the canonical names that are in it, in
canonical order and once each; with both, mavlink comes before
telemetry. Neither depends on the spelling. -/
theorem selection_correct :
    (∀ profile : Text, '\x00' ∉ profile →
      ((∃ n ∈ namesIn profile, n ∉ canonicalNames) ↔ ∃ n, selection profile = .error n) ∧
      ∀ sel, selection profile = .ok sel →
        (sel = canonicalNames.filter fun n => n ∈ namesIn profile) ∧
        sel.Sublist canonicalNames ∧ sel.Nodup ∧
        (Module.mavlink.name ∈ sel → Module.telemetry.name ∈ sel →
          [Module.mavlink.name, Module.telemetry.name].Sublist sel)) ∧
    ∀ profile profile' : Text, '\x00' ∉ profile → '\x00' ∉ profile' →
      Relation.EqvGen Respell profile profile' →
        (selection profile).toOption = (selection profile').toOption := by
  refine ⟨fun profile hnul => ⟨⟨selection_of_unknown hnul, ?_⟩, fun sel hsel => ?_⟩,
    fun _ _ hnul hnul' h => selection_congr hnul hnul' (respelled_namesIn h)⟩
  · rintro ⟨n, hn⟩
    by_contra hknown
    push Not at hknown
    rw [selection_of_names hnul hknown] at hn
    cases hn
  · have hknown : ∀ n ∈ namesIn profile, n ∈ canonicalNames := by
      by_contra hunknown
      push Not at hunknown
      obtain ⟨e, he⟩ := selection_of_unknown hnul hunknown
      rw [he] at hsel
      cases hsel
    rw [selection_of_names hnul hknown] at hsel
    obtain rfl := (Except.ok.inj hsel).symm
    have hsub : (canonicalNames.filter fun n => n ∈ namesIn profile).Sublist canonicalNames :=
      List.filter_sublist
    have hnodup : canonicalNames.Nodup := by decide
    refine ⟨rfl, hsub, hnodup.sublist hsub, fun hmavlink htelemetry => ?_⟩
    have hpair : [Module.mavlink.name, Module.telemetry.name].Sublist canonicalNames := by decide
    have hfiltered := hpair.filter fun n => n ∈ namesIn profile
    rw [List.filter_eq_self.mpr] at hfiltered
    · exact hfiltered
    · intro n hn
      rcases List.mem_pair.mp hn with rfl | rfl
      · exact (List.mem_filter.mp hmavlink).2
      · exact (List.mem_filter.mp htelemetry).2

/-- Out of order, with a comment, a carriage return and no final newline. -/
theorem bench_selection :
    selection "telemetry # radio\r\nmavlink".toList =
      .ok ["mavlink".toList, "telemetry".toList] := by
  obtain ⟨hreject, haccept⟩ :=
    selection_correct.1 "telemetry # radio\r\nmavlink".toList (by decide)
  cases h : selection "telemetry # radio\r\nmavlink".toList with
  | error e =>
      have hknown : ∀ n ∈ namesIn "telemetry # radio\r\nmavlink".toList, n ∈ canonicalNames := by
        decide
      obtain ⟨n, hn, hunknown⟩ := hreject.mpr ⟨e, h⟩
      exact absurd (hknown n hn) hunknown
  | ok sel =>
      rw [(haccept sel h).1]
      decide

end Specter
