import Mathlib.Data.List.DropRight

/-!
# Texts and their lines

A text is the list of its characters. Shell loops over `read`, `sed`
and `grep` all see it as lines; they differ in what they do to a line
and in which characters they take for space. Lines end at newlines, and
a last line without one is still a line.

The proofs about lines go by `lineInduction`: a text is either one
unterminated line, or a line, its newline and the rest.
-/

namespace Posix

abbrev Text := List Char

/-- The lines of a text, without their newlines. -/
def lines : Text → List Text
  | [] => []
  | c :: cs =>
    if c = '\n' then [] :: lines cs
    else
      match lines cs with
      | [] => [[c]]
      | l :: ls => (c :: l) :: ls

@[simp] theorem lines_nil : lines [] = [] := rfl

theorem lines_unterminated {l : Text} (hl : '\n' ∉ l) :
    lines l = if l = [] then [] else [l] := by
  induction l with
  | nil => rfl
  | cons c cs ih =>
      simp only [List.mem_cons, not_or] at hl
      rw [lines, if_neg (Ne.symm hl.1), ih hl.2]
      cases cs <;> simp

theorem lines_append {l : Text} (hl : '\n' ∉ l) (t : Text) :
    lines (l ++ '\n' :: t) = l :: lines t := by
  induction l with
  | nil => simp [lines]
  | cons c cs ih =>
      simp only [List.mem_cons, not_or] at hl
      rw [List.cons_append, lines, if_neg (Ne.symm hl.1), ih hl.2]

/-- **Line induction.** -/
theorem lineInduction {P : Text → Prop} (unterminated : ∀ l, '\n' ∉ l → P l)
    (line : ∀ l t, '\n' ∉ l → P t → P (l ++ '\n' :: t)) : ∀ t, P t := by
  -- what has been read of the current line is carried along
  have key : ∀ t l, '\n' ∉ l → P (l ++ t) := by
    intro t
    induction t with
    | nil => intro l hl; simpa using unterminated l hl
    | cons c cs ih =>
        intro l hl
        by_cases hc : c = '\n'
        · subst hc
          exact line l cs hl (by simpa using ih [] (by simp))
        · have hlc : '\n' ∉ l ++ [c] := by simp [hl, Ne.symm hc]
          simpa using ih (l ++ [c]) hlc
  intro t
  simpa using key t [] (by simp)

/-! ## Reading a line -/

/-- What `IFS= read -r` takes off a text. -/
structure Read where
  line : Text
  terminated : Bool  -- its status: there was a newline
  rest : Text

/-- `read` drops the newline, and NULs. -/
def readLine : Text → Read
  | [] => ⟨[], false, []⟩
  | c :: cs =>
    if c = '\n' then ⟨[], true, cs⟩
    else
      let r := readLine cs
      { r with line := if c = '\x00' then r.line else c :: r.line }

theorem readLine_unterminated {l : Text} (hl : '\n' ∉ l) :
    readLine l = ⟨l.filter (· ≠ '\x00'), false, []⟩ := by
  induction l with
  | nil => rfl
  | cons c cs ih =>
      simp only [List.mem_cons, not_or] at hl
      rw [readLine, if_neg (Ne.symm hl.1), ih hl.2]
      by_cases hc : c = '\x00' <;> simp [hc]

theorem readLine_append {l : Text} (hl : '\n' ∉ l) (t : Text) :
    readLine (l ++ '\n' :: t) = ⟨l.filter (· ≠ '\x00'), true, t⟩ := by
  induction l with
  | nil => simp [readLine]
  | cons c cs ih =>
      simp only [List.mem_cons, not_or] at hl
      rw [List.cons_append, readLine, if_neg (Ne.symm hl.1), ih hl.2]
      by_cases hc : c = '\x00' <;> simp [hc]

theorem readLine_rest_le (t : Text) : (readLine t).rest.length ≤ t.length - 1 := by
  induction t with
  | nil => exact le_rfl
  | cons c cs ih =>
      unfold readLine
      split
      · exact le_rfl
      · exact ih.trans (Nat.sub_le _ _)

/-! ## Cutting a suffix -/

/-- `${t%%pattern}`: without the longest suffix that the pattern matches. -/
def cutLongest (pattern : Text → Bool) : Text → Text
  | [] => []
  | c :: cs => if pattern (c :: cs) then [] else c :: cutLongest pattern cs

/-- For a pattern `a*`. -/
theorem cutLongest_from (a : Char) (t : Text) :
    cutLongest (fun t => t.head? = some a) t = t.takeWhile (· ≠ a) := by
  induction t with
  | nil => rfl
  | cons c cs ih => by_cases hc : c = a <;> simp [cutLongest, hc, ih]

/-! ## Line editors -/

/-- A line editor on a text, `cur` being the line read so far. -/
def editFrom (f : Text → Text) (cur : Text) : Text → Text
  | [] => if cur = [] then [] else f cur
  | c :: cs =>
    if c = '\n' then f cur ++ '\n' :: editFrom f [] cs
    else editFrom f (cur ++ [c]) cs

/-- What `sed` prints for a text when its script does `f` to a line: a
missing final newline stays missing. -/
def edit (f : Text → Text) (t : Text) : Text := editFrom f [] t

theorem editFrom_append (f : Text → Text) {l : Text} (hl : '\n' ∉ l) (cur t : Text) :
    editFrom f cur (l ++ t) = editFrom f (cur ++ l) t := by
  induction l generalizing cur with
  | nil => simp
  | cons c cs ih =>
      simp only [List.mem_cons, not_or] at hl
      rw [List.cons_append, editFrom, if_neg (Ne.symm hl.1), ih hl.2]
      simp

theorem edit_unterminated (f : Text → Text) {l : Text} (hl : '\n' ∉ l) :
    edit f l = if l = [] then [] else f l := by
  have h := editFrom_append f hl [] []
  simpa [edit, editFrom] using h

theorem edit_append (f : Text → Text) {l : Text} (hl : '\n' ∉ l) (t : Text) :
    edit f (l ++ '\n' :: t) = f l ++ '\n' :: edit f t := by
  rw [edit, editFrom_append f hl]
  simp [edit, editFrom]

/-- The non-empty lines an editor prints are the lines of its input,
edited. An empty one may be missing: it is not seen when it is the last
and unterminated. -/
theorem mem_lines_edit {f : Text → Text} (hf : ∀ l, '\n' ∉ l → '\n' ∉ f l) {m : Text}
    (hm : m ≠ []) (t : Text) : m ∈ lines (edit f t) ↔ ∃ l ∈ lines t, f l = m := by
  induction t using lineInduction with
  | unterminated l hl =>
      rw [edit_unterminated f hl, lines_unterminated hl]
      split
      · simp
      · rw [lines_unterminated (hf l hl)]
        by_cases hfl : f l = []
        · simp [hfl, Ne.symm hm]
        · simp [hfl, eq_comm]
  | line l t hl ih =>
      rw [edit_append f hl, lines_append (hf l hl), lines_append hl]
      simp [ih, eq_comm]

/-! ## Space -/

/-- `isspace` in the C locale, for `tr` on bytes in every locale. -/
def isSpace (c : Char) : Bool :=
  c ∈ [' ', '\t', '\n', '\x0b', '\x0c', '\r']

theorem isSpace_ascii {c : Char} (h : isSpace c) : c.toNat < 128 := by
  simp only [isSpace, List.mem_cons, List.not_mem_nil, or_false, decide_eq_true_eq] at h
  rcases h with rfl | rfl | rfl | rfl | rfl | rfl <;> decide

/-- The class `[:space:]` of a locale. Locales differ on characters
beyond ASCII. -/
structure SpaceClass where
  isSpace : Char → Bool
  ascii : ∀ c : Char, c.toNat < 128 → isSpace c = Posix.isSpace c

def SpaceClass.posix : SpaceClass where
  isSpace := Posix.isSpace
  ascii := fun _ _ => rfl

theorem SpaceClass.of_isSpace (ws : SpaceClass) {c : Char} (h : Posix.isSpace c) :
    ws.isSpace c := by
  rw [ws.ascii c (isSpace_ascii h)]; exact h

def deleteClass (isSpace : Char → Bool) (t : Text) : Text := t.filter fun c => !isSpace c

/-- Deleting a locale's class deletes the C locale's on the way. -/
theorem deleteClass_deleteClass (ws : SpaceClass) (t : Text) :
    deleteClass ws.isSpace (deleteClass isSpace t) = deleteClass ws.isSpace t := by
  rw [deleteClass, deleteClass, List.filter_filter]
  refine List.filter_congr fun c _ => ?_
  cases h : isSpace c with
  | false => simp
  | true => simp [ws.of_isSpace h]

/-! ## Command substitution -/

/-- `$( )` drops the newlines its output ends with. -/
def substitute (output : Text) : Text := output.rdropWhile (· = '\n')

theorem substitute_line {l : Text} (hl : l.getLast? ≠ some '\n') :
    substitute (l ++ ['\n']) = l := by
  rw [substitute, List.rdropWhile_concat_pos _ _ _ (by simp), List.rdropWhile_eq_self_iff]
  intro hne
  rw [List.getLast?_eq_some_getLast hne] at hl
  simpa using fun h => hl (by rw [h])

end Posix
