import Mathlib.Data.List.Destutter

/-!
# Stop and wait

A sender repeats each item until it gives up on it, and then goes on to
the next. The receiver keeps one number, that of the last item that came
in, and drops what comes in with the same number again. However often an
item is repeated, and whatever is lost, it is handed on once if it comes
in at all, and in order (`map_handed`). What is asked of the numbers is
that an item has another one than the last that came in before it.
-/

namespace StopAndWait

variable {ι ν : Type} [DecidableEq ν]

/-- What is handed on of the items that come in after the number `last`. -/
def handed (num : ι → ν) : ν → List ι → List ι
  | _, [] => []
  | last, i :: is => if num i = last then handed num last is else i :: handed num (num i) is

/-- An item may come in behind another: it is the same again, or a later
one with another number. -/
def InTurn (num : ι → ν) (pos : ι → ℕ) (i j : ι) : Prop :=
  pos i ≤ pos j ∧ (num i = num j ↔ pos i = pos j)

variable {num : ι → ν} {pos : ι → ℕ} {last : ν} {i : ι} {is : List ι}

theorem handed_cons_of_eq (h : num i = last) : handed num last (i :: is) = handed num last is :=
  if_pos h

theorem handed_cons_of_ne (h : num i ≠ last) :
    handed num last (i :: is) = i :: handed num (num i) is := if_neg h

/-- Behind an item, the positions handed on are those that differ from the
one before. -/
theorem map_handed_eq_destutter (h : (i :: is).IsChain (InTurn num pos)) :
    pos i :: (handed num (num i) is).map pos = (is.map pos).destutter' (· ≠ ·) (pos i) := by
  induction is generalizing i with
  | nil => rfl
  | cons j is ih =>
      obtain ⟨⟨-, hsame⟩, htail⟩ := List.isChain_cons_cons.mp h
      rw [List.map_cons]
      by_cases heq : num j = num i
      · have hpos : pos i = pos j := hsame.mp heq.symm
        rw [handed_cons_of_eq heq, List.destutter'_cons_neg _ (not_not.mpr hpos), hpos, ← heq]
        exact ih htail
      · have hpos : pos i ≠ pos j := fun hpos => heq (hsame.mpr hpos).symm
        rw [handed_cons_of_ne heq, List.destutter'_cons_pos _ hpos, List.map_cons, ih htail]

/-- **Stop and wait.** What is handed on is every position that has come
in, once, in order. -/
theorem map_handed (h : is.IsChain (InTurn num pos)) (hfirst : ∀ i ∈ is.head?, num i ≠ last) :
    (handed num last is).map pos = (is.map pos).dedup := by
  cases is with
  | nil => rfl
  | cons i is =>
      have hsorted : ((i :: is).map pos).Pairwise (· ≤ ·) :=
        List.isChain_iff_pairwise.mp ((List.isChain_map _).mpr (h.imp fun _ _ hij => hij.1))
      rw [handed_cons_of_ne (hfirst i rfl), List.map_cons, map_handed_eq_destutter h,
        ← hsorted.destutter_eq_dedup, List.map_cons, List.destutter_cons']

theorem handed_append (num : ι → ν) (last : ν) (is js : List ι) :
    handed num last (is ++ js)
      = handed num last is ++ handed num (is.foldl (fun _ i => num i) last) js := by
  induction is generalizing last with
  | nil => rfl
  | cons i is ih =>
      rw [List.cons_append, List.foldl_cons]
      by_cases h : num i = last
      · rw [handed_cons_of_eq h, handed_cons_of_eq h, h, ih]
      · rw [handed_cons_of_ne h, handed_cons_of_ne h, ih, List.cons_append]

theorem handed_map {κ : Type} (f : κ → ι) (last : ν) (ks : List κ) :
    handed num last (ks.map f) = (handed (num ∘ f) last ks).map f := by
  induction ks generalizing last with
  | nil => rfl
  | cons k ks ih =>
      rw [List.map_cons]
      by_cases h : num (f k) = last
      · have hcomp : handed (num ∘ f) last (k :: ks) = handed (num ∘ f) last ks :=
          handed_cons_of_eq h
        rw [handed_cons_of_eq h, hcomp, ih]
      · have hcomp : handed (num ∘ f) last (k :: ks) = k :: handed (num ∘ f) (num (f k)) ks :=
          handed_cons_of_ne h
        rw [handed_cons_of_ne h, hcomp, ih, List.map_cons]

/-- What has been handed on before an item is handed on. -/
theorem exists_of_prefix_handed {pre : List ι} (h : pre ++ [i] <+: handed num last is) :
    ∃ before, before ++ [i] <+: is ∧ handed num last before = pre := by
  induction is generalizing last pre with
  | nil => simp [handed] at h
  | cons j is ih =>
      by_cases heq : num j = last
      · rw [handed_cons_of_eq heq] at h
        obtain ⟨before, hbefore, hpre⟩ := ih h
        exact ⟨j :: before, List.prefix_cons_inj j |>.mpr hbefore,
          (handed_cons_of_eq heq).trans hpre⟩
      · rw [handed_cons_of_ne heq] at h
        cases pre with
        | nil =>
            obtain ⟨rfl, -⟩ := List.cons_prefix_cons.mp h
            exact ⟨[], by simp, rfl⟩
        | cons p pre =>
            obtain ⟨rfl, h⟩ := List.cons_prefix_cons.mp h
            obtain ⟨before, hbefore, hpre⟩ := ih h
            exact ⟨p :: before, List.prefix_cons_inj p |>.mpr hbefore,
              (handed_cons_of_ne heq).trans (by rw [hpre])⟩

/-- Nothing that comes in is missing from what is handed on. -/
theorem mem_handed_iff (h : is.IsChain fun i j => num i = num j → i = j)
    (hfirst : ∀ i ∈ is.head?, num i ≠ last) {j : ι} : j ∈ handed num last is ↔ j ∈ is := by
  have hbehind : ∀ {i : ι} {is : List ι}, (i :: is).IsChain (fun i j => num i = num j → i = j) →
      (j ∈ i :: handed num (num i) is ↔ j ∈ i :: is) := by
    intro i is hchain
    induction is generalizing i with
    | nil => rfl
    | cons k is ih =>
        obtain ⟨hsame, htail⟩ := List.isChain_cons_cons.mp hchain
        by_cases heq : num k = num i
        · obtain rfl := hsame heq.symm
          rw [handed_cons_of_eq heq, ih htail, List.mem_cons (a := j) (b := i) (l := i :: is)]
          simp
        · rw [handed_cons_of_ne heq, List.mem_cons, ih htail, List.mem_cons (b := i)]
  cases is with
  | nil => rfl
  | cons i is =>
      rw [handed_cons_of_ne (hfirst i rfl)]
      exact hbehind h

end StopAndWait
