import Mathlib.Data.List.Chain
import Mathlib.Data.List.Pairwise
import Mathlib.Data.Int.Interval

/-!
# Resequencing buffers

Items arrive at positions of an unbounded stream, not in order, and are
to leave in order. A buffer has the position `start` it waits for and
holds items of the next `w - 1` positions. What arrives beyond moves
the window; `flush` gives up waiting for the gap before the first item
held.

The invariant `Ordered` compares what has left with what is held.
Positions that follow each other in it are at most `half` apart, so
they can be told in a cyclic numbering of `2 * half` numbers.
-/

namespace Resequencer

variable {α : Type}

structure Buffer (α : Type) where
  start : ℤ
  held : List (ℤ × α)

/-- Puts an item in its place, unless the position is taken. -/
def insert (n : ℤ) (a : α) : List (ℤ × α) → Option (List (ℤ × α))
  | [] => some [(n, a)]
  | p :: ps =>
    if p.1 < n then (insert n a ps).map (p :: ·)
    else if p.1 = n then none
    else some ((n, a) :: p :: ps)

/-- What the window has reached leaves; what remains, and what left. -/
def drain (start : ℤ) : List (ℤ × α) → Buffer α × List (ℤ × α)
  | [] => (⟨start, []⟩, [])
  | p :: ps =>
    if p.1 ≤ start then
      let (b, out) := drain (if p.1 = start then start + 1 else start) ps
      (b, p :: out)
    else (⟨start, p :: ps⟩, [])

/-- Where the window starts once `n` has arrived. -/
def advance (w start n : ℤ) : ℤ :=
  if n = start then start + 1 else if start + w ≤ n then n + 1 - w else start

/-- An arrival, refused when it is late or its position is taken. -/
def accept (w : ℤ) (b : Buffer α) (n : ℤ) (a : α) : Option (Buffer α × List (ℤ × α)) :=
  if n < b.start then none
  else (insert n a b.held).map (drain (advance w b.start n))

def flush (b : Buffer α) : Buffer α × List (ℤ × α) :=
  match b.held with
  | [] => (b, [])
  | p :: ps => drain p.1 (p :: ps)

/-! ## Insertion -/

theorem mem_insert {n : ℤ} {a : α} {ps qs : List (ℤ × α)} (h : insert n a ps = some qs)
    (q : ℤ × α) : q ∈ qs ↔ q = (n, a) ∨ q ∈ ps := by
  induction ps generalizing qs with
  | nil =>
      obtain rfl := Option.some.inj h
      simp
  | cons p ps ih =>
      unfold insert at h
      split_ifs at h with hlt heq
      · obtain ⟨rs, hrs, rfl⟩ := Option.map_eq_some_iff.mp h
        simp only [List.mem_cons, ih hrs]
        exact or_left_comm
      · obtain rfl := Option.some.inj h
        simp

theorem insert_of_lt {n : ℤ} {a : α} {ps : List (ℤ × α)} (h : ∀ p ∈ ps, n < p.1) :
    insert n a ps = some ((n, a) :: ps) := by
  cases ps with
  | nil => rfl
  | cons p ps =>
      have hp := h p List.mem_cons_self
      rw [insert, if_neg (by omega), if_neg (by omega)]

theorem insert_eq_none_iff {n : ℤ} {a : α} {ps : List (ℤ × α)}
    (hsorted : ps.Pairwise (·.1 < ·.1)) : insert n a ps = none ↔ ∃ p ∈ ps, p.1 = n := by
  induction ps with
  | nil => simp [insert]
  | cons p ps ih =>
      have hpairs := List.pairwise_cons.mp hsorted
      unfold insert
      split_ifs with hlt heq
      · rw [Option.map_eq_none_iff, ih hpairs.2, List.exists_mem_cons_iff]
        exact (or_iff_right (by omega)).symm
      · exact iff_of_true rfl ⟨p, List.mem_cons_self, heq⟩
      · refine iff_of_false (by simp) ?_
        rintro ⟨q, hq, hqn⟩
        rcases List.mem_cons.mp hq with rfl | hq
        · exact heq hqn
        · have := hpairs.1 q hq
          omega

theorem pairwise_insert {n : ℤ} {a : α} {ps qs : List (ℤ × α)} (h : insert n a ps = some qs)
    (hsorted : ps.Pairwise (·.1 < ·.1)) : qs.Pairwise (·.1 < ·.1) := by
  induction ps generalizing qs with
  | nil =>
      obtain rfl := Option.some.inj h
      exact List.pairwise_singleton ..
  | cons p ps ih =>
      have hpairs := List.pairwise_cons.mp hsorted
      unfold insert at h
      split_ifs at h with hlt heq
      · obtain ⟨rs, hrs, rfl⟩ := Option.map_eq_some_iff.mp h
        refine List.pairwise_cons.mpr ⟨fun q hq => ?_, ih hrs hpairs.2⟩
        rcases (mem_insert hrs q).mp hq with rfl | hq
        · exact hlt
        · exact hpairs.1 q hq
      · obtain rfl := Option.some.inj h
        have hnp : n < p.1 := by omega
        refine List.pairwise_cons.mpr ⟨fun q hq => ?_, hsorted⟩
        rcases List.mem_cons.mp hq with rfl | hq
        · exact hnp
        · exact hnp.trans (hpairs.1 q hq)

/-! ## Draining -/

section Drain

variable {start : ℤ} {ps : List (ℤ × α)}

theorem drain_cons_of_le {p : ℤ × α} (h : p.1 ≤ start) :
    drain start (p :: ps) =
      ((drain (if p.1 = start then start + 1 else start) ps).1,
        p :: (drain (if p.1 = start then start + 1 else start) ps).2) := by
  rw [drain, if_pos h]

theorem drain_cons_of_lt {p : ℤ × α} (h : start < p.1) :
    drain start (p :: ps) = (⟨start, p :: ps⟩, []) := by
  rw [drain, if_neg (not_le.mpr h)]

theorem drain_append (start : ℤ) (ps : List (ℤ × α)) :
    (drain start ps).2 ++ (drain start ps).1.held = ps := by
  induction ps generalizing start with
  | nil => rfl
  | cons p ps ih =>
      rcases le_or_gt p.1 start with h | h
      · rw [drain_cons_of_le h]
        exact congrArg (p :: ·) (ih _)
      · rw [drain_cons_of_lt h]
        rfl

theorem le_drain_start (start : ℤ) (ps : List (ℤ × α)) :
    start ≤ (drain start ps).1.start := by
  induction ps generalizing start with
  | nil => exact le_rfl
  | cons p ps ih =>
      rcases le_or_gt p.1 start with h | h
      · rw [drain_cons_of_le h]
        refine le_trans ?_ (ih _)
        split <;> omega
      · rw [drain_cons_of_lt h]

/-- What has left is behind the window. -/
theorem drain_out_lt {q : ℤ × α} (hq : q ∈ (drain start ps).2) :
    q.1 < (drain start ps).1.start := by
  induction ps generalizing start with
  | nil => cases hq
  | cons p ps ih =>
      rcases le_or_gt p.1 start with h | h
      · rw [drain_cons_of_le h] at hq ⊢
        rcases List.mem_cons.mp hq with rfl | hq
        · refine lt_of_lt_of_le ?_ (le_drain_start _ ps)
          split <;> omega
        · exact ih hq
      · rw [drain_cons_of_lt h] at hq
        cases hq

/-- What remains is ahead of it. -/
theorem lt_drain_held (hsorted : ps.Pairwise (·.1 < ·.1)) {q : ℤ × α}
    (hq : q ∈ (drain start ps).1.held) : (drain start ps).1.start < q.1 := by
  induction ps generalizing start with
  | nil => cases hq
  | cons p ps ih =>
      have hpairs := List.pairwise_cons.mp hsorted
      rcases le_or_gt p.1 start with h | h
      · rw [drain_cons_of_le h] at hq ⊢
        exact ih hpairs.2 hq
      · rw [drain_cons_of_lt h] at hq ⊢
        rcases List.mem_cons.mp hq with rfl | hq
        · exact h
        · exact h.trans (hpairs.1 q hq)

/-- A window that stands at most one beyond the last item catches up with
it if the buffer empties. -/
theorem drain_caught_up (hsorted : ps.Pairwise (·.1 < ·.1)) {q : ℤ × α}
    (hlast : ps.getLast? = some q) (hstart : start ≤ q.1 + 1)
    (hempty : (drain start ps).1.held = []) : (drain start ps).1.start = q.1 + 1 := by
  induction ps generalizing start with
  | nil => cases hlast
  | cons p ps ih =>
      have hpairs := List.pairwise_cons.mp hsorted
      rcases le_or_gt p.1 start with h | h
      · rw [drain_cons_of_le h] at hempty ⊢
        cases ps with
        | nil =>
            obtain rfl : p = q := by simpa using hlast
            simp only [drain]
            split <;> omega
        | cons p' ps =>
            have hlast' : (p' :: ps).getLast? = some q := by simpa using hlast
            have hlt : p.1 < q.1 := hpairs.1 q (List.mem_of_getLast? hlast')
            refine ih hpairs.2 hlast' ?_ hempty
            split <;> omega
      · rw [drain_cons_of_lt h] at hempty
        cases hempty

/-- With nothing late, the positions that leave are those the window moves
over. -/
theorem drain_positions (hsorted : ps.Pairwise (·.1 < ·.1)) (hahead : ∀ p ∈ ps, start ≤ p.1) :
    (drain start ps).2.map Prod.fst
      = (List.range ((drain start ps).1.start - start).toNat).map fun i : ℕ => start + i := by
  induction ps generalizing start with
  | nil => simp [drain]
  | cons p ps ih =>
      have hpairs := List.pairwise_cons.mp hsorted
      have hp := hahead p List.mem_cons_self
      rcases le_or_gt p.1 start with h | h
      · obtain heq : p.1 = start := by omega
        have htail : ∀ q ∈ ps, start + 1 ≤ q.1 := fun q hq => by
          have := hpairs.1 q hq
          omega
        have hle := le_drain_start (start + 1) ps
        obtain ⟨k, hk⟩ : ∃ k : ℕ, ((drain (start + 1) ps).1.start - start).toNat = k + 1 :=
          ⟨((drain (start + 1) ps).1.start - start).toNat - 1, by omega⟩
        have hk' : ((drain (start + 1) ps).1.start - (start + 1)).toNat = k := by omega
        rw [drain_cons_of_le h, if_pos heq]
        rw [List.map_cons, ih hpairs.2 htail, heq, hk, hk', List.range_succ_eq_map]
        simp only [List.map_cons, List.map_map, Nat.cast_zero, add_zero, List.cons.injEq, true_and]
        refine List.map_congr_left fun i _ => ?_
        simp only [Function.comp_apply, Nat.cast_succ]
        omega
      · rw [drain_cons_of_lt h]
        simp

end Drain

/-! ## Order -/

/-- A later position, not too far off. -/
def Next (half : ℤ) (p q : ℤ × α) : Prop := p.1 < q.1 ∧ q.1 ≤ p.1 + half

/-- What has left and what is held, in order. -/
structure Ordered (w half : ℤ) (out : List (ℤ × α)) (b : Buffer α) : Prop where
  chain : (out ++ b.held).IsChain (Next half)
  past : ∀ p ∈ out, p.1 < b.start
  near : ∀ p ∈ b.held, b.start < p.1 ∧ p.1 < b.start + w
  caughtUp : b.held = [] → ∀ p ∈ out.getLast?, b.start = p.1 + 1

theorem pairwise_of_chain {half : ℤ} {ps : List (ℤ × α)} (h : ps.IsChain (Next half)) :
    ps.Pairwise (·.1 < ·.1) := by
  have hlt : ps.IsChain (fun p q : ℤ × α => p.1 < q.1) := h.imp fun p q hpq => hpq.1
  have : IsTrans (ℤ × α) (fun p q => p.1 < q.1) := ⟨fun _ _ _ => lt_trans⟩
  exact List.isChain_iff_pairwise.mp hlt

section Steps

variable {w half : ℤ} {out ps : List (ℤ × α)} {b : Buffer α}

theorem ordered_init (start : ℤ) : Ordered w half [] (⟨start, []⟩ : Buffer α) where
  chain := List.IsChain.nil
  past := by simp
  near := by simp
  caughtUp := by simp

theorem Ordered.sorted (h : Ordered w half out b) : b.held.Pairwise (·.1 < ·.1) :=
  pairwise_of_chain (List.isChain_append.mp h.chain).2.1

/-- The buffer never fills the window. -/
theorem Ordered.length_lt (h : Ordered w half out b) (hw : 0 < w) : (b.held.length : ℤ) < w := by
  have hnodup : (b.held.map Prod.fst).Nodup :=
    List.Pairwise.map Prod.fst (fun _ _ => ne_of_lt) h.sorted
  have hsub : (b.held.map Prod.fst).toFinset ⊆ Finset.Ioo b.start (b.start + w) := by
    intro n hn
    obtain ⟨p, hp, rfl⟩ := List.mem_map.mp (List.mem_toFinset.mp hn)
    exact Finset.mem_Ioo.mpr (h.near p hp)
  have hcard := Finset.card_le_card hsub
  rw [List.toFinset_card_of_nodup hnodup, List.length_map, Int.card_Ioo] at hcard
  omega

theorem ordered_drain {start : ℤ} (hne : ps ≠ []) (hchain : (out ++ ps).IsChain (Next half))
    (hpast : ∀ p ∈ out, p.1 < start) (hnear : ∀ p ∈ ps, p.1 < start + w)
    (hlast : ∀ q ∈ ps.getLast?, start ≤ q.1 + 1) :
    Ordered w half (out ++ (drain start ps).2) (drain start ps).1 := by
  have hsplit := drain_append start ps
  have hle := le_drain_start start ps
  have hsorted := pairwise_of_chain (List.isChain_append.mp hchain).2.1
  refine ⟨?_, fun p hp => ?_, fun p hp => ⟨lt_drain_held hsorted hp, ?_⟩, fun hempty p hp => ?_⟩
  · rwa [List.append_assoc, hsplit]
  · rcases List.mem_append.mp hp with hp | hp
    · exact (hpast p hp).trans_le hle
    · exact drain_out_lt hp
  · have hmem : p ∈ ps := hsplit ▸ List.mem_append_right _ hp
    exact (hnear p hmem).trans_le (by omega)
  · rw [hempty, List.append_nil] at hsplit
    rw [hsplit, List.getLast?_append_of_ne_nil out hne] at hp
    exact drain_caught_up hsorted hp (hlast p hp) hempty

theorem chain_insert {n : ℤ} {a : α} {qs : List (ℤ × α)} (hins : insert n a ps = some qs)
    (hchain : (out ++ ps).IsChain (Next half)) (hpast : ∀ p ∈ out, p.1 < n)
    (hlast : ∀ p ∈ (out ++ ps).getLast?, n ≤ p.1 + half) (hnear : ∀ p ∈ ps, p.1 ≤ n + half) :
    (out ++ qs).IsChain (Next half) := by
  induction ps generalizing out qs with
  | nil =>
      obtain rfl := Option.some.inj hins
      rw [List.append_nil] at hchain hlast
      refine List.isChain_append.mpr ⟨hchain, List.isChain_singleton _, fun p hp q hq => ?_⟩
      obtain rfl : (n, a) = q := by simpa using hq
      exact ⟨hpast p (List.mem_of_getLast? hp), hlast p hp⟩
  | cons p ps ih =>
      have hparts := List.isChain_append.mp hchain
      unfold insert at hins
      split_ifs at hins with hlt heq
      · obtain ⟨rs, hrs, rfl⟩ := Option.map_eq_some_iff.mp hins
        rw [List.append_cons] at hchain hlast
        rw [List.append_cons]
        refine ih hrs hchain (fun q hq => ?_) hlast fun q hq => hnear q (List.mem_cons_of_mem p hq)
        rcases List.mem_append.mp hq with hq | hq
        · exact hpast q hq
        · obtain rfl := List.mem_singleton.mp hq
          exact hlt
      · obtain rfl := Option.some.inj hins
        have hnp : n < p.1 := by omega
        have hhead := hnear p List.mem_cons_self
        refine List.isChain_append.mpr
          ⟨hparts.1, hparts.2.1.cons_cons ⟨hnp, hhead⟩, fun q hq r hr => ?_⟩
        obtain rfl : (n, a) = r := by simpa using hr
        have hqp : Next half q p := hparts.2.2 q hq p (by simp)
        exact ⟨hpast q (List.mem_of_getLast? hq), by have := hqp.2; simp only; omega⟩

theorem le_getLast {n : ℤ} {a : α} (hsorted : ps.Pairwise (·.1 < ·.1)) (hmem : (n, a) ∈ ps) :
    ∀ q ∈ ps.getLast?, n ≤ q.1 := by
  intro q hq
  obtain ⟨qs, rfl⟩ := List.getLast?_eq_some_iff.mp hq
  rcases List.mem_append.mp hmem with h | h
  · exact ((List.pairwise_append.mp hsorted).2.2 _ h q (by simp)).le
  · obtain rfl := List.mem_singleton.mp h
    exact le_rfl

theorem Ordered.accept {b' : Buffer α} {out' : List (ℤ × α)} {n : ℤ} {a : α}
    (h : Ordered w half out b) (hw : 0 < w) (hhalf : w ≤ half) (hn : n < b.start + half)
    (hacc : accept w b n a = some (b', out')) : Ordered w half (out ++ out') b' := by
  unfold Resequencer.accept at hacc
  split_ifs at hacc with hlate
  obtain ⟨qs, hins, hdrain⟩ := Option.map_eq_some_iff.mp hacc
  obtain ⟨rfl, rfl⟩ := Prod.mk.inj hdrain
  have hmem := mem_insert hins
  have hadv : b.start ≤ advance w b.start n ∧ advance w b.start n ≤ n + 1
      ∧ n < advance w b.start n + w := by
    unfold advance
    split_ifs <;> omega
  have hchain : (out ++ qs).IsChain (Next half) := by
    refine chain_insert hins h.chain (fun p hp => by have := h.past p hp; omega) ?_
      fun p hp => by have := h.near p hp; omega
    intro p hp
    rcases List.eq_nil_or_concat b.held with hheld | ⟨ps', q, hheld⟩
    · rw [hheld, List.append_nil] at hp
      have := h.caughtUp hheld p hp
      omega
    · have hp' : p = q := by simpa [hheld] using hp.symm
      have := h.near p (by simp [hheld, hp'])
      omega
  have hsorted := pairwise_of_chain (List.isChain_append.mp hchain).2.1
  have hnqs : (n, a) ∈ qs := (hmem _).mpr (Or.inl rfl)
  refine ordered_drain (List.ne_nil_of_mem hnqs) hchain
    (fun p hp => (h.past p hp).trans_le hadv.1) (fun p hp => ?_) fun q hq => ?_
  · rcases (hmem p).mp hp with rfl | hp
    · exact hadv.2.2
    · have := h.near p hp
      omega
  · have := le_getLast hsorted hnqs q hq
    omega

theorem Ordered.flush (h : Ordered w half out b) :
    Ordered w half (out ++ (flush b).2) (flush b).1 := by
  unfold Resequencer.flush
  cases hheld : b.held with
  | nil =>
      rw [List.append_nil]
      exact h
  | cons p ps =>
      have hchain := h.chain
      have hnear := h.near
      have hsorted := h.sorted
      rw [hheld] at hchain hnear hsorted
      have hp := hnear p List.mem_cons_self
      refine ordered_drain (by simp) hchain (fun q hq => (h.past q hq).trans hp.1)
        (fun q hq => by have := hnear q hq; omega) fun q hq => ?_
      rcases List.mem_cons.mp (List.mem_of_getLast? hq) with rfl | hq
      · omega
      · have := (List.pairwise_cons.mp hsorted).1 q hq
        omega

end Steps

/-! ## Progress -/

section Progress

variable {w half : ℤ} {out : List (ℤ × α)} {b : Buffer α}

theorem start_le_accept {b' : Buffer α} {out' : List (ℤ × α)} {n : ℤ} {a : α}
    (hacc : accept w b n a = some (b', out')) : b.start ≤ b'.start := by
  unfold accept at hacc
  split_ifs at hacc with hlate
  obtain ⟨qs, -, hdrain⟩ := Option.map_eq_some_iff.mp hacc
  obtain ⟨rfl, rfl⟩ := Prod.mk.inj hdrain
  refine le_trans ?_ (le_drain_start _ qs)
  unfold advance
  split_ifs <;> omega

/-- Giving up on a gap moves the window over it and over an item. -/
theorem start_lt_flush (h : Ordered w half out b) (hne : b.held ≠ []) :
    b.start + 2 ≤ (flush b).1.start := by
  unfold flush
  cases hheld : b.held with
  | nil => exact absurd hheld hne
  | cons p ps =>
      have hp := (h.near p (by simp [hheld])).1
      have hle := le_drain_start (p.1 + 1) ps
      simp only [drain_cons_of_le le_rfl, if_true]
      omega

/-- What was held or has arrived has left, or is held. -/
theorem mem_accept {b' : Buffer α} {out' : List (ℤ × α)} {n : ℤ} {a : α}
    (hacc : accept w b n a = some (b', out')) (p : ℤ × α) :
    p ∈ out' ∨ p ∈ b'.held ↔ p = (n, a) ∨ p ∈ b.held := by
  unfold accept at hacc
  split_ifs at hacc with hlate
  obtain ⟨qs, hins, hdrain⟩ := Option.map_eq_some_iff.mp hacc
  obtain ⟨rfl, rfl⟩ := Prod.mk.inj hdrain
  rw [← List.mem_append, drain_append]
  exact mem_insert hins p

theorem mem_flush (b : Buffer α) (p : ℤ × α) :
    p ∈ (flush b).2 ∨ p ∈ (flush b).1.held ↔ p ∈ b.held := by
  unfold flush
  cases hheld : b.held with
  | nil => simp [hheld]
  | cons q qs => rw [← List.mem_append, drain_append]

end Progress

/-! ## A sender with a window

The sender moves its own window only over what has arrived. Then nothing
is given up, and what has left is the stream from its beginning.
-/

section Gapless

variable {n₀ w : ℤ} {item : ℤ → α} {seen : Set ℤ} {out : List (ℤ × α)} {b : Buffer α}

structure Gapless (n₀ : ℤ) (item : ℤ → α) (seen : Set ℤ) (out : List (ℤ × α))
    (b : Buffer α) : Prop where
  positions : out.map Prod.fst = (List.range (b.start - n₀).toNat).map fun i : ℕ => n₀ + i
  mem_out : ∀ p ∈ out, p.1 ∈ seen ∧ p.2 = item p.1
  mem_held : ∀ p, p ∈ b.held ↔ p.1 ∈ seen ∧ b.start < p.1 ∧ p.2 = item p.1
  le_start : n₀ ≤ b.start
  missing : b.start ∉ seen
  sorted : b.held.Pairwise (·.1 < ·.1)

theorem gapless_init : Gapless n₀ item ∅ [] ⟨n₀, []⟩ where
  positions := by simp
  mem_out := by simp
  mem_held := by simp
  le_start := le_rfl
  missing := Set.notMem_empty n₀
  sorted := List.Pairwise.nil

theorem Gapless.covered (h : Gapless n₀ item seen out b) {n : ℤ} (hle : n₀ ≤ n)
    (hlt : n < b.start) : n ∈ seen := by
  have hn : n ∈ out.map Prod.fst := by
    rw [h.positions]
    exact List.mem_map.mpr ⟨(n - n₀).toNat, List.mem_range.mpr (by omega), by omega⟩
  obtain ⟨p, hp, rfl⟩ := List.mem_map.mp hn
  exact (h.mem_out p hp).1

/-- The items that have left are the first of the stream. -/
theorem Gapless.items (h : Gapless n₀ item seen out b) :
    out.map Prod.snd = (List.range (b.start - n₀).toNat).map fun i : ℕ => item (n₀ + i) := by
  have hsnd : out.map Prod.snd = (out.map Prod.fst).map item := by
    rw [List.map_map]
    exact List.map_congr_left fun p hp => (h.mem_out p hp).2
  rw [hsnd, h.positions, List.map_map]
  rfl

/-- A copy of what has arrived is refused. -/
theorem Gapless.accept_of_mem (h : Gapless n₀ item seen out b) {n : ℤ} (hn : n ∈ seen) :
    accept w b n (item n) = none := by
  unfold accept
  split_ifs with hlate
  · rfl
  · have hgt : b.start < n := lt_of_le_of_ne (not_lt.mp hlate) fun heq => h.missing (heq ▸ hn)
    rw [Option.map_eq_none_iff, insert_eq_none_iff h.sorted]
    exact ⟨(n, item n), (h.mem_held _).mpr ⟨hn, hgt, rfl⟩, rfl⟩

/-- What the window waits for: it moves over all that follows without a
gap. -/
theorem Gapless.accept_start (h : Gapless n₀ item seen out b) :
    ∃ b' out', accept w b b.start (item b.start) = some (b', out')
      ∧ Gapless n₀ item (Insert.insert b.start seen) (out ++ out') b' := by
  have hahead : ∀ p ∈ b.held, b.start < p.1 := fun p hp => ((h.mem_held p).mp hp).2.1
  have hacc : accept w b b.start (item b.start) =
      some ((drain (b.start + 1) b.held).1,
        (b.start, item b.start) :: (drain (b.start + 1) b.held).2) := by
    unfold accept advance
    rw [if_neg (lt_irrefl _), insert_of_lt hahead, if_pos rfl, Option.map_some,
      drain_cons_of_le (by simp), if_neg (by simp)]
  refine ⟨_, _, hacc, ?_⟩
  have hsplit := drain_append (b.start + 1) b.held
  have hle := le_drain_start (b.start + 1) b.held
  have hpos := drain_positions h.sorted hahead
  have hheld := @lt_drain_held _ (b.start + 1) _ h.sorted
  have hout := @drain_out_lt _ (b.start + 1) b.held
  set d := drain (b.start + 1) b.held
  have hmem (p : ℤ × α) : p ∈ b.held ↔ p ∈ d.2 ∨ p ∈ d.1.held := by
    rw [← List.mem_append, hsplit]
  refine ⟨?_, fun p hp => ?_, fun p => ⟨fun hp => ?_, ?_⟩, by have := h.le_start; omega, ?_, ?_⟩
  · have hn₀ := h.le_start
    obtain ⟨k, hk⟩ : ∃ k : ℕ, d.1.start = b.start + 1 + k :=
      ⟨(d.1.start - (b.start + 1)).toNat, by omega⟩
    obtain ⟨j, hj⟩ : ∃ j : ℕ, b.start = n₀ + j := ⟨(b.start - n₀).toNat, by omega⟩
    rw [List.map_append, h.positions, List.map_cons, hpos,
      show (d.1.start - n₀).toNat = j + (k + 1) by omega, List.range_add, List.range_succ_eq_map,
      show (b.start - n₀).toNat = j by omega, show (d.1.start - (b.start + 1)).toNat = k by omega]
    simp only [List.map_append, List.map_cons, List.map_map, Function.comp_def, add_zero, ← hj,
      List.append_cancel_left_eq, List.cons.injEq, true_and]
    refine List.map_congr_left fun i _ => ?_
    push_cast
    omega
  · rcases List.mem_append.mp hp with hp | hp
    · exact (h.mem_out p hp).imp_left (Set.mem_insert_of_mem _)
    · rcases List.mem_cons.mp hp with rfl | hp
      · exact ⟨Set.mem_insert _ _, rfl⟩
      · have hp := (h.mem_held p).mp ((hmem p).mpr (Or.inl hp))
        exact ⟨Set.mem_insert_of_mem _ hp.1, hp.2.2⟩
  · have hp' := (h.mem_held p).mp ((hmem p).mpr (Or.inr hp))
    exact ⟨Set.mem_insert_of_mem _ hp'.1, hheld hp, hp'.2.2⟩
  · rintro ⟨heq | hseen, hlt, hitem⟩
    · omega
    · rcases (hmem p).mp ((h.mem_held p).mpr ⟨hseen, by omega, hitem⟩) with hp | hp
      · exact absurd (hout hp) (by omega)
      · exact hp
  · rintro (heq | hseen)
    · omega
    · rcases (hmem _).mp ((h.mem_held (d.1.start, item d.1.start)).mpr ⟨hseen, by simp; omega, rfl⟩)
        with hp | hp
      · exact lt_irrefl _ (hout hp)
      · exact lt_irrefl _ (hheld hp)
  · have hsorted := h.sorted
    rw [← hsplit] at hsorted
    exact (List.pairwise_append.mp hsorted).2.1

/-- What comes later is held: the sender has not let the window move. -/
theorem Gapless.accept_ahead (h : Gapless n₀ item seen out b) {n : ℤ} (hn : n ∉ seen)
    (hlt : b.start < n) (hwindow : ∀ m, n₀ ≤ m → m + w ≤ n → m ∈ seen) :
    ∃ b', accept w b n (item n) = some (b', [])
      ∧ Gapless n₀ item (Insert.insert n seen) out b' := by
  have hshut : ¬ b.start + w ≤ n := fun hle => h.missing (hwindow _ h.le_start hle)
  have hfree : insert n (item n) b.held ≠ none := by
    rw [Ne, insert_eq_none_iff h.sorted]
    rintro ⟨p, hp, rfl⟩
    exact hn ((h.mem_held p).mp hp).1
  obtain ⟨qs, hins⟩ := Option.ne_none_iff_exists'.mp hfree
  have hmem := mem_insert hins
  have hahead : ∀ p ∈ qs, b.start < p.1 := fun p hp => by
    rcases (hmem p).mp hp with rfl | hp
    · exact hlt
    · exact ((h.mem_held p).mp hp).2.1
  refine ⟨⟨b.start, qs⟩, ?_, ?_⟩
  · unfold accept advance
    rw [if_neg (by omega), hins, if_neg (by omega), if_neg hshut, Option.map_some]
    cases qs with
    | nil => exact absurd ((hmem (n, item n)).mpr (Or.inl rfl)) (List.not_mem_nil)
    | cons p ps => rw [drain_cons_of_lt (hahead p List.mem_cons_self)]
  · refine ⟨h.positions, fun p hp => (h.mem_out p hp).imp_left (Set.mem_insert_of_mem n),
      fun p => ?_, h.le_start, ?_, pairwise_insert hins h.sorted⟩
    · rw [hmem, h.mem_held]
      constructor
      · rintro (rfl | ⟨hseen, hp⟩)
        · exact ⟨Set.mem_insert _ _, hlt, rfl⟩
        · exact ⟨Set.mem_insert_of_mem n hseen, hp⟩
      · rintro ⟨rfl | hseen, hp, hitem⟩
        · exact Or.inl (Prod.ext rfl hitem)
        · exact Or.inr ⟨hseen, hp, hitem⟩
    · rintro (heq | hseen)
      · exact absurd heq hlt.ne
      · exact h.missing hseen

/-- One arrival of such a sender. -/
theorem Gapless.arrive (h : Gapless n₀ item seen out b) {n : ℤ} (hle : n₀ ≤ n)
    (hwindow : ∀ m, n₀ ≤ m → m + w ≤ n → m ∈ seen) :
    match accept w b n (item n) with
    | some (b', out') => n ∉ seen ∧ Gapless n₀ item (Insert.insert n seen) (out ++ out') b'
    | none => n ∈ seen := by
  by_cases hn : n ∈ seen
  · rw [h.accept_of_mem hn]
    exact hn
  · rcases lt_trichotomy n b.start with hlt | rfl | hlt
    · exact absurd (h.covered hle hlt) hn
    · obtain ⟨b', out', hacc, h'⟩ := h.accept_start (w := w)
      rw [hacc]
      exact ⟨hn, h'⟩
    · obtain ⟨b', hacc, h'⟩ := h.accept_ahead hn hlt hwindow
      rw [hacc]
      exact ⟨hn, by rwa [List.append_nil]⟩

end Gapless

end Resequencer
