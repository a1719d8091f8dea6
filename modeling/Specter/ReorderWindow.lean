import Mathlib.Data.Nat.Bitwise
import Specter.Lib.Resequencer
import Specter.Reorder

/-!
# The reordering window

A sequence number stands for the positions of a stream that it is the
remainder of, and next to the window for one of them. So the control is
a resequencing buffer with a window of 64 positions, as long as nothing
moves its window but frames and the timer (`recvIndicatepktReorder_sim`,
`timeoutHandler_sim`).
-/

namespace Specter

open Resequencer (Buffer Ordered accept advance drain drain_cons_of_le drain_cons_of_lt)

variable {α : Type}

/-! ## Sequence numbers -/

/-- The sequence number of a position. -/
def Denotes (x : ℤ) (a : UInt16) : Prop := (a.toNat : ℤ) = x % 4096

theorem and_bit11 (n : ℕ) : n &&& 0x800 = n / 2048 % 2 * 2048 := by
  have h := Nat.and_two_pow n 11
  rw [Nat.testBit_eq_decide_div_mod_eq] at h
  simp only [Nat.reducePow] at h
  rw [h]
  rcases Nat.mod_two_eq_zero_or_one (n / 2048) with h | h <;> simp [h]

/-- Two positions that are not too far apart compare as their numbers do. -/
theorem snLess_iff {x y : ℤ} {a b : UInt16} (ha : Denotes x a) (hb : Denotes y b)
    (hlt : x < y + 2048) (hle : y ≤ x + 2048) : snLess a b = true ↔ x < y := by
  have hbit : snLess a b = true ↔ (a - b).toNat / 2048 % 2 = 1 := by
    unfold snLess
    rw [bne_iff_ne, Ne, ← UInt16.toNat_inj, UInt16.toNat_and]
    have h := and_bit11 (a - b).toNat
    simp only [UInt16.reduceToNat, UInt16.toNat_zero] at h ⊢
    omega
  rw [hbit, UInt16.toNat_sub]
  have := a.toNat_lt
  have := b.toNat_lt
  unfold Denotes at ha hb
  omega

theorem Denotes.eq_iff {x y : ℤ} {a b : UInt16} (ha : Denotes x a) (hb : Denotes y b)
    (hlt : x < y + 4096) (hgt : y < x + 4096) : a = b ↔ x = y := by
  rw [← UInt16.toNat_inj]
  unfold Denotes at ha hb
  omega

theorem and_0xFFF (a : UInt16) : (a &&& 0xFFF).toNat = a.toNat % 4096 := by
  have h := Nat.and_two_pow_sub_one_eq_mod a.toNat 12
  simpa [UInt16.toNat_and] using h

theorem Denotes.succ {x : ℤ} {a : UInt16} (ha : Denotes x a) :
    Denotes (x + 1) ((a + 1) &&& 0xFFF) := by
  have hadd := UInt16.toNat_add a 1
  have := a.toNat_lt
  unfold Denotes at *
  rw [and_0xFFF, hadd]
  simp only [UInt16.reduceToNat]
  omega

theorem Denotes.ne_0xFFFF {x : ℤ} {a : UInt16} (ha : Denotes x a) : a ≠ 0xFFFF := by
  rintro rfl
  unfold Denotes at ha
  simp only [UInt16.reduceToNat] at ha
  omega

/-- The position next to `x` with this number. -/
def nearest (x : ℤ) (a : UInt16) : ℤ := x + (a.toNat - x + 2048) % 4096 - 2048

theorem nearest_spec (x : ℤ) {a : UInt16} (ha : a < 0x1000) :
    Denotes (nearest x a) a ∧ x ≤ nearest x a + 2048 ∧ nearest x a < x + 2048 := by
  have hlt : a.toNat < 4096 := UInt16.lt_iff_toNat_lt.mp ha
  unfold Denotes nearest
  omega

theorem nearest_eq {x y : ℤ} {a : UInt16} (ha : Denotes y a) (hle : x ≤ y + 2048)
    (hlt : y < x + 2048) : nearest x a = y := by
  unfold Denotes at ha
  unfold nearest
  omega

/-! ## The functions of the control -/

/-- The frames held, and their positions. -/
def Tagged (held : List (ℤ × RecvFrame α)) : Prop := ∀ p ∈ held, Denotes p.1 p.2.seqNum

theorem enqueue_eq {held : List (ℤ × RecvFrame α)} (htag : Tagged held) {n : ℤ}
    (frame : RecvFrame α) (hn : Denotes n frame.seqNum)
    (hnear : ∀ p ∈ held, p.1 < n + 2048 ∧ n ≤ p.1 + 2048) :
    enqueueReorderRecvframe frame (held.map Prod.snd)
      = (Resequencer.insert n frame held).map (List.map Prod.snd) := by
  induction held with
  | nil => rfl
  | cons p ps ih =>
      have hp := htag p List.mem_cons_self
      have hpn := hnear p List.mem_cons_self
      have hless := snLess_iff hp hn hpn.1 hpn.2
      have heq := hp.eq_iff hn (by omega) (by omega)
      have hps := ih (fun q hq => htag q (List.mem_cons_of_mem p hq))
        fun q hq => hnear q (List.mem_cons_of_mem p hq)
      simp only [List.map_cons, enqueueReorderRecvframe, Resequencer.insert, hless, heq, hps]
      split_ifs
      · cases Resequencer.insert n frame ps <;> rfl
      · rfl
      · rfl

theorem indicateLoop_eq {held : List (ℤ × RecvFrame α)} (htag : Tagged held) {start : ℤ}
    {indicateSeq : UInt16} (hstart : Denotes start indicateSeq)
    (hsorted : held.Pairwise (·.1 < ·.1))
    (hnear : ∀ p ∈ held, start < p.1 + 2048 ∧ p.1 ≤ start + 2048) :
    ∃ w, Denotes (drain start held).1.start w
      ∧ indicateLoop indicateSeq (held.map Prod.snd)
        = (w, (drain start held).1.held.map Prod.snd, (drain start held).2.map Prod.snd) := by
  induction held generalizing start indicateSeq with
  | nil => exact ⟨indicateSeq, hstart, rfl⟩
  | cons p ps ih =>
      have hp := htag p List.mem_cons_self
      have hpn := hnear p List.mem_cons_self
      have hpairs := List.pairwise_cons.mp hsorted
      have hless := snLess_iff hstart hp hpn.1 hpn.2
      rcases le_or_gt p.1 start with hle | hgt
      · have hnot : ¬ snLess indicateSeq p.2.seqNum = true := by
          rw [hless]
          omega
        -- the window, moved on if the frame is the one it waits for
        have hnext : Denotes (if p.1 = start then start + 1 else start)
            (if indicateSeq = p.2.seqNum then (indicateSeq + 1) &&& 0xFFF else indicateSeq) := by
          have heq := hstart.eq_iff hp (by omega) (by omega)
          by_cases h : p.1 = start
          · rw [if_pos h, if_pos (heq.mpr h.symm)]
            exact hstart.succ
          · rw [if_neg h, if_neg fun hs => h (heq.mp hs).symm]
            exact hstart
        obtain ⟨w, hw, hloop⟩ := ih (fun q hq => htag q (List.mem_cons_of_mem p hq)) hnext
          hpairs.2 fun q hq => by
            have hq' := hnear q (List.mem_cons_of_mem p hq)
            have hpq := hpairs.1 q hq
            split_ifs <;> omega
        refine ⟨w, by rwa [drain_cons_of_le hle], ?_⟩
        simp only [List.map_cons, indicateLoop, if_pos hnot, hloop, drain_cons_of_le hle]
      · have hyes : ¬ ¬ snLess indicateSeq p.2.seqNum = true := by
          rw [hless]
          omega
        refine ⟨indicateSeq, by rwa [drain_cons_of_lt hgt], ?_⟩
        simp only [List.map_cons, indicateLoop, if_neg hyes, drain_cons_of_lt hgt, List.map_nil]

/-- The control is this buffer. -/
structure Models (ctrl : ReorderCtrl α) (b : Buffer (RecvFrame α)) : Prop where
  enable : ctrl.enable = true
  noReset : ctrl.recvAckOrTimeout = false ∧ ctrl.recvReorderWow = false
  wsizeB : ctrl.wsizeB = 64
  indicateSeq : Denotes b.start ctrl.indicateSeq
  pending : ctrl.pending = b.held.map Prod.snd
  tagged : Tagged b.held

/-- The last number of the window. -/
theorem Denotes.wend {start : ℤ} {a : UInt16} (ha : Denotes start a) :
    Denotes (start + 63) ((a + 64 - 1) &&& 0xFFF) := by
  have hadd := UInt16.toNat_add a 64
  have hsub := UInt16.toNat_sub (a + 64) 1
  have := a.toNat_lt
  unfold Denotes at *
  rw [and_0xFFF, hsub, hadd]
  simp only [UInt16.reduceToNat]
  omega

/-- Where the window starts if it is to end with `n`. -/
theorem Denotes.shift {n : ℤ} {a : UInt16} (ha : Denotes n a) :
    Denotes (n + 1 - 64)
      (if 63 ≤ a.toNat then a + 1 - 64 else 0xFFF - (64 - (a + 1)) + 1) := by
  have hadd := UInt16.toNat_add a 1
  have hsub := UInt16.toNat_sub (a + 1) 64
  have hback := UInt16.toNat_sub 64 (a + 1)
  have hfrom := UInt16.toNat_sub 0xFFF (64 - (a + 1))
  have hone := UInt16.toNat_add (0xFFF - (64 - (a + 1))) 1
  have := a.toNat_lt
  simp only [UInt16.reduceToNat] at hadd hsub hback hfrom hone
  unfold Denotes at *
  split_ifs <;> omega

theorem checkIndicateSeq_eq {ctrl : ReorderCtrl α} {start n : ℤ} {seqNum : UInt16}
    (hwsize : ctrl.wsizeB = 64) (hstart : Denotes start ctrl.indicateSeq)
    (hn : Denotes n seqNum) (hle : start ≤ n + 2048) (hlt : n < start + 2048) :
    if n < start then checkIndicateSeq ctrl seqNum = (ctrl, false)
    else ∃ w, Denotes (advance 64 start n) w
      ∧ checkIndicateSeq ctrl seqNum = ({ ctrl with indicateSeq := w }, true) := by
  have hinit : ctrl.indicateSeq ≠ 0xFFFF := hstart.ne_0xFFFF
  have hless := snLess_iff hn hstart (by omega) (by omega)
  have heq := hn.eq_iff hstart (by omega) (by omega)
  have hsize : ctrl.wsizeB.toUInt16 = 64 := by rw [hwsize]; rfl
  have hsize' : ctrl.wsizeB.toNat - 1 = 63 := by rw [hwsize]; rfl
  unfold checkIndicateSeq
  rw [if_neg hinit]
  simp only [hsize, hsize', hless, heq]
  rcases lt_trichotomy n start with h | h | h
  · rw [if_pos h, if_pos h]
  · rw [if_neg (by omega), if_neg (by omega), if_pos h, advance, if_pos h]
    exact ⟨_, hstart.succ, rfl⟩
  · have hwend := snLess_iff hstart.wend hn (by omega) (by omega)
    rw [if_neg (by omega), if_neg (by omega), if_neg (by omega), advance, if_neg (by omega)]
    simp only [hwend]
    by_cases hbeyond : start + 63 < n
    · rw [if_pos hbeyond, if_pos (by omega)]
      refine ⟨_, hn.shift, ?_⟩
      split_ifs <;> rfl
    · rw [if_neg hbeyond, if_neg (by omega)]
      exact ⟨_, hstart, rfl⟩

theorem indicatePending_sim (ctrl : ReorderCtrl α) {start : ℤ}
    (held : List (ℤ × RecvFrame α)) (henable : ctrl.enable = true)
    (hreset : ctrl.recvAckOrTimeout = false ∧ ctrl.recvReorderWow = false)
    (hwsize : ctrl.wsizeB = 64) (hstart : Denotes start ctrl.indicateSeq)
    (hpending : ctrl.pending = held.map Prod.snd) (htag : Tagged held)
    (hsorted : held.Pairwise (·.1 < ·.1))
    (hnear : ∀ p ∈ held, start < p.1 + 2048 ∧ p.1 ≤ start + 2048) (rxDrop : UInt64) :
    Models (indicatePending ctrl rxDrop).ctrl (drain start held).1
      ∧ (indicatePending ctrl rxDrop).mpdus = (drain start held).2.map Prod.snd := by
  obtain ⟨w, hw, hloop⟩ := indicateLoop_eq htag hstart hsorted hnear
  rw [indicatePending, hpending, hloop]
  refine ⟨⟨henable, hreset, hwsize, hw, rfl, fun p hp => htag p ?_⟩, rfl⟩
  rw [← Resequencer.drain_append start held]
  exact List.mem_append_right _ hp

theorem Models.waiting {ctrl : ReorderCtrl α} {b : Buffer (RecvFrame α)} (h : Models ctrl b)
    (waiting : Bool) : Models { ctrl with bReorderWaiting := waiting } b :=
  ⟨h.enable, h.noReset, h.wsizeB, h.indicateSeq, h.pending, h.tagged⟩

theorem takeResets_eq (ctrl : ReorderCtrl α)
    (h : ctrl.recvAckOrTimeout = false ∧ ctrl.recvReorderWow = false) :
    takeResets ctrl = ctrl := by
  cases ctrl
  simp_all [takeResets]

/-- **Frame.** A frame is an arrival at the position next to the window. -/
theorem recvIndicatepktReorder_sim {s : Reordering α} {b : Buffer (RecvFrame α)}
    {out : List (ℤ × RecvFrame α)} (hm : Models s.ctrl b) (ho : Ordered 64 2048 out b)
    (frame : RecvFrame α) :
    match accept 64 b (nearest b.start frame.seqNum) frame with
    | none => Models (recvIndicatepktReorder s frame).ctrl b
        ∧ (recvIndicatepktReorder s frame).mpdus = s.mpdus
    | some (b', out') => Models (recvIndicatepktReorder s frame).ctrl b'
        ∧ (recvIndicatepktReorder s frame).mpdus = s.mpdus ++ out'.map Prod.snd := by
  obtain ⟨hn, hle, hlt⟩ := nearest_spec b.start frame.seqNum_lt
  generalize nearest b.start frame.seqNum = n at hn hle hlt ⊢
  have hcheck := checkIndicateSeq_eq hm.wsizeB hm.indicateSeq hn hle hlt
  unfold accept recvIndicatepktReorder
  rw [takeResets_eq _ hm.noReset]
  by_cases hlate : n < b.start
  · rw [if_pos hlate] at hcheck
    rw [if_pos hlate, hcheck]
    exact ⟨hm, rfl⟩
  · rw [if_neg hlate] at hcheck
    obtain ⟨w, hw, hcheck⟩ := hcheck
    have henqueue := enqueue_eq hm.tagged frame hn fun p hp => by
      have := ho.near p hp
      omega
    rw [← hm.pending] at henqueue
    rw [if_neg hlate, hcheck]
    simp only [not_true_eq_false, if_false, henqueue]
    cases hins : Resequencer.insert n frame b.held with
    | none =>
        -- a copy of a frame that is held: the window has not moved
        obtain ⟨p, hp, rfl⟩ := (Resequencer.insert_eq_none_iff ho.sorted).mp hins
        have hnear := ho.near p hp
        rw [advance, if_neg (by omega), if_neg (by omega)] at hw
        exact ⟨⟨hm.enable, hm.noReset, hm.wsizeB, hw, hm.pending, hm.tagged⟩, rfl⟩
    | some qs =>
        have hmem := Resequencer.mem_insert hins
        have hadv : b.start ≤ advance 64 b.start n ∧ advance 64 b.start n ≤ n + 1
            ∧ n < advance 64 b.start n + 64 := by
          unfold advance
          split_ifs <;> omega
        have htag : Tagged qs := fun p hp => by
          rcases (hmem p).mp hp with rfl | hp
          · exact hn
          · exact hm.tagged p hp
        obtain ⟨hmodels, hmpdus⟩ := indicatePending_sim
          { s.ctrl with indicateSeq := w, pending := qs.map Prod.snd } qs
          hm.enable hm.noReset hm.wsizeB hw rfl htag
          (Resequencer.pairwise_insert hins ho.sorted)
          (fun p hp => by
            rcases (hmem p).mp hp with rfl | hp
            · omega
            · have := ho.near p hp
              omega) s.rxDrop
        simp only [Option.map_some, recvIndicatepktsInOrder, Bool.false_eq_true, if_false]
        rw [← hmpdus]
        split_ifs
        · exact ⟨hmodels.waiting _, rfl⟩
        · exact ⟨hmodels.waiting _, rfl⟩

theorem forced_nil (ctrl : ReorderCtrl α) (h : ctrl.pending = []) (rxDrop : UInt64) :
    recvIndicatepktsInOrder ctrl rxDrop true = ⟨ctrl, [], rxDrop, true⟩ := by
  rw [recvIndicatepktsInOrder, if_pos rfl]
  split
  · rfl
  · simp_all

theorem forced_cons (ctrl : ReorderCtrl α) {frame : RecvFrame α} {rest : List (RecvFrame α)}
    (h : ctrl.pending = frame :: rest) (rxDrop : UInt64) :
    recvIndicatepktsInOrder ctrl rxDrop true =
      indicatePending { ctrl with indicateSeq := frame.seqNum }
        (recvIndicatepktsPktLossCnt rxDrop ctrl.indicateSeq.toUInt64 frame.seqNum.toUInt64) := by
  rw [recvIndicatepktsInOrder, if_pos rfl]
  split
  · simp_all
  · simp_all

/-- **Timer.** The handler gives up on the first gap. -/
theorem timeoutHandler_sim {s : Reordering α} {b : Buffer (RecvFrame α)}
    {out : List (ℤ × RecvFrame α)} (hm : Models s.ctrl b) (ho : Ordered 64 2048 out b) :
    Models (reorderingCtrlTimeoutHandler false s).ctrl (Resequencer.flush b).1
      ∧ (reorderingCtrlTimeoutHandler false s).mpdus
        = s.mpdus ++ (Resequencer.flush b).2.map Prod.snd := by
  have hpending := hm.pending
  have hnear := ho.near
  have hsorted := ho.sorted
  have htag := hm.tagged
  unfold reorderingCtrlTimeoutHandler Resequencer.flush
  cases hheld : b.held with
  | nil =>
      rw [hheld, List.map_nil] at hpending
      rw [if_neg Bool.false_ne_true,
        forced_nil { s.ctrl with bReorderWaiting := false } hpending]
      exact ⟨hm.waiting false, rfl⟩
  | cons p ps =>
      rw [hheld] at hpending hnear hsorted htag
      rw [List.map_cons] at hpending
      have hp := hnear p List.mem_cons_self
      rw [if_neg Bool.false_ne_true,
        forced_cons { s.ctrl with bReorderWaiting := false } hpending]
      obtain ⟨hmodels, hmpdus⟩ := indicatePending_sim
        { s.ctrl with bReorderWaiting := false, indicateSeq := p.2.seqNum } (p :: ps) hm.enable
        hm.noReset hm.wsizeB (htag p List.mem_cons_self) hpending htag
        hsorted (fun q hq => by
          rcases List.mem_cons.mp hq with rfl | hq'
          · omega
          · have := hnear q hq
            have := (List.pairwise_cons.mp hsorted).1 q hq'
            omega)
        (recvIndicatepktsPktLossCnt s.rxDrop s.ctrl.indicateSeq.toUInt64 p.2.seqNum.toUInt64)
      exact ⟨hmodels, congrArg (s.mpdus ++ ·) hmpdus⟩

/-! ## Runs -/

/-- A frame, or what the timer does while the driver is up. -/
def RxEvent.ordinary : RxEvent α → Bool
  | .recv _ | .cancelTimer | .expire | .timeout false => true
  | .timeout true | .bar _ | .addBaRsp _ | .delba | .reorderWow | .joinbss => false

def RxEvent.arrival? : RxEvent α → Option (RecvFrame α)
  | .recv frame => some frame
  | _ => none

/-- Enabled and empty, with a window that the next frame will set. -/
structure Fresh (ctrl : ReorderCtrl α) : Prop where
  enable : ctrl.enable = true
  wsizeB : ctrl.wsizeB = 64
  pending : ctrl.pending = []
  unset : (takeResets ctrl).indicateSeq = 0xFFFF

/-- From `s₀` on, `out` has been handed on and `b` is what is left. -/
structure Follows (s₀ s : Reordering α) (out : List (ℤ × RecvFrame α))
    (b : Buffer (RecvFrame α)) : Prop where
  models : Models s.ctrl b
  ordered : Ordered 64 2048 out b
  tagged : Tagged out
  mpdus : s.mpdus = s₀.mpdus ++ out.map Prod.snd

/-- A frame that is not kept changes nothing. -/
def arrive (b : Buffer (RecvFrame α)) (frame : RecvFrame α) :
    Buffer (RecvFrame α) × List (ℤ × RecvFrame α) :=
  (accept 64 b (nearest b.start frame.seqNum) frame).getD (b, [])

theorem arrive_of_accept {b : Buffer (RecvFrame α)} {frame : RecvFrame α}
    {r : Option (Buffer (RecvFrame α) × List (ℤ × RecvFrame α))}
    (h : accept 64 b (nearest b.start frame.seqNum) frame = r) :
    arrive b frame = r.getD (b, []) := by
  rw [arrive, h]

/-- What an ordinary event is to the buffer. -/
def windowStep (b : Buffer (RecvFrame α)) :
    RxEvent α → Buffer (RecvFrame α) × List (ℤ × RecvFrame α)
  | .recv frame => arrive b frame
  | .timeout false => Resequencer.flush b
  | _ => (b, [])

section Runs

variable {s₀ s s' : Reordering α} {out : List (ℤ × RecvFrame α)} {b : Buffer (RecvFrame α)}

theorem follows_frame (h : Follows s₀ s out b) (frame : RecvFrame α) :
    Follows s₀ (recvIndicatepktReorder s frame) (out ++ (arrive b frame).2) (arrive b frame).1 := by
  obtain ⟨hn, -, hlt⟩ := nearest_spec b.start frame.seqNum_lt
  have hsim := recvIndicatepktReorder_sim h.models h.ordered frame
  cases hacc : accept 64 b (nearest b.start frame.seqNum) frame with
  | none =>
      rw [hacc] at hsim
      rw [arrive_of_accept hacc, Option.getD_none, List.append_nil]
      exact ⟨hsim.1, h.ordered, h.tagged, hsim.2.trans h.mpdus⟩
  | some r =>
      obtain ⟨b', out'⟩ := r
      rw [hacc] at hsim
      rw [arrive_of_accept hacc, Option.getD_some]
      refine ⟨hsim.1, h.ordered.accept (by omega) (by omega) hlt hacc, fun p hp => ?_, ?_⟩
      · rcases List.mem_append.mp hp with hp | hp
        · exact h.tagged p hp
        · rcases (Resequencer.mem_accept hacc p).mp (Or.inl hp) with rfl | hp
          · exact hn
          · exact h.models.tagged p hp
      · rw [List.map_append, ← List.append_assoc, ← h.mpdus]
        exact hsim.2

theorem follows_timeout (h : Follows s₀ s out b) :
    Follows s₀ (reorderingCtrlTimeoutHandler false s) (out ++ (Resequencer.flush b).2)
      (Resequencer.flush b).1 := by
  obtain ⟨hmodels, hmpdus⟩ := timeoutHandler_sim h.models h.ordered
  refine ⟨hmodels, h.ordered.flush, fun p hp => ?_, ?_⟩
  · rcases List.mem_append.mp hp with hp | hp
    · exact h.tagged p hp
    · exact h.models.tagged p ((Resequencer.mem_flush b p).mp (Or.inl hp))
  · rw [List.map_append, ← List.append_assoc, ← h.mpdus]
    exact hmpdus

theorem Follows.keep (h : Follows s₀ s out b) (hctrl : s'.ctrl = s.ctrl)
    (hmpdus : s'.mpdus = s.mpdus) : Follows s₀ s' (out ++ []) b := by
  rw [List.append_nil]
  exact ⟨hctrl ▸ h.models, h.ordered, h.tagged, hmpdus.trans h.mpdus⟩

/-- **Step.** -/
theorem follows_step {e : RxEvent α} (h : Follows s₀ s out b) (he : e.ordinary = true)
    (hstep : rxStep s e = .ok s') :
    Follows s₀ s' (out ++ (windowStep b e).2) (windowStep b e).1 := by
  cases e with
  | recv frame =>
      simp only [rxStep, recvPosthandle, h.models.enable, if_true] at hstep
      split_ifs at hstep
      obtain rfl := Except.ok.inj hstep
      exact follows_frame h frame
  | cancelTimer =>
      simp only [rxStep] at hstep
      split_ifs at hstep
      obtain rfl := Except.ok.inj hstep
      exact h.keep rfl rfl
  | expire =>
      simp only [rxStep] at hstep
      split_ifs at hstep
      obtain rfl := Except.ok.inj hstep
      exact h.keep rfl rfl
  | timeout cannotRun =>
      cases cannotRun with
      | true => cases he
      | false =>
          simp only [rxStep] at hstep
          split_ifs at hstep
          obtain rfl := Except.ok.inj hstep
          have h' : Follows s₀ { s with fired := false } out b :=
            ⟨h.models, h.ordered, h.tagged, h.mpdus⟩
          exact follows_timeout h'
  | bar _ | addBaRsp _ | delba | reorderWow | joinbss => cases he

/-! ### The first frame -/

/-- The window a fresh control takes from its first frame. -/
def opened (ctrl : ReorderCtrl α) (frame : RecvFrame α) : ReorderCtrl α :=
  { takeResets ctrl with indicateSeq := frame.seqNum }

theorem denotes_toNat {a : UInt16} (ha : a < 0x1000) : Denotes a.toNat a := by
  have hlt : a.toNat < 4096 := UInt16.lt_iff_toNat_lt.mp ha
  unfold Denotes
  omega

theorem Fresh.follows (h : Fresh s.ctrl) (frame : RecvFrame α) :
    Follows s { s with ctrl := opened s.ctrl frame } [] ⟨frame.seqNum.toNat, []⟩ where
  models := ⟨h.enable, ⟨rfl, rfl⟩, h.wsizeB, denotes_toNat frame.seqNum_lt, h.pending,
    fun _ hp => by cases hp⟩
  ordered := Resequencer.ordered_init _
  tagged := fun _ hp => by cases hp
  mpdus := (List.append_nil _).symm

theorem Fresh.frame_eq (h : Fresh s.ctrl) (frame : RecvFrame α) :
    recvIndicatepktReorder s frame
      = recvIndicatepktReorder { s with ctrl := opened s.ctrl frame } frame := by
  have hne : frame.seqNum ≠ 0xFFFF := (denotes_toNat frame.seqNum_lt).ne_0xFFFF
  have hcheck : checkIndicateSeq (takeResets s.ctrl) frame.seqNum
      = checkIndicateSeq (takeResets (opened s.ctrl frame)) frame.seqNum := by
    rw [takeResets_eq (opened s.ctrl frame) ⟨rfl, rfl⟩]
    unfold checkIndicateSeq
    rw [if_pos h.unset, if_neg (show (opened s.ctrl frame).indicateSeq ≠ 0xFFFF from hne)]
    rfl
  unfold recvIndicatepktReorder
  rw [hcheck]

theorem Fresh.step_frame {frame : RecvFrame α} (h : Fresh s.ctrl)
    (hstep : rxStep s (.recv frame) = .ok s') :
    Follows s s' (arrive ⟨frame.seqNum.toNat, []⟩ frame).2
      (arrive ⟨frame.seqNum.toNat, []⟩ frame).1 := by
  simp only [rxStep, recvPosthandle, h.enable, if_true] at hstep
  split_ifs at hstep
  obtain rfl := Except.ok.inj hstep
  rw [h.frame_eq frame]
  exact follows_frame (h.follows frame) frame

/-- A fresh control stays so until a frame comes. -/
theorem Fresh.step {e : RxEvent α} (h : Fresh s.ctrl) (he : e.ordinary = true)
    (hnone : e.arrival? = none) (hstep : rxStep s e = .ok s') :
    Fresh s'.ctrl ∧ s'.mpdus = s.mpdus := by
  cases e with
  | recv frame => cases hnone
  | cancelTimer | expire =>
      simp only [rxStep] at hstep
      split_ifs at hstep
      obtain rfl := Except.ok.inj hstep
      exact ⟨h, rfl⟩
  | timeout cannotRun =>
      cases cannotRun with
      | true => cases he
      | false =>
          simp only [rxStep] at hstep
          split_ifs at hstep
          obtain rfl := Except.ok.inj hstep
          unfold reorderingCtrlTimeoutHandler
          rw [if_neg Bool.false_ne_true,
            forced_nil { s.ctrl with bReorderWaiting := false } h.pending]
          exact ⟨⟨h.enable, h.wsizeB, h.pending, h.unset⟩, List.append_nil _⟩
  | bar _ | addBaRsp _ | delba | reorderWow | joinbss => cases he

/-- **Runs.** After ordinary events a fresh control is still fresh, or is a
buffer. -/
theorem runRx_follows {es : List (RxEvent α)} (hfresh : Fresh s.ctrl)
    (hes : ∀ e ∈ es, e.ordinary = true) (h : runRx s es = .ok s') :
    (Fresh s'.ctrl ∧ s'.mpdus = s.mpdus) ∨ ∃ out b, Follows s s' out b := by
  refine Run.run_induction (P := fun es s' => (∀ e ∈ es, e.ordinary = true) →
    (Fresh s'.ctrl ∧ s'.mpdus = s.mpdus) ∨ ∃ out b, Follows s s' out b)
    (fun _ => Or.inl ⟨hfresh, rfl⟩) (fun es t e t' _ ih hstep hes => ?_) h hes
  have he : e.ordinary = true := hes e (by simp)
  rcases ih fun e he => hes e (List.mem_append_left _ he) with ⟨hf, hsame⟩ | ⟨out, b, hfollows⟩
  · cases e with
    | recv frame =>
        have hnext := hf.step_frame hstep
        exact Or.inr ⟨_, _, hnext.models, hnext.ordered, hnext.tagged, hsame ▸ hnext.mpdus⟩
    | _ => exact Or.inl ((hf.step he rfl hstep).imp_right fun hnext => hnext.trans hsame)
  · exact Or.inr ⟨_, _, follows_step hfollows he hstep⟩

/-! ### Order -/

theorem chain_snLess {ps : List (ℤ × RecvFrame α)} (htag : Tagged ps)
    (hchain : ps.IsChain (Resequencer.Next 2048)) :
    (ps.map Prod.snd).IsChain (fun f g => snLess f.seqNum g.seqNum = true) := by
  rw [List.isChain_map]
  refine hchain.imp_of_mem_imp fun p q hp hq hpq => ?_
  obtain ⟨hlt, hle⟩ := hpq
  exact (snLess_iff (htag p hp) (htag q hq) (by omega) (by omega)).mpr hlt

theorem bench_fresh : Fresh benchAgreed.ctrl := ⟨rfl, rfl, rfl, rfl⟩

def RxEvent.isTimeout : RxEvent α → Bool
  | .timeout _ => true
  | _ => false

/-- The window does not go back; each expiry moves it by two positions, or
finds nothing held. -/
theorem windowStep_held {e : RxEvent α} (ho : Ordered 64 2048 out b) (he : e.ordinary = true)
    {p : ℤ × RecvFrame α} (hp : p ∈ b.held) :
    p ∈ (windowStep b e).2 ∨ p ∈ (windowStep b e).1.held
      ∧ b.start + (if e.isTimeout then 2 else 0) ≤ (windowStep b e).1.start := by
  cases e with
  | recv frame =>
      have hstep : windowStep b (.recv frame) = arrive b frame := rfl
      cases hacc : accept 64 b (nearest b.start frame.seqNum) frame with
      | none =>
          rw [hstep, arrive_of_accept hacc]
          exact Or.inr ⟨hp, by simp [RxEvent.isTimeout]⟩
      | some r =>
          obtain ⟨b', out'⟩ := r
          rw [hstep, arrive_of_accept hacc]
          refine ((Resequencer.mem_accept hacc p).mpr (Or.inr hp)).imp_right fun hp' => ⟨hp', ?_⟩
          simpa [RxEvent.isTimeout] using Resequencer.start_le_accept hacc
  | timeout cannotRun =>
      cases cannotRun with
      | true => cases he
      | false =>
          refine ((Resequencer.mem_flush b p).mpr hp).imp_right fun hp' => ⟨hp', ?_⟩
          exact Resequencer.start_lt_flush ho (List.ne_nil_of_mem hp)
  | cancelTimer | expire => exact Or.inr ⟨hp, by simp [windowStep, RxEvent.isTimeout]⟩
  | bar _ | addBaRsp _ | delba | reorderWow | joinbss => cases he

theorem held_of_run {es : List (RxEvent α)} {p : ℤ × RecvFrame α} (h : Follows s₀ s out b)
    (hp : p ∈ b.held) (hes : ∀ e ∈ es, e.ordinary = true) (hrun : runRx s es = .ok s') :
    ∃ out' b', Follows s₀ s' (out ++ out') b' ∧ (p ∈ out' ∨ p ∈ b'.held
      ∧ b.start + 2 * (es.countP RxEvent.isTimeout : ℤ) ≤ b'.start) := by
  refine Run.run_induction (P := fun es s' => (∀ e ∈ es, e.ordinary = true) →
    ∃ out' b', Follows s₀ s' (out ++ out') b' ∧ (p ∈ out' ∨ p ∈ b'.held
      ∧ b.start + 2 * (es.countP RxEvent.isTimeout : ℤ) ≤ b'.start))
    (fun _ => ⟨[], b, by rwa [List.append_nil], Or.inr ⟨hp, by simp⟩⟩)
    (fun es t e t' _ ih hstep hes => ?_) hrun hes
  obtain ⟨out', b', hfollows, hwhere⟩ := ih fun e he => hes e (List.mem_append_left _ he)
  have he : e.ordinary = true := hes e (by simp)
  have hnext := follows_step hfollows he hstep
  rw [List.append_assoc] at hnext
  refine ⟨_, _, hnext, ?_⟩
  rcases hwhere with hout | ⟨hheld, hle⟩
  · exact Or.inl (List.mem_append_left _ hout)
  · refine (windowStep_held hfollows.ordered he hheld).imp (List.mem_append_right _) ?_
    rintro ⟨hheld', hle'⟩
    refine ⟨hheld', ?_⟩
    rw [List.countP_append, List.countP_singleton]
    split_ifs at hle' ⊢ <;> push_cast <;> omega

end Runs

/-- The order in which the frames of the stream arrive. -/
structure InWindow (ks : List ℕ) : Prop where
  first : ∀ k ∈ ks.head?, k = 0
  sent : ∀ pre k, pre ++ [k] <+: ks → ∀ j, j + 64 ≤ k → j ∈ pre
  recent : ∀ pre k, pre ++ [k] <+: ks → ∀ j ∈ pre, j < k + 2048

/-- The first window. -/
theorem InWindow.of_lt {ks : List ℕ} (hfirst : ∀ k ∈ ks.head?, k = 0) (hlt : ∀ k ∈ ks, k < 64) :
    InWindow ks := by
  have hmem {pre : List ℕ} {k : ℕ} (h : pre ++ [k] <+: ks) : ∀ j ∈ pre ++ [k], j < 64 :=
    fun j hj => hlt j (h.subset hj)
  refine ⟨hfirst, fun pre k h j hj => ?_, fun pre k h j hj => ?_⟩
  · have := hmem h k (List.mem_append_right _ (List.mem_singleton_self k))
    omega
  · have := hmem h j (List.mem_append_left _ hj)
    omega

theorem InWindow.of_append {ks ls : List ℕ} (h : InWindow (ks ++ ls)) : InWindow ks where
  first k hk := by
    refine h.first k ?_
    cases ks with
    | nil => cases hk
    | cons a as => exact hk
  sent pre k hpre := h.sent pre k (hpre.trans (List.prefix_append ks ls))
  recent pre k hpre := h.recent pre k (hpre.trans (List.prefix_append ks ls))

section Stream

variable {stream : ℕ → RecvFrame α} {s s' : Reordering α} {out : List (ℤ × RecvFrame α)}
  {b : Buffer (RecvFrame α)}

/-- The stream starts at the position of its first number. -/
def origin (stream : ℕ → RecvFrame α) : ℤ := (stream 0).seqNum.toNat

/-- What is at a position. -/
def itemAt (stream : ℕ → RecvFrame α) (n : ℤ) : RecvFrame α := stream (n - origin stream).toNat

def arrivedAt (stream : ℕ → RecvFrame α) (ks : List ℕ) : Set ℤ :=
  {n | ∃ k ∈ ks, n = origin stream + k}

theorem itemAt_origin_add (stream : ℕ → RecvFrame α) (k : ℕ) :
    itemAt stream (origin stream + k) = stream k := by
  rw [itemAt, show (origin stream + k - origin stream).toNat = k by omega]

theorem arrivedAt_append_singleton (stream : ℕ → RecvFrame α) (ks : List ℕ) (k : ℕ) :
    arrivedAt stream (ks ++ [k])
      = Insert.insert (origin stream + (k : ℤ)) (arrivedAt stream ks) := by
  ext n
  simp only [arrivedAt, List.mem_append, List.mem_singleton, Set.mem_ofPred_eq, Set.mem_insert_iff]
  constructor
  · rintro ⟨j, hj | rfl, rfl⟩
    · exact Or.inr ⟨j, hj, rfl⟩
    · exact Or.inl rfl
  · rintro (rfl | ⟨j, hj, rfl⟩)
    · exact ⟨k, Or.inr rfl, rfl⟩
    · exact ⟨j, Or.inl hj, rfl⟩

/-- One frame of such a station. -/
theorem gapless_arrive {ks : List ℕ} {k : ℕ}
    (hdenotes : Denotes (origin stream + k) (stream k).seqNum)
    (hks : InWindow (ks ++ [k]))
    (hg : Resequencer.Gapless (origin stream) (itemAt stream) (arrivedAt stream ks) out b) :
    Resequencer.Gapless (origin stream) (itemAt stream) (arrivedAt stream (ks ++ [k]))
      (out ++ (arrive b (stream k)).2) (arrive b (stream k)).1 := by
  have hsent := hks.sent ks k List.prefix_rfl
  have hrecent := hks.recent ks k List.prefix_rfl
  have hwindow : ∀ m, origin stream ≤ m → m + 64 ≤ origin stream + k → m ∈ arrivedAt stream ks := by
    intro m hle hm
    exact ⟨(m - origin stream).toNat, hsent _ (by omega), by omega⟩
  -- the window is at the first gap, so neither far ahead of `k` nor far behind
  have hnear : nearest b.start (stream k).seqNum = origin stream + k := by
    refine nearest_eq hdenotes ?_ ?_
    · by_contra hlt
      have hstart := hg.covered (n := b.start - 1) (by omega) (by omega)
      obtain ⟨j, hj, hjn⟩ := hstart
      have := hrecent j hj
      omega
    · by_contra hle
      exact hg.missing (hwindow b.start hg.le_start (by omega))
  have harrive := hg.arrive (n := origin stream + k) (by omega) hwindow
  rw [arrivedAt_append_singleton]
  rw [itemAt_origin_add] at harrive
  rw [← hnear] at harrive ⊢
  cases hacc : accept 64 b (nearest b.start (stream k).seqNum) (stream k) with
  | none =>
      rw [hacc] at harrive
      rw [arrive_of_accept hacc, Option.getD_none, List.append_nil, Set.insert_eq_of_mem harrive]
      exact hg
  | some r =>
      obtain ⟨b', out'⟩ := r
      rw [hacc] at harrive
      rw [arrive_of_accept hacc, Option.getD_some]
      exact harrive.2

/-- **Runs.** -/
theorem gapless_run {es : List (RxEvent α)}
    (hseq : ∀ k : ℕ, Denotes (origin stream + k) (stream k).seqNum) (hfresh : Fresh s.ctrl)
    (h : runRx s es = .ok s') (hes : ∀ e ∈ es, e.ordinary = true ∧ e.isTimeout = false) :
    ∀ ks, InWindow ks → es.filterMap RxEvent.arrival? = ks.map stream →
      (ks = [] ∧ Fresh s'.ctrl ∧ s'.mpdus = s.mpdus) ∨ ∃ out b, Follows s s' out b
        ∧ Resequencer.Gapless (origin stream) (itemAt stream) (arrivedAt stream ks) out b := by
  refine Run.run_induction (P := fun es s' =>
    (∀ e ∈ es, e.ordinary = true ∧ e.isTimeout = false) →
    ∀ ks, InWindow ks → es.filterMap RxEvent.arrival? = ks.map stream →
      (ks = [] ∧ Fresh s'.ctrl ∧ s'.mpdus = s.mpdus) ∨ ∃ out b, Follows s s' out b
        ∧ Resequencer.Gapless (origin stream) (itemAt stream) (arrivedAt stream ks) out b)
    (fun _ ks _ harrivals => Or.inl ⟨List.map_eq_nil_iff.mp harrivals.symm, hfresh, rfl⟩)
    (fun es t e t' _ ih hstep hes ks hks harrivals => ?_) h hes
  have ih := ih fun e he => hes e (List.mem_append_left _ he)
  obtain ⟨he, htimeout⟩ := hes e (by simp)
  rw [List.filterMap_append] at harrivals
  cases e with
  | recv frame =>
      rcases List.eq_nil_or_concat ks with rfl | ⟨ks, k, rfl⟩
      · simp [RxEvent.arrival?] at harrivals
      rw [List.concat_eq_append, List.map_append] at harrivals
      rw [List.concat_eq_append] at hks ⊢
      obtain ⟨hbefore, hlast⟩ := List.append_inj' harrivals rfl
      obtain rfl : frame = stream k := by simpa [RxEvent.arrival?] using hlast
      rcases ih ks hks.of_append hbefore with ⟨rfl, hf, hsame⟩ | ⟨out, b, hfollows, hg⟩
      · obtain rfl : k = 0 := hks.first k rfl
        have hnext := hf.step_frame hstep
        refine Or.inr ⟨_, _, ⟨hnext.models, hnext.ordered, hnext.tagged, hsame ▸ hnext.mpdus⟩, ?_⟩
        have hinit : Resequencer.Gapless (origin stream) (itemAt stream) (arrivedAt stream []) []
            ⟨origin stream, []⟩ := by
          have hnone : arrivedAt stream [] = ∅ :=
            Set.eq_empty_of_forall_notMem (by simp [arrivedAt])
          rw [hnone]
          exact Resequencer.gapless_init
        exact gapless_arrive (hseq 0) hks hinit
      · exact Or.inr ⟨_, _, follows_step hfollows he hstep, gapless_arrive (hseq k) hks hg⟩
  | cancelTimer | expire =>
      rw [show List.filterMap RxEvent.arrival? [_] = ([] : List (RecvFrame α)) from rfl,
        List.append_nil] at harrivals
      refine (ih ks hks harrivals).imp
        (fun ⟨hnil, hf, hsame⟩ =>
          ⟨hnil, (hf.step he rfl hstep).imp_right fun h => h.trans hsame⟩) ?_
      rintro ⟨out, b, hfollows, hg⟩
      exact ⟨_, _, follows_step hfollows he hstep, by simpa [windowStep] using hg⟩
  | timeout _ => cases htimeout
  | bar _ | addBaRsp _ | delba | reorderWow | joinbss => cases he

theorem denotes_origin_add
    (hseq : ∀ k, (stream k).seqNum.toNat = ((stream 0).seqNum.toNat + k) % 4096) (k : ℕ) :
    Denotes (origin stream + k) (stream k).seqNum := by
  have := hseq k
  unfold Denotes origin
  omega

/-- **Runs.** What has been handed on is the stream up to a gap. -/
theorem exists_range {es : List (RxEvent α)} {ks : List ℕ}
    (hdenotes : ∀ k : ℕ, Denotes (origin stream + k) (stream k).seqNum) (hfresh : Fresh s.ctrl)
    (h : runRx s es = .ok s') (hes : ∀ e ∈ es, e.ordinary = true ∧ e.isTimeout = false)
    (hks : InWindow ks) (harrivals : es.filterMap RxEvent.arrival? = ks.map stream) :
    ∃ m, (∀ j < m, j ∈ ks) ∧ m ∉ ks ∧ s'.mpdus = s.mpdus ++ (List.range m).map stream := by
  rcases gapless_run hdenotes hfresh h hes ks hks harrivals with
    ⟨rfl, -, hsame⟩ | ⟨out, b, hfollows, hg⟩
  · exact ⟨0, by simp, by simp, by simpa using hsame⟩
  · have hle := hg.le_start
    refine ⟨(b.start - origin stream).toNat, fun j hj => ?_, fun hm => ?_, ?_⟩
    · obtain ⟨k, hk, heq⟩ := hg.covered (n := origin stream + j) (by omega) (by omega)
      obtain rfl : j = k := by omega
      exact hk
    · exact hg.missing ⟨_, hm, by omega⟩
    · rw [hfollows.mpdus, hg.items]
      simp only [itemAt_origin_add]

end Stream

theorem benchMpdu_seqNum (k : ℕ) :
    (benchMpdu k).seqNum.toNat = ((benchMpdu 0).seqNum.toNat + k) % 4096 := by
  have hof (n : ℕ) : (UInt16.ofNat (n % 4096)).toNat = n % 4096 := by
    rw [UInt16.toNat_ofNat']
    omega
  simp only [benchMpdu, hof]

end Specter
