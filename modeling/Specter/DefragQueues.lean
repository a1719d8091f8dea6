import Mathlib.Data.List.Nodup
import Mathlib.Data.List.Perm.Basic
import Specter.Defrag

/-!
# The queues of the stations

What one event does to the record of a station, and where the frames are
after any number of events: each that came in has been given back to the
pool once, or handed on once, or is in one queue (`slots_conserved`). A
frame that were in none of these would be lost to the driver, which has
no more frames than its pool; one that were in two of them would be used
twice at once.
-/

namespace Specter

open Sealing (Bytes)

variable {α : Type} {self : Adapter α} {hwaddr : Bytes} {sta : StaInfo α}

namespace Adapter

/-! ## Records -/

theorem macAddr_of_getStainfo (h : self.getStainfo hwaddr = some sta) :
    sta.macAddr = hashAddr hwaddr := by
  simpa using List.find?_some h

theorem setSta_stas (sta : StaInfo α) :
    (self.setSta sta).stas = self.stas.map fun s => if s.macAddr = sta.macAddr then sta else s :=
  rfl

theorem getStainfo_setSta (sta : StaInfo α) (hwaddr : Bytes) :
    (self.setSta sta).getStainfo hwaddr
      = (self.getStainfo hwaddr).map fun s => if s.macAddr = sta.macAddr then sta else s := by
  unfold getStainfo setSta
  rw [List.find?_map]
  refine congrArg (Option.map _) (congrArg (List.find? · _) (funext fun s => ?_))
  by_cases h : s.macAddr = sta.macAddr
  · simp [h]
  · simp [h]

theorem getStainfo_setSta_self {old : StaInfo α} (h : self.getStainfo hwaddr = some old)
    (hmac : sta.macAddr = old.macAddr) : (self.setSta sta).getStainfo hwaddr = some sta := by
  rw [getStainfo_setSta, h, Option.map_some, if_pos hmac.symm]

theorem getStainfo_setSta_ne (h : sta.macAddr ≠ hashAddr hwaddr) :
    (self.setSta sta).getStainfo hwaddr = self.getStainfo hwaddr := by
  rw [getStainfo_setSta]
  cases hsta : self.getStainfo hwaddr with
  | none => rfl
  | some s => rw [Option.map_some, if_neg (macAddr_of_getStainfo hsta ▸ Ne.symm h)]

/-- The record of a station stands in one place. -/
theorem exists_stas_eq (h : self.getStainfo hwaddr = some sta) :
    ∃ l₁ l₂, self.stas = l₁ ++ sta :: l₂
      ∧ (∀ sta' : StaInfo α, sta'.macAddr = sta.macAddr →
          (self.setSta sta').stas = l₁ ++ sta' :: l₂)
      ∧ self.stas.filter (fun s => s.macAddr ≠ sta.macAddr) = l₁ ++ l₂ := by
  obtain ⟨l₁, l₂, hstas⟩ := List.append_of_mem (List.mem_of_find?_eq_some h)
  have hnodup := self.nodup
  rw [hstas, List.map_append, List.map_cons, List.nodup_middle, List.nodup_cons,
    ← List.map_append] at hnodup
  have hne : ∀ s ∈ l₁ ++ l₂, s.macAddr ≠ sta.macAddr := fun s hs heq =>
    hnodup.1 (heq ▸ List.mem_map_of_mem hs)
  refine ⟨l₁, l₂, hstas, fun sta' hmac => ?_, ?_⟩
  · have hsame (l : List (StaInfo α)) (hl : ∀ s ∈ l, s ∈ l₁ ++ l₂) :
        (l.map fun s => if s.macAddr = sta'.macAddr then sta' else s) = l :=
      (List.map_congr_left fun s hs => if_neg (hmac ▸ hne s (hl s hs))).trans (List.map_id' l)
    rw [setSta_stas, hstas, List.map_append, List.map_cons, if_pos hmac.symm,
      hsame l₁ fun s hs => List.mem_append_left _ hs,
      hsame l₂ fun s hs => List.mem_append_right _ hs]
  · rw [hstas, List.filter_append, List.filter_cons_of_neg (by simp), ← List.filter_append,
      List.filter_eq_self]
    simpa using hne

theorem getStainfo_of_defragSta {frame : RecvFrameHdr α} (h : self.defragSta frame = some sta) :
    self.getStainfo frame.attrib.ta = some sta ∨
      self.getStainfo frame.attrib.ta = none ∧ self.getStainfo bcAddr = some sta
        ∧ frame.frameType ≠ 8 := by
  unfold defragSta at h
  split at h
  · next s hs => exact Or.inl (hs.trans h)
  · next hnone =>
      split_ifs at h with htype
      exact Or.inr ⟨hnone, h, htype⟩

@[simp] theorem hand_stas (micOk : Bool) (frame : RecvFrameHdr α) :
    (self.hand micOk frame).stas = self.stas := by
  unfold hand
  split <;> rfl

end Adapter

/-! ## What a frame does -/

def RecvFrameHdr.IsFragment (frame : RecvFrameHdr α) : Prop :=
  frame.attrib.mfrag = true ∨ frame.attrib.fragNum ≠ 0

/-- `recvframe_chk_defrag`, case by case. -/
inductive Received (micOk : Bool) (self : Adapter α) (frame : RecvFrameHdr α) :
    Adapter α → Prop
  | passes (h : ¬ frame.IsFragment) : Received micOk self frame (self.hand micOk frame)
  | drops (h : frame.IsFragment)
      (hnone : isMcast frame.attrib.ra = true ∨ self.defragSta frame = none) :
      Received micOk self frame (self.free [frame.slot])
  | starts {sta : StaInfo α} (hsta : self.defragSta frame = some sta)
      (hra : isMcast frame.attrib.ra = false) (hmore : frame.attrib.mfrag = true)
      (hfirst : frame.attrib.fragNum = 0) :
      Received micOk self frame ((self.free (sta.defragQ.map RecvFrameHdr.slot)).setSta
        { sta with defragQ := [{ frame with keytrack := sta.keytrack }] })
  | waits {sta : StaInfo α} (hsta : self.defragSta frame = some sta)
      (hra : isMcast frame.attrib.ra = false) (hmore : frame.attrib.mfrag = true)
      (hfirst : frame.attrib.fragNum ≠ 0) :
      Received micOk self frame (self.setSta
        { sta with defragQ := sta.defragQ ++ [{ frame with keytrack := sta.keytrack }] })
  | fails {sta : StaInfo α} {defragQ : List (RecvFrameHdr α)}
      (hsta : self.defragSta frame = some sta) (hra : isMcast frame.attrib.ra = false)
      (hmore : frame.attrib.mfrag = false) (hfirst : frame.attrib.fragNum ≠ 0)
      (hq : defragQ = sta.defragQ ++ [{ frame with keytrack := sta.keytrack }])
      (hdefrag : recvframeDefrag defragQ = none) :
      Received micOk self frame
        ((self.setSta { sta with defragQ := [] }).free (defragQ.map RecvFrameHdr.slot))
  | joins {sta : StaInfo α} {defragQ : List (RecvFrameHdr α)} {whole : RecvFrameHdr α}
      (hsta : self.defragSta frame = some sta) (hra : isMcast frame.attrib.ra = false)
      (hmore : frame.attrib.mfrag = false) (hfirst : frame.attrib.fragNum ≠ 0)
      (hq : defragQ = sta.defragQ ++ [{ frame with keytrack := sta.keytrack }])
      (hdefrag : recvframeDefrag defragQ = some whole) :
      Received micOk self frame (((self.setSta { sta with defragQ := [] }).free
        (defragQ.tail.map RecvFrameHdr.slot)).hand micOk whole)

theorem received_chkDefrag (micOk : Bool) (self : Adapter α)
    (frame : RecvFrameHdr α) :
    Received micOk self frame (recvframeChkDefrag micOk self frame) := by
  have hiff : ¬ (frame.attrib.mfrag = false ∧ frame.attrib.fragNum = 0) ↔ frame.IsFragment := by
    rw [RecvFrameHdr.IsFragment, not_and_or, Bool.not_eq_false]
  unfold recvframeChkDefrag
  split_ifs with hwhole hra
  · exact .passes fun h => hiff.mpr h hwhole
  · exact .drops (hiff.mp hwhole) (Or.inl hra)
  · have hra := Bool.eq_false_iff.mpr hra
    cases hsta : self.defragSta frame with
    | none => exact .drops (hiff.mp hwhole) (Or.inr hsta)
    | some sta =>
        dsimp only
        split_ifs with hmore hfirst
        · exact .starts hsta hra hmore hfirst
        · exact .waits hsta hra hmore hfirst
        · have hmore := Bool.eq_false_iff.mpr hmore
          have hfirst : frame.attrib.fragNum ≠ 0 := fun h => hwhole ⟨hmore, h⟩
          split
          · next hdefrag => exact .fails hsta hra hmore hfirst rfl hdefrag
          · next hdefrag => exact .joins hsta hra hmore hfirst rfl hdefrag

/-! ## Joining -/

section Joining

variable {prframe next whole : RecvFrameHdr α} {rest : List (RecvFrameHdr α)} {curPn : UInt64}
  {curfragnum : UInt8}

/-- The payload of a fragment, and its ICV. -/
def RecvFrameHdr.stripped (frame : RecvFrameHdr α) : RecvFrameHdr α :=
  frame.pull (frame.attrib.hdrlen + frame.attrib.ivLen).toNat

theorem defragLoop_cons_eq_some_iff :
    defragLoop prframe curPn curfragnum (next :: rest) = some whole ↔
      (next.hasPn = true → next.pn = curPn + 1) ∧ prframe.keytrack = next.keytrack
        ∧ curfragnum = next.attrib.fragNum ∧ next.stripped.data.length ≤ prframe.room
        ∧ defragLoop (prframe.append next.stripped) (if next.hasPn then next.pn else curPn)
            (curfragnum + 1) rest = some whole := by
  simp only [defragLoop, Option.ite_none_left_eq_some, not_and, not_not, Nat.not_lt,
    RecvFrameHdr.stripped]

theorem recvframeDefrag_cons_eq_some_iff :
    recvframeDefrag (prframe :: rest) = some whole ↔ prframe.attrib.fragNum = 0
      ∧ defragLoop prframe (if prframe.hasPn then prframe.pn else 0) 1 rest = some whole := by
  simp only [recvframeDefrag, Option.ite_none_left_eq_some, not_not]

theorem append_frame (prframe payload : RecvFrameHdr α) :
    (prframe.append payload).slot = prframe.slot
      ∧ (prframe.append payload).keytrack = prframe.keytrack := by
  unfold RecvFrameHdr.append RecvFrameHdr.put RecvFrameHdr.pullTail
  split_ifs <;> exact ⟨rfl, rfl⟩

theorem slot_of_defragLoop (h : defragLoop prframe curPn curfragnum rest = some whole) :
    whole.slot = prframe.slot := by
  induction rest generalizing prframe curPn curfragnum with
  | nil => exact congrArg _ (Option.some.inj h).symm
  | cons next rest ih =>
      obtain ⟨-, -, -, -, h⟩ := defragLoop_cons_eq_some_iff.mp h
      exact (ih h).trans (append_frame prframe _).1

end Joining

/-! ## Every frame is somewhere -/

def StaInfo.slots (sta : StaInfo α) : List α := sta.defragQ.map RecvFrameHdr.slot

/-- Where frames are: given back, handed on, or in a queue. -/
def Adapter.slots (self : Adapter α) : List α :=
  self.freed ++ (self.returned.map RecvFrameHdr.slot ++ self.stas.flatMap StaInfo.slots)

section Count

variable [DecidableEq α] (x : α)

theorem Adapter.count_free (self : Adapter α) (slots : List α) :
    (self.free slots).slots.count x = slots.count x + self.slots.count x := by
  simp only [Adapter.slots, Adapter.free, List.count_append]
  omega

theorem Adapter.count_hand (self : Adapter α) (micOk : Bool)
    (frame : RecvFrameHdr α) :
    (self.hand micOk frame).slots.count x = [frame.slot].count x + self.slots.count x := by
  unfold Adapter.hand
  split
  · exact self.count_free x _
  · next frame' h =>
      have hslot : frame'.slot = frame.slot := by
        split_ifs at h
        · unfold recvframeChkmic at h
          split_ifs at h <;> obtain rfl := Option.some.inj h
          · unfold RecvFrameHdr.pullTail
            split <;> rfl
          · rfl
        · exact congrArg _ (Option.some.inj h).symm
      simp only [Adapter.slots, List.count_append, List.map_append, List.map_singleton, hslot]
      omega

theorem Adapter.count_setSta (h : self.getStainfo hwaddr = some sta) (sta' : StaInfo α)
    (hmac : sta'.macAddr = sta.macAddr) :
    (self.setSta sta').slots.count x + sta.slots.count x
      = self.slots.count x + sta'.slots.count x := by
  obtain ⟨l₁, l₂, hstas, hset, -⟩ := exists_stas_eq h
  simp only [Adapter.slots, hset sta' hmac, hstas, List.flatMap_append, List.flatMap_cons,
    List.count_append]
  simp only [Adapter.setSta]
  omega

/-- **Step.** The frame that comes in is all that is added. -/
theorem count_received {micOk : Bool} {frame : RecvFrameHdr α} {t : Adapter α}
    (h : Received micOk self frame t) :
    t.slots.count x = self.slots.count x + [frame.slot].count x := by
  have hrecord {sta : StaInfo α} (hsta : self.defragSta frame = some sta) :
      ∃ hwaddr, self.getStainfo hwaddr = some sta := by
    rcases Adapter.getStainfo_of_defragSta hsta with h | ⟨-, h, -⟩
    · exact ⟨_, h⟩
    · exact ⟨_, h⟩
  cases h with
  | passes _ => rw [self.count_hand, Nat.add_comm]
  | drops _ _ => rw [self.count_free, Nat.add_comm]
  | @starts sta hsta _ _ _ =>
      obtain ⟨hwaddr, hsta⟩ := hrecord hsta
      have hfree := self.count_free x (sta.defragQ.map RecvFrameHdr.slot)
      have hset := (self.free (sta.defragQ.map RecvFrameHdr.slot)).count_setSta x hsta
        { sta with defragQ := [{ frame with keytrack := sta.keytrack }] } rfl
      simp only [StaInfo.slots, List.map_singleton] at hset
      omega
  | @waits sta hsta _ _ _ =>
      obtain ⟨hwaddr, hsta⟩ := hrecord hsta
      have hset := self.count_setSta x hsta
        { sta with defragQ := sta.defragQ ++ [{ frame with keytrack := sta.keytrack }] } rfl
      simp only [StaInfo.slots, List.map_append, List.map_singleton, List.count_append] at hset
      omega
  | @fails sta defragQ hsta _ _ _ hq _ =>
      obtain ⟨hwaddr, hsta⟩ := hrecord hsta
      have hset := self.count_setSta x hsta { sta with defragQ := [] } rfl
      rw [Adapter.count_free, hq]
      simp only [StaInfo.slots, List.map_nil, List.count_nil] at hset
      simp only [List.map_append, List.map_singleton, List.count_append]
      omega
  | @joins sta defragQ whole hsta _ _ _ hq hdefrag =>
      obtain ⟨hwaddr, hsta⟩ := hrecord hsta
      have hset := self.count_setSta x hsta { sta with defragQ := [] } rfl
      have hslots : [whole.slot].count x + (defragQ.tail.map RecvFrameHdr.slot).count x
          = (sta.defragQ.map RecvFrameHdr.slot).count x + [frame.slot].count x := by
        have hmap := congrArg (fun q => (q.map RecvFrameHdr.slot).count x) hq
        simp only [List.map_append, List.map_singleton, List.count_append] at hmap
        rw [← hmap]
        cases defragQ with
        | nil => cases hdefrag
        | cons first rest =>
            obtain ⟨-, hloop⟩ := recvframeDefrag_cons_eq_some_iff.mp hdefrag
            rw [slot_of_defragLoop hloop, List.tail_cons, List.map_cons, ← List.count_append]
            rfl
      rw [Adapter.count_hand, Adapter.count_free]
      simp only [StaInfo.slots, List.map_nil, List.count_nil] at hset
      omega

end Count

def DefragEvent.arrival? : DefragEvent α → Option α
  | .recv frame => some frame.slot
  | _ => none

/-- Whatever comes in, from whatever stations, and whatever stations come,
go and get new keys: each frame that came in has been given back once,
or handed on once, or waits in one queue. -/
theorem slots_conserved (michael : Adapter α → RecvFrameHdr α → Bool) {s : Adapter α}
    (es : List (DefragEvent α)) (h : runDefrag michael Adapter.init es = .ok s) :
    s.slots.Perm (es.filterMap DefragEvent.arrival?) := by
  classical
  refine Run.run_induction (P := fun es s => s.slots.Perm (es.filterMap DefragEvent.arrival?))
    (by exact List.Perm.refl _) (fun es s e t _ ih hstep => ?_) h
  refine List.perm_iff_count.mpr fun x => ?_
  have hbefore := ih.count_eq x
  rw [List.filterMap_append, List.count_append, ← hbefore]
  cases e with
  | recv frame =>
      obtain rfl := Except.ok.inj hstep
      exact count_received x (received_chkDefrag (michael s frame) s frame)
  | setStakey addr =>
      simp only [defragStep] at hstep
      split at hstep <;> obtain rfl := Except.ok.inj hstep
      · rfl
      · next sta hsta =>
          have hset := s.count_setSta x hsta { sta with keytrack := sta.keytrack + 1 } rfl
          simp only [StaInfo.slots] at hset
          simp only [List.filterMap_cons, List.filterMap_nil, DefragEvent.arrival?, List.count_nil]
          omega
  | allocStainfo addr =>
      simp only [defragStep] at hstep
      split_ifs at hstep
      obtain rfl := Except.ok.inj hstep
      rfl
  | freeStainfo addr =>
      simp only [defragStep] at hstep
      split at hstep <;> obtain rfl := Except.ok.inj hstep
      · rfl
      · next sta hsta =>
          obtain ⟨l₁, l₂, hstas, -, hfilter⟩ := Adapter.exists_stas_eq hsta
          rw [hstas] at hfilter
          simp only [Adapter.slots, hfilter, hstas, Adapter.free, List.count_append,
            List.flatMap_append, List.flatMap_cons, StaInfo.slots, List.filterMap_cons,
            List.filterMap_nil, DefragEvent.arrival?, List.count_nil]
          omega

theorem bench_slots_conserved :
    ∃ s, runDefrag (fun _ _ => true) Adapter.init (benchAir ++ [.freeStainfo benchAp]) = .ok s
      ∧ s.slots = [0, 0, 1] ∧ s.slots.Perm [0, 0, 1] :=
  ⟨_, rfl, by decide +kernel,
    slots_conserved (fun _ _ => true) (benchAir ++ [.freeStainfo benchAp]) rfl⟩

end Specter
