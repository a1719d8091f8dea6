import Mathlib.Algebra.GroupWithZero.Nat
import Mathlib.Data.List.Chain
import Specter.DefragQueues
import Specter.Lib.Fragmentation

/-!
# Joining fragments

What a frame is to the one above it, its header and its payload, and what
`recvframe_defrag` makes of a queue: it gives a frame exactly if each
fragment follows the one before it (`Joins`) and there is room, and then
one with the header of the first and the payloads of all
(`extends_of_defragLoop`).
-/

namespace Specter

open Sealing (Bytes)
open Fragmentation (Piece Follows)

variable {α : Type}

/-! ## Frames -/

namespace RecvFrameHdr

/-- The length of the header and the IV. -/
def offset (frame : RecvFrameHdr α) : ℕ :=
  frame.attrib.hdrlen.toNat + frame.attrib.ivLen.toNat

structure WellFormed (frame : RecvFrameHdr α) : Prop where
  offset_lt : frame.offset < 256
  le_length : frame.offset + frame.attrib.icvLen.toNat ≤ frame.data.length

def header (frame : RecvFrameHdr α) : Bytes := frame.data.take frame.offset

/-- What is between the header and the ICV. -/
def payload (frame : RecvFrameHdr α) : Bytes :=
  (frame.data.drop frame.offset).take
    (frame.data.length - frame.offset - frame.attrib.icvLen.toNat)

variable {frame next whole : RecvFrameHdr α}

theorem stripped_eq (h : frame.WellFormed) :
    frame.stripped = { frame with data := frame.data.drop frame.offset } := by
  have hoffset : (frame.attrib.hdrlen + frame.attrib.ivLen).toNat = frame.offset := by
    rw [UInt8.toNat_add]
    exact Nat.mod_eq_of_lt h.offset_lt
  have := h.le_length
  rw [stripped, pull, hoffset, if_neg (by omega)]

/-- `whole` is `frame` with `bytes` after its payload. -/
structure Extends (frame whole : RecvFrameHdr α) (bytes : Bytes) : Prop where
  wellFormed : whole.WellFormed
  attrib : { whole.attrib with icvLen := frame.attrib.icvLen } = frame.attrib
  keytrack : whole.keytrack = frame.keytrack
  header : whole.header = frame.header
  payload : whole.payload = frame.payload ++ bytes
  size : whole.data.length + whole.room = frame.data.length + frame.room

theorem Extends.encrypt {bytes : Bytes} (h : frame.Extends whole bytes) :
    whole.attrib.encrypt = frame.attrib.encrypt := by
  have := congrArg RxPktAttrib.encrypt h.attrib
  exact this

theorem Extends.refl (h : frame.WellFormed) : frame.Extends frame [] :=
  ⟨h, rfl, rfl, rfl, (List.append_nil _).symm, rfl⟩

theorem Extends.trans {b c : Bytes} (h : frame.Extends next b) (h' : next.Extends whole c) :
    frame.Extends whole (b ++ c) where
  wellFormed := h'.wellFormed
  attrib := by rw [← h.attrib, ← h'.attrib]
  keytrack := h'.keytrack.trans h.keytrack
  header := h'.header.trans h.header
  payload := by rw [h'.payload, h.payload, List.append_assoc]
  size := h'.size.trans h.size

/-- A fragment is joined within the buffer. -/
theorem extends_append (h : frame.WellFormed) (h' : next.WellFormed)
    (hroom : next.stripped.data.length ≤ frame.room) :
    frame.Extends (frame.append next.stripped) next.payload := by
  rw [stripped_eq h'] at hroom ⊢
  have hlen := h.le_length
  have hlen' := h'.le_length
  simp only [List.length_drop] at hroom
  have happend : frame.append { next with data := next.data.drop next.offset }
      = RecvFrameHdr.setIcvLen { frame with
          data := frame.data.take (frame.data.length - frame.attrib.icvLen.toNat)
            ++ next.data.drop next.offset
          room := frame.room + frame.attrib.icvLen.toNat - (next.data.length - next.offset) }
        next.attrib.icvLen := by
    rw [append, pullTail, if_neg (by omega), put,
      if_neg (by simp only [List.length_drop]; omega)]
    simp only [List.length_drop]
  rw [happend]
  have htake : (frame.data.take (frame.data.length - frame.attrib.icvLen.toNat)).length
      = frame.data.length - frame.attrib.icvLen.toNat := List.length_take_of_le (Nat.sub_le ..)
  constructor
  · refine ⟨h.offset_lt, ?_⟩
    change frame.offset + next.attrib.icvLen.toNat ≤ (_ ++ _ : Bytes).length
    rw [List.length_append, htake, List.length_drop]
    omega
  · rfl
  · rfl
  · change (_ ++ _ : Bytes).take frame.offset = _
    rw [List.take_append_of_le_length (by omega), List.take_take, Nat.min_eq_left (by omega)]
    rfl
  · change ((_ ++ _ : Bytes).drop frame.offset).take
      ((_ ++ _ : Bytes).length - frame.offset - next.attrib.icvLen.toNat) = _
    have hpayload : (frame.data.take (frame.data.length - frame.attrib.icvLen.toNat)).drop
        frame.offset = frame.payload := by
      rw [List.drop_take, Nat.sub_right_comm]
      rfl
    have hlength := congrArg List.length hpayload
    rw [List.length_drop, htake] at hlength
    rw [List.length_append, htake, List.length_drop, List.drop_append_of_le_length (by omega),
      hpayload, List.take_append, List.take_of_length_le (by omega)]
    refine congrArg (frame.payload ++ ·) (congrArg (List.take · (next.data.drop next.offset)) ?_)
    omega
  · change (_ ++ _ : Bytes).length + _ = _
    rw [List.length_append, htake, List.length_drop]
    change _ + (frame.room + frame.attrib.icvLen.toNat - (next.data.length - next.offset)) = _
    omega

theorem room_le_append (frame payload : RecvFrameHdr α) :
    frame.room ≤ (frame.append payload).room + payload.data.length := by
  unfold append put pullTail setIcvLen
  split_ifs <;> dsimp only <;> omega

theorem pn_lt (frame : RecvFrameHdr α) : frame.pn.toNat < 2 ^ 48 := by
  unfold pn ccmph2Pn
  rw [UInt64.toNat_or, UInt64.toNat_and, UInt64.toNat_shiftRight]
  refine Nat.or_lt_two_pow ?_ ?_
  · exact Nat.lt_of_le_of_lt Nat.and_le_right (by decide)
  · rw [Nat.shiftRight_eq_div_pow]
    exact Nat.div_lt_of_lt_mul (UInt64.toNat_lt _)

/-- A frame as a piece of a packet. Where packet numbers are not looked at
the fragments of a packet have their own. -/
def piece (frame : RecvFrameHdr α) : Piece Bytes where
  number := if frame.hasPn then frame.pn.toNat else frame.attrib.fragNum.toNat
  index := frame.attrib.fragNum.toNat
  more := frame.attrib.mfrag
  body := frame.payload

/-- What the loop asks of two fragments. -/
def Joins (frame next : RecvFrameHdr α) : Prop :=
  frame.keytrack = next.keytrack ∧ frame.attrib.fragNum + 1 = next.attrib.fragNum
    ∧ (frame.hasPn = true → next.hasPn = true → next.pn = frame.pn + 1)

theorem joins_iff_follows (hkey : frame.keytrack = next.keytrack) (hpn : frame.hasPn = next.hasPn)
    (hmore : frame.attrib.mfrag = true) : frame.Joins next ↔ Follows frame.piece next.piece := by
  have hlt : frame.attrib.fragNum.toNat < 16 := UInt8.lt_iff_toNat_lt.mp frame.attrib.fragNum_lt
  have hindex : frame.attrib.fragNum + 1 = next.attrib.fragNum
      ↔ next.attrib.fragNum.toNat = frame.attrib.fragNum.toNat + 1 := by
    rw [← UInt8.toNat_inj, UInt8.toNat_add, UInt8.toNat_one]
    omega
  have hpnlt := frame.pn_lt
  have hnumber : next.pn = frame.pn + 1 ↔ next.pn.toNat = frame.pn.toNat + 1 := by
    rw [← UInt64.toNat_inj, UInt64.toNat_add, UInt64.toNat_one]
    omega
  simp only [Joins, Follows, piece, hkey, hindex, hnumber, hpn, hmore, true_and, and_true]
  by_cases h : next.hasPn = true
  · simp only [h, true_implies, if_true]
    exact and_comm
  · simp only [h, false_implies, Bool.false_eq_true, if_false, and_true, and_self]

end RecvFrameHdr

/-! ## The loop -/

section Loop

variable {prev prframe whole : RecvFrameHdr α} {rest : List (RecvFrameHdr α)} {curPn : UInt64}
  {curfragnum : UInt8}

theorem joins_of_defragLoop (hkey : prframe.keytrack = prev.keytrack)
    (hcur : curfragnum = prev.attrib.fragNum + 1) (hpn : prev.hasPn = true → curPn = prev.pn)
    (h : defragLoop prframe curPn curfragnum rest = some whole) :
    (prev :: rest).IsChain RecvFrameHdr.Joins := by
  induction rest generalizing prev prframe curPn curfragnum with
  | nil => exact List.IsChain.singleton _
  | cons next rest ih =>
      obtain ⟨hnext, hsame, hnum, -, h⟩ := defragLoop_cons_eq_some_iff.mp h
      have hjoins : prev.Joins next :=
        ⟨hkey.symm.trans hsame, hcur.symm.trans hnum, fun hp hn => hpn hp ▸ hnext hn⟩
      refine List.IsChain.cons_cons hjoins (ih ?_ ?_ (fun hn => if_pos hn) h)
      · exact (append_frame prframe _).2.trans hsame
      · rw [hnum]

theorem extends_of_defragLoop (hwf : prframe.WellFormed) (hrest : ∀ f ∈ rest, f.WellFormed)
    (h : defragLoop prframe curPn curfragnum rest = some whole) :
    prframe.Extends whole (rest.map RecvFrameHdr.payload).flatten := by
  induction rest generalizing prframe curPn curfragnum with
  | nil =>
      obtain rfl := Option.some.inj h
      exact .refl hwf
  | cons next rest ih =>
      obtain ⟨-, -, -, hroom, h⟩ := defragLoop_cons_eq_some_iff.mp h
      have hnext := RecvFrameHdr.extends_append hwf (hrest next List.mem_cons_self) hroom
      exact hnext.trans (ih hnext.wellFormed (fun f hf => hrest f (List.mem_cons_of_mem _ hf)) h)

theorem exists_defragLoop {b : Bool} (hb : ∀ f ∈ prev :: rest, f.hasPn = b)
    (hchain : (prev :: rest).IsChain RecvFrameHdr.Joins) (hkey : prframe.keytrack = prev.keytrack)
    (hcur : curfragnum = prev.attrib.fragNum + 1) (hpn : prev.hasPn = true → curPn = prev.pn)
    (hroom : (rest.map fun f => f.stripped.data.length).sum ≤ prframe.room) :
    ∃ whole, defragLoop prframe curPn curfragnum rest = some whole := by
  induction rest generalizing prev prframe curPn curfragnum with
  | nil => exact ⟨_, rfl⟩
  | cons next rest ih =>
      obtain ⟨⟨hsame, hnum, hnext⟩, hchain⟩ := List.isChain_cons_cons.mp hchain
      rw [List.map_cons, List.sum_cons] at hroom
      have happend := RecvFrameHdr.room_le_append prframe next.stripped
      obtain ⟨whole, h⟩ : ∃ whole, defragLoop (prframe.append next.stripped)
          (if next.hasPn then next.pn else curPn) (curfragnum + 1) rest = some whole :=
        ih (fun f hf => hb f (List.mem_cons_of_mem _ hf)) hchain
          ((append_frame prframe _).2.trans (hkey.trans hsame)) (by rw [hcur, hnum])
          (fun hn => if_pos hn) (by omega)
      refine ⟨whole, defragLoop_cons_eq_some_iff.mpr
        ⟨fun hn => ?_, hkey.trans hsame, hcur.trans hnum, by omega, h⟩⟩
      have hprev : prev.hasPn = true :=
        (hb prev List.mem_cons_self).trans ((hb next (by simp)).symm.trans hn)
      rw [hpn hprev]
      exact hnext hprev hn

/-- **Defragmentation.** The queue holds fragments that follow each other
from a first one, and what is given has the payloads of all. -/
theorem recvframeDefrag_spec {q : List (RecvFrameHdr α)} (hwf : ∀ f ∈ q, f.WellFormed)
    (h : recvframeDefrag q = some whole) :
    ∃ first rest, q = first :: rest ∧ first.attrib.fragNum = 0 ∧ q.IsChain RecvFrameHdr.Joins
      ∧ first.Extends whole (rest.map RecvFrameHdr.payload).flatten := by
  cases q with
  | nil => cases h
  | cons first rest =>
      obtain ⟨hzero, hloop⟩ := recvframeDefrag_cons_eq_some_iff.mp h
      refine ⟨first, rest, rfl, hzero, ?_, ?_⟩
      · exact joins_of_defragLoop rfl (by rw [hzero]; rfl) (fun hn => if_pos hn) hloop
      · exact extends_of_defragLoop (hwf first List.mem_cons_self)
          (fun f hf => hwf f (List.mem_cons_of_mem _ hf)) hloop

theorem exists_recvframeDefrag {b : Bool} (hb : ∀ f ∈ prev :: rest, f.hasPn = b)
    (hzero : prev.attrib.fragNum = 0) (hchain : (prev :: rest).IsChain RecvFrameHdr.Joins)
    (hroom : (rest.map fun f => f.stripped.data.length).sum ≤ prev.room) :
    ∃ whole, recvframeDefrag (prev :: rest) = some whole := by
  obtain ⟨whole, h⟩ : ∃ whole,
      defragLoop prev (if prev.hasPn then prev.pn else 0) 1 rest = some whole :=
    exists_defragLoop hb hchain rfl (by rw [hzero]; rfl) (fun hn => if_pos hn) hroom
  exact ⟨whole, recvframeDefrag_cons_eq_some_iff.mpr ⟨hzero, h⟩⟩

theorem fragNum_of_joins (h : (prev :: rest).IsChain RecvFrameHdr.Joins) :
    (prev :: rest).map (fun f => f.attrib.fragNum.toNat)
      = List.range' prev.attrib.fragNum.toNat (rest.length + 1) := by
  induction rest generalizing prev with
  | nil => rfl
  | cons next rest ih =>
      obtain ⟨⟨-, hnum, -⟩, hchain⟩ := List.isChain_cons_cons.mp h
      have hlt : prev.attrib.fragNum.toNat < 16 := UInt8.lt_iff_toNat_lt.mp prev.attrib.fragNum_lt
      have hnext : next.attrib.fragNum.toNat = prev.attrib.fragNum.toNat + 1 := by
        rw [← hnum, UInt8.toNat_add, UInt8.toNat_one]
        omega
      rw [List.map_cons, ih hchain, hnext]
      rfl

theorem keytrack_of_joins (h : (prev :: rest).IsChain RecvFrameHdr.Joins) :
    ∀ f ∈ prev :: rest, f.keytrack = prev.keytrack := by
  induction rest generalizing prev with
  | nil => simp
  | cons next rest ih =>
      obtain ⟨⟨hkey, -⟩, hchain⟩ := List.isChain_cons_cons.mp h
      intro f hf
      rcases List.mem_cons.mp hf with rfl | hf
      · rfl
      · exact (ih hchain f hf).trans hkey.symm

end Loop

end Specter
