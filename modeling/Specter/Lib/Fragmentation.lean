import Mathlib.Data.List.Chain
import Mathlib.Data.List.Pairwise

/-!
# Packets cut into numbered pieces

A sender cuts its packets into pieces and numbers these one after
another, never using a number twice. A receiver sees some of the pieces,
in any order and any number of times. If it joins only pieces with
consecutive numbers, from the first of a packet to one that says it is
the last, then what it joins is one packet (`eq_pieces`).
-/

namespace Fragmentation

variable {β : Type}

structure Piece (β : Type) where
  number : ℕ
  index : ℕ  -- in its packet
  more : Bool  -- whether it is not the last
  body : β
deriving DecidableEq

/-- A packet: the number of its first piece, and what its pieces hold. -/
structure Packet (β : Type) where
  start : ℕ
  bodies : List β

namespace Packet

def pieces (q : Packet β) : List (Piece β) :=
  q.bodies.mapIdx fun k b => ⟨q.start + k, k, decide (k + 1 < q.bodies.length), b⟩

/-- The number after the last of the packet. -/
def stop (q : Packet β) : ℕ := q.start + q.bodies.length

end Packet

/-- Packets in the order in which they were numbered. -/
def Numbered (packets : List (Packet β)) : Prop := packets.Pairwise fun q r => q.stop ≤ r.start

def Sent (packets : List (Packet β)) (p : Piece β) : Prop := ∃ q ∈ packets, p ∈ q.pieces

/-- How pieces may be joined. -/
def Follows (p p' : Piece β) : Prop :=
  p'.number = p.number + 1 ∧ p'.index = p.index + 1 ∧ p.more = true

/-! ## The pieces of a packet -/

variable {q : Packet β} {p : Piece β} {k : ℕ}

theorem getElem?_pieces_eq_some_iff :
    q.pieces[k]? = some p ↔ p.number = q.start + k ∧ p.index = k
      ∧ (p.more = true ↔ k + 1 < q.bodies.length) ∧ q.bodies[k]? = some p.body := by
  obtain ⟨number, index, more, body⟩ := p
  rw [Packet.pieces, List.getElem?_mapIdx, Option.map_eq_some_iff]
  constructor
  · rintro ⟨b, hb, heq⟩
    obtain ⟨rfl, rfl, rfl, rfl⟩ := Piece.mk.inj heq
    exact ⟨rfl, rfl, decide_eq_true_iff, hb⟩
  · rintro ⟨hnumber, hindex, hmore, hbody⟩
    have hdec : decide (k + 1 < q.bodies.length) = more :=
      Bool.eq_iff_iff.mpr (decide_eq_true_iff.trans hmore.symm)
    exact ⟨body, hbody, (Piece.mk.injEq ..).mpr ⟨hnumber.symm, hindex.symm, hdec, rfl⟩⟩

@[simp] theorem length_pieces : q.pieces.length = q.bodies.length := List.length_mapIdx

@[simp] theorem map_body_pieces : q.pieces.map Piece.body = q.bodies := by
  refine List.ext_getElem? fun k => ?_
  rw [List.getElem?_map, Packet.pieces, List.getElem?_mapIdx, Option.map_map]
  exact Option.map_id'

theorem number_of_mem (h : p ∈ q.pieces) : q.start ≤ p.number ∧ p.number < q.stop := by
  obtain ⟨k, hk⟩ := List.mem_iff_getElem?.mp h
  obtain ⟨hnumber, -, -, hbody⟩ := getElem?_pieces_eq_some_iff.mp hk
  obtain ⟨hlt, -⟩ := List.getElem?_eq_some_iff.mp hbody
  rw [Packet.stop]
  omega

theorem getElem?_of_mem (h : p ∈ q.pieces) (hk : p.number = q.start + k) :
    q.pieces[k]? = some p := by
  obtain ⟨j, hj⟩ := List.mem_iff_getElem?.mp h
  obtain ⟨hnumber, -⟩ := getElem?_pieces_eq_some_iff.mp hj
  obtain rfl : j = k := by omega
  exact hj

theorem chain_pieces (q : Packet β) : q.pieces.IsChain Follows := by
  refine List.isChain_iff_getElem.mpr fun k hk => ?_
  obtain ⟨hnumber, hindex, hmore, -⟩ := getElem?_pieces_eq_some_iff.mp
    (List.getElem?_eq_getElem (Nat.lt_of_succ_lt hk))
  obtain ⟨hnumber', hindex', -, -⟩ := getElem?_pieces_eq_some_iff.mp
    (List.getElem?_eq_getElem hk)
  rw [length_pieces] at hk
  exact ⟨by omega, by omega, hmore.mpr hk⟩

/-! ## Joining -/

variable {packets : List (Packet β)} {ps : List (Piece β)}

/-- No two packets have a number in common. -/
theorem Numbered.eq_of_number (h : Numbered packets) {r : Packet β} (hq : q ∈ packets)
    (hr : r ∈ packets) {n : ℕ} (hnq : q.start ≤ n ∧ n < q.stop) (hnr : r.start ≤ n ∧ n < r.stop) :
    q = r := by
  by_contra hne
  have hsymm : Std.Symm fun q r : Packet β => q.stop ≤ r.start ∨ r.stop ≤ q.start :=
    ⟨fun _ _ => Or.symm⟩
  have hapart : packets.Pairwise fun q r => q.stop ≤ r.start ∨ r.stop ≤ q.start := h.imp Or.inl
  have := hapart.forall hq hr hne
  omega

/-- From a piece of a packet on, what may be joined up to a last piece is
the rest of the packet. -/
theorem eq_drop_pieces (h : Numbered packets) (hq : q ∈ packets) (hsent : ∀ p ∈ ps, Sent packets p)
    (hchain : ps.IsChain Follows) (hlast : ∀ p ∈ ps.getLast?, p.more = false)
    (hhead : ps.head? = q.pieces[k]?) (hk : k < q.pieces.length) : ps = q.pieces.drop k := by
  induction ps generalizing k with
  | nil =>
      rw [List.head?_nil, List.getElem?_eq_getElem hk] at hhead
      cases hhead
  | cons p ps ih =>
      have hp : q.pieces[k]? = some p := hhead.symm
      obtain ⟨hnumber, -, hmore, -⟩ := getElem?_pieces_eq_some_iff.mp hp
      rw [List.drop_eq_getElem_cons hk,
        Option.some.inj ((List.getElem?_eq_getElem hk).symm.trans hp)]
      refine congrArg (p :: ·) ?_
      cases ps with
      | nil =>
          have hend : ¬ k + 1 < q.bodies.length := fun hlt => by
            rw [hlast p rfl] at hmore
            exact Bool.false_ne_true (hmore.mpr hlt)
          exact (List.drop_eq_nil_of_le (by rw [length_pieces]; omega)).symm
      | cons p' ps =>
          obtain ⟨⟨hnext, -, hpmore⟩, hrest⟩ := List.isChain_cons_cons.mp hchain
          have hlt := hmore.mp hpmore
          obtain ⟨r, hr, hmem⟩ := hsent p' (by simp)
          obtain rfl : q = r :=
            h.eq_of_number hq hr (n := p'.number) ⟨by omega, by rw [Packet.stop]; omega⟩
              (number_of_mem hmem)
          exact ih (fun p hp => hsent p (List.mem_cons_of_mem _ hp)) hrest
            (fun p hp => hlast p (by rwa [List.getLast?_cons_cons]))
            (getElem?_of_mem hmem (by omega)).symm (by rwa [length_pieces])

/-- **Joining.** What may be joined from a first piece to a last one is a
packet. -/
theorem eq_pieces (h : Numbered packets) (hsent : ∀ p ∈ ps, Sent packets p)
    (hchain : ps.IsChain Follows) (hlast : ∀ p ∈ ps.getLast?, p.more = false)
    (hne : ps ≠ []) (hfirst : ∀ p ∈ ps.head?, p.index = 0) : ∃ q ∈ packets, ps = q.pieces := by
  obtain ⟨p, ps, rfl⟩ := List.exists_cons_of_ne_nil hne
  obtain ⟨q, hq, hmem⟩ := hsent p List.mem_cons_self
  obtain ⟨k, hk⟩ := List.mem_iff_getElem?.mp hmem
  obtain ⟨hlt, -⟩ := List.getElem?_eq_some_iff.mp hk
  obtain ⟨-, hindex, -⟩ := getElem?_pieces_eq_some_iff.mp hk
  obtain rfl : k = 0 := hindex.symm.trans (hfirst p rfl)
  exact ⟨q, hq, eq_drop_pieces h hq hsent hchain hlast hk.symm hlt⟩

end Fragmentation
