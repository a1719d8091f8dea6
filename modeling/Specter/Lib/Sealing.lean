import Mathlib.Data.List.Basic

/-!
# Sealing a text with a key stream and a tag

The text is combined with a key stream, byte by byte, and goes with a
tag computed from the text, combined with a second stream. Opening
undoes both and compares the tags. Whatever the streams and the tag are,
what opens is exactly what sealing has made (`openText_eq_some_iff`).
-/

namespace Sealing

abbrev Bytes := List UInt8

/-- The bytes of `data`, each combined with the byte of the stream at its
place. -/
def xorWith (stream : ℕ → UInt8) (data : Bytes) : Bytes := data.mapIdx fun i b => b ^^^ stream i

@[simp] theorem length_xorWith (stream : ℕ → UInt8) (data : Bytes) :
    (xorWith stream data).length = data.length := List.length_mapIdx

@[simp] theorem xorWith_nil (stream : ℕ → UInt8) : xorWith stream [] = [] := rfl

theorem xorWith_cons (stream : ℕ → UInt8) (b : UInt8) (data : Bytes) :
    xorWith stream (b :: data) = (b ^^^ stream 0) :: xorWith (fun i => stream (i + 1)) data :=
  List.mapIdx_cons

theorem xorWith_append (stream : ℕ → UInt8) (data data' : Bytes) :
    xorWith stream (data ++ data')
      = xorWith stream data ++ xorWith (fun i => stream (i + data.length)) data' :=
  List.mapIdx_append

@[simp] theorem xorWith_xorWith (stream : ℕ → UInt8) (data : Bytes) :
    xorWith stream (xorWith stream data) = data := by
  induction data generalizing stream with
  | nil => rfl
  | cons b data ih => rw [xorWith_cons, xorWith_cons, ih, UInt8.xor_assoc, UInt8.xor_self,
      UInt8.xor_zero]

theorem xorWith_eq_iff {stream : ℕ → UInt8} {data data' : Bytes} :
    xorWith stream data = data' ↔ data = xorWith stream data' := by
  constructor
  · rintro rfl
    rw [xorWith_xorWith]
  · rintro rfl
    rw [xorWith_xorWith]

/-- Only the part of the stream that meets the data counts. -/
theorem xorWith_congr {stream stream' : ℕ → UInt8} {data : Bytes}
    (h : ∀ i < data.length, stream i = stream' i) : xorWith stream data = xorWith stream' data := by
  induction data generalizing stream stream' with
  | nil => rfl
  | cons b data ih =>
      rw [xorWith_cons, xorWith_cons, h 0 (Nat.succ_pos _),
        ih fun i hi => h (i + 1) (Nat.succ_lt_succ hi)]

/-- A block of the stream, spelt out. -/
theorem zipWith_xor (data block : Bytes) (h : data.length ≤ block.length) :
    List.zipWith (· ^^^ ·) data block = xorWith (block.getD · 0) data := by
  induction data generalizing block with
  | nil => rfl
  | cons b data ih =>
      cases block with
      | nil => simp at h
      | cons c block =>
          rw [List.zipWith_cons_cons, xorWith_cons, ih block (Nat.le_of_succ_le_succ h)]
          rfl

section

variable (stream tagStream : ℕ → UInt8) (tag : Bytes → Bytes)

def sealText (text : Bytes) : Bytes × Bytes := (xorWith stream text, xorWith tagStream (tag text))

def openText (sealed : Bytes × Bytes) : Option Bytes :=
  let text := xorWith stream sealed.1
  if tag text = xorWith tagStream sealed.2 then some text else none

variable {stream tagStream : ℕ → UInt8} {tag : Bytes → Bytes}

theorem openText_eq_some_iff {text : Bytes} {sealed : Bytes × Bytes} :
    openText stream tagStream tag sealed = some text
      ↔ sealText stream tagStream tag text = sealed := by
  obtain ⟨body, mic⟩ := sealed
  simp only [openText, sealText, Option.ite_none_right_eq_some, Prod.mk.injEq, Option.some.injEq]
  constructor
  · rintro ⟨htag, rfl⟩
    exact ⟨xorWith_xorWith stream body, xorWith_eq_iff.2 htag⟩
  · rintro ⟨rfl, rfl⟩
    rw [xorWith_xorWith, xorWith_xorWith]
    exact ⟨rfl, rfl⟩

end

end Sealing
