import WhyUsb.Ring.Basic

/-!
# The ring as a bounded FIFO of frames

`Holds r pos q` reads the bytes between the cursors as the frames of `q`, each
with its length prefix. A push appends to `q` when prefix and payload fit in
what is left of the buffer, and a pop takes the first frame when the caller's
buffer is large enough; otherwise both leave the ring as it is.
-/

namespace WhyUsb

open Circular Endian

def entry (frame : List UInt8) : List UInt8 := beBytes 4 frame.length ++ frame

def entries (q : List (List UInt8)) : List UInt8 := q.flatMap entry

@[simp] theorem entry_length (frame : List UInt8) : (entry frame).length = 4 + frame.length := by
  simp [entry]

@[simp] theorem entries_nil : entries [] = [] := rfl

@[simp] theorem entries_cons (f : List UInt8) (q : List (List UInt8)) :
    entries (f :: q) = entry f ++ entries q := List.flatMap_cons

@[simp] theorem entries_append (p q : List (List UInt8)) : entries (p ++ q) = entries p ++ entries q :=
  List.flatMap_append

/-- The ring holds the frames `q`, the first of them at absolute position `pos`. -/
structure Holds (r : Ring) (pos : Nat) (q : List (List UInt8)) : Prop where
  tail_eq : r.tail = UInt64.ofNat pos
  head_eq : r.head = UInt64.ofNat (pos + (entries q).length)
  fits : (entries q).length ≤ ringBufferSize
  bytes : Spells ringBufferSize r.data pos (entries q)

theorem holds_nil {r : Ring} (h : r.head = r.tail) : Holds r r.tail.toNat [] where
  tail_eq := UInt64.ofNat_toNat.symm
  head_eq := by rw [h]; exact UInt64.ofNat_toNat.symm
  fits := Nat.zero_le _
  bytes := spells_nil ..

theorem availableSpace_ofNat {a b : Nat} (hba : b ≤ a) (hab : a ≤ b + ringBufferSize) :
    Spsc.availableSpace (UInt64.ofNat a) (UInt64.ofNat b) = ringBufferSize - (a - b) := by
  have hs : ringBufferSize < 2 ^ 64 := by decide
  have hd : UInt64.ofNat a - UInt64.ofNat b = UInt64.ofNat (a - b) := by
    apply UInt64.toNat_inj.mp
    rw [ofNat_sub_toNat hba (by omega), UInt64.toNat_ofNat', Nat.mod_eq_of_lt (by omega)]
  rw [Spsc.availableSpace, hd, ofNat_sub_toNat (by omega) (by omega)]

theorem lenRejected_of_le {len : Nat} (h : len ≤ uint32Max) : Spsc.lenRejected len = false := by
  have hmax : len < 2 ^ 32 := Nat.lt_of_le_of_lt h (by decide)
  have hm : (len + framePrefixLen) % 2 ^ 64 = len + 4 := Nat.mod_eq_of_lt (by rw [framePrefixLen]; omega)
  rw [Spsc.lenRejected, hm, Bool.or_eq_false_iff, decide_eq_false_iff_not, decide_eq_false_iff_not]
  omega

theorem beNat_prefix {len : Nat} (h : len ≤ uint32Max) : beNat (beBytes 4 len) = len :=
  beNat_beBytes_of_lt (Nat.lt_of_le_of_lt h (by decide))

theorem Holds.diff {r : Ring} {pos : Nat} {q : List (List UInt8)} (h : Holds r pos q) :
    (r.head - r.tail).toNat = (entries q).length := by
  have hs : ringBufferSize < 2 ^ 64 := by decide
  have := h.fits
  rw [h.head_eq, h.tail_eq, ofNat_sub_toNat (Nat.le_add_right ..) (by omega), Nat.add_sub_cancel_left]

theorem Holds.availableSpace {r : Ring} {pos : Nat} {q : List (List UInt8)} (h : Holds r pos q) :
    Spsc.availableSpace r.head r.tail = ringBufferSize - (entries q).length := by
  have := h.fits
  rw [h.head_eq, h.tail_eq, availableSpace_ofNat (Nat.le_add_right ..) (by omega), Nat.add_sub_cancel_left]

theorem Holds.len_le {r : Ring} {pos : Nat} {f : List UInt8} {q : List (List UInt8)} (h : Holds r pos (f :: q)) :
    4 + f.length ≤ ringBufferSize := by
  have := h.fits
  rw [entries_cons, List.length_append, entry_length] at this
  omega

/-! ## `push_frame` -/

theorem Spsc.pushFrame_full {r : Ring} {pos : Nat} {q : List (List UInt8)} (h : Holds r pos q)
    {f : List UInt8} (hf : ringBufferSize < (entries q).length + (4 + f.length)) :
    Spsc.pushFrame r f = (false, r) := by
  have := h.fits
  unfold Spsc.pushFrame
  split
  · rfl
  · rw [if_pos (by rw [h.availableSpace, framePrefixLen_eq]; omega)]

theorem Holds.store {r : Ring} {pos : Nat} {q : List (List UInt8)} (h : Holds r pos q) {f : List UInt8}
    (hf : (entries q).length + (4 + f.length) ≤ ringBufferSize) :
    Spells ringBufferSize (copyInto (copyInto r.data r.head (beBytes 4 f.length)) (r.head + UInt64.ofNat 4) f)
      pos (entries (q ++ [f])) := by
  rw [h.head_eq, ← UInt64.ofNat_add, entries_append, spells_append, entries_cons, entries_nil, List.append_nil,
    entry, spells_append, beBytes_length]
  refine ⟨?_, ?_, ?_⟩
  · refine spells_copyInto_outside (by omega) (by omega) ?_
    exact spells_copyInto_outside (by omega) (by rw [beBytes_length]; omega) h.bytes
  · refine spells_copyInto_outside (by rw [beBytes_length]) (by omega) ?_
    exact spells_copyInto r.data _ (by rw [beBytes_length]; omega)
  · exact spells_copyInto _ _ (by omega)

theorem Spsc.pushFrame_eq {r : Ring} {pos : Nat} {q : List (List UInt8)} (h : Holds r pos q)
    {f : List UInt8} (hf : (entries q).length + (4 + f.length) ≤ ringBufferSize) :
    Spsc.pushFrame r f =
      (true, { head := r.head + UInt64.ofNat (4 + f.length), tail := r.tail,
               data := copyInto (copyInto r.data r.head (beBytes 4 f.length)) (r.head + UInt64.ofNat 4) f }) := by
  have hs : ringBufferSize ≤ uint32Max := by decide
  have hlen : Spsc.lenRejected f.length = false := lenRejected_of_le (by omega)
  have hspace : ¬ Spsc.availableSpace r.head r.tail < 4 + f.length := by
    rw [h.availableSpace]
    omega
  simp only [Spsc.pushFrame, hlen, hspace, framePrefixLen_eq, Bool.false_eq_true, if_false]

theorem Spsc.pushFrame_ok {r : Ring} {pos : Nat} {q : List (List UInt8)} (h : Holds r pos q)
    {f : List UInt8} (hf : (entries q).length + (4 + f.length) ≤ ringBufferSize) :
    (Spsc.pushFrame r f).1 = true ∧ Holds (Spsc.pushFrame r f).2 pos (q ++ [f]) ∧
      (Spsc.pushFrame r f).2.tail = r.tail := by
  have hn : (entries (q ++ [f])).length = (entries q).length + (4 + f.length) := by simp
  rw [Spsc.pushFrame_eq h hf]
  refine ⟨rfl, ⟨h.tail_eq, ?_, hn ▸ hf, h.store hf⟩, rfl⟩
  rw [h.head_eq, hn, ← Nat.add_assoc, UInt64.ofNat_add (pos + _)]

/-! ## `pop_frame` -/

theorem Spsc.popFrame_nil {r : Ring} {pos : Nat} (h : Holds r pos []) (maxLen : Nat) :
    Spsc.popFrame r maxLen = (none, r) := by
  unfold Spsc.popFrame
  dsimp only
  rw [h.diff, if_pos (by decide)]

theorem Holds.peek {r : Ring} {pos : Nat} {f : List UInt8} {q : List (List UInt8)} (h : Holds r pos (f :: q)) :
    Spsc.peekU32 r.data r.tail = f.length := by
  have hs : ringBufferSize ≤ uint32Max := by decide
  have hl := h.len_le
  have hb := h.bytes
  rw [entries_cons, entry, List.append_assoc, spells_append] at hb
  have hc := copyFrom_ofNat (by rw [beBytes_length]; omega) hb.1
  rw [beBytes_length, ← framePrefixLen_eq] at hc
  rw [Spsc.peekU32, h.tail_eq, hc, framePrefixLen_eq, beNat_prefix (by omega)]

theorem Spsc.popFrame_small {r : Ring} {pos : Nat} {f : List UInt8} {q : List (List UInt8)}
    (h : Holds r pos (f :: q)) {maxLen : Nat} (hm : maxLen < f.length) :
    Spsc.popFrame r maxLen = (none, r) := by
  unfold Spsc.popFrame
  dsimp only
  rw [h.peek]
  split
  · rfl
  · rw [if_pos (Or.inr hm)]

theorem Spsc.popFrame_ok {r : Ring} {pos : Nat} {f : List UInt8} {q : List (List UInt8)}
    (h : Holds r pos (f :: q)) {maxLen : Nat} (hm : f.length ≤ maxLen) :
    (Spsc.popFrame r maxLen).1 = some f ∧ Holds (Spsc.popFrame r maxLen).2 (pos + (4 + f.length)) q ∧
      (Spsc.popFrame r maxLen).2.head = r.head := by
  have hl := h.len_le
  have hfits := h.fits
  have hb := h.bytes
  rw [entries_cons, List.length_append, entry_length] at hfits
  rw [entries_cons, spells_append, entry, spells_append, beBytes_length, ← entry, entry_length] at hb
  unfold Spsc.popFrame
  dsimp only
  rw [h.diff, h.peek, entries_cons, List.length_append, entry_length, framePrefixLen_eq, if_neg (by omega),
    if_neg (by omega), h.tail_eq, ← UInt64.ofNat_add, copyFrom_ofNat (by omega) hb.1.2]
  refine ⟨rfl, ⟨?_, ?_, by omega, hb.2⟩, rfl⟩
  · rw [UInt64.ofNat_add pos]
  · rw [h.head_eq, entries_cons, List.length_append, entry_length, ← Nat.add_assoc]

end WhyUsb
