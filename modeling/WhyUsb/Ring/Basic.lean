import WhyUsb.Lib.Circular
import WhyUsb.Lib.Endian

/-!
# The shared ring and its two implementations

The driver uses `SPSC_RingBuffer` (C++), the daemon `MappedRing` (Rust) on the
same layout: two 64-bit cursors and `ringBufferSize` data bytes. A frame is a
four-byte big-endian length followed by its bytes. Cells outside the data
array are kept in the model's memory so that an index out of range is visible.
-/

namespace WhyUsb

open Circular Endian

def ringBufferSize : Nat := 1048576

/-- `sizeof(uint32_t)` of the C++ side, `FRAME_PREFIX_LEN` of the Rust side. -/
def framePrefixLen : Nat := 4

def uint32Max : Nat := 4294967295

structure Ring where
  head : UInt64
  tail : UInt64
  data : Nat → UInt8

/-! ## Wrapped copies -/

/-- `first_part` / `first_len`: how much fits before the end of the buffer. -/
def firstPart (absolute : UInt64) (len : Nat) : Nat :=
  min len (ringBufferSize - absolute.toNat % ringBufferSize)

/-- The index of the `i`-th byte of a wrapped copy of `len` bytes. -/
def wrapIndex (absolute : UInt64) (len i : Nat) : Nat :=
  if i < firstPart absolute len then absolute.toNat % ringBufferSize + i else i - firstPart absolute len

def copyBytes (data : Nat → UInt8) (absolute : UInt64) (len : Nat) : Nat → List UInt8 → Nat → UInt8
  | _, [] => data
  | i, b :: bs => copyBytes (Function.update data (wrapIndex absolute len i) b) absolute len (i + 1) bs

/-- `copy_into`: both byte loops, one after the other. -/
def copyInto (data : Nat → UInt8) (absolute : UInt64) (src : List UInt8) : Nat → UInt8 :=
  copyBytes data absolute src.length 0 src

def copyFrom (data : Nat → UInt8) (absolute : UInt64) (len : Nat) : List UInt8 :=
  (List.range len).map fun i => data (wrapIndex absolute len i)

/-- `ptr::copy_nonoverlapping` into the data array. -/
def copyNonoverlapping (data : Nat → UInt8) (dst : Nat) (src : List UInt8) : Nat → UInt8 :=
  fun j => if dst ≤ j ∧ j < dst + src.length then src.getD (j - dst) 0 else data j

/-- `write_wrapped`: at most two block copies. -/
def writeWrapped (data : Nat → UInt8) (absolute : UInt64) (src : List UInt8) : Nat → UInt8 :=
  if src.isEmpty then data
  else
    let firstLen := firstPart absolute src.length
    let data := copyNonoverlapping data (absolute.toNat % ringBufferSize) (src.take firstLen)
    if firstLen < src.length then copyNonoverlapping data 0 (src.drop firstLen) else data

/-- `read_wrapped`: the two blocks read are laid one after the other in `dst`. -/
def readWrapped (data : Nat → UInt8) (absolute : UInt64) (len : Nat) : List UInt8 :=
  let firstLen := firstPart absolute len
  (List.range firstLen).map (fun i => data (absolute.toNat % ringBufferSize + i)) ++
    (List.range (len - firstLen)).map (fun i => data i)

/-! ## `SPSC_RingBuffer` -/

namespace Spsc

/-- The guard of `push_frame`; the second disjunct is the `size_t` overflow test. -/
def lenRejected (len : Nat) : Bool :=
  decide (uint32Max < len) || decide ((len + framePrefixLen) % 2 ^ 64 < len)

/-- `available_space` as `push_frame` computes it, in wrapping `size_t` arithmetic. -/
def availableSpace (head tail : UInt64) : Nat :=
  (UInt64.ofNat ringBufferSize - (head - tail)).toNat

def pushFrame (r : Ring) (src : List UInt8) : Bool × Ring :=
  if lenRejected src.length then (false, r)
  else
    let totalLen := framePrefixLen + src.length
    if availableSpace r.head r.tail < totalLen then (false, r)
    else
      let data := copyInto r.data r.head (beBytes 4 src.length)
      let data := copyInto data (r.head + UInt64.ofNat framePrefixLen) src
      (true, { r with head := r.head + UInt64.ofNat totalLen, data := data })

def peekU32 (data : Nat → UInt8) (absolute : UInt64) : Nat := beNat (copyFrom data absolute framePrefixLen)

def popFrame (r : Ring) (maxLen : Nat) : Option (List UInt8) × Ring :=
  let availableData := (r.head - r.tail).toNat
  if availableData < framePrefixLen then (none, r)
  else
    let frameLen := peekU32 r.data r.tail
    let totalLen := framePrefixLen + frameLen
    if availableData < totalLen ∨ maxLen < frameLen then (none, r)
    else
      (some (copyFrom r.data (r.tail + UInt64.ofNat framePrefixLen) frameLen),
        { r with tail := r.tail + UInt64.ofNat totalLen })

end Spsc

/-! ## `MappedRing` -/

inductive MappedRingError where
  | nullBase
  | misalignedBase
  | invalidSize (actual expected : Nat)
  | full (requested available : Nat)
  | frameTooLarge (actual max : Nat)
  deriving DecidableEq, Repr

namespace Mapped

/-- `WHY_USB_RING_BUFFER_SIZE as usize - (head - tail) as usize`, both differences without overflow checks. -/
def availableSpace (head tail : UInt64) : Nat :=
  (UInt64.ofNat ringBufferSize - (head - tail)).toNat

def pushFrame (r : Ring) (frame : List UInt8) : Except MappedRingError Unit × Ring :=
  if uint32Max < frame.length then (.error (.frameTooLarge frame.length uint32Max), r)
  else
    let totalLen := framePrefixLen + frame.length
    let availableSpace := availableSpace r.head r.tail
    if availableSpace < totalLen then (.error (.full totalLen availableSpace), r)
    else
      let data := writeWrapped r.data r.head (beBytes 4 frame.length)
      let data := writeWrapped data (r.head + UInt64.ofNat framePrefixLen) frame
      (.ok (), { r with head := r.head + UInt64.ofNat totalLen, data := data })

/-- Unlike the C++ side, an oversized frame is reported before an incomplete one. -/
def popFrame (r : Ring) (maxLen : Nat) : Except MappedRingError (Option (List UInt8)) × Ring :=
  let availableData := (r.head - r.tail).toNat
  if availableData < framePrefixLen then (.ok none, r)
  else
    let frameLen := beNat (readWrapped r.data r.tail framePrefixLen)
    let totalLen := framePrefixLen + frameLen
    if maxLen < frameLen then (.error (.frameTooLarge frameLen maxLen), r)
    else if availableData < totalLen then (.ok none, r)
    else
      (.ok (some (readWrapped r.data (r.tail + UInt64.ofNat framePrefixLen) frameLen)),
        { r with tail := r.tail + UInt64.ofNat totalLen })

end Mapped

/-! ## Cursors and absolute positions -/

theorem framePrefixLen_eq : framePrefixLen = 4 := rfl

theorem ofNat_mod_size (p : Nat) : (UInt64.ofNat p).toNat % ringBufferSize = p % ringBufferSize := by
  rw [UInt64.toNat_ofNat', ringBufferSize]
  exact Nat.mod_mod_of_dvd p (by decide)

theorem ofNat_sub_toNat {a b : Nat} (hba : b ≤ a) (hab : a < b + 2 ^ 64) :
    (UInt64.ofNat a - UInt64.ofNat b).toNat = a - b := by
  rw [UInt64.toNat_sub, UInt64.toNat_ofNat', UInt64.toNat_ofNat']
  omega

theorem wrapIndex_ofNat {p len i : Nat} (hi : i < len) (hlen : len ≤ ringBufferSize) :
    wrapIndex (UInt64.ofNat p) len i = (p + i) % ringBufferSize := by
  unfold wrapIndex firstPart
  rw [ofNat_mod_size, ← Nat.mod_add_mod p ringBufferSize i]
  have ho : p % ringBufferSize < ringBufferSize := Nat.mod_lt _ (by decide)
  generalize p % ringBufferSize = o at ho ⊢
  split
  · exact (Nat.mod_eq_of_lt (by omega)).symm
  · rw [Nat.mod_eq_sub_mod (by omega), Nat.mod_eq_of_lt (by omega)]
    omega

theorem copyFrom_ofNat {data : Nat → UInt8} {p : Nat} {xs : List UInt8} (hlen : xs.length ≤ ringBufferSize)
    (h : Spells ringBufferSize data p xs) : copyFrom data (UInt64.ofNat p) xs.length = xs := by
  refine Eq.trans ?_ h
  exact List.map_congr_left fun i hi => by rw [wrapIndex_ofNat (List.mem_range.mp hi) hlen]

theorem spells_copyBytes {p len : Nat} (hlen : len ≤ ringBufferSize) :
    ∀ (bs : List UInt8) (data : Nat → UInt8) (xs : List UInt8), xs.length + bs.length = len →
      Spells ringBufferSize data p xs →
        Spells ringBufferSize (copyBytes data (UInt64.ofNat p) len xs.length bs) p (xs ++ bs)
  | [], data, xs, _, hd => by rwa [copyBytes, List.append_nil]
  | b :: bs, data, xs, h, hd => by
    rw [List.length_cons] at h
    have hx := spells_copyBytes hlen bs _ (xs ++ [b]) (by simp; omega) (hd.update_next b (by omega))
    rw [List.length_append, List.length_singleton, List.append_assoc, List.singleton_append] at hx
    rwa [copyBytes, wrapIndex_ofNat (by omega) hlen]

theorem spells_copyBytes_outside {p q len : Nat} {xs : List UInt8} (hlo : q + xs.length ≤ p)
    (hhi : p + len ≤ q + ringBufferSize) :
    ∀ (bs : List UInt8) (data : Nat → UInt8) (i : Nat), i + bs.length = len →
      Spells ringBufferSize data q xs →
        Spells ringBufferSize (copyBytes data (UInt64.ofNat p) len i bs) q xs
  | [], _, _, _, hd => hd
  | b :: bs, data, i, h, hd => by
    rw [List.length_cons] at h
    rw [copyBytes, wrapIndex_ofNat (by omega) (by omega)]
    exact spells_copyBytes_outside hlo hhi bs _ (i + 1) (by omega) (hd.update_outside b (by omega) (by omega))

theorem spells_copyInto (data : Nat → UInt8) (p : Nat) {src : List UInt8} (hlen : src.length ≤ ringBufferSize) :
    Spells ringBufferSize (copyInto data (UInt64.ofNat p) src) p src :=
  spells_copyBytes hlen src data [] (Nat.zero_add _) (spells_nil data p)

theorem spells_copyInto_outside {data : Nat → UInt8} {p q : Nat} {src xs : List UInt8} (hlo : q + xs.length ≤ p)
    (hhi : p + src.length ≤ q + ringBufferSize) (h : Spells ringBufferSize data q xs) :
    Spells ringBufferSize (copyInto data (UInt64.ofNat p) src) q xs :=
  spells_copyBytes_outside hlo hhi src data 0 (Nat.zero_add _) h

/-! ## The two implementations of the copies agree -/

theorem copyNonoverlapping_nil (data : Nat → UInt8) (dst : Nat) : copyNonoverlapping data dst [] = data := by
  funext j
  simp only [copyNonoverlapping, List.length_nil, Nat.add_zero]
  rw [if_neg (by omega)]

theorem copyNonoverlapping_cons (data : Nat → UInt8) (dst : Nat) (b : UInt8) (bs : List UInt8) :
    copyNonoverlapping (Function.update data dst b) (dst + 1) bs = copyNonoverlapping data dst (b :: bs) := by
  funext j
  simp only [copyNonoverlapping, List.length_cons, Function.update_apply]
  rcases Nat.lt_trichotomy j dst with hj | rfl | hj
  · rw [if_neg (by omega), if_neg (by omega), if_neg (by omega)]
  · rw [if_neg (by omega), if_pos rfl, if_pos (by omega), Nat.sub_self, List.getD_cons_zero]
  · by_cases hlt : j < dst + 1 + bs.length
    · rw [if_pos (by omega), if_pos (by omega), show j - dst = j - (dst + 1) + 1 by omega, List.getD_cons_succ]
    · rw [if_neg (by omega), if_neg (by omega), if_neg (by omega)]

theorem copyBytes_eq_second (absolute : UInt64) (len : Nat) :
    ∀ (bs : List UInt8) (data : Nat → UInt8) (i : Nat), firstPart absolute len ≤ i →
      copyBytes data absolute len i bs = copyNonoverlapping data (i - firstPart absolute len) bs
  | [], data, i, _ => by rw [copyBytes, copyNonoverlapping_nil]
  | b :: bs, data, i, hi => by
    rw [copyBytes, copyBytes_eq_second absolute len bs _ (i + 1) (by omega), wrapIndex, if_neg (by omega),
      ← copyNonoverlapping_cons, Nat.sub_add_comm hi]

theorem copyBytes_eq_blocks (absolute : UInt64) (len : Nat) :
    ∀ (bs : List UInt8) (data : Nat → UInt8) (i : Nat), i ≤ firstPart absolute len →
      copyBytes data absolute len i bs =
        copyNonoverlapping
          (copyNonoverlapping data (absolute.toNat % ringBufferSize + i) (bs.take (firstPart absolute len - i)))
          0 (bs.drop (firstPart absolute len - i))
  | [], data, i, _ => by simp [copyBytes, copyNonoverlapping_nil]
  | b :: bs, data, i, hi => by
    rcases Nat.lt_or_ge i (firstPart absolute len) with hlt | hge
    · obtain ⟨k, hk⟩ : ∃ k, firstPart absolute len - i = k + 1 := ⟨firstPart absolute len - i - 1, by omega⟩
      rw [copyBytes, copyBytes_eq_blocks absolute len bs _ (i + 1) hlt, wrapIndex, if_pos hlt, hk,
        show firstPart absolute len - (i + 1) = k by omega, List.take_succ_cons, List.drop_succ_cons,
        ← Nat.add_assoc, copyNonoverlapping_cons]
    · rw [copyBytes_eq_second absolute len _ data i hge, show firstPart absolute len - i = 0 by omega,
        show i - firstPart absolute len = 0 by omega, List.take_zero, List.drop_zero, copyNonoverlapping_nil]

theorem Mapped.availableSpace_eq (head tail : UInt64) :
    Mapped.availableSpace head tail = Spsc.availableSpace head tail := rfl

theorem writeWrapped_eq_copyInto (data : Nat → UInt8) (absolute : UInt64) (src : List UInt8) :
    writeWrapped data absolute src = copyInto data absolute src := by
  rw [copyInto, copyBytes_eq_blocks absolute src.length src data 0 (Nat.zero_le _), Nat.sub_zero, Nat.add_zero]
  unfold writeWrapped
  cases src with
  | nil => simp [copyNonoverlapping_nil]
  | cons b bs =>
    rw [if_neg (by simp)]
    dsimp only
    split
    · rfl
    · rename_i h
      rw [List.drop_eq_nil_of_le (Nat.le_of_not_lt h), copyNonoverlapping_nil]

theorem readWrapped_eq_copyFrom (data : Nat → UInt8) (absolute : UInt64) (len : Nat) :
    readWrapped data absolute len = copyFrom data absolute len := by
  have hle : firstPart absolute len ≤ len := Nat.min_le_left ..
  have hlen : len = firstPart absolute len + (len - firstPart absolute len) := by omega
  have hsplit : List.range len = List.range (firstPart absolute len) ++
      (List.range (len - firstPart absolute len)).map (firstPart absolute len + ·) := by
    rw [← List.range_add, ← hlen]
  rw [readWrapped, copyFrom, hsplit, List.map_append, List.map_map]
  congr 1
  · refine List.map_congr_left fun i hi => ?_
    rw [wrapIndex, if_pos (List.mem_range.mp hi)]
  · refine List.map_congr_left fun i _ => ?_
    rw [Function.comp_apply, wrapIndex, if_neg (by omega), Nat.add_sub_cancel_left]

end WhyUsb
