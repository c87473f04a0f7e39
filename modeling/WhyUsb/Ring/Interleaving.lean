import WhyUsb.Ring.Frames
import WhyUsb.Lib.Lts

/-!
# One producer and one consumer on a shared ring

Every call is split into its accesses to shared memory: the two cursor loads,
each byte copied, and the store of the own cursor. Either side may run the C++
or the Rust code; they differ in how a refusal is reported and in the order of
the checks of `pop_frame`. The cursors are loaded once and go stale while the
other side moves.
-/

namespace WhyUsb

open Circular Endian

inductive RingSide where
  | spsc
  | mapped
  deriving DecidableEq, Repr

/-- What `push_frame` returns: `bool` in C++, a `Result` in Rust. -/
abbrev PushResult := Except MappedRingError Bool

/-- What `pop_frame` returns; the C++ `false` is `ok none`. -/
abbrev PopResult := Except MappedRingError (Option (List UInt8))

inductive Producer where
  | returned (result : PushResult)
  | loadTail (frame : List UInt8)
  | loadHead (frame : List UInt8) (tail : UInt64)
  | copyPrefix (frame : List UInt8) (head : UInt64) (i : Nat)
  | copyFrame (frame : List UInt8) (head : UInt64) (i : Nat)

inductive Consumer where
  | returned (result : PopResult)
  | loadHead (maxLen : Nat)
  | loadTail (maxLen : Nat) (head : UInt64)
  | peek (maxLen available : Nat) (tail : UInt64) (bytes : List UInt8)
  | copy (tail : UInt64) (frameLen : Nat) (bytes : List UInt8)

/-- The ring, where each side stands, and the frames pushed and popped so far. -/
structure RingSys where
  ring : Ring
  producer : Producer
  consumer : Consumer
  pushed : List (List UInt8)
  popped : List (List UInt8)

namespace RingSys

inductive Act where
  | pushCall (frame : List UInt8)
  | pushStep
  | popCall (maxLen : Nat)
  | popStep

/-- The length check made before the ring is touched. -/
def lenRefusal : RingSide → Nat → Option PushResult
  | .spsc, len => if Spsc.lenRejected len then some (.ok false) else none
  | .mapped, len => if uint32Max < len then some (.error (.frameTooLarge len uint32Max)) else none

def availableSpace : RingSide → UInt64 → UInt64 → Nat
  | .spsc, head, tail => Spsc.availableSpace head tail
  | .mapped, head, tail => Mapped.availableSpace head tail

theorem availableSpace_eq (side : RingSide) (head tail : UInt64) :
    availableSpace side head tail = Spsc.availableSpace head tail := by
  cases side with
  | spsc => rfl
  | mapped => exact Mapped.availableSpace_eq head tail

def spaceRefusal : RingSide → Nat → Nat → PushResult
  | .spsc, _, _ => .ok false
  | .mapped, totalLen, available => .error (.full totalLen available)

/-- The checks made once the length prefix is read. -/
def popRefusal : RingSide → Nat → Nat → Nat → Option PopResult
  | .spsc, available, frameLen, maxLen =>
    if available < framePrefixLen + frameLen ∨ maxLen < frameLen then some (.ok none) else none
  | .mapped, available, frameLen, maxLen =>
    if maxLen < frameLen then some (.error (.frameTooLarge frameLen maxLen))
    else if available < framePrefixLen + frameLen then some (.ok none)
    else none

def writeByte (s : RingSys) (index : Nat) (b : UInt8) : RingSys :=
  { s with ring := { s.ring with data := Function.update s.ring.data index b } }

def pushCall (side : RingSide) (s : RingSys) (frame : List UInt8) : Option RingSys :=
  match s.producer with
  | .returned _ =>
    match lenRefusal side frame.length with
    | some result => some { s with producer := .returned result }
    | none => some { s with producer := .loadTail frame }
  | _ => none

def pushStep (side : RingSide) (s : RingSys) : Option RingSys :=
  match s.producer with
  | .returned _ => none
  | .loadTail f => some { s with producer := .loadHead f s.ring.tail }
  | .loadHead f tail =>
    let head := s.ring.head
    let available := availableSpace side head tail
    if available < framePrefixLen + f.length then
      some { s with producer := .returned (spaceRefusal side (framePrefixLen + f.length) available) }
    else some { s with producer := .copyPrefix f head 0 }
  | .copyPrefix f head i =>
    match (beBytes 4 f.length)[i]? with
    | some b => some { s.writeByte (wrapIndex head 4 i) b with producer := .copyPrefix f head (i + 1) }
    | none => some { s with producer := .copyFrame f head 0 }
  | .copyFrame f head i =>
    match f[i]? with
    | some b =>
      some { s.writeByte (wrapIndex (head + UInt64.ofNat framePrefixLen) f.length i) b with
             producer := .copyFrame f head (i + 1) }
    | none =>
      some { s with ring := { s.ring with head := head + UInt64.ofNat (framePrefixLen + f.length) },
                    producer := .returned (.ok true),
                    pushed := s.pushed ++ [f] }

def popCall (s : RingSys) (maxLen : Nat) : Option RingSys :=
  match s.consumer with
  | .returned _ => some { s with consumer := .loadHead maxLen }
  | _ => none

def popStep (side : RingSide) (s : RingSys) : Option RingSys :=
  match s.consumer with
  | .returned _ => none
  | .loadHead maxLen => some { s with consumer := .loadTail maxLen s.ring.head }
  | .loadTail maxLen head =>
    let tail := s.ring.tail
    let available := (head - tail).toNat
    if available < framePrefixLen then some { s with consumer := .returned (.ok none) }
    else some { s with consumer := .peek maxLen available tail [] }
  | .peek maxLen available tail bytes =>
    if bytes.length < framePrefixLen then
      let b := s.ring.data (wrapIndex tail framePrefixLen bytes.length)
      some { s with consumer := .peek maxLen available tail (bytes ++ [b]) }
    else
      match popRefusal side available (beNat bytes) maxLen with
      | some result => some { s with consumer := .returned result }
      | none => some { s with consumer := .copy tail (beNat bytes) [] }
  | .copy tail frameLen bytes =>
    if bytes.length < frameLen then
      let b := s.ring.data (wrapIndex (tail + UInt64.ofNat framePrefixLen) frameLen bytes.length)
      some { s with consumer := .copy tail frameLen (bytes ++ [b]) }
    else
      some { s with ring := { s.ring with tail := tail + UInt64.ofNat (framePrefixLen + frameLen) },
                    consumer := .returned (.ok (some bytes)),
                    popped := s.popped ++ [bytes] }

/-- One step of either side, the producer running `ps` and the consumer `cs`. -/
def step (ps cs : RingSide) (s : RingSys) : Act → Option RingSys
  | .pushCall frame => pushCall ps s frame
  | .pushStep => pushStep ps s
  | .popCall maxLen => popCall s maxLen
  | .popStep => popStep cs s

def init (r : Ring) : RingSys where
  ring := r
  producer := .returned (.ok false)
  consumer := .returned (.ok none)
  pushed := []
  popped := []

/-! ## The invariant

`lo` is the position of the first frame not yet popped, `hi` the position the
producer writes next. The producer's bytes lie in `[hi, lo + ringBufferSize)`,
which the consumer never reads; the loaded copy of the other cursor may be old
but is never ahead.
-/

def ProducerOk (r : Ring) (lo hi : Nat) : Producer → Prop
  | .returned _ => True
  | .loadTail _ => True
  | .loadHead _ tail => ∃ old ≤ lo, tail = UInt64.ofNat old ∧ hi ≤ old + ringBufferSize
  | .copyPrefix f head i =>
    head = UInt64.ofNat hi ∧ hi + (4 + f.length) ≤ lo + ringBufferSize ∧ i ≤ 4 ∧
      Spells ringBufferSize r.data hi ((beBytes 4 f.length).take i)
  | .copyFrame f head i =>
    head = UInt64.ofNat hi ∧ hi + (4 + f.length) ≤ lo + ringBufferSize ∧ i ≤ f.length ∧
      Spells ringBufferSize r.data hi (beBytes 4 f.length ++ f.take i)

def ConsumerOk (lo : Nat) (pending : List (List UInt8)) : Consumer → Prop
  | .returned _ => True
  | .loadHead _ => True
  | .loadTail _ head => ∃ q, q <+: pending ∧ head = UInt64.ofNat (lo + (entries q).length)
  | .peek _ available tail bytes =>
    tail = UInt64.ofNat lo ∧ ∃ f q, f :: q <+: pending ∧ available = (entries (f :: q)).length ∧
      bytes <+: beBytes 4 f.length
  | .copy tail frameLen bytes =>
    tail = UInt64.ofNat lo ∧ ∃ f q, pending = f :: q ∧ frameLen = f.length ∧ bytes <+: f

structure Inv (start : Nat) (pending : List (List UInt8)) (s : RingSys) : Prop where
  fifo : s.popped ++ pending = s.pushed
  holds : Holds s.ring (start + (entries s.popped).length) pending
  producer : ProducerOk s.ring (start + (entries s.popped).length)
    (start + (entries s.popped).length + (entries pending).length) s.producer
  consumer : ConsumerOk (start + (entries s.popped).length) pending s.consumer

theorem init_inv {r : Ring} (hr : r.head = r.tail) : Inv r.tail.toNat [] (init r) where
  fifo := rfl
  holds := holds_nil hr
  producer := trivial
  consumer := trivial

/-! ## The producer's steps -/

theorem getElem?_take_succ {xs : List UInt8} {i : Nat} {b : UInt8} (h : xs[i]? = some b) :
    xs.take (i + 1) = xs.take i ++ [b] := by
  rw [List.take_add_one, h, Option.toList_some]

theorem writeByte_holds {s : RingSys} {lo : Nat} {q : List (List UInt8)} (h : Holds s.ring lo q) {p : Nat} (b : UInt8)
    (hlo : lo + (entries q).length ≤ p) (hhi : p < lo + ringBufferSize) :
    Holds (s.writeByte (p % ringBufferSize) b).ring lo q where
  tail_eq := h.tail_eq
  head_eq := h.head_eq
  fits := h.fits
  bytes := h.bytes.update_outside b hlo hhi

section
variable {ps cs : RingSide} {start : Nat} {pending : List (List UInt8)} {s s' : RingSys}

theorem pushCall_inv {frame : List UInt8} (h : Inv start pending s) (hs : pushCall ps s frame = some s') :
    Inv start pending s' := by
  unfold pushCall at hs
  split at hs
  · split at hs <;> cases hs <;> exact ⟨h.fifo, h.holds, trivial, h.consumer⟩
  · cases hs

theorem loadHead_inv {f : List UInt8} {tail : UInt64} (hp : s.producer = .loadHead f tail)
    (h : Inv start pending s) (hs : pushStep ps s = some s') : Inv start pending s' := by
  have hprod := h.producer
  rw [hp] at hprod
  obtain ⟨old, hold, rfl, hroom⟩ := hprod
  simp only [pushStep, hp, availableSpace_eq] at hs
  rw [h.holds.head_eq, availableSpace_ofNat (by omega) hroom] at hs
  split at hs <;> cases hs
  · exact ⟨h.fifo, h.holds, trivial, h.consumer⟩
  · rename_i hfree
    rw [framePrefixLen_eq] at hfree
    exact ⟨h.fifo, h.holds, ⟨rfl, by omega, Nat.zero_le _, spells_nil ..⟩, h.consumer⟩

theorem copyPrefix_inv {f : List UInt8} {head : UInt64} {i : Nat} (hp : s.producer = .copyPrefix f head i)
    (h : Inv start pending s) (hs : pushStep ps s = some s') : Inv start pending s' := by
  have hprod := h.producer
  rw [hp] at hprod
  obtain ⟨rfl, hroom, hi, hw⟩ := hprod
  have hlen : ((beBytes 4 f.length).take i).length = i := by rw [List.length_take, beBytes_length]; omega
  simp only [pushStep, hp] at hs
  split at hs <;> cases hs
  · rename_i b hb
    have hi4 : i < 4 := by simpa using (List.getElem?_eq_some_iff.mp hb).1
    rw [wrapIndex_ofNat hi4 (by decide)]
    refine ⟨h.fifo, writeByte_holds h.holds b (by omega) (by omega), ⟨rfl, hroom, hi4, ?_⟩, h.consumer⟩
    have hn := hw.update_next b (by rw [hlen]; exact Nat.lt_of_lt_of_le hi4 (by decide))
    rwa [hlen, ← getElem?_take_succ hb] at hn
  · rename_i hb
    have hi4 : i = 4 := by
      have := List.getElem?_eq_none_iff.mp hb
      rw [beBytes_length] at this
      omega
    refine ⟨h.fifo, h.holds, ⟨rfl, hroom, Nat.zero_le _, ?_⟩, h.consumer⟩
    rw [List.take_zero, List.append_nil]
    rwa [hi4, List.take_of_length_le (by simp)] at hw

theorem copyFrame_inv {f : List UInt8} {head : UInt64} {i : Nat} (hp : s.producer = .copyFrame f head i)
    (h : Inv start pending s) (hs : pushStep ps s = some s') : ∃ pending', Inv start pending' s' := by
  have hprod := h.producer
  rw [hp] at hprod
  obtain ⟨rfl, hroom, hi, hw⟩ := hprod
  have hlen : (f.take i).length = i := by rw [List.length_take]; omega
  simp only [pushStep, hp, framePrefixLen_eq, ← UInt64.ofNat_add] at hs
  split at hs <;> cases hs
  · rename_i b hb
    have hif : i < f.length := (List.getElem?_eq_some_iff.mp hb).1
    rw [wrapIndex_ofNat hif (by omega)]
    refine ⟨pending, h.fifo, writeByte_holds h.holds b (by omega) (by omega), ⟨rfl, hroom, hif, ?_⟩, h.consumer⟩
    have hn := hw.update_next b (by rw [List.length_append, beBytes_length, hlen]; omega)
    rwa [List.length_append, beBytes_length, hlen, ← Nat.add_assoc, List.append_assoc, ← getElem?_take_succ hb] at hn
  · rename_i hb
    have hif : i = f.length := Nat.le_antisymm hi (List.getElem?_eq_none_iff.mp hb)
    rw [hif, List.take_length] at hw
    have hn : (entries (pending ++ [f])).length = (entries pending).length + (4 + f.length) := by simp
    refine ⟨pending ++ [f], ?_, ⟨h.holds.tail_eq, ?_, by rw [hn]; omega, ?_⟩, trivial, ?_⟩
    · rw [← h.fifo, List.append_assoc]
    · rw [hn]
      simp only [Nat.add_assoc]
    · rw [entries_append, entries_cons, entries_nil, List.append_nil, spells_append]
      exact ⟨h.holds.bytes, hw⟩
    · have hc := h.consumer
      cases hcons : s.consumer with
      | returned _ => trivial
      | loadHead _ => trivial
      | loadTail m hd =>
        rw [hcons] at hc
        obtain ⟨q, hq, rfl⟩ := hc
        exact ⟨q, hq.trans (List.prefix_append ..), rfl⟩
      | peek m a t bytes =>
        rw [hcons] at hc
        obtain ⟨rfl, g, q, hq, rfl, hb⟩ := hc
        exact ⟨rfl, g, q, hq.trans (List.prefix_append ..), rfl, hb⟩
      | copy t n bytes =>
        rw [hcons] at hc
        obtain ⟨rfl, g, q, rfl, rfl, hb⟩ := hc
        exact ⟨rfl, g, q ++ [f], rfl, rfl, hb⟩

theorem pushStep_inv (h : Inv start pending s) (hs : pushStep ps s = some s') :
    ∃ pending', Inv start pending' s' := by
  cases hp : s.producer with
  | returned _ => simp [pushStep, hp] at hs
  | loadTail f =>
    simp only [pushStep, hp, Option.some.injEq] at hs
    subst hs
    have hfits := h.holds.fits
    exact ⟨pending, h.fifo, h.holds, ⟨_, Nat.le_refl _, h.holds.tail_eq, by omega⟩, h.consumer⟩
  | loadHead f tail => exact ⟨pending, loadHead_inv hp h hs⟩
  | copyPrefix f head i => exact ⟨pending, copyPrefix_inv hp h hs⟩
  | copyFrame f head i => exact copyFrame_inv hp h hs

/-! ## The consumer's steps -/

theorem popCall_inv {maxLen : Nat} (h : Inv start pending s) (hs : popCall s maxLen = some s') :
    Inv start pending s' := by
  unfold popCall at hs
  split at hs <;> cases hs
  exact ⟨h.fifo, h.holds, h.producer, trivial⟩

theorem prefix_snoc {xs ys : List UInt8} {b : UInt8} (h : xs <+: ys) (hb : ys[xs.length]? = some b) :
    xs ++ [b] <+: ys := by
  obtain ⟨zs, rfl⟩ := h
  cases zs with
  | nil => simp at hb
  | cons z zs =>
    simp only [List.getElem?_append_right (Nat.le_refl _), Nat.sub_self, List.getElem?_cons_zero,
      Option.some.injEq] at hb
    exact ⟨zs, by rw [hb, List.append_assoc, List.singleton_append]⟩

theorem loadTail_inv {maxLen : Nat} {head : UInt64} (hc : s.consumer = .loadTail maxLen head)
    (h : Inv start pending s) (hs : popStep cs s = some s') : Inv start pending s' := by
  have hcons := h.consumer
  rw [hc] at hcons
  obtain ⟨q, hq, rfl⟩ := hcons
  have hsize : ringBufferSize < 2 ^ 64 := by decide
  have hql : (entries q).length ≤ ringBufferSize := by
    obtain ⟨r, rfl⟩ := hq
    have := h.holds.fits
    rw [entries_append, List.length_append] at this
    omega
  simp only [popStep, hc] at hs
  rw [h.holds.tail_eq, ofNat_sub_toNat (Nat.le_add_right ..) (by omega), Nat.add_sub_cancel_left] at hs
  split at hs <;> cases hs
  · exact ⟨h.fifo, h.holds, h.producer, trivial⟩
  · rename_i hav
    cases q with
    | nil => exact absurd (show (0 : Nat) < 4 by decide) hav
    | cons f q => exact ⟨h.fifo, h.holds, h.producer, rfl, f, q, hq, rfl, List.nil_prefix⟩

theorem peek_inv {maxLen available : Nat} {tail : UInt64} {bytes : List UInt8}
    (hc : s.consumer = .peek maxLen available tail bytes)
    (h : Inv start pending s) (hs : popStep cs s = some s') : Inv start pending s' := by
  have hcons := h.consumer
  rw [hc] at hcons
  obtain ⟨rfl, f, q, hq, rfl, hb⟩ := hcons
  obtain ⟨r, rfl⟩ := hq
  simp only [popStep, hc] at hs
  split at hs
  · rename_i hlt
    rw [framePrefixLen_eq] at hlt hs
    cases hs
    refine ⟨h.fifo, h.holds, h.producer, rfl, f, q, List.prefix_append .., rfl, prefix_snoc hb ?_⟩
    have hsp := h.holds.bytes
    rw [List.cons_append, entries_cons, entry, List.append_assoc, spells_append] at hsp
    rw [wrapIndex_ofNat hlt (by decide)]
    exact hsp.1.getElem? (by rwa [beBytes_length])
  · rename_i hge
    split at hs <;> cases hs
    · exact ⟨h.fifo, h.holds, h.producer, trivial⟩
    · have hsz : ringBufferSize ≤ uint32Max := by decide
      have hfl := h.holds.len_le
      have hbytes : bytes = beBytes 4 f.length := by
        refine hb.eq_of_length_le ?_
        rw [beBytes_length]
        exact Nat.le_of_not_lt hge
      refine ⟨h.fifo, h.holds, h.producer, rfl, f, q ++ r, rfl, ?_, List.nil_prefix⟩
      rw [hbytes, beNat_prefix (by omega)]

theorem copy_inv {frameLen : Nat} {tail : UInt64} {bytes : List UInt8}
    (hc : s.consumer = .copy tail frameLen bytes)
    (h : Inv start pending s) (hs : popStep cs s = some s') : ∃ pending', Inv start pending' s' := by
  have hcons := h.consumer
  rw [hc] at hcons
  obtain ⟨rfl, f, q, rfl, rfl, hb⟩ := hcons
  have hfl := h.holds.len_le
  have hsp := h.holds.bytes
  rw [entries_cons, spells_append, entry, spells_append, beBytes_length, ← entry, entry_length] at hsp
  simp only [popStep, hc, framePrefixLen_eq, ← UInt64.ofNat_add] at hs
  split at hs <;> cases hs
  · rename_i hlt
    refine ⟨f :: q, h.fifo, h.holds, h.producer, rfl, f, q, rfl, rfl, prefix_snoc hb ?_⟩
    rw [wrapIndex_ofNat hlt (by omega)]
    exact hsp.1.2.getElem? hlt
  · rename_i hge
    obtain rfl : bytes = f := hb.eq_of_length_le (Nat.le_of_not_lt hge)
    have hpop : start + (entries (s.popped ++ [bytes])).length =
        start + (entries s.popped).length + (4 + bytes.length) := by simp; omega
    have hhi : start + (entries s.popped).length + (entries (bytes :: q)).length =
        start + (entries s.popped).length + (4 + bytes.length) + (entries q).length := by simp; omega
    have hfits := h.holds.fits
    refine ⟨q, ?_, ?_, ?_, trivial⟩
    · rw [List.append_assoc, List.singleton_append]
      exact h.fifo
    · rw [hpop]
      exact ⟨rfl, by rw [← hhi]; exact h.holds.head_eq, by simp at hfits; omega, hsp.2⟩
    · have hp := h.producer
      rw [hhi] at hp
      rw [hpop]
      cases hprod : s.producer with
      | returned _ => trivial
      | loadTail _ => trivial
      | loadHead g t =>
        rw [hprod] at hp
        obtain ⟨old, hold, rfl, hroom⟩ := hp
        exact ⟨old, by omega, rfl, hroom⟩
      | copyPrefix g hd i =>
        rw [hprod] at hp
        exact ⟨hp.1, by have := hp.2.1; omega, hp.2.2⟩
      | copyFrame g hd i =>
        rw [hprod] at hp
        exact ⟨hp.1, by have := hp.2.1; omega, hp.2.2⟩

theorem popStep_inv (h : Inv start pending s) (hs : popStep cs s = some s') :
    ∃ pending', Inv start pending' s' := by
  cases hc : s.consumer with
  | returned _ => simp [popStep, hc] at hs
  | loadHead maxLen =>
    simp only [popStep, hc, Option.some.injEq] at hs
    subst hs
    exact ⟨pending, h.fifo, h.holds, h.producer, pending, List.prefix_refl _, h.holds.head_eq⟩
  | loadTail maxLen head => exact ⟨pending, loadTail_inv hc h hs⟩
  | peek maxLen available tail bytes => exact ⟨pending, peek_inv hc h hs⟩
  | copy tail frameLen bytes => exact copy_inv hc h hs

theorem step_inv {a : Act} (h : Inv start pending s) (hs : step ps cs s a = some s') :
    ∃ pending', Inv start pending' s' := by
  cases a with
  | pushCall frame => exact ⟨pending, pushCall_inv h hs⟩
  | pushStep => exact pushStep_inv h hs
  | popCall maxLen => exact ⟨pending, popCall_inv h hs⟩
  | popStep => exact popStep_inv h hs

end

theorem run_inv (ps cs : RingSide) {r : Ring} (hr : r.head = r.tail) {acts : List Act} {s : RingSys}
    (h : Lts.run (step ps cs) (init r) acts = some s) : ∃ pending, Inv r.tail.toNat pending s :=
  Lts.run_invariant (P := fun s => ∃ pending, Inv r.tail.toNat pending s)
    (fun _ _ _ ⟨_, hi⟩ hs => step_inv hi hs) ⟨[], init_inv hr⟩ h

/-- Popped frames are the first pushed frames, and the cursors stay within one buffer of each other
as long as the head does not wrap. -/
theorem interleaved_fifo (ps cs : RingSide) (r : Ring) (hr : r.head = r.tail) (acts : List Act) (s : RingSys)
    (h : Lts.run (step ps cs) (init r) acts = some s) :
    s.popped <+: s.pushed ∧
      (r.head.toNat + (entries s.pushed).length < 2 ^ 64 →
        s.ring.tail.toNat ≤ s.ring.head.toNat ∧ s.ring.head.toNat - s.ring.tail.toNat ≤ ringBufferSize) := by
  obtain ⟨pending, hinv⟩ := run_inv ps cs hr h
  have hlen : (entries s.pushed).length = (entries s.popped).length + (entries pending).length := by
    rw [← hinv.fifo, entries_append, List.length_append]
  refine ⟨⟨pending, hinv.fifo⟩, fun hwrap => ?_⟩
  have hfits := hinv.holds.fits
  rw [hr] at hwrap
  rw [hinv.holds.tail_eq, hinv.holds.head_eq, UInt64.toNat_ofNat', UInt64.toNat_ofNat',
    Nat.mod_eq_of_lt (by omega), Nat.mod_eq_of_lt (by omega)]
  omega

/-- A one-byte frame pushed across the end of the buffer, one pop of the other side before the head is
published and one after. -/
def overlappedPush : List Act :=
  [.pushCall [7], .popCall 64, .pushStep, .popStep, .popStep] ++ List.replicate 8 .pushStep ++
    .popCall 64 :: List.replicate 9 .popStep

theorem interleaved_fifo_overlapped :
    ∃ s, Lts.run (step .spsc .mapped) (init ⟨1048574, 1048574, fun _ => 0⟩) overlappedPush = some s ∧
      s.popped = [[7]] ∧ s.popped <+: s.pushed := by
  have hpop : (Lts.run (step .spsc .mapped) (init ⟨1048574, 1048574, fun _ => 0⟩) overlappedPush).map popped =
      some [[7]] := by decide +kernel
  obtain ⟨s, hs, hp⟩ := Option.map_eq_some_iff.mp hpop
  exact ⟨s, hs, hp, (interleaved_fifo .spsc .mapped _ rfl _ s hs).1⟩

/-! ## A call that runs alone computes the sequential function -/

def pushFrame (side : RingSide) (r : Ring) (frame : List UInt8) : PushResult × Ring :=
  match side with
  | .spsc => (.ok (Spsc.pushFrame r frame).1, (Spsc.pushFrame r frame).2)
  | .mapped => ((Mapped.pushFrame r frame).1.map fun _ => true, (Mapped.pushFrame r frame).2)

def popFrame (side : RingSide) (r : Ring) (maxLen : Nat) : PopResult × Ring :=
  match side with
  | .spsc => (.ok (Spsc.popFrame r maxLen).1, (Spsc.popFrame r maxLen).2)
  | .mapped => Mapped.popFrame r maxLen

section
variable {ps cs : RingSide}

theorem run_copyPrefix {f : List UInt8} {head : UInt64} : ∀ (bs : List UInt8) (s : RingSys) (i : Nat),
    s.producer = .copyPrefix f head i → (beBytes 4 f.length).drop i = bs →
      Lts.run (step ps cs) s (List.replicate (bs.length + 1) .pushStep) =
        some { s with ring := { s.ring with data := copyBytes s.ring.data head 4 i bs },
                      producer := .copyFrame f head 0 }
  | [], s, i, hp, hb => by
    have hnone : (beBytes 4 f.length)[i]? = none := List.getElem?_eq_none (List.drop_eq_nil_iff.mp hb)
    simp only [List.length_nil, Nat.zero_add, List.replicate_one, Lts.run_cons, step, pushStep, hp, hnone,
      Option.bind_some, Lts.run_nil, copyBytes]
  | b :: bs, s, i, hp, hb => by
    have hsome : (beBytes 4 f.length)[i]? = some b := by
      rw [← Nat.add_zero i, ← List.getElem?_drop, hb, List.getElem?_cons_zero]
    have htail : (beBytes 4 f.length).drop (i + 1) = bs := by
      rw [← List.drop_drop, hb, List.drop_one, List.tail_cons]
    have hstep : step ps cs s .pushStep =
        some { s.writeByte (wrapIndex head 4 i) b with producer := .copyPrefix f head (i + 1) } := by
      simp only [step, pushStep, hp, hsome]
    rw [List.length_cons, List.replicate_succ, Lts.run_cons_of_step _ hstep, run_copyPrefix bs _ (i + 1) rfl htail]
    rfl

theorem run_copyFrame {f : List UInt8} {head : UInt64} : ∀ (bs : List UInt8) (s : RingSys) (i : Nat),
    s.producer = .copyFrame f head i → f.drop i = bs →
      Lts.run (step ps cs) s (List.replicate (bs.length + 1) .pushStep) =
        some { s with ring := { s.ring with
                        head := head + UInt64.ofNat (framePrefixLen + f.length)
                        data := copyBytes s.ring.data (head + UInt64.ofNat framePrefixLen) f.length i bs },
                      producer := .returned (.ok true),
                      pushed := s.pushed ++ [f] }
  | [], s, i, hp, hb => by
    have hnone : f[i]? = none := List.getElem?_eq_none (List.drop_eq_nil_iff.mp hb)
    simp only [List.length_nil, Nat.zero_add, List.replicate_one, Lts.run_cons, step, pushStep, hp, hnone,
      Option.bind_some, Lts.run_nil, copyBytes]
  | b :: bs, s, i, hp, hb => by
    have hsome : f[i]? = some b := by
      rw [← Nat.add_zero i, ← List.getElem?_drop, hb, List.getElem?_cons_zero]
    have htail : f.drop (i + 1) = bs := by
      rw [← List.drop_drop, hb, List.drop_one, List.tail_cons]
    have hstep : step ps cs s .pushStep =
        some { s.writeByte (wrapIndex (head + UInt64.ofNat framePrefixLen) f.length i) b with
               producer := .copyFrame f head (i + 1) } := by
      simp only [step, pushStep, hp, hsome]
    rw [List.length_cons, List.replicate_succ, Lts.run_cons_of_step _ hstep, run_copyFrame bs _ (i + 1) rfl htail]
    rfl

theorem run_store {f : List UInt8} {s : RingSys} (hp : s.producer = .copyPrefix f s.ring.head 0) :
    Lts.run (step ps cs) s (List.replicate (f.length + 6) .pushStep) =
      some { s with ring := { s.ring with
                      head := s.ring.head + UInt64.ofNat (framePrefixLen + f.length)
                      data := copyInto (copyInto s.ring.data s.ring.head (beBytes 4 f.length))
                        (s.ring.head + UInt64.ofNat framePrefixLen) f },
                    producer := .returned (.ok true),
                    pushed := s.pushed ++ [f] } := by
  have hsplit : f.length + 6 = ((beBytes 4 f.length).length + 1) + (f.length + 1) := by
    rw [beBytes_length]
    omega
  rw [hsplit, List.replicate_add, Lts.run_append_of_run _ (run_copyPrefix (beBytes 4 f.length) s 0 hp rfl),
    run_copyFrame f _ 0 rfl rfl, copyInto, copyInto, beBytes_length]

theorem pushFrame_refused {r : Ring} {f : List UInt8} {result : PushResult}
    (h : lenRefusal ps f.length = some result) : pushFrame ps r f = (result, r) := by
  cases ps with
  | spsc =>
    simp only [lenRefusal, Option.ite_none_right_eq_some, Option.some.injEq] at h
    obtain ⟨hlen, rfl⟩ := h
    simp only [pushFrame, Spsc.pushFrame, hlen, if_true]
  | mapped =>
    simp only [lenRefusal, Option.ite_none_right_eq_some, Option.some.injEq] at h
    obtain ⟨hlen, rfl⟩ := h
    simp only [pushFrame, Mapped.pushFrame, hlen, if_true, Except.map]

theorem pushFrame_admitted {r : Ring} {f : List UInt8} (h : lenRefusal ps f.length = none) :
    pushFrame ps r f =
      if Spsc.availableSpace r.head r.tail < framePrefixLen + f.length then
        (spaceRefusal ps (framePrefixLen + f.length) (Spsc.availableSpace r.head r.tail), r)
      else
        (.ok true, { r with
          head := r.head + UInt64.ofNat (framePrefixLen + f.length)
          data := copyInto (copyInto r.data r.head (beBytes 4 f.length)) (r.head + UInt64.ofNat framePrefixLen) f }) := by
  cases ps with
  | spsc =>
    simp only [lenRefusal, ite_eq_right_iff, reduceCtorEq, imp_false] at h
    by_cases hfull : Spsc.availableSpace r.head r.tail < framePrefixLen + f.length <;>
      simp only [pushFrame, Spsc.pushFrame, h, hfull, if_true, if_false, spaceRefusal, Bool.false_eq_true]
  | mapped =>
    simp only [lenRefusal, ite_eq_right_iff, reduceCtorEq, imp_false] at h
    by_cases hfull : Spsc.availableSpace r.head r.tail < framePrefixLen + f.length <;>
      simp only [pushFrame, Mapped.pushFrame, Mapped.availableSpace_eq, h, hfull, if_true, if_false, spaceRefusal, writeWrapped_eq_copyInto,
        Except.map]

theorem run_push_alone {s : RingSys} {result : PushResult} (hp : s.producer = .returned result) (f : List UInt8) :
    ∃ n s', Lts.run (step ps cs) s (.pushCall f :: List.replicate n .pushStep) = some s' ∧
      s'.producer = .returned (pushFrame ps s.ring f).1 ∧ s'.ring = (pushFrame ps s.ring f).2 := by
  cases hlen : lenRefusal ps f.length with
  | some refusal =>
    have hcall : step ps cs s (.pushCall f) = some { s with producer := .returned refusal } := by
      simp only [step, pushCall, hp, hlen]
    rw [pushFrame_refused hlen]
    exact ⟨0, _, Lts.run_cons_of_step _ hcall _, rfl, rfl⟩
  | none =>
    have hcall : step ps cs s (.pushCall f) = some { s with producer := .loadTail f } := by
      simp only [step, pushCall, hp, hlen]
    have htail : step ps cs { s with producer := .loadTail f } .pushStep =
        some { s with producer := .loadHead f s.ring.tail } := rfl
    rw [pushFrame_admitted hlen]
    by_cases hfull : Spsc.availableSpace s.ring.head s.ring.tail < framePrefixLen + f.length
    · have hhead : step ps cs { s with producer := .loadHead f s.ring.tail } .pushStep =
          some { s with producer := .returned (spaceRefusal ps (framePrefixLen + f.length)
            (Spsc.availableSpace s.ring.head s.ring.tail)) } := by
        simp only [step, pushStep, availableSpace_eq, hfull, if_true]
      rw [if_pos hfull]
      refine ⟨2, { s with producer := .returned (spaceRefusal ps _ _) }, ?_, rfl, rfl⟩
      rw [Lts.run_cons_of_step _ hcall, List.replicate_succ, Lts.run_cons_of_step _ htail, List.replicate_succ,
        Lts.run_cons_of_step _ hhead]
      rfl
    · have hhead : step ps cs { s with producer := .loadHead f s.ring.tail } .pushStep =
          some { s with producer := .copyPrefix f s.ring.head 0 } := by
        simp only [step, pushStep, availableSpace_eq, hfull, if_false]
      have hrun := @run_store ps cs f { s with producer := .copyPrefix f s.ring.head 0 } rfl
      rw [if_neg hfull]
      exact ⟨f.length + 6 + 1 + 1, _, by
        rw [Lts.run_cons_of_step _ hcall, List.replicate_succ, Lts.run_cons_of_step _ htail, List.replicate_succ,
          Lts.run_cons_of_step _ hhead, hrun], rfl, rfl⟩

theorem run_peek {maxLen available : Nat} {tail : UInt64} : ∀ (n k : Nat) (s : RingSys), k + n = framePrefixLen →
    s.consumer = .peek maxLen available tail
      ((List.range k).map fun i => s.ring.data (wrapIndex tail framePrefixLen i)) →
      Lts.run (step ps cs) s (List.replicate n .popStep) =
        some { s with consumer := .peek maxLen available tail (copyFrom s.ring.data tail framePrefixLen) }
  | 0, k, s, hk, hc => by
    obtain rfl : k = framePrefixLen := hk
    rw [List.replicate_zero, Lts.run_nil, copyFrom, ← hc]
  | n + 1, k, s, hk, hc => by
    have hlt : k < framePrefixLen := by omega
    have hstep : step ps cs s .popStep = some { s with
        consumer := .peek maxLen available tail
          ((List.range (k + 1)).map fun i => s.ring.data (wrapIndex tail framePrefixLen i)) } := by
      simp only [step, popStep, hc, List.length_map, List.length_range, hlt, if_true, List.range_succ,
        List.map_append, List.map_cons, List.map_nil]
    rw [List.replicate_succ, Lts.run_cons_of_step _ hstep, run_peek n (k + 1) _ (by omega) rfl]

theorem run_copy {tail : UInt64} {frameLen : Nat} : ∀ (n k : Nat) (s : RingSys), k + n = frameLen →
    s.consumer = .copy tail frameLen
      ((List.range k).map fun i => s.ring.data (wrapIndex (tail + UInt64.ofNat framePrefixLen) frameLen i)) →
      Lts.run (step ps cs) s (List.replicate (n + 1) .popStep) =
        some { s with ring := { s.ring with tail := tail + UInt64.ofNat (framePrefixLen + frameLen) },
                      consumer := .returned (.ok (some (copyFrom s.ring.data
                        (tail + UInt64.ofNat framePrefixLen) frameLen))),
                      popped := s.popped ++ [copyFrom s.ring.data (tail + UInt64.ofNat framePrefixLen) frameLen] }
  | 0, k, s, hk, hc => by
    obtain rfl : k = frameLen := hk
    simp only [Nat.zero_add, List.replicate_one, Lts.run_cons, step, popStep, hc, List.length_map, List.length_range,
      Nat.lt_irrefl, if_false, Option.bind_some, Lts.run_nil, copyFrom]
  | n + 1, k, s, hk, hc => by
    have hlt : k < frameLen := by omega
    have hstep : step ps cs s .popStep = some { s with
        consumer := .copy tail frameLen
          ((List.range (k + 1)).map fun i =>
            s.ring.data (wrapIndex (tail + UInt64.ofNat framePrefixLen) frameLen i)) } := by
      simp only [step, popStep, hc, List.length_map, List.length_range, hlt, if_true, List.range_succ,
        List.map_append, List.map_cons, List.map_nil]
    rw [List.replicate_succ, Lts.run_cons_of_step _ hstep, run_copy n (k + 1) _ (by omega) rfl]

theorem popFrame_empty (side : RingSide) {r : Ring} (maxLen : Nat)
    (hempty : (r.head - r.tail).toNat < framePrefixLen) : popFrame side r maxLen = (.ok none, r) := by
  cases side with
  | spsc => simp only [popFrame, Spsc.popFrame, hempty, if_true]
  | mapped => simp only [popFrame, Mapped.popFrame, hempty, if_true]

theorem popFrame_refused (side : RingSide) {r : Ring} {maxLen : Nat} {result : PopResult}
    (hsome : ¬ (r.head - r.tail).toNat < framePrefixLen)
    (href : popRefusal side (r.head - r.tail).toNat (beNat (copyFrom r.data r.tail framePrefixLen)) maxLen =
      some result) : popFrame side r maxLen = (result, r) := by
  cases side with
  | spsc =>
    simp only [popRefusal, Option.ite_none_right_eq_some, Option.some.injEq] at href
    obtain ⟨hshort, rfl⟩ := href
    simp only [popFrame, Spsc.popFrame, Spsc.peekU32, hsome, hshort, if_true, if_false]
  | mapped =>
    simp only [popFrame, Mapped.popFrame, hsome, readWrapped_eq_copyFrom, if_false]
    by_cases hbig : maxLen < beNat (copyFrom r.data r.tail framePrefixLen)
    · simp only [popRefusal, hbig, if_true, Option.some.injEq] at href
      simp only [hbig, if_true, href]
    · simp only [popRefusal, hbig, if_false, Option.ite_none_right_eq_some, Option.some.injEq] at href
      obtain ⟨hshort, rfl⟩ := href
      simp only [hbig, hshort, if_true, if_false]

theorem popFrame_admitted (side : RingSide) {r : Ring} {maxLen : Nat}
    (hsome : ¬ (r.head - r.tail).toNat < framePrefixLen)
    (href : popRefusal side (r.head - r.tail).toNat (beNat (copyFrom r.data r.tail framePrefixLen)) maxLen = none) :
    popFrame side r maxLen =
      (.ok (some (copyFrom r.data (r.tail + UInt64.ofNat framePrefixLen)
          (beNat (copyFrom r.data r.tail framePrefixLen)))),
        { r with tail := r.tail +
            UInt64.ofNat (framePrefixLen + beNat (copyFrom r.data r.tail framePrefixLen)) }) := by
  cases side with
  | spsc =>
    simp only [popRefusal, ite_eq_right_iff, reduceCtorEq, imp_false] at href
    simp only [popFrame, Spsc.popFrame, Spsc.peekU32, hsome, href, if_false]
  | mapped =>
    by_cases hbig : maxLen < beNat (copyFrom r.data r.tail framePrefixLen)
    · simp only [popRefusal, hbig, if_true, reduceCtorEq] at href
    · simp only [popRefusal, hbig, if_false, ite_eq_right_iff, reduceCtorEq, imp_false] at href
      simp only [popFrame, Mapped.popFrame, hsome, readWrapped_eq_copyFrom, hbig, href, if_false]

theorem run_pop_alone {s : RingSys} {result : PopResult} (hc : s.consumer = .returned result) (maxLen : Nat) :
    ∃ n s', Lts.run (step ps cs) s (.popCall maxLen :: List.replicate n .popStep) = some s' ∧
      s'.consumer = .returned (popFrame cs s.ring maxLen).1 ∧ s'.ring = (popFrame cs s.ring maxLen).2 := by
  have hcall : step ps cs s (.popCall maxLen) = some { s with consumer := .loadHead maxLen } := by
    simp only [step, popCall, hc]
  have hhead : step ps cs { s with consumer := .loadHead maxLen } .popStep =
      some { s with consumer := .loadTail maxLen s.ring.head } := rfl
  by_cases hempty : (s.ring.head - s.ring.tail).toNat < framePrefixLen
  · have htail : step ps cs { s with consumer := .loadTail maxLen s.ring.head } .popStep =
        some { s with consumer := .returned (.ok none) } := by
      simp only [step, popStep, hempty, if_true]
    rw [popFrame_empty cs maxLen hempty]
    exact ⟨2, { s with consumer := .returned (.ok none) }, by
      rw [Lts.run_cons_of_step _ hcall, List.replicate_succ, Lts.run_cons_of_step _ hhead, List.replicate_one,
        Lts.run_cons_of_step _ htail, Lts.run_nil], rfl, rfl⟩
  · have htail : step ps cs { s with consumer := .loadTail maxLen s.ring.head } .popStep =
        some { s with consumer := .peek maxLen (s.ring.head - s.ring.tail).toNat s.ring.tail [] } := by
      simp only [step, popStep, hempty, if_false]
    have hpeek := @run_peek ps cs maxLen (s.ring.head - s.ring.tail).toNat s.ring.tail framePrefixLen 0
      { s with consumer := .peek maxLen (s.ring.head - s.ring.tail).toNat s.ring.tail [] } (Nat.zero_add _) rfl
    have hstart : ∀ n, Lts.run (step ps cs) s (.popCall maxLen :: List.replicate (framePrefixLen + n + 1 + 1) .popStep) =
        Lts.run (step ps cs) { s with
          consumer := .peek maxLen (s.ring.head - s.ring.tail).toNat s.ring.tail
            (copyFrom s.ring.data s.ring.tail framePrefixLen) } (List.replicate n .popStep) := by
      intro n
      rw [Lts.run_cons_of_step _ hcall, List.replicate_succ, Lts.run_cons_of_step _ hhead, List.replicate_succ,
        Lts.run_cons_of_step _ htail, List.replicate_add, Lts.run_append_of_run _ hpeek]
    have hread : ¬ (copyFrom s.ring.data s.ring.tail framePrefixLen).length < framePrefixLen := by
      simp [copyFrom]
    cases href : popRefusal cs (s.ring.head - s.ring.tail).toNat
        (beNat (copyFrom s.ring.data s.ring.tail framePrefixLen)) maxLen with
    | some refusal =>
      have hrefuse : step ps cs { s with
            consumer := .peek maxLen (s.ring.head - s.ring.tail).toNat s.ring.tail
              (copyFrom s.ring.data s.ring.tail framePrefixLen) } .popStep =
          some { s with consumer := .returned refusal } := by
        simp only [step, popStep, hread, if_false, href]
      rw [popFrame_refused cs hempty href]
      refine ⟨framePrefixLen + 1 + 1 + 1, { s with consumer := .returned refusal }, ?_, rfl, rfl⟩
      rw [hstart 1, List.replicate_one, Lts.run_cons_of_step _ hrefuse, Lts.run_nil]
    | none =>
      have hadmit : step ps cs { s with
            consumer := .peek maxLen (s.ring.head - s.ring.tail).toNat s.ring.tail
              (copyFrom s.ring.data s.ring.tail framePrefixLen) } .popStep =
          some { s with
            consumer := .copy s.ring.tail (beNat (copyFrom s.ring.data s.ring.tail framePrefixLen)) [] } := by
        simp only [step, popStep, hread, if_false, href]
      have hcopy := @run_copy ps cs s.ring.tail (beNat (copyFrom s.ring.data s.ring.tail framePrefixLen))
        (beNat (copyFrom s.ring.data s.ring.tail framePrefixLen)) 0 { s with
          consumer := .copy s.ring.tail (beNat (copyFrom s.ring.data s.ring.tail framePrefixLen)) [] }
        (Nat.zero_add _) rfl
      rw [popFrame_admitted cs hempty href]
      have hrun := hstart (beNat (copyFrom s.ring.data s.ring.tail framePrefixLen) + 1 + 1)
      rw [@List.replicate_succ _ _ (beNat _ + 1), Lts.run_cons_of_step _ hadmit, hcopy] at hrun
      exact ⟨_, _, hrun, rfl, rfl⟩

end

end RingSys

end WhyUsb
