import WhyUsb.Lib.Mealy
import WhyUsb.Ring.Agreement
import WhyUsb.Ring.Interleaving

/-!
# The ring as a bounded pipe of bytes

`SPSC_RingBuffer` also has calls that add and take bytes without a length
prefix. A raw call may split a frame or leave bytes that were never framed
where `pop_frame` expects a prefix. Whatever calls are made, raw or framed, on
either implementation, the ring answers as a queue of bytes does. Both sides'
cursor arithmetic wraps, as `MappedRing`'s does in a release build.
-/

namespace WhyUsb

open Circular Endian

/-! ## The raw calls of `SPSC_RingBuffer` -/

namespace Spsc

def availableData (r : Ring) : Nat := (r.head - r.tail).toNat

def push (r : Ring) (src : List UInt8) : Bool × Ring :=
  if availableSpace r.head r.tail < src.length then (false, r)
  else (true, { r with head := r.head + UInt64.ofNat src.length, data := copyInto r.data r.head src })

def pop (r : Ring) (len : Nat) : Option (List UInt8) × Ring :=
  if availableData r < len then (none, r)
  else (some (copyFrom r.data r.tail len), { r with tail := r.tail + UInt64.ofNat len })

def popSome (r : Ring) (maxLen : Nat) : List UInt8 × Ring :=
  if availableData r = 0 then ([], r)
  else
    let len := if maxLen < availableData r then maxLen else availableData r
    (copyFrom r.data r.tail len, { r with tail := r.tail + UInt64.ofNat len })

end Spsc

inductive ByteCall where
  | push (src : List UInt8)
  | pop (len : Nat)
  | popSome (maxLen : Nat)
  | pushFrame (side : RingSide) (frame : List UInt8)
  | popFrame (side : RingSide) (maxLen : Nat)

inductive ByteAnswer where
  | pushed (accepted : Bool)
  | popped (bytes : Option (List UInt8))
  deriving DecidableEq, Repr

def pushAccepted : PushResult → Bool
  | .ok taken => taken
  | .error _ => false

def popGiven : PopResult → Option (List UInt8)
  | .ok frame => frame
  | .error _ => none

def Ring.call : ByteCall → Ring → ByteAnswer × Ring
  | .push src, r => (.pushed (Spsc.push r src).1, (Spsc.push r src).2)
  | .pop len, r => (.popped (Spsc.pop r len).1, (Spsc.pop r len).2)
  | .popSome maxLen, r => (.popped (some (Spsc.popSome r maxLen).1), (Spsc.popSome r maxLen).2)
  | .pushFrame side frame, r =>
    (.pushed (pushAccepted (RingSys.pushFrame side r frame).1), (RingSys.pushFrame side r frame).2)
  | .popFrame side maxLen, r =>
    (.popped (popGiven (RingSys.popFrame side r maxLen).1), (RingSys.popFrame side r maxLen).2)

/-! ## The pipe -/

namespace Pipe

def put (src q : List UInt8) : ByteAnswer × List UInt8 :=
  if q.length + src.length ≤ ringBufferSize then (.pushed true, q ++ src) else (.pushed false, q)

/-- The frame that the first bytes of `q` spell, if all of it is there. -/
def front (q : List UInt8) : Option (List UInt8) :=
  if 4 ≤ q.length ∧ 4 + beNat (q.take 4) ≤ q.length then some ((q.drop 4).take (beNat (q.take 4))) else none

def call : ByteCall → List UInt8 → ByteAnswer × List UInt8
  | .push src, q => put src q
  | .pushFrame _ frame, q => put (entry frame) q
  | .pop len, q => if len ≤ q.length then (.popped (some (q.take len)), q.drop len) else (.popped none, q)
  | .popSome maxLen, q => (.popped (some (q.take maxLen)), q.drop maxLen)
  | .popFrame _ maxLen, q =>
    match front q with
    | none => (.popped none, q)
    | some frame =>
      if frame.length ≤ maxLen then (.popped (some frame), q.drop (4 + frame.length)) else (.popped none, q)

/-- The bytes a call took off the pipe, the length prefix of a frame among them. -/
def taken : ByteCall × ByteAnswer → List UInt8
  | (.popFrame .., .popped (some frame)) => entry frame
  | (_, .popped (some bytes)) => bytes
  | _ => []

def added : ByteCall × ByteAnswer → List UInt8
  | (.push src, .pushed true) => src
  | (.pushFrame _ frame, .pushed true) => entry frame
  | _ => []

theorem front_eq_some {q frame : List UInt8} (h : front q = some frame) :
    q = entry frame ++ q.drop (4 + frame.length) := by
  unfold front at h
  split at h
  · rename_i hfits
    obtain ⟨hfour, hframe⟩ := hfits
    obtain rfl := Option.some.inj h
    have hlen : ((q.drop 4).take (beNat (q.take 4))).length = beNat (q.take 4) := by
      rw [List.length_take, List.length_drop]
      omega
    have htake : beBytes 4 (beNat (q.take 4)) = q.take 4 := by
      have hb := beBytes_beNat (q.take 4)
      rwa [List.length_take, Nat.min_eq_left hfour] at hb
    rw [entry, hlen, htake, List.append_assoc, ← List.drop_drop, List.take_append_drop, List.take_append_drop]
  · cases h

theorem call_balanced (c : ByteCall) (q : List UInt8) :
    taken (c, (call c q).1) ++ (call c q).2 = q ++ added (c, (call c q).1) := by
  cases c with
  | push src =>
    rw [call, put]
    split
    · rfl
    · exact (List.append_nil q).symm
  | pushFrame side frame =>
    rw [call, put]
    split
    · rfl
    · exact (List.append_nil q).symm
  | pop len =>
    rw [call]
    split
    · exact (List.take_append_drop len q).trans (List.append_nil q).symm
    · exact (List.append_nil q).symm
  | popSome maxLen => exact (List.take_append_drop maxLen q).trans (List.append_nil q).symm
  | popFrame side maxLen =>
    rw [call]
    cases hfront : front q with
    | none => exact (List.append_nil q).symm
    | some frame =>
      dsimp only
      split
      · exact (front_eq_some hfront).symm.trans (List.append_nil q).symm
      · exact (List.append_nil q).symm

end Pipe

/-! ## The bytes between the cursors -/

/-- The ring holds the bytes `bs`, the first of them at absolute position `pos`. -/
structure HoldsBytes (r : Ring) (pos : Nat) (bs : List UInt8) : Prop where
  tail_eq : r.tail = UInt64.ofNat pos
  head_eq : r.head = UInt64.ofNat (pos + bs.length)
  fits : bs.length ≤ ringBufferSize
  bytes : Spells ringBufferSize r.data pos bs

section
variable {r : Ring} {pos : Nat} {bs : List UInt8}

theorem HoldsBytes.availableData (h : HoldsBytes r pos bs) : Spsc.availableData r = bs.length := by
  have hs : ringBufferSize < 2 ^ 64 := by decide
  have := h.fits
  rw [Spsc.availableData, h.head_eq, h.tail_eq, ofNat_sub_toNat (Nat.le_add_right ..) (by omega),
    Nat.add_sub_cancel_left]

theorem HoldsBytes.availableSpace (h : HoldsBytes r pos bs) :
    Spsc.availableSpace r.head r.tail = ringBufferSize - bs.length := by
  have := h.fits
  rw [h.head_eq, h.tail_eq, availableSpace_ofNat (Nat.le_add_right ..) (by omega), Nat.add_sub_cancel_left]

theorem HoldsBytes.take (h : HoldsBytes r pos bs) {n : Nat} (hn : n ≤ bs.length) :
    copyFrom r.data r.tail n = bs.take n ∧
      HoldsBytes { r with tail := r.tail + UInt64.ofNat n } (pos + n) (bs.drop n) := by
  have hfits := h.fits
  have hlen : (bs.take n).length = n := List.length_take_of_le hn
  have hb := h.bytes
  rw [← List.take_append_drop n bs, spells_append, hlen] at hb
  constructor
  · have hread := copyFrom_ofNat (by omega) hb.1
    rwa [hlen, ← h.tail_eq] at hread
  · refine ⟨?_, ?_, ?_, hb.2⟩
    · rw [UInt64.ofNat_add, h.tail_eq]
    · rw [h.head_eq, List.length_drop]
      congr 1
      omega
    · rw [List.length_drop]
      omega

theorem HoldsBytes.store (h : HoldsBytes r pos bs) {src : List UInt8}
    (hroom : bs.length + src.length ≤ ringBufferSize) :
    HoldsBytes { r with head := r.head + UInt64.ofNat src.length, data := copyInto r.data r.head src } pos
      (bs ++ src) where
  tail_eq := h.tail_eq
  head_eq := by rw [h.head_eq, List.length_append, ← Nat.add_assoc, UInt64.ofNat_add (pos + _)]
  fits := by rwa [List.length_append]
  bytes := by
    rw [h.head_eq, spells_append]
    exact ⟨spells_copyInto_outside (by omega) (by omega) h.bytes, spells_copyInto r.data _ (by omega)⟩

/-! ## Each call -/

/-- The ring answers a call as the pipe does and holds what the pipe is left with. -/
def AnswersAsPipe (done : ByteAnswer × Ring) (spec : ByteAnswer × List UInt8) : Prop :=
  done.1 = spec.1 ∧ ∃ pos, HoldsBytes done.2 pos spec.2

theorem push_answers (h : HoldsBytes r pos bs) (src : List UInt8) :
    AnswersAsPipe (Ring.call (.push src) r) (Pipe.call (.push src) bs) := by
  have hfits := h.fits
  rw [AnswersAsPipe, Ring.call, Pipe.call, Pipe.put, Spsc.push, h.availableSpace]
  by_cases hroom : bs.length + src.length ≤ ringBufferSize
  · rw [if_neg (by omega), if_pos hroom]
    exact ⟨rfl, pos, h.store hroom⟩
  · rw [if_pos (by omega), if_neg hroom]
    exact ⟨rfl, pos, h⟩

theorem pop_answers (h : HoldsBytes r pos bs) (len : Nat) :
    AnswersAsPipe (Ring.call (.pop len) r) (Pipe.call (.pop len) bs) := by
  rw [AnswersAsPipe, Ring.call, Pipe.call, Spsc.pop, h.availableData]
  by_cases hlen : len ≤ bs.length
  · obtain ⟨hread, hleft⟩ := h.take hlen
    rw [if_neg (by omega), if_pos hlen, hread]
    exact ⟨rfl, pos + len, hleft⟩
  · rw [if_pos (by omega), if_neg hlen]
    exact ⟨rfl, pos, h⟩

theorem popSome_answers (h : HoldsBytes r pos bs) (maxLen : Nat) :
    AnswersAsPipe (Ring.call (.popSome maxLen) r) (Pipe.call (.popSome maxLen) bs) := by
  rw [AnswersAsPipe, Ring.call, Pipe.call, Spsc.popSome, h.availableData]
  by_cases hempty : bs.length = 0
  · obtain rfl := List.eq_nil_of_length_eq_zero hempty
    rw [if_pos hempty, List.take_nil, List.drop_nil]
    exact ⟨rfl, pos, h⟩
  · obtain ⟨hread, hleft⟩ := h.take (Nat.min_le_right maxLen bs.length)
    have hlen : (if maxLen < bs.length then maxLen else bs.length) = min maxLen bs.length := by
      rw [Nat.min_def]
      split <;> split <;> omega
    rw [if_neg hempty, hlen]
    dsimp only
    rw [hread, ← List.take_eq_take_min]
    refine ⟨rfl, pos + min maxLen bs.length, ?_⟩
    rwa [← List.drop_eq_drop_min] at hleft

/-! ## The framed calls -/

theorem pushFrame_side (side : RingSide) (r : Ring) (f : List UInt8) :
    pushAccepted (RingSys.pushFrame side r f).1 = (Spsc.pushFrame r f).1 ∧
      (RingSys.pushFrame side r f).2 = (Spsc.pushFrame r f).2 := by
  obtain ⟨haccepted, hring⟩ := pushFrame_agrees r f
  cases side with
  | spsc => exact ⟨rfl, rfl⟩
  | mapped =>
    refine ⟨?_, hring.symm⟩
    rw [RingSys.pushFrame]
    cases hmapped : (Mapped.pushFrame r f).1 with
    | ok done => exact (haccepted.mpr hmapped).symm
    | error e =>
      refine (Bool.eq_false_iff.mpr fun htrue => ?_).symm
      exact absurd (hmapped.symm.trans (haccepted.mp htrue)) (by simp)

theorem popFrame_side (side : RingSide) (r : Ring) (maxLen : Nat) :
    popGiven (RingSys.popFrame side r maxLen).1 = (Spsc.popFrame r maxLen).1 ∧
      (RingSys.popFrame side r maxLen).2 = (Spsc.popFrame r maxLen).2 := by
  obtain ⟨hgiven, hring⟩ := popFrame_agrees r maxLen
  cases side with
  | spsc => exact ⟨rfl, rfl⟩
  | mapped =>
    refine ⟨?_, hring.symm⟩
    rw [RingSys.popFrame]
    cases hspsc : (Spsc.popFrame r maxLen).1 with
    | some frame => rw [(hgiven frame).mp hspsc, popGiven]
    | none =>
      cases hmapped : (Mapped.popFrame r maxLen).1 with
      | error e => rfl
      | ok result =>
        cases result with
        | none => rfl
        | some frame => exact absurd (hspsc.symm.trans ((hgiven frame).mpr hmapped)) (by simp)

theorem spsc_pushFrame_answers (h : HoldsBytes r pos bs) (f : List UInt8) :
    AnswersAsPipe (.pushed (Spsc.pushFrame r f).1, (Spsc.pushFrame r f).2) (Pipe.put (entry f) bs) := by
  have hs : ringBufferSize ≤ uint32Max := by decide
  have hfits := h.fits
  rw [AnswersAsPipe, Pipe.put, entry_length, Spsc.pushFrame, h.availableSpace, framePrefixLen_eq]
  by_cases hroom : bs.length + (4 + f.length) ≤ ringBufferSize
  · rw [lenRejected_of_le (by omega), if_neg Bool.false_ne_true, if_pos hroom]
    dsimp only
    rw [if_neg (by omega)]
    -- the prefix is stored first, the frame behind it
    have hfour := h.store (show bs.length + (beBytes 4 f.length).length ≤ ringBufferSize by
      rw [beBytes_length]; omega)
    have hframe := hfour.store (show (bs ++ beBytes 4 f.length).length + f.length ≤ ringBufferSize by
      rw [List.length_append, beBytes_length]; omega)
    rw [beBytes_length, List.append_assoc, ← entry] at hframe
    dsimp only at hframe
    rw [UInt64.add_assoc, ← UInt64.ofNat_add] at hframe
    exact ⟨rfl, pos, hframe⟩
  · rw [if_neg hroom]
    split
    · exact ⟨rfl, pos, h⟩
    · dsimp only
      rw [if_pos (by omega)]
      exact ⟨rfl, pos, h⟩

theorem pushFrame_answers (h : HoldsBytes r pos bs) (side : RingSide) (f : List UInt8) :
    AnswersAsPipe (Ring.call (.pushFrame side f) r) (Pipe.call (.pushFrame side f) bs) := by
  obtain ⟨haccepted, hring⟩ := pushFrame_side side r f
  rw [Ring.call, Pipe.call, haccepted, hring]
  exact spsc_pushFrame_answers h f

theorem popFrame_answers (h : HoldsBytes r pos bs) (side : RingSide) (maxLen : Nat) :
    AnswersAsPipe (Ring.call (.popFrame side maxLen) r) (Pipe.call (.popFrame side maxLen) bs) := by
  obtain ⟨hgiven, hring⟩ := popFrame_side side r maxLen
  have hdata := h.availableData
  rw [Spsc.availableData] at hdata
  rw [AnswersAsPipe, Ring.call, Pipe.call, hgiven, hring, Spsc.popFrame, hdata, framePrefixLen_eq]
  dsimp only
  by_cases hfour : 4 ≤ bs.length
  · obtain ⟨hread, hbehind⟩ := h.take hfour
    rw [if_neg (Nat.not_lt.mpr hfour), Spsc.peekU32, framePrefixLen_eq, hread]
    by_cases hframe : 4 + beNat (bs.take 4) ≤ bs.length
    · have hlen : beNat (bs.take 4) ≤ (bs.drop 4).length := by
        rw [List.length_drop]
        omega
      rw [Pipe.front, if_pos (And.intro hfour hframe)]
      dsimp only
      rw [List.length_take_of_le hlen]
      by_cases hmax : beNat (bs.take 4) ≤ maxLen
      · rw [if_neg (by omega), if_pos hmax]
        obtain ⟨hbody, -⟩ := hbehind.take hlen
        exact ⟨congrArg (fun frame => ByteAnswer.popped (some frame)) hbody, pos + _, (h.take hframe).2⟩
      · rw [if_pos (by omega), if_neg hmax]
        exact ⟨rfl, pos, h⟩
    · rw [Pipe.front, if_neg fun hboth : _ ∧ _ => hframe hboth.2, if_pos (by omega)]
      exact ⟨rfl, pos, h⟩
  · rw [if_pos (by omega), Pipe.front, if_neg fun hboth : _ ∧ _ => hfour hboth.1]
    exact ⟨rfl, pos, h⟩

end

/-! ## Runs -/

theorem call_answers (c : ByteCall) (r : Ring) (bs : List UInt8) (h : ∃ pos, HoldsBytes r pos bs) :
    AnswersAsPipe (Ring.call c r) (Pipe.call c bs) := by
  obtain ⟨pos, h⟩ := h
  cases c with
  | push src => exact push_answers h src
  | pop len => exact pop_answers h len
  | popSome maxLen => exact popSome_answers h maxLen
  | pushFrame side frame => exact pushFrame_answers h side frame
  | popFrame side maxLen => exact popFrame_answers h side maxLen

/-- From an empty ring, wherever its cursors stand, a run of calls is a run of the pipe: what was taken off and what
is left are the bytes that went in, in that order, and the sizes the ring reports are those of what is left. -/
theorem calls_are_pipe (r : Ring) (hr : r.head = r.tail) (calls : List ByteCall) :
    ∃ left, Mealy.run Pipe.call [] calls = ((Mealy.run Ring.call r calls).1, left) ∧
      (Mealy.run Ring.call r calls).1.flatMap Pipe.taken ++ left = (Mealy.run Ring.call r calls).1.flatMap Pipe.added ∧
      Spsc.availableData (Mealy.run Ring.call r calls).2 = left.length ∧
      Spsc.availableSpace (Mealy.run Ring.call r calls).2.head (Mealy.run Ring.call r calls).2.tail =
        ringBufferSize - left.length ∧
      left.length ≤ ringBufferSize := by
  have hempty : HoldsBytes r r.tail.toNat [] :=
    ⟨UInt64.ofNat_toNat.symm, hr.trans UInt64.ofNat_toNat.symm, Nat.zero_le _, spells_nil ..⟩
  obtain ⟨hanswers, pos, hleft⟩ := Mealy.run_follows (R := fun r bs => ∃ pos, HoldsBytes r pos bs) call_answers
    calls ⟨r.tail.toNat, hempty⟩
  have hbooks : (Mealy.run Pipe.call [] calls).1.flatMap Pipe.taken ++ id (Mealy.run Pipe.call [] calls).2 =
      id [] ++ (Mealy.run Pipe.call [] calls).1.flatMap Pipe.added :=
    Mealy.run_balanced (P := fun _ => True) (fun _ _ _ => trivial) (fun c q _ => Pipe.call_balanced c q) calls trivial
  rw [← hanswers] at hbooks
  refine ⟨(Mealy.run Pipe.call [] calls).2, ?_, hbooks, hleft.availableData, hleft.availableSpace, hleft.fits⟩
  rw [hanswers]

/-- A ring whose cursors are about to wrap. -/
def wrappingRing : Ring where
  head := 18446744073709551615
  tail := 18446744073709551615
  data := fun _ => 0

/-- A frame is pushed behind raw bytes, and what is popped as a frame starts among them. -/
def splitFrame : List ByteCall := [.push [0, 0], .pushFrame .mapped [7], .popSome 1, .popFrame .spsc 8, .pop 2]

theorem calls_are_pipe_wrapping :
    (Mealy.run Ring.call wrappingRing splitFrame).1.map Prod.snd =
      [.pushed true, .pushed true, .popped (some [0]), .popped (some []), .popped (some [1, 7])] := by
  obtain ⟨left, hrun, -⟩ := calls_are_pipe wrappingRing rfl splitFrame
  have hanswers := congrArg (fun run => run.1.map Prod.snd) hrun
  exact hanswers.symm.trans (by decide)

end WhyUsb
