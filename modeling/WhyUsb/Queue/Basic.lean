import Std.Data.TreeMap
import Std.Data.TreeSet
import WhyUsb.Protocol.Frame

/-!
# `EndpointTransferQueues`

A queue of transfers for every endpoint key, with the bookkeeping of
`pop_next`: the keys with work in the order they are served. `BTreeMap` and
`BTreeSet` are the tree map and tree set over the derived order of the key.
-/

namespace WhyUsb

structure EndpointKey where
  direction : Direction
  transferType : TransferType
  endpoint : UInt8
  deriving DecidableEq, Repr

namespace EndpointKey

def fromFrame (f : Frame) : EndpointKey where
  direction := f.direction
  transferType := f.transferType
  endpoint := f.endpoint

/-- The derived `Ord`: fields in order, variants by discriminant. -/
def cmp : EndpointKey → EndpointKey → Ordering :=
  compareLex (compareOn fun k => k.direction.asU8)
    (compareLex (compareOn fun k => k.transferType.asU8) (compareOn fun k => k.endpoint))

instance : Std.TransCmp cmp :=
  inferInstanceAs (Std.TransCmp (compareLex (compareOn fun k : EndpointKey => k.direction.asU8)
    (compareLex (compareOn fun k => k.transferType.asU8) (compareOn fun k => k.endpoint))))

instance : Std.LawfulEqCmp cmp where
  eq_of_compare {a b} h := by
    simp only [cmp, compareLex, compareOn, Ordering.then_eq_eq, Std.LawfulEqOrd.compare_eq_iff_eq] at h
    obtain ⟨hd, ht, he⟩ := h
    have hd' : a.direction = b.direction := by
      have := congrArg Direction.tryFrom hd
      simpa using this
    have ht' : a.transferType = b.transferType := by
      have := congrArg TransferType.tryFrom ht
      simpa using this
    cases a
    cases b
    cases hd'
    cases ht'
    cases he
    rfl

end EndpointKey

structure QueuedTransfer where
  sequence : UInt64
  key : EndpointKey
  frame : Frame
  deriving DecidableEq, Repr

inductive EndpointQueueError where
  | unsupportedFrameType (frameType : FrameType)
  deriving DecidableEq, Repr

structure EndpointTransferQueues where
  nextSequence : UInt64
  queues : Std.TreeMap EndpointKey (List QueuedTransfer) EndpointKey.cmp
  activeOrder : List EndpointKey
  activeKeys : Std.TreeSet EndpointKey EndpointKey.cmp
  len : Nat

namespace EndpointTransferQueues

def default : EndpointTransferQueues where
  nextSequence := 0
  queues := ∅
  activeOrder := []
  activeKeys := ∅
  len := 0

def enqueue (q : EndpointTransferQueues) (frame : Frame) :
    Except EndpointQueueError UInt64 × EndpointTransferQueues :=
  if frame.frameType ≠ .request then (.error (.unsupportedFrameType frame.frameType), q)
  else
    let key := EndpointKey.fromFrame frame
    let sequence := q.nextSequence
    let queue := (q.queues[key]?).getD []
    let wasEmpty := queue.isEmpty
    let q := { q with
      nextSequence := q.nextSequence + 1
      queues := q.queues.insert key (queue ++ [{ sequence, key, frame }])
      len := q.len + 1 }
    if wasEmpty ∧ key ∉ q.activeKeys then
      (.ok sequence, { q with activeKeys := q.activeKeys.insert key, activeOrder := q.activeOrder ++ [key] })
    else (.ok sequence, q)

/-- The `while let` loop of `pop_next` over what is left of `active_order`. -/
def popNextLoop (q : EndpointTransferQueues) : List EndpointKey → Option QueuedTransfer × EndpointTransferQueues
  | [] => (none, { q with activeOrder := [] })
  | key :: order =>
    match q.queues[key]? with
    | none => popNextLoop { q with activeKeys := q.activeKeys.erase key } order
    | some [] => popNextLoop { q with activeKeys := q.activeKeys.erase key } order
    | some (transfer :: queue) =>
      let q := { q with len := q.len - 1 }
      if queue.isEmpty then
        (some transfer,
          { q with activeOrder := order, activeKeys := q.activeKeys.erase key, queues := q.queues.erase key })
      else (some transfer, { q with activeOrder := order ++ [key], queues := q.queues.insert key queue })

def popNext (q : EndpointTransferQueues) : Option QueuedTransfer × EndpointTransferQueues :=
  popNextLoop q q.activeOrder

def removeActiveKey (q : EndpointTransferQueues) (key : EndpointKey) : EndpointTransferQueues :=
  { q with
    queues := q.queues.erase key
    activeKeys := q.activeKeys.erase key
    activeOrder := q.activeOrder.filter fun candidate => candidate ≠ key }

/-- The first queue, in key order, that holds the request, and its position there. -/
def findRequest (requestId : UInt64) :
    List (EndpointKey × List QueuedTransfer) → Option (EndpointKey × List QueuedTransfer × Nat)
  | [] => none
  | (key, queue) :: rest =>
    match queue.findIdx? fun transfer => transfer.frame.requestId == requestId with
    | none => findRequest requestId rest
    | some index => some (key, queue, index)

def cancel (q : EndpointTransferQueues) (requestId : UInt64) : Option QueuedTransfer × EndpointTransferQueues :=
  match findRequest requestId q.queues.toList with
  | none => (none, q)
  | some (key, queue, index) =>
    match queue[index]? with
    | none => (none, q)
    | some transfer =>
      let rest := queue.eraseIdx index
      let q := { q with queues := q.queues.insert key rest, len := q.len - 1 }
      (some transfer, if rest.isEmpty then q.removeActiveKey key else q)

def resetEndpoint (q : EndpointTransferQueues) (key : EndpointKey) : List QueuedTransfer × EndpointTransferQueues :=
  match q.queues[key]? with
  | none => ([], q)
  | some queue => (queue, { q.removeActiveKey key with len := q.len - queue.length })

def clear (q : EndpointTransferQueues) : Nat × EndpointTransferQueues :=
  (q.len, { nextSequence := 0, queues := ∅, activeOrder := [], activeKeys := ∅, len := 0 })

end EndpointTransferQueues

end WhyUsb
