import WhyUsb.Session.ClientSteps
import WhyUsb.Session.Enumeration

/-!
# The frame limit

With a limit the client sends its detach request when it counts as many
responses, compared for equality where one is counted. The request ids come from
the attach, the control requests and the task; the detach request takes the one
behind all that the task may use.
-/

namespace WhyUsb

open Lts

theorem succ_toNat {x : UInt64} (h : x.toNat + 1 < 2 ^ 64) : (x + 1).toNat = x.toNat + 1 := by
  rw [UInt64.toNat_add, UInt64.toNat_one, Nat.mod_eq_of_lt h]

theorem sevenAdd_toNat {x : UInt64} (h : 7 + x.toNat < 2 ^ 64) : (7 + x).toNat = 7 + x.toNat := by
  have hseven : (7 : UInt64).toNat = 7 := rfl
  rw [UInt64.toNat_add, hseven, Nat.mod_eq_of_lt h]

namespace ClientSession

structure Handshaking (requestId : UInt64) (s : ClientSession) : Prop where
  state : s.state = .connected
  nextRequestId : s.nextRequestId = requestId
  sentFrames : s.sentFrames = 0
  channel : s.channel = []
  dataResponses : s.dataResponses = 0
  detachSent : s.detachSent = false

/-- In the main loop, with a limit whose detach id fits, and the ids of the task as many as its frames. -/
structure Looping (limit : UInt64) (s : ClientSession) : Prop where
  state : s.state = .attached
  nextRequestId : s.nextRequestId = 7
  positive : 0 < limit.toNat
  fits : 7 + limit.toNat < 2 ^ 64
  sentFrames : s.sentFrames.toNat ≤ limit.toNat
  requestId : s.requestId = 7 + s.sentFrames

def Standing (limit : UInt64) (s : ClientSession) : Prop :=
  match s.main with
  | .sendAttach | .awaitAttach => s.Handshaking 2
  | .sendControl step => s.Handshaking step.requestId
  | .awaitControl step _ => s.Handshaking (step.requestId + 1)
  | .select | .sendFrame _ | .inject _ => s.Looping limit ∧ (s.detachSent = true ↔ limit ≤ s.dataResponses)
  | .sendDetach => s.Looping limit ∧ s.detachSent = false ∧ s.dataResponses = limit
  | .failed | .panicked | .closed => True

def Enters (s : ClientSession) (a : ClientAct) : Prop :=
  ∃ bytes requestId, a = .receive bytes ∧ s.main = .awaitControl .setConfiguration requestId ∧
    s.Accepts .setConfiguration requestId bytes

end ClientSession

namespace ClientRun

/-- At each boundary of the main loop the request has been sent just when the limit is reached, and the sum of its id
does not overflow; it is sent once, with an id of its own. -/
structure DetachBounded (limit : UInt64) (s : ClientRun) : Prop where
  boundary : s.session.main = .select → (s.session.detachSent = true ↔ limit ≤ s.session.dataResponses) ∧
    s.session.nextRequestId.toNat + limit.toNat < 2 ^ 64
  once : (s.sent.filter fun f => f.frameType = .detachRequest).length ≤ 1
  fresh : s.sent.Pairwise fun f g => g.frameType = .detachRequest → f.requestId ≠ g.requestId

/-- The limit is zero or too large for its detach id when the loop begins, or the count of responses overflows. -/
def Slips (cfg : ClientConfig) (limit : UInt64) (s : ClientRun) (a : ClientAct) : Prop :=
  s.session.Enters a ∧ (limit.toNat = 0 ∨ 2 ^ 64 ≤ 7 + limit.toNat) ∨
    s.session.Counts cfg a ∧ s.session.dataResponses.toNat = 2 ^ 64 - 1

/-- Ids below the next of their kind, only requests in the channel, and no detach request unless it is noted. -/
structure Booked (s : ClientRun) : Prop where
  ids : ∀ f ∈ s.sent ++ (s.session.channel ++ s.session.main.held), f.frameType = .detachRequest ∨
    f.requestId.toNat < s.session.nextRequestId.toNat + s.session.sentFrames.toNat
  requests : ∀ f ∈ s.session.channel ++ s.session.main.held, f.frameType = .request
  unsent : s.session.detachSent = false → ∀ f ∈ s.sent, f.frameType ≠ .detachRequest

structure Inv (limit : UInt64) (s : ClientRun) : Prop where
  standing : s.session.Standing limit
  booked : s.session.main.gone = false → s.Booked
  once : (s.sent.filter fun f => f.frameType = .detachRequest).length ≤ 1
  fresh : s.sent.Pairwise fun f g => g.frameType = .detachRequest → f.requestId ≠ g.requestId

section
variable {limit : UInt64} {s s' : ClientRun}

theorem Inv.detachBounded (h : Inv limit s) : DetachBounded limit s where
  boundary := by
    intro hmain
    have hstanding := h.standing
    rw [ClientSession.Standing, hmain] at hstanding
    obtain ⟨hlooping, hlimit⟩ := hstanding
    exact ⟨hlimit, by rw [hlooping.nextRequestId]; exact hlooping.fits⟩
  once := h.once
  fresh := h.fresh

theorem new_inv (limit : UInt64) : Inv limit new where
  standing := ⟨rfl, rfl, rfl, rfl, rfl, rfl⟩
  booked := fun _ => ⟨nofun, nofun, fun _ => nofun⟩
  once := by decide
  fresh := .nil

/-! ## Steps that send nothing -/

theorem Booked.keeps (h : s.Booked) (hk : s.session.Keeps s'.session) (hsent : s'.sent = s.sent) : s'.Booked := by
  refine ⟨fun f hf => ?_, fun f hf => h.requests f (hk.waiting f hf), fun hdetach f hf => ?_⟩
  · rw [hk.nextRequestId, hk.sentFrames]
    rw [hsent, List.mem_append] at hf
    exact h.ids f (List.mem_append.mpr (hf.imp_right (hk.waiting f)))
  · rw [hk.detachSent] at hdetach
    rw [hsent] at hf
    exact h.unsent hdetach f hf

end

end ClientRun

/-! ## Where a step leaves the client -/

namespace ClientSession

section
variable {cfg : ClientConfig} {limit : UInt64} {s s' : ClientSession}

theorem Handshaking.of_main {requestId : UInt64} (h : s.Handshaking requestId) (main : ClientPc)
    (descriptors : Option UsbDescriptorSet) (answered ignored : List Frame) :
    Handshaking requestId { s with main, descriptors, answered, ignored } :=
  ⟨h.state, h.nextRequestId, h.sentFrames, h.channel, h.dataResponses, h.detachSent⟩

theorem Looping.of_main (h : s.Looping limit) (main : ClientPc) (dataResponses : UInt64) (detachSent : Bool)
    (urbs : List (List UInt8)) (reports : List Frame) :
    Looping limit { s with main, dataResponses, detachSent, urbs, reports } :=
  ⟨h.state, h.nextRequestId, h.positive, h.fits, h.sentFrames, h.requestId⟩

theorem waitForLifecycleResponse_standing (hmain : s.main = .awaitAttach) (h : s.Standing limit) (bytes : List UInt8) :
    (s.waitForLifecycleResponse bytes).Standing limit := by
  rw [Standing, hmain] at h
  obtain hfail | ⟨ignored, hignored⟩ | ⟨descriptors, haccepted⟩ := s.waitForLifecycleResponse_cases bytes
  · rw [hfail]
    trivial
  · rw [hignored]
    unfold Standing
    dsimp only
    rw [hmain]
    exact h.of_main _ _ _ _
  · rw [haccepted]
    exact h.of_main _ _ _ _

theorem enumerated_standing {step : EnumerationStep} (h : s.Handshaking (step.requestId + 1))
    (hlimit : step = .setConfiguration → 0 < limit.toNat ∧ 7 + limit.toNat < 2 ^ 64) :
    (s.enumerated step).Standing limit := by
  have hdetach := h.detachSent
  have hresponses := h.dataResponses
  have hnext := h.nextRequestId
  have hsent := h.sentFrames
  cases step with
  | setConfiguration =>
    obtain ⟨hpositive, hfits⟩ := hlimit rfl
    refine ⟨⟨rfl, hnext, hpositive, hfits, ?_, ?_⟩, ?_⟩
    · exact hsent ▸ Nat.zero_le _
    · exact hnext.trans (hsent ▸ rfl)
    · refine iff_of_false ?_ ?_
      · exact fun hset => Bool.false_ne_true (hdetach.symm.trans hset)
      · intro hle
        have := UInt64.le_iff_toNat_le.mp (hle.trans_eq hresponses)
        exact Nat.not_le.mpr hpositive this
  | _ => exact h.of_main _ _ _ _

theorem waitForControlResponse_standing {step : EnumerationStep} {requestId : UInt64}
    (hmain : s.main = .awaitControl step requestId) (h : s.Standing limit) (bytes : List UInt8)
    (hlimit : step = .setConfiguration → s.Accepts step requestId bytes →
      0 < limit.toNat ∧ 7 + limit.toNat < 2 ^ 64) :
    (s.waitForControlResponse step requestId bytes).Standing limit := by
  rw [Standing, hmain] at h
  obtain hfail | ⟨ignored, hignored⟩ | ⟨haccepts, answered, haccepted⟩ :=
    s.waitForControlResponse_cases step requestId bytes
  · rw [hfail]
    trivial
  · rw [hignored]
    unfold Standing
    dsimp only
    rw [hmain]
    exact h.of_main _ _ _ _
  · rw [haccepted]
    exact enumerated_standing (h.of_main _ _ _ _) fun hstep => hlimit hstep haccepts

/-- Counting below the largest count: the limit is reached at the count that equals it, and then once. -/
theorem dataResponse_standing (hcfg : cfg.mockFrameLimit = some limit) (h : s.Looping limit)
    (hlimit : s.detachSent = true ↔ limit ≤ s.dataResponses) (hmax : s.dataResponses.toNat ≠ 2 ^ 64 - 1) :
    (s.dataResponse cfg).Standing limit := by
  have hlt := s.dataResponses.toNat_lt
  have hnext : (s.dataResponses + 1).toNat = s.dataResponses.toNat + 1 := succ_toNat (by omega)
  unfold dataResponse
  by_cases hreached : s.detachSent = false ∧ cfg.mockFrameLimit = some (s.dataResponses + 1)
  · rw [if_pos hreached]
    have heq : limit = s.dataResponses + 1 := Option.some.inj (hcfg.symm.trans hreached.2)
    exact ⟨h.of_main _ _ _ _ _, hreached.1, heq.symm⟩
  · rw [if_neg hreached]
    refine ⟨h.of_main _ _ _ _ _, hlimit.trans ?_⟩
    dsimp only
    rw [UInt64.le_iff_toNat_le, UInt64.le_iff_toNat_le, hnext]
    constructor
    · exact Nat.le_succ_of_le
    · intro hle
      by_contra hbelow
      have heq : limit = s.dataResponses + 1 := UInt64.toNat_inj.mp (by omega)
      have hunsent : s.detachSent = false := by
        rw [← Bool.not_eq_true, hlimit, UInt64.le_iff_toNat_le]
        exact hbelow
      exact hreached ⟨hunsent, hcfg.trans (congrArg some heq)⟩

theorem dataResponse_overflow (cfg : ClientConfig) (hlimit : s.detachSent = true ↔ limit ≤ s.dataResponses)
    (hmax : s.dataResponses.toNat = 2 ^ 64 - 1) :
    (s.dataResponse cfg).main = .select ∧ (s.dataResponse cfg).detachSent = true ∧
      (s.dataResponse cfg).dataResponses.toNat = 0 := by
  have hle : limit.toNat ≤ s.dataResponses.toNat := by
    have := limit.toNat_lt
    omega
  have hsent : s.detachSent = true := hlimit.mpr (UInt64.le_iff_toNat_le.mpr hle)
  have hzero : (s.dataResponses + 1).toNat = 0 := by
    rw [UInt64.toNat_add, UInt64.toNat_one, hmax]
    rfl
  unfold dataResponse
  rw [if_neg (fun hreached => Bool.false_ne_true (hreached.1.symm.trans hsent))]
  exact ⟨rfl, hsent, hzero⟩

theorem handleNetworkFrame_standing (hcfg : cfg.mockFrameLimit = some limit) (hmain : s.main = .select)
    (h : s.Standing limit) (bytes : List UInt8)
    (hmax : s.Counts cfg (.receive bytes) → s.dataResponses.toNat ≠ 2 ^ 64 - 1) :
    (s.handleNetworkFrame cfg bytes).Standing limit := by
  rw [Standing, hmain] at h
  obtain ⟨hlooping, hlimit⟩ := h
  obtain ⟨hcounts, hcounted⟩ | ⟨-, ⟨payload, hinject⟩ | hclose | ⟨reports, hreports⟩⟩ :=
    handleNetworkFrame_cases cfg hmain bytes
  · rw [hcounted]
    exact dataResponse_standing hcfg hlooping hlimit (hmax hcounts)
  · rw [hinject]
    exact ⟨hlooping.of_main _ _ _ _ _, hlimit⟩
  · rw [hclose]
    trivial
  · rw [hreports]
    unfold Standing
    dsimp only
    rw [hmain]
    exact ⟨hlooping.of_main _ _ _ _ _, hlimit⟩

theorem receive_standing (hcfg : cfg.mockFrameLimit = some limit) (h : s.Standing limit) {bytes : List UInt8}
    (henters : s.Enters (.receive bytes) → 0 < limit.toNat ∧ 7 + limit.toNat < 2 ^ 64)
    (hmax : s.Counts cfg (.receive bytes) → s.dataResponses.toNat ≠ 2 ^ 64 - 1)
    (hstep : s.receive cfg bytes = some s') : s'.Standing limit := by
  obtain ⟨hmain, rfl⟩ | ⟨step, requestId, hmain, rfl⟩ | ⟨hmain, rfl⟩ := receive_cases hstep
  · exact waitForLifecycleResponse_standing hmain h bytes
  · refine waitForControlResponse_standing hmain h bytes fun hlast haccepts => ?_
    subst hlast
    exact henters ⟨bytes, requestId, rfl, hmain, haccepts⟩
  · exact handleNetworkFrame_standing hcfg hmain h bytes hmax

theorem endOfStream_standing (hstep : s.endOfStream = some s') : s'.Standing limit := by
  obtain rfl | rfl := endOfStream_cases hstep
  · trivial
  · trivial

theorem injectUrb_standing (hcfg : cfg.mockFrameLimit = some limit) (h : s.Standing limit)
    (hmax : s.Counts cfg .injectUrb → s.dataResponses.toNat ≠ 2 ^ 64 - 1) (hstep : s.injectUrb cfg = some s') :
    s'.Standing limit := by
  obtain ⟨⟨payload, hmain⟩, hrefused | ⟨hcounts, urbs, hcounted⟩⟩ := injectUrb_cases hstep
  · rw [Standing, hmain] at h
    rw [hrefused]
    exact ⟨h.1.of_main _ _ _ _ _, h.2⟩
  · rw [Standing, hmain] at h
    rw [hcounted]
    exact dataResponse_standing hcfg (h.1.of_main _ _ _ _ _) h.2 (hmax hcounts)

theorem receiveUrb_standing (h : s.Standing limit) (hstep : s.receiveUrb = some s') : s'.Standing limit := by
  obtain ⟨hmain, urbs, rfl⟩ := receiveUrb_cases hstep
  rw [Standing, hmain] at h
  unfold Standing
  dsimp only
  rw [hmain]
  exact ⟨h.1.of_main _ _ _ _ _, h.2⟩

theorem receiveTx_standing (h : s.Standing limit) (hstep : s.receiveTx = some s') : s'.Standing limit := by
  obtain ⟨hmain, frame, channel, -, rfl⟩ := receiveTx_cases hstep
  rw [Standing, hmain] at h
  obtain ⟨hlooping, hlimit⟩ := h
  exact ⟨⟨hlooping.state, hlooping.nextRequestId, hlooping.positive, hlooping.fits, hlooping.sentFrames,
    hlooping.requestId⟩, hlimit⟩

/-! ## The task -/

theorem Standing.looping (h : s.Standing limit) (hstate : s.state = .attached) (hgone : s.main.gone = false) :
    s.Looping limit := by
  unfold Standing at h
  cases hmain : s.main with
  | sendAttach | awaitAttach | sendControl | awaitControl =>
    rw [hmain] at h
    exact nomatch hstate.symm.trans h.state
  | select | sendFrame | inject | sendDetach =>
    rw [hmain] at h
    exact h.1
  | failed | panicked | closed =>
    rw [hmain] at hgone
    cases hgone

theorem Standing.beside (h : s.Standing limit) (hstate : s.state = .attached) (hmain : s'.main = s.main)
    (hresponses : s'.dataResponses = s.dataResponses) (hdetach : s'.detachSent = s.detachSent)
    (hlooping : s.Looping limit → s'.Looping limit) : s'.Standing limit := by
  unfold Standing at h ⊢
  rw [hmain, hresponses, hdetach]
  cases hmain : s.main with
  | sendAttach | awaitAttach | sendControl | awaitControl =>
    rw [hmain] at h
    exact nomatch hstate.symm.trans h.state
  | select | sendFrame | inject | sendDetach =>
    rw [hmain] at h
    exact ⟨hlooping h.1, h.2⟩
  | failed | panicked | closed => trivial

theorem Looping.mockFrame (h : s.Looping limit) (hbelow : s.sentFrames < limit) (frame : Frame) :
    Looping limit { s with
      requestId := s.requestId + 1
      sentFrames := s.sentFrames + 1
      channel := s.channel ++ [frame] } := by
  refine ⟨h.state, h.nextRequestId, h.positive, h.fits, ?_, ?_⟩
  · have hlt := UInt64.lt_iff_toNat_lt.mp hbelow
    have hmax := limit.toNat_lt
    dsimp only
    rw [succ_toNat (by omega)]
    exact hlt
  · dsimp only
    rw [h.requestId, UInt64.add_assoc]

theorem mockLocalUsb_standing (hcfg : cfg.mockFrameLimit = some limit) (h : s.Standing limit)
    (hstep : s.mockLocalUsb cfg = some s') : s'.Standing limit := by
  obtain ⟨hstate, rfl | ⟨hbelow, frame, -, rfl⟩⟩ := mockLocalUsb_cases hstep
  · refine h.beside hstate rfl rfl rfl fun hlooping => ?_
    exact ⟨hlooping.state, hlooping.nextRequestId, hlooping.positive, hlooping.fits, hlooping.sentFrames,
      hlooping.requestId⟩
  · exact h.beside hstate rfl rfl rfl fun hlooping => hlooping.mockFrame (hbelow limit hcfg) frame

theorem step_standing {a : ClientAct} (hcfg : cfg.mockFrameLimit = some limit) (h : s.Standing limit)
    (henters : s.Enters a → 0 < limit.toNat ∧ 7 + limit.toNat < 2 ^ 64)
    (hmax : s.Counts cfg a → s.dataResponses.toNat ≠ 2 ^ 64 - 1) (hstep : s.step cfg a = some s') :
    s'.Standing limit := by
  cases a with
  | send ok => cases hstep
  | receive bytes => exact receive_standing hcfg h henters hmax hstep
  | endOfStream => exact endOfStream_standing hstep
  | mockLocalUsb => exact mockLocalUsb_standing hcfg h hstep
  | receiveTx => exact receiveTx_standing h hstep
  | receiveUrb => exact receiveUrb_standing h hstep
  | injectUrb => exact injectUrb_standing hcfg h hmax hstep

theorem counts_looping {a : ClientAct} (hcounts : s.Counts cfg a) (h : s.Standing limit) :
    s.Looping limit ∧ (s.detachSent = true ↔ limit ≤ s.dataResponses) := by
  unfold Counts at hcounts
  unfold Standing at h
  cases hmain : s.main with
  | select | inject =>
    rw [hmain] at h
    exact h
  | _ =>
    rw [hmain] at hcounts
    exact hcounts.elim

theorem sent_standing {frame : Frame} (hout : s.outgoing cfg = some (.ok frame)) (h : s.Standing limit) :
    (s.sent true).Standing limit := by
  unfold Standing at h
  unfold sent
  obtain ⟨hmain, -⟩ | ⟨step, setup, hmain, -⟩ | hmain | ⟨hmain, -⟩ := outgoing_cases hout
  · rw [hmain] at h ⊢
    exact h.of_main _ _ _ _
  · rw [hmain] at h ⊢
    exact ⟨h.state, congrArg (· + 1) h.nextRequestId, h.sentFrames, h.channel, h.dataResponses, h.detachSent⟩
  · rw [hmain] at h ⊢
    exact ⟨h.1.of_main _ _ _ _ _, h.2⟩
  · rw [hmain] at h ⊢
    obtain ⟨hlooping, -, hreached⟩ := h
    exact ⟨hlooping.of_main _ _ _ _ _, iff_of_true rfl (UInt64.le_of_eq hreached.symm)⟩

theorem Standing.of_gone (hgone : s.main.gone = true) : s.Standing limit := by
  unfold Standing
  cases hmain : s.main with
  | failed | panicked | closed => trivial
  | _ =>
    rw [hmain] at hgone
    cases hgone

end

end ClientSession

/-! ## The ids of what is sent -/

namespace ClientRun

section
variable {cfg : ClientConfig} {limit : UInt64} {s s' : ClientRun}

theorem Booked.mockLocalUsb (h : s.Booked) (hstanding : s.session.Standing limit)
    (hgone : s.session.main.gone = false) (hcfg : cfg.mockFrameLimit = some limit)
    (hstep : s.session.mockLocalUsb cfg = some s'.session) (hsent : s'.sent = s.sent) : s'.Booked := by
  obtain ⟨hstate, hsame | ⟨hbelow, frame, hframe, hqueued⟩⟩ := ClientSession.mockLocalUsb_cases hstep
  · refine h.keeps ?_ hsent
    rw [hsame]
    exact ⟨rfl, rfl, rfl, fun _ hf => hf⟩
  · have hlooping := hstanding.looping hstate hgone
    have hlt := UInt64.lt_iff_toNat_lt.mp (hbelow limit hcfg)
    have hfits := hlooping.fits
    obtain ⟨hid, htype, -⟩ := ClientSession.mockFrame_request hframe
    have hcount : (s.session.sentFrames + 1).toNat = s.session.sentFrames.toNat + 1 := succ_toNat (by omega)
    have hnumber : frame.requestId.toNat = 7 + s.session.sentFrames.toNat := by
      rw [hid, hlooping.requestId, sevenAdd_toNat (by omega)]
    have hnext : s.session.nextRequestId.toNat = 7 := congrArg UInt64.toNat hlooping.nextRequestId
    have hmem : ∀ f ∈ s'.session.channel ++ s'.session.main.held,
        f ∈ s.session.channel ++ s.session.main.held ∨ f = frame := by
      intro f hf
      rw [hqueued] at hf
      dsimp only at hf
      simp only [List.mem_append, List.mem_singleton] at hf ⊢
      grind
    refine ⟨fun f hf => ?_, fun f hf => ?_, fun hdetach f hf => ?_⟩
    · have hbound : s'.session.nextRequestId.toNat + s'.session.sentFrames.toNat =
          s.session.nextRequestId.toNat + s.session.sentFrames.toNat + 1 := by
        rw [hqueued]
        dsimp only
        rw [hcount, Nat.add_assoc]
      rw [hbound]
      have hold : f ∈ s.sent ++ (s.session.channel ++ s.session.main.held) ∨ f = frame := by
        rw [hsent, List.mem_append] at hf
        obtain hf | hf := hf
        · exact Or.inl (List.mem_append_left _ hf)
        · exact (hmem f hf).imp_left (List.mem_append_right _)
      obtain hold | rfl := hold
      · exact (h.ids f hold).imp_right Nat.lt_succ_of_lt
      · exact Or.inr (by rw [hnumber, hnext]; exact Nat.lt_succ_self _)
    · obtain hold | rfl := hmem f hf
      · exact h.requests f hold
      · exact htype
    · rw [hqueued] at hdetach
      rw [hsent] at hf
      exact h.unsent hdetach f hf

theorem Booked.of_send (h : s.Booked) {frame : Frame} (hsent : s'.sent = s.sent ++ [frame])
    (hwaiting : ∀ f ∈ s'.session.channel ++ s'.session.main.held, f ∈ s.session.channel ++ s.session.main.held)
    (hnext : s.session.nextRequestId.toNat + s.session.sentFrames.toNat ≤
      s'.session.nextRequestId.toNat + s'.session.sentFrames.toNat)
    (hframe : frame.frameType = .detachRequest ∨
      frame.requestId.toNat < s'.session.nextRequestId.toNat + s'.session.sentFrames.toNat)
    (hunsent : s'.session.detachSent = false → s.session.detachSent = false ∧ frame.frameType ≠ .detachRequest) :
    s'.Booked := by
  refine ⟨fun f hf => ?_, fun f hf => h.requests f (hwaiting f hf), fun hdetach f hf => ?_⟩
  · rw [hsent, List.append_assoc, List.mem_append, List.mem_append, List.mem_singleton] at hf
    have hold : f ∈ s.sent ++ (s.session.channel ++ s.session.main.held) → f.frameType = .detachRequest ∨
        f.requestId.toNat < s'.session.nextRequestId.toNat + s'.session.sentFrames.toNat :=
      fun hmem => (h.ids f hmem).imp_right fun hlt => Nat.lt_of_lt_of_le hlt hnext
    obtain hf | rfl | hf := hf
    · exact hold (List.mem_append_left _ hf)
    · exact hframe
    · exact hold (List.mem_append_right _ (hwaiting f hf))
  · obtain ⟨hdetach, hne⟩ := hunsent hdetach
    rw [hsent, List.mem_append, List.mem_singleton] at hf
    obtain hf | rfl := hf
    · exact h.unsent hdetach f hf
    · exact hne

theorem Inv.of_send (h : Inv limit s) {frame : Frame} (hsent : s'.sent = s.sent ++ [frame])
    (hstanding : s'.session.Standing limit) (hbooked : s'.session.main.gone = false → s'.Booked)
    (hdetach : frame.frameType = .detachRequest → ∀ f ∈ s.sent, f.frameType ≠ .detachRequest ∧
      f.requestId ≠ frame.requestId) : Inv limit s' := by
  refine ⟨hstanding, hbooked, ?_, ?_⟩
  · rw [hsent, List.filter_append, List.length_append]
    by_cases htype : frame.frameType = .detachRequest
    · have hnone : (s.sent.filter fun f => f.frameType = .detachRequest) = [] := by
        rw [List.filter_eq_nil_iff]
        intro f hf
        rw [decide_eq_true_eq]
        exact (hdetach htype f hf).1
      rw [hnone, List.length_nil, Nat.zero_add]
      exact List.length_filter_le _ [frame]
    · have hnone : ([frame].filter fun f => f.frameType = .detachRequest) = [] := by simpa using htype
      rw [hnone]
      exact h.once
  · rw [hsent, List.pairwise_append]
    refine ⟨h.fresh, List.pairwise_singleton _ _, fun f hf g hg htype => ?_⟩
    rw [List.mem_singleton] at hg
    subst hg
    exact (hdetach htype f hf).2

/-- The id of the detach request is behind all that the task may have used. -/
theorem Inv.detach_fresh (hcfg : cfg.mockFrameLimit = some limit) (h : Inv limit s) {frame : Frame}
    (hout : s.session.outgoing cfg = some (.ok frame)) (htype : frame.frameType = .detachRequest) :
    ∀ f ∈ s.sent, f.frameType ≠ .detachRequest ∧ f.requestId ≠ frame.requestId := by
  have hbooked := h.booked (ClientSession.outgoing_gone hout)
  have hstanding := h.standing
  unfold ClientSession.Standing at hstanding
  obtain ⟨-, rfl⟩ | ⟨step, setup, -, rfl⟩ | hmain | ⟨hmain, rfl⟩ := ClientSession.outgoing_cases hout
  · cases htype
  · cases htype
  · have hrequest := hbooked.requests frame (List.mem_append_right _ (by rw [hmain]; exact List.mem_singleton_self _))
    exact nomatch hrequest.symm.trans htype
  · rw [hmain] at hstanding
    obtain ⟨hlooping, hunsent, -⟩ := hstanding
    intro f hf
    have hne := hbooked.unsent hunsent f hf
    refine ⟨hne, fun hid => ?_⟩
    have hlt := (hbooked.ids f (List.mem_append_left _ hf)).resolve_left hne
    have hsum : (s.session.nextRequestId + limit).toNat = 7 + limit.toNat := by
      rw [hlooping.nextRequestId, sevenAdd_toNat hlooping.fits]
    have hdetach : f.requestId.toNat = 7 + limit.toNat := by
      rw [hid, ← hsum]
      simp only [Frame.detachRequest, Frame.lifecycleRequest, ClientSession.detachRequestId, hcfg]
    have hseven : s.session.nextRequestId.toNat = 7 := congrArg UInt64.toNat hlooping.nextRequestId
    have hsentFrames := hlooping.sentFrames
    omega

theorem Inv.sent_booked (h : Inv limit s) {frame : Frame} (hout : s.session.outgoing cfg = some (.ok frame))
    (hsession : s'.session = s.session.sent true) (hsent : s'.sent = s.sent ++ [frame]) : s'.Booked := by
  have hbooked := h.booked (ClientSession.outgoing_gone hout)
  have hstanding := h.standing
  unfold ClientSession.Standing at hstanding
  have hframes : s'.session.sentFrames = s.session.sentFrames := by rw [hsession, ClientSession.sent_sentFrames]
  have hwaiting : ∀ f ∈ s'.session.channel ++ s'.session.main.held,
      f ∈ s.session.channel ++ s.session.main.held := by
    rw [hsession, ClientSession.sent_channel, ClientSession.sent_held hout, List.append_nil]
    exact fun f hf => List.mem_append_left _ hf
  have hnext : (∀ step, s.session.main ≠ .sendControl step) → s'.session.nextRequestId = s.session.nextRequestId := by
    intro hmain
    rw [hsession, ClientSession.sent_nextRequestId true hmain]
  have hdetach : s.session.main ≠ .sendDetach → s'.session.detachSent = s.session.detachSent := by
    intro hmain
    rw [hsession, ClientSession.sent_detachSent true hmain]
  obtain ⟨hmain, rfl⟩ | ⟨step, setup, hmain, rfl⟩ | hmain | ⟨hmain, rfl⟩ := ClientSession.outgoing_cases hout
  · rw [hmain] at hstanding hnext hdetach
    have htwo : s.session.nextRequestId.toNat = 2 := congrArg UInt64.toNat hstanding.nextRequestId
    refine hbooked.of_send hsent hwaiting ?_ (Or.inr ?_) fun hunsent => ⟨hdetach nofun ▸ hunsent, nofun⟩
    · rw [hnext nofun, hframes]
    · rw [hnext nofun, htwo]
      exact Nat.lt_add_right _ (by decide)
  · rw [hmain] at hstanding hdetach
    have hone : s'.session.nextRequestId.toNat = s.session.nextRequestId.toNat + 1 := by
      have hsum : s'.session.nextRequestId = s.session.nextRequestId + 1 := by
        simp only [hsession, ClientSession.sent, hmain, if_true]
      rw [hsum, hstanding.nextRequestId]
      cases step <;> rfl
    refine hbooked.of_send hsent hwaiting ?_ (Or.inr ?_) fun hunsent => ⟨hdetach nofun ▸ hunsent, nofun⟩
    · rw [hone, hframes]
      exact Nat.add_le_add_right (Nat.le_succ _) _
    · rw [hone]
      exact Nat.lt_add_right _ (Nat.lt_succ_self _)
  · have hheld : frame ∈ s.session.channel ++ s.session.main.held := by
      rw [hmain]
      exact List.mem_append_right _ (List.mem_singleton_self _)
    have hrequest := hbooked.requests frame hheld
    rw [hmain] at hnext hdetach
    refine hbooked.of_send hsent hwaiting ?_ ?_ fun hunsent =>
      ⟨hdetach nofun ▸ hunsent, fun htype => nomatch hrequest.symm.trans htype⟩
    · rw [hnext nofun, hframes]
    · rw [hnext nofun, hframes]
      exact hbooked.ids frame (List.mem_append_right _ hheld)
  · rw [hmain] at hnext
    have hset : s'.session.detachSent = true := by
      simp only [hsession, ClientSession.sent, hmain, if_true]
    refine hbooked.of_send hsent hwaiting ?_ (Or.inl rfl) fun hunsent => nomatch hset.symm.trans hunsent
    rw [hnext nofun, hframes]

theorem Inv.send (hcfg : cfg.mockFrameLimit = some limit) (h : Inv limit s) {ok : Bool} {bytes : Option (List UInt8)}
    (hsend : s.session.send cfg ok = some (bytes, s'.session))
    (hsent : s'.sent = s.sent ++ (sentFrame cfg s.session).toList) : Inv limit s' := by
  obtain ⟨hnone, hgone⟩ | ⟨frame, hout, hframe, hsession⟩ := ClientSession.send_cases hsend
  · rw [hnone, Option.toList_none, List.append_nil] at hsent
    refine ⟨.of_gone hgone, fun hlive => ?_, hsent ▸ h.once, hsent ▸ h.fresh⟩
    exact nomatch hgone.symm.trans hlive
  · rw [hframe, Option.toList_some] at hsent
    cases ok with
    | false =>
      have hgone : s'.session.main.gone = true := hsession ▸ ClientSession.sent_gone hout
      refine h.of_send hsent (.of_gone hgone) (fun hlive => ?_) (h.detach_fresh hcfg hout)
      exact nomatch hgone.symm.trans hlive
    | true =>
      have hstanding : s'.session.Standing limit := hsession ▸ ClientSession.sent_standing hout h.standing
      exact h.of_send hsent hstanding (fun _ => h.sent_booked hout hsession hsent) (h.detach_fresh hcfg hout)

theorem step_inv {a : ClientAct} (hcfg : cfg.mockFrameLimit = some limit) (h : Inv limit s)
    (hslips : ¬ Slips cfg limit s a) (hs : step cfg s a = some s') : Inv limit s' := by
  obtain ⟨ok, bytes, rfl, hsend, hsent⟩ | ⟨hstep, hsent⟩ := step_session hs
  · exact h.send hcfg hsend hsent
  · have hstanding : s'.session.Standing limit := by
      refine ClientSession.step_standing hcfg h.standing (fun henters => ?_) (fun hcounts hmax => ?_) hstep
      · have hlimit : ¬ (limit.toNat = 0 ∨ 2 ^ 64 ≤ 7 + limit.toNat) :=
          fun hslip => hslips (Or.inl ⟨henters, hslip⟩)
        omega
      · exact hslips (Or.inr ⟨hcounts, hmax⟩)
    refine ⟨hstanding, fun hlive => ?_, hsent ▸ h.once, hsent ▸ h.fresh⟩
    have hgone := ClientSession.step_gone hstep hlive
    obtain hkeeps | htask := ClientSession.step_keeps hstep
    · exact (h.booked hgone).keeps hkeeps hsent
    · exact (h.booked hgone).mockLocalUsb h.standing hgone hcfg htask hsent

/-! ## Where the limit is missed -/

theorem step_of_session {a : ClientAct} {session : ClientSession} (h : s.session.step cfg a = some session) :
    ∃ s', step cfg s a = some s' ∧ s'.session = session := by
  cases a with
  | send ok => cases h
  | _ => exact ⟨_, congrArg (Option.map _) h, rfl⟩

theorem enters_unbounded (cfg : ClientConfig) (h : Inv limit s) {a : ClientAct} (henters : s.session.Enters a)
    (hlimit : limit.toNat = 0 ∨ 2 ^ 64 ≤ 7 + limit.toNat) :
    ∃ s', step cfg s a = some s' ∧ ¬ DetachBounded limit s' := by
  obtain ⟨bytes, requestId, rfl, hmain, haccepts⟩ := henters
  obtain ⟨answered, haccepted⟩ := ClientSession.waitForControlResponse_accepted haccepts
  have hreceive : s.session.step cfg (.receive bytes) =
      some ({ s.session with answered := answered }.enumerated .setConfiguration) := by
    rw [← haccepted]
    simp only [ClientSession.step, ClientSession.receive, hmain]
  obtain ⟨s', hs, hsession⟩ := step_of_session hreceive
  refine ⟨s', hs, fun hbounded => ?_⟩
  have hstanding := h.standing
  unfold ClientSession.Standing at hstanding
  rw [hmain] at hstanding
  have hboundary := hbounded.boundary
  rw [hsession] at hboundary
  obtain ⟨hdetach, hfits⟩ := hboundary rfl
  obtain hzero | hlarge := hlimit
  · have hle : limit ≤ s.session.dataResponses := by
      rw [UInt64.le_iff_toNat_le, hzero]
      exact Nat.zero_le _
    exact Bool.false_ne_true (hstanding.detachSent.symm.trans (hdetach.mpr hle))
  · have hnext : s.session.nextRequestId.toNat = 7 := congrArg UInt64.toNat hstanding.nextRequestId
    have hfits : s.session.nextRequestId.toNat + limit.toNat < 2 ^ 64 := hfits
    omega

/-- The largest count is followed by zero, which is below the limit, with the request sent. -/
theorem counts_unbounded (h : Inv limit s) {a : ClientAct} (hcounts : s.session.Counts cfg a)
    (hmax : s.session.dataResponses.toNat = 2 ^ 64 - 1) :
    ∃ s', step cfg s a = some s' ∧ ¬ DetachBounded limit s' := by
  obtain ⟨main, urbs, hstep⟩ := ClientSession.counts_step hcounts
  obtain ⟨hlooping, hlimit⟩ := ClientSession.counts_looping hcounts h.standing
  obtain ⟨s', hs, hsession⟩ := step_of_session hstep
  refine ⟨s', hs, fun hbounded => ?_⟩
  obtain ⟨hmain, hsent, hzero⟩ := ClientSession.dataResponse_overflow cfg
    (s := { s.session with main, urbs }) hlimit hmax
  have hboundary := hbounded.boundary
  rw [hsession] at hboundary
  have hle := UInt64.le_iff_toNat_le.mp ((hboundary hmain).1.mp hsent)
  rw [hzero] at hle
  exact Nat.not_le.mpr hlooping.positive hle

theorem step_detachBounded_iff {a : ClientAct} (hcfg : cfg.mockFrameLimit = some limit) (h : Inv limit s) :
    (∀ s', step cfg s a = some s' → DetachBounded limit s') ↔ ¬ Slips cfg limit s a := by
  constructor
  · intro hbounded hslips
    obtain ⟨henters, hlimit⟩ | ⟨hcounts, hmax⟩ := hslips
    · obtain ⟨s', hs, hunbounded⟩ := enters_unbounded cfg h henters hlimit
      exact hunbounded (hbounded s' hs)
    · obtain ⟨s', hs, hunbounded⟩ := counts_unbounded h hcounts hmax
      exact hunbounded (hbounded s' hs)
  · intro hslips s' hs
    exact (step_inv hcfg h hslips hs).detachBounded

end

/-- In every run of a client with a limit: the detach request is sent at the limit, once and with an id of its own,
exactly when the limit is positive and its id fits as the main loop begins, and the count does not overflow. -/
theorem detachBounded_iff (backend : VhciBackendKind) (limit : UInt64) (payloadLen : Option Nat)
    (acts : List ClientAct) :
    Along (step ⟨backend, some limit, payloadLen⟩)
        (fun s a => ∀ s', step ⟨backend, some limit, payloadLen⟩ s a = some s' → DetachBounded limit s') new acts ↔
      Along (step ⟨backend, some limit, payloadLen⟩)
        (fun s a => ¬ Slips ⟨backend, some limit, payloadLen⟩ limit s a) new acts := by
  refine along_iff (P := Inv limit) ?_ ?_ (new_inv limit)
  · intro s a h
    exact step_detachBounded_iff rfl h
  · intro s a s' h hbounded hs
    exact step_inv rfl h ((step_detachBounded_iff rfl h).mp hbounded) hs

/-- A client that is to detach after no response at all waits for the first one. -/
theorem zeroLimit_not_bounded : ¬ ∀ (cfg : ClientConfig) (limit : UInt64) (acts : List ClientAct) (s : ClientRun),
    cfg.mockFrameLimit = some limit → run (step cfg) new acts = some s → DetachBounded limit s := by
  intro h
  have hrun : (run (step ⟨.mock, some 0, none⟩) new attached).map
      (fun s => (s.session.main, s.session.detachSent, s.session.dataResponses)) = some (.select, false, 0) := by
    decide +kernel
  obtain ⟨s, hs, hstate⟩ := Option.map_eq_some_iff.mp hrun
  obtain ⟨hmain, hstate⟩ := Prod.mk.inj hstate
  obtain ⟨hsent, hresponses⟩ := Prod.mk.inj hstate
  have hboundary := ((h _ 0 _ s rfl hs).boundary hmain).1
  rw [hsent, hresponses] at hboundary
  exact absurd (hboundary.mpr (by decide)) Bool.false_ne_true

end ClientRun

end WhyUsb
