import WhyUsb.Descriptor.Body
import WhyUsb.Lib.Cursor

/-!
# The decoder with its offset and its subscripts

`UsbDescriptorSet::decode` as it stands, with the offset it carries and with
every subscript checked: a subscript out of range, an underflow, the failing
`expect` and a loop that is not done after as many rounds as there are bytes
are faults. No input leads to one, and the result is that of
`UsbDescriptorSet.decode`.
-/

namespace WhyUsb

open Endian Cursor

abbrev CheckedM := Checked ProtocolError

namespace Checked

def invalid {α : Type} (message : String) : CheckedM α := lift (.error (.invalidDescriptorSet message))

def readU16Le (bytes : List UInt8) (offset : Nat) : CheckedM UInt16 := do
  let low ← index bytes offset
  let high ← index bytes (offset + 1)
  lift (.ok (UInt16.ofNat (leNat [low, high])))

def take (bytes : List UInt8) (offset len : Nat) : CheckedM (List UInt8 × Nat) :=
  let stop := offset + len
  if stop > bytes.length then invalid "descriptor payload truncated"
  else do
    let slice ← range bytes offset stop
    lift (.ok (slice, stop))

def descriptorHeader (bytes : List UInt8) (offset : Nat) : CheckedM (Nat × UInt8) :=
  if offset + 2 > bytes.length then invalid "descriptor header truncated"
  else do
    let first ← index bytes offset
    let descriptorLen := first.toNat
    if descriptorLen < 2 ∨ offset + descriptorLen > bytes.length then invalid "invalid descriptor length"
    else do
      let descriptorType ← index bytes (offset + 1)
      lift (.ok (descriptorLen, descriptorType))

def validateExtraDescriptor (bytes : List UInt8) : CheckedM Unit :=
  if bytes.length < 2 then invalid "invalid extra descriptor"
  else do
    let first ← index bytes 0
    if first.toNat ≠ bytes.length then invalid "invalid extra descriptor" else lift (.ok ())

/-- The test on length, `bLength` and type that every `from_usb_bytes` begins with. -/
def isRecord (bytes : List UInt8) (len : Nat) (descriptorType : UInt8) : CheckedM Bool :=
  if bytes.length ≠ len then lift (.ok false)
  else do
    let first ← index bytes 0
    if first ≠ UInt8.ofNat len then lift (.ok false)
    else do
      let second ← index bytes 1
      lift (.ok (second = descriptorType))

def deviceFromUsbBytes (bytes : List UInt8) : CheckedM (UsbDeviceDescriptor × UInt8) := do
  if ← isRecord bytes UsbDeviceDescriptor.len usbDescDevice then
    let usbVersion ← readU16Le bytes 2
    let deviceClass ← index bytes 4
    let deviceSubClass ← index bytes 5
    let deviceProtocol ← index bytes 6
    let maxPacketSize0 ← index bytes 7
    let vendorId ← readU16Le bytes 8
    let productId ← readU16Le bytes 10
    let deviceVersion ← readU16Le bytes 12
    let manufacturerIndex ← index bytes 14
    let productIndex ← index bytes 15
    let serialNumberIndex ← index bytes 16
    let configurationCount ← index bytes 17
    lift (.ok ({
      usbVersion := usbVersion
      deviceClass := deviceClass
      deviceSubClass := deviceSubClass
      deviceProtocol := deviceProtocol
      maxPacketSize0 := maxPacketSize0
      vendorId := vendorId
      productId := productId
      deviceVersion := deviceVersion
      manufacturerIndex := manufacturerIndex
      productIndex := productIndex
      serialNumberIndex := serialNumberIndex }, configurationCount))
  else invalid "invalid device descriptor"

def configurationFromUsbBytes (bytes : List UInt8) : CheckedM (UsbConfigurationDescriptor × UInt16 × UInt8) := do
  if ← isRecord bytes UsbConfigurationDescriptor.len usbDescConfiguration then
    let configurationValue ← index bytes 5
    let configurationIndex ← index bytes 6
    let attributes ← index bytes 7
    let maxPower ← index bytes 8
    let totalLength ← readU16Le bytes 2
    let interfaceCount ← index bytes 4
    lift (.ok ({ configurationValue, configurationIndex, attributes, maxPower }, totalLength, interfaceCount))
  else invalid "invalid configuration descriptor"

def interfaceFromUsbBytes (bytes : List UInt8) : CheckedM (UsbInterfaceDescriptor × UInt8) := do
  if ← isRecord bytes UsbInterfaceDescriptor.len usbDescInterface then
    let interfaceNumber ← index bytes 2
    let alternateSetting ← index bytes 3
    let interfaceClass ← index bytes 5
    let interfaceSubClass ← index bytes 6
    let interfaceProtocol ← index bytes 7
    let interfaceIndex ← index bytes 8
    let endpointCount ← index bytes 4
    lift (.ok ({
      interfaceNumber := interfaceNumber
      alternateSetting := alternateSetting
      interfaceClass := interfaceClass
      interfaceSubClass := interfaceSubClass
      interfaceProtocol := interfaceProtocol
      interfaceIndex := interfaceIndex }, endpointCount))
  else invalid "invalid interface descriptor"

def endpointFromUsbBytes (bytes : List UInt8) : CheckedM UsbEndpointDescriptor := do
  if ← isRecord bytes UsbEndpointDescriptor.len usbDescEndpoint then
    let address ← index bytes 2
    let attributes ← index bytes 3
    let maxPacketSize ← readU16Le bytes 4
    let interval ← index bytes 6
    lift (.ok { address, attributes, maxPacketSize, interval })
  else invalid "invalid endpoint descriptor"

def bodyStep (st : Body) (descriptorType : UInt8) (bytes : List UInt8) : CheckedM Body :=
  if descriptorType = usbDescInterface then do
    let st ← lift st.close
    let (descriptor, endpointCount) ← interfaceFromUsbBytes bytes
    lift (.ok { st with
      current := some { descriptor, expectedEndpoints := endpointCount, extraDescriptors := [], endpoints := [] } })
  else if descriptorType = usbDescEndpoint then
    match st.current with
    | none => invalid "endpoint descriptor before interface"
    | some open' => do
      let endpoint ← endpointFromUsbBytes bytes
      lift (.ok { st with current := some { open' with endpoints := open'.endpoints ++ [endpoint] } })
  else if st.current.isSome then do
    validateExtraDescriptor bytes
    match st.current with
    | none => fault
    | some open' =>
      lift (.ok { st with current := some { open' with extraDescriptors := open'.extraDescriptors ++ [bytes] } })
  else do
    validateExtraDescriptor bytes
    lift (.ok { st with extraDescriptors := st.extraDescriptors ++ [bytes] })

/-- `while body_offset < body.len()`, for at most `fuel` rounds. -/
def loop (body : List UInt8) : Nat → Nat → Body → CheckedM Body
  | 0, offset, st => if offset < body.length then fault else lift (.ok st)
  | fuel + 1, offset, st =>
    if offset < body.length then do
      let (descriptorLen, descriptorType) ← descriptorHeader body offset
      let (bytes, offset) ← take body offset descriptorLen
      let st ← bodyStep st descriptorType bytes
      loop body fuel offset st
    else lift (.ok st)

def decodeFrom (bytes : List UInt8) (offset : Nat) : CheckedM (UsbConfiguration × Nat) := do
  let (configBytes, offset) ← take bytes offset UsbConfigurationDescriptor.len
  let (descriptor, totalLength, interfaceCount) ← configurationFromUsbBytes configBytes
  if totalLength.toNat < UsbConfigurationDescriptor.len then invalid "invalid configuration total length"
  else do
    let bodyLen ← sub totalLength.toNat UsbConfigurationDescriptor.len
    let (body, offset) ← take bytes offset bodyLen
    let st ← loop body body.length 0 .empty
    let st ← lift st.close
    if st.interfaces.length ≠ interfaceCount.toNat then invalid "interface count mismatch"
    else lift (.ok ({ descriptor, extraDescriptors := st.extraDescriptors, interfaces := st.interfaces }, offset))

def decodeConfigurations (bytes : List UInt8) : Nat → Nat → CheckedM (List UsbConfiguration × Nat)
  | 0, offset => lift (.ok ([], offset))
  | n + 1, offset => do
    let (configuration, offset) ← decodeFrom bytes offset
    let (configurations, offset) ← decodeConfigurations bytes n offset
    lift (.ok (configuration :: configurations, offset))

def decodeSidecars (bytes : List UInt8) : Nat → Nat → List UsbConfiguration → CheckedM (List UsbConfiguration × Nat)
  | 0, offset, configurations => lift (.ok (configurations, offset))
  | n + 1, offset, configurations => do
    let (header, offset) ← take bytes offset descriptorSidecarHeaderLen
    let configIndex ← index header 0
    let interfaceNumber ← index header 1
    let alternateSetting ← index header 2
    let descriptorType ← index header 3
    let descriptorIndex ← index header 4
    let descriptorLen ← readU16Le header 6
    let (descriptor, offset) ← take bytes offset descriptorLen.toNat
    if descriptorType ≠ usbDescHidReport ∨ descriptorIndex ≠ 0 then invalid "unsupported sidecar descriptor"
    else do
      let configurations ←
        lift (attachSidecar configurations configIndex.toNat interfaceNumber alternateSetting descriptor)
      decodeSidecars bytes n offset configurations

def decode (bytes : List UInt8) : CheckedM UsbDescriptorSet :=
  if bytes.length < 8 + UsbDeviceDescriptor.len then invalid "payload too short"
  else do
    let magic ← range bytes 0 4
    if magic ≠ descriptorSetMagic then invalid "invalid descriptor set magic"
    else do
      let version ← index bytes 4
      if version ≠ descriptorSetVersion then invalid "unsupported descriptor set version"
      else do
        let configCount ← index bytes 5
        let sidecarCount ← readU16Le bytes 6
        let (deviceBytes, offset) ← take bytes 8 UsbDeviceDescriptor.len
        let (device, deviceConfigCount) ← deviceFromUsbBytes deviceBytes
        if deviceConfigCount.toNat ≠ configCount.toNat then invalid "device configuration count mismatch"
        else do
          let (configurations, offset) ← decodeConfigurations bytes configCount.toNat offset
          let (configurations, offset) ← decodeSidecars bytes sidecarCount.toNat offset configurations
          if offset ≠ bytes.length then invalid "trailing descriptor payload bytes"
          else lift (.ok { device, configurations })

/-! ## Subscripts -/

section
variable {bytes : List UInt8}

theorem index_eq {i : Nat} (h : i < bytes.length) : (index bytes i : CheckedM UInt8) = lift (.ok (byteAt bytes i)) := by
  rw [index, byteAt, List.getD_eq_getElem?_getD, List.getElem?_eq_getElem h]
  rfl

theorem readU16Le_eq {offset : Nat} (h : offset + 2 ≤ bytes.length) :
    readU16Le bytes offset = lift (.ok (WhyUsb.readU16Le bytes offset)) := by
  rw [readU16Le, index_eq (by omega), lift_ok_bind, index_eq (by omega), lift_ok_bind, WhyUsb.readU16Le, slice_pair h]

theorem take_follows {offset : Nat} (h : offset ≤ bytes.length) (len : Nat) :
    Follows bytes (take bytes offset len) (WhyUsb.take (bytes.drop offset) len) := by
  rw [take, WhyUsb.take, List.length_drop]
  by_cases hlen : offset + len > bytes.length
  · rw [if_pos hlen, if_pos (by omega)]
    exact Follows.error _
  · rw [if_neg hlen, if_neg (by omega), range, if_pos (by omega), Nat.add_sub_cancel_left, List.drop_drop]
    exact Follows.ok (by omega) _

theorem descriptorHeader_eq {offset : Nat} (h : offset ≤ bytes.length) :
    descriptorHeader bytes offset = lift (WhyUsb.descriptorHeader (bytes.drop offset)) := by
  have hbyte : ∀ i, byteAt (bytes.drop offset) i = byteAt bytes (offset + i) := by
    intro i
    rw [byteAt, byteAt, List.getD_eq_getElem?_getD, List.getD_eq_getElem?_getD, List.getElem?_drop]
  have hfirst : byteAt (bytes.drop offset) 0 = byteAt bytes offset := hbyte 0
  rw [descriptorHeader, WhyUsb.descriptorHeader, List.length_drop, hfirst, hbyte]
  by_cases hmin : offset + 2 > bytes.length
  · rw [if_pos hmin, if_pos (by omega)]
    rfl
  · rw [if_neg hmin, if_neg (by omega), index_eq (by omega), lift_ok_bind, index_eq (by omega)]
    dsimp only
    by_cases hlen : (byteAt bytes offset).toNat < 2 ∨ offset + (byteAt bytes offset).toNat > bytes.length
    · rw [if_pos hlen, if_pos (by omega)]
      rfl
    · rw [if_neg hlen, if_neg (by omega)]
      rfl

theorem validateExtraDescriptor_eq (bytes : List UInt8) :
    validateExtraDescriptor bytes = lift (WhyUsb.validateExtraDescriptor bytes) := by
  rw [validateExtraDescriptor, WhyUsb.validateExtraDescriptor]
  by_cases hmin : bytes.length < 2
  · rw [if_pos hmin, if_pos (Or.inl hmin)]
    rfl
  · rw [if_neg hmin, index_eq (by omega), lift_ok_bind]
    by_cases hfirst : (byteAt bytes 0).toNat ≠ bytes.length
    · rw [if_pos hfirst, if_pos (Or.inr hfirst)]
      rfl
    · rw [if_neg hfirst, if_neg (not_or.mpr ⟨hmin, hfirst⟩)]

theorem isRecord_eq (bytes : List UInt8) {len : Nat} {bLength : UInt8} (h : 2 ≤ len) (hb : UInt8.ofNat len = bLength)
    (descriptorType : UInt8) : isRecord bytes len descriptorType = lift (.ok (decide (bytes.length = len ∧
      byteAt bytes 0 = bLength ∧ byteAt bytes 1 = descriptorType))) := by
  rw [isRecord, hb]
  by_cases hlen : bytes.length ≠ len
  · rw [if_pos hlen, decide_eq_false fun hr => hlen hr.1]
  · rw [if_neg hlen, index_eq (by omega), lift_ok_bind, index_eq (by omega), lift_ok_bind]
    rw [ne_eq, Decidable.not_not] at hlen
    by_cases hfirst : byteAt bytes 0 ≠ bLength
    · rw [if_pos hfirst, decide_eq_false fun hr => hfirst hr.2.1]
    · rw [if_neg hfirst]
      rw [ne_eq, Decidable.not_not] at hfirst
      simp only [hlen, hfirst, true_and]

end

/-! ## Records -/

theorem deviceFromUsbBytes_eq (bytes : List UInt8) :
    deviceFromUsbBytes bytes = lift (UsbDeviceDescriptor.fromUsbBytes bytes) := by
  rw [deviceFromUsbBytes, @isRecord_eq bytes UsbDeviceDescriptor.len 18 (by decide) rfl usbDescDevice,
    UsbDeviceDescriptor.fromUsbBytes, lift_ok_bind]
  by_cases h : bytes.length = UsbDeviceDescriptor.len ∧ byteAt bytes 0 = 18 ∧ byteAt bytes 1 = usbDescDevice
  · have hlen : bytes.length = 18 := h.1
    rw [if_pos (decide_eq_true h), if_neg (by simp [h])]
    simp (disch := omega) only [index_eq, readU16Le_eq, lift_ok_bind]
  · rw [if_neg (by simpa using h), if_pos (by simpa only [not_and_or] using h)]
    rfl

theorem configurationFromUsbBytes_eq (bytes : List UInt8) :
    configurationFromUsbBytes bytes = lift (UsbConfigurationDescriptor.fromUsbBytes bytes) := by
  rw [configurationFromUsbBytes,
    @isRecord_eq bytes UsbConfigurationDescriptor.len 9 (by decide) rfl usbDescConfiguration,
    UsbConfigurationDescriptor.fromUsbBytes, lift_ok_bind]
  by_cases h : bytes.length = UsbConfigurationDescriptor.len ∧ byteAt bytes 0 = 9 ∧
      byteAt bytes 1 = usbDescConfiguration
  · have hlen : bytes.length = 9 := h.1
    rw [if_pos (decide_eq_true h), if_neg (by simp [h])]
    simp (disch := omega) only [index_eq, readU16Le_eq, lift_ok_bind]
  · rw [if_neg (by simpa using h), if_pos (by simpa only [not_and_or] using h)]
    rfl

theorem interfaceFromUsbBytes_eq (bytes : List UInt8) :
    interfaceFromUsbBytes bytes = lift (UsbInterfaceDescriptor.fromUsbBytes bytes) := by
  rw [interfaceFromUsbBytes, @isRecord_eq bytes UsbInterfaceDescriptor.len 9 (by decide) rfl usbDescInterface,
    UsbInterfaceDescriptor.fromUsbBytes, lift_ok_bind]
  by_cases h : bytes.length = UsbInterfaceDescriptor.len ∧ byteAt bytes 0 = 9 ∧ byteAt bytes 1 = usbDescInterface
  · have hlen : bytes.length = 9 := h.1
    rw [if_pos (decide_eq_true h), if_neg (by simp [h])]
    simp (disch := omega) only [index_eq, lift_ok_bind]
  · rw [if_neg (by simpa using h), if_pos (by simpa only [not_and_or] using h)]
    rfl

theorem endpointFromUsbBytes_eq (bytes : List UInt8) :
    endpointFromUsbBytes bytes = lift (UsbEndpointDescriptor.fromUsbBytes bytes) := by
  rw [endpointFromUsbBytes, @isRecord_eq bytes UsbEndpointDescriptor.len 7 (by decide) rfl usbDescEndpoint,
    UsbEndpointDescriptor.fromUsbBytes, lift_ok_bind]
  by_cases h : bytes.length = UsbEndpointDescriptor.len ∧ byteAt bytes 0 = 7 ∧ byteAt bytes 1 = usbDescEndpoint
  · have hlen : bytes.length = 7 := h.1
    rw [if_pos (decide_eq_true h), if_neg (by simp [h])]
    simp (disch := omega) only [index_eq, readU16Le_eq, lift_ok_bind]
  · rw [if_neg (by simpa using h), if_pos (by simpa only [not_and_or] using h)]
    rfl

theorem bodyStep_eq (st : Body) (descriptorType : UInt8) (bytes : List UInt8) :
    bodyStep st descriptorType bytes = lift (st.bodyStep descriptorType bytes) := by
  rw [bodyStep, Body.bodyStep]
  by_cases hinterface : descriptorType = usbDescInterface
  · rw [if_pos hinterface, if_pos hinterface, interfaceFromUsbBytes_eq]
    cases st.close with
    | error e => rfl
    | ok st' => cases UsbInterfaceDescriptor.fromUsbBytes bytes <;> rfl
  · rw [if_neg hinterface, if_neg hinterface]
    by_cases hendpoint : descriptorType = usbDescEndpoint
    · rw [if_pos hendpoint, if_pos hendpoint, endpointFromUsbBytes_eq]
      cases st.current with
      | none => rfl
      | some open' => cases UsbEndpointDescriptor.fromUsbBytes bytes <;> rfl
    · rw [if_neg hendpoint, if_neg hendpoint, validateExtraDescriptor_eq]
      cases st.current with
      | none => cases WhyUsb.validateExtraDescriptor bytes <;> rfl
      | some open' => cases WhyUsb.validateExtraDescriptor bytes <;> rfl

/-! ## Loops -/

/-- Each round takes at least two bytes, so as many rounds as bytes are left are enough. -/
theorem loop_eq (body : List UInt8) : ∀ (fuel offset : Nat) (st : Body), offset ≤ body.length →
    body.length ≤ offset + fuel → loop body fuel offset st = lift (Body.loop fuel (body.drop offset) st)
  | 0, offset, st, h, hfuel => by
    rw [loop, if_neg (by omega), List.drop_eq_nil_of_le (by omega), Body.loop_nil]
  | fuel + 1, offset, st, h, hfuel => by
    rw [loop]
    by_cases hoffset : offset < body.length
    · have hrest : body.drop offset ≠ [] := fun hnil => by
        rw [List.drop_eq_nil_iff] at hnil
        omega
      rw [if_pos hoffset, Body.loop_succ hrest, descriptorHeader_eq h]
      cases hheader : WhyUsb.descriptorHeader (body.drop offset) with
      | error e => rfl
      | ok header =>
        obtain ⟨len, type⟩ := header
        obtain ⟨r, rest, hsplit, hr, rfl, -⟩ := descriptorHeader_ok hheader
        have hlen := congrArg List.length hsplit
        rw [List.length_append, List.length_drop] at hlen
        have htwo := hr.1
        have htake := take_follows h r.length
        rw [hsplit, take_append rfl] at htake
        obtain ⟨offset', hle, rfl, htake⟩ := htake
        rw [List.length_drop] at hlen
        rw [lift_ok_bind, ok_bind]
        dsimp only
        rw [htake, hsplit, take_append rfl, lift_ok_bind, ok_bind]
        dsimp only
        rw [bodyStep_eq]
        cases st.bodyStep type r with
        | error e => rfl
        | ok st' =>
          rw [lift_ok_bind, ok_bind]
          exact loop_eq body fuel offset' st' hle (by omega)
    · rw [if_neg hoffset, List.drop_eq_nil_of_le (by omega), Body.loop_nil]

theorem decodeFrom_follows {bytes : List UInt8} {offset : Nat} (h : offset ≤ bytes.length) :
    Follows bytes (decodeFrom bytes offset) (UsbConfiguration.decodeFrom (bytes.drop offset)) := by
  refine (take_follows h _).bind fun configBytes offset h => ?_
  dsimp only
  rw [configurationFromUsbBytes_eq]
  refine Follows.lift_bind _ fun descriptor => ?_
  by_cases htotal : descriptor.2.1.toNat < UsbConfigurationDescriptor.len
  · rw [if_pos htotal, if_pos htotal]
    exact Follows.error _
  · rw [if_neg htotal, if_neg htotal, sub, if_pos (Nat.le_of_not_lt htotal), lift_ok_bind]
    refine (take_follows h _).bind fun body offset h => ?_
    dsimp only
    rw [loop_eq body body.length 0 _ (Nat.zero_le _) (by omega), List.drop_zero]
    exact Follows.lift_bind _ fun st => Follows.lift_bind _ fun st => Follows.ite (Follows.ok h _)

theorem decodeConfigurations_follows {bytes : List UInt8} : ∀ (n : Nat) {offset : Nat}, offset ≤ bytes.length →
    Follows bytes (decodeConfigurations bytes n offset) (UsbDescriptorSet.decodeConfigurations n (bytes.drop offset))
  | 0, _, h => Follows.ok h _
  | n + 1, _, h =>
    (decodeFrom_follows h).bind fun _ _ h => (decodeConfigurations_follows n h).bind fun _ _ h => Follows.ok h _

theorem decodeSidecars_follows {bytes : List UInt8} :
    ∀ (n : Nat) {offset : Nat} (configurations : List UsbConfiguration), offset ≤ bytes.length →
    Follows bytes (decodeSidecars bytes n offset configurations)
      (WhyUsb.decodeSidecars n (bytes.drop offset) configurations)
  | 0, _, _, h => Follows.ok h _
  | n + 1, offset, configurations, h => by
    rw [decodeSidecars, WhyUsb.decodeSidecars]
    have htake := take_follows h descriptorSidecarHeaderLen
    cases hheader : WhyUsb.take (bytes.drop offset) descriptorSidecarHeaderLen with
    | error e =>
      rw [hheader] at htake
      rw [show take bytes offset descriptorSidecarHeaderLen = _ from htake]
      exact Follows.error e
    | ok p =>
      obtain ⟨header, rest⟩ := p
      have hlen : header.length = 8 := (take_ok hheader).2
      rw [hheader] at htake
      obtain ⟨offset, hle, rfl, htake⟩ := htake
      rw [htake, lift_ok_bind, ok_bind]
      dsimp only
      simp (disch := omega) only [index_eq, readU16Le_eq, lift_ok_bind]
      refine (take_follows hle _).bind fun report offset h => Follows.ite ?_
      exact Follows.lift_bind _ fun configurations => decodeSidecars_follows n configurations h

/-- The decoder halts on every input without a fault, with the result of `UsbDescriptorSet.decode`. -/
theorem decode_eq (bytes : List UInt8) : decode bytes = lift (UsbDescriptorSet.decode bytes) := by
  rw [decode, UsbDescriptorSet.decode]
  by_cases hmin : bytes.length < 8 + UsbDeviceDescriptor.len
  · rw [if_pos hmin, if_pos hmin]
    rfl
  · rw [if_neg hmin, if_neg hmin]
    rw [UsbDeviceDescriptor.len] at hmin
    have hrange : (range bytes 0 4 : CheckedM (List UInt8)) = lift (.ok (slice bytes 0 4)) := by
      rw [range, if_pos (by omega)]
      rfl
    rw [hrange, lift_ok_bind]
    by_cases hmagic : slice bytes 0 4 ≠ descriptorSetMagic
    · rw [if_pos hmagic, if_pos hmagic]
      rfl
    · rw [if_neg hmagic, if_neg hmagic, index_eq (by omega), lift_ok_bind]
      by_cases hversion : byteAt bytes 4 ≠ descriptorSetVersion
      · rw [if_pos hversion, if_pos hversion]
        rfl
      · rw [if_neg hversion, if_neg hversion, index_eq (by omega), lift_ok_bind, readU16Le_eq (by omega),
          lift_ok_bind]
        refine (take_follows (by omega) _).finish fun deviceBytes offset h => ?_
        dsimp only
        rw [deviceFromUsbBytes_eq]
        cases UsbDeviceDescriptor.fromUsbBytes deviceBytes with
        | error e => rfl
        | ok p =>
          rw [lift_ok_bind, ok_bind]
          by_cases hcount : p.2.toNat ≠ (byteAt bytes 5).toNat
          · rw [if_pos hcount, if_pos hcount]
            rfl
          · rw [if_neg hcount, if_neg hcount]
            refine (decodeConfigurations_follows _ h).finish fun configurations offset h => ?_
            refine (decodeSidecars_follows _ configurations h).finish fun configurations offset h => ?_
            dsimp only
            by_cases hrest : offset ≠ bytes.length
            · rw [if_pos hrest, if_pos fun hnil => hrest (by rw [List.drop_eq_nil_iff] at hnil; omega)]
              rfl
            · rw [if_neg hrest, if_neg fun hnil => hnil (List.drop_eq_nil_of_le (by omega))]

end Checked

end WhyUsb
