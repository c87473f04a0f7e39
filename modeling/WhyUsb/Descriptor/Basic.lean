import WhyUsb.Protocol.Control

/-!
# Descriptor sets

The descriptor set of a device and its two codecs. `encode` writes the device
record, the configuration blocks and, apart from them, the report descriptors
("sidecars"); `decode` walks the type-length records of a block with a state
machine (`bodyStep`) and attaches each sidecar to the first interface with its
key. The offset of the source is what is left of the byte string here.
-/

namespace WhyUsb

open Endian

def descriptorSetMagic : List UInt8 := [0x57, 0x44, 0x45, 0x53]
def descriptorSetVersion : UInt8 := 1
def descriptorSidecarHeaderLen : Nat := 8

abbrev DecodeM := Except ProtocolError

/-- `take`: the next `len` bytes and what follows them. -/
def take (rest : List UInt8) (len : Nat) : DecodeM (List UInt8 × List UInt8) :=
  if rest.length < len then .error (.invalidDescriptorSet "descriptor payload truncated")
  else .ok (rest.take len, rest.drop len)

/-- `descriptor_header`: length and type of the next record. -/
def descriptorHeader (rest : List UInt8) : DecodeM (Nat × UInt8) :=
  if rest.length < 2 then .error (.invalidDescriptorSet "descriptor header truncated")
  else
    let descriptorLen := (byteAt rest 0).toNat
    if descriptorLen < 2 ∨ rest.length < descriptorLen then
      .error (.invalidDescriptorSet "invalid descriptor length")
    else .ok (descriptorLen, byteAt rest 1)

def validateExtraDescriptor (bytes : List UInt8) : DecodeM Unit :=
  if bytes.length < 2 ∨ (byteAt bytes 0).toNat ≠ bytes.length then
    .error (.invalidDescriptorSet "invalid extra descriptor")
  else .ok ()

/-- `map_err` of a failed count or length conversion. -/
def orTooMany {α : Type} (x : Option α) (message : String) : DecodeM α :=
  match x with
  | some a => .ok a
  | none => .error (.invalidDescriptorSet message)

/-- A loop that extends the output by what each element encodes to. -/
def concatM {α : Type} (f : α → DecodeM (List UInt8)) : List α → DecodeM (List UInt8)
  | [] => .ok []
  | a :: as => do
    let bytes ← f a
    let rest ← concatM f as
    .ok (bytes ++ rest)

/-! ## Fixed records -/

structure UsbDeviceDescriptor where
  usbVersion : UInt16
  deviceClass : UInt8
  deviceSubClass : UInt8
  deviceProtocol : UInt8
  maxPacketSize0 : UInt8
  vendorId : UInt16
  productId : UInt16
  deviceVersion : UInt16
  manufacturerIndex : UInt8
  productIndex : UInt8
  serialNumberIndex : UInt8
  deriving DecidableEq, Repr

namespace UsbDeviceDescriptor

def len : Nat := 18

def toUsbBytes (d : UsbDeviceDescriptor) (configurationCount : UInt8) : List UInt8 :=
  18 :: usbDescDevice :: (u16Le d.usbVersion ++ d.deviceClass :: d.deviceSubClass :: d.deviceProtocol ::
    d.maxPacketSize0 :: (u16Le d.vendorId ++ (u16Le d.productId ++ (u16Le d.deviceVersion ++
      [d.manufacturerIndex, d.productIndex, d.serialNumberIndex, configurationCount]))))

def fromUsbBytes (bytes : List UInt8) : DecodeM (UsbDeviceDescriptor × UInt8) :=
  if bytes.length ≠ len ∨ byteAt bytes 0 ≠ 18 ∨ byteAt bytes 1 ≠ usbDescDevice then
    .error (.invalidDescriptorSet "invalid device descriptor")
  else
    .ok ({
      usbVersion := readU16Le bytes 2
      deviceClass := byteAt bytes 4
      deviceSubClass := byteAt bytes 5
      deviceProtocol := byteAt bytes 6
      maxPacketSize0 := byteAt bytes 7
      vendorId := readU16Le bytes 8
      productId := readU16Le bytes 10
      deviceVersion := readU16Le bytes 12
      manufacturerIndex := byteAt bytes 14
      productIndex := byteAt bytes 15
      serialNumberIndex := byteAt bytes 16 }, byteAt bytes 17)

end UsbDeviceDescriptor

structure UsbConfigurationDescriptor where
  configurationValue : UInt8
  configurationIndex : UInt8
  attributes : UInt8
  maxPower : UInt8
  deriving DecidableEq, Repr

namespace UsbConfigurationDescriptor

def len : Nat := 9

def toUsbBytes (d : UsbConfigurationDescriptor) (totalLength : UInt16) (interfaceCount : UInt8) : List UInt8 :=
  9 :: usbDescConfiguration :: (u16Le totalLength ++
    [interfaceCount, d.configurationValue, d.configurationIndex, d.attributes, d.maxPower])

def fromUsbBytes (bytes : List UInt8) : DecodeM (UsbConfigurationDescriptor × UInt16 × UInt8) :=
  if bytes.length ≠ len ∨ byteAt bytes 0 ≠ 9 ∨ byteAt bytes 1 ≠ usbDescConfiguration then
    .error (.invalidDescriptorSet "invalid configuration descriptor")
  else
    .ok ({
      configurationValue := byteAt bytes 5
      configurationIndex := byteAt bytes 6
      attributes := byteAt bytes 7
      maxPower := byteAt bytes 8 }, readU16Le bytes 2, byteAt bytes 4)

end UsbConfigurationDescriptor

structure UsbInterfaceDescriptor where
  interfaceNumber : UInt8
  alternateSetting : UInt8
  interfaceClass : UInt8
  interfaceSubClass : UInt8
  interfaceProtocol : UInt8
  interfaceIndex : UInt8
  deriving DecidableEq, Repr

namespace UsbInterfaceDescriptor

def len : Nat := 9

def toUsbBytes (d : UsbInterfaceDescriptor) (endpointCount : UInt8) : List UInt8 :=
  [9, usbDescInterface, d.interfaceNumber, d.alternateSetting, endpointCount, d.interfaceClass,
    d.interfaceSubClass, d.interfaceProtocol, d.interfaceIndex]

def fromUsbBytes (bytes : List UInt8) : DecodeM (UsbInterfaceDescriptor × UInt8) :=
  if bytes.length ≠ len ∨ byteAt bytes 0 ≠ 9 ∨ byteAt bytes 1 ≠ usbDescInterface then
    .error (.invalidDescriptorSet "invalid interface descriptor")
  else
    .ok ({
      interfaceNumber := byteAt bytes 2
      alternateSetting := byteAt bytes 3
      interfaceClass := byteAt bytes 5
      interfaceSubClass := byteAt bytes 6
      interfaceProtocol := byteAt bytes 7
      interfaceIndex := byteAt bytes 8 }, byteAt bytes 4)

end UsbInterfaceDescriptor

structure UsbEndpointDescriptor where
  address : UInt8
  attributes : UInt8
  maxPacketSize : UInt16
  interval : UInt8
  deriving DecidableEq, Repr

namespace UsbEndpointDescriptor

def len : Nat := 7

def toUsbBytes (d : UsbEndpointDescriptor) : List UInt8 :=
  7 :: usbDescEndpoint :: d.address :: d.attributes :: (u16Le d.maxPacketSize ++ [d.interval])

def fromUsbBytes (bytes : List UInt8) : DecodeM UsbEndpointDescriptor :=
  if bytes.length ≠ len ∨ byteAt bytes 0 ≠ 7 ∨ byteAt bytes 1 ≠ usbDescEndpoint then
    .error (.invalidDescriptorSet "invalid endpoint descriptor")
  else
    .ok {
      address := byteAt bytes 2
      attributes := byteAt bytes 3
      maxPacketSize := readU16Le bytes 4
      interval := byteAt bytes 6 }

end UsbEndpointDescriptor

/-! ## Interfaces -/

structure UsbInterface where
  descriptor : UsbInterfaceDescriptor
  extraDescriptors : List (List UInt8)
  reportDescriptor : Option (List UInt8)
  endpoints : List UsbEndpointDescriptor
  deriving DecidableEq, Repr

/-- The loop over extra descriptors of both `to_usb_bytes`. -/
def extrasBytes : List (List UInt8) → DecodeM (List UInt8) :=
  concatM fun extra => do
    validateExtraDescriptor extra
    .ok extra

def UsbInterface.toUsbBytes (i : UsbInterface) : DecodeM (List UInt8) := do
  let endpointCount ← orTooMany (u8TryFrom i.endpoints.length) "too many endpoints"
  let extras ← extrasBytes i.extraDescriptors
  .ok (i.descriptor.toUsbBytes endpointCount ++ (extras ++ i.endpoints.flatMap (·.toUsbBytes)))

structure OpenInterface where
  descriptor : UsbInterfaceDescriptor
  expectedEndpoints : UInt8
  extraDescriptors : List (List UInt8)
  endpoints : List UsbEndpointDescriptor
  deriving DecidableEq, Repr

def OpenInterface.finish (open' : OpenInterface) : DecodeM UsbInterface :=
  if open'.endpoints.length ≠ open'.expectedEndpoints.toNat then
    .error (.invalidDescriptorSet "endpoint count mismatch")
  else
    .ok {
      descriptor := open'.descriptor
      extraDescriptors := open'.extraDescriptors
      reportDescriptor := none
      endpoints := open'.endpoints }

/-! ## Configurations -/

structure UsbConfiguration where
  descriptor : UsbConfigurationDescriptor
  extraDescriptors : List (List UInt8)
  interfaces : List UsbInterface
  deriving DecidableEq, Repr

structure Body where
  extraDescriptors : List (List UInt8)
  interfaces : List UsbInterface
  current : Option OpenInterface
  deriving DecidableEq, Repr

namespace Body

def empty : Body where
  extraDescriptors := []
  interfaces := []
  current := none

/-- `if let Some(open) = current.take()`. -/
def close (st : Body) : DecodeM Body :=
  match st.current with
  | none => .ok st
  | some open' => do
    let i ← open'.finish
    .ok { st with interfaces := st.interfaces ++ [i], current := none }

/-- The `match` on the type of one record. -/
def bodyStep (st : Body) (descriptorType : UInt8) (bytes : List UInt8) : DecodeM Body :=
  if descriptorType = usbDescInterface then do
    let st ← st.close
    let (descriptor, endpointCount) ← UsbInterfaceDescriptor.fromUsbBytes bytes
    .ok { st with
      current := some { descriptor, expectedEndpoints := endpointCount, extraDescriptors := [], endpoints := [] } }
  else if descriptorType = usbDescEndpoint then
    match st.current with
    | none => .error (.invalidDescriptorSet "endpoint descriptor before interface")
    | some open' => do
      let endpoint ← UsbEndpointDescriptor.fromUsbBytes bytes
      .ok { st with current := some { open' with endpoints := open'.endpoints ++ [endpoint] } }
  else
    match st.current with
    | some open' => do
      validateExtraDescriptor bytes
      .ok { st with current := some { open' with extraDescriptors := open'.extraDescriptors ++ [bytes] } }
    | none => do
      validateExtraDescriptor bytes
      .ok { st with extraDescriptors := st.extraDescriptors ++ [bytes] }

/-- The `while` loop; a record has at least two bytes, so the body's length is fuel enough. -/
def loop : Nat → List UInt8 → Body → DecodeM Body
  | _, [], st => .ok st
  | 0, _ :: _, st => .ok st
  | fuel + 1, rest@(_ :: _), st => do
    let (descriptorLen, descriptorType) ← descriptorHeader rest
    let (bytes, rest) ← take rest descriptorLen
    let st ← st.bodyStep descriptorType bytes
    loop fuel rest st

end Body

namespace UsbConfiguration

def toUsbBytes (c : UsbConfiguration) : DecodeM (List UInt8) := do
  let interfaceCount ← orTooMany (u8TryFrom c.interfaces.length) "too many interfaces"
  let extras ← extrasBytes c.extraDescriptors
  let interfaces ← concatM UsbInterface.toUsbBytes c.interfaces
  let body := extras ++ interfaces
  let totalLength ← orTooMany (u16TryFrom (UsbConfigurationDescriptor.len + body.length)) "configuration too large"
  .ok (c.descriptor.toUsbBytes totalLength interfaceCount ++ body)

def decodeFrom (rest : List UInt8) : DecodeM (UsbConfiguration × List UInt8) := do
  let (configBytes, rest) ← take rest UsbConfigurationDescriptor.len
  let (descriptor, totalLength, interfaceCount) ← UsbConfigurationDescriptor.fromUsbBytes configBytes
  if totalLength.toNat < UsbConfigurationDescriptor.len then
    .error (.invalidDescriptorSet "invalid configuration total length")
  else
    let (body, rest) ← take rest (totalLength.toNat - UsbConfigurationDescriptor.len)
    let st ← Body.loop body.length body .empty
    let st ← st.close
    if st.interfaces.length ≠ interfaceCount.toNat then
      .error (.invalidDescriptorSet "interface count mismatch")
    else
      .ok ({ descriptor, extraDescriptors := st.extraDescriptors, interfaces := st.interfaces }, rest)

end UsbConfiguration

/-! ## Sidecars -/

def UsbInterface.sidecar (i : UsbInterface) (configIndex : UInt8) (descriptorLen : UInt16) (report : List UInt8) :
    List UInt8 :=
  configIndex :: i.descriptor.interfaceNumber :: i.descriptor.alternateSetting :: usbDescHidReport :: 0 :: 0 ::
    (u16Le descriptorLen ++ report)

/-- `report_descriptor_sidecars` over the interfaces of one configuration. -/
def interfaceSidecars (configIndex : UInt8) : List UsbInterface → DecodeM (List (List UInt8))
  | [] => .ok []
  | i :: is =>
    match i.reportDescriptor with
    | none => interfaceSidecars configIndex is
    | some report => do
      let descriptorLen ← orTooMany (u16TryFrom report.length) "report descriptor too large"
      let sidecars ← interfaceSidecars configIndex is
      .ok (i.sidecar configIndex descriptorLen report :: sidecars)

/-- `report_descriptor_sidecars` from the configuration with index `configIndex` on. -/
def configurationSidecars (configIndex : Nat) : List UsbConfiguration → DecodeM (List (List UInt8))
  | [] => .ok []
  | c :: cs => do
    let index ← orTooMany (u8TryFrom configIndex) "too many configurations"
    let sidecars ← interfaceSidecars index c.interfaces
    let rest ← configurationSidecars (configIndex + 1) cs
    .ok (sidecars ++ rest)

def UsbInterface.hasKey (interfaceNumber alternateSetting : UInt8) (i : UsbInterface) : Bool :=
  i.descriptor.interfaceNumber == interfaceNumber && i.descriptor.alternateSetting == alternateSetting

/-- `iter_mut().find(..)` and the assignment to what it found. -/
def attachReport (interfaceNumber alternateSetting : UInt8) (report : List UInt8) :
    List UsbInterface → DecodeM (List UsbInterface)
  | [] => .error (.invalidDescriptorSet "sidecar interface index out of range")
  | i :: is =>
    if i.hasKey interfaceNumber alternateSetting then .ok ({ i with reportDescriptor := some report } :: is)
    else do
      let is ← attachReport interfaceNumber alternateSetting report is
      .ok (i :: is)

def attachSidecar (configurations : List UsbConfiguration) (configIndex : Nat)
    (interfaceNumber alternateSetting : UInt8) (report : List UInt8) : DecodeM (List UsbConfiguration) :=
  match configurations[configIndex]? with
  | none => .error (.invalidDescriptorSet "sidecar configuration index out of range")
  | some c => do
    let interfaces ← attachReport interfaceNumber alternateSetting report c.interfaces
    .ok (configurations.set configIndex { c with interfaces })

def decodeSidecars : Nat → List UInt8 → List UsbConfiguration → DecodeM (List UsbConfiguration × List UInt8)
  | 0, rest, configurations => .ok (configurations, rest)
  | n + 1, rest, configurations => do
    let (header, rest) ← take rest descriptorSidecarHeaderLen
    let (report, rest) ← take rest (readU16Le header 6).toNat
    if byteAt header 3 ≠ usbDescHidReport ∨ byteAt header 4 ≠ 0 then
      .error (.invalidDescriptorSet "unsupported sidecar descriptor")
    else
      let configurations ←
        attachSidecar configurations (byteAt header 0).toNat (byteAt header 1) (byteAt header 2) report
      decodeSidecars n rest configurations

/-! ## The set -/

structure UsbDescriptorSet where
  device : UsbDeviceDescriptor
  configurations : List UsbConfiguration
  deriving DecidableEq, Repr

namespace UsbDescriptorSet

def encode (d : UsbDescriptorSet) : DecodeM (List UInt8) := do
  let configCount ← orTooMany (u8TryFrom d.configurations.length) "too many configurations"
  let sidecars ← configurationSidecars 0 d.configurations
  let sidecarCount ← orTooMany (u16TryFrom sidecars.length) "too many sidecar descriptors"
  let configurations ← concatM UsbConfiguration.toUsbBytes d.configurations
  .ok (descriptorSetMagic ++ descriptorSetVersion :: configCount :: (u16Le sidecarCount ++
    (d.device.toUsbBytes configCount ++ (configurations ++ sidecars.flatten))))

def decodeConfigurations : Nat → List UInt8 → DecodeM (List UsbConfiguration × List UInt8)
  | 0, rest => .ok ([], rest)
  | n + 1, rest => do
    let (configuration, rest) ← UsbConfiguration.decodeFrom rest
    let (configurations, rest) ← decodeConfigurations n rest
    .ok (configuration :: configurations, rest)

def decode (bytes : List UInt8) : DecodeM UsbDescriptorSet :=
  if bytes.length < 8 + UsbDeviceDescriptor.len then .error (.invalidDescriptorSet "payload too short")
  else if slice bytes 0 4 ≠ descriptorSetMagic then
    .error (.invalidDescriptorSet "invalid descriptor set magic")
  else if byteAt bytes 4 ≠ descriptorSetVersion then
    .error (.invalidDescriptorSet "unsupported descriptor set version")
  else do
    let configCount := (byteAt bytes 5).toNat
    let sidecarCount := (readU16Le bytes 6).toNat
    let (deviceBytes, rest) ← take (bytes.drop 8) UsbDeviceDescriptor.len
    let (device, deviceConfigCount) ← UsbDeviceDescriptor.fromUsbBytes deviceBytes
    if deviceConfigCount.toNat ≠ configCount then
      .error (.invalidDescriptorSet "device configuration count mismatch")
    else
      let (configurations, rest) ← decodeConfigurations configCount rest
      let (configurations, rest) ← decodeSidecars sidecarCount rest configurations
      if rest ≠ [] then .error (.invalidDescriptorSet "trailing descriptor payload bytes")
      else .ok { device, configurations }

def deviceDescriptorBytes (d : UsbDescriptorSet) : DecodeM (List UInt8) := do
  let configCount ← orTooMany (u8TryFrom d.configurations.length) "too many configurations"
  .ok (d.device.toUsbBytes configCount)

def configurationDescriptorBytes (d : UsbDescriptorSet) (descriptorIndex : UInt8) : DecodeM (List UInt8) :=
  match d.configurations[descriptorIndex.toNat]? with
  | none => .error (.invalidDescriptorSet "configuration descriptor index out of range")
  | some c => c.toUsbBytes

def reportDescriptorBytes (d : UsbDescriptorSet) (configurationIndex interfaceNumber descriptorIndex : UInt8) :
    DecodeM (List UInt8) :=
  if descriptorIndex ≠ 0 then .error (.invalidDescriptorSet "report descriptor index out of range")
  else
    match d.configurations[configurationIndex.toNat]? with
    | none => .error (.invalidDescriptorSet "configuration descriptor index out of range")
    | some c =>
      match c.interfaces.find? fun i => i.descriptor.interfaceNumber == interfaceNumber with
      | none => .error (.invalidDescriptorSet "interface descriptor index out of range")
      | some i =>
        match i.reportDescriptor with
        | none => .error (.invalidDescriptorSet "missing report descriptor")
        | some report => .ok report

end UsbDescriptorSet

def hidKeyboardReportDescriptor : List UInt8 :=
  [0x05, 0x01, 0x09, 0x06, 0xa1, 0x01, 0x05, 0x07, 0x19, 0xe0, 0x29, 0xe7, 0x15, 0x00, 0x25,
    0x01, 0x75, 0x01, 0x95, 0x08, 0x81, 0x02, 0x95, 0x01, 0x75, 0x08, 0x81, 0x01, 0x95, 0x05,
    0x75, 0x01, 0x05, 0x08, 0x19, 0x01, 0x29, 0x05, 0x91, 0x02, 0x95, 0x01, 0x75, 0x03, 0x91,
    0x01, 0x95, 0x06, 0x75, 0x08, 0x15, 0x00, 0x25, 0x65, 0x05, 0x07, 0x19, 0x00, 0x29, 0x65,
    0x81, 0x00, 0xc0]

def UsbDescriptorSet.mockHidKeyboard (vendorId productId : UInt16) : UsbDescriptorSet where
  device := {
    usbVersion := 0x0200
    deviceClass := 0
    deviceSubClass := 0
    deviceProtocol := 0
    maxPacketSize0 := 64
    vendorId := vendorId
    productId := productId
    deviceVersion := 0x0100
    manufacturerIndex := 1
    productIndex := 2
    serialNumberIndex := 3 }
  configurations := [{
    descriptor := { configurationValue := 1, configurationIndex := 0, attributes := 0x80, maxPower := 50 }
    extraDescriptors := []
    interfaces := [{
      descriptor := {
        interfaceNumber := 0
        alternateSetting := 0
        interfaceClass := 0x03
        interfaceSubClass := 0x01
        interfaceProtocol := 0x01
        interfaceIndex := 0 }
      extraDescriptors := [[0x09, 0x21, 0x11, 0x01, 0x00, 0x01, 0x22, 0x3f, 0x00]]
      reportDescriptor := some hidKeyboardReportDescriptor
      endpoints := [{ address := 0x81, attributes := 0x03, maxPacketSize := 8, interval := 10 }] }] }]

end WhyUsb
