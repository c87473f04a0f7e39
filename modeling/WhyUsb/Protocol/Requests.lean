import WhyUsb.Protocol.Frame

/-!
# What a client sends

The setup packets of the standard requests and the frames that carry them, the
lifecycle requests, and the mock transfers.
-/

namespace WhyUsb

open Endian

def usbReqSetAddress : UInt8 := 0x05
def usbReqGetDescriptor : UInt8 := 0x06
def usbReqSetConfiguration : UInt8 := 0x09

def UsbDescriptorType.asU8 : UsbDescriptorType → UInt8
  | .device => usbDescDevice
  | .configuration => usbDescConfiguration
  | .string => usbDescString
  | .interface => usbDescInterface
  | .endpoint => usbDescEndpoint
  | .report => usbDescHidReport

namespace UsbControlSetup

def getDescriptor (descriptorType : UsbDescriptorType) (descriptorIndex : UInt8) (length : UInt16) :
    UsbControlSetup where
  requestType := 0x80
  request := usbReqGetDescriptor
  value := (descriptorType.asU8.toUInt16 <<< 8) ||| descriptorIndex.toUInt16
  index := 0
  length := length

def getInterfaceDescriptor (descriptorType : UsbDescriptorType) (descriptorIndex interfaceNumber : UInt8)
    (length : UInt16) : UsbControlSetup where
  requestType := 0x81
  request := usbReqGetDescriptor
  value := (descriptorType.asU8.toUInt16 <<< 8) ||| descriptorIndex.toUInt16
  index := interfaceNumber.toUInt16
  length := length

def setAddress (address : UInt8) : UsbControlSetup where
  requestType := 0x00
  request := usbReqSetAddress
  value := address.toUInt16
  index := 0
  length := 0

def setConfiguration (configurationValue : UInt8) : UsbControlSetup where
  requestType := 0x00
  request := usbReqSetConfiguration
  value := configurationValue.toUInt16
  index := 0
  length := 0

end UsbControlSetup

def UsbControlTransfer.setupOnly (setup : UsbControlSetup) : UsbControlTransfer where
  setup := setup
  data := []

/-- The bytes of the request id, repeated, each plus its index. -/
def MockBulkPayload.synthetic (requestId : UInt64) (dataLen : Nat) : MockBulkPayload where
  data := (List.range dataLen).map fun index =>
    byteAt (leBytes 8 requestId.toNat) (index % 8) + UInt8.ofNat index

namespace Frame

/-- `attach_request` and `detach_request`. -/
def lifecycleRequest (requestId : UInt64) (frameType : FrameType) : Frame where
  requestId := requestId
  frameType := frameType
  direction := .hostToDevice
  transferType := .control
  endpoint := 0
  status := 0
  payload := []

def attachRequest (requestId : UInt64) : Frame := lifecycleRequest requestId .attachRequest

def detachRequest (requestId : UInt64) : Frame := lifecycleRequest requestId .detachRequest

def controlRequest (requestId : UInt64) (setup : UsbControlSetup) : Frame where
  requestId := requestId
  frameType := .request
  direction := setup.transferDirection
  transferType := .control
  endpoint := 0
  status := 0
  payload := (UsbControlTransfer.setupOnly setup).encode

def cancelRequest (requestId : UInt64) (transferType : TransferType) (endpoint : UInt8) : Frame where
  requestId := requestId
  frameType := .cancelRequest
  direction := .hostToDevice
  transferType := transferType
  endpoint := endpoint
  status := 0
  payload := []

def resetRequest (requestId : UInt64) (transferType : TransferType) (endpoint : UInt8) : Frame where
  requestId := requestId
  frameType := .resetRequest
  direction := .hostToDevice
  transferType := transferType
  endpoint := endpoint
  status := 0
  payload := []

def mockRequest (requestId : UInt64) (payload : List UInt8) : Frame where
  requestId := requestId
  frameType := .request
  direction := .hostToDevice
  transferType := .bulk
  endpoint := 1
  status := 0
  payload := payload

/-- `none` is the panic of `MockBulkPayload::encode`. -/
def mockBulkRequest (requestId : UInt64) (payloadLen : Nat) : Option Frame :=
  (MockBulkPayload.synthetic requestId payloadLen).encode.map (mockRequest requestId)

end Frame

end WhyUsb
