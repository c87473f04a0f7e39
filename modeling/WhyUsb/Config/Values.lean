import WhyUsb.Config.Vhci
import WhyUsb.Session.Network

/-!
# The values of the settings

The daemon's attach selector, its mock keys and its outcome rules, and the
client's device id, as they are read from the environment. Each list is cut at
its commas; the numbers of the selector and of the keys are hexadecimal first
and decimal second.
-/

namespace WhyUsb

open Numeral Words

/-! ## Numbers -/

def displayParseIntError : ParseIntError → String
  | .empty => "cannot parse integer from empty string"
  | .invalidDigit => "invalid digit found in string"
  | .posOverflow => "number too large to fit in target type"
  | .negOverflow => "number too small to fit in target type"

/-- `trim_start_matches("0x")`, which takes off every one of them. -/
def trimHexPrefix : List Char → List Char
  | '0' :: 'x' :: value => trimHexPrefix value
  | value => value

/-- `parse_u16` and `parse_u8` apart from their type and errors. -/
def parseHexOrDecimal (bits : Nat) (value : List Char) : Except ParseIntError Nat :=
  match fromStrRadix 16 (2 ^ bits) (trimHexPrefix value) with
  | .ok n => .ok n
  | .error _ => fromStrRadix 10 (2 ^ bits) value

def parseU16 (value : Option (List Char)) (field : String) : Except String UInt16 :=
  match value with
  | none => .error ("missing " ++ field)
  | some value => ((parseHexOrDecimal 16 value).map UInt16.ofNat).mapError displayParseIntError

def parseU8 (value : List Char) (field : String) : Except String UInt8 :=
  ((parseHexOrDecimal 8 value).map UInt8.ofNat).mapError fun e => "invalid " ++ field ++ ": " ++ displayParseIntError e

/-! ## The attach selector -/

/-- The value of `WHY_USB_ATTACH_FLAGS`, where it is set. -/
def parseAttachFlags : Option (List Char) → Except String UInt16
  | none => .ok 0
  | some value => parseU16 (some value) "attach flags"

def parseAttachDevice (flags : Option (List Char)) (value : List Char) : Except String DeviceAttachRequest := do
  let parts := value.splitOn ':'
  let vendorId ← parseU16 parts[0]? "vendor id"
  let productId ← parseU16 parts[1]? "product id"
  let busId ← parseU8 (parts[2]?.getD ['0']) "bus id"
  let portId ← parseU8 (parts[3]?.getD ['0']) "port id"
  if parts[4]?.isSome then .error "WHY_USB_ATTACH_DEVICE must be vid:pid[:bus[:port]]"
  else do
    let flags ← parseAttachFlags flags
    .ok { vendorId, productId, busId, portId, flags }

/-! ## Mock keys -/

def keyA : UInt8 := 0x04

def namedKeycode (lower : List Char) : Option UInt8 :=
  if lower = "enter".toList ∨ lower = "return".toList then some 0x28
  else if lower = "escape".toList ∨ lower = "esc".toList then some 0x29
  else if lower = "backspace".toList then some 0x2a
  else if lower = "tab".toList then some 0x2b
  else if lower = "space".toList then some 0x2c
  else none

def parseHidKeycode (value : List Char) : Except String UInt8 :=
  let lower := value.map Char.toLower
  match namedKeycode lower with
  | some keycode => .ok keycode
  | none =>
    match lower with
    | [letter] =>
      if letter.isLower then .ok (keyA + (UInt8.ofNat letter.toNat - UInt8.ofNat 'a'.toNat))
      else parseU8 value "HID keycode"
    | _ => parseU8 value "HID keycode"

def parseHidKeycodes (value : List Char) : Except String (List UInt8) := do
  let keycodes ← (Words.entries isWhitespace ',' value).mapM parseHidKeycode
  if keycodes.isEmpty then .error "WHY_USB_MOCK_HID_KEYS must include at least one key" else .ok keycodes

/-! ## Outcome rules -/

def namedStatus (lower : List Char) : Option TransferStatus :=
  if lower = "ok".toList then some .ok
  else if lower = "failed".toList ∨ lower = "fail".toList ∨ lower = "error".toList then some .failed
  else if lower = "cancelled".toList ∨ lower = "canceled".toList ∨ lower = "cancel".toList then some .cancelled
  else if lower = "timeout".toList then some .timeout
  else if lower = "stall".toList ∨ lower = "stalled".toList then some .stall
  else if lower = "reset".toList then some .reset
  else none

def parseMockTransferOutcomeValue (value : List Char) : Except String MockTransferOutcome :=
  let lower := value.map Char.toLower
  if "short:".toList.isPrefixOf lower then
    ((fromStrRadix 10 (2 ^ 64) (lower.drop 6)).map MockTransferOutcome.shortPacket).mapError displayParseIntError
  else
    match namedStatus lower with
    | some status => .ok (.status status)
    | none => .error ("unsupported mock transfer outcome: " ++ String.ofList value)

/-- `split_once('=')`. -/
def splitOnce (value : List Char) : Option (List Char × List Char) :=
  match value.dropWhile (· ≠ '=') with
  | [] => none
  | _ :: rest => some (value.takeWhile (· ≠ '='), rest)

def parseMockTransferOutcome (value : List Char) : Except String MockTransferOutcomeRule :=
  match splitOnce value with
  | none => .error "mock transfer outcome must be request_id=outcome"
  | some (requestId, outcome) => do
    let requestId ← ((fromStrRadix 10 (2 ^ 64) (trim isWhitespace requestId)).map UInt64.ofNat).mapError displayParseIntError
    let outcome ← parseMockTransferOutcomeValue (trim isWhitespace outcome)
    .ok { requestId, outcome }

def parseMockTransferOutcomes (value : List Char) : Except String (List MockTransferOutcomeRule) :=
  (Words.entries isWhitespace ',' value).mapM parseMockTransferOutcome

end WhyUsb
