import LightingBus.Bytes

/-!
# Reasons for refusing a request

A responder that refuses a request says why with a word; the codes run from zero without gaps.
-/

namespace LightingBus

/-- Why a request was refused. -/
inductive NackReason where
  | unknownPid
  | formatError
  | hardwareFault
  | proxyReject
  | writeProtect
  | unsupportedCommandClass
  | dataOutOfRange
  | bufferFull
  | packetSizeUnsupported
  | subDeviceOutOfRange
  | proxyBufferFull
  deriving DecidableEq, Repr

namespace NackReason

/-- The word that stands for a reason. -/
def code : NackReason → UInt16
  | .unknownPid => 0x0000
  | .formatError => 0x0001
  | .hardwareFault => 0x0002
  | .proxyReject => 0x0003
  | .writeProtect => 0x0004
  | .unsupportedCommandClass => 0x0005
  | .dataOutOfRange => 0x0006
  | .bufferFull => 0x0007
  | .packetSizeUnsupported => 0x0008
  | .subDeviceOutOfRange => 0x0009
  | .proxyBufferFull => 0x000A

/-- Every reason, in the order of the codes. -/
def all : List NackReason :=
  [.unknownPid, .formatError, .hardwareFault, .proxyReject, .writeProtect,
    .unsupportedCommandClass, .dataOutOfRange, .bufferFull, .packetSizeUnsupported,
    .subDeviceOutOfRange, .proxyBufferFull]

/-- The reason a word stands for. -/
def ofCode? (code : UInt16) : Option NackReason :=
  all[code.toNat]?

/-- A reason as the parameter data of a refusal. -/
def toBytes (reason : NackReason) : Bytes :=
  Bytes.ofWord reason.code

/-- A reason in words. -/
def text : NackReason → String
  | .unknownPid => "unknown pid"
  | .formatError => "format error"
  | .hardwareFault => "hardware fault"
  | .proxyReject => "proxy reject"
  | .writeProtect => "write protect"
  | .unsupportedCommandClass => "unsupported command class"
  | .dataOutOfRange => "data out of range"
  | .bufferFull => "buffer full"
  | .packetSizeUnsupported => "packet size unsupported"
  | .subDeviceOutOfRange => "sub device out of range"
  | .proxyBufferFull => "proxy buffer full"

@[simp] theorem ofCode?_code (reason : NackReason) : ofCode? reason.code = some reason := by
  cases reason <;> rfl

@[simp] theorem length_toBytes (reason : NackReason) : reason.toBytes.length = 2 := rfl

end NackReason

end LightingBus
