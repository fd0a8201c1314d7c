import LightingBus.Payload.Label
import LightingBus.Uid

/-!
# Values of the standard parameters

Each standard parameter has a type, a writer and a reader. A reader refuses parameter data of the
wrong length or with an unknown code.
-/

namespace LightingBus

/-! ## Start address -/

/-- The first slot of a frame that a device listens to. -/
inductive StartAddress where
  /-- The device uses no slots. -/
  | unused
  /-- The device uses slots from this one on. -/
  | slot (number : UInt16)
  deriving DecidableEq

namespace StartAddress

/-- The word of a start address; all ones mean that no slots are used. -/
def toWord : StartAddress → UInt16
  | .unused => 0xFFFF
  | .slot number => number

/-- Slots are numbered 1 to 512. -/
def ofWord? (word : UInt16) : Option StartAddress :=
  if word = 0xFFFF then some .unused
  else if 1 ≤ word ∧ word ≤ 512 then some (.slot word)
  else none

def encode (address : StartAddress) : Bytes :=
  Bytes.ofWord address.toWord

def decode? : Bytes → Option StartAddress
  | [high, low] => ofWord? (Bytes.word high low)
  | _ => none

end StartAddress

/-! ## Replies to muting -/

/-- What a device says about itself when it is muted or un-muted. -/
structure MuteReply where
  /-- The device is a proxy. -/
  managedProxy : Bool
  /-- The device has sub-devices. -/
  subDevice : Bool
  /-- The device needs new firmware before it works. -/
  bootLoader : Bool
  /-- A proxy answered for the device. -/
  proxyDevice : Bool
  /-- The primary port of a device with several ports. -/
  binding : Option Uid
  deriving DecidableEq

namespace MuteReply

/-- The four flags, first flag in the lowest bit. -/
def flags (reply : MuteReply) : UInt8 :=
  (if reply.managedProxy then 1 else 0) + (if reply.subDevice then 2 else 0) +
    (if reply.bootLoader then 4 else 0) + (if reply.proxyDevice then 8 else 0)

/-- The bit with this value is set. -/
def hasFlag (flags value : UInt8) : Bool :=
  flags &&& value != 0

/-- A reply with these flags. -/
def ofFlags (flags : UInt8) (binding : Option Uid) : MuteReply where
  managedProxy := hasFlag flags 1
  subDevice := hasFlag flags 2
  bootLoader := hasFlag flags 4
  proxyDevice := hasFlag flags 8
  binding := binding

def encode (reply : MuteReply) : Bytes :=
  [reply.flags, 0] ++ (reply.binding.map Uid.toBytes).getD []

def decode? : Bytes → Option MuteReply
  | [flags, _] => some (ofFlags flags none)
  | flags :: _ :: uid => (Uid.ofBytes? uid).map fun uid => ofFlags flags (some uid)
  | _ => none

end MuteReply

/-! ## Status messages -/

/-- The kind of a status message. -/
inductive StatusType where
  | none
  /-- Asks for the last report once more. -/
  | getLastMessage
  | advisory
  | warning
  | error
  | advisoryCleared
  | warningCleared
  | errorCleared
  deriving DecidableEq, Repr

namespace StatusType

def code : StatusType → UInt8
  | .none => 0x00
  | .getLastMessage => 0x01
  | .advisory => 0x02
  | .warning => 0x03
  | .error => 0x04
  | .advisoryCleared => 0x12
  | .warningCleared => 0x13
  | .errorCleared => 0x14

def ofCode? (code : UInt8) : Option StatusType :=
  if code = 0x00 then some .none
  else if code = 0x01 then some .getLastMessage
  else if code = 0x02 then some .advisory
  else if code = 0x03 then some .warning
  else if code = 0x04 then some .error
  else if code = 0x12 then some .advisoryCleared
  else if code = 0x13 then some .warningCleared
  else if code = 0x14 then some .errorCleared
  else Option.none

/-- Reads the single byte that names a status type. -/
def decode? : Bytes → Option StatusType
  | [code] => ofCode? code
  | _ => Option.none

/-- How severe a status is: its code without the bit that marks it as cleared. -/
def severity (type : StatusType) : UInt8 :=
  type.code &&& 0x0F

@[simp] theorem ofCode?_code (type : StatusType) : ofCode? type.code = some type := by
  cases type <;> rfl

end StatusType

/-- One entry of a device's status report. -/
structure StatusMessage where
  subDevice : UInt16
  type : StatusType
  id : UInt16
  value₁ : UInt16
  value₂ : UInt16
  deriving DecidableEq

namespace StatusMessage

/-- The bytes of one entry. -/
def size : Nat := 9

def encode (m : StatusMessage) : Bytes :=
  Bytes.ofWord m.subDevice ++ [m.type.code] ++ Bytes.ofWord m.id ++ Bytes.ofWord m.value₁ ++
    Bytes.ofWord m.value₂

def decode? : Bytes → Option StatusMessage
  | [s₁, s₀, code, i₁, i₀, a₁, a₀, b₁, b₀] =>
    (StatusType.ofCode? code).map fun type => {
      subDevice := Bytes.word s₁ s₀
      type := type
      id := Bytes.word i₁ i₀
      value₁ := Bytes.word a₁ a₀
      value₂ := Bytes.word b₁ b₀ }
  | _ => Option.none

@[simp] theorem length_encode (m : StatusMessage) : m.encode.length = size := rfl

end StatusMessage

/-- A report holds at most this many entries. -/
def maxStatusMessages : Nat := 25

/-! ## Personalities -/

/-- The chosen personality, counted from one, and how many there are. -/
structure Personality where
  current : UInt8
  count : UInt8
  deriving DecidableEq

namespace Personality

def encode (p : Personality) : Bytes :=
  [p.current, p.count]

def decode? : Bytes → Option Personality
  | [current, count] => some ⟨current, count⟩
  | _ => none

end Personality

/-- What one personality does. -/
structure PersonalityDescription where
  personality : UInt8
  /-- How many slots the personality uses. -/
  footprint : UInt16
  description : Label
  deriving DecidableEq

namespace PersonalityDescription

def encode (d : PersonalityDescription) : Bytes :=
  [d.personality] ++ Bytes.ofWord d.footprint ++ d.description.toBytes

def decode? : Bytes → Option PersonalityDescription
  | personality :: high :: low :: description =>
    (Label.decode? description).map fun label => ⟨personality, Bytes.word high low, label⟩
  | _ => none

end PersonalityDescription

/-! ## Sensors -/

/-- A signed reading as a word. -/
def Bytes.ofReading (value : Int16) : Bytes :=
  Bytes.ofWord value.toUInt16

/-- The signed reading in a word. -/
def Bytes.reading (high low : UInt8) : Int16 :=
  (Bytes.word high low).toInt16

/-- What a sensor measures and has measured. -/
structure SensorReading where
  number : UInt8
  present : Int16
  lowest : Int16
  highest : Int16
  recorded : Int16
  deriving DecidableEq

namespace SensorReading

def encode (r : SensorReading) : Bytes :=
  [r.number] ++ Bytes.ofReading r.present ++ Bytes.ofReading r.lowest ++
    Bytes.ofReading r.highest ++ Bytes.ofReading r.recorded

def decode? : Bytes → Option SensorReading
  | [number, p₁, p₀, l₁, l₀, h₁, h₀, r₁, r₀] => some {
      number := number
      present := Bytes.reading p₁ p₀
      lowest := Bytes.reading l₁ l₀
      highest := Bytes.reading h₁ h₀
      recorded := Bytes.reading r₁ r₀ }
  | _ => none

@[simp] theorem length_encode (r : SensorReading) : r.encode.length = 9 := rfl

end SensorReading

/-! ## Device information -/

/-- The summary a device gives of itself. -/
structure DeviceInfo where
  model : UInt16
  category : UInt16
  softwareVersion : UInt32
  footprint : UInt16
  personality : Personality
  startAddress : StartAddress
  subDeviceCount : UInt16
  sensorCount : UInt8
  deriving DecidableEq

namespace DeviceInfo

/-- The version of the protocol a device speaks. -/
def protocolVersion : UInt16 := 0x0100

def encode (info : DeviceInfo) : Bytes :=
  Bytes.ofWord protocolVersion ++ Bytes.ofWord info.model ++ Bytes.ofWord info.category ++
    Bytes.ofDword info.softwareVersion ++ Bytes.ofWord info.footprint ++
    info.personality.encode ++ info.startAddress.encode ++ Bytes.ofWord info.subDeviceCount ++
    [info.sensorCount]

/-- The protocol version is not looked at. -/
def decode? : Bytes → Option DeviceInfo
  | [_, _, m₁, m₀, c₁, c₀, v₃, v₂, v₁, v₀, f₁, f₀, current, count, a₁, a₀, s₁, s₀, sensors] =>
    (StartAddress.ofWord? (Bytes.word a₁ a₀)).map fun address => {
      model := Bytes.word m₁ m₀
      category := Bytes.word c₁ c₀
      softwareVersion := Bytes.dword v₃ v₂ v₁ v₀
      footprint := Bytes.word f₁ f₀
      personality := ⟨current, count⟩
      startAddress := address
      subDeviceCount := Bytes.word s₁ s₀
      sensorCount := sensors }
  | _ => none

@[simp] theorem length_encode (info : DeviceInfo) : info.encode.length = 19 := rfl

end DeviceInfo

/-! ## Flags and lists -/

/-- Reads the byte that says whether a device identifies itself; everything but zero says so. -/
def decodeIdentify? : Bytes → Option Bool
  | [flag] => some (flag != 0)
  | _ => none

/-- Reads entries of nine bytes each. -/
def readStatusMessages? : Bytes → Option (List StatusMessage)
  | [] => some []
  | s₁ :: s₀ :: code :: i₁ :: i₀ :: a₁ :: a₀ :: b₁ :: b₀ :: rest => do
    let m ← StatusMessage.decode? [s₁, s₀, code, i₁, i₀, a₁, a₀, b₁, b₀]
    return m :: (← readStatusMessages? rest)
  | _ => none

/-- Reads a report of at most 25 entries. -/
def decodeStatusMessages? (data : Bytes) : Option (List StatusMessage) := do
  let messages ← readStatusMessages? data
  if messages.length ≤ maxStatusMessages then some messages else none

/-- A list of supported parameters holds at most this many. -/
def maxSupportedParameters : Nat := 115

/-- Reads entries of one word each. -/
def readWords? : Bytes → Option (List UInt16)
  | [] => some []
  | high :: low :: rest => (readWords? rest).map (Bytes.word high low :: ·)
  | _ => none

/-- Reads a list of at most 115 parameters. -/
def decodeSupportedParameters? (data : Bytes) : Option (List UInt16) := do
  let pids ← readWords? data
  if pids.length ≤ maxSupportedParameters then some pids else none

end LightingBus
