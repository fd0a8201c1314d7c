import LightingBus.CommandClass
import LightingBus.Uid

/-!
# Packets

A controller sends requests, a responder answers with responses. Both carry at most 231 bytes of
parameter data, and the type of that data says so.
-/

namespace LightingBus

/-- The most bytes of parameter data one packet carries. -/
def maxParameterLength : Nat := 231

/-- The parameter data of one packet. -/
structure ParameterData where
  bytes : Bytes
  length_le : bytes.length ≤ maxParameterLength := by decide
  deriving DecidableEq

namespace ParameterData

/-- No parameter data. -/
def empty : ParameterData := { bytes := [] }

/-- Parameter data with these bytes, if they fit into one packet. -/
def ofBytes? (bytes : Bytes) : Option ParameterData :=
  if h : bytes.length ≤ maxParameterLength then some ⟨bytes, h⟩ else none

/-- The first bytes, as many as fit into one packet. -/
def ofBytes (bytes : Bytes) : ParameterData :=
  ⟨bytes.take maxParameterLength, List.length_take_le _ _⟩

/-- Parameter data followed by more bytes, if all of them fit. -/
def append? (data : ParameterData) (more : Bytes) : Option ParameterData :=
  ofBytes? (data.bytes ++ more)

/-- The first bytes of parameter data. -/
def truncate (data : ParameterData) (length : Nat) : ParameterData :=
  ⟨data.bytes.take length, Nat.le_trans (List.length_take_le' _ _) data.length_le⟩

@[simp] theorem ofBytes?_bytes (data : ParameterData) : ofBytes? data.bytes = some data := by
  simp [ofBytes?, data.length_le]

theorem bytes_of_ofBytes? {bytes : Bytes} {data : ParameterData}
    (h : ofBytes? bytes = some data) : data.bytes = bytes := by
  unfold ofBytes? at h
  split at h
  · cases h; rfl
  · cases h

theorem bytes_ofBytes_of_le {bytes : Bytes} (h : bytes.length ≤ maxParameterLength) :
    (ofBytes bytes).bytes = bytes :=
  List.take_of_length_le h

end ParameterData

/-- How a responder answered. -/
inductive ResponseType where
  /-- The request was carried out. -/
  | ack
  /-- The request was accepted; its result is not ready yet. -/
  | ackTimer
  /-- The request was refused. -/
  | nack
  /-- The request was carried out; its result continues in a further response. -/
  | ackOverflow
  deriving DecidableEq, Repr

namespace ResponseType

/-- The code of a response type. -/
def code : ResponseType → UInt8
  | .ack => 0x00
  | .ackTimer => 0x01
  | .nack => 0x02
  | .ackOverflow => 0x03

/-- The response type with this code. -/
def ofCode? (code : UInt8) : Option ResponseType :=
  if code = 0x00 then some .ack
  else if code = 0x01 then some .ackTimer
  else if code = 0x02 then some .nack
  else if code = 0x03 then some .ackOverflow
  else none

@[simp] theorem ofCode?_code (t : ResponseType) : ofCode? t.code = some t := by
  cases t <;> rfl

theorem code_of_ofCode? {code : UInt8} {t : ResponseType} (h : ofCode? code = some t) :
    t.code = code := by
  unfold ofCode? at h
  repeat' split at h
  all_goals cases h
  all_goals simp [ResponseType.code, *]

end ResponseType

/-- A result that is not ready is announced in tenths of a second; this is that time in
milliseconds. -/
def timerMillis (units : UInt16) : UInt32 :=
  units.toUInt32 * 100

/-- What a controller sends. -/
structure Request where
  destination : Address
  source : Uid
  /-- Repeated by the response, so that a controller knows which request it answers. -/
  transaction : UInt8
  port : UInt8
  messageCount : UInt8
  subDevice : UInt16
  commandClass : CommandClass
  pid : UInt16
  data : ParameterData
  deriving DecidableEq

/-- What a responder answers. -/
structure Response where
  destination : Address
  source : Uid
  transaction : UInt8
  type : ResponseType
  /-- How many changed parameters wait to be fetched. -/
  messageCount : UInt8
  subDevice : UInt16
  /-- The class of the request that is answered. -/
  commandClass : CommandClass
  pid : UInt16
  data : ParameterData
  deriving DecidableEq

namespace Request

/-- The response of the device `uid` to a request: it goes back to the sender and repeats the
transaction number, the sub-device, the class and the parameter. -/
def respondAs (request : Request) (uid : Uid) (type : ResponseType) (data : ParameterData)
    (messageCount : UInt8) : Response where
  destination := .device request.source
  source := uid
  transaction := request.transaction
  type := type
  messageCount := messageCount
  subDevice := request.subDevice
  commandClass := request.commandClass
  pid := request.pid
  data := data

/-- The response of the device a request is addressed to. A broadcast has no single device that
could answer. -/
def respond? (request : Request) (type : ResponseType) (data : ParameterData)
    (messageCount : UInt8) : Option Response :=
  request.destination.uid?.map fun uid => request.respondAs uid type data messageCount

end Request

/-- Why no response was built for a request addressed to several devices. -/
def broadcastResponseText : String := "tried to convert broadcast request to response"

/-- A request or a response. -/
inductive Message where
  | request (request : Request)
  | response (response : Response)
  deriving DecidableEq

namespace Message

/-- What a message is addressed to. -/
def destination : Message → Address
  | .request r => r.destination
  | .response r => r.destination

/-- The device that sends a message. -/
def source : Message → Uid
  | .request r => r.source
  | .response r => r.source

/-- The parameter data of a message. -/
def data : Message → ParameterData
  | .request r => r.data
  | .response r => r.data

end Message

end LightingBus
