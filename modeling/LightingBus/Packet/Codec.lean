import LightingBus.Packet.Basic

/-!
# Packets on the wire

A packet is a header of 24 bytes, its parameter data and the 16 bit sum of all bytes before it, all
words in network order. Reading refuses every run of bytes that writing does not produce and names
the first rule it breaks.
-/

namespace LightingBus

namespace Packet

/-- The start code of a packet that carries a message. -/
def startCode : UInt8 := 0xCC

/-- The second byte of a packet that carries a message. -/
def subStartCode : UInt8 := 0x01

/-- The bytes in front of the parameter data. -/
def headerLength : Nat := 24

/-- The shortest packet: a header and the checksum. -/
def minLength : Nat := 26

/-- The longest packet: a header, all the parameter data and the checksum. -/
def maxLength : Nat := 257

/-- The fields in front of the parameter data, in their order. -/
structure Header where
  startCode : UInt8
  subStartCode : UInt8
  /-- The length of the packet without its checksum. -/
  messageLength : UInt8
  destination : Address
  source : Address
  transaction : UInt8
  /-- The port of a request, the type of a response. -/
  portOrType : UInt8
  messageCount : UInt8
  subDevice : UInt16
  classCode : UInt8
  pid : UInt16
  dataLength : UInt8

/-- The fields of a header as they are written, one behind the other. -/
def Header.pieces (h : Header) : List Bytes :=
  [[h.startCode], [h.subStartCode], [h.messageLength], h.destination.toBytes, h.source.toBytes,
    [h.transaction], [h.portOrType], [h.messageCount], Bytes.ofWord h.subDevice, [h.classCode],
    Bytes.ofWord h.pid, [h.dataLength]]

/-- The 24 bytes of a header. -/
def Header.toBytes (h : Header) : Bytes :=
  h.pieces.flatten

/-- Reads a header and leaves the bytes behind it. -/
def Header.read? : Bytes → Option (Header × Bytes)
  | start :: subStart :: length :: d₅ :: d₄ :: d₃ :: d₂ :: d₁ :: d₀ ::
      s₅ :: s₄ :: s₃ :: s₂ :: s₁ :: s₀ :: transaction :: portOrType :: count ::
      sub₁ :: sub₀ :: classCode :: pid₁ :: pid₀ :: dataLength :: rest =>
    some ({
      startCode := start
      subStartCode := subStart
      messageLength := length
      destination := .ofSix d₅ d₄ d₃ d₂ d₁ d₀
      source := .ofSix s₅ s₄ s₃ s₂ s₁ s₀
      transaction := transaction
      portOrType := portOrType
      messageCount := count
      subDevice := Bytes.word sub₁ sub₀
      classCode := classCode
      pid := Bytes.word pid₁ pid₀
      dataLength := dataLength }, rest)
  | _ => none

@[simp] theorem Header.length_toBytes (h : Header) : h.toBytes.length = headerLength := by
  simp [Header.toBytes, Header.pieces, headerLength]

/-- Why a run of bytes is no packet. -/
inductive DecodeError where
  /-- Fewer than 26 bytes. -/
  | tooShort
  /-- More than 257 bytes. -/
  | tooLong
  /-- No request and no response has this class code. -/
  | unknownCommandClass (code : UInt8)
  /-- No response type has this code. -/
  | unknownResponseType (code : UInt8)
  /-- The length field, or the length found, does not fit the packet. -/
  | wrongMessageLength (length : Nat)
  | wrongChecksum
  | wrongStartCode
  /-- A packet comes from one device, never from a broadcast address. -/
  | broadcastSource
  /-- The length of the parameter data contradicts the length of the packet. -/
  | wrongDataLength (length : UInt8)
  deriving DecidableEq, Repr

/-- An error in words. -/
def DecodeError.text : DecodeError → String
  | .tooShort => "buffer too small"
  | .tooLong => "buffer to big"
  | .unknownCommandClass code => s!"command class {code} not found"
  | .unknownResponseType code => s!"response type {code} is unknown"
  | .wrongMessageLength length => s!"message length {length} is incorrect"
  | .wrongChecksum => "checksum is incorrect"
  | .wrongStartCode => "start code is incorrect"
  | .broadcastSource => "source uid is a broadcast"
  | .wrongDataLength length => s!"parameter data length {length} doesn't match the message"

/-- The message a header and its parameter data stand for. -/
def assemble (h : Header) (source : Uid) (data : ParameterData) : Except DecodeError Message :=
  match CommandClass.ofRequestCode? h.classCode with
  | some commandClass => .ok (.request {
      destination := h.destination
      source := source
      transaction := h.transaction
      port := h.portOrType
      messageCount := h.messageCount
      subDevice := h.subDevice
      commandClass := commandClass
      pid := h.pid
      data := data })
  | none =>
    match CommandClass.ofResponseCode? h.classCode with
    | none => .error (.unknownCommandClass h.classCode)
    | some commandClass =>
      match ResponseType.ofCode? h.portOrType with
      | none => .error (.unknownResponseType h.portOrType)
      | some type => .ok (.response {
          destination := h.destination
          source := source
          transaction := h.transaction
          type := type
          messageCount := h.messageCount
          subDevice := h.subDevice
          commandClass := commandClass
          pid := h.pid
          data := data })

/-- The bytes behind the header are parameter data of the announced length and the checksum. -/
def readBody (packet : Bytes) (h : Header) (body : Bytes) : Except DecodeError Message :=
  let length := h.messageLength.toNat
  if h.startCode ≠ startCode ∨ h.subStartCode ≠ subStartCode then .error .wrongStartCode
  else if length + 2 ≠ packet.length then .error (.wrongMessageLength length)
  else if packet.drop length ≠ Bytes.ofWord (Bytes.checksum (packet.take length)) then
    .error .wrongChecksum
  else if h.dataLength.toNat + headerLength ≠ length then .error (.wrongDataLength h.dataLength)
  else
    match ParameterData.ofBytes? (body.take h.dataLength.toNat) with
    | none => .error .tooLong
    | some data =>
      match h.source.uid? with
      | none => .error .broadcastSource
      | some source => assemble h source data

end Packet

namespace Message

/-- The header of a message. -/
def header : Message → Packet.Header
  | .request r => {
      startCode := Packet.startCode
      subStartCode := Packet.subStartCode
      messageLength := UInt8.ofNat (Packet.headerLength + r.data.bytes.length)
      destination := r.destination
      source := .device r.source
      transaction := r.transaction
      portOrType := r.port
      messageCount := r.messageCount
      subDevice := r.subDevice
      classCode := r.commandClass.requestCode
      pid := r.pid
      dataLength := UInt8.ofNat r.data.bytes.length }
  | .response r => {
      startCode := Packet.startCode
      subStartCode := Packet.subStartCode
      messageLength := UInt8.ofNat (Packet.headerLength + r.data.bytes.length)
      destination := r.destination
      source := .device r.source
      transaction := r.transaction
      portOrType := r.type.code
      messageCount := r.messageCount
      subDevice := r.subDevice
      classCode := r.commandClass.responseCode
      pid := r.pid
      dataLength := UInt8.ofNat r.data.bytes.length }

/-- The packet without its checksum. -/
def content (message : Message) : Bytes :=
  message.header.toBytes ++ message.data.bytes

/-- The packet of a message. -/
def encode (message : Message) : Bytes :=
  message.content ++ Bytes.ofWord (Bytes.checksum message.content)

/-- The length of the packet of a message. -/
def encodedLength (message : Message) : Nat :=
  Packet.headerLength + message.data.bytes.length + 2

/-- Writes a message to the front of a buffer that is long enough for it: the fields of the header,
the parameter data, and then the checksum of what the buffer holds in front of it. The second part
is the length of the packet. -/
def encodeInto (message : Message) (buffer : Bytes) : Bytes × Nat :=
  let length := Packet.headerLength + message.data.bytes.length
  let written := Bytes.overwriteAll 0 (message.header.pieces ++ [message.data.bytes]) buffer
  let checksum := Bytes.ofWord (Bytes.checksum (written.take length))
  (Bytes.overwrite length checksum written, message.encodedLength)

/-- Reads a packet. The first of these rules that a run of bytes breaks is reported: its length,
the start codes, the length field, the checksum, the length of the data, the source, the class and
the response type. -/
def decode (packet : Bytes) : Except Packet.DecodeError Message :=
  if packet.length < Packet.minLength then .error .tooShort
  else if Packet.maxLength < packet.length then .error .tooLong
  else
    match Packet.Header.read? packet with
    | none => .error .tooShort
    | some (h, body) => Packet.readBody packet h body

@[simp] theorem header_startCode (message : Message) :
    message.header.startCode = Packet.startCode := by
  cases message <;> rfl

@[simp] theorem header_subStartCode (message : Message) :
    message.header.subStartCode = Packet.subStartCode := by
  cases message <;> rfl

@[simp] theorem header_destination (message : Message) :
    message.header.destination = message.destination := by
  cases message <;> rfl

@[simp] theorem header_source (message : Message) :
    message.header.source = .device message.source := by
  cases message <;> rfl

@[simp] theorem header_messageLength (message : Message) :
    message.header.messageLength =
      UInt8.ofNat (Packet.headerLength + message.data.bytes.length) := by
  cases message <;> rfl

@[simp] theorem header_dataLength (message : Message) :
    message.header.dataLength = UInt8.ofNat message.data.bytes.length := by
  cases message <;> rfl

@[simp] theorem length_content (message : Message) :
    message.content.length = Packet.headerLength + message.data.bytes.length := by
  simp [content]

@[simp] theorem length_encode (message : Message) :
    message.encode.length = message.encodedLength := by
  simp [encode, encodedLength]

end Message

end LightingBus
