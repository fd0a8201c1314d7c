import LightingBus.Packet.Codec
import LightingBus.Pid
import Mathlib

/-!
# Reading and writing packets

`decode_eq_ok_iff_eq_encode`: a run of bytes reads as a message exactly if it is what the message
is written as, and writing into a buffer puts these bytes at its front.

1. A header is read back from its 24 bytes (`read?_toBytes_append`), and whatever is read as a
   header is the header's bytes (`eq_toBytes_of_read?`). The one address that is not read back is
   the broadcast to manufacturer `0xFFFF`: it is written as the broadcast to all.
2. Header and parameter data make up the message again (`assemble_header`), and only the header of
   that message does (`header_of_assemble`).
3. The rules that `readBody` checks leave only the written packet (`readBody_eq_ok_iff`).
-/

namespace LightingBus

namespace Packet

/-! ## Headers -/

namespace Header

/-- A header is read back from its bytes. -/
theorem read?_toBytes_append {h : Header} (hd : h.destination ≠ .manufacturer 0xFFFF)
    (hs : h.source ≠ .manufacturer 0xFFFF) (body : Bytes) :
    Header.read? (h.toBytes ++ body) = some (h, body) := by
  obtain ⟨dm, dd, hdestination⟩ := Address.exists_ofParts hd
  obtain ⟨sm, sd, hsource⟩ := Address.exists_ofParts hs
  cases h with
  | mk start subStart length destination source transaction portOrType count sub cc pid dl =>
    subst hdestination hsource
    simp [toBytes, pieces, read?, Address.toBytes_ofParts, Address.ofSix, Bytes.ofWord,
      Bytes.ofDword]

/-- Only the bytes of a header are read as the header, and its addresses can be read back. -/
theorem eq_toBytes_of_read? {packet body : Bytes} {h : Header}
    (hread : Header.read? packet = some (h, body)) :
    packet = h.toBytes ++ body ∧ h.destination ≠ .manufacturer 0xFFFF ∧
      h.source ≠ .manufacturer 0xFFFF := by
  unfold read? at hread
  split at hread
  · simp only [Option.some.injEq, Prod.mk.injEq] at hread
    obtain ⟨rfl, rfl⟩ := hread
    refine ⟨?_, Address.ofParts_ne _ _, Address.ofParts_ne _ _⟩
    simp [toBytes, pieces]
  · cases hread

end Header

/-! ## Messages -/

/-- A message is put together again from its header. -/
theorem assemble_header (message : Message) :
    assemble message.header message.source message.data = .ok message := by
  cases message <;> simp [assemble, Message.header, Message.source, Message.data]

/-- A message comes from its own header: the fields that the message does not hold are those that
the rules for packets fix. -/
theorem header_of_assemble {h : Header} {source : Uid} {data : ParameterData} {message : Message}
    (hok : assemble h source data = .ok message) (hstart : h.startCode = startCode)
    (hsub : h.subStartCode = subStartCode) (hsource : h.source = .device source)
    (hlength : h.messageLength = UInt8.ofNat (headerLength + data.bytes.length))
    (hdata : h.dataLength = UInt8.ofNat data.bytes.length) :
    h = message.header ∧ message.data = data := by
  cases h with
  | mk start subStart length destination source' transaction portOrType count sub cc pid dl =>
    simp only at hstart hsub hsource hlength hdata
    subst hstart hsub hsource hlength hdata
    unfold assemble at hok
    simp only at hok
    split at hok
    · next c hc =>
      obtain rfl := Except.ok.inj hok
      rw [← CommandClass.requestCode_of_ofRequestCode? hc]
      exact ⟨rfl, rfl⟩
    · split at hok
      · cases hok
      · next c hc =>
        split at hok
        · cases hok
        · next t ht =>
          obtain rfl := Except.ok.inj hok
          rw [← CommandClass.responseCode_of_ofResponseCode? hc, ← ResponseType.code_of_ofCode? ht]
          exact ⟨rfl, rfl⟩

/-! ## Packets -/

/-- The rules for packets leave only the packet of the message that is read. -/
theorem eq_encode_of_readBody {h : Header} {body : Bytes} {message : Message}
    (hok : readBody (h.toBytes ++ body) h body = .ok message) :
    h = message.header ∧ h.toBytes ++ body = message.encode := by
  unfold readBody at hok
  simp only at hok
  split_ifs at hok with hcodes hlength hsum hdata
  rw [not_or, not_not, not_not] at hcodes
  rw [not_not] at hlength hsum hdata
  rw [List.length_append, Header.length_toBytes] at hlength
  split at hok
  · cases hok
  next data hbytes =>
  split at hok
  · cases hok
  next source hsource =>
  have hbytes := ParameterData.bytes_of_ofBytes? hbytes
  have hdl : data.bytes.length = h.dataLength.toNat := by
    rw [hbytes, List.length_take]
    omega
  have hdataLength : h.dataLength = UInt8.ofNat data.bytes.length := by
    rw [hdl, UInt8.ofNat_toNat]
  have hmessageLength : h.messageLength = UInt8.ofNat (headerLength + data.bytes.length) := by
    rw [hdl, Nat.add_comm, hdata, UInt8.ofNat_toNat]
  obtain ⟨hheader, hmessage⟩ := header_of_assemble hok hcodes.1 hcodes.2
    (Address.uid?_eq_some_iff.mp hsource) hmessageLength hdataLength
  have hcontent : (h.toBytes ++ body).take h.messageLength.toNat = message.content := by
    rw [← hdata, Nat.add_comm, ← Header.length_toBytes h, List.take_length_add_append, ← hbytes,
      Message.content, hmessage, hheader]
  refine ⟨hheader, ?_⟩
  calc h.toBytes ++ body
      = (h.toBytes ++ body).take h.messageLength.toNat ++
          (h.toBytes ++ body).drop h.messageLength.toNat := (List.take_append_drop _ _).symm
    _ = message.encode := by rw [hsum, hcontent, Message.encode]

/-- The packet of a message keeps the rules. -/
theorem readBody_encode (message : Message) :
    readBody message.encode message.header
      (message.data.bytes ++ Bytes.ofWord (Bytes.checksum message.content)) = .ok message := by
  have hle := message.data.length_le
  unfold maxParameterLength at hle
  have hlength : message.header.messageLength.toNat = message.content.length := by
    rw [Message.header_messageLength, Message.length_content, headerLength, UInt8.toNat_ofNat']
    omega
  have hdata : message.header.dataLength.toNat = message.data.bytes.length := by
    rw [Message.header_dataLength, UInt8.toNat_ofNat']
    omega
  have htake : message.encode.take message.content.length = message.content := List.take_left
  have hdrop : message.encode.drop message.content.length =
      Bytes.ofWord (Bytes.checksum message.content) := List.drop_left
  unfold readBody
  simp only [hlength, hdata, htake, hdrop]
  rw [if_neg (by simp), if_neg (by simp [Message.encode]), if_neg (by simp),
    if_neg (by simp [Nat.add_comm]), List.take_left, ParameterData.ofBytes?_bytes,
    Message.header_source]
  exact assemble_header message

end Packet

namespace Message

/-- Writing and reading gives the message back. -/
theorem decode_encode {message : Message} (h : message.destination ≠ .manufacturer 0xFFFF) :
    decode message.encode = .ok message := by
  have hle := message.data.length_le
  unfold maxParameterLength at hle
  have hread : Packet.Header.read? message.encode = some (message.header,
      message.data.bytes ++ Bytes.ofWord (Bytes.checksum message.content)) := by
    rw [encode, content, List.append_assoc]
    exact Packet.Header.read?_toBytes_append (by rwa [header_destination]) (by simp) _
  unfold decode
  rw [if_neg, if_neg, hread]
  · exact Packet.readBody_encode message
  · rw [length_encode, encodedLength, Packet.headerLength, Packet.maxLength]
    omega
  · rw [length_encode, encodedLength, Packet.headerLength, Packet.minLength]
    omega

/-- The same message to another address. -/
def withDestination (address : Address) : Message → Message
  | .request r => .request { r with destination := address }
  | .response r => .response { r with destination := address }

/-- Addresses with the same bytes give the same packet. -/
theorem encode_withDestination {message : Message} {address : Address}
    (h : address.toBytes = message.destination.toBytes) :
    (message.withDestination address).encode = message.encode := by
  cases message <;>
    simp only [destination] at h <;>
    simp [withDestination, encode, content, header, data, Packet.Header.toBytes,
      Packet.Header.pieces, h]

/-- Every packet can be read, although the broadcast to manufacturer `0xFFFF` is read as the
broadcast to all. -/
theorem exists_decode_encode (message : Message) :
    ∃ other, decode message.encode = .ok other := by
  by_cases h : message.destination = .manufacturer 0xFFFF
  · have hsame : (message.withDestination .broadcast).encode = message.encode :=
      encode_withDestination (by rw [h]; rfl)
    refine ⟨message.withDestination .broadcast, ?_⟩
    rw [← hsame]
    exact decode_encode (by cases message <;> simp [withDestination, destination])
  · exact ⟨message, decode_encode h⟩

/-- Whatever is read is the packet of the message that is read. -/
theorem eq_encode_of_decode {packet : Bytes} {message : Message}
    (h : decode packet = .ok message) :
    packet = message.encode ∧ message.destination ≠ .manufacturer 0xFFFF := by
  unfold decode at h
  split_ifs at h
  split at h
  · cases h
  next header body hread =>
  obtain ⟨rfl, hdestination, -⟩ := Packet.Header.eq_toBytes_of_read? hread
  obtain ⟨hheader, hpacket⟩ := Packet.eq_encode_of_readBody h
  rw [hheader, header_destination] at hdestination
  exact ⟨hpacket, hdestination⟩

/-- Writing into a buffer puts the packet at its front and leaves what is behind it. -/
theorem encodeInto_eq {message : Message} {buffer : Bytes}
    (h : message.encodedLength ≤ buffer.length) :
    message.encodeInto buffer =
      (message.encode ++ buffer.drop message.encodedLength, message.encodedLength) := by
  have hpieces : (message.header.pieces ++ [message.data.bytes]).flatten = message.content := by
    rw [List.flatten_append, List.flatten_singleton, content, Packet.Header.toBytes]
  have hlength := message.length_content
  have htotal : message.encodedLength = message.content.length + 2 := by
    rw [hlength, encodedLength]
  have hwritten : Bytes.overwriteAll 0 (message.header.pieces ++ [message.data.bytes]) buffer =
      message.content ++ buffer.drop message.content.length := by
    rw [Bytes.overwriteAll_eq (by rw [hpieces]; omega), hpieces]
    simp [Bytes.overwrite]
  unfold encodeInto
  simp only [hwritten, ← hlength, List.take_left]
  rw [Bytes.overwrite, List.take_left, ← List.drop_drop, List.drop_left, List.drop_drop,
    Bytes.length_ofWord, ← htotal, encode]

/-- Bytes are read as a message exactly if the message is written as these bytes; what is read at
all is what some message is written as. A buffer with room for the packet takes it at its front. -/
theorem decode_eq_ok_iff_eq_encode {message : Message} {packet buffer : Bytes}
    (hdestination : message.destination ≠ .manufacturer 0xFFFF)
    (hroom : message.encodedLength ≤ buffer.length) :
    (decode packet = .ok message ↔ packet = message.encode) ∧
      (∀ other, decode packet = .ok other → packet = other.encode) ∧
      ((∃ other, decode packet = .ok other) ↔ ∃ other : Message, packet = other.encode) ∧
      message.encodeInto buffer =
        (message.encode ++ buffer.drop message.encodedLength, message.encodedLength) := by
  refine ⟨⟨fun h => (eq_encode_of_decode h).1, fun h => h ▸ decode_encode hdestination⟩,
    fun other h => (eq_encode_of_decode h).1,
    ⟨fun ⟨other, h⟩ => ⟨other, (eq_encode_of_decode h).1⟩, ?_⟩, encodeInto_eq hroom⟩
  rintro ⟨other, rfl⟩
  exact exists_decode_encode other

/-- A request to a device to draw attention to itself. -/
def identifyRequest : Message :=
  .request {
    destination := .device ⟨0x7FF0, 2, by decide⟩
    source := ⟨0x7FF0, 1, by decide⟩
    transaction := 5
    port := 1
    messageCount := 0
    subDevice := SubDevice.root
    commandClass := .set
    pid := Pid.identifyDevice
    data := { bytes := [1] } }

/-- The request in its 27 bytes, which a longer buffer takes at its front. -/
theorem decode_identifyRequest :
    decode [0xCC, 0x01, 25, 0x7F, 0xF0, 0, 0, 0, 2, 0x7F, 0xF0, 0, 0, 0, 1, 5, 1, 0, 0, 0, 0x30,
        0x10, 0x00, 1, 1, 0x04, 0x0F] = .ok identifyRequest ∧
      identifyRequest.encodeInto (List.replicate 29 0xEE) =
        ([0xCC, 0x01, 25, 0x7F, 0xF0, 0, 0, 0, 2, 0x7F, 0xF0, 0, 0, 0, 1, 5, 1, 0, 0, 0, 0x30,
          0x10, 0x00, 1, 1, 0x04, 0x0F, 0xEE, 0xEE], 27) := by
  have hlaws := @decode_eq_ok_iff_eq_encode identifyRequest identifyRequest.encode
    (List.replicate 29 0xEE) (by simp [identifyRequest, destination]) (by decide)
  exact ⟨hlaws.1.mpr rfl, hlaws.2.2.2⟩

end Message

end LightingBus
