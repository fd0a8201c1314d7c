import LightingBus.Packet.Codec

/-!
# Replies to a discovery request

A device in the searched range answers with its identifier in a form that survives overlapping
answers: up to seven preamble bytes, a separator, and every byte of the identifier and of the
checksum spread over two bytes whose conjunction gives it back.
-/

namespace LightingBus

namespace DiscoveryReply

/-- Fills the line in front of a reply. -/
def preamble : UInt8 := 0xFE

/-- Ends the preamble. -/
def separator : UInt8 := 0xAA

/-- The most preamble bytes in front of a separator. -/
def maxPreamble : Nat := 7

/-- The bytes behind the separator: twelve for the identifier, four for the checksum. -/
def bodyLength : Nat := 16

/-- Spreads each byte over two: the even bits are forced in one, the odd bits in the other. -/
def spread (bytes : Bytes) : Bytes :=
  bytes.flatMap fun byte => [byte ||| 0xAA, byte ||| 0x55]

/-- Joins each pair of bytes by conjunction. -/
def join : Bytes → Bytes
  | high :: low :: rest => (high &&& low) :: join rest
  | _ => []

/-- The 24 bytes a device answers with. -/
def encode (uid : Uid) : Bytes :=
  let body := spread uid.toBytes
  List.replicate maxPreamble preamble ++ [separator] ++ body ++
    spread (Bytes.ofWord (Bytes.checksum body))

/-- The position of the separator, which at most seven bytes may precede. -/
def separatorIndex? (reply : Bytes) : Option Nat :=
  (reply.take (maxPreamble + 1)).findIdx? (· == separator)

/-- Reads the sixteen bytes behind the separator. -/
def decodeBody (body : Bytes) : Except Packet.DecodeError Uid :=
  let spreadUid := body.take 12
  if join (Bytes.slice 12 4 body) ≠ Bytes.ofWord (Bytes.checksum spreadUid) then
    .error .wrongChecksum
  else
    match Uid.ofBytes? (join spreadUid) with
    | none => .error .broadcastSource
    | some uid => .ok uid

/-- The identifier of the only device that answered. Bytes behind the reply are ignored. -/
def decode (reply : Bytes) : Except Packet.DecodeError Uid :=
  match separatorIndex? reply with
  | none => .error .wrongStartCode
  | some index =>
    if (reply.take index).any (· != preamble) then .error .wrongStartCode
    else
      let body := reply.drop (index + 1)
      if body.length < bodyLength then .error (.wrongMessageLength body.length)
      else decodeBody body

end DiscoveryReply

end LightingBus
