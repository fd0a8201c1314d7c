import LightingBus.Controller.Search
import LightingBus.Packet.DiscoveryReply
import Mathlib

/-!
# Searching on the wire

`DiscoveryReply.decode_replies`: a reply to a search names the device that sent it, also if bytes of
its preamble are lost and whatever follows it, and nothing is read but replies (`IsReply`).
`Controller.toNat_of_boundBytes`: the bounds of a search are read as the numbers they were written
from, also where they look like the address of a broadcast.
-/

namespace LightingBus

/-! ## Numbers and addresses -/

namespace Address

theorem ofBytes?_ofParts (manufacturer : UInt16) (device : UInt32) :
    ofBytes? (Bytes.ofWord manufacturer ++ Bytes.ofDword device) =
      some (ofParts manufacturer device) := by
  simp [ofBytes?, ofSix, Bytes.ofWord, Bytes.ofDword]

/-- Whatever an address is taken for, its number is that of its two parts. -/
theorem toNat_ofParts (manufacturer : UInt16) (device : UInt32) :
    (ofParts manufacturer device).toNat = manufacturer.toNat * 0x100000000 + device.toNat := by
  by_cases hdevice : device = 0xFFFFFFFF
  · subst hdevice
    by_cases hmanufacturer : manufacturer = 0xFFFF
    · subst hmanufacturer
      rfl
    · simp only [ofParts, dif_pos, if_neg hmanufacturer]
      rfl
  · simp only [ofParts, dif_neg hdevice]
    rfl

end Address

theorem Uid.ofBytes?_toBytes (uid : Uid) : Uid.ofBytes? uid.toBytes = some uid := by
  have hdevice : Address.ofParts uid.manufacturer uid.device = .device uid := by
    rw [Address.ofParts, dif_neg uid.device_ne]
  rw [Uid.ofBytes?, Uid.toBytes, Address.ofBytes?_ofParts, hdevice]
  rfl

/-- Only its own bytes name a device. -/
theorem Uid.ofBytes?_eq_some_iff {bytes : Bytes} {uid : Uid} :
    Uid.ofBytes? bytes = some uid ↔ bytes = uid.toBytes := by
  refine ⟨fun h => ?_, fun h => h ▸ Uid.ofBytes?_toBytes uid⟩
  obtain ⟨address, haddress, huid⟩ := Option.bind_eq_some_iff.mp h
  obtain rfl := Address.uid?_eq_some_iff.mp huid
  unfold Address.ofBytes? at haddress
  split at haddress
  next m₁ m₀ d₃ d₂ d₁ d₀ =>
    rw [← Address.toBytes_ofSix m₁ m₀ d₃ d₂ d₁ d₀, Option.some.inj haddress]
    rfl
  next => cases haddress

/-- The largest number is that of the last device of the last manufacturer. -/
theorem Uid.toNat_le_largest (uid : Uid) : uid.toNat ≤ Uid.largest := by
  have hmanufacturer := uid.manufacturer.toNat_lt
  have hdevice := uid.device.toNat_lt
  have hne : uid.device.toNat ≠ 0xFFFFFFFF := fun h =>
    uid.device_ne (UInt32.toNat_inj.mp h)
  unfold Uid.toNat Uid.largest
  omega

namespace Controller

theorem toNat_of_boundBytes {number : ℕ} (h : number ≤ Uid.broadcastNumber) :
    ∃ address, Address.ofBytes? (boundBytes number) = some address ∧ address.toNat = number := by
  refine ⟨_, Address.ofBytes?_ofParts _ _, ?_⟩
  unfold Uid.broadcastNumber at h
  rw [Address.toNat_ofParts, UInt16.toNat_ofNat', UInt32.toNat_ofNat']
  omega

end Controller

/-! ## Replies -/

namespace DiscoveryReply

/-- One of two bytes keeps the odd bits, the other one the even bits. -/
theorem and_spread (byte : UInt8) : (byte ||| 0xAA) &&& (byte ||| 0x55) = byte := by
  apply UInt8.toNat_inj.mp
  rw [UInt8.toNat_and, UInt8.toNat_or, UInt8.toNat_or, ← Nat.or_and_distrib_left]
  exact Nat.or_zero _

theorem join_spread (bytes : Bytes) : join (spread bytes) = bytes := by
  induction bytes with
  | nil => rfl
  | cons byte bytes ih =>
    change ((byte ||| 0xAA) &&& (byte ||| 0x55)) :: join (spread bytes) = byte :: bytes
    rw [and_spread, ih]

theorem length_spread (bytes : Bytes) : (spread bytes).length = 2 * bytes.length := by
  induction bytes with
  | nil => rfl
  | cons byte bytes ih =>
    change (spread bytes).length + 2 = 2 * (bytes.length + 1)
    omega

/-- A reply has 24 bytes. -/
theorem length_encode (uid : Uid) : (encode uid).length = 24 := by
  simp [encode, length_spread, maxPreamble]

/-- A body is read back, if its sum is the one of the bytes in front of it. -/
theorem decodeBody_spread (uid : Uid) (sum : UInt16) :
    decodeBody (spread uid.toBytes ++ spread (Bytes.ofWord sum)) =
      if sum = Bytes.checksum (spread uid.toBytes) then .ok uid else .error .wrongChecksum := by
  have hlength : (spread uid.toBytes).length = 12 := length_spread uid.toBytes
  have hsum : Bytes.slice 12 4 (spread uid.toBytes ++ spread (Bytes.ofWord sum)) =
      spread (Bytes.ofWord sum) := by
    rw [Bytes.slice, List.drop_left' hlength]
    exact List.take_of_length_le (length_spread _).le
  unfold decodeBody
  dsimp only
  rw [List.take_left' hlength, hsum, join_spread, join_spread, Uid.ofBytes?_toBytes]
  split_ifs with hne heq heq
  · exact absurd (congrArg Bytes.ofWord heq) hne
  · rfl
  · rfl
  · exact absurd (Bytes.ofWord_inj.mp (not_not.mp hne)) heq

/-- A body is read if it begins with twelve bytes that join to the identifier and four that join to
the sum of these twelve. -/
theorem decodeBody_eq_ok_iff {body : Bytes} {uid : Uid} :
    decodeBody body = .ok uid ↔ join (body.take 12) = uid.toBytes ∧
      join (Bytes.slice 12 4 body) = Bytes.ofWord (Bytes.checksum (body.take 12)) := by
  unfold decodeBody
  dsimp only
  split_ifs with hsum
  · exact ⟨nofun, fun h => absurd h.2 hsum⟩
  · rw [not_not] at hsum
    rw [and_iff_left hsum, ← Uid.ofBytes?_eq_some_iff]
    cases Uid.ofBytes? (join (body.take 12)) with
    | none => exact ⟨nofun, nofun⟩
    | some other => simp

variable {lead : ℕ} {reply rest : Bytes} {uid : Uid}

/-- The separator is found behind the preamble. -/
theorem separatorIndex?_replicate (hlead : lead ≤ maxPreamble) (rest : Bytes) :
    separatorIndex? (List.replicate lead preamble ++ separator :: rest) = some lead := by
  have htake : (List.replicate lead preamble ++ separator :: rest).take (maxPreamble + 1) =
      List.replicate lead preamble ++ separator :: rest.take (maxPreamble - lead) := by
    have hbehind : maxPreamble + 1 - lead = maxPreamble - lead + 1 := by omega
    rw [List.take_append, List.length_replicate, hbehind, List.take_succ_cons,
      List.take_of_length_le (by rw [List.length_replicate]; omega)]
  have hnone : (List.replicate lead preamble).findIdx? (· == separator) = none := by
    refine List.findIdx?_eq_none_iff.mpr fun byte hbyte => ?_
    rw [List.eq_of_mem_replicate hbyte]
    rfl
  have hhead : (separator :: rest.take (maxPreamble - lead)).findIdx? (· == separator) = some 0 :=
    by rw [List.findIdx?_cons, if_pos (beq_self_eq_true separator)]
  rw [separatorIndex?, htake, List.findIdx?_append, hnone, hhead, Option.none_or, Option.map_some,
    List.length_replicate, Nat.zero_add]

/-- A separator in the first eight bytes with a preamble in front of it. -/
theorem eq_replicate_of_separatorIndex? (hindex : separatorIndex? reply = some lead)
    (hpreamble : ¬ (reply.take lead).any (· != preamble) = true) :
    lead ≤ maxPreamble ∧
      reply = List.replicate lead preamble ++ separator :: reply.drop (lead + 1) := by
  obtain ⟨hlt, hseparator, -⟩ := List.findIdx?_eq_some_iff_getElem.mp hindex
  rw [List.length_take, Nat.lt_min] at hlt
  rw [List.getElem_take, beq_iff_eq] at hseparator
  have hfront : reply.take lead = List.replicate lead preamble := by
    refine List.eq_replicate_iff.mpr ⟨List.length_take_of_le hlt.2.le, fun byte hbyte => ?_⟩
    by_contra hne
    exact hpreamble (List.any_eq_true.mpr ⟨byte, hbyte, bne_iff_ne.mpr hne⟩)
  refine ⟨Nat.le_of_lt_succ hlt.1, ?_⟩
  rw [← hfront, ← hseparator, List.getElem_cons_drop, List.take_append_drop]

/-- Behind preamble and separator only the body counts. -/
theorem decode_replicate (hlead : lead ≤ maxPreamble) (rest : Bytes) :
    decode (List.replicate lead preamble ++ separator :: rest) =
      if rest.length < bodyLength then .error (.wrongMessageLength rest.length)
      else decodeBody rest := by
  have hfront : (List.replicate lead preamble ++ separator :: rest).take lead =
      List.replicate lead preamble := List.take_left' List.length_replicate
  have hbehind : (List.replicate lead preamble ++ separator :: rest).drop (lead + 1) = rest := by
    rw [← List.drop_drop, List.drop_left' List.length_replicate, List.drop_one, List.tail_cons]
  have hpreamble : ¬ (List.replicate lead preamble).any (· != preamble) = true := by
    rw [List.any_eq_true]
    rintro ⟨byte, hbyte, hne⟩
    exact bne_iff_ne.mp hne (List.eq_of_mem_replicate hbyte)
  unfold decode
  rw [separatorIndex?_replicate hlead rest]
  dsimp only
  rw [hfront, hbehind, if_neg hpreamble]

theorem encode_eq (uid : Uid) : encode uid = List.replicate maxPreamble preamble ++ separator ::
    (spread uid.toBytes ++ spread (Bytes.ofWord (Bytes.checksum (spread uid.toBytes)))) :=
  rfl

/-! ## Which bytes are replies -/

/-- What is read as the reply of a device: a preamble, of which bytes may be missing, the separator,
twelve bytes that join to the identifier and four that join to the sum of these twelve. Anything may
follow. -/
def IsReply (uid : Uid) (reply : Bytes) : Prop :=
  ∃ lead spreadUid spreadSum rest,
    reply = List.replicate lead 0xFE ++ 0xAA :: (spreadUid ++ spreadSum ++ rest) ∧ lead ≤ 7 ∧
      spreadUid.length = 12 ∧ spreadSum.length = 4 ∧ join spreadUid = uid.toBytes ∧
      join spreadSum = Bytes.ofWord (Bytes.checksum spreadUid)

theorem decode_eq_ok_iff : decode reply = .ok uid ↔ IsReply uid reply := by
  constructor
  · intro hread
    unfold decode at hread
    split at hread
    · cases hread
    next lead hindex =>
    split_ifs at hread with hpreamble
    dsimp only at hread
    split_ifs at hread with hlength
    obtain ⟨hlead, hreply⟩ := eq_replicate_of_separatorIndex? hindex hpreamble
    generalize reply.drop (lead + 1) = rest at hreply hread hlength
    unfold bodyLength at hlength
    obtain ⟨huid, hsum⟩ := decodeBody_eq_ok_iff.mp hread
    refine ⟨lead, rest.take 12, Bytes.slice 12 4 rest, rest.drop 16, ?_, hlead,
      List.length_take_of_le (by omega), ?_, huid, hsum⟩
    · have hbody : rest.take 12 ++ Bytes.slice 12 4 rest = rest.take 16 := List.take_add.symm
      rw [hbody, List.take_append_drop]
      exact hreply
    · rw [Bytes.slice, List.length_take, List.length_drop]
      omega
  · rintro ⟨lead, spreadUid, spreadSum, rest, rfl, hlead, hlength, hlength', huid, hsum⟩
    have hfront : (spreadUid ++ spreadSum ++ rest).take 12 = spreadUid := by
      rw [List.append_assoc, List.take_left' hlength]
    have hbehind : Bytes.slice 12 4 (spreadUid ++ spreadSum ++ rest) = spreadSum := by
      rw [Bytes.slice, List.append_assoc, List.drop_left' hlength, List.take_left' hlength']
    have hread := decode_replicate hlead (spreadUid ++ spreadSum ++ rest)
    rw [if_neg (by rw [List.length_append, List.length_append, bodyLength]; omega)] at hread
    refine hread.trans (decodeBody_eq_ok_iff.mpr ?_)
    rw [hfront, hbehind]
    exact ⟨huid, hsum⟩

/-- A reply that has lost bytes of its preamble and is followed by others is a reply of its
device. -/
theorem isReply_drop_encode {dropped : ℕ} (hdropped : dropped ≤ 7) (uid : Uid) (behind : Bytes) :
    IsReply uid ((encode uid).drop dropped ++ behind) := by
  refine ⟨7 - dropped, spread uid.toBytes,
    spread (Bytes.ofWord (Bytes.checksum (spread uid.toBytes))), behind, ?_, Nat.sub_le 7 dropped,
    length_spread _, length_spread _, join_spread _, join_spread _⟩
  rw [encode_eq, List.drop_append_of_le_length (by rwa [List.length_replicate]),
    List.drop_replicate, List.append_assoc, List.cons_append]
  rfl

/-- A reply names the device that sent it. -/
theorem decode_encode (uid : Uid) : decode (encode uid) = .ok uid := by
  have hwhole := isReply_drop_encode (Nat.zero_le 7) uid []
  rw [List.drop_zero, List.append_nil] at hwhole
  exact decode_eq_ok_iff.mpr hwhole

/-- A reply that has lost bytes of its preamble, whatever follows it, names the device that sent
it; and only replies are read. -/
theorem decode_replies {dropped : ℕ} (hdropped : dropped ≤ 7) (uid : Uid) (behind : Bytes) :
    decode ((encode uid).drop dropped ++ behind) = .ok uid ∧
      ∀ reply other, decode reply = .ok other ↔ IsReply other reply :=
  ⟨decode_eq_ok_iff.mpr (isReply_drop_encode hdropped uid behind),
    fun _ _ => decode_eq_ok_iff⟩

/-- Three bytes of the preamble are lost, and the next reply begins. -/
theorem decode_replies_shortened :
    let uid : Uid := ⟨0x7FF0, 0x12345678, by decide⟩
    let reply : Bytes := (encode uid).drop 3 ++ [0xFE, 0xAA]
    3 ≤ 7 ∧ reply.length = 23 ∧ decode reply = .ok uid ∧ ¬ IsReply uid (reply.take 20) := by
  intro uid reply
  have hdropped : 3 ≤ 7 := by decide
  obtain ⟨hread, hreplies⟩ := decode_replies hdropped uid [0xFE, 0xAA]
  exact ⟨hdropped, rfl, hread, fun hreply => nomatch (hreplies _ _).mpr hreply⟩

end DiscoveryReply

end LightingBus
