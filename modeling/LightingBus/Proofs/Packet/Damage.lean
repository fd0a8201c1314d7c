import LightingBus.Proofs.Packet.RoundTrip

/-!
# Damaged packets

`decode_of_damaged`: a packet in which one byte was changed, that was cut short or that was followed
by more bytes is refused.

1. The third byte of a packet tells its length (`getElem?_two_encode`), so no packet is a proper
   prefix of another one (`eq_of_isPrefix`).
2. A single byte cannot change without the sum changing (`Bytes.checksum_set_eq_iff`). If the byte
   lies in front of the checksum, then two packets have one checksum for two sums; otherwise they
   have two checksums for one content (`eq_of_set`).
-/

namespace LightingBus

namespace Bytes

/-! ## Sums -/

theorem foldl_checksum (sum : UInt16) (bytes : Bytes) :
    bytes.foldl (fun sum byte => sum + byte.toUInt16) sum = sum + checksum bytes := by
  unfold checksum
  induction bytes generalizing sum with
  | nil => exact (UInt16.add_zero sum).symm
  | cons byte bytes ih =>
    rw [List.foldl_cons, List.foldl_cons, ih, ih (0 + _), UInt16.zero_add, UInt16.add_assoc]

theorem checksum_cons (byte : UInt8) (bytes : Bytes) :
    checksum (byte :: bytes) = byte.toUInt16 + checksum bytes := by
  rw [checksum, List.foldl_cons, foldl_checksum, UInt16.zero_add]

/-- Bytes have different sums if exactly one of them differs. -/
theorem checksum_set_eq_iff {bytes : Bytes} {n : ℕ} (hn : n < bytes.length) (byte : UInt8) :
    checksum (bytes.set n byte) = checksum bytes ↔ byte = bytes[n] := by
  induction bytes generalizing n with
  | nil => exact absurd hn (Nat.not_lt_zero n)
  | cons first bytes ih =>
    cases n with
    | zero =>
      rw [List.set_cons_zero, checksum_cons, checksum_cons, UInt16.add_left_inj,
        UInt8.toUInt16_inj, List.getElem_cons_zero]
    | succ n =>
      rw [List.set_cons_succ, checksum_cons, checksum_cons, UInt16.add_right_inj,
        List.getElem_cons_succ, ih (Nat.lt_of_succ_lt_succ hn)]

/-! ## One byte -/

/-- Two runs of one length differ in exactly one byte. -/
def DifferOnce (first second : Bytes) : Prop :=
  first.length = second.length ∧ ∃! n : ℕ, first[n]? ≠ second[n]?

theorem DifferOnce.exists_set {first second : Bytes} (h : DifferOnce first second) :
    ∃ n byte, ∃ hn : n < second.length, byte ≠ second[n] ∧ first = second.set n byte := by
  obtain ⟨hlength, n, hdiffers, honly⟩ := h
  have hn : n < second.length := by
    by_contra hle
    rw [List.getElem?_eq_none (by omega), List.getElem?_eq_none (by omega)] at hdiffers
    exact hdiffers rfl
  obtain ⟨byte, hbyte⟩ : ∃ byte, first[n]? = some byte :=
    ⟨_, List.getElem?_eq_getElem (hlength ▸ hn)⟩
  refine ⟨n, byte, hn, fun heq => hdiffers ?_, ?_⟩
  · rw [hbyte, heq, List.getElem?_eq_getElem hn]
  · refine List.ext_getElem? fun m => ?_
    rw [List.getElem?_set]
    split_ifs with hm
    · rw [← hm, hbyte]
    · by_contra hne
      exact hm (honly m hne).symm

theorem differOnce_set {bytes : Bytes} {n : ℕ} {byte : UInt8} (hn : n < bytes.length)
    (hbyte : byte ≠ bytes[n]) : DifferOnce (bytes.set n byte) bytes := by
  refine ⟨List.length_set, n, ?_, fun m hm => ?_⟩
  · show (bytes.set n byte)[n]? ≠ bytes[n]?
    rw [List.getElem?_set_self hn, List.getElem?_eq_getElem hn]
    exact fun h => hbyte (Option.some.inj h)
  · by_contra hne
    exact hm (List.getElem?_set_ne (Ne.symm hne))

end Bytes

namespace Message

variable {message : Message} {packet other : Bytes}

/-! ## Lengths -/

/-- A packet announces its length. -/
theorem getElem?_two_encode (message : Message) :
    message.encode[2]? = some (UInt8.ofNat (message.encode.length - 2)) := by
  have hlength : message.encode.length - 2 =
      Packet.headerLength + message.data.bytes.length := by
    rw [length_encode, encodedLength, Nat.add_sub_cancel]
  rw [hlength, ← header_messageLength]
  rfl

theorem length_encode_le (message : Message) : message.encode.length - 2 < 256 := by
  have hle := message.data.length_le
  unfold maxParameterLength at hle
  rw [length_encode, encodedLength, Packet.headerLength]
  omega

/-- No packet goes on where another one ends. -/
theorem eq_of_isPrefix {first second : Message} (h : first.encode <+: second.encode) :
    first.encode = second.encode := by
  have hminimal (message : Message) : 2 < message.encode.length := by
    rw [length_encode, encodedLength, Packet.headerLength]
    omega
  have hsame : second.encode[2]? = first.encode[2]? := by
    rw [List.prefix_iff_getElem?.mp h 2 (hminimal first), List.getElem?_eq_getElem]
  rw [getElem?_two_encode, getElem?_two_encode, Option.some.injEq, ← UInt8.toNat_inj,
    UInt8.toNat_ofNat', UInt8.toNat_ofNat', Nat.mod_eq_of_lt second.length_encode_le,
    Nat.mod_eq_of_lt first.length_encode_le] at hsame
  refine h.eq_of_length ?_
  have hfirst := hminimal first
  have hsecond := hminimal second
  omega

/-! ## Bytes -/

/-- Changing a single byte of a packet does not give a packet. -/
theorem eq_of_set {first second : Message} {n : ℕ} {byte : UInt8}
    (hn : n < second.encode.length) (h : first.encode = second.encode.set n byte) :
    byte = second.encode[n] := by
  have hlength : first.content.length = second.content.length := by
    have hencoded := congrArg List.length h
    simpa only [List.length_set, encode, List.length_append, Bytes.length_ofWord,
      Nat.add_right_cancel_iff] using hencoded
  have hcontent : first.content = second.content.set n byte :=
    calc first.content
        = first.encode.take first.content.length := List.take_left.symm
      _ = (second.encode.take second.content.length).set n byte := by rw [h, hlength, List.take_set]
      _ = second.content.set n byte := by rw [encode, List.take_left]
  have hsum : Bytes.ofWord (Bytes.checksum first.content) =
      (second.encode.set n byte).drop second.content.length := by
    rw [← h, ← hlength, encode, List.drop_left]
  rcases Nat.lt_or_ge n second.content.length with hlt | hge
  · -- the checksums are the same, so the contents have the same sum
    rw [List.drop_set_of_lt hlt, encode, List.drop_left, Bytes.ofWord_inj, hcontent,
      Bytes.checksum_set_eq_iff hlt] at hsum
    exact hsum.trans (List.getElem_append_left hlt).symm
  · -- the contents are the same, so the checksums are, too
    rw [List.set_eq_of_length_le hge] at hcontent
    have hsame : second.encode = second.encode.set n byte := by rw [← h, encode, encode, hcontent]
    have hget : (second.encode.set n byte)[n]? = some second.encode[n] := by
      rw [← hsame, List.getElem?_eq_getElem hn]
    rw [List.getElem?_set_self hn] at hget
    exact Option.some.inj hget

/-! ## Reading damaged packets -/

theorem decode_eq_error_of (h : ∀ message, decode packet ≠ .ok message) :
    ∃ error, decode packet = .error error := by
  cases hdecode : decode packet with
  | error error => exact ⟨error, rfl⟩
  | ok message => exact absurd hdecode (h message)

/-- What differs from a packet in exactly one byte is refused, and so is every proper prefix and
every proper extension of a packet. -/
theorem decode_of_damaged (h : decode packet = .ok message) :
    (∀ other, other.DifferOnce packet → ∃ error, decode other = .error error) ∧
      (∀ other, other <+: packet → other ≠ packet → ∃ error, decode other = .error error) ∧
      ∀ other, packet <+: other → other ≠ packet → ∃ error, decode other = .error error := by
  obtain ⟨rfl, -⟩ := eq_encode_of_decode h
  refine ⟨fun other hother => ?_, fun other hprefix hne => ?_, fun other hprefix hne => ?_⟩
  all_goals
    refine decode_eq_error_of fun read hread => ?_
    obtain ⟨rfl, -⟩ := eq_encode_of_decode hread
  · obtain ⟨n, byte, hn, hbyte, hset⟩ := hother.exists_set
    exact hbyte (eq_of_set hn hset)
  · exact hne (eq_of_isPrefix hprefix)
  · exact hne (eq_of_isPrefix hprefix).symm

/-- The request with another byte of data, without its last byte and with one more byte. -/
theorem decode_damaged_identifyRequest :
    let packet : Bytes := [0xCC, 0x01, 25, 0x7F, 0xF0, 0, 0, 0, 2, 0x7F, 0xF0, 0, 0, 0, 1, 5, 1, 0,
      0, 0, 0x30, 0x10, 0x00, 1, 1, 0x04, 0x0F]
    decode packet = .ok identifyRequest ∧
      (∃ error, decode (packet.set 24 0) = .error error) ∧
      (∃ error, decode (packet.take 26) = .error error) ∧
      ∃ error, decode (packet ++ [0]) = .error error := by
  intro packet
  have hpacket : decode packet = .ok identifyRequest := by
    have hencode : identifyRequest.encode = packet := rfl
    rw [← hencode]
    exact decode_encode (by simp [identifyRequest, destination])
  obtain ⟨hchanged, hshort, hlong⟩ := decode_of_damaged hpacket
  exact ⟨hpacket, hchanged _ (Bytes.differOnce_set (by decide) (by decide)),
    hshort _ (List.take_prefix 26 packet) (by decide),
    hlong _ (List.prefix_append packet [0]) (by decide)⟩

end Message

end LightingBus
