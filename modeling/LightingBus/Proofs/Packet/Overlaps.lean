import LightingBus.Proofs.Packet.Damage
import LightingBus.Proofs.Packet.DiscoveryReply

/-!
# Overlapping replies

Devices that answer a search at once talk over each other: of every bit, the controller hears a one
only if all of them send a one. `DiscoveryReply.decode_overlap`: what is heard of two replies is
refused because of its checksum, unless the bits that both checksums have are the checksum of the
bits that both identifiers have. In that case it is, byte for byte, the reply of a single device,
and no reader of replies could tell the difference.

1. Spreading bytes and hearing the overlap of two runs may be exchanged (`overlap_spread`), so an
   overlap of replies is made like a reply (`overlap_encode`).
2. Its identifier is that of the common bits (`Uid.common`), and the checksum of a reply counts the
   bytes of the identifier (`toNat_checksum`).
-/

namespace LightingBus

/-! ## Bytes that are sent at once -/

namespace Bytes

/-- What is heard of two runs of bytes that are sent at once. -/
def overlap (first second : Bytes) : Bytes :=
  List.zipWith (· &&& ·) first second

theorem overlap_append {first second first' second' : Bytes} (h : first.length = second.length) :
    overlap (first ++ first') (second ++ second') =
      overlap first second ++ overlap first' second' :=
  List.zipWith_append h

theorem overlap_ofWord (a b : UInt16) : overlap (ofWord a) (ofWord b) = ofWord (a &&& b) := by
  have hhigh : (a.toNat &&& b.toNat) / 256 = a.toNat / 256 &&& b.toNat / 256 :=
    Nat.and_div_two_pow (n := 8)
  simp only [overlap, ofWord, List.zipWith_cons_cons, List.zipWith_nil_left, UInt16.toNat_and,
    hhigh, UInt8.ofNat_and]

theorem overlap_ofDword (a b : UInt32) : overlap (ofDword a) (ofDword b) = ofDword (a &&& b) := by
  have hfirst : (a.toNat &&& b.toNat) / 16777216 = a.toNat / 16777216 &&& b.toNat / 16777216 :=
    Nat.and_div_two_pow (n := 24)
  have hsecond : (a.toNat &&& b.toNat) / 65536 = a.toNat / 65536 &&& b.toNat / 65536 :=
    Nat.and_div_two_pow (n := 16)
  have hthird : (a.toNat &&& b.toNat) / 256 = a.toNat / 256 &&& b.toNat / 256 :=
    Nat.and_div_two_pow (n := 8)
  simp only [overlap, ofDword, List.zipWith_cons_cons, List.zipWith_nil_left, UInt32.toNat_and,
    hfirst, hsecond, hthird, UInt8.ofNat_and]

end Bytes

/-! ## Identifiers -/

namespace Uid

/-- The identifier whose bits are those that two identifiers have in common. -/
def common (u v : Uid) : Uid where
  manufacturer := u.manufacturer &&& v.manufacturer
  device := u.device &&& v.device
  device_ne := by
    intro h
    have hle : (u.device &&& v.device).toNat ≤ u.device.toNat := by
      rw [UInt32.toNat_and]
      exact Nat.and_le_left
    have hlt := u.device.toNat_lt
    rw [h] at hle
    refine u.device_ne (UInt32.toNat_inj.mp (Nat.le_antisymm ?_ hle))
    exact Nat.le_of_lt_succ hlt

theorem toBytes_common (u v : Uid) : (u.common v).toBytes = Bytes.overlap u.toBytes v.toBytes := by
  rw [toBytes, toBytes, toBytes, Bytes.overlap_append (by rfl), Bytes.overlap_ofWord,
    Bytes.overlap_ofDword]
  rfl

/-- The sum of the bytes of an identifier. -/
def byteSum (uid : Uid) : ℕ :=
  (uid.toBytes.map UInt8.toNat).sum

theorem byteSum_le (uid : Uid) : uid.byteSum ≤ 6 * 255 := by
  have hbytes (n : ℕ) : (UInt8.ofNat n).toNat < 256 := UInt8.toNat_lt _
  have h₁ := hbytes (uid.manufacturer.toNat / 256)
  have h₂ := hbytes uid.manufacturer.toNat
  have h₃ := hbytes (uid.device.toNat / 16777216)
  have h₄ := hbytes (uid.device.toNat / 65536)
  have h₅ := hbytes (uid.device.toNat / 256)
  have h₆ := hbytes uid.device.toNat
  simp only [byteSum, toBytes, Bytes.ofWord, Bytes.ofDword, List.cons_append, List.nil_append,
    List.map_cons, List.map_nil, List.sum_cons, List.sum_nil]
  omega

end Uid

namespace DiscoveryReply

/-! ## Spread bytes -/

/-- Spreading makes every byte larger by the bits that are forced. -/
theorem toNat_spread_add (byte : UInt8) :
    (byte ||| 0xAA).toNat + (byte ||| 0x55).toNat = 255 + byte.toNat := by
  have hall : ∀ n < 256, (n ||| 0xAA) + (n ||| 0x55) = 255 + n := by decide +kernel
  rw [UInt8.toNat_or, UInt8.toNat_or]
  exact hall byte.toNat byte.toNat_lt

theorem toNat_checksum_spread (bytes : Bytes) : (Bytes.checksum (spread bytes)).toNat =
    (255 * bytes.length + (bytes.map UInt8.toNat).sum) % 65536 := by
  induction bytes with
  | nil => rfl
  | cons byte bytes ih =>
    have hbyte := toNat_spread_add byte
    change (Bytes.checksum ((byte ||| 0xAA) :: (byte ||| 0x55) :: spread bytes)).toNat = _
    rw [Bytes.checksum_cons, Bytes.checksum_cons, UInt16.toNat_add, UInt16.toNat_add, ih,
      UInt8.toNat_toUInt16, UInt8.toNat_toUInt16, List.map_cons, List.sum_cons, List.length_cons]
    omega

/-- The checksum that the reply of a device carries. -/
def checksum (uid : Uid) : UInt16 :=
  Bytes.checksum (spread uid.toBytes)

theorem toNat_checksum (uid : Uid) : (checksum uid).toNat = 1530 + uid.byteSum := by
  have hle := uid.byteSum_le
  rw [checksum, toNat_checksum_spread, Uid.length_toBytes, ← Uid.byteSum]
  omega

theorem overlap_spread (first second : Bytes) :
    Bytes.overlap (spread first) (spread second) = spread (Bytes.overlap first second) := by
  induction first generalizing second with
  | nil => rfl
  | cons byte first ih =>
    cases second with
    | nil => rfl
    | cons other second =>
      have hmask (mask : UInt8) : (byte ||| mask) &&& (other ||| mask) = byte &&& other ||| mask :=
        by rw [← UInt8.toNat_inj, UInt8.toNat_and, UInt8.toNat_or, UInt8.toNat_or, UInt8.toNat_or,
          UInt8.toNat_and, Nat.or_and_distrib_right]
      change ((byte ||| 0xAA) &&& (other ||| 0xAA)) :: ((byte ||| 0x55) &&& (other ||| 0x55)) ::
        Bytes.overlap (spread first) (spread second) = _
      rw [hmask, hmask, ih]
      rfl

/-! ## Replies that are sent at once -/

/-- The overlap of two replies is made like a reply: of the bits that the identifiers have in
common, and of those that the checksums have in common. -/
theorem overlap_encode (u v : Uid) : Bytes.overlap (encode u) (encode v) =
    List.replicate maxPreamble preamble ++ separator ::
      (spread (u.common v).toBytes ++ spread (Bytes.ofWord (checksum u &&& checksum v))) := by
  have hfront : Bytes.overlap (List.replicate maxPreamble preamble ++ [separator])
      (List.replicate maxPreamble preamble ++ [separator]) =
        List.replicate maxPreamble preamble ++ [separator] := rfl
  have hsplit (uid : Uid) : encode uid = List.replicate maxPreamble preamble ++ [separator] ++
      (spread uid.toBytes ++ spread (Bytes.ofWord (checksum uid))) := rfl
  rw [hsplit, hsplit, Bytes.overlap_append (by rfl), hfront, Bytes.overlap_append (by rfl),
    overlap_spread, overlap_spread, Uid.toBytes_common, Bytes.overlap_ofWord, List.append_assoc]
  rfl

theorem spread_inj {first second : Bytes} : spread first = spread second ↔ first = second :=
  ⟨fun h => by rw [← join_spread first, h, join_spread], congrArg spread⟩

/-- An overlap of replies is a reply if the checksums have the right bits in common. -/
theorem overlap_encode_eq_iff {u v : Uid} : Bytes.overlap (encode u) (encode v) =
    encode (u.common v) ↔ checksum u &&& checksum v = checksum (u.common v) := by
  rw [overlap_encode, encode_eq, List.append_cancel_left_eq, List.cons_inj_right,
    List.append_cancel_left_eq, spread_inj, Bytes.ofWord_inj]
  rfl

theorem checksum_and_eq_iff {u v : Uid} : checksum u &&& checksum v = checksum (u.common v) ↔
    (1530 + u.byteSum) &&& (1530 + v.byteSum) = 1530 + (u.common v).byteSum := by
  rw [← UInt16.toNat_inj, UInt16.toNat_and, toNat_checksum, toNat_checksum, toNat_checksum]

/-- What is heard of two replies at once is refused because of its checksum, unless the checksums,
which are 1530 more than the sums of the identifiers' bytes, have those bits in common that are the
checksum of the common bits of the identifiers. Then, and only then, it is the reply of one device,
byte for byte, and it is read as such. -/
theorem decode_overlap (u v : Uid) :
    (u.common v).toBytes = Bytes.overlap u.toBytes v.toBytes ∧
    (decode (Bytes.overlap (encode u) (encode v)) = .error .wrongChecksum ↔
      (1530 + u.byteSum) &&& (1530 + v.byteSum) ≠ 1530 + (u.common v).byteSum) ∧
    ((1530 + u.byteSum) &&& (1530 + v.byteSum) = 1530 + (u.common v).byteSum →
      Bytes.overlap (encode u) (encode v) = encode (u.common v) ∧
      decode (Bytes.overlap (encode u) (encode v)) = .ok (u.common v)) := by
  rw [ne_eq, ← checksum_and_eq_iff]
  refine ⟨Uid.toBytes_common u v, ?_, fun hsum => ?_⟩
  · rw [overlap_encode, decode_replicate le_rfl, if_neg (by exact lt_irrefl 16), decodeBody_spread]
    split_ifs with hsum
    · exact ⟨nofun, fun hne => absurd hsum hne⟩
    · exact ⟨fun _ => hsum, fun _ => rfl⟩
  · have hreply := overlap_encode_eq_iff.mpr hsum
    exact ⟨hreply, hreply ▸ decode_encode (u.common v)⟩

/-- The replies of two devices of one manufacturer give the reply of the first one. -/
theorem overlap_read_as_one :
    let u : Uid := ⟨0x7FF0, 1, by decide⟩
    let v : Uid := ⟨0x7FF0, 5, by decide⟩
    u ≠ v ∧ Bytes.overlap (encode u) (encode v) = encode u ∧
      decode (Bytes.overlap (encode u) (encode v)) = .ok u :=
  ⟨by decide, rfl, rfl⟩

end DiscoveryReply

end LightingBus
