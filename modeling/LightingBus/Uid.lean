import LightingBus.Hex

/-!
# Unique identifiers and addresses

A device is known by 48 bits: a manufacturer word and a device double word. An address is the
identifier of one device, of every device of a manufacturer, or of every device. Bytes, numbers and
addresses stand for the same 48 bits, and a device part of all ones always means a broadcast.
-/

namespace LightingBus

/-- The identifier of one device. A device part of all ones is reserved for broadcasts. -/
structure Uid where
  /-- The number assigned to the manufacturer. -/
  manufacturer : UInt16
  /-- The number the manufacturer gave to the device. -/
  device : UInt32
  device_ne : device ≠ 0xFFFFFFFF
  deriving DecidableEq

namespace Uid

/-- The largest number an identifier's 48 bits hold; it stands for a broadcast to all. -/
def broadcastNumber : Nat := 0xFFFFFFFFFFFF

/-- The largest number that names a device. -/
def largest : Nat := 0xFFFFFFFFFFFE

/-- An identifier a device may be given: neither part is all ones. -/
def assign? (manufacturer : UInt16) (device : UInt32) : Option Uid :=
  if h : device = 0xFFFFFFFF then none
  else if manufacturer = 0xFFFF then none
  else some ⟨manufacturer, device, h⟩

/-- The six bytes of an identifier, manufacturer first. -/
def toBytes (uid : Uid) : Bytes :=
  Bytes.ofWord uid.manufacturer ++ Bytes.ofDword uid.device

/-- The 48 bit number of an identifier. -/
def toNat (uid : Uid) : Nat :=
  uid.manufacturer.toNat * 0x100000000 + uid.device.toNat

/-- The identifier a device may be given whose 48 bits are the number. -/
def assignNat? (number : Nat) : Option Uid :=
  if broadcastNumber < number then none
  else assign? (UInt16.ofNat (number / 0x100000000)) (UInt32.ofNat number)

/-- Identifiers are ordered by manufacturer, then by device. -/
def le (a b : Uid) : Bool :=
  a.manufacturer < b.manufacturer || (a.manufacturer == b.manufacturer && a.device ≤ b.device)

@[simp] theorem length_toBytes (uid : Uid) : uid.toBytes.length = 6 := rfl

theorem toNat_inj {a b : Uid} : a.toNat = b.toNat ↔ a = b := by
  have ha := a.device.toNat_lt
  have hb := b.device.toNat_lt
  cases a
  cases b
  simp only [toNat, mk.injEq, ← UInt16.toNat_inj, ← UInt32.toNat_inj] at ha hb ⊢
  omega

/-- The order of identifiers is the order of their numbers. -/
theorem le_iff {a b : Uid} : a.le b ↔ a.toNat ≤ b.toNat := by
  have ha := a.device.toNat_lt
  have hb := b.device.toNat_lt
  simp only [le, toNat, Bool.or_eq_true, Bool.and_eq_true, decide_eq_true_eq, beq_iff_eq,
    UInt16.lt_iff_toNat_lt, UInt32.le_iff_toNat_le, ← UInt16.toNat_inj]
  omega

theorem le_trans (a b c : Uid) (hab : a.le b) (hbc : b.le c) : a.le c := by
  rw [le_iff] at hab hbc ⊢
  exact Nat.le_trans hab hbc

theorem le_total (a b : Uid) : a.le b || b.le a := by
  rw [Bool.or_eq_true, le_iff, le_iff]
  exact Nat.le_total _ _

/-! ## Text -/

/-- The upper case hexadecimal digits of a number, at least `width` of them. -/
def hexDigits (width number : Nat) : String :=
  String.ofList ((Hex.ofNat width number).map Char.toUpper)

/-- The written form: both parts in hexadecimal with a colon between them. -/
def text (uid : Uid) : String :=
  hexDigits 4 uid.manufacturer.toNat ++ ":" ++ hexDigits 8 uid.device.toNat

end Uid

/-- What a packet is addressed to. -/
inductive Address where
  /-- Every device. -/
  | broadcast
  /-- Every device of one manufacturer. -/
  | manufacturer (id : UInt16)
  /-- One device. -/
  | device (uid : Uid)
  deriving DecidableEq

namespace Address

/-- Reads the two parts of an address. -/
def ofParts (manufacturer : UInt16) (device : UInt32) : Address :=
  if h : device = 0xFFFFFFFF then
    if manufacturer = 0xFFFF then .broadcast else .manufacturer manufacturer
  else .device ⟨manufacturer, device, h⟩

/-- Reads six bytes, manufacturer first. -/
def ofSix (m₁ m₀ d₃ d₂ d₁ d₀ : UInt8) : Address :=
  ofParts (Bytes.word m₁ m₀) (Bytes.dword d₃ d₂ d₁ d₀)

/-- Reads a run of exactly six bytes. -/
def ofBytes? : Bytes → Option Address
  | [m₁, m₀, d₃, d₂, d₁, d₀] => some (ofSix m₁ m₀ d₃ d₂ d₁ d₀)
  | _ => none

/-- The six bytes of an address. -/
def toBytes : Address → Bytes
  | .broadcast => List.replicate 6 0xFF
  | .manufacturer id => Bytes.ofWord id ++ List.replicate 4 0xFF
  | .device uid => uid.toBytes

/-- The 48 bit number of an address. -/
def toNat : Address → Nat
  | .broadcast => Uid.broadcastNumber
  | .manufacturer id => id.toNat * 0x100000000 + 0xFFFFFFFF
  | .device uid => uid.toNat

/-- The address whose 48 bits are the number; larger numbers are no address. -/
def ofNat? (number : Nat) : Option Address :=
  if Uid.broadcastNumber < number then none
  else some (ofParts (UInt16.ofNat (number / 0x100000000)) (UInt32.ofNat number))

/-- An address of more than one device. -/
def isBroadcast : Address → Bool
  | .device _ => false
  | _ => true

/-- The device an address names, if it names one. -/
def uid? : Address → Option Uid
  | .device uid => some uid
  | _ => none

/-- A packet with this address is to be processed by the device `uid`. -/
def targets (address : Address) (uid : Uid) : Bool :=
  match address with
  | .broadcast => true
  | .manufacturer id => id = uid.manufacturer
  | .device other => other = uid

@[simp] theorem length_toBytes (address : Address) : address.toBytes.length = 6 := by
  cases address <;> rfl

theorem toBytes_ofParts (manufacturer : UInt16) (device : UInt32) :
    (ofParts manufacturer device).toBytes = Bytes.ofWord manufacturer ++ Bytes.ofDword device := by
  by_cases hdevice : device = 0xFFFFFFFF
  · by_cases hmanufacturer : manufacturer = 0xFFFF
    · subst hdevice hmanufacturer
      rfl
    · subst hdevice
      simp only [ofParts, dif_pos, if_neg hmanufacturer]
      rfl
  · simp only [ofParts, dif_neg hdevice]
    rfl

@[simp] theorem toBytes_ofSix (m₁ m₀ d₃ d₂ d₁ d₀ : UInt8) :
    (ofSix m₁ m₀ d₃ d₂ d₁ d₀).toBytes = [m₁, m₀, d₃, d₂, d₁, d₀] := by
  rw [ofSix, toBytes_ofParts, Bytes.ofWord_word, Bytes.ofDword_dword]
  rfl

/-- Reading never gives the manufacturer whose number means all manufacturers. -/
theorem ofParts_ne (manufacturer : UInt16) (device : UInt32) :
    ofParts manufacturer device ≠ .manufacturer 0xFFFF := by
  unfold ofParts
  repeat' split
  all_goals simp [*]

/-- Every other address is read from its two parts. -/
theorem exists_ofParts {address : Address} (h : address ≠ .manufacturer 0xFFFF) :
    ∃ manufacturer device, ofParts manufacturer device = address := by
  cases address with
  | broadcast => exact ⟨0xFFFF, 0xFFFFFFFF, rfl⟩
  | manufacturer id =>
    have hid : id ≠ 0xFFFF := fun hid => h (by rw [hid])
    exact ⟨id, 0xFFFFFFFF, by simp [ofParts, hid]⟩
  | device uid => exact ⟨uid.manufacturer, uid.device, by simp [ofParts, uid.device_ne]⟩

theorem uid?_eq_some_iff {address : Address} {uid : Uid} :
    address.uid? = some uid ↔ address = .device uid := by
  cases address <;> simp [uid?]

end Address

/-- The device a run of six bytes names. -/
def Uid.ofBytes? (bytes : Bytes) : Option Uid :=
  (Address.ofBytes? bytes).bind Address.uid?

end LightingBus
