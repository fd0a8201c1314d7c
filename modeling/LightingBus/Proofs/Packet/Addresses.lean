import LightingBus.Proofs.Packet.DiscoveryReply

/-!
# Addresses and numbers

`Address.representations_agree`: six bytes, the address they are read as and the number they spell
stand for the same thing, and whom an address reaches can be told from the number alone.

Everything goes through the two parts of an address (`ofParts`): six bytes are two parts, a number
of 48 bits is two parts, and each form of address is a condition on them.
-/

namespace LightingBus

/-- The number that bytes spell, the most significant byte first. -/
def Bytes.bigEndian (bytes : Bytes) : ℕ :=
  bytes.foldl (fun number byte => number * 256 + byte.toNat) 0

namespace Address

/-! ## Bytes -/

theorem toNat_ofSix (m₁ m₀ d₃ d₂ d₁ d₀ : UInt8) :
    (ofSix m₁ m₀ d₃ d₂ d₁ d₀).toNat = Bytes.bigEndian [m₁, m₀, d₃, d₂, d₁, d₀] := by
  have hm₁ := m₁.toNat_lt
  have hm₀ := m₀.toNat_lt
  have hd₃ := d₃.toNat_lt
  have hd₂ := d₂.toNat_lt
  have hd₁ := d₁.toNat_lt
  have hd₀ := d₀.toNat_lt
  rw [ofSix, toNat_ofParts, Bytes.word, Bytes.dword, UInt16.toNat_ofNat', UInt32.toNat_ofNat']
  simp only [Bytes.bigEndian, List.foldl_cons, List.foldl_nil]
  omega

/-- Six bytes are an address, and its number is the number that they spell. -/
theorem toNat_of_ofBytes? {bytes : Bytes} (h : bytes.length = 6) :
    ∃ address, ofBytes? bytes = some address ∧ address.toNat = bytes.bigEndian := by
  match bytes, h with
  | [m₁, m₀, d₃, d₂, d₁, d₀], _ => exact ⟨_, rfl, toNat_ofSix m₁ m₀ d₃ d₂ d₁ d₀⟩

theorem ofBytes?_eq_none {bytes : Bytes} (h : bytes.length ≠ 6) :
    ofBytes? bytes = none := by
  unfold ofBytes?
  split
  · exact absurd rfl h
  · rfl

/-! ## Numbers -/

theorem ofNat?_eq_none_iff {number : ℕ} : ofNat? number = none ↔ Uid.broadcastNumber < number := by
  unfold ofNat?
  split_ifs with hlarge
  · exact iff_of_true rfl hlarge
  · exact iff_of_false nofun hlarge

/-- The number of two parts is read as the address that they make. -/
theorem ofNat?_toNat_ofParts (manufacturer : UInt16) (device : UInt32) :
    ofNat? (ofParts manufacturer device).toNat = some (ofParts manufacturer device) := by
  have hm := manufacturer.toNat_lt
  have hd := device.toNat_lt
  have hsmall : ¬ Uid.broadcastNumber < manufacturer.toNat * 0x100000000 + device.toNat := by
    unfold Uid.broadcastNumber
    omega
  have hhigh : UInt16.ofNat ((manufacturer.toNat * 0x100000000 + device.toNat) / 0x100000000) =
      manufacturer := by
    rw [← UInt16.toNat_inj, UInt16.toNat_ofNat']
    omega
  have hlow : UInt32.ofNat (manufacturer.toNat * 0x100000000 + device.toNat) = device := by
    rw [← UInt32.toNat_inj, UInt32.toNat_ofNat']
    omega
  rw [toNat_ofParts, ofNat?, if_neg hsmall, hhigh, hlow]

/-! ## Whom an address reaches -/

/-- Two parts reach the device that they name, or, if the device part is all ones, the devices of
the manufacturer and with a manufacturer part of all ones every device. -/
theorem targets_ofParts_iff (manufacturer : UInt16) (device : UInt32) (uid : Uid) :
    (ofParts manufacturer device).targets uid = true ↔
      (manufacturer = uid.manufacturer ∧ device = uid.device) ∨
        (device = 0xFFFFFFFF ∧ (manufacturer = 0xFFFF ∨ manufacturer = uid.manufacturer)) := by
  have hne := uid.device_ne
  by_cases hdevice : device = 0xFFFFFFFF
  · subst hdevice
    by_cases hmanufacturer : manufacturer = 0xFFFF
    · simp [ofParts, targets, hmanufacturer]
    · simp [ofParts, targets, hmanufacturer, hne.symm]
  · obtain ⟨m, d, hd⟩ := uid
    simp [ofParts, targets, hdevice]

/-- A number reaches the device that it is the number of, or, if its low 32 bits are all ones, the
devices whose manufacturer its high bits name, and every device if those are all ones too. -/
def Reaches (number : ℕ) (uid : Uid) : Prop :=
  number = uid.toNat ∨
    (number % 2 ^ 32 = 2 ^ 32 - 1 ∧
      (number / 2 ^ 32 = 2 ^ 16 - 1 ∨ number / 2 ^ 32 = uid.manufacturer.toNat))

theorem targets_iff_reaches (manufacturer : UInt16) (device : UInt32) (uid : Uid) :
    (ofParts manufacturer device).targets uid = true ↔
      Reaches (ofParts manufacturer device).toNat uid := by
  have hm := manufacturer.toNat_lt
  have hd := device.toNat_lt
  have hdevice := uid.device.toNat_lt
  rw [targets_ofParts_iff, Reaches, toNat_ofParts, Uid.toNat]
  simp only [← UInt16.toNat_inj, ← UInt32.toNat_inj, UInt16.reduceToNat, UInt32.reduceToNat]
  omega

/-- **Addresses and numbers agree.** Six bytes are read as an address that is written as the same
bytes. Its number is the one that the bytes spell, this number is read as the same address again,
and it tells which devices the address reaches. Numbers beyond 48 bits are no address, and
identifiers are ordered as their numbers are. -/
theorem representations_agree :
    (∀ bytes : Bytes, bytes.length = 6 → ∃ address, ofBytes? bytes = some address ∧
      address.toBytes = bytes ∧ address.toNat = bytes.bigEndian ∧
      ofNat? bytes.bigEndian = some address ∧
      ∀ uid, address.targets uid = true ↔ Reaches bytes.bigEndian uid) ∧
    (∀ number, ofNat? number = none ↔ 0xFFFFFFFFFFFF < number) ∧
    ∀ a b : Uid, (a.le b = true ↔ a.toNat ≤ b.toNat) ∧ (a = b ↔ a.toNat = b.toNat) := by
  refine ⟨fun bytes hlength => ?_, fun number => ofNat?_eq_none_iff,
    fun a b => ⟨Uid.le_iff, Uid.toNat_inj.symm⟩⟩
  match bytes, hlength with
  | [m₁, m₀, d₃, d₂, d₁, d₀], _ =>
    have hnumber := toNat_ofSix m₁ m₀ d₃ d₂ d₁ d₀
    refine ⟨ofSix m₁ m₀ d₃ d₂ d₁ d₀, rfl, toBytes_ofSix .., hnumber, ?_, fun uid => ?_⟩
    · rw [← hnumber]
      exact ofNat?_toNat_ofParts _ _
    · rw [← hnumber]
      exact targets_iff_reaches _ _ uid

/-- The address of all devices of a manufacturer reaches one of them and no other device. -/
theorem representations_agree_manufacturer :
    let bytes : Bytes := [0x7F, 0xF0, 0xFF, 0xFF, 0xFF, 0xFF]
    bytes.length = 6 ∧ ofBytes? bytes = some (.manufacturer 0x7FF0) ∧
      ofNat? 0x7FF0FFFFFFFF = some (.manufacturer 0x7FF0) ∧
      Reaches 0x7FF0FFFFFFFF ⟨0x7FF0, 0x42, by decide⟩ ∧
      ¬ Reaches 0x7FF0FFFFFFFF ⟨0x7FF1, 0x42, by decide⟩ := by
  intro bytes
  have hlength : bytes.length = 6 := rfl
  have hread : ofBytes? bytes = some (.manufacturer 0x7FF0) := rfl
  have hspelled : bytes.bigEndian = 0x7FF0FFFFFFFF := rfl
  obtain ⟨address, haddress, -, -, hnumber, hreaches⟩ := representations_agree.1 bytes hlength
  obtain rfl : address = .manufacturer 0x7FF0 := Option.some.inj (haddress.symm.trans hread)
  rw [hspelled] at hnumber hreaches
  refine ⟨hlength, hread, hnumber, (hreaches _).mp rfl, fun h => ?_⟩
  have htargets := (hreaches _).mpr h
  cases htargets

end Address

end LightingBus
