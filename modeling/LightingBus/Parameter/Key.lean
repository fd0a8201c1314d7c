/-!
# Keys of parameter values

A value belongs to a parameter of a device. Both numbers make up the key, which is also written as
one double word with the device in its high half.
-/

namespace LightingBus

/-- The device and the parameter a value belongs to. -/
structure Key where
  subDevice : UInt16
  pid : UInt16
  deriving DecidableEq, Repr

namespace Key

/-- The double word of a key. -/
def pack (key : Key) : UInt32 :=
  UInt32.ofNat (key.subDevice.toNat * 65536 + key.pid.toNat)

/-- The key in a double word. -/
def unpack (word : UInt32) : Key :=
  ⟨UInt16.ofNat (word.toNat / 65536), UInt16.ofNat word.toNat⟩

/-- Keys are ordered by device, then by parameter. -/
def before (a b : Key) : Bool :=
  a.subDevice < b.subDevice || (a.subDevice == b.subDevice && a.pid < b.pid)

@[simp] theorem unpack_pack (key : Key) : unpack key.pack = key := by
  have h₁ := key.subDevice.toNat_lt
  have h₂ := key.pid.toNat_lt
  have h : key.pack.toNat = key.subDevice.toNat * 65536 + key.pid.toNat := by
    simp [pack]; omega
  cases key with
  | mk s p =>
    simp only [unpack, h, mk.injEq, ← UInt16.toNat_inj, UInt16.toNat_ofNat']
    dsimp only at h₁ h₂ ⊢
    omega

@[simp] theorem pack_unpack (word : UInt32) : (unpack word).pack = word := by
  have h := word.toNat_lt
  simp only [unpack, pack, ← UInt32.toNat_inj, UInt32.toNat_ofNat', UInt16.toNat_ofNat']
  omega

end Key

end LightingBus
