import LightingBus.Parameter.Key
import LightingBus.Parameter.Persistence

/-!
# A key/value storage in memory

A storage for devices that run without hardware. Reading and writing can be made to fail.
-/

namespace LightingBus

namespace Simulation

/-- The stored values in the order of their keys, and what fails. -/
structure MemoryStorage where
  values : List (UInt32 × Bytes) := []
  failGet : Bool := false
  failSet : Bool := false

namespace MemoryStorage

/-- The value of a key. -/
def find? (m : MemoryStorage) (key : UInt32) : Option Bytes :=
  (m.values.find? fun (k, _) => k == key).map Prod.snd

/-- Replaces the value of a key. -/
def put (m : MemoryStorage) (key : UInt32) (value : Bytes) : MemoryStorage :=
  let others := m.values.filter fun (k, _) => k != key
  { m with values := ((key, value) :: others).mergeSort fun a b => a.1 ≤ b.1 }

/-- The storage as parameters use it. -/
def keyValue : KeyValueStorage MemoryStorage where
  get key m := if m.failGet then (.error (), m) else (.ok (m.find? key), m)
  set key value m := if m.failSet then (.error (), m) else (.ok (), m.put key value)

end MemoryStorage

end Simulation

end LightingBus
