import LightingBus.Bytes
import LightingBus.Parameter.Key

/-!
# Instances of parameters

An instance is a parameter of a device together with where its value is. Instances are kept in a
table in the order of their keys. A key is looked up by halving the part of the table it can be in,
so a table out of order loses instances.
-/

namespace LightingBus

/-- How a value is kept. -/
inductive StorageClass where
  /-- The value never changes. -/
  | static
  /-- The value changes and is lost without power. -/
  | dynamic
  /-- The value changes and is written to the permanent storage on demand. -/
  | persisted
  deriving DecidableEq, Repr

/-- Where the bytes of a value are. -/
inductive Place where
  | constant (bytes : Bytes)
  /-- The first `length` bytes of a region of the storage. -/
  | region (offset length : Nat)
  deriving DecidableEq

/-- A parameter of a device. -/
structure Instance where
  key : Key
  /-- The position of the parameter's definition. -/
  slot : Nat
  storageClass : StorageClass
  place : Place
  /-- The value has changed since it was last written to the permanent storage. -/
  staged : Bool
  deriving DecidableEq

/-- The value of an instance. -/
def Instance.value (i : Instance) (storage : Bytes) : Bytes :=
  match i.place with
  | .constant bytes => bytes
  | .region offset length => Bytes.slice offset length storage

/-- Instances in the order of their keys. -/
abbrev InstanceTable := List Instance

namespace InstanceTable

/-- The first position from `low` to `high` that is `high` or has a key not before `key`. -/
def lowerBound (t : InstanceTable) (key : Key) (low high : Nat) : Nat :=
  if low < high then
    let middle := (low + high) / 2
    if (t[middle]?).any fun i => i.key.before key then lowerBound t key (middle + 1) high
    else lowerBound t key low middle
  else low
termination_by high - low

/-- Where an instance with this key is or would have to be put. -/
def position (t : InstanceTable) (key : Key) : Nat :=
  t.lowerBound key 0 t.length

/-- The position of the instance with a key. -/
def index? (t : InstanceTable) (key : Key) : Option Nat :=
  if (t[t.position key]?).any fun i => i.key == key then some (t.position key) else none

/-- The instance with a key. -/
def find? (t : InstanceTable) (key : Key) : Option Instance :=
  (t.index? key).bind fun index => t[index]?

/-- Puts an instance where its key belongs. -/
def insert (t : InstanceTable) (i : Instance) : InstanceTable :=
  t.insertIdx (t.position i.key) i

end InstanceTable

end LightingBus
