import LightingBus.Packet.Basic
import LightingBus.Parameter.Store

/-!
# Permanent storage of parameters

Persisted values are written to a key/value storage on demand and read back after a restart. The
storage may fail at any call; what was written or read before the failure remains.
-/

namespace LightingBus

/-- A key/value storage. Each call may fail and may change its state. -/
structure KeyValueStorage (κ : Type) where
  /-- The whole value of a key, if the key has one. -/
  get : UInt32 → κ → Except Unit (Option Bytes) × κ
  /-- Replaces the value of a key. -/
  set : UInt32 → Bytes → κ → Except Unit Unit × κ

namespace Store

/-- Writes the staged instances of a list in order. The first failure ends the run and leaves its
instance and all behind it as they were. -/
def commitInstances (kv : KeyValueStorage κ) (storage : Bytes) :
    List Instance → κ → Except ParameterError Nat × List Instance × κ
  | [], k => (.ok 0, [], k)
  | i :: rest, k =>
    if i.staged then
      match kv.set i.key.pack (i.value storage) k with
      | (.error _, k) => (.error .storage, i :: rest, k)
      | (.ok _, k) =>
        let (result, rest, k) := commitInstances kv storage rest k
        (result.map (· + 1), { i with staged := false } :: rest, k)
    else
      let (result, rest, k) := commitInstances kv storage rest k
      (result, i :: rest, k)

/-- Writes all staged values to the permanent storage and returns how many there were. -/
def commit (kv : KeyValueStorage κ) (s : Store η γ) (k : κ) :
    Except ParameterError Nat × Store η γ × κ :=
  let (result, instances, k) := commitInstances kv s.storage s.instances k
  (result, { s with instances := instances }, k)

/-- The value at a position no longer counts as changed. -/
def unstage (s : Store η γ) (index : Nat) : Store η γ :=
  { s with instances := s.instances.modify index fun i => { i with staged := false } }

/-- Takes over a value of the permanent storage for the instance at a position, if the definition
allows it, and tells whether it does. -/
def restore (s : Store η γ) (index : Nat) (value : Bytes) : Bool × Store η γ :=
  if maxParameterLength < value.length then (false, s)
  else
    match Change.write index value s with
    | (.error _, s) => (false, s)
    | (.ok (), s) => (true, s.unstage index)

/-- Reads the values of the persisted instances among a list of positions. Keys without a value and
values that are not allowed are passed over. -/
def loadEach (kv : KeyValueStorage κ) :
    List Nat → Store η γ → κ → Except ParameterError Nat × Store η γ × κ
  | [], s, k => (.ok 0, s, k)
  | index :: rest, s, k =>
    match (s.instances[index]?).filter fun i => i.storageClass == .persisted with
    | none => loadEach kv rest s k
    | some i =>
      match kv.get i.key.pack k with
      | (.error _, k) => (.error .storage, s, k)
      | (.ok none, k) => loadEach kv rest s k
      | (.ok (some value), k) =>
        match s.restore index value with
        | (false, s) => loadEach kv rest s k
        | (true, s) =>
          let (result, s, k) := loadEach kv rest s k
          (result.map (· + 1), s, k)

/-- Reads all persisted values from the permanent storage and returns how many were taken over. -/
def load (kv : KeyValueStorage κ) (s : Store η γ) (k : κ) :
    Except ParameterError Nat × Store η γ × κ :=
  loadEach kv (List.range s.instances.length) s k

end Store

end LightingBus
