import LightingBus.Parameter.Definition
import LightingBus.Parameter.Instance
import LightingBus.Pid

/-!
# Parameter store

A store holds definitions, devices and the values of parameters of devices. Values that may change
share one run of bytes: each has a region of the capacity its definition asks for.

Changes are made in place, step after step, and may be refused between two steps; each has a form
that gives the error alone if it is refused. New values that somebody wants to hear of are put down
as notices, oldest first.
-/

namespace LightingBus

/-- A definition and who wants to hear of new values. -/
structure DefinitionSlot (η γ : Type) where
  definition : ParameterDefinition η
  listener : Option γ

/-- A new value that somebody wants to hear of. -/
structure Notice (γ : Type) where
  listener : γ
  key : Key
  value : Bytes
  deriving DecidableEq

/-- How much a store can hold. The root device counts as a device. -/
structure Capacities where
  definitions : Nat
  devices : Nat
  instances : Nat
  bytes : Nat
  deriving DecidableEq

/-- Definitions, devices and values. -/
structure Store (η γ : Type) where
  capacities : Capacities
  definitions : List (DefinitionSlot η γ)
  /-- The root device, then the sub-devices in the order they were added. -/
  devices : List UInt16
  instances : InstanceTable
  /-- The regions of all values that may change. -/
  storage : Bytes
  /-- The most bytes the regions may have together. -/
  dynamicCapacity : Nat
  /-- Keys whose change was not reported yet, oldest first. -/
  changed : List Key
  notices : List (Notice γ)

namespace Store

/-- The most keys that wait to be reported. -/
def changedCapacity : Nat := 16

/-- A store with the root device only, which uses at most `dynamicCapacity` bytes of its storage. -/
def empty (capacities : Capacities) (dynamicCapacity : Nat) : Store η γ where
  capacities := capacities
  definitions := []
  devices := [SubDevice.root]
  instances := []
  storage := []
  dynamicCapacity := min dynamicCapacity capacities.bytes
  changed := []
  notices := []

/-- A change in place that may be refused. What it did before it was refused stays done. -/
abbrev Change (η γ : Type) : Type :=
  Store η γ → Except ParameterError Unit × Store η γ

/-- The store after a change, or why the change was refused. -/
def accept (s : Store η γ) (change : Change η γ) : Except ParameterError (Store η γ) :=
  match change s with
  | (.error e, _) => .error e
  | (.ok (), s) => .ok s

/-! ## Definitions -/

/-- The position of a parameter's definition. -/
def slotIndex? (s : Store η γ) (pid : UInt16) : Option Nat :=
  s.definitions.findIdx? fun slot => slot.definition.pid == pid

/-- The definition at a position. -/
def definitionAt? (s : Store η γ) (index : Nat) : Option (ParameterDefinition η) :=
  (s.definitions[index]?).map DefinitionSlot.definition

/-- The definition of a parameter. -/
def definition? (s : Store η γ) (pid : UInt16) : Option (ParameterDefinition η) :=
  (s.slotIndex? pid).bind s.definitionAt?

/-- The defined parameters, in the order of their definition. -/
def pids (s : Store η γ) : List UInt16 :=
  s.definitions.map fun slot => slot.definition.pid

/-- Defines a parameter. A further definition must agree with the first, which stays. -/
def Change.define (d : ParameterDefinition η) : Change η γ := fun s =>
  match s.definition? d.pid with
  | some old => if old.conflictsWith d then (.error .definitionConflict, s) else (.ok (), s)
  | none =>
    if s.capacities.definitions ≤ s.definitions.length then (.error .noMemory, s)
    else (.ok (), { s with definitions := s.definitions ++ [⟨d, none⟩] })

def define (s : Store η γ) (d : ParameterDefinition η) : Except ParameterError (Store η γ) :=
  s.accept (Change.define d)

/-- Defines parameters that follow each other and differ in nothing else. The first one that is
refused ends the run; those before it stay defined. -/
def defineRun (d : ParameterDefinition η) : Nat → Change η γ
  | 0, s => (.ok (), s)
  | n + 1, s =>
    match Change.define d s with
    | (.error e, s) => (.error e, s)
    | (.ok (), s) => defineRun { d with pid := d.pid + 1 } n s

/-- From now on the listener hears of new values of a parameter on any device. -/
def Change.listen (pid : UInt16) (listener : γ) : Change η γ := fun s =>
  match s.slotIndex? pid with
  | none => (.error .notDefined, s)
  | some index =>
    (.ok (), { s with definitions := s.definitions.modify index fun slot =>
      { slot with listener := some listener } })

def listen (s : Store η γ) (pid : UInt16) (listener : γ) : Except ParameterError (Store η γ) :=
  s.accept (Change.listen pid listener)

/-! ## Devices -/

def hasDevice (s : Store η γ) (subDevice : UInt16) : Bool :=
  s.devices.contains subDevice

/-- The sub-devices, in the order they were added. -/
def subDevices (s : Store η γ) : List UInt16 :=
  s.devices.tail

/-- How many sub-devices there are. -/
def subDeviceCount (s : Store η γ) : UInt16 :=
  UInt16.ofNat s.subDevices.length

/-- Adds a sub-device, numbered 1 to 512; one that is there already is not added again. -/
def Change.addSubDevice (subDevice : UInt16) : Change η γ := fun s =>
  if subDevice < 1 ∨ SubDevice.last < subDevice then (.error .subDeviceOutOfRange, s)
  else if s.hasDevice subDevice then (.ok (), s)
  else if s.capacities.devices ≤ s.devices.length then (.error .noMemory, s)
  else (.ok (), { s with devices := s.devices ++ [subDevice] })

def addSubDevice (s : Store η γ) (subDevice : UInt16) : Except ParameterError (Store η γ) :=
  s.accept (Change.addSubDevice subDevice)

/-! ## Values -/

/-- The instance with a key. -/
def find? (s : Store η γ) (key : Key) : Option Instance :=
  s.instances.find? key

def hasInstance (s : Store η γ) (key : Key) : Bool :=
  (s.instances.index? key).isSome

/-- The value of a parameter of a device. -/
def get (s : Store η γ) (key : Key) : Except ParameterError Bytes :=
  match s.find? key with
  | none => .error .notFound
  | some i => .ok (i.value s.storage)

/-- Copies a value to the front of a buffer that is long enough, and returns the buffer and the
length of the value. -/
def copy (s : Store η γ) (key : Key) (buffer : Bytes) : Except ParameterError (Bytes × Nat) := do
  let value ← s.get key
  if buffer.length < value.length then .error .sizeMismatch
  else .ok (Bytes.overwrite 0 value buffer, value.length)

/-- How a value is kept. -/
def storageClass (s : Store η γ) (key : Key) : Except ParameterError StorageClass :=
  match s.find? key with
  | none => .error .notFound
  | some i => .ok i.storageClass

/-- Sets a region aside behind the others and writes a value to its front. -/
def reserve (capacity : Nat) (value : Bytes) (s : Store η γ) :
    Except ParameterError Place × Store η γ :=
  if s.dynamicCapacity < s.storage.length + capacity ∨
      s.capacities.bytes < s.storage.length + capacity then (.error .noMemory, s)
  else
    (.ok (.region s.storage.length value.length), { s with
      storage := Bytes.overwrite s.storage.length value
        (s.storage ++ List.replicate capacity 0) })

/-- Finds the place of a new value. -/
def allocate (storageClass : StorageClass) (capacity : Nat) (value : Bytes) (s : Store η γ) :
    Except ParameterError Place × Store η γ :=
  match storageClass with
  | .static => (.ok (.constant value), s)
  | .dynamic | .persisted => s.reserve capacity value

/-- Puts an instance into the table if there is room for it. -/
def insertInstance (i : Instance) : Change η γ := fun s =>
  if s.capacities.instances ≤ s.instances.length then (.error .noMemory, s)
  else (.ok (), { s with instances := s.instances.insert i })

/-- Gives a device a defined parameter with a first value. -/
def Change.addInstance (key : Key) (storageClass : StorageClass) (value : Bytes) : Change η γ :=
  fun s =>
  match s.slotIndex? key.pid, s.definition? key.pid with
  | some slot, some d =>
    if ¬ s.hasDevice key.subDevice then (.error .subDeviceOutOfRange, s)
    else
      match d.check value with
      | .error e => (.error e, s)
      | .ok () =>
        if s.hasInstance key then (.error .definitionConflict, s)
        else if s.capacities.instances ≤ s.instances.length then (.error .noMemory, s)
        else
          match s.allocate storageClass d.size.capacity value with
          | (.error e, s) => (.error e, s)
          | (.ok place, s) => insertInstance ⟨key, slot, storageClass, place, false⟩ s
  | _, _ => (.error .notDefined, s)

def addInstance (s : Store η γ) (key : Key) (storageClass : StorageClass) (value : Bytes) :
    Except ParameterError (Store η γ) :=
  s.accept (Change.addInstance key storageClass value)

/-- Writes a value to the region of the instance at a position, if the definition allows it. A
persisted value is then staged. Nothing is at a position outside of the table. -/
def Change.write (index : Nat) (value : Bytes) : Change η γ := fun s =>
  match s.instances[index]? with
  | none => (.error .notFound, s)
  | some i =>
    match i.place with
    | .constant _ => (.error .writeProtected, s)
    | .region offset _ =>
      match s.definitionAt? i.slot with
      | none => (.error .notDefined, s)
      | some d =>
        match d.check value with
        | .error e => (.error e, s)
        | .ok () =>
          (.ok (), { s with
            storage := Bytes.overwrite offset value s.storage
            instances := s.instances.set index { i with
              place := .region offset value.length
              staged := i.staged || i.storageClass == .persisted } })

/-- Who wants to hear of new values of the instance at a position. -/
def listener? (s : Store η γ) (index : Nat) : Option γ := do
  let i ← s.instances[index]?
  let slot ← s.definitions[i.slot]?
  slot.listener

/-- Puts down that a listener, if there is one, is to hear of a value. -/
def notify (s : Store η γ) (listener : Option γ) (key : Key) (value : Bytes) : Store η γ :=
  match listener with
  | none => s
  | some listener => { s with notices := s.notices ++ [⟨listener, key, value⟩] }

/-- Writes a value and tells the listener. -/
def Change.set (key : Key) (value : Bytes) : Change η γ := fun s =>
  match s.instances.index? key with
  | none => (.error .notFound, s)
  | some index =>
    let listener := s.listener? index
    match Change.write index value s with
    | (.error e, s) => (.error e, s)
    | (.ok (), s) => (.ok (), s.notify listener key value)

def set (s : Store η γ) (key : Key) (value : Bytes) : Except ParameterError (Store η γ) :=
  s.accept (Change.set key value)

/-! ## Changes to report -/

/-- Puts a key at the end of the queue of changes unless it waits already. If the queue is full,
its oldest key is given up. -/
def queueChanged (s : Store η γ) (key : Key) : Store η γ :=
  if s.changed.contains key then s
  else
    let waiting := if changedCapacity ≤ s.changed.length then s.changed.tail else s.changed
    { s with changed := waiting ++ [key] }

/-- Takes the oldest key out of the queue of changes. -/
def popChanged (s : Store η γ) : Option (Key × Store η γ) :=
  match s.changed with
  | [] => none
  | key :: rest => some (key, { s with changed := rest })

/-- Writes a value, tells the listener and queues the change. -/
def Change.setAndQueue (key : Key) (value : Bytes) : Change η γ := fun s =>
  match Change.set key value s with
  | (.error e, s) => (.error e, s)
  | (.ok (), s) => (.ok (), s.queueChanged key)

def setAndQueue (s : Store η γ) (key : Key) (value : Bytes) :
    Except ParameterError (Store η γ) :=
  s.accept (Change.setAndQueue key value)

/-- How many persisted values have not been written to the permanent storage. -/
def stagedCount (s : Store η γ) : Nat :=
  s.instances.countP Instance.staged

end Store

end LightingBus
