import LightingBus.Parameter.Persistence
import LightingBus.Responder.Definitions

/-!
# Operations of the device

What the device's own program does with its responder: it sets typed parameters, measures, reports
its status, and keeps the persisted values in a permanent storage.
-/

namespace LightingBus

namespace Responder

/-- Changes the store by an operation that may be refused. -/
def update (r : Responder κ γ)
    (f : Store (HandlerName κ) γ → Except ParameterError (Store (HandlerName κ) γ)) :
    Except ParameterError (Responder κ γ) :=
  (f r.store).map fun store => { r with store := store }

/-! ## Typed parameters -/

/-- Sets the start address, 1 to 512, and queues the change. -/
def setStartAddress (r : Responder κ γ) (address : UInt16) :
    Except ParameterError (Responder κ γ) :=
  r.update fun s => s.setAndQueue (rootKey Pid.dmxStartAddress) (Bytes.ofWord address)

/-- Chooses a personality and queues the change. -/
def choosePersonality (r : Responder κ γ) (number : UInt8) :
    Except ParameterError (Responder κ γ) :=
  match r.setting? number with
  | none => .error .dataOutOfRange
  | some _ => r.update fun s =>
      s.setAndQueue (rootKey Pid.dmxPersonality) (Personality.encode ⟨number, r.personalityCount⟩)

/-- The label of the device; a stored value that is no text counts as none. -/
def label (r : Responder κ γ) : String :=
  ((r.rootValue? Pid.deviceLabel).bind Text.ofBytes?).getD ""

/-- Sets the label, which has to be ascii, and queues the change. -/
def setLabel (r : Responder κ γ) (label : String) : Except ParameterError (Responder κ γ) :=
  if Text.isAscii (Text.toBytes label) then
    r.update fun s => s.setAndQueue (rootKey Pid.deviceLabel) (Text.toBytes label)
  else .error .dataOutOfRange

/-- The device draws attention to itself. -/
def identifies (r : Responder κ γ) : Bool :=
  r.rootValue? Pid.identifyDevice == some [1]

/-- Lets the device draw attention to itself or stop it, and queues the change. -/
def setIdentify (r : Responder κ γ) (on : Bool) : Except ParameterError (Responder κ γ) :=
  r.update fun s => s.setAndQueue (rootKey Pid.identifyDevice) [if on then 1 else 0]

/-! ## Status messages -/

/-- Adds a status message, if there is room for it. -/
def pushStatus (r : Responder κ γ) (m : StatusMessage) : Option (Responder κ γ) :=
  if r.statuses.length < maxStatusMessages then some { r with statuses := r.statuses ++ [m] }
  else none

/-- Forgets the status messages that were not reported. -/
def clearStatuses (r : Responder κ γ) : Responder κ γ :=
  { r with statuses := [] }

/-! ## Sensors -/

/-- A sensor that has not measured yet. -/
def newSensor (number : Nat) : SensorReading :=
  ⟨UInt8.ofNat number, 0, 0, 0, 0⟩

/-- Registers sensors numbered from zero, together with their parameters. A refused definition
leaves the ones before it. -/
def registerSensors (r : Responder κ γ) (count : UInt8) :
    Except ParameterError Unit × Responder κ γ :=
  if maxSensors < count.toNat then (.error .noMemory, r)
  else
    match r.store.define sensorValueDefinition with
    | .error e => (.error e, r)
    | .ok store =>
      let r := { r with store := store }
      match store.define recordSensorsDefinition with
      | .error e => (.error e, r)
      | .ok store =>
        (.ok (), { r with
          store := store
          sensors := (List.range count.toNat).map newSensor })

/-- A present value, and the lowest and the highest with it. -/
def measure (value : Int16) (s : SensorReading) : SensorReading :=
  { s with present := value, lowest := min s.lowest value, highest := max s.highest value }

/-- Changes the reading of one sensor. -/
def changeSensor (r : Responder κ γ) (number : UInt8) (f : SensorReading → SensorReading) :
    Except ParameterError (Responder κ γ) :=
  match r.sensors[number.toNat]? with
  | none => .error .notFound
  | some s => .ok { r with sensors := r.sensors.set number.toNat (f s) }

/-- A sensor has measured a value. -/
def sensorSet (r : Responder κ γ) (number : UInt8) (value : Int16) :
    Except ParameterError (Responder κ γ) :=
  r.changeSensor number (measure value)

/-- Records the present value of a sensor. -/
def sensorRecord (r : Responder κ γ) (number : UInt8) : Except ParameterError (Responder κ γ) :=
  r.changeSensor number recordReading

/-- Starts the statistics of a sensor anew at its present value. -/
def sensorReset (r : Responder κ γ) (number : UInt8) : Except ParameterError (Responder κ γ) :=
  r.changeSensor number resetReading

/-! ## Permanent storage -/

/-- Writes the changed persisted values to the permanent storage. -/
def commit (kv : KeyValueStorage σ) (r : Responder κ γ) (k : σ) :
    Except ParameterError Nat × Responder κ γ × σ :=
  let (result, store, k) := r.store.commit kv k
  (result, { r with store := store }, k)

/-- The chosen personality exists, and the stored count is the configured one. -/
def personalityFits (r : Responder κ γ) : Bool :=
  let p := r.personality
  p.count.toNat == r.config.personalities.length && 1 ≤ p.current && p.current ≤ p.count

/-- Goes back to the initial personality if the stored one does not fit the configuration. -/
def repairPersonality (r : Responder κ γ) : Except ParameterError (Responder κ γ) :=
  if r.personalityFits then .ok r
  else r.update fun s => s.set (rootKey Pid.dmxPersonality)
      (Personality.encode ⟨r.config.initialPersonality, r.personalityCount⟩)

/-- Reads the persisted values from the permanent storage and returns how many were taken over. -/
def load (kv : KeyValueStorage σ) (r : Responder κ γ) (k : σ) :
    Except ParameterError Nat × Responder κ γ × σ :=
  let (result, store, k) := r.store.load kv k
  let r := { r with store := store }
  match result with
  | .error e => (.error e, r, k)
  | .ok n =>
    match r.repairPersonality with
    | .error e => (.error e, r, k)
    | .ok r => (.ok n, r, k)

end Responder

end LightingBus
