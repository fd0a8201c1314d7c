import LightingBus.Proofs.Responder.Bookkeeping
import LightingBus.Proofs.Responder.Offers
import LightingBus.Proofs.Responder.Running
import Mathlib

/-!
# Readings of sensors

`readings_of_sensing`: whatever a device measures, records and resets, and whatever of that
controllers ask for, each of its sensors reads what its own history says.

1. A history is the list of what happened to one sensor, its last event first. The present value,
   the values that count for the extremes and the recorded value are read off it (`present`, `span`,
   `lastRecorded`), and one more event changes a reading accordingly (`Explains.apply`).
2. Each operation of the device is an event at one sensor (`after_changeSensor`).
3. A request to set one of the two parameters is an event at one sensor or at all of them, or at
   none if it is refused (`handle_sensors`). All sub-devices have the same sensors, so where a
   request is applied to each of them, all but the first time change nothing (`applyEach_happen`).
-/

namespace LightingBus

/-- What happens to a sensor. -/
inductive SensorEvent where
  /-- It has measured a value. -/
  | measured (value : Int16)
  /-- The present value is recorded. -/
  | recorded
  /-- The statistics start anew. -/
  | reset
  deriving DecidableEq

namespace SensorEvent

variable {history : List SensorEvent} {s : SensorReading}

/-! ## Histories -/

/-- The present value after a history, the last event of which comes first. -/
def present : List SensorEvent → Int16
  | [] => 0
  | .measured value :: _ => value
  | _ :: history => present history

/-- The present values since the registration or the last reset, with the value at that time. -/
def span : List SensorEvent → List Int16
  | [] => [0]
  | .measured value :: history => value :: span history
  | .recorded :: history => span history
  | .reset :: history => [present history]

/-- The present value when it was last recorded or reset, zero before that. -/
def lastRecorded : List SensorEvent → Int16
  | [] => 0
  | .measured _ :: history => lastRecorded history
  | _ :: history => present history

theorem present_mem_span (history : List SensorEvent) : present history ∈ span history := by
  induction history with
  | nil => exact List.mem_singleton_self 0
  | cons event history ih =>
    cases event with
    | measured value => exact List.mem_cons_self
    | recorded => exact ih
    | reset => exact List.mem_singleton_self _

theorem lastRecorded_mem_span (history : List SensorEvent) :
    lastRecorded history ∈ span history := by
  induction history with
  | nil => exact List.mem_singleton_self 0
  | cons event history ih =>
    cases event with
    | measured value => exact List.mem_cons_of_mem _ ih
    | recorded => exact present_mem_span history
    | reset => exact List.mem_singleton_self _

/-! ## Readings -/

/-- The least of some values. -/
def IsLowest (values : List Int16) (least : Int16) : Prop :=
  least ∈ values ∧ ∀ value ∈ values, least ≤ value

/-- The greatest of some values. -/
def IsHighest (values : List Int16) (greatest : Int16) : Prop :=
  greatest ∈ values ∧ ∀ value ∈ values, value ≤ greatest

theorem isLowest_singleton (value : Int16) : IsLowest [value] value :=
  ⟨List.mem_singleton_self value, by simp⟩

theorem isHighest_singleton (value : Int16) : IsHighest [value] value :=
  ⟨List.mem_singleton_self value, by simp⟩

theorem IsLowest.cons {values : List Int16} {least : Int16} (h : IsLowest values least)
    (value : Int16) : IsLowest (value :: values) (min least value) := by
  obtain ⟨hmem, hle⟩ := h
  by_cases hvalue : least ≤ value
  · have hmin : min least value = least := if_pos hvalue
    rw [hmin]
    exact ⟨List.mem_cons_of_mem _ hmem, List.forall_mem_cons.mpr ⟨hvalue, hle⟩⟩
  · have hmin : min least value = value := if_neg hvalue
    have hlower : value ≤ least := (Int16.le_total least value).resolve_left hvalue
    rw [hmin]
    exact ⟨List.mem_cons_self, List.forall_mem_cons.mpr ⟨Int16.le_refl value,
      fun other hother => Int16.le_trans hlower (hle other hother)⟩⟩

theorem IsHighest.cons {values : List Int16} {greatest : Int16} (h : IsHighest values greatest)
    (value : Int16) : IsHighest (value :: values) (max greatest value) := by
  obtain ⟨hmem, hle⟩ := h
  by_cases hvalue : greatest ≤ value
  · have hmax : max greatest value = value := if_pos hvalue
    rw [hmax]
    exact ⟨List.mem_cons_self, List.forall_mem_cons.mpr ⟨Int16.le_refl value,
      fun other hother => Int16.le_trans (hle other hother) hvalue⟩⟩
  · have hmax : max greatest value = greatest := if_neg hvalue
    have hlower : value ≤ greatest := (Int16.le_total greatest value).resolve_left hvalue
    rw [hmax]
    exact ⟨List.mem_cons_of_mem _ hmem, List.forall_mem_cons.mpr ⟨hlower, hle⟩⟩

/-- What an event makes of a reading. -/
def apply : SensorEvent → SensorReading → SensorReading
  | .measured value => Responder.measure value
  | .recorded => Responder.recordReading
  | .reset => Responder.resetReading

theorem number_apply (event : SensorEvent) (s : SensorReading) :
    (event.apply s).number = s.number := by
  cases event <;> rfl

/-- A reading that is what its history says. -/
structure Explains (history : List SensorEvent) (s : SensorReading) : Prop where
  present : s.present = present history
  lowest : IsLowest (span history) s.lowest
  highest : IsHighest (span history) s.highest
  recorded : s.recorded = lastRecorded history

theorem explains_newSensor (number : ℕ) : Explains [] (Responder.newSensor number) :=
  ⟨rfl, isLowest_singleton 0, isHighest_singleton 0, rfl⟩

theorem Explains.apply (h : Explains history s) (event : SensorEvent) :
    Explains (event :: history) (event.apply s) := by
  cases event with
  | measured value => exact ⟨rfl, h.lowest.cons value, h.highest.cons value, h.recorded⟩
  | recorded => exact ⟨h.present, h.lowest, h.highest, h.present⟩
  | reset =>
    have hpresent : SensorEvent.present history = s.present := h.present.symm
    refine ⟨h.present, ?_, ?_, h.present⟩
    · show IsLowest [SensorEvent.present history] s.present
      rw [hpresent]
      exact isLowest_singleton s.present
    · show IsHighest [SensorEvent.present history] s.present
      rw [hpresent]
      exact isHighest_singleton s.present

/-- The present and the recorded value are among those that count for the extremes. -/
theorem Explains.between (h : Explains history s) :
    (s.lowest ≤ s.present ∧ s.present ≤ s.highest) ∧
      s.lowest ≤ s.recorded ∧ s.recorded ≤ s.highest := by
  have hpresent := present_mem_span history
  have hrecorded := lastRecorded_mem_span history
  rw [← h.present] at hpresent
  rw [← h.recorded] at hrecorded
  exact ⟨⟨h.lowest.2 _ hpresent, h.highest.2 _ hpresent⟩, h.lowest.2 _ hrecorded,
    h.highest.2 _ hrecorded⟩

end SensorEvent

namespace Responder

open SensorEvent

variable {κ γ σ ω ε : Type} {r r' : Responder κ γ} {request : Request} {count number : UInt8}
  {event : SensorEvent} {sensors : List SensorReading} {custom : κ → Handler κ γ ω}
  {fallback : Fallback κ γ ω ε} {w : ω}

/-! ## Events at sensors -/

/-- The readings after an event at some of the sensors. -/
def happen (events : ℕ → Option SensorEvent) (sensors : List SensorReading) : List SensorReading :=
  sensors.mapIdx fun i s => (events i).elim s fun event => event.apply s

/-- The event is at the sensor of this number. -/
def atSensor (number : UInt8) (event : SensorEvent) : ℕ → Option SensorEvent :=
  fun i => if i = number.toNat then some event else none

/-- The event is at the sensor of this number, or at all sensors if it is `0xFF`. -/
def atSensors (number : UInt8) (event : SensorEvent) : ℕ → Option SensorEvent :=
  fun i => if number = allSensors ∨ i = number.toNat then some event else none

theorem length_happen (events : ℕ → Option SensorEvent) (sensors : List SensorReading) :
    (happen events sensors).length = sensors.length :=
  List.length_mapIdx

theorem getElem?_happen (events : ℕ → Option SensorEvent) (sensors : List SensorReading) (i : ℕ) :
    (happen events sensors)[i]? =
      sensors[i]?.map fun s => (events i).elim s fun event => event.apply s :=
  List.getElem?_mapIdx

theorem happen_eq_self {events : ℕ → Option SensorEvent}
    (h : ∀ i < sensors.length, events i = none) : happen events sensors = sensors := by
  apply List.ext_getElem?
  intro i
  rw [getElem?_happen]
  cases hs : sensors[i]? with
  | none => rfl
  | some s =>
    rw [Option.map_some, h i (List.getElem?_eq_some_iff.mp hs).1]
    rfl

theorem happen_atSensor {s : SensorReading} (hs : sensors[number.toNat]? = some s)
    (event : SensorEvent) :
    happen (atSensor number event) sensors = sensors.set number.toNat (event.apply s) := by
  apply List.ext_getElem?
  intro i
  rw [getElem?_happen, List.getElem?_set, atSensor]
  by_cases hi : i = number.toNat
  · subst hi
    rw [if_pos rfl, if_pos rfl, if_pos (List.getElem?_eq_some_iff.mp hs).1, hs]
    rfl
  · rw [if_neg hi, if_neg (Ne.symm hi)]
    exact Option.map_id_apply

theorem happen_atSensors_all (event : SensorEvent) (sensors : List SensorReading) :
    happen (atSensors allSensors event) sensors = sensors.map event.apply := by
  apply List.ext_getElem?
  intro i
  rw [getElem?_happen, List.getElem?_map, atSensors, if_pos (.inl rfl)]
  rfl

theorem atSensors_of_ne (h : number ≠ allSensors) (event : SensorEvent) :
    atSensors number event = atSensor number event := by
  funext i
  simp [atSensors, atSensor, h]

/-- What changes nothing when it happens again does so at all sensors. -/
theorem happen_again (hagain : ∀ s, event.apply (event.apply s) = event.apply s)
    (number : UInt8) (sensors : List SensorReading) :
    happen (atSensors number event) (happen (atSensors number event) sensors) =
      happen (atSensors number event) sensors := by
  apply List.ext_getElem?
  intro i
  simp only [getElem?_happen, Option.map_map]
  congr 1
  funext s
  by_cases hi : number = allSensors ∨ i = number.toNat
  · simp only [atSensors, if_pos hi, Function.comp_apply, Option.elim_some, hagain]
  · simp only [atSensors, if_neg hi, Function.comp_apply, Option.elim_none]

/-! ## Operations of the device -/

/-- The responder after an operation, which leaves it as it is if it is refused. -/
def after (result : Except ParameterError (Responder κ γ)) (r : Responder κ γ) : Responder κ γ :=
  result.toOption.getD r

/-- An operation is an event at its sensor, and at none if there is no such sensor. -/
theorem after_changeSensor (r : Responder κ γ) (number : UInt8) (event : SensorEvent) :
    after (r.changeSensor number event.apply) r =
      { r with sensors := happen (atSensor number event) r.sensors } := by
  rw [changeSensor]
  cases hs : r.sensors[number.toNat]? with
  | none =>
    have hnone : happen (atSensor number event) r.sensors = r.sensors := by
      apply happen_eq_self
      intro i hi
      have hle := List.getElem?_eq_none_iff.mp hs
      exact if_neg (by omega)
    rw [hnone]
    rfl
  | some s =>
    rw [happen_atSensor hs]
    rfl

theorem after_sensorSet (r : Responder κ γ) (number : UInt8) (value : Int16) :
    after (r.sensorSet number value) r =
      { r with sensors := happen (atSensor number (.measured value)) r.sensors } :=
  after_changeSensor r number (.measured value)

theorem after_sensorRecord (r : Responder κ γ) (number : UInt8) :
    after (r.sensorRecord number) r =
      { r with sensors := happen (atSensor number .recorded) r.sensors } :=
  after_changeSensor r number .recorded

theorem after_sensorReset (r : Responder κ γ) (number : UInt8) :
    after (r.sensorReset number) r =
      { r with sensors := happen (atSensor number .reset) r.sensors } :=
  after_changeSensor r number .reset

/-! ## Requests of controllers -/

/-- There is such a sensor, or all are meant. -/
def Reaches (number : UInt8) (r : Responder κ γ) : Prop :=
  number = allSensors ∨ number.toNat < r.sensors.length

/-- A handler that reads the number of a sensor and lets the event happen there. -/
def LetsHappen (handler : Builtin) (event : SensorEvent) : Prop :=
  ∀ {κ γ : Type} (request : Request) (r : Responder κ γ) (number : UInt8),
    request.data.bytes = [number] →
      (Reaches number r → ∃ result, handler.run request r =
        (.done result, { r with sensors := happen (atSensors number event) r.sensors })) ∧
      (¬ Reaches number r → ∃ reason, handler.run request r = (.refused reason, r))

/-- Both handlers look for the sensor in the same way, so it is followed once. -/
theorem letsHappen_of {handler : Builtin} {event : SensorEvent} (all : HandlerResult)
    (one : SensorReading → HandlerResult)
    (h : ∀ {κ γ : Type} (request : Request) (r : Responder κ γ), handler.run request r =
      match request.data.bytes.head? with
      | none => (.broken .missingData, r)
      | some number =>
        if number = allSensors then
          (.done all, { r with sensors := r.sensors.map event.apply })
        else
          match r.sensors[number.toNat]? with
          | none => (.refused .dataOutOfRange, r)
          | some s =>
            (.done (one s), { r with sensors := r.sensors.set number.toNat (event.apply s) })) :
    LetsHappen handler event := by
  intro κ γ request r number hdata
  rw [h, hdata, List.head?_cons]
  dsimp only
  by_cases hall : number = allSensors
  · rw [if_pos hall, hall, happen_atSensors_all]
    exact ⟨fun _ => ⟨all, rfl⟩, fun hreaches => absurd (.inl rfl) hreaches⟩
  · rw [if_neg hall, atSensors_of_ne hall]
    cases hs : r.sensors[number.toNat]? with
    | none =>
      have hreaches : ¬ Reaches number r :=
        not_or.mpr ⟨hall, Nat.not_lt.mpr (List.getElem?_eq_none_iff.mp hs)⟩
      exact ⟨fun h => absurd h hreaches, fun _ => ⟨.dataOutOfRange, rfl⟩⟩
    | some s =>
      have hreaches : Reaches number r := .inr (List.getElem?_eq_some_iff.mp hs).1
      rw [happen_atSensor hs]
      exact ⟨fun _ => ⟨one s, rfl⟩, fun h => absurd hreaches h⟩

theorem letsHappen_resetSensor : LetsHappen .resetSensor .reset :=
  letsHappen_of (.acknowledged ⟨SensorReading.encode ⟨allSensors, 0, 0, 0, 0⟩, by decide⟩)
    (fun s => .acknowledged ⟨(resetReading s).encode, Nat.le_of_ble_eq_true rfl⟩) fun _ _ => rfl

theorem letsHappen_recordSensors : LetsHappen .recordSensors .recorded :=
  letsHappen_of (.acknowledged .empty) (fun _ => .acknowledged .empty) fun _ _ => rfl

/-- Where the number is that of no sensor, nothing happens either. -/
theorem LetsHappen.run {handler : Builtin} (h : LetsHappen handler event)
    (hdata : request.data.bytes = [number]) (r : Responder κ γ) :
    (handler.run request r).2 =
      { r with sensors := happen (atSensors number event) r.sensors } := by
  obtain ⟨hdone, hrefused⟩ := h request r number hdata
  by_cases hreaches : Reaches number r
  · obtain ⟨result, hrun⟩ := hdone hreaches
    rw [hrun]
  · obtain ⟨reason, hrun⟩ := hrefused hreaches
    have hnone : happen (atSensors number event) r.sensors = r.sensors := by
      apply happen_eq_self
      intro i hi
      refine if_neg fun h => hreaches ?_
      rcases h with hnumber | rfl
      · exact .inl hnumber
      · exact .inr hi
    rw [hrun, hnone]

theorem interpret_builtin (custom : κ → Handler κ γ ω) (handler : Builtin) (request : Request)
    (r : Responder κ γ) (w : ω) : interpret custom (.builtin handler) request r w =
      ((handler.run request r).1, (handler.run request r).2, w) :=
  rfl

/-- Applied to one device after the other, it happens once: the first time for all of them, or not
at all. -/
theorem applyEach_happen {handler : Builtin} (hhandler : LetsHappen handler event)
    (hagain : ∀ s, event.apply (event.apply s) = event.apply s)
    (hdata : request.data.bytes = [number]) (custom : κ → Handler κ γ ω) (r : Responder κ γ) (w : ω)
    {devices : List (UInt16 × Option ParameterData)} (hdevices : devices ≠ []) :
    (applyEach (interpret custom (.builtin handler)) request devices [] r w).2 =
      ({ r with sensors := happen (atSensors number event) r.sensors }, w) := by
  by_cases hreaches : Reaches number r
  · -- The handler is done on every device, and only the first time makes a difference.
    have hall : ∀ (devices applied : List (UInt16 × Option ParameterData)) (r' : Responder κ γ),
        r'.sensors.length = r.sensors.length → devices ≠ [] →
        (applyEach (interpret custom (.builtin handler)) request devices applied r' w).2 =
          ({ r' with sensors := happen (atSensors number event) r'.sensors }, w) := by
      intro devices
      induction devices with
      | nil => exact fun _ _ _ hne => absurd rfl hne
      | cons p devices ih =>
        intro applied r' hlength _
        have hreaches' : Reaches number r' := by rwa [Reaches, hlength]
        obtain ⟨result, hrun⟩ :=
          (hhandler { request with subDevice := p.1 } r' number hdata).1 hreaches'
        rw [applyEach, interpret_builtin, hrun]
        dsimp only
        by_cases hlast : devices = []
        · rw [hlast]
          rfl
        · rw [ih _ _ ((length_happen _ _).trans hlength) hlast]
          dsimp only
          rw [happen_again hagain]
    exact hall devices [] r rfl hdevices
  · obtain ⟨p, devices, rfl⟩ := List.exists_cons_of_ne_nil hdevices
    have hdata' : { request with subDevice := p.1 }.data.bytes = [number] := hdata
    obtain ⟨reason, hrun⟩ := (hhandler { request with subDevice := p.1 } r number hdata).2 hreaches
    rw [applyEach, interpret_builtin, ← hhandler.run hdata', hrun]
    rfl

/-! ### What is asked -/

/-- The event that a request to set the parameter asks for. -/
def sensorEvent? (pid : UInt16) : Option SensorEvent :=
  if pid = Pid.sensorValue then some .reset
  else if pid = Pid.recordSensors then some .recorded
  else none

/-- A request to set something on a device that is there, or on all of them. -/
def HearsSet (r : Responder κ γ) (request : Request) : Prop :=
  request.commandClass = .set ∧ request.destination.targets r.uid = true ∧
    (request.subDevice = SubDevice.every ∨ r.store.hasDevice request.subDevice = true)

instance (r : Responder κ γ) (request : Request) : Decidable (r.HearsSet request) :=
  inferInstanceAs (Decidable (_ ∧ _))

/-- What a request lets happen at each sensor. Its parameter data is one byte: the number of a
sensor, or `0xFF` for all of them. -/
def asked (r : Responder κ γ) (request : Request) : ℕ → Option SensorEvent := fun i =>
  if r.HearsSet request ∧
      (request.data.bytes = [allSensors] ∨ request.data.bytes.map UInt8.toNat = [i]) then
    sensorEvent? request.pid
  else none

theorem asked_of_hearsSet (h : r.HearsSet request) (hdata : request.data.bytes = [number])
    (hevent : sensorEvent? request.pid = some event) :
    asked r request = atSensors number event := by
  funext i
  rw [asked, atSensors, hdata, hevent]
  refine if_congr ?_ rfl rfl
  simp [h, eq_comm]

theorem happen_asked_of_not (h : ¬ (r.HearsSet request ∧ request.data.bytes.length = 1)) :
    happen (asked r request) r.sensors = r.sensors := by
  apply happen_eq_self
  intro i _
  refine if_neg fun hasked => h ⟨hasked.1, ?_⟩
  rcases hasked.2 with hall | hone
  · rw [hall]
    rfl
  · have hlength := congrArg List.length hone
    rwa [List.length_map] at hlength

/-- A responder that has the parameters of sensors, with the handlers that come with it. -/
structure HasSensors (r : Responder κ γ) : Prop where
  wellFormed : r.store.WellFormed
  value : r.store.definition? Pid.sensorValue = some sensorValueDefinition
  record : r.store.definition? Pid.recordSensors = some recordSensorsDefinition

theorem HasSensors.of_leads {s : Store (HandlerName κ) γ} {notices : List (Notice γ)}
    (h : HasSensors r) (hleads : r.store.Leads s)
    (hstore : r'.store = { s with notices := notices }) : HasSensors r' := by
  have hwell := hleads.wellFormed h.wellFormed
  have hdefinition {pid : UInt16} {d : ParameterDefinition (HandlerName κ)}
      (hd : r.store.definition? pid = some d) : r'.store.definition? pid = some d := by
    rw [hstore]
    exact hleads.grows.definition? h.wellFormed.pids_nodup hwell.pids_nodup hd
  exact ⟨hstore ▸ { hwell with }, hdefinition h.value, hdefinition h.record⟩

/-- What is stored for such a parameter has no bytes. -/
theorem eq_nil_of_get_fixed (h : r.store.WellFormed) {d : ParameterDefinition (HandlerName κ)}
    {key : Key} (hd : r.store.definition? key.pid = some d) (hsize : d.size = .fixed 0)
    {value : Bytes} (hget : r.store.get key = .ok value) : value = [] := by
  obtain ⟨hlength, -⟩ := ParameterDefinition.check_eq_ok_iff.mp (h.check_of_get hd hget)
  rw [hsize, ValueSize.accepts, beq_iff_eq] at hlength
  exact List.length_eq_zero_iff.mp hlength

theorem exists_previousValues {s : Store (HandlerName κ) γ} {pid : UInt16}
    (h : ∀ device value, s.get ⟨device, pid⟩ = .ok value → value = []) (devices : List UInt16) :
    ∃ captured, previousValues? s pid devices = some captured := by
  induction devices with
  | nil => exact ⟨[], rfl⟩
  | cons device devices ih =>
    obtain ⟨captured, hcaptured⟩ := ih
    rw [previousValues?, hcaptured]
    cases hget : s.get ⟨device, pid⟩ with
    | error e => exact ⟨_, rfl⟩
    | ok value =>
      obtain rfl := h device value hget
      exact ⟨_, rfl⟩

/-- A request to set a parameter of sensors lets happen what it asks for. -/
theorem dispatch_happen (h : r.store.WellFormed) {d : ParameterDefinition (HandlerName κ)}
    (hd : r.store.definition? request.pid = some d) (hsize : d.size = .fixed 0)
    (hformat : d.setFormat.request = "b$") {handler : Builtin}
    (hset : d.handlers.forCommand? .set = some (.builtin handler))
    (hhandler : LetsHappen handler event)
    (hagain : ∀ s, event.apply (event.apply s) = event.apply s)
    (hevent : sensorEvent? request.pid = some event) (hclass : request.commandClass = .set)
    (htargets : request.destination.targets r.uid = true) (custom : κ → Handler κ γ ω) (w : ω) :
    (dispatch custom d request r w).2 =
      ({ r with sensors := happen (asked r request) r.sensors }, w) := by
  rw [dispatch, hclass, hset]
  dsimp only [ParameterDefinition.format?]
  cases hrefusal : refusal? d.setFormat request.data.bytes with
  | some reason =>
    have hlength : request.data.bytes.length ≠ 1 := by
      intro hlength
      rw [refusal?_eq_none_iff.mpr (hformat ▸ Format.describes_byte_iff.mpr hlength)] at hrefusal
      cases hrefusal
    rw [happen_asked_of_not fun hasked => hlength hasked.2]
  | none =>
    have hdescribes := refusal?_eq_none_iff.mp hrefusal
    rw [hformat, Format.describes_byte_iff, List.length_eq_one_iff] at hdescribes
    obtain ⟨number, hdata⟩ := hdescribes
    dsimp only
    by_cases hevery : request.subDevice = SubDevice.every
    · have hvalues : ∀ device value, r.store.get ⟨device, request.pid⟩ = .ok value → value = [] :=
        fun device value => eq_nil_of_get_fixed h hd hsize
      obtain ⟨captured, hcaptured⟩ := exists_previousValues hvalues (holders r.store request.pid)
      have hne : captured ≠ [] := by
        rintro rfl
        exact holders_ne_nil _ _ (captured_of_previousValues? _ hcaptured).1.symm
      rw [if_pos hevery, applyToAll_set hclass, hcaptured, Option.elim_some,
        applyEach_happen hhandler hagain hdata custom r w hne,
        asked_of_hearsSet ⟨hclass, htargets, .inl hevery⟩ hdata hevent]
    · rw [if_neg hevery, applyToOne]
      by_cases hdevice : r.store.hasDevice request.subDevice = true
      · rw [if_pos hdevice, interpret_builtin, hhandler.run hdata,
          asked_of_hearsSet ⟨hclass, htargets, .inr hdevice⟩ hdata hevent]
      · rw [if_neg hdevice, happen_asked_of_not]
        rintro ⟨⟨-, -, hthere⟩, -⟩
        exact hthere.elim hevery hdevice

/-- To read a sensor changes nothing, and no other command is answered. -/
theorem dispatch_idle {d : ParameterDefinition (HandlerName κ)}
    (hclass : request.commandClass ≠ .set)
    (hget : ∀ c name, c ≠ .set → d.handlers.forCommand? c = some name →
      name = .builtin .getSensor ∧ c = .get)
    (custom : κ → Handler κ γ ω) (r : Responder κ γ) (w : ω) :
    (dispatch custom d request r w).2 = (r, w) := by
  rw [dispatch]
  cases hname : d.handlers.forCommand? request.commandClass with
  | none => rfl
  | some name =>
    obtain ⟨rfl, hcommand⟩ := hget _ name hclass hname
    rw [hcommand]
    dsimp only [ParameterDefinition.format?]
    cases refusal? d.getFormat request.data.bytes with
    | some reason => rfl
    | none =>
      dsimp only
      split_ifs
      · rw [applyToAll, if_pos hclass]
      · rw [applyToOne]
        split_ifs
        · rfl
        · rfl

/-- A request for a parameter of sensors lets happen what it asks for, and nothing else. -/
theorem handle_sensors (h : HasSensors r)
    (hpid : request.pid = Pid.sensorValue ∨ request.pid = Pid.recordSensors)
    (custom : κ → Handler κ γ ω) (fallback : Fallback κ γ ω ε) (w : ω) :
    (handle custom fallback request r w).2 =
      ({ r with sensors := happen (asked r request) r.sensors }, w) := by
  cases hignores : r.ignores request with
  | true =>
    have hdeaf : ¬ r.HearsSet request := by
      rintro ⟨hclass, htargets, -⟩
      rw [ignores, htargets, hclass] at hignores
      cases hignores
    rw [handle, if_pos hignores, happen_asked_of_not fun hasked => hdeaf hasked.1]
  | false =>
    have htargets : request.destination.targets r.uid = true := by
      rw [ignores, Bool.or_eq_false_iff, Bool.not_eq_false'] at hignores
      exact hignores.1
    by_cases hclass : request.commandClass = .set
    · rcases hpid with hpid | hpid
      · have hd : r.store.definition? request.pid = some sensorValueDefinition := hpid ▸ h.value
        rw [handle_of_dispatch hignores hd rfl]
        exact dispatch_happen h.wellFormed hd rfl rfl rfl letsHappen_resetSensor (fun _ => rfl)
          (by rw [hpid]; rfl) hclass htargets custom w
      · have hd : r.store.definition? request.pid = some recordSensorsDefinition := hpid ▸ h.record
        rw [handle_of_dispatch hignores hd rfl]
        exact dispatch_happen h.wellFormed hd rfl rfl rfl letsHappen_recordSensors (fun _ => rfl)
          (by rw [hpid]; rfl) hclass htargets custom w
    · rw [happen_asked_of_not fun hasked => hclass hasked.1.1]
      rcases hpid with hpid | hpid
      · have hd : r.store.definition? request.pid = some sensorValueDefinition := hpid ▸ h.value
        rw [handle_of_dispatch hignores hd rfl]
        refine dispatch_idle hclass (fun c name hc hname => ?_) custom r w
        cases c with
        | discovery => cases hname
        | get =>
          cases hname
          exact ⟨rfl, rfl⟩
        | set => exact absurd rfl hc
      · have hd : r.store.definition? request.pid = some recordSensorsDefinition := hpid ▸ h.record
        rw [handle_of_dispatch hignores hd rfl]
        refine dispatch_idle hclass (fun c name hc hname => ?_) custom r w
        cases c with
        | discovery | get => cases hname
        | set => exact absurd rfl hc

/-! ## Registration -/

theorem pid_of_definition? {s : Store (HandlerName κ) γ} (hs : s.WellFormed)
    {d : ParameterDefinition (HandlerName κ)} {pid : UInt16} (hd : s.definition? pid = some d) :
    d.pid = pid := by
  obtain ⟨-, -, hpid⟩ := (Store.definition?_eq_some_iff hs.pids_nodup).mp hd
  exact hpid

/-- A parameter that was not defined otherwise has the definition that is accepted. -/
theorem definition?_of_define {s s' : Store (HandlerName κ) γ} (hs : s.WellFormed)
    {d : ParameterDefinition (HandlerName κ)}
    (hknown : ∀ old, s.definition? d.pid = some old → old = d) (h : s.define d = .ok s') :
    s'.WellFormed ∧ s'.definition? d.pid = some d := by
  have hs' := wellFormed_of_accept Simulation.MemoryStorage.keyValue (.define d) hs h
  refine ⟨hs', ?_⟩
  cases hold : s.definition? d.pid with
  | some old =>
    rcases Store.define_eq_ok (accept_eq_ok h) with rfl | ⟨hnew, -, -⟩
    · rw [hold, hknown old hold]
    · rw [Store.definition?_eq_none_iff.mpr hnew] at hold
      cases hold
  | none =>
    have hdefinitions := definitions_of_define (Store.definition?_eq_none_iff.mp hold) h
    refine (Store.definition?_eq_some_iff hs'.pids_nodup).mpr ⟨s.definitions.length, ?_, rfl⟩
    rw [Store.definitionAt?, hdefinitions, List.getElem?_concat_length]
    rfl

/-- What is defined was so before, or is what was defined now. -/
theorem definition?_before_define {s s' : Store (HandlerName κ) γ} (hs : s.WellFormed)
    {d old : ParameterDefinition (HandlerName κ)} {pid : UInt16} (h : s.define d = .ok s')
    (hold : s'.definition? pid = some old) : s.definition? pid = some old ∨ old = d := by
  have hs' := wellFormed_of_accept Simulation.MemoryStorage.keyValue (.define d) hs h
  rcases Store.define_eq_ok (accept_eq_ok h) with rfl | ⟨-, -, happended⟩
  · exact .inl hold
  · obtain ⟨n, hn, hpid⟩ := (Store.definition?_eq_some_iff hs'.pids_nodup).mp hold
    rw [Store.definitionAt?, happended, Option.map_eq_some_iff] at hn
    obtain ⟨slot, hslot, rfl⟩ := hn
    by_cases hlt : n < s.definitions.length
    · rw [List.getElem?_append_left hlt] at hslot
      refine .inl ((Store.definition?_eq_some_iff hs.pids_nodup).mpr ⟨n, ?_, hpid⟩)
      rw [Store.definitionAt?, hslot, Option.map_some]
    · rw [List.getElem?_append_right (Nat.le_of_not_lt hlt)] at hslot
      right
      rw [List.mem_singleton.mp (List.mem_of_getElem? hslot)]

/-- If a device has not defined the parameters of sensors itself, they are defined as they come with
it. -/
theorem hasSensors_of_registerSensors (h : Serving r) (hvalue : r.Standard Pid.sensorValue)
    (hrecord : r.Standard Pid.recordSensors)
    (hregister : r.registerSensors count = (.ok (), r')) :
    HasSensors r' ∧ r'.sensors = (List.range count.toNat).map newSensor := by
  have hstore := h.builtins.1
  have hpids : Pid.sensorValue ≠ Pid.recordSensors := by decide
  have hknown : ∀ old, r.store.definition? Pid.sensorValue = some old →
      old = sensorValueDefinition := by
    intro old hold
    refine (hvalue.resolve_left (by decide) old hold).resolve_right fun hother => ?_
    have hpid := pid_of_definition? hstore hold
    rw [hother] at hpid
    exact hpids hpid.symm
  unfold registerSensors at hregister
  split_ifs at hregister with hmany
  · cases hregister
  · split at hregister
    · cases hregister
    next s hs =>
      dsimp only at hregister
      split at hregister
      · cases hregister
      next s' hs' =>
        cases hregister
        obtain ⟨hwell, hvalue'⟩ := definition?_of_define hstore hknown hs
        have hknown' : ∀ old, s.definition? Pid.recordSensors = some old →
            old = recordSensorsDefinition := by
          intro old hold
          have hother : old ≠ sensorValueDefinition := by
            rintro rfl
            exact hpids (pid_of_definition? hwell hold)
          have hbefore := (definition?_before_define hstore hs hold).resolve_right hother
          exact (hrecord.resolve_left (by decide) old hbefore).resolve_left hother
        obtain ⟨hwell', hrecord'⟩ := definition?_of_define hwell hknown' hs'
        have hleads : s.Leads s' := leads_of_accept Simulation.MemoryStorage.keyValue
          (.define recordSensorsDefinition) .refl hs'
        exact ⟨⟨hwell', hleads.grows.definition? hwell.pids_nodup hwell'.pids_nodup hvalue',
          hrecord'⟩, rfl⟩

/-! ## Whole histories -/

/-- The histories of all sensors after events at some of them. -/
def logged (events : ℕ → Option SensorEvent) (log : ℕ → List SensorEvent) : ℕ → List SensorEvent :=
  fun i => (events i).toList ++ log i

/-- A device with sensors, and what happened to each of them since it registered them. It measures,
records and resets, and is asked to, in any order. A definition of its own would have kept its own
handlers, so it has made none of these parameters. -/
inductive Sensing (count : UInt8) : (ℕ → List SensorEvent) → Responder κ γ → Prop where
  | register {r r' : Responder κ γ} : Serving r → r.Standard Pid.sensorValue →
    r.Standard Pid.recordSensors → r.registerSensors count = (.ok (), r') →
      Sensing count (fun _ => []) r'
  | set (number : UInt8) (value : Int16) {log : ℕ → List SensorEvent} {r : Responder κ γ} :
    Sensing count log r → Sensing count (logged (atSensor number (.measured value)) log)
      (after (r.sensorSet number value) r)
  | record (number : UInt8) {log : ℕ → List SensorEvent} {r : Responder κ γ} :
    Sensing count log r → Sensing count (logged (atSensor number .recorded) log)
      (after (r.sensorRecord number) r)
  | reset (number : UInt8) {log : ℕ → List SensorEvent} {r : Responder κ γ} :
    Sensing count log r → Sensing count (logged (atSensor number .reset) log)
      (after (r.sensorReset number) r)
  | request {ω ε : Type} {custom : κ → Handler κ γ ω} {fallback : Fallback κ γ ω ε}
      (request : Request) (w : ω) {log : ℕ → List SensorEvent} {r : Responder κ γ} :
    Sensing count log r → request.pid = Pid.sensorValue ∨ request.pid = Pid.recordSensors →
      Sensing count (logged (asked r request) log) (handle custom fallback request r w).2.1
  /-- Whatever else happens leaves the sensors alone. -/
  | other {s : Store (HandlerName κ) γ} {notices : List (Notice γ)} {log : ℕ → List SensorEvent}
      {r r' : Responder κ γ} : Sensing count log r → r.store.Leads s →
    r'.store = { s with notices := notices } → r'.sensors = r.sensors → Sensing count log r'

/-- As many sensors as were registered, and each is what its history says. -/
structure Explained (count : UInt8) (log : ℕ → List SensorEvent) (sensors : List SensorReading) :
    Prop where
  length : sensors.length = count.toNat
  each : ∀ i s, sensors[i]? = some s → s.number.toNat = i ∧ Explains (log i) s

theorem explained_newSensors (count : UInt8) :
    Explained count (fun _ => []) ((List.range count.toNat).map newSensor) := by
  refine ⟨by rw [List.length_map, List.length_range], fun i s hs => ?_⟩
  rw [List.getElem?_map, Option.map_eq_some_iff] at hs
  obtain ⟨j, hj, rfl⟩ := hs
  obtain ⟨hlt, rfl⟩ := List.getElem?_eq_some_iff.mp hj
  rw [List.length_range] at hlt
  have hcount := count.toNat_lt
  refine ⟨?_, explains_newSensor _⟩
  rw [List.getElem_range, newSensor, UInt8.toNat_ofNat']
  omega

theorem Explained.happen {log : ℕ → List SensorEvent} (h : Explained count log sensors)
    (events : ℕ → Option SensorEvent) :
    Explained count (logged events log) (happen events sensors) := by
  refine ⟨(length_happen events sensors).trans h.length, fun i s hs => ?_⟩
  rw [getElem?_happen, Option.map_eq_some_iff] at hs
  obtain ⟨before, hbefore, rfl⟩ := hs
  obtain ⟨hnumber, hexplains⟩ := h.each i before hbefore
  rw [logged]
  cases events i with
  | none => exact ⟨hnumber, hexplains⟩
  | some event => exact ⟨(congrArg UInt8.toNat (number_apply event before)).trans hnumber,
      hexplains.apply event⟩

theorem HasSensors.happen (h : HasSensors r) (events : ℕ → Option SensorEvent) :
    HasSensors { r with sensors := happen events r.sensors } :=
  ⟨h.wellFormed, h.value, h.record⟩

theorem Sensing.explained {log : ℕ → List SensorEvent} (h : Sensing count log r) :
    HasSensors r ∧ Explained count log r.sensors := by
  induction h with
  | register h hvalue hrecord hregister =>
    obtain ⟨hparameters, hsensors⟩ := hasSensors_of_registerSensors h hvalue hrecord hregister
    rw [hsensors]
    exact ⟨hparameters, explained_newSensors count⟩
  | set number value _ ih =>
    rw [after_sensorSet]
    exact ⟨ih.1.happen _, ih.2.happen _⟩
  | record number _ ih =>
    rw [after_sensorRecord]
    exact ⟨ih.1.happen _, ih.2.happen _⟩
  | reset number _ ih =>
    rw [after_sensorReset]
    exact ⟨ih.1.happen _, ih.2.happen _⟩
  | request request w _ hpid ih =>
    rw [handle_sensors ih.1 hpid]
    exact ⟨ih.1.happen _, ih.2.happen _⟩
  | other _ hleads hstore hsensors ih =>
    rw [hsensors]
    exact ⟨ih.1.of_leads hleads hstore, ih.2⟩

/-- An event at one sensor is none at the others. -/
theorem getElem?_happen_atSensor {i : ℕ} (hi : i ≠ number.toNat) (event : SensorEvent)
    (sensors : List SensorReading) :
    (happen (atSensor number event) sensors)[i]? = sensors[i]? := by
  rw [getElem?_happen, atSensor, if_neg hi]
  exact Option.map_id_apply

/-- A request for one sensor asks for nothing at the others. -/
theorem getElem?_happen_asked {i : ℕ} (hdata : request.data.bytes = [number])
    (hone : number ≠ allSensors) (hi : i ≠ number.toNat) :
    (happen (asked r request) r.sensors)[i]? = r.sensors[i]? := by
  have hnone : asked r request i = none := by
    refine if_neg fun hasked => ?_
    rw [hdata] at hasked
    rcases hasked.2 with hall | hnumber
    · exact hone (List.singleton_inj.mp hall)
    · exact hi (List.singleton_inj.mp hnumber).symm
  rw [getElem?_happen, hnone]
  exact Option.map_id_apply

/-- **Readings of sensors.** After any history there are as many sensors as were registered, and
each has its own number and reads what its own history says: the present value; the lowest and the
highest of the values since the registration or the last reset, and the value that was recorded
last, so that both the present and the recorded value are between them. What is done at one sensor,
by the device or for a controller, changes no other. -/
theorem readings_of_sensing {log : ℕ → List SensorEvent} (h : Sensing count log r) :
    r.sensors.length = count.toNat ∧
    (∀ i < count.toNat, ∃ s, r.sensors[i]? = some s ∧ s.number.toNat = i ∧
      s.present = present (log i) ∧ IsLowest (span (log i)) s.lowest ∧
      IsHighest (span (log i)) s.highest ∧ s.recorded = lastRecorded (log i) ∧
      (s.lowest ≤ s.present ∧ s.present ≤ s.highest) ∧
        s.lowest ≤ s.recorded ∧ s.recorded ≤ s.highest) ∧
    (∀ number value i, i ≠ number.toNat →
      (after (r.sensorSet number value) r).sensors[i]? = r.sensors[i]? ∧
      (after (r.sensorRecord number) r).sensors[i]? = r.sensors[i]? ∧
      (after (r.sensorReset number) r).sensors[i]? = r.sensors[i]?) ∧
    ∀ {ω ε : Type} (custom : κ → Handler κ γ ω) (fallback : Fallback κ γ ω ε) (request : Request)
      (w : ω) (number : UInt8) (i : ℕ),
      request.pid = Pid.sensorValue ∨ request.pid = Pid.recordSensors →
      request.data.bytes = [number] → number ≠ allSensors → i ≠ number.toNat →
        (handle custom fallback request r w).2.1.sensors[i]? = r.sensors[i]? := by
  obtain ⟨hparameters, hlength, heach⟩ := h.explained
  refine ⟨hlength, ?_, ?_, ?_⟩
  · intro i hi
    have hs := List.getElem?_eq_getElem (l := r.sensors) (hlength ▸ hi)
    obtain ⟨hnumber, hexplains⟩ := heach i _ hs
    exact ⟨_, hs, hnumber, hexplains.present, hexplains.lowest, hexplains.highest,
      hexplains.recorded, hexplains.between⟩
  · intro number value i hi
    rw [after_sensorSet, after_sensorRecord, after_sensorReset]
    exact ⟨getElem?_happen_atSensor hi _ _, getElem?_happen_atSensor hi _ _,
      getElem?_happen_atSensor hi _ _⟩
  · intro ω ε custom fallback request w number i hpid hdata hone hi
    rw [handle_sensors hparameters hpid]
    exact getElem?_happen_asked hdata hone hi

/-! ## A device with two sensors -/

/-- All sensors are to record. -/
def recordAllSensors : Request :=
  { exampleSetAll with
    pid := Pid.recordSensors
    data := .ofBytes [0xFF] }

/-- The second sensor is to be reset. -/
def resetSecondSensor : Request :=
  { exampleSetAll with
    destination := .device exampleConfig.uid
    subDevice := SubDevice.root
    pid := Pid.sensorValue
    data := .ofBytes [1] }

/-- The device has registered two sensors, and each of them has measured. -/
def measuringDevice : Responder Empty Empty :=
  let registered := ((exampleDevice []).registerSensors 2).2
  let first := after (registered.sensorSet 0 (-5)) registered
  after (first.sensorSet 1 3) first

/-- Then both sensors record. -/
def recordedDevice : Responder Empty Empty :=
  (handle Empty.elim (noFallback : Fallback Empty Empty Unit Empty) recordAllSensors
    measuringDevice ()).2.1

/-- Then the second sensor is reset, and the first one measures again. -/
def resetDevice : Responder Empty Empty :=
  let reset := (handle Empty.elim (noFallback : Fallback Empty Empty Unit Empty) resetSecondSensor
    recordedDevice ()).2.1
  after (reset.sensorSet 0 7) reset

theorem resetDevice_sensing : ∃ log, Sensing 2 log resetDevice ∧
    log 0 = [.measured 7, .recorded, .measured (-5)] ∧
    log 1 = [.reset, .recorded, .measured 3] := by
  have hnone {pid : UInt16} (hpid : (exampleDevice []).store.definition? pid = none) :
      (exampleDevice []).Standard pid := by
    refine .inr fun d hd => ?_
    rw [hpid] at hd
    cases hd
  have hregistered : Sensing 2 (fun _ => []) ((exampleDevice []).registerSensors 2).2 :=
    .register (exampleDevice_running []).serving (hnone (by cbv)) (hnone (by cbv))
      (Prod.ext (by decide +kernel) rfl)
  have hmeasured : Sensing 2 _ measuringDevice := (hregistered.set 0 (-5)).set 1 3
  have hrecorded : Sensing 2 _ recordedDevice := hmeasured.request recordAllSensors () (.inr rfl)
  have hreset : Sensing 2 _ (handle Empty.elim (noFallback : Fallback Empty Empty Unit Empty)
      resetSecondSensor recordedDevice ()).2.1 :=
    hrecorded.request resetSecondSensor () (.inl rfl)
  have hall : asked measuringDevice recordAllSensors = atSensors 0xFF .recorded :=
    asked_of_hearsSet ⟨rfl, rfl, .inl rfl⟩ rfl rfl
  have hone : asked recordedDevice resetSecondSensor = atSensors 1 .reset :=
    asked_of_hearsSet ⟨rfl, by decide +kernel, .inr (by decide +kernel)⟩ rfl rfl
  rw [hall, hone] at hreset
  exact ⟨_, hreset.set 0 7, rfl, rfl⟩

/-- The first sensor was at -5 when it recorded, and its lowest value is that one. The second was
at 3 when it was reset, so that all its values are 3. -/
theorem readings_of_sensing_resetDevice : ∃ log, Sensing 2 log resetDevice ∧
    log 0 = [.measured 7, .recorded, .measured (-5)] ∧ log 1 = [.reset, .recorded, .measured 3] ∧
    resetDevice.sensors.length = 2 ∧
    (∃ s : SensorReading, resetDevice.sensors[0]? = some s ∧ s.present = 7 ∧
      IsLowest [7, -5, 0] s.lowest ∧ IsHighest [7, -5, 0] s.highest ∧ s.recorded = -5) ∧
    ∃ s : SensorReading, resetDevice.sensors[1]? = some s ∧ s.present = 3 ∧ s.lowest = 3 ∧
      s.highest = 3 ∧ s.recorded = 3 := by
  obtain ⟨log, hsensing, hfirst, hsecond⟩ := resetDevice_sensing
  obtain ⟨hlength, heach, -, -⟩ := readings_of_sensing hsensing
  obtain ⟨s, hs, -, hpresent, hlowest, hhighest, hrecorded, -⟩ := heach 0 (by decide)
  obtain ⟨t, ht, -, hpresent', hlowest', hhighest', hrecorded', -⟩ := heach 1 (by decide)
  rw [hfirst] at hpresent hlowest hhighest hrecorded
  rw [hsecond] at hpresent' hlowest' hhighest' hrecorded'
  exact ⟨log, hsensing, hfirst, hsecond, hlength, ⟨s, hs, hpresent, hlowest, hhighest, hrecorded⟩,
    t, ht, hpresent', List.mem_singleton.mp hlowest'.1, List.mem_singleton.mp hhighest'.1,
    hrecorded'⟩

end Responder

end LightingBus
