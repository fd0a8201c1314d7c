import LightingBus.Responder.Basic

/-!
# Built-in handlers

Handlers that only read are functions of the responder and leave it alone by their type; the others
return the responder as well.
-/

namespace LightingBus

namespace Responder

/-- Acknowledges with data that has to fit into one packet. -/
def acknowledge (bytes : Bytes) : Verdict :=
  match ParameterData.ofBytes? bytes with
  | none => .refused .hardwareFault
  | some data => .done (.acknowledged data)

/-- The request is carried out and there is nothing to tell. -/
def acknowledgeEmpty : Verdict :=
  .done (.acknowledged .empty)

/-- The key that a request is about. -/
def requestKey (request : Request) : Key :=
  ⟨request.subDevice, request.pid⟩

/-! ## Stored values -/

/-- The stored value of the parameter. -/
def simpleGet (request : Request) (r : Responder κ γ) : Verdict :=
  match r.store.get (requestKey request) with
  | .error e => .refused e.nackReason
  | .ok value => acknowledge value

/-- Stores a value and queues the change. -/
def storeValue (key : Key) (value : Bytes) (r : Responder κ γ) : Verdict × Responder κ γ :=
  match Store.Change.setAndQueue key value r.store with
  | (.error e, store) => (.refused e.nackReason, { r with store := store })
  | (.ok (), store) => (acknowledgeEmpty, { r with store := store })

/-- Stores the parameter data and queues the change. -/
def simpleSet (request : Request) (r : Responder κ γ) : Verdict × Responder κ γ :=
  storeValue (requestKey request) request.data.bytes r

/-! ## Discovery -/

/-- A device that is not muted answers if its identifier lies between the two in the data. -/
def discUniqueBranch (request : Request) (r : Responder κ γ) : Verdict :=
  let bytes := request.data.bytes
  match Address.ofBytes? (bytes.take 6), Address.ofBytes? (bytes.drop 6) with
  | some lower, some upper =>
    if ¬ r.muted ∧ lower.toNat ≤ r.uid.toNat ∧ r.uid.toNat ≤ upper.toNat then .done .discovery
    else .done .silent
  | _, _ => .done .silent

/-- What the device says about itself when it is muted or un-muted. -/
def muteReply (r : Responder κ γ) : MuteReply where
  managedProxy := false
  subDevice := 0 < r.store.subDeviceCount
  bootLoader := false
  proxyDevice := false
  binding := none

/-- Mutes or un-mutes; a request with parameter data is not answered. -/
def setMuted (muted : Bool) (request : Request) (r : Responder κ γ) :
    Verdict × Responder κ γ :=
  if request.data.bytes.isEmpty then
    (acknowledge r.muteReply.encode, { r with muted := muted })
  else (.done .silent, r)

/-! ## Device information -/

/-- Parameters that every device has and that are therefore not listed. -/
def requiredPids : List UInt16 :=
  [Pid.discUniqueBranch, Pid.discMute, Pid.discUnMute, Pid.supportedParameters, Pid.deviceInfo,
    Pid.softwareVersionLabel, Pid.dmxStartAddress, Pid.identifyDevice]

/-- Lists the defined parameters, as many as fit into one packet. -/
def supportedParameters (r : Responder κ γ) : Verdict :=
  let pids := r.store.pids.filter fun pid => !requiredPids.contains pid
  acknowledge ((pids.take maxSupportedParameters).flatMap Bytes.ofWord)

/-- The summary the device gives of itself. -/
def info (r : Responder κ γ) : DeviceInfo where
  model := r.config.model
  category := r.config.category
  softwareVersion := r.config.version
  footprint := r.footprint
  personality := r.personality
  startAddress := r.startAddress
  subDeviceCount := r.store.subDeviceCount
  sensorCount := UInt8.ofNat r.sensors.length

/-- The first 32 bytes of the version label. -/
def softwareVersionLabel (r : Responder κ γ) : Verdict :=
  acknowledge ((Text.toBytes r.config.versionLabel).take Label.maxLength)

/-- The stored start address, unless the device uses no slots. -/
def getStartAddress (request : Request) (r : Responder κ γ) : Verdict :=
  if r.footprint = 0 then acknowledge StartAddress.unused.encode else simpleGet request r

/-! ## Personalities -/

/-- Goes on with the first byte of the parameter data. -/
def withFirstByte (request : Request) (next : UInt8 → Verdict) : Verdict :=
  match request.data.bytes.head? with
  | none => .broken .missingData
  | some byte => next byte

/-- Chooses a personality of the device itself. -/
def setPersonality (request : Request) (r : Responder κ γ) : Verdict × Responder κ γ :=
  if request.subDevice ≠ SubDevice.root then (.refused .subDeviceOutOfRange, r)
  else
    match request.data.bytes.head? with
    | none => (.broken .missingData, r)
    | some number =>
      match r.setting? number with
      | none => (.refused .dataOutOfRange, r)
      | some _ =>
        storeValue (rootKey Pid.dmxPersonality) (Personality.encode ⟨number, r.personalityCount⟩) r

/-- Describes a personality with as many characters as a label takes. -/
def getPersonalityDescription (request : Request) (r : Responder κ γ) : Verdict :=
  if request.subDevice ≠ SubDevice.root then .refused .dataOutOfRange
  else
    withFirstByte request fun number =>
      match r.setting? number with
      | none => .refused .dataOutOfRange
      | some setting =>
        acknowledge (PersonalityDescription.encode
          ⟨number, setting.footprint, Label.empty.fill setting.description.toList⟩)

/-! ## Messages -/

/-- Severities by which reports are filtered. -/
def isSeverity (type : StatusType) : Bool :=
  type = .advisory || type = .warning || type = .error

/-- Takes the messages of at least the severity `filter` out of a list, as many as fit behind the
data, and leaves the others in their order. -/
def takeStatuses (filter : UInt8) : List StatusMessage → ParameterData →
    ParameterData × List StatusMessage
  | [], data => (data, [])
  | m :: rest, data =>
    if m.type.severity < filter then
      let (data, kept) := takeStatuses filter rest data
      (data, m :: kept)
    else
      match data.append? m.encode with
      | none => (data, m :: rest)
      | some data => takeStatuses filter rest data

/-- Reports status messages and remembers the report. -/
def popStatuses (type : StatusType) (r : Responder κ γ) : ParameterData × Responder κ γ :=
  let (data, kept) := takeStatuses type.code r.statuses .empty
  (data, { r with statuses := kept, lastStatuses := data })

/-- Finds the oldest changed key that has a value; the keys up to it are used up. -/
def takeChanged (store : Store (HandlerName κ) γ) : List Key → Option (Key × Bytes) × List Key
  | [] => (none, [])
  | key :: rest =>
    match store.get key with
    | .error _ => takeChanged store rest
    | .ok value => (some (key, value), rest)

/-- The answer to a request for queued messages. -/
def queuedResponse (request : Request) (key : Key) (data : ParameterData) (r : Responder κ γ) :
    Response where
  destination := .device request.source
  source := r.uid
  transaction := request.transaction
  type := .ack
  messageCount := r.messageCount
  subDevice := key.subDevice
  commandClass := .get
  pid := key.pid
  data := data

/-- Sends an answer and remembers it. -/
def reportQueued (response : Response) (r : Responder κ γ) : Verdict × Responder κ γ :=
  (.done (.custom response), { r with lastQueued := some response })

/-- Reports the oldest change, or the status messages if nothing has changed. -/
def popQueued (type : StatusType) (request : Request) (r : Responder κ γ) :
    Verdict × Responder κ γ :=
  match takeChanged r.store r.store.changed with
  | (some (key, value), rest) =>
    let r := { r with store := { r.store with changed := rest } }
    match ParameterData.ofBytes? value with
    | none => (.refused .hardwareFault, r)
    | some data => reportQueued (queuedResponse request key data r) r
  | (none, rest) =>
    let r := { r with store := { r.store with changed := rest } }
    let (data, r) := popStatuses type r
    reportQueued (queuedResponse request (rootKey Pid.statusMessages) data r) r

/-- Repeats the last answer under the present transaction. -/
def repeatQueued (request : Request) (r : Responder κ γ) : Verdict × Responder κ γ :=
  match r.lastQueued with
  | none => (acknowledgeEmpty, r)
  | some response =>
    reportQueued { response with
      messageCount := r.messageCount
      transaction := request.transaction } r

/-- Answers a request for queued messages. -/
def queuedMessage (request : Request) (r : Responder κ γ) : Verdict × Responder κ γ :=
  match StatusType.decode? request.data.bytes with
  | none => (.refused .dataOutOfRange, r)
  | some type =>
    if type = .getLastMessage then repeatQueued request r
    else if isSeverity type then popQueued type request r
    else (.refused .dataOutOfRange, r)

/-- Answers a request for status messages. -/
def statusMessages (request : Request) (r : Responder κ γ) : Verdict × Responder κ γ :=
  match StatusType.decode? request.data.bytes with
  | none => (.refused .dataOutOfRange, r)
  | some type =>
    if type = .none then (acknowledgeEmpty, r)
    else if type = .getLastMessage then (.done (.acknowledged r.lastStatuses), r)
    else if isSeverity type then
      let (data, r) := popStatuses type r
      (.done (.acknowledged data), r)
    else (.refused .dataOutOfRange, r)

/-! ## Sensors -/

/-- Addresses all sensors at once. -/
def allSensors : UInt8 := 0xFF

/-- Takes the present value for the lowest, the highest and the recorded one. -/
def resetReading (s : SensorReading) : SensorReading :=
  { s with lowest := s.present, highest := s.present, recorded := s.present }

/-- Records the present value. -/
def recordReading (s : SensorReading) : SensorReading :=
  { s with recorded := s.present }

/-- What a sensor measures. -/
def getSensor (request : Request) (r : Responder κ γ) : Verdict :=
  withFirstByte request fun number =>
    match r.sensors[number.toNat]? with
    | none => .refused .dataOutOfRange
    | some s => acknowledge s.encode

/-- Resets one sensor or all. -/
def resetSensor (request : Request) (r : Responder κ γ) : Verdict × Responder κ γ :=
  match request.data.bytes.head? with
  | none => (.broken .missingData, r)
  | some number =>
    if number = allSensors then
      (acknowledge (SensorReading.encode ⟨allSensors, 0, 0, 0, 0⟩),
        { r with sensors := r.sensors.map resetReading })
    else
      match r.sensors[number.toNat]? with
      | none => (.refused .dataOutOfRange, r)
      | some s =>
        let s := resetReading s
        (acknowledge s.encode, { r with sensors := r.sensors.set number.toNat s })

/-- Records the present value of one sensor or of all. -/
def recordSensors (request : Request) (r : Responder κ γ) : Verdict × Responder κ γ :=
  match request.data.bytes.head? with
  | none => (.broken .missingData, r)
  | some number =>
    if number = allSensors then
      (acknowledgeEmpty, { r with sensors := r.sensors.map recordReading })
    else
      match r.sensors[number.toNat]? with
      | none => (.refused .dataOutOfRange, r)
      | some s =>
        (acknowledgeEmpty, { r with sensors := r.sensors.set number.toNat (recordReading s) })

end Responder

/-- What a built-in handler does. -/
def Builtin.run (handler : Builtin) (request : Request) (r : Responder κ γ) :
    Verdict × Responder κ γ :=
  match handler with
  | .simpleGet => (Responder.simpleGet request r, r)
  | .simpleSet => Responder.simpleSet request r
  | .discUniqueBranch => (Responder.discUniqueBranch request r, r)
  | .discMute => Responder.setMuted true request r
  | .discUnMute => Responder.setMuted false request r
  | .supportedParameters => (Responder.supportedParameters r, r)
  | .deviceInfo => (Responder.acknowledge r.info.encode, r)
  | .softwareVersionLabel => (Responder.softwareVersionLabel r, r)
  | .getStartAddress => (Responder.getStartAddress request r, r)
  | .setPersonality => Responder.setPersonality request r
  | .getPersonalityDescription => (Responder.getPersonalityDescription request r, r)
  | .queuedMessage => Responder.queuedMessage request r
  | .statusMessages => Responder.statusMessages request r
  | .getSensor => (Responder.getSensor request r, r)
  | .resetSensor => Responder.resetSensor request r
  | .recordSensors => Responder.recordSensors request r

end LightingBus
