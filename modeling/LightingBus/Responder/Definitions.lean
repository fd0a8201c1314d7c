import LightingBus.Responder.Handlers

/-!
# Built-in parameters

The parameters every responder defines, those of its sensors, and how a responder is set up.
-/

namespace LightingBus

namespace Responder

/-- A parameter answered by a built-in handler. -/
def discoveryParameter (pid : UInt16) (handler : Builtin) :
    ParameterDefinition (HandlerName κ) :=
  { pid := pid, handlers := .discovery (.builtin handler) }

/-- A parameter that can only be read. -/
def readParameter (pid : UInt16) (handler : Builtin) (format : CommandFormat) :
    ParameterDefinition (HandlerName κ) :=
  { pid := pid, handlers := .get (.builtin handler), getFormat := format }

/-- A parameter that can be read and written. -/
def readWriteParameter (pid : UInt16) (reader writer : Builtin)
    (getFormat setFormat : CommandFormat) : ParameterDefinition (HandlerName κ) :=
  { pid := pid
    handlers := .getSet (.builtin reader) (.builtin writer)
    getFormat := getFormat
    setFormat := setFormat }

/-- Whether the device draws attention to itself. -/
def identifyDefinition : ParameterDefinition (HandlerName κ) :=
  { readWriteParameter Pid.identifyDevice .simpleGet .simpleSet ⟨"", "b$"⟩ ⟨"b$", ""⟩ with
    dataType := .unsignedByte
    size := .fixed 1
    minimum := 0
    maximum := 1 }

/-- The first slot the device uses. -/
def startAddressDefinition : ParameterDefinition (HandlerName κ) :=
  { readWriteParameter Pid.dmxStartAddress .getStartAddress .simpleSet ⟨"", "w$"⟩ ⟨"w$", ""⟩ with
    dataType := .unsignedWord
    size := .fixed 2
    minimum := 1
    maximum := 512 }

/-- The chosen personality and how many there are. -/
def personalityDefinition : ParameterDefinition (HandlerName κ) :=
  { readWriteParameter Pid.dmxPersonality .simpleGet .setPersonality ⟨"", "bb$"⟩ ⟨"b$", ""⟩ with
    size := .fixed 2 }

/-- The label of the device. -/
def labelDefinition : ParameterDefinition (HandlerName κ) :=
  { readWriteParameter Pid.deviceLabel .simpleGet .simpleSet ⟨"", "a$"⟩ ⟨"a$", ""⟩ with
    dataType := .ascii
    size := .upTo Label.maxLength }

/-- The parameters every responder defines, in this order. -/
def builtinDefinitions : List (ParameterDefinition (HandlerName κ)) :=
  [ discoveryParameter Pid.discUniqueBranch .discUniqueBranch,
    discoveryParameter Pid.discMute .discMute,
    discoveryParameter Pid.discUnMute .discUnMute,
    readParameter Pid.supportedParameters .supportedParameters ⟨"", "w"⟩,
    readParameter Pid.deviceInfo .deviceInfo ⟨"", "#0100hwwdwbbwwb$"⟩,
    { readParameter Pid.softwareVersionLabel .softwareVersionLabel ⟨"", "a$"⟩ with
      dataType := .ascii },
    identifyDefinition,
    startAddressDefinition,
    personalityDefinition,
    { readParameter Pid.dmxPersonalityDescription .getPersonalityDescription ⟨"b$", "bwa$"⟩ with
      dataType := .ascii },
    labelDefinition,
    readParameter Pid.queuedMessage .queuedMessage ⟨"b$", "r"⟩,
    readParameter Pid.statusMessages .statusMessages ⟨"b$", "wbwww"⟩ ]

/-- The readings of the sensors. -/
def sensorValueDefinition : ParameterDefinition (HandlerName κ) :=
  readWriteParameter Pid.sensorValue .getSensor .resetSensor ⟨"b$", "bwwww$"⟩ ⟨"b$", "bwwww$"⟩

/-- Records the readings of the sensors. -/
def recordSensorsDefinition : ParameterDefinition (HandlerName κ) :=
  { pid := Pid.recordSensors
    handlers := .set (.builtin .recordSensors)
    setFormat := ⟨"b$", ""⟩ }

/-- There are 1 to 255 personalities and the initial one is among them. -/
def validPersonalities (config : ResponderConfig) : Bool :=
  let count := config.personalities.length
  count ≤ 255 && 1 ≤ config.initialPersonality.toNat && config.initialPersonality.toNat ≤ count

/-- The store of a new responder: the built-in definitions and the values of the device itself. -/
def initialStore (config : ResponderConfig) (capacities : Capacities) :
    Except ParameterError (Store (HandlerName κ) γ) := do
  let empty : Store (HandlerName κ) γ := Store.empty capacities config.dynamicCapacity
  let s ← builtinDefinitions.foldlM Store.define empty
  let s ← s.addInstance (rootKey Pid.identifyDevice) .dynamic [0]
  let s ← s.addInstance (rootKey Pid.dmxStartAddress) .persisted
    (Bytes.ofWord config.initialStartAddress)
  let s ← s.addInstance (rootKey Pid.dmxPersonality) .persisted
    (Personality.encode ⟨config.initialPersonality, UInt8.ofNat config.personalities.length⟩)
  s.addInstance (rootKey Pid.deviceLabel) .persisted
    ((Text.toBytes config.initialLabel).take Label.maxLength)

/-- Sets up a responder. -/
def create (config : ResponderConfig) (capacities : Capacities) :
    Except ParameterError (Responder κ γ) :=
  if validPersonalities config then do
    let store ← initialStore config capacities
    return {
      config := config
      store := store
      muted := false
      statuses := []
      sensors := []
      lastQueued := none
      lastStatuses := .empty }
  else .error .dataOutOfRange

end Responder

end LightingBus
