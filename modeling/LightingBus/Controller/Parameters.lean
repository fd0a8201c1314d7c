import LightingBus.Controller.Basic

/-!
# Parameters of devices

The parameters that every controller knows how to ask for and how to set, each with the type of its
value.
-/

namespace LightingBus

/-- A value, or the part of it that fits into one response. -/
inductive Portion (α : Type) where
  | complete (value : α)
  | incomplete (value : α)
  deriving DecidableEq

namespace Controller

variable (line : Transport σ ε)

/-- Asks for a value that comes in one response. -/
def fetchContent (inquiry : Inquiry) : ControllerM σ ε ParameterContent := do
  match ← request line .get inquiry with
  | .complete content => pure content
  | .incomplete _ | .broadcast => throw .dataMalformed

/-- Reads a value, or tells that the data does not hold one. -/
def readOrRefuse (read? : Bytes → Option α) (content : ParameterContent) :
    Except (RequestError ε) α :=
  match read? content.data.bytes with
  | none => .error .dataMalformed
  | some value => .ok value

/-- Asks for a value that comes in one response and reads it. -/
def fetch (read? : Bytes → Option α) (inquiry : Inquiry) : ControllerM σ ε α := do
  conclude (readOrRefuse read? (← fetchContent line inquiry))

/-- Asks for a list that may continue in further responses. -/
def fetchPortion (read? : Bytes → Option α) (inquiry : Inquiry) :
    ControllerM σ ε (Portion α) := do
  match ← request line .get inquiry with
  | .complete content => .complete <$> conclude (readOrRefuse read? content)
  | .incomplete content => .incomplete <$> conclude (readOrRefuse read? content)
  | .broadcast => throw .dataMalformed

/-- Sets a value; what the response carries does not matter. -/
def assign (destination : Address) (pid : UInt16) (value : Bytes) : ControllerM σ ε Unit :=
  match ParameterData.ofBytes? value with
  | none => throw .dataMalformed
  | some data => do
    let _ ← request line .set (.about destination pid data)

/-- One byte as parameter data. -/
def oneByte (byte : UInt8) : ParameterData :=
  ⟨[byte], by simp [maxParameterLength]⟩

/-! ## Asking -/

/-- Whether a device shows where it is. -/
def getIdentify (uid : Uid) : ControllerM σ ε Bool :=
  fetch line decodeIdentify? (.bare (.device uid) Pid.identifyDevice)

def getSoftwareVersionLabel (uid : Uid) : ControllerM σ ε Label :=
  fetch line Label.decode? (.bare (.device uid) Pid.softwareVersionLabel)

def getDeviceLabel (uid : Uid) : ControllerM σ ε Label :=
  fetch line Label.decode? (.bare (.device uid) Pid.deviceLabel)

def getStartAddress (uid : Uid) : ControllerM σ ε StartAddress :=
  fetch line StartAddress.decode? (.bare (.device uid) Pid.dmxStartAddress)

def getPersonality (uid : Uid) : ControllerM σ ε Personality :=
  fetch line Personality.decode? (.bare (.device uid) Pid.dmxPersonality)

/-- What a personality of a device is; personalities are numbered from one. -/
def getPersonalityDescription (uid : Uid) (personality : UInt8) :
    ControllerM σ ε PersonalityDescription :=
  fetch line PersonalityDescription.decode?
    (.about (.device uid) Pid.dmxPersonalityDescription (oneByte personality))

def getSensor (uid : Uid) (sensor : UInt8) : ControllerM σ ε SensorReading :=
  fetch line SensorReading.decode? (.about (.device uid) Pid.sensorValue (oneByte sensor))

def getDeviceInfo (uid : Uid) : ControllerM σ ε DeviceInfo :=
  fetch line DeviceInfo.decode? (.bare (.device uid) Pid.deviceInfo)

/-- The parameters a device has beyond those that every device must have. -/
def getSupportedParameters (uid : Uid) : ControllerM σ ε (Portion (List UInt16)) :=
  fetchPortion line decodeSupportedParameters? (.bare (.device uid) Pid.supportedParameters)

/-- The status messages of a device from a severity on. -/
def getStatusMessages (uid : Uid) (severity : StatusType) :
    ControllerM σ ε (Portion (List StatusMessage)) :=
  fetchPortion line decodeStatusMessages?
    (.about (.device uid) Pid.statusMessages (oneByte severity.code))

/-- The oldest change of a device, or its status messages from a severity on if nothing changed. -/
def getQueuedMessage (uid : Uid) (severity : StatusType) : ControllerM σ ε ParameterValue := do
  let content ← fetchContent line
    (.about (.device uid) Pid.queuedMessage (oneByte severity.code))
  match content.read? with
  | none => throw .dataMalformed
  | some value => pure value

/-! ## Setting -/

/-- Lets a device show where it is. -/
def setIdentify (destination : Address) (on : Bool) : ControllerM σ ε Unit :=
  assign line destination Pid.identifyDevice [if on then 1 else 0]

/-- Labels a device; the label is cut after 32 bytes. -/
def setDeviceLabel (destination : Address) (label : String) : ControllerM σ ε Unit :=
  assign line destination Pid.deviceLabel ((Text.toBytes label).take Label.maxLength)

/-- Sets the first slot of a device. A slot that no frame has is refused without asking. -/
def setStartAddress (destination : Address) (address : UInt16) : ControllerM σ ε Unit :=
  if address < 1 ∨ 512 < address then throw (.notAcknowledged .dataOutOfRange)
  else assign line destination Pid.dmxStartAddress (Bytes.ofWord address)

/-- Chooses a personality; personalities are numbered from one. -/
def setPersonality (destination : Address) (personality : UInt8) : ControllerM σ ε Unit :=
  assign line destination Pid.dmxPersonality [personality]

/-- Lets a device remember what a sensor measures now, or what all of them measure. -/
def recordSensors (destination : Address) (sensor : UInt8) : ControllerM σ ε Unit :=
  assign line destination Pid.recordSensors [sensor]

end Controller

end LightingBus
