import LightingBus.Packet.Basic
import LightingBus.Payload.Values
import LightingBus.Pid

/-!
# Parameter data by parameter

The parameter data of a response is read in the way its parameter demands; data of a parameter that
is not known is handed on as it is.
-/

namespace LightingBus

/-- Parameter data of one parameter, not yet read. -/
structure ParameterContent where
  pid : UInt16
  messageCount : UInt8
  data : ParameterData
  deriving DecidableEq

/-- The value of a parameter. -/
inductive ParameterValue where
  | identify (on : Bool)
  | softwareVersionLabel (label : Label)
  | deviceLabel (label : Label)
  | deviceInfo (info : DeviceInfo)
  | startAddress (address : StartAddress)
  | personality (personality : Personality)
  | personalityDescription (description : PersonalityDescription)
  | sensor (reading : SensorReading)
  | statusMessages (messages : List StatusMessage)
  | supportedParameters (pids : List UInt16)
  | custom (content : ParameterContent)
  deriving DecidableEq

/-- Reads parameter data as its parameter demands. -/
def ParameterContent.read? (content : ParameterContent) : Option ParameterValue :=
  let data := content.data.bytes
  if content.pid = Pid.identifyDevice then (decodeIdentify? data).map .identify
  else if content.pid = Pid.softwareVersionLabel then
    (Label.decode? data).map .softwareVersionLabel
  else if content.pid = Pid.deviceLabel then (Label.decode? data).map .deviceLabel
  else if content.pid = Pid.deviceInfo then (DeviceInfo.decode? data).map .deviceInfo
  else if content.pid = Pid.dmxStartAddress then (StartAddress.decode? data).map .startAddress
  else if content.pid = Pid.dmxPersonality then (Personality.decode? data).map .personality
  else if content.pid = Pid.dmxPersonalityDescription then
    (PersonalityDescription.decode? data).map .personalityDescription
  else if content.pid = Pid.sensorValue then (SensorReading.decode? data).map .sensor
  else if content.pid = Pid.statusMessages then
    (decodeStatusMessages? data).map .statusMessages
  else if content.pid = Pid.supportedParameters then
    (decodeSupportedParameters? data).map .supportedParameters
  else some (.custom content)

end LightingBus
