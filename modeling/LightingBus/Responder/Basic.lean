import LightingBus.Packet.Basic
import LightingBus.Parameter.Store
import LightingBus.Payload.Values

/-!
# Responders

A responder owns the parameters of a device and of its sub-devices. Besides their values it knows
whether it is muted, its status messages, its sensors and what it last reported.

Handlers of parameters are named. Built-in names have a fixed meaning; the meaning of custom names
is supplied to whoever dispatches requests.
-/

namespace LightingBus

/-- One way a device can be run. -/
structure PersonalitySetting where
  /-- How many slots the device uses. -/
  footprint : UInt16
  description : String
  deriving DecidableEq

/-- What is fixed about a device. -/
structure ResponderConfig where
  uid : Uid
  model : UInt16
  category : UInt16
  version : UInt32
  versionLabel : String
  /-- The personalities, numbered from one. -/
  personalities : List PersonalitySetting
  initialPersonality : UInt8
  initialStartAddress : UInt16
  initialLabel : String
  /-- The most bytes that changing values may take. -/
  dynamicCapacity : Nat

/-- Handlers every responder has. -/
inductive Builtin where
  /-- Answers with the stored value. -/
  | simpleGet
  /-- Stores the parameter data and queues the change. -/
  | simpleSet
  | discUniqueBranch
  | discMute
  | discUnMute
  | supportedParameters
  | deviceInfo
  | softwareVersionLabel
  | getStartAddress
  | setPersonality
  | getPersonalityDescription
  | queuedMessage
  | statusMessages
  | getSensor
  | resetSensor
  | recordSensors
  deriving DecidableEq, Repr

/-- The name of a handler. -/
inductive HandlerName (κ : Type) where
  | builtin (handler : Builtin)
  | custom (name : κ)
  deriving DecidableEq

/-- What a handler made of a request. -/
inductive HandlerResult where
  | acknowledged (data : ParameterData)
  /-- The data is one part of the answer; the controller asks again for the next. -/
  | acknowledgedOverflow (data : ParameterData)
  /-- The request is refused with this code. -/
  | notAcknowledged (code : UInt16)
  /-- The answer will be ready after this many tenths of a second. -/
  | acknowledgedTimer (units : UInt16)
  /-- The responder names itself to a searching controller. -/
  | discovery
  /-- Nothing is sent. -/
  | silent
  | custom (response : Response)
  deriving DecidableEq

/-- A promise of a definition that its handler broke. -/
inductive Fault where
  /-- The handler needs more parameter data than the format of the request promises. -/
  | missingData
  /-- The parameter data of an answer does not have the promised format. -/
  | wrongResponse
  deriving DecidableEq

/-- How the handling of a request ended. -/
inductive Verdict where
  | done (result : HandlerResult)
  | refused (reason : NackReason)
  | broken (fault : Fault)
  deriving DecidableEq

/-- What a responder sends. -/
inductive Answer where
  /-- A packet that begins with a break. -/
  | response (response : Response)
  /-- The reply of this device to a discovery request, sent without a break. -/
  | discovery (uid : Uid)
  | silent
  deriving DecidableEq

/-- A device, its parameters and what it remembers. Custom handlers are named by `κ`, listeners to
changes by `γ`. -/
structure Responder (κ γ : Type) where
  config : ResponderConfig
  store : Store (HandlerName κ) γ
  /-- The device does not answer discovery requests. -/
  muted : Bool
  /-- Status messages that were not reported yet, oldest first. -/
  statuses : List StatusMessage
  sensors : List SensorReading
  /-- The last answer to a request for queued messages. -/
  lastQueued : Option Response
  /-- The last reported status messages. -/
  lastStatuses : ParameterData

namespace Responder

/-- The most sensors a device has. -/
def maxSensors : Nat := 16

/-- A handler answers a request, may change the responder and may act on the world around. -/
abbrev Handler (κ γ ω : Type) : Type :=
  Request → Responder κ γ → ω → Verdict × Responder κ γ × ω

def uid (r : Responder κ γ) : Uid :=
  r.config.uid

/-- How many changes wait to be reported, as far as a byte can tell. -/
def messageCount (r : Responder κ γ) : UInt8 :=
  UInt8.ofNat (min r.store.changed.length 255)

/-- How many personalities are configured. -/
def personalityCount (r : Responder κ γ) : UInt8 :=
  UInt8.ofNat r.config.personalities.length

/-- The key of a parameter of the device itself. -/
def rootKey (pid : UInt16) : Key :=
  ⟨SubDevice.root, pid⟩

/-- The value of a parameter of the device itself. -/
def rootValue? (r : Responder κ γ) (pid : UInt16) : Option Bytes :=
  (r.store.get (rootKey pid)).toOption

/-- The chosen personality; the first one if none is stored. -/
def personality (r : Responder κ γ) : Personality :=
  ((r.rootValue? Pid.dmxPersonality).bind Personality.decode?).getD ⟨1, r.personalityCount⟩

/-- The setting of the personality with this number. -/
def setting? (r : Responder κ γ) (number : UInt8) : Option PersonalitySetting :=
  if number = 0 then none else r.config.personalities[number.toNat - 1]?

/-- How many slots the device uses. -/
def footprint (r : Responder κ γ) : UInt16 :=
  ((r.setting? r.personality.current).map PersonalitySetting.footprint).getD 0

/-- The first slot the device uses, if it uses any. -/
def startAddress (r : Responder κ γ) : StartAddress :=
  if r.footprint = 0 then .unused
  else ((r.rootValue? Pid.dmxStartAddress).bind StartAddress.decode?).getD .unused

end Responder

end LightingBus
