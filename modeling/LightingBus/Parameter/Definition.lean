import LightingBus.CommandClass
import LightingBus.NackReason
import LightingBus.Parameter.DataType

/-!
# Definitions of parameters

A definition says which requests a parameter answers and by which handlers, how the parameter data
of its requests and responses is built, and which values it may have. Handlers are named, not
stored: what a name stands for is up to whoever dispatches requests.
-/

namespace LightingBus

/-- Why an operation on parameters was refused. -/
inductive ParameterError where
  /-- The parameter has no definition. -/
  | notDefined
  /-- The parameter is already defined differently, or the device already has it. -/
  | definitionConflict
  /-- A table or the storage is full. -/
  | noMemory
  /-- The value has a length the definition does not allow. -/
  | sizeMismatch
  /-- The device does not have the parameter. -/
  | notFound
  /-- The value is outside of the bounds of the definition. -/
  | dataOutOfRange
  /-- The value is constant. -/
  | writeProtected
  /-- There is no such device. -/
  | subDeviceOutOfRange
  /-- The permanent storage failed. -/
  | storage
  deriving DecidableEq, Repr

namespace ParameterError

/-- An error in words. -/
def text : ParameterError → String
  | .notDefined => "parameter is not defined"
  | .definitionConflict => "parameter is already defined differently"
  | .noMemory => "out of parameter memory"
  | .sizeMismatch => "parameter size mismatch"
  | .notFound => "parameter not found"
  | .dataOutOfRange => "parameter value out of range"
  | .writeProtected => "parameter is write protected"
  | .subDeviceOutOfRange => "sub-device out of range"
  | .storage => "persistent storage failed"

/-- What a controller is told whose request failed with this error. -/
def nackReason : ParameterError → NackReason
  | .dataOutOfRange => .dataOutOfRange
  | .sizeMismatch => .formatError
  | .writeProtected => .writeProtect
  | .subDeviceOutOfRange => .subDeviceOutOfRange
  | .notDefined | .notFound => .unknownPid
  | .definitionConflict | .noMemory | .storage => .hardwareFault

end ParameterError

/-- The names of the handlers of a parameter, by command class. -/
inductive Handlers (η : Type) where
  | discovery (handler : η)
  | get (handler : η)
  | set (handler : η)
  | getSet (reader writer : η)
  deriving DecidableEq

namespace Handlers

/-- The requests that have a handler. -/
def access : Handlers η → Access
  | .discovery _ => .discovery
  | .get _ => .get
  | .set _ => .set
  | .getSet _ _ => .getSet

/-- The handler of a request. -/
def forCommand? : Handlers η → CommandClass → Option η
  | .discovery handler, .discovery => some handler
  | .get handler, .get => some handler
  | .set handler, .set => some handler
  | .getSet reader _, .get => some reader
  | .getSet _ writer, .set => some writer
  | _, _ => none

theorem isSome_forCommand? (handlers : Handlers η) (c : CommandClass) :
    (handlers.forCommand? c).isSome = handlers.access.allows c := by
  cases handlers <;> cases c <;> rfl

end Handlers

/-- The written formats of the parameter data of a request and of its response. -/
structure CommandFormat where
  request : String := ""
  response : String := ""
  deriving DecidableEq

/-- Which lengths a value may have. -/
inductive ValueSize where
  /-- Every value has this length. -/
  | fixed (size : Nat)
  /-- Values have at most this length. -/
  | upTo (size : Nat)
  deriving DecidableEq

namespace ValueSize

/-- The bytes set aside for a value. -/
def capacity : ValueSize → Nat
  | .fixed size => size
  | .upTo size => size

/-- A value may have this length. -/
def accepts : ValueSize → Nat → Bool
  | .fixed size, length => length == size
  | .upTo size, length => length ≤ size

theorem le_capacity {size : ValueSize} {length : Nat} (h : size.accepts length) :
    length ≤ size.capacity := by
  cases size <;> simp_all [accepts, capacity]

end ValueSize

/-- What is known of a parameter. -/
structure ParameterDefinition (η : Type) where
  pid : UInt16
  handlers : Handlers η
  dataType : DataType := .notDefined
  getFormat : CommandFormat := {}
  setFormat : CommandFormat := {}
  size : ValueSize := .fixed 0
  /-- The bounds of a numeric value; they are not looked at if both are zero. -/
  minimum : Int := 0
  maximum : Int := 0
  unit : MeasureUnit := .none
  scale : UnitScale := .none
  description : Option String := none
  deriving DecidableEq

namespace ParameterDefinition

/-- The requests that the parameter answers. -/
def access (d : ParameterDefinition η) : Access :=
  d.handlers.access

/-- The formats of a command; discovery commands have none. -/
def format? (d : ParameterDefinition η) : CommandClass → Option CommandFormat
  | .get => some d.getFormat
  | .set => some d.setFormat
  | .discovery => none

/-- Values are numbers with bounds. -/
def hasRange (d : ParameterDefinition η) : Bool :=
  d.dataType.numericWidth?.isSome && (d.minimum != 0 || d.maximum != 0)

/-- The first rule that a value breaks: its length, then its bounds. -/
def check (d : ParameterDefinition η) (value : Bytes) : Except ParameterError Unit :=
  if ¬ d.size.accepts value.length then .error .sizeMismatch
  else if ¬ d.hasRange then .ok ()
  else
    match d.dataType.readNumber? value with
    | none => .error .sizeMismatch
    | some number =>
      if d.minimum ≤ number ∧ number ≤ d.maximum then .ok () else .error .dataOutOfRange

/-- Two definitions differ in more than their handlers and what only describes them. -/
def conflictsWith (a b : ParameterDefinition η) : Bool :=
  a.pid != b.pid || a.access != b.access || a.dataType != b.dataType ||
    a.getFormat != b.getFormat || a.setFormat != b.setFormat || a.size != b.size ||
    a.minimum != b.minimum || a.maximum != b.maximum

end ParameterDefinition

end LightingBus
