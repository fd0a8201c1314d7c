/-!
# Line timing

Durations on the line are whole microseconds. A break announces a frame and a mark separates it from
the first byte; both have legal lengths, and a port is only opened with lengths that are legal.
-/

namespace LightingBus

namespace Timing

/-- How long a number of bits takes at a baud rate, rounded up to whole microseconds, in 32 bits. -/
def ofBits (bits baudRate : UInt32) : UInt32 :=
  let baud := max 1 baudRate.toNat
  UInt32.ofNat ((bits.toNat * 1000000 + (baud - 1)) / baud)

/-- The shortest break a transmitter may send. -/
def minBreak : UInt32 := 92

/-- The shortest mark after a break. -/
def minMark : UInt32 := 12

/-- The longest mark after a break. -/
def maxMark : UInt32 := 999999

/-- A break of this length may be sent. -/
def isBreak (length : UInt32) : Bool :=
  minBreak ≤ length

/-- A mark after a break may have this length. -/
def isMark (length : UInt32) : Bool :=
  minMark ≤ length && length ≤ maxMark

/-- The lowest baud rate of a line. -/
def minBaudRate : UInt32 := 245000

/-- The highest baud rate of a line. -/
def maxBaudRate : UInt32 := 255000

/-- A responder leaves at least this much time between a request and its answer. -/
def responderTurnaround : UInt32 := 176

end Timing

/-- The timing and the timeouts of a port, in microseconds. -/
structure LineConfig where
  baudRate : UInt32 := 250000
  breakLength : UInt32 := 176
  markLength : UInt32 := 12
  /-- A gap of this length between two bytes ends a received frame. -/
  receiveTimeout : UInt32 := 2000
  /-- How long a response may take to begin. -/
  responseTimeout : UInt32 := 2800
  /-- How long a pending transmission or a whole transaction may take. -/
  transactionTimeout : UInt32 := 23000
  /-- After this much time since the last break a new frame is begun in any case. -/
  maxBreakToBreak : UInt32 := 1250000
  deriving DecidableEq

/-- Why a port is not opened with a configuration. -/
inductive ConfigError where
  | baudRate (rate : UInt32)
  | breakLength (length : UInt32)
  | markLength (length : UInt32)
  /-- A timeout is zero, or a transaction may take less time than its response. -/
  | timeout
  deriving DecidableEq

/-- An error in words. -/
def ConfigError.text : ConfigError → String
  | .baudRate rate => s!"baud rate {rate} is out of range"
  | .breakLength length => s!"break of {length}µs is too short"
  | .markLength length => s!"mark after break of {length}µs is out of range"
  | .timeout => "invalid timeout"

namespace LineConfig

/-- The first rule a configuration breaks: baud rate, break, mark, timeouts. -/
def check (config : LineConfig) : Except ConfigError Unit :=
  if config.baudRate < Timing.minBaudRate ∨ Timing.maxBaudRate < config.baudRate then
    .error (.baudRate config.baudRate)
  else if ¬ Timing.isBreak config.breakLength then .error (.breakLength config.breakLength)
  else if ¬ Timing.isMark config.markLength then .error (.markLength config.markLength)
  else if config.receiveTimeout = 0 ∨ config.responseTimeout = 0 ∨
      config.transactionTimeout < config.responseTimeout then
    .error .timeout
  else .ok ()

/-- A configuration that breaks no rule. -/
def checked (config : LineConfig) : Except ConfigError LineConfig :=
  config.check.map fun _ => config

/-- Sets the baud rate, and the break to a number of bits at that rate. -/
def withBreakBits (config : LineConfig) (baudRate bits : UInt32) :
    Except ConfigError LineConfig :=
  checked { config with baudRate := baudRate, breakLength := Timing.ofBits bits baudRate }

/-- Sets the baud rate, and the mark after a break to a number of bits at that rate. -/
def withMarkBits (config : LineConfig) (baudRate bits : UInt32) :
    Except ConfigError LineConfig :=
  checked { config with baudRate := baudRate, markLength := Timing.ofBits bits baudRate }

end LineConfig

end LightingBus
