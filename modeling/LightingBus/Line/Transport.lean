import LightingBus.Packet.Codec

/-!
# Transports

A transport puts bytes on a half-duplex line and takes bytes from it; a clock counts microseconds.
Both act on a world `σ` and may fail with a driver error `ε`. They are all that the rest of a port
knows of the hardware.
-/

namespace LightingBus

/-- What a transport notifies a port of. -/
inductive Event where
  /-- There is room for more bytes to be sent. -/
  | txEmpty
  /-- The last byte has left. -/
  | txDone
  /-- Bytes were received. -/
  | rxData
  /-- The line has been idle for longer than the gap between two bytes of a frame. -/
  | rxTimeout
  | breakDetected
  /-- The mark behind a received break has ended. -/
  | mabElapsed
  /-- A byte was damaged. -/
  | parityError
  /-- Received bytes were lost. -/
  | overflow
  /-- The alarm of the clock went off. -/
  | alarm
  deriving DecidableEq, Repr

namespace Event

def all : List Event :=
  [.txEmpty, .txDone, .rxData, .rxTimeout, .breakDetected, .mabElapsed, .parityError, .overflow,
    .alarm]

end Event

/-- The line and the clock of a port. -/
structure Transport (σ ε : Type) where
  /-- The transport puts a break in front of what is written after the line was idle. -/
  autoBreak : Bool
  /-- Accepts the first bytes, as many as there is room for, and says how many. -/
  write : Bytes → σ → Except ε Nat × σ
  /-- Takes received bytes, at most this many. -/
  read : Nat → σ → Except ε Bytes × σ
  /-- Begins a break. -/
  assertBreak : σ → Except ε Unit × σ
  /-- Ends a break. -/
  releaseBreak : σ → Except ε Unit × σ
  /-- Forgets what was received. -/
  flushReceived : σ → Except ε Unit × σ
  /-- Forgets what was accepted but not sent. -/
  flushQueued : σ → Except ε Unit × σ
  /-- The next event of a transport that has to be asked for its events. -/
  poll : σ → Option Event × σ
  /-- The events that interrupt a task now, oldest first. -/
  interrupts : σ → List Event × σ
  /-- Reads the clock. -/
  now : σ → UInt64 × σ
  /-- Waits for a number of microseconds. -/
  delay : UInt32 → σ → σ
  /-- Has an alarm event delivered later, if the clock can do so. -/
  setAlarm : UInt32 → σ → Bool × σ

/-- Why an operation on a port failed. -/
inductive PortError (ε : Type) where
  /-- The port is used by somebody else, or a frame is being sent. -/
  | busy
  | timeout
  /-- A frame has more bytes than there are slots. -/
  | bufferOverflow
  /-- A received frame was damaged. -/
  | framing
  /-- The transport lost received bytes. -/
  | uartOverflow
  /-- A received frame is no packet. -/
  | malformed (error : Packet.DecodeError)
  | driver (error : ε)
  /-- A wait took more turns than the port allows: neither did what was awaited happen nor did the
  clock run down. -/
  | stalled
  deriving DecidableEq, Repr

/-- An error in words. -/
def PortError.text (driverText : ε → String) : PortError ε → String
  | .busy => "port is busy"
  | .timeout => "request timed out"
  | .bufferOverflow => "frame buffer overflowed"
  | .framing => "framing error"
  | .uartOverflow => "uart overflowed"
  | .malformed e => e.text
  | .driver e => driverText e
  | .stalled => "port is stalled"

end LightingBus
