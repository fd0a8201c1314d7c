import LightingBus.Line.FrameBuffer
import LightingBus.Line.Timing
import LightingBus.Line.Transport

/-!
# The frame engine

The engine of a port sends frames and puts received bytes together to frames. It owns two buffers:
frames are sent from the front one, where readers find the last received frame too, and received
into the other. Completing a received frame exchanges the two.
-/

namespace LightingBus

/-- The direction of the line. -/
inductive Mode where
  | receive
  | transmit
  deriving DecidableEq, Repr

/-- How far the reception of a frame is. -/
inductive RxState where
  | idle
  | inBreak
  /-- In the mark behind the break. -/
  | inMab
  | inData
  | frameComplete
  /-- Bytes were lost; nothing is received before the next break. -/
  | error
  deriving DecidableEq, Repr

/-- How far the transmission of a frame is. -/
inductive TxState where
  | idle
  | inBreak
  /-- In the mark behind the break. -/
  | inMab
  | sending
  | done
  deriving DecidableEq, Repr

/-- What happens to the line once a frame is sent. -/
inductive Turnaround where
  /-- The port keeps the line. -/
  | none
  /-- The port listens for a frame that begins with a break. -/
  | receive
  /-- The port listens for a discovery reply, which has no break. -/
  | receiveNoBreak
  deriving DecidableEq, Repr

/-- What went wrong while events were handled. -/
structure Faults where
  bufferOverflow : Bool := false
  framingError : Bool := false
  uartOverflow : Bool := false
  driverError : Bool := false
  deriving DecidableEq

/-- The durations an engine uses, in microseconds. -/
structure EngineTiming where
  breakLength : UInt32 := 176
  markLength : UInt32 := 12
  /-- A gap of this length between two bytes ends a received frame. -/
  receiveTimeout : UInt32 := 2000
  /-- A transport that makes its own breaks is made to send one after this much time. -/
  maxBreakToBreak : UInt32 := 1250000
  deriving DecidableEq

/-- The durations of a port that matter to its engine. -/
def LineConfig.engineTiming (config : LineConfig) : EngineTiming where
  breakLength := config.breakLength
  markLength := config.markLength
  receiveTimeout := config.receiveTimeout
  maxBreakToBreak := config.maxBreakToBreak

/-- The state of sending and receiving. -/
structure Engine where
  /-- What is sent and what readers see. -/
  front : FrameBuffer
  /-- What is being received. -/
  back : FrameBuffer
  mode : Mode
  rxState : RxState
  txState : TxState
  turnaround : Turnaround
  timing : EngineTiming
  /-- Bytes without a break in front of them are received as well. -/
  expectNoBreak : Bool
  /-- The frame being received began without a break. -/
  rxWithoutBreak : Bool
  /-- A frame was completed and not taken yet. -/
  frameReady : Bool
  /-- When a break or bytes were last received. -/
  lastReceived : UInt64
  /-- When a frame with a break was last begun. -/
  lastBreak : Option UInt64
  faults : Faults
  deriving DecidableEq

namespace Engine

/-- An engine that listens, with two empty buffers of this many slots. -/
def create (capacity : Nat) (timing : EngineTiming) : Engine where
  front := .empty capacity
  back := .empty capacity
  mode := .receive
  rxState := .idle
  txState := .idle
  turnaround := .none
  timing := timing
  expectNoBreak := false
  rxWithoutBreak := false
  frameReady := false
  lastReceived := 0
  lastBreak := none
  faults := {}

/-- A frame is on its way out. -/
def isSending (e : Engine) : Bool :=
  match e.txState with
  | .inBreak | .inMab | .sending => true
  | .idle | .done => false

/-- A frame is on its way in. -/
def isReceiving (e : Engine) : Bool :=
  match e.rxState with
  | .inBreak | .inMab | .inData => true
  | .idle | .frameComplete | .error => false

/-- Gives up the frame that is being received. -/
def abortReceive (e : Engine) : Engine :=
  { e with rxState := .idle, rxWithoutBreak := false, back := e.back.rewind }

/-- Turns the line around. Whoever begins to transmit gives up receiving. -/
def setMode (e : Engine) : Mode → Engine
  | .receive => { e with mode := .receive }
  | .transmit => { e.abortReceive with mode := .transmit }

/-- Begins to listen and forgets a frame that was completed before. -/
def armReceive (e : Engine) (noBreak : Bool) : Engine :=
  { e with
    mode := .receive
    frameReady := false
    expectNoBreak := noBreak
    txState := if e.txState = .done then .idle else e.txState }

/-- Gives up the frame that is being sent, without its turnaround, and says how far it was. -/
def abortSend (e : Engine) : TxState × Engine :=
  (e.txState,
    if e.isSending then { e with txState := .idle, turnaround := .none, front := e.front.rewind }
    else e)

/-- The size of a frame that was completed since the last call. -/
def takeFrame (e : Engine) : Option Nat × Engine :=
  if e.frameReady then (some e.front.frameSize, { e with frameReady := false }) else (none, e)

/-- The faults since the last call. -/
def takeFaults (e : Engine) : Faults × Engine :=
  (e.faults, { e with faults := {} })

end Engine

end LightingBus
