import LightingBus.Line.Engine.Events

/-!
# Ports

A port is an engine, the world its transport acts on and what tasks share: the transaction lock, the
number of the next transaction, the error a driver met while events were handled.

A task uses the port step by step. A step runs undisturbed; events that interrupt the task are
handled at the beginning of its next step.
-/

namespace LightingBus

/-- A port of a line. -/
structure Port (σ ε : Type) where
  config : LineConfig
  engine : Engine
  /-- What the transport and the clock act on. -/
  world : σ
  /-- An error of the driver that nobody has been told. -/
  driverFault : Option ε
  /-- A task waits for a frame. -/
  waiting : Bool
  /-- How many guards hold the transaction lock. -/
  lockDepth : UInt8
  /-- The number of the next request. -/
  transaction : UInt8
  /-- How many turns a wait takes before it counts as stalled. -/
  patience : Nat

/-- What a task does with a port. -/
abbrev PortM (σ ε α : Type) : Type :=
  ExceptT (PortError ε) (StateM (Port σ ε)) α

namespace Port

/-- Opens a port with this many slots, if the configuration is legal. -/
def create (capacity : Nat) (config : LineConfig) (patience : Nat) (world : σ) :
    Except ConfigError (Port σ ε) :=
  config.check.map fun _ => {
    config := config
    engine := .create capacity config.engineTiming
    world := world
    driverFault := none
    waiting := false
    lockDepth := 0
    transaction := 0
    patience := patience }

/-- The transaction lock is held. -/
def isLocked (p : Port σ ε) : Bool :=
  p.lockDepth != 0

/-- Takes the driver's error. -/
def takeDriverFault (p : Port σ ε) : Option ε × Port σ ε :=
  (p.driverFault, { p with driverFault := none })

/-- The worst of some faults. -/
def faultError? (faults : Faults) : Option (PortError ε) :=
  if faults.bufferOverflow then some .bufferOverflow
  else if faults.uartOverflow then some .uartOverflow
  else if faults.framingError then some .framing
  else none

/-- Takes an error of the driver or else all faults, and says the worst. -/
def popFault (p : Port σ ε) : Option (PortError ε) × Port σ ε :=
  match p.driverFault with
  | some x => (some (.driver x), { p with driverFault := none })
  | none =>
    let (faults, engine) := p.engine.takeFaults
    (faultError? faults, { p with engine := engine })

/-! ## Events -/

variable (line : Transport σ ε)

/-- Handles an event. -/
def onEvent (p : Port σ ε) (event : Event) : Port σ ε :=
  match Engine.onEvent line event p.engine p.world with
  | (.error x, engine, world) =>
    { p with engine := engine, world := world, driverFault := some x }
  | (.ok _, engine, world) => { p with engine := engine, world := world }

/-- Handles the events that interrupt a task. -/
def interrupted (p : Port σ ε) : Port σ ε :=
  let (events, world) := line.interrupts p.world
  events.foldl (onEvent line) { p with world := world }

/-- The most events that one poll handles. -/
def maxPolledEvents : Nat := 64

/-- Handles the next events of a transport that has to be asked for them. -/
def pollEvents : Nat → Port σ ε → Port σ ε
  | 0, p => p
  | n + 1, p =>
    match line.poll p.world with
    | (none, world) => { p with world := world }
    | (some event, world) => pollEvents n (onEvent line { p with world := world } event)

/-- Handles the next events and ends a frame if the line is idle. -/
def polled (p : Port σ ε) : Port σ ε :=
  let p := pollEvents line maxPolledEvents p
  let (now, world) := line.now p.world
  { p with engine := p.engine.checkIdle now, world := world }

/-! ## Steps -/

/-- A step of a task. -/
def step (f : Port σ ε → Except (PortError ε) α × Port σ ε) : PortM σ ε α :=
  ExceptT.mk (modifyGet fun p => f (interrupted line p))

/-- A step that cannot fail. -/
def step' (f : Port σ ε → α × Port σ ε) : PortM σ ε α :=
  step line fun p =>
    let (a, p) := f p
    (.ok a, p)

/-- Reads the clock, which is no step: nothing is shared. -/
def now : PortM σ ε UInt64 :=
  ExceptT.mk (modifyGet fun p =>
    let (now, world) := line.now p.world
    (.ok now, { p with world := world }))

/-- Waits for a number of microseconds. -/
def delay (micros : UInt32) : PortM σ ε Unit :=
  modify fun p => { p with world := line.delay micros p.world }

/-- Ends with a result. -/
def conclude (result : Except (PortError ε) α) : PortM σ ε α :=
  ExceptT.mk (pure result)

/-- The result of a task, whether it failed or not. -/
def attempt (task : PortM σ ε α) : PortM σ ε (Except (PortError ε) α) :=
  ExceptT.mk (Except.ok <$> task.run)

def poll : PortM σ ε Unit :=
  step' line fun p => ((), polled line p)

def setMode (mode : Mode) : PortM σ ε Unit :=
  step' line fun p => ((), { p with engine := p.engine.setMode mode })

/-- The worst fault since the last call. -/
def takeFault : PortM σ ε (Option (PortError ε)) :=
  step' line popFault

/-- The number of the next request; every call gives another, until they wrap around. -/
def nextTransaction : PortM σ ε UInt8 :=
  step' line fun p => (p.transaction, { p with transaction := p.transaction + 1 })

/-! ## The frame buffer -/

/-- Uses the front buffer, which nobody may do while a frame is sent from it. -/
def withFront (f : FrameBuffer → α × FrameBuffer) : PortM σ ε α :=
  step line fun p =>
    if p.engine.isSending then (.error .busy, p)
    else
      let (a, front) := f p.engine.front
      (.ok a, { p with engine := { p.engine with front := front } })

/-- Copies bytes into the frame buffer from `offset` on and says how many had room. -/
def writeAt (offset : Nat) (bytes : Bytes) : PortM σ ε Nat :=
  withFront line fun front => front.writeAt offset bytes

/-- Copies bytes to the front of the frame buffer. -/
def write (bytes : Bytes) : PortM σ ε Nat :=
  writeAt line 0 bytes

/-- The last received frame. -/
def frame : PortM σ ε Bytes :=
  step' line fun p => (p.engine.front.received, p)

/-- Copies the last received frame to the front of `out`, as far as there is room, and says how many
bytes. -/
def read (out : Bytes) : PortM σ ε (Nat × Bytes) :=
  step' line fun p =>
    let copied := p.engine.front.received.take out.length
    ((copied.length, Bytes.overwrite 0 copied out), p)

/-- The frame buffer as it is. -/
def snapshot : PortM σ ε FrameBuffer :=
  step' line fun p => (p.engine.front, p)

/-- Puts an earlier frame buffer back. -/
def restore (before : FrameBuffer) : PortM σ ε Unit :=
  withFront line fun _ => ((), before)

/-! ## Sending -/

/-- Begins to send the first `size` slots of the frame buffer. -/
def sendFrame (size : Nat) (withBreak : Bool) (turnaround : Turnaround) : PortM σ ε Unit :=
  step line fun p =>
    match Engine.beginSend line p.engine size withBreak turnaround p.world with
    | (result, engine, world) => (result, { p with engine := engine, world := world })

/-- Begins to send the first `size` slots of the frame buffer with a break and keeps the line. -/
def send (size : Nat) : PortM σ ε Unit :=
  sendFrame line size true .none

/-- Copies bytes to the front of the frame buffer and begins to send them without a break. -/
def sendNoBreak (bytes : Bytes) : PortM σ ε Unit :=
  step line fun p =>
    if p.engine.isSending then (.error .busy, p)
    else
      let (count, front) := p.engine.front.writeAt 0 bytes
      let engine := { p.engine with front := front }
      if count ≠ bytes.length then (.error .bufferOverflow, { p with engine := engine })
      else
        match Engine.beginSend line engine count false .none p.world with
        | (result, engine, world) => (result, { p with engine := engine, world := world })

/-- Gives up the frame that is being sent: the line is released, and what the transport has not
sent yet is forgotten. -/
def abortSend : PortM σ ε Unit :=
  step line fun p =>
    let (aborted, engine) := p.engine.abortSend
    let p := { p with engine := engine }
    let release (f : σ → Except ε Unit × σ) : Except (PortError ε) Unit × Port σ ε :=
      match f p.world with
      | (.error x, world) => (.error (.driver x), { p with world := world })
      | (.ok _, world) => (.ok (), { p with world := world })
    match aborted with
    | .inBreak => release line.releaseBreak
    | .inMab | .sending => release line.flushQueued
    | .idle | .done => (.ok (), p)

/-! ## The transaction lock -/

/-- Takes the lock if nobody holds it, and says whether. -/
def tryLock : PortM σ ε Bool :=
  step' line fun p => if p.isLocked then (false, p) else (true, { p with lockDepth := 1 })

/-- A further guard of a lock that is held. -/
def nest : PortM σ ε Unit :=
  step' line fun p =>
    ((), { p with lockDepth := if p.lockDepth = 255 then 255 else p.lockDepth + 1 })

/-- Gives up one guard of the lock. -/
def unlock : PortM σ ε Unit :=
  step' line fun p => ((), { p with lockDepth := if p.lockDepth = 0 then 0 else p.lockDepth - 1 })

end Port

end LightingBus
