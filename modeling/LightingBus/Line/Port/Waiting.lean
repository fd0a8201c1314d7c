import LightingBus.Line.Port.Basic

/-!
# Waiting

Tasks wait for a frame to be sent, for a frame to be received and for the transaction lock. Each
wait looks, asks the clock and looks again until the time is over. A wait takes at most as many
turns as the port has patience for; with a clock that moves, the time is over long before.
-/

namespace LightingBus

namespace Port

variable (line : Transport σ ε)

/-! ## Sending -/

/-- A frame is still being sent, and the driver's error if there is one. -/
def sendProgress : PortM σ ε (Bool × Option ε) :=
  step' line fun p =>
    let sending := p.engine.isSending
    let (fault, p) := p.takeDriverFault
    ((sending, fault), p)

/-- Looks whether the frame is sent, until `timeout` microseconds have passed since `start`. -/
def awaitSent (timeout : UInt32) (start : UInt64) : Nat → PortM σ ε Unit
  | 0 => throw .stalled
  | turns + 1 => do
    poll line
    match ← sendProgress line with
    | (_, some x) => throw (.driver x)
    | (false, none) => pure ()
    | (true, none) =>
      let now ← now line
      if timeout.toUInt64 ≤ now - start then do
        abortSend line
        throw .timeout
      else awaitSent timeout start turns

/-- Waits until a frame is sent. If it takes longer than `timeout`, the frame is given up. -/
def waitSent (timeout : UInt32) : PortM σ ε Unit := do
  let start ← now line
  awaitSent line timeout start (← get).patience

/-! ## Receiving -/

/-- Registers a task that waits for a frame. If the port did not listen yet, it begins to, and
faults from before are forgotten. -/
def enterReceive : PortM σ ε Unit :=
  step line fun p =>
    if p.waiting then (.error .busy, p)
    else if p.engine.mode = .receive then (.ok (), { p with waiting := true })
    else
      let (_, p) := p.popFault
      (.ok (), { p with waiting := true, engine := p.engine.armReceive false })

/-- The task no longer waits. -/
def leaveReceive : PortM σ ε Unit :=
  step' line fun p => ((), { p with waiting := false })

/-- What a waiting task sees: a completed frame, a fault, and whether a frame is coming in. -/
structure Arrival (ε : Type) where
  frame : Option Nat
  fault : Option (PortError ε)
  receiving : Bool

/-- Takes a completed frame and the faults. -/
def arrival : PortM σ ε (Arrival ε) :=
  step' line fun p =>
    let (frame, engine) := p.engine.takeFrame
    let (fault, p) := { p with engine := engine }.popFault
    (⟨frame, fault, p.engine.isReceiving⟩, p)

/-- Looks for a frame. After `timeout` microseconds only a frame that is coming in is waited for,
and nothing after `limit`. -/
def awaitFrame (timeout : UInt32) (limit start : UInt64) : Nat → PortM σ ε Nat
  | 0 => throw .stalled
  | turns + 1 => do
    poll line
    let seen ← arrival line
    match seen.fault, seen.frame with
    | some fault, _ => throw fault
    | none, some size => pure size
    | none, none =>
      let now ← now line
      let elapsed := now - start
      if (timeout.toUInt64 ≤ elapsed ∧ ¬ seen.receiving) ∨ limit ≤ elapsed then throw .timeout
      else awaitFrame timeout limit start turns

/-- Waits for a frame while the task is registered. -/
def waitForFrame (timeout : UInt32) : PortM σ ε Nat := do
  let start ← now line
  let p ← get
  awaitFrame line timeout (timeout.toUInt64 + p.config.transactionTimeout.toUInt64) start
    p.patience

/-- Waits for a frame and returns its size. A frame that begins before `timeout` may take as long
as a transaction to complete. One task at a time may wait. -/
def receive (timeout : UInt32) : PortM σ ε Nat := do
  enterReceive line
  let result ← attempt (waitForFrame line timeout)
  leaveReceive line
  conclude result

/-! ## The transaction lock -/

/-- Tries to take the lock until `timeout` microseconds have passed since `start`. -/
def awaitLock (timeout : UInt32) (start : UInt64) : Nat → PortM σ ε Unit
  | 0 => throw .stalled
  | turns + 1 => do
    if ← tryLock line then pure ()
    else
      let now ← now line
      if timeout.toUInt64 ≤ now - start then throw .busy
      else awaitLock timeout start turns

/-- Takes the lock; if somebody holds it for longer than `timeout`, the port is busy. -/
def lock (timeout : UInt32) : PortM σ ε Unit := do
  let start ← now line
  awaitLock line timeout start (← get).patience

end Port

end LightingBus
