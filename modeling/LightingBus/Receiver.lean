import LightingBus.Line.Port.Waiting
import LightingBus.Packet.DiscoveryReply
import LightingBus.Responder.Dispatch

/-!
# Receivers

A receiver waits for frames at a port. Packets are requests, which its responder answers after the
turnaround that the line needs; all other frames are handed to whoever uses the slots.
-/

namespace LightingBus

/-- A responder at a port. -/
structure Receiver (κ γ : Type) where
  responder : Responder κ γ
  /-- How long one poll waits for a frame. -/
  pollTimeout : UInt32

/-- Why a received frame was not handled. Handlers fail with `η`. -/
inductive ReceiveError (ε η : Type) where
  /-- A packet is no request. -/
  | notMatching
  /-- A frame has no start code. -/
  | wrongSize
  | malformed (error : Packet.DecodeError)
  | handler (error : η)
  /-- The handler of a parameter broke a promise of its definition. -/
  | broken (fault : Fault) (pid : UInt16)
  | port (error : PortError ε)
  deriving DecidableEq

/-- An error in words. -/
def ReceiveError.text (driverText : ε → String) (handlerText : η → String) :
    ReceiveError ε η → String
  | .notMatching => "Received response and not request."
  | .wrongSize => "The package size is insufficient."
  | .malformed _ => "Deserialization error."
  | .handler e => handlerText e
  | .broken _ _ => "A handler broke a promise."
  | .port .busy => "The port is busy."
  | .port .bufferOverflow => "The frame exceeds the frame buffer."
  | .port .framing => "Framing error."
  | .port .uartOverflow => "Uart overflow."
  | .port .timeout => "Timeout error."
  | .port (.malformed _) => "Deserialization error."
  | .port (.driver e) => driverText e
  | .port .stalled => "The port is stalled."

/-- What handles frames and requests: the meaning of the custom handlers, the handler of parameters
without a definition, and the handler of frames that are no packets. -/
structure Reception (κ γ ω η : Type) where
  custom : κ → Responder.Handler κ γ ω
  fallback : Responder.Fallback κ γ ω η
  frame : Bytes → Responder κ γ → ω → Except η Unit × Responder κ γ × ω

/-- What a receiver does with a port. -/
abbrev ReceiverM (κ γ σ ε η α : Type) : Type :=
  ExceptT (ReceiveError ε η) (StateT (Receiver κ γ) (StateM (Port σ ε))) α

namespace Receiver

/-- A receiver that waits for frames as long as a transaction may take. -/
def create (responder : Responder κ γ) (config : LineConfig) : Receiver κ γ :=
  ⟨responder, config.transactionTimeout⟩

/-- Uses the port. -/
def onPort (task : PortM σ ε α) : ReceiverM κ γ σ ε η α :=
  ExceptT.mk do
    let result ← StateT.lift task.run
    pure (result.mapError .port)

/-- The result of a use of the port, whether it failed or not. -/
def tryPort (task : PortM σ ε α) : ReceiverM κ γ σ ε η (Except (PortError ε) α) :=
  ExceptT.mk (Except.ok <$> StateT.lift task.run)

/-- Uses the responder and the world around the port. -/
def onResponder (f : Responder κ γ → σ → α × Responder κ γ × σ) : ReceiverM κ γ σ ε η α :=
  ExceptT.mk fun receiver => do
    let p ← (get : StateM (Port σ ε) (Port σ ε))
    let (a, responder, world) := f receiver.responder p.world
    set { p with world := world }
    pure (.ok a, { receiver with responder := responder })

variable (line : Transport σ ε)

/-- Waits until the turnaround behind a request is over. -/
def waitTurnaround (receivedAt : UInt64) : PortM σ ε Unit := do
  let now ← Port.now line
  let elapsed := now - receivedAt
  if elapsed < Timing.responderTurnaround.toUInt64 then
    Port.delay line (Timing.responderTurnaround - elapsed.toUInt32)

/-- Sends what a responder answers. -/
def sendAnswer (receivedAt : UInt64) (answer : Answer) : PortM σ ε Unit := do
  let timeout := (← get).config.transactionTimeout
  match answer with
  | .response response =>
    let packet := (Message.response response).encode
    if (← Port.write line packet) ≠ packet.length then throw .bufferOverflow
    else
      waitTurnaround line receivedAt
      Port.sendFrame line packet.length true .receive
      Port.waitSent line timeout
  | .discovery uid =>
    waitTurnaround line receivedAt
    Port.sendNoBreak line (DiscoveryReply.encode uid)
    Port.waitSent line timeout
  | .silent => pure ()

/-- Handles a request that a packet carries. -/
def handlePacket (reception : Reception κ γ σ η) (packet : Bytes) (receivedAt : UInt64) :
    ReceiverM κ γ σ ε η Unit := do
  match Message.decode packet with
  | .error e => throw (.malformed e)
  | .ok (.response _) => throw .notMatching
  | .ok (.request request) =>
    match ← onResponder (Responder.handle reception.custom reception.fallback request) with
    | .fallbackFailed e => throw (.handler e)
    | .broken fault pid => throw (.broken fault pid)
    | .answered answer => onPort (sendAnswer line receivedAt answer)

/-- Handles a received frame by its start code. -/
def handleFrame (reception : Reception κ γ σ η) (frame : Bytes) (receivedAt : UInt64) :
    ReceiverM κ γ σ ε η Unit := do
  match frame with
  | [] => throw .wrongSize
  | start :: _ =>
    if start = Packet.startCode then handlePacket line reception frame receivedAt
    else
      match ← onResponder (reception.frame frame) with
      | .error e => throw (.handler e)
      | .ok _ => pure ()

/-- Waits for a frame and handles it; says whether one was received. -/
def poll (reception : Reception κ γ σ η) : ReceiverM κ γ σ ε η Bool := do
  match ← tryPort (Port.receive line (← getThe (Receiver κ γ)).pollTimeout) with
  | .error .timeout => pure false
  | .error e => throw (.port e)
  | .ok _ =>
    let receivedAt ← onPort (Port.now line)
    let frame ← onPort (Port.frame line)
    handleFrame line reception frame receivedAt
    pure true

end Receiver

end LightingBus
