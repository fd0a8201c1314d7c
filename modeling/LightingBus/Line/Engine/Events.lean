import LightingBus.Line.Engine.Receiving
import LightingBus.Line.Engine.Sending

/-!
# Events

What the engine does on each event of the transport. If the driver fails meanwhile, the frame being
received is given up, and so is the frame being sent.
-/

namespace LightingBus

namespace Engine

variable (line : Transport σ ε)

/-- Received bytes were lost: the rest of them is forgotten as well. -/
def onOverflow (e : Engine) (w : σ) : Except ε Unit × Engine × σ :=
  match line.flushReceived w with
  | (.error x, w) => (.error x, e, w)
  | (.ok _, w) =>
    (.ok (), { e.abortReceive with
      rxState := .error, faults := { e.faults with uartOverflow := true } }, w)

/-- A byte was damaged, which matters while a frame is received. -/
def onParityError (e : Engine) : Engine :=
  if e.isReceiving then
    { e.abortReceive with faults := { e.faults with framingError := true } }
  else e

/-- The last accepted byte has left: the next ones follow, or the frame is sent. -/
def onTxDone (e : Engine) (w : σ) : Except ε Unit × Engine × σ :=
  if e.txState = .sending then
    if e.front.head < e.front.sendSize then writeChunk line e w else (.ok (), e.finishSend, w)
  else (.ok (), e, w)

/-- Break and mark of a frame being sent end with an alarm. -/
def onAlarm (e : Engine) (w : σ) : Except ε Unit × Engine × σ :=
  match e.txState with
  | .inBreak => endBreak line e w
  | .inMab => startData line e w
  | .idle | .sending | .done => (.ok (), e, w)

/-- What an event does as long as the driver does not fail. -/
def handle (event : Event) (e : Engine) (w : σ) : Except ε Unit × Engine × σ :=
  match event with
  | .breakDetected =>
    let (now, w) := line.now w
    (.ok (), e.onBreak now, w)
  | .mabElapsed => (.ok (), if e.rxState = .inBreak then { e with rxState := .inMab } else e, w)
  | .rxData =>
    let (now, w) := line.now w
    onRxData line e now w
  | .rxTimeout => (.ok (), e.onRxTimeout, w)
  | .parityError => (.ok (), e.onParityError, w)
  | .overflow => onOverflow line e w
  | .txEmpty => if e.txState = .sending then writeChunk line e w else (.ok (), e, w)
  | .txDone => onTxDone line e w
  | .alarm => onAlarm line e w

/-- The driver failed. -/
def fail (e : Engine) : Engine :=
  let e := { e with faults := { e.faults with driverError := true } }.abortReceive
  if e.isSending then { e with txState := .idle } else e

/-- Handles an event; an error of the driver is returned and counts as a fault. -/
def onEvent (event : Event) (e : Engine) (w : σ) : Except ε Unit × Engine × σ :=
  match handle line event e w with
  | (.error x, e, w) => (.error x, e.fail, w)
  | (.ok _, e, w) => (.ok (), e, w)

end Engine

end LightingBus
