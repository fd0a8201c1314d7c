import LightingBus.Line.Engine.Basic

/-!
# Sending

A frame is announced by a break and a mark, then its bytes are handed to the transport, as many at
a time as it accepts. Break and mark end with an alarm, or are waited for if the clock has no
alarms.
-/

namespace LightingBus

namespace Engine

variable (line : Transport σ ε)

/-- Hands the transport what it accepts of the bytes left. -/
def writeChunk (e : Engine) (w : σ) : Except ε Unit × Engine × σ :=
  if e.front.head < e.front.sendSize then
    match line.write e.front.pending w with
    | (.error x, w) => (.error x, e, w)
    | (.ok count, w) => (.ok (), { e with front := e.front.advance count }, w)
  else (.ok (), e, w)

/-- The last byte has left; the line is turned around. -/
def finishSend (e : Engine) : Engine :=
  let e := { e with txState := .done }
  match e.turnaround with
  | .none => e
  | .receive => e.armReceive false
  | .receiveNoBreak => e.armReceive true

/-- Begins with the bytes of a frame. A frame without bytes is sent at once. -/
def startData (e : Engine) (w : σ) : Except ε Unit × Engine × σ :=
  match writeChunk line { e with txState := .sending } w with
  | (.error x, e, w) => (.error x, e, w)
  | (.ok _, e, w) => (.ok (), if e.front.sendSize = 0 then e.finishSend else e, w)

/-- Ends the break; the mark follows. -/
def endBreak (e : Engine) (w : σ) : Except ε Unit × Engine × σ :=
  match line.releaseBreak w with
  | (.error x, w) => (.error x, e, w)
  | (.ok _, w) =>
    let e := { e with txState := .inMab }
    match line.setAlarm e.timing.markLength w with
    | (true, w) => (.ok (), e, w)
    | (false, w) => startData line e (line.delay e.timing.markLength w)

/-- Begins a break. -/
def startBreak (e : Engine) (now : UInt64) (w : σ) : Except ε Unit × Engine × σ :=
  let e := { e with lastBreak := some now, txState := .inBreak }
  match line.assertBreak w with
  | (.error x, w) => (.error x, e, w)
  | (.ok _, w) =>
    match line.setAlarm e.timing.breakLength w with
    | (true, w) => (.ok (), e, w)
    | (false, w) => endBreak line e (line.delay e.timing.breakLength w)

/-- The last break is so recent that the transport makes the next one by itself. -/
def breakRecent (e : Engine) (now : UInt64) : Bool :=
  e.lastBreak.any fun last => now - last < e.timing.maxBreakToBreak.toUInt64

/-- Begins a frame, with or without a break. -/
def startFrame (e : Engine) (withBreak : Bool) (w : σ) : Except ε Unit × Engine × σ :=
  let (now, w) := line.now w
  if withBreak then
    if line.autoBreak && e.breakRecent now then
      startData line { e with lastBreak := some now } w
    else startBreak line e now w
  else startData line e w

/-- Sends the first `size` bytes of the front buffer. -/
def beginSend (e : Engine) (size : Nat) (withBreak : Bool) (turnaround : Turnaround) (w : σ) :
    Except (PortError ε) Unit × Engine × σ :=
  if e.isSending then (.error .busy, e, w)
  else if e.front.capacity < size then (.error .bufferOverflow, e, w)
  else
    let e := e.setMode .transmit
    let e := { e with turnaround := turnaround, front := e.front.prepare size }
    match startFrame line e withBreak w with
    | (.error x, e, w) => (.error (.driver x), { e with txState := .idle }, w)
    | (.ok _, e, w) => (.ok (), e, w)

end Engine

end LightingBus
