import LightingBus.Line.Engine.Basic
import LightingBus.Packet.DiscoveryReply

/-!
# Receiving

A frame begins with a break, or without one where a discovery reply is awaited. It ends as soon as
its bytes tell so, with the next break, or when the line is idle. A frame that was damaged is given
up as a whole.
-/

namespace LightingBus

namespace Engine

/-- Ends the frame being received after `size` bytes and exchanges the buffers. -/
def completeFrame (e : Engine) (size : Nat) : Engine :=
  { e with
    front := e.back.complete size
    back := e.front.rewind
    rxState := .frameComplete
    rxWithoutBreak := false
    frameReady := true }

/-- Bytes are received only by an engine that listens and does not send. -/
def acceptsRx (e : Engine) : Bool :=
  e.mode == .receive && !e.isSending

/-- A break ends the frame before it and begins the next. -/
def onBreak (e : Engine) (now : UInt64) : Engine :=
  if e.acceptsRx then
    let e := if e.rxState = .inData ∧ 0 < e.back.head then e.completeFrame e.back.head else e
    { e with
      back := e.back.rewind
      rxState := .inBreak
      rxWithoutBreak := false
      lastReceived := now }
  else e

/-- The size of a frame as far as its first bytes tell it: the third byte of a packet counts all
bytes but the checksum, and sixteen bytes follow the separator of a discovery reply. -/
def sizeTold? (withoutBreak : Bool) (frame : Bytes) : Option Nat :=
  if withoutBreak then
    (DiscoveryReply.separatorIndex? frame).map (· + 1 + DiscoveryReply.bodyLength)
  else
    match frame with
    | start :: _ :: length :: _ =>
      if start = Packet.startCode then some (length.toNat + 2) else none
    | _ => none

/-- Ends the frame being received if its size is known and reached. -/
def completeIfTold (e : Engine) : Engine :=
  match sizeTold? e.rxWithoutBreak e.back.filled with
  | some size => if size ≤ e.back.head then e.completeFrame size else e
  | none => e

/-- The state in which received bytes are taken, or nothing if they belong to no frame. -/
def beginData? (e : Engine) : Option Engine :=
  match e.rxState with
  | .idle | .frameComplete =>
    if e.expectNoBreak then
      some { e with back := e.back.rewind, rxWithoutBreak := true, rxState := .inData }
    else none
  | .error => none
  | .inBreak | .inMab | .inData => some { e with rxState := .inData }

variable (line : Transport σ ε)

/-- Forgets what was received. -/
def discard (e : Engine) (w : σ) : Except ε Unit × Engine × σ :=
  match line.flushReceived w with
  | (.error x, w) => (.error x, e, w)
  | (.ok _, w) => (.ok (), e, w)

/-- The slots are used up. A further byte means that the frame is too long, and it is given up. -/
def probeFull (e : Engine) (w : σ) : Except ε Unit × Engine × σ :=
  match line.read 1 w with
  | (.error x, w) => (.error x, e, w)
  | (.ok [], w) => (.ok (), e.completeIfTold, w)
  | (.ok _, w) =>
    match line.flushReceived w with
    | (.error x, w) => (.error x, e, w)
    | (.ok _, w) =>
      (.ok (), { e.abortReceive with
        rxState := .error, faults := { e.faults with bufferOverflow := true } }, w)

/-- Takes bytes that belong to the frame being received. -/
def takeBytes (e : Engine) (w : σ) : Except ε Unit × Engine × σ :=
  match line.read (e.back.capacity - e.back.head) w with
  | (.error x, w) => (.error x, e, w)
  | (.ok bytes, w) =>
    let e := { e with back := e.back.append bytes }
    if e.back.head = e.back.capacity then probeFull line e w else (.ok (), e.completeIfTold, w)

/-- Bytes were received. -/
def onRxData (e : Engine) (now : UInt64) (w : σ) : Except ε Unit × Engine × σ :=
  if e.acceptsRx then
    match e.beginData? with
    | none => discard line e w
    | some e => takeBytes line { e with lastReceived := now } w
  else discard line e w

/-- The line is idle: a frame with bytes is complete, one without is given up. -/
def onRxTimeout (e : Engine) : Engine :=
  if e.isReceiving then
    if e.rxState = .inData ∧ 0 < e.back.head then e.completeFrame e.back.head
    else e.abortReceive
  else e

/-- Notices an idle line where the transport does not. -/
def checkIdle (e : Engine) (now : UInt64) : Engine :=
  if e.rxState = .inData ∧ e.timing.receiveTimeout.toUInt64 ≤ now - e.lastReceived then
    e.onRxTimeout
  else e

end Engine

end LightingBus
