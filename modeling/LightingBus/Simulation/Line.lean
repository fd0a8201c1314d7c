import LightingBus.Simulation.Handlers

/-!
# A simulated line

The transport of a simulated world. It accepts what it is given, reacts to requests as the script or
the devices on the line do, and delivers what arrives when it is polled.
-/

namespace LightingBus

namespace Simulation

/-- A frame that begins with a break. -/
def frameItems (frame : Bytes) : List Item :=
  [.event .breakDetected, .data frame, .event .rxTimeout]

/-- Bytes without a break in front of them. -/
def bareItems (bytes : Bytes) : List Item :=
  [.data bytes, .event .rxTimeout]

/-! ## Scripted devices -/

namespace ScriptedResponse

/-- The device that answers a broadcast. -/
def spokesman : Uid := ⟨0x7FF0, 0x42, by decide⟩

/-- The response before its bytes are replaced. -/
def message (s : ScriptedResponse) (request : Request) : Message :=
  let uid := request.destination.uid?.getD spokesman
  let r := request.respondAs uid s.type s.data s.messageCount
  .response { r with
    transaction := r.transaction + s.transactionOffset
    source := s.source.getD r.source
    destination := s.destination.getD r.destination
    pid := s.pid.getD r.pid }

/-- Replaces the last two bytes by the sum of all others. -/
def withChecksum (packet : Bytes) : Bytes :=
  let content := packet.take (packet.length - 2)
  content ++ Bytes.ofWord (Bytes.checksum content)

/-- The packet that a scripted device sends. -/
def packet (s : ScriptedResponse) (request : Request) : Bytes :=
  let patched := s.patches.foldl (fun bs (index, byte) => bs.set index byte)
    (s.message request).encode
  if s.fixChecksum then withChecksum patched else patched

end ScriptedResponse

/-- What arrives after a request. -/
def Reaction.arrivals (request : Request) : Reaction → List Item
  | .respond response => frameItems (response.packet request)
  | .discovery uid => bareItems (DiscoveryReply.encode uid)
  | .items script => script

/-! ## Devices on the line -/

/-- What the devices on the line answered. -/
structure Answers where
  discoveries : List Uid := []
  responses : List Response := []

/-- Puts the answer of a device in front of the answers of those behind it. -/
def Answers.cons (outcome : Responder.Outcome SampleFailure) (answers : Answers) : Answers :=
  match outcome with
  | .answered (.response r) => { answers with responses := r :: answers.responses }
  | .answered (.discovery uid) => { answers with discoveries := uid :: answers.discoveries }
  | _ => answers

/-- Hands a request to devices in order. The devices behind one that halts the world do not hear of
it. -/
def askDevices (request : Request) :
    List Device → World → Answers × List Device × World
  | [], w => ({}, [], w)
  | device :: rest, w =>
    let (outcome, device, w) := handle .refuse request device w
    if w.halted then ({}, device :: rest, w)
    else
      let (answers, rest, w) := askDevices request rest w
      (answers.cons outcome, device :: rest, w)

/-- What arrives if devices answer: answers that overlap destroy each other. -/
def Answers.arrivals (answers : Answers) : List Item :=
  let discovery := match answers.discoveries with
    | [] => []
    | [uid] => bareItems (DiscoveryReply.encode uid)
    | _ => [.data [0xFE, 0xFE, 0xFE], .event .parityError]
  let response := match answers.responses with
    | [r] => frameItems (Message.response r).encode
    | _ => []
  discovery ++ response

/-- Lets a request reach the script or the devices. -/
def react (request : Request) (w : World) : World :=
  match w.replies with
  | reactions :: rest =>
    { w with replies := rest }.enqueue (reactions.flatMap (Reaction.arrivals request))
  | [] =>
    let (answers, devices, w) := askDevices request w.devices w
    { w with devices := devices }.enqueue answers.arrivals

/-! ## The transport -/

/-- An operation that fails if the world says so. -/
def unlessFailing (call : LineCall) (w : World) (f : World → α × World) :
    Except LineCall α × World :=
  if w.failing.contains call then (.error call, w)
  else
    let (a, w) := f w
    (.ok a, w)

/-- Lets the line carry bytes; a request among them is reacted to. -/
def carry (bytes : Bytes) (w : World) : World :=
  let w := w.record (.write bytes)
  let w := if w.autoDone then w.enqueue [.event .txDone] else w
  match Message.decode bytes with
  | .ok (.request request) => react request w
  | _ => w

/-- Accepts bytes. Nothing is accepted in a halted world, nor if the bytes halt it. -/
def write (bytes : Bytes) (w : World) : Nat × World :=
  if w.halted then (0, w)
  else
    let taken := if w.chunk = 0 then bytes else bytes.take w.chunk
    let w := carry taken w
    (if w.halted then 0 else taken.length, w)

/-- The next item that arrives. -/
def poll (w : World) : Option Event × World :=
  match w.queue with
  | .event e :: rest => (some e, { w with queue := rest })
  | .data bytes :: rest =>
    (some .rxData, { w with queue := rest, received := w.received ++ bytes })
  | .gap :: rest => (none, { w with queue := rest, now := w.now + w.idle })
  | [] => (none, { w with now := w.now + w.idle })

/-- How long reading the clock takes while it is read again and again. -/
def spinStep : Nat := 7

/-- Waits. A spinning clock is read once, and then until the time is over, at least once. -/
def delay (micros : UInt32) (w : World) : World :=
  let w := w.record (.delay micros)
  let elapsed := if w.spin then
      spinStep * (max 1 ((micros.toNat + (spinStep - 1)) / spinStep) + 1)
    else micros.toNat
  { w with now := w.now + UInt64.ofNat elapsed }

/-- Sets an alarm if the clock has alarms. -/
def setAlarm (micros : UInt32) (w : World) : Bool × World :=
  if w.alarms then
    let w := w.record (.alarm micros)
    (true, if w.queueAlarms then w.enqueue [.event .alarm] else w)
  else (false, w)

/-- The transport of a simulated world. -/
def line : Transport World LineCall where
  autoBreak := false
  write bytes w := unlessFailing .write w (write bytes)
  read count w := unlessFailing .read w fun w =>
    (w.received.take count, { w with received := w.received.drop count })
  assertBreak w := unlessFailing .assertBreak w fun w => ((), w.record .assertBreak)
  releaseBreak w := unlessFailing .releaseBreak w fun w => ((), w.record .releaseBreak)
  flushReceived w := unlessFailing .flushReceived w fun w =>
    ((), { w with received := [] }.record .flushReceived)
  flushQueued w := unlessFailing .flushQueued w fun w => ((), w.record .flushQueued)
  poll := poll
  interrupts w := ([], w)
  now w := (w.now, { w with now := w.now + w.step })
  delay := delay
  setAlarm := setAlarm

/-- A line that makes its own breaks. -/
def autoBreakLine : Transport World LineCall :=
  { line with autoBreak := true }

/-- A line that cannot be polled and does not keep what it accepted. -/
def bareLine : Transport World LineCall :=
  { line with
    flushQueued := fun w => (.ok (), w)
    poll := fun w => (none, w) }

end Simulation

end LightingBus
