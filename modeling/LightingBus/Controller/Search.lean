import LightingBus.Controller.Basic
import LightingBus.Discovery
import LightingBus.Packet.DiscoveryReply

/-!
# Searching for devices

A controller asks the devices in a range of identifiers to answer, and mutes the ones it found. With
these two it is a bus that discovery can sweep.
-/

namespace LightingBus

namespace Controller

/-- The low 48 bits of a number as six bytes. -/
def boundBytes (number : Nat) : Bytes :=
  Bytes.ofWord (UInt16.ofNat (number / 0x100000000)) ++ Bytes.ofDword (UInt32.ofNat number)

@[simp] theorem length_boundBytes (number : Nat) : (boundBytes number).length = 6 := rfl

/-- The inquiry that asks the devices in a range to answer. -/
def branchInquiry (lower upper : Nat) : Inquiry where
  destination := .broadcast
  subDevice := SubDevice.root
  pid := Pid.discUniqueBranch
  data := ⟨boundBytes lower ++ boundBytes upper, by simp [maxParameterLength]⟩

variable (line : Transport σ ε)

/-- Sends the question and waits for an answer. Answers that collide damage the frame. -/
def branchExchange (lower upper : Nat) (transaction : UInt8) :
    ControllerM σ ε Discovery.Branch := do
  let c ← getThe Controller
  sendMessage line (c.message .discovery (branchInquiry lower upper) transaction) .receiveNoBreak
  match ← tryPort (Port.receive line (← config).responseTimeout) with
  | .error .timeout => pure .nobody
  | .error .framing | .error .bufferOverflow | .error .uartOverflow => pure .collision
  | .error e => throw (.ofPort e)
  | .ok _ =>
    match DiscoveryReply.decode (← onPort (Port.frame line)) with
    | .ok uid => pure (.found uid)
    | .error _ => pure .collision

/-- Asks the devices in a range that are not muted to answer. -/
def discover (lower upper : Nat) : ControllerM σ ε Discovery.Branch := do
  let transaction ← onPort (Port.nextTransaction line)
  withLock line (preserving line (branchExchange line lower upper transaction))

/-- The reply of a device that was muted or unmuted; a broadcast has none. -/
def readMuteReply : Reply → Except (RequestError ε) (Option MuteReply)
  | .complete content =>
    match MuteReply.decode? content.data.bytes with
    | none => .error .dataMalformed
    | some reply => .ok (some reply)
  | .incomplete _ => .error .dataMalformed
  | .broadcast => .ok none

/-- The addressed devices do not answer searches any more. -/
def mute (destination : Address) : ControllerM σ ε (Option MuteReply) := do
  conclude (readMuteReply (← request line .discovery (.bare destination Pid.discMute)))

/-- The addressed devices answer searches again. -/
def unmute (destination : Address) : ControllerM σ ε (Option MuteReply) := do
  conclude (readMuteReply (← request line .discovery (.bare destination Pid.discUnMute)))

/-- Mutes a device and says whether it confirmed. No answer, and one that is no response to the
request, is no confirmation. -/
def confirmMute (uid : Uid) : ControllerM σ ε Bool := do
  match ← attempt (mute line (.device uid)) with
  | .ok _ => pure true
  | .error (.port .timeout) | .error (.port (.malformed _)) | .error .notMatching
  | .error .responseInvalid => pure false
  | .error e => throw e

/-- A task as a function of the controller and the port. -/
def runWith (task : ControllerM σ ε α) (s : Controller × Port σ ε) :
    Except (RequestError ε) α × Controller × Port σ ε :=
  let ((result, c), p) := (task.run.run s.1).run s.2
  (result, c, p)

/-- The controller and its port as a bus that can be searched. -/
def bus : Discovery.Bus (Controller × Port σ ε) (RequestError ε) where
  branch lower upper := runWith (discover line lower upper)
  mute uid := runWith (confirmMute line uid)

/-- What the slots of a search hold before it. -/
def noUid : Uid := ⟨0, 0, by decide⟩

/-- Searches all devices and returns those it found and muted, at most this many. -/
def searchAll (slots : Nat) : ControllerM σ ε (List Uid) :=
  ExceptT.mk fun c p =>
    let sweep := Discovery.sweepAll (bus line) (List.replicate slots noUid) (c, p)
    ((sweep.result.map sweep.slots.take, sweep.bus.1), sweep.bus.2)

end Controller

end LightingBus
