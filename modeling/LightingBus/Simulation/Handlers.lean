import LightingBus.Receiver
import LightingBus.Simulation.World

/-!
# Handlers of simulated devices

What the custom handlers do, and receivers whose frames are noted.
-/

namespace LightingBus

namespace Simulation

/-- The number that parameter data names: its first word, or its only byte, or zero. -/
def wordOf : Bytes → UInt16
  | [] => 0
  | [a] => a.toUInt16
  | a :: b :: _ => Bytes.word a b

/-- The meaning of a custom handler. -/
def SampleHandler.run (handler : SampleHandler) : Responder.Handler SampleHandler Listener World :=
  fun request device w =>
    let (device, w) := World.drain device w
    let data := request.data
    let word := wordOf data.bytes
    match handler with
    | .echo => (.done (.acknowledged data), device, w)
    | .overflow => (.done (.acknowledgedOverflow data), device, w)
    | .timer => (.done (.acknowledgedTimer word), device, w)
    | .nack => (.done (.notAcknowledged word), device, w)
    | .err => (.refused ((NackReason.ofCode? word).getD .proxyReject), device, w)
    | .silent => (.done .silent, device, w)
    | .disc => (.done .discovery, device, w)
    | .custom => (.done (.custom (request.respondAs device.uid .ackTimer data 99)), device, w)
    | .context =>
      (Responder.acknowledgeEmpty, device,
        w.note (.context device request.subDevice request.pid))
    | .even =>
      if request.subDevice % 2 = 1 then (.refused .bufferFull, device, w)
      else
        let (verdict, device) := Responder.simpleSet request device
        (verdict, device, w)
    | .slow => (.done (.acknowledged data), device, { w with now := w.now + word.toUInt64 })

/-- How a handler of frames or of undefined parameters fails. -/
inductive SampleFailure where
  /-- A request was not handled. -/
  | request
  /-- A frame was not handled. -/
  | frame
  /-- A built-in handler broke a promise. -/
  | broken
  deriving DecidableEq

/-- A failure in words. -/
def SampleFailure.text : SampleFailure → String
  | .request => "handler failed"
  | .frame => "dmx failed"
  | .broken => "broken handler"

/-- Requests for parameters without a definition are refused, fail, or are handled by a handler
whose errors are refusals. -/
inductive SampleFallback where
  | refuse
  | fail
  | handler (name : DeviceHandler)

/-- The meaning of a fallback. -/
def SampleFallback.run :
    SampleFallback → Responder.Fallback SampleHandler Listener World SampleFailure
  | .refuse => Responder.noFallback
  | .fail => fun _ device w => (.error .request, device, w)
  | .handler name => fun request device w =>
    match Responder.interpret SampleHandler.run name request device w with
    | (.done result, device, w) => (.ok result, device, w)
    | (.refused reason, device, w) => (.ok (.notAcknowledged reason.code), device, w)
    | (.broken _, device, w) => (.error .broken, device, w)

/-- Hands a request to a device, whose listeners note what changed. If the device breaks a promise,
the world is halted behind their notes. -/
def handle (fallback : SampleFallback) (request : Request) (device : Device) (w : World) :
    Responder.Outcome SampleFailure × Device × World :=
  let (outcome, device, w) := Responder.handle SampleHandler.run fallback.run request device w
  let (device, w) := World.drain device w
  match outcome with
  | .broken _ pid => (outcome, device, w.halt pid)
  | _ => (outcome, device, w)

/-- A receiver that refuses what is not defined and ignores frames, one that fails at both, and one
that uses a handler and notes frames. -/
def reception (fallback : SampleFallback) :
    Reception SampleHandler Listener World SampleFailure where
  custom := SampleHandler.run
  fallback := fallback.run
  frame frame device w :=
    match fallback with
    | .refuse => (.ok (), device, w)
    | .fail => (.error .frame, device, w)
    | .handler _ =>
      let (device, w) := World.drain device w
      (.ok (), device, w.note (.frame frame device.startAddress))

end Simulation

end LightingBus
