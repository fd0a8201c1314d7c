import LightingBus.Controller.Parameters
import LightingBus.Controller.Search
import LightingBus.Responder.Operations
import LightingBus.Simulation.Line
import LightingBus.Simulation.Storage

/-!
# A bench

A controller and a receiver at a port of a simulated line, and the devices on it, so that the
library can be tried without hardware.
-/

namespace LightingBus

namespace Simulation

/-- A device, its permanent storage and the world around it. -/
structure Site where
  device : Device
  storage : MemoryStorage
  world : World

namespace Site

/-- Hands a request to the device. -/
def handle (fallback : SampleFallback) (request : Request) (s : Site) :
    Responder.Outcome SampleFailure × Site :=
  let (outcome, device, world) := Simulation.handle fallback request s.device s.world
  (outcome, { s with device := device, world := world })

/-- The listeners of the device note what changed. -/
def drained (s : Site) : Site :=
  let (device, world) := World.drain s.device s.world
  { s with device := device, world := world }

end Site

/-- A controller and a receiver at one port. -/
structure Bench where
  port : Port World LineCall
  controller : Controller
  receiver : Receiver SampleHandler Listener
  /-- The permanent storage of the receiver's device. -/
  storage : MemoryStorage := {}
  /-- The permanent storage that the devices on the line share. -/
  lineStorage : MemoryStorage := {}
  /-- A saved front buffer. -/
  snapshot : FrameBuffer := .empty 0
  /-- How many guards of the lock are held. -/
  guards : Nat := 0

namespace Bench

/-- Changes the world around the port. -/
def mapWorld (f : World → World) (b : Bench) : Bench :=
  { b with port := { b.port with world := f b.port.world } }

/-- Runs a task of the port. -/
def onPort (task : PortM World LineCall α) (b : Bench) :
    Except (PortError LineCall) α × Bench :=
  let (result, port) := task.run.run b.port
  (result, { b with port := port })

/-- Takes the lock of the port and holds its guard. -/
def lock (line : Transport World LineCall) (timeout : UInt32) (b : Bench) :
    Except (PortError LineCall) Unit × Bench :=
  let (result, b) := b.onPort (Port.lock line timeout)
  (result, { b with guards := b.guards + if result.toBool then 1 else 0 })

/-- Holds one more guard, if one is held. -/
def nest (line : Transport World LineCall) (b : Bench) : Bool × Bench :=
  if b.guards = 0 then (false, b)
  else
    let (_, b) := b.onPort (Port.nest line)
    (true, { b with guards := b.guards + 1 })

/-- Drops a guard, if one is held. -/
def unlock (line : Transport World LineCall) (b : Bench) : Bool × Bench :=
  if b.guards = 0 then (false, b)
  else
    let (_, b) := b.onPort (Port.unlock line)
    (true, { b with guards := b.guards - 1 })

/-- Runs a task of the controller. -/
def onController (task : ControllerM World LineCall α) (b : Bench) :
    Except (RequestError LineCall) α × Bench :=
  let (result, controller, port) := Controller.runWith task (b.controller, b.port)
  (result, { b with controller := controller, port := port })

/-- Uses the device of the receiver. -/
def onReceiver (f : Site → α × Site) (b : Bench) : α × Bench :=
  let (a, s) := f ⟨b.receiver.responder, b.storage, b.port.world⟩
  let s := s.drained
  (a, { b.mapWorld fun _ => s.world with
    receiver := { b.receiver with responder := s.device }
    storage := s.storage })

/-- Uses a device on the line, if there is one with this index. -/
def onDevice (index : Nat) (f : Site → α × Site) (b : Bench) : Option α × Bench :=
  match b.port.world.devices[index]? with
  | none => (none, b)
  | some device =>
    let (a, s) := f ⟨device, b.lineStorage, b.port.world⟩
    let s := s.drained
    let world := { s.world with devices := s.world.devices.set index s.device }
    (some a, { b.mapWorld fun _ => world with lineStorage := s.storage })

/-- Lets the receiver wait for a frame and handle it. -/
def pollReceiver (line : Transport World LineCall) (fallback : SampleFallback) (b : Bench) :
    Except (ReceiveError LineCall SampleFailure) Bool × Bench :=
  let ((result, receiver), port) :=
    ((Receiver.poll line (reception fallback)).run.run b.receiver).run b.port
  let (device, world) := World.drain receiver.responder port.world
  let world := match result with
    | .error (.broken _ pid) => world.halt pid
    | _ => world
  (result, { b with
    receiver := { receiver with responder := device }
    port := { port with world := world } })

end Bench

end Simulation

end LightingBus
