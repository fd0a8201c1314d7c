import LightingBus.Format.Records
import LightingBus.Format.Written
import LightingBus.Responder.Handlers

/-!
# Dispatching requests

A request is checked against the definition of its parameter and handed to the parameter's handler.
A request to all sub-devices is applied to every device that has the parameter or to none of them.
Requests for parameters without a definition go to a fallback.
-/

namespace LightingBus

namespace Responder

/-- Handles a parameter that has no definition; it may fail in a way of its own. -/
abbrev Fallback (κ γ ω ε : Type) : Type :=
  Request → Responder κ γ → ω → Except ε HandlerResult × Responder κ γ × ω

/-- Refuses every parameter. -/
def noFallback : Fallback κ γ ω ε :=
  fun _ r w => (.ok (.notAcknowledged NackReason.unknownPid.code), r, w)

/-- What a handler's name stands for, given the meaning of custom names. -/
def interpret (custom : κ → Handler κ γ ω) : HandlerName κ → Handler κ γ ω
  | .builtin handler => fun request r w =>
    let (verdict, r) := handler.run request r
    (verdict, r, w)
  | .custom name => custom name

/-- The parameter data of an answer has the format its definition promises. -/
def keepsPromise (format : CommandFormat) : Verdict → Bool
  | .done (.acknowledged data) =>
    match Format.parse format.response with
    | .error _ => false
    | .ok format => (format.validate data.bytes).toBool
  | _ => true

/-- Finds out whether an answer has the promised format. -/
def inspect (format : CommandFormat) (verdict : Verdict) : Verdict :=
  if keepsPromise format verdict then verdict else .broken .wrongResponse

/-- Why the parameter data of a request is refused, if it is. -/
def refusal? (format : CommandFormat) (data : Bytes) : Option NackReason :=
  match Format.parse format.request with
  | .error _ => some .hardwareFault
  | .ok format =>
    match format.validate data with
    | .error _ => some .formatError
    | .ok _ => none

/-! ## Requests to all sub-devices -/

/-- The devices that have a parameter; a parameter that no device has is left to the device
itself. -/
def holders (store : Store η γ) (pid : UInt16) : List UInt16 :=
  match store.devices.filter fun device => store.hasInstance ⟨device, pid⟩ with
  | [] => [SubDevice.root]
  | devices => devices

/-- The values that devices have before a request is applied to them. A value that does not fit
into one packet could not be put back. -/
def previousValues? (store : Store η γ) (pid : UInt16) :
    List UInt16 → Option (List (UInt16 × Option ParameterData))
  | [] => some []
  | device :: rest =>
    match store.get ⟨device, pid⟩ with
    | .error _ => (previousValues? store pid rest).map ((device, none) :: ·)
    | .ok value =>
      match ParameterData.ofBytes? value with
      | none => none
      | some data => (previousValues? store pid rest).map ((device, some data) :: ·)

/-- Puts one value back; what cannot be put back stays as it is. -/
def putBack (pid : UInt16) (store : Store η γ) (previous : UInt16 × Option ParameterData) :
    Store η γ :=
  match previous.2 with
  | none => store
  | some value => (Store.Change.set ⟨previous.1, pid⟩ value.bytes store).2

/-- Applies a request to devices in order. If one refuses, the values of those before it are put
back, the last one first. -/
def applyEach (handler : Handler κ γ ω) (request : Request) :
    List (UInt16 × Option ParameterData) → List (UInt16 × Option ParameterData) →
      Responder κ γ → ω → Verdict × Responder κ γ × ω
  | [], _, r, w => (acknowledgeEmpty, r, w)
  | (device, previous) :: rest, applied, r, w =>
    match handler { request with subDevice := device } r w with
    | (.done _, r, w) => applyEach handler request rest ((device, previous) :: applied) r w
    | (.refused reason, r, w) =>
      (.refused reason, { r with store := applied.foldl (putBack request.pid) r.store }, w)
    | (.broken fault, r, w) => (.broken fault, r, w)

/-- Applies a request to all devices that have its parameter. -/
def applyToAll (handler : Handler κ γ ω) (request : Request) (r : Responder κ γ) (w : ω) :
    Verdict × Responder κ γ × ω :=
  if request.commandClass ≠ .set then (.refused .subDeviceOutOfRange, r, w)
  else
    match previousValues? r.store request.pid (holders r.store request.pid) with
    | none => (.refused .hardwareFault, r, w)
    | some devices => applyEach handler request devices [] r w

/-! ## Requests to one device -/

/-- Applies a request to the device it names. -/
def applyToOne (handler : Handler κ γ ω) (format : CommandFormat) (request : Request)
    (r : Responder κ γ) (w : ω) : Verdict × Responder κ γ × ω :=
  if r.store.hasDevice request.subDevice then
    let (verdict, r, w) := handler request r w
    (inspect format verdict, r, w)
  else (.refused .subDeviceOutOfRange, r, w)

/-- Hands a request to the handler of its parameter. Discovery commands have no format and are not
checked. -/
def dispatch (custom : κ → Handler κ γ ω) (d : ParameterDefinition (HandlerName κ))
    (request : Request) (r : Responder κ γ) (w : ω) : Verdict × Responder κ γ × ω :=
  match d.handlers.forCommand? request.commandClass with
  | none => (.refused .unsupportedCommandClass, r, w)
  | some name =>
    let handler := interpret custom name
    match d.format? request.commandClass with
    | none => handler request r w
    | some format =>
      match refusal? format request.data.bytes with
      | some reason => (.refused reason, r, w)
      | none =>
        if request.subDevice = SubDevice.every then applyToAll handler request r w
        else applyToOne handler format request r w

/-! ## Answers -/

/-- The response of the responder, unless the request was a broadcast. -/
def respond (r : Responder κ γ) (request : Request) (type : ResponseType)
    (data : ParameterData) : Answer :=
  match request.respond? type data r.messageCount with
  | none => .silent
  | some response => .response response

/-- A word as parameter data. -/
def wordData (word : UInt16) : ParameterData :=
  ⟨Bytes.ofWord word, by simp [maxParameterLength]⟩

/-- What is sent for the result of a handler. -/
def answer (r : Responder κ γ) (request : Request) : HandlerResult → Answer
  | .acknowledged data => r.respond request .ack data
  | .acknowledgedOverflow data => r.respond request .ackOverflow data
  | .notAcknowledged code => r.respond request .nack (wordData code)
  | .acknowledgedTimer units => r.respond request .ackTimer (wordData units)
  | .discovery => .discovery r.uid
  | .silent => .silent
  | .custom response => if request.destination.isBroadcast then .silent else .response response

/-- How the handling of a request ended for whoever passed it on. -/
inductive Outcome (ε : Type) where
  | answered (answer : Answer)
  | fallbackFailed (error : ε)
  /-- The handler of a parameter broke a promise of its definition. -/
  | broken (fault : Fault) (pid : UInt16)

/-- The outcome of a verdict. -/
def conclude (request : Request) (r : Responder κ γ) : Verdict → Outcome ε
  | .done result => .answered (r.answer request result)
  | .refused reason => .answered (r.answer request (.notAcknowledged reason.code))
  | .broken fault => .broken fault request.pid

/-- The parameters that discovery commands are about. -/
def discoveryPids : List UInt16 :=
  [Pid.discUniqueBranch, Pid.discMute, Pid.discUnMute]

/-- A request that a responder passes over: one addressed to other devices, or a discovery command
for anything but discovery. -/
def ignores (r : Responder κ γ) (request : Request) : Bool :=
  !request.destination.targets r.uid ||
    (request.commandClass == .discovery && !discoveryPids.contains request.pid)

/-- Handles a request. -/
def handle (custom : κ → Handler κ γ ω) (fallback : Fallback κ γ ω ε) (request : Request)
    (r : Responder κ γ) (w : ω) : Outcome ε × Responder κ γ × ω :=
  if r.ignores request then (.answered .silent, r, w)
  else
    match r.store.definition? request.pid with
    | none =>
      match fallback request r w with
      | (.error e, r, w) => (.fallbackFailed e, r, w)
      | (.ok result, r, w) => (.answered (r.answer request result), r, w)
    | some d =>
      let (verdict, r, w) := dispatch custom d request r w
      (conclude request r verdict, r, w)

end Responder

end LightingBus
