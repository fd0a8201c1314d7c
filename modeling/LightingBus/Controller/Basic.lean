import LightingBus.Line.Port.Waiting
import LightingBus.NackReason
import LightingBus.Payload.ParameterValue

/-!
# Controllers

A controller sends frames and requests over a port. Every exchange holds the transaction lock of the
port and puts the frame buffer back afterwards, so what is sent to the lamps survives it.
-/

namespace LightingBus

/-- A controller at a port. -/
structure Controller where
  uid : Uid
  /-- The port number that requests carry, from one on. -/
  portId : UInt8
  /-- How many changes the last response announced. -/
  lastMessageCount : UInt8
  /-- The controller holds the transaction lock over several requests. -/
  inTransaction : Bool
  deriving DecidableEq

/-- A controller that has not sent anything. -/
def Controller.create (uid : Uid) (portId : UInt8) : Controller where
  uid := uid
  portId := portId
  lastMessageCount := 0
  inTransaction := false

/-- Why a request got no result. -/
inductive RequestError (ε : Type) where
  /-- Somebody else uses the port. -/
  | busy
  /-- What came back answers no request, or a request to or from somebody else. -/
  | notMatching
  /-- The response is of another class than the request, or of an unknown class or type. -/
  | responseInvalid
  /-- The parameter data does not say what was asked. -/
  | dataMalformed
  /-- The response refuses or postpones, but its data does not say how. -/
  | refusalMalformed
  /-- The result will be ready after this many tenths of a second. -/
  | notReady (units : UInt16)
  | notAcknowledged (reason : NackReason)
  | port (error : PortError ε)
  deriving DecidableEq, Repr

namespace RequestError

/-- An error in words. -/
def text (driverText : ε → String) : RequestError ε → String
  | .busy => "The port is busy."
  | .notMatching => "The response doesn't match the request."
  | .responseInvalid => "The response is invalid."
  | .dataMalformed => "The parameter data couldn't be deserialized."
  | .refusalMalformed => "The error response is malformed."
  | .notReady units => s!"Response not ready, retry in {timerMillis units}ms."
  | .notAcknowledged reason => s!"Not acknowledged: {reason.text}"
  | .port e => e.text driverText

/-- A busy port is a cause of its own. -/
def ofPort : PortError ε → RequestError ε
  | .busy => .busy
  | e => .port e

/-- A packet with an unknown class or type is an invalid response. -/
def ofDecodeError : Packet.DecodeError → RequestError ε
  | .unknownResponseType _ | .unknownCommandClass _ => .responseInvalid
  | e => .port (.malformed e)

end RequestError

/-- What a controller asks for. -/
structure Inquiry where
  destination : Address
  subDevice : UInt16
  pid : UInt16
  data : ParameterData
  deriving DecidableEq

/-- An inquiry without parameter data, about the device itself. -/
def Inquiry.bare (destination : Address) (pid : UInt16) : Inquiry :=
  ⟨destination, SubDevice.root, pid, .empty⟩

/-- An inquiry about the device itself. -/
def Inquiry.about (destination : Address) (pid : UInt16) (data : ParameterData) : Inquiry :=
  { Inquiry.bare destination pid with data := data }

/-- What a request gave. -/
inductive Reply where
  | complete (content : ParameterContent)
  /-- The data continues in the response to a further request. -/
  | incomplete (content : ParameterContent)
  /-- The request was a broadcast, which nobody answers. -/
  | broadcast
  deriving DecidableEq

/-- What a controller does with a port. -/
abbrev ControllerM (σ ε α : Type) : Type :=
  ExceptT (RequestError ε) (StateT Controller (StateM (Port σ ε))) α

namespace Controller

/-- Uses the port; its errors are errors of the request. -/
def onPort (task : PortM σ ε α) : ControllerM σ ε α :=
  ExceptT.mk do
    let result ← StateT.lift task.run
    pure (result.mapError .ofPort)

/-- Ends with a result. -/
def conclude (result : Except (RequestError ε) α) : ControllerM σ ε α :=
  ExceptT.mk (pure result)

/-- The result of a use of the port, whether it failed or not. -/
def tryPort (task : PortM σ ε α) : ControllerM σ ε (Except (PortError ε) α) :=
  ExceptT.mk (Except.ok <$> StateT.lift task.run)

/-- The result of what a controller does, whether it failed or not. -/
def attempt (task : ControllerM σ ε α) : ControllerM σ ε (Except (RequestError ε) α) :=
  ExceptT.mk (Except.ok <$> task.run)

/-- The configuration of the port. -/
def config : ControllerM σ ε LineConfig :=
  ExceptT.mk do
    let p ← StateT.lift (get : StateM (Port σ ε) (Port σ ε))
    pure (.ok p.config)

variable (line : Transport σ ε)

/-! ## The transaction lock -/

/-- Takes the lock. Within a transaction the controller holds it already. -/
def enter : ControllerM σ ε Unit := do
  if (← getThe Controller).inTransaction then onPort (Port.nest line)
  else
    match ← tryPort (Port.lock line (← config).transactionTimeout) with
    | .ok _ => pure ()
    | .error .stalled => throw (.port .stalled)
    | .error _ => throw .busy

/-- Holds the lock during a task, however the task ends. -/
def withLock (task : ControllerM σ ε α) : ControllerM σ ε α := do
  enter line
  let result ← attempt task
  onPort (Port.unlock line)
  conclude result

/-- Holds the lock over several requests. -/
def transaction (task : ControllerM σ ε α) : ControllerM σ ε α :=
  withLock line do
    let outer := (← getThe Controller).inTransaction
    modifyThe Controller fun c => { c with inTransaction := true }
    let result ← attempt task
    modifyThe Controller fun c => { c with inTransaction := outer }
    conclude result

/-! ## Frames -/

/-- Sends a frame of a start code and a package. -/
def sendPackage (startCode : UInt8) (package : Bytes) : ControllerM σ ε Unit :=
  withLock line do
    let capacity := (← onPort get).engine.front.capacity
    if capacity < package.length + 1 then throw (.port .bufferOverflow)
    else
      let _ ← onPort (Port.write line [startCode])
      let _ ← onPort (Port.writeAt line 1 package)
      onPort (Port.send line (package.length + 1))
      onPort (Port.waitSent line (← config).transactionTimeout)

/-- The start code of a frame of dimmer levels. -/
def nullStartCode : UInt8 := 0x00

/-- Sends levels for the slots from the first on. -/
def sendLevels (levels : Bytes) : ControllerM σ ε Unit :=
  sendPackage line nullStartCode levels

/-! ## Requests -/

/-- The packet of an inquiry. -/
def message (c : Controller) (commandClass : CommandClass) (inquiry : Inquiry)
    (transaction : UInt8) : Message :=
  .request {
    destination := inquiry.destination
    source := c.uid
    transaction := transaction
    port := c.portId
    messageCount := 0
    subDevice := inquiry.subDevice
    commandClass := commandClass
    pid := inquiry.pid
    data := inquiry.data }

/-- Puts a packet into the frame buffer and sends it. -/
def sendMessage (message : Message) (turnaround : Turnaround) : ControllerM σ ε Unit := do
  let packet := message.encode
  if (← onPort (Port.write line packet)) ≠ packet.length then throw (.port .bufferOverflow)
  else
    onPort (Port.sendFrame line packet.length true turnaround)
    onPort (Port.waitSent line (← config).transactionTimeout)

/-- A response counts if it comes from the device that was asked, is for this controller and is of
the class of the request. -/
def checkResponse (c : Controller) (commandClass : CommandClass) (inquiry : Inquiry)
    (response : Response) : Except (RequestError ε) Response :=
  if response.destination ≠ .device c.uid then .error .notMatching
  else if inquiry.destination.uid?.any fun uid => uid != response.source then
    .error .notMatching
  else if response.commandClass ≠ commandClass then .error .responseInvalid
  else .ok response

/-- Waits for the response to a request. Late responses to earlier requests are skipped, as long as
a transaction may take. -/
def awaitResponse (commandClass : CommandClass) (inquiry : Inquiry) (transaction : UInt8)
    (start : UInt64) : Nat → ControllerM σ ε Response
  | 0 => throw (.port .stalled)
  | turns + 1 => do
    let _ ← onPort (Port.receive line (← config).responseTimeout)
    match Message.decode (← onPort (Port.frame line)) with
    | .error e => throw (.ofDecodeError e)
    | .ok (.request _) => throw .notMatching
    | .ok (.response response) =>
      if response.transaction = transaction then
        conclude ((← getThe Controller).checkResponse commandClass inquiry response)
      else
        let now ← onPort (Port.now line)
        if (← config).transactionTimeout.toUInt64 ≤ now - start then throw (.port .timeout)
        else awaitResponse commandClass inquiry transaction start turns

/-- Sends a request and waits for its response, unless it is a broadcast. -/
def exchange (commandClass : CommandClass) (inquiry : Inquiry) (transaction : UInt8) :
    ControllerM σ ε (Option Response) := do
  let message := (← getThe Controller).message commandClass inquiry transaction
  if inquiry.destination.isBroadcast then
    sendMessage line message .none
    pure none
  else
    sendMessage line message .receive
    let start ← onPort (Port.now line)
    let patience := (← onPort get).patience
    some <$> awaitResponse line commandClass inquiry transaction start patience

/-- What a response means for whoever asked. -/
def evaluate (response : Response) : Except (RequestError ε) Reply :=
  let content : ParameterContent := ⟨response.pid, response.messageCount, response.data⟩
  match response.type, response.data.bytes with
  | .ack, _ => .ok (.complete content)
  | .ackOverflow, _ => .ok (.incomplete content)
  | .ackTimer, [high, low] => .error (.notReady (Bytes.word high low))
  | .nack, [high, low] =>
    match NackReason.ofCode? (Bytes.word high low) with
    | none => .error .refusalMalformed
    | some reason => .error (.notAcknowledged reason)
  | .ackTimer, _ | .nack, _ => .error .refusalMalformed

/-- Does something with the lock held and puts the frame buffer back, however it ends. A wait that
has stalled does not end. -/
def preserving (task : ControllerM σ ε α) : ControllerM σ ε α := do
  let before ← onPort (Port.snapshot line)
  match ← attempt task with
  | .error (.port .stalled) => throw (.port .stalled)
  | result =>
    onPort (Port.restore line before)
    conclude result

/-- Sends a request and waits for its result. Every call takes a new transaction number, also if it
fails. -/
def request (commandClass : CommandClass) (inquiry : Inquiry) : ControllerM σ ε Reply := do
  let transaction ← onPort (Port.nextTransaction line)
  withLock line do
    match ← preserving line (exchange line commandClass inquiry transaction) with
    | none => pure .broadcast
    | some response =>
      modifyThe Controller fun c => { c with lastMessageCount := response.messageCount }
      conclude (evaluate response)

end Controller

end LightingBus
