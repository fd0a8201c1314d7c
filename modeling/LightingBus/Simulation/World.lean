import LightingBus.Hex
import LightingBus.Line.Transport
import LightingBus.Responder.Basic

/-!
# A world without hardware

A clock, a line and the devices on it, as one value. What arrives on the line is a script; what is
done to the line is put down in a log, and what handlers and listeners of the devices notice is put
down as notes. A device that breaks a promise halts the world: log and notes end there.
-/

namespace LightingBus

namespace Simulation

/-- Custom handlers of simulated devices. -/
inductive SampleHandler where
  /-- Acknowledges with the data of the request. -/
  | echo
  /-- As `echo`, and announces more. -/
  | overflow
  /-- Asks for the time that the data names. -/
  | timer
  /-- Refuses with the code that the data names. -/
  | nack
  /-- Fails with the reason that the data names. -/
  | err
  | silent
  /-- Names the device as if it was searched. -/
  | disc
  /-- Builds a response of its own. -/
  | custom
  /-- Puts down what it sees of the device. -/
  | context
  /-- Stores values for sub-devices with an even number only. -/
  | even
  /-- As `echo`, after the time that the data names. -/
  | slow
  deriving DecidableEq, Repr

namespace SampleHandler

def all : List SampleHandler :=
  [.echo, .overflow, .timer, .nack, .err, .silent, .disc, .custom, .context, .even, .slow]

end SampleHandler

/-- Who listens to changes of a simulated device. -/
inductive Listener where
  /-- Notes the value. -/
  | ofValue
  /-- Notes the length of the value. -/
  | ofLength
  deriving DecidableEq

/-- A simulated device. -/
abbrev Device : Type := Responder SampleHandler Listener

/-- The names of the handlers of a simulated device. -/
abbrev DeviceHandler : Type := HandlerName SampleHandler

/-- What a handler or a listener notices. -/
inductive Note where
  /-- A new value. -/
  | value (key : Key) (value : Bytes)
  /-- The length of a new value. -/
  | length (key : Key) (length : Nat)
  /-- A device as a handler saw it that was asked for a parameter of a sub-device. -/
  | context (device : Device) (subDevice pid : UInt16)
  /-- A frame, and the first slot of the device that received it. -/
  | frame (frame : Bytes) (start : StartAddress)

/-- An operation of the line that can be made to fail. -/
inductive LineCall where
  | write
  | read
  | assertBreak
  | releaseBreak
  | flushReceived
  | flushQueued
  deriving DecidableEq, Repr

namespace LineCall

def all : List LineCall :=
  [.write, .read, .assertBreak, .releaseBreak, .flushReceived, .flushQueued]

/-- The name of an operation, which is also the text of its failure. -/
def text : LineCall → String
  | .write => "write"
  | .read => "read"
  | .assertBreak => "assert"
  | .releaseBreak => "deassert"
  | .flushReceived => "flush_rx"
  | .flushQueued => "flush_tx"

/-- The operation with a name. -/
def named? (name : String) : Option LineCall :=
  all.find? fun call => call.text = name

end LineCall

/-- What is done to the line and to the clock. -/
inductive Entry where
  | write (bytes : Bytes)
  | assertBreak
  | releaseBreak
  | flushReceived
  | flushQueued
  | delay (micros : UInt32)
  | alarm (micros : UInt32)
  deriving DecidableEq

/-- An entry in words. -/
def Entry.text : Entry → String
  | .write bytes => "write:" ++ String.ofList (Hex.ofBytes bytes)
  | .assertBreak => LineCall.assertBreak.text
  | .releaseBreak => LineCall.releaseBreak.text
  | .flushReceived => LineCall.flushReceived.text
  | .flushQueued => LineCall.flushQueued.text
  | .delay micros => s!"delay:{micros}"
  | .alarm micros => s!"alarm:{micros}"

/-- What arrives on the line, in order. -/
inductive Item where
  | event (event : Event)
  /-- Bytes, and the event that announces them. -/
  | data (bytes : Bytes)
  /-- Nothing, for one poll. -/
  | gap
  deriving DecidableEq

/-- A response that a scripted device sends: which parts of a proper one it replaces. -/
structure ScriptedResponse where
  type : ResponseType
  data : ParameterData
  messageCount : UInt8
  /-- Added to the transaction number of the request. -/
  transactionOffset : UInt8
  source : Option Uid
  destination : Option Address
  pid : Option UInt16
  /-- Bytes of the packet that are replaced, by their position. -/
  patches : List (Nat × UInt8)
  /-- The checksum is computed again after the bytes were replaced. -/
  fixChecksum : Bool

/-- What a script lets arrive after a request. -/
inductive Reaction where
  | respond (response : ScriptedResponse)
  /-- A reply to a discovery request. -/
  | discovery (uid : Uid)
  | items (script : List Item)

/-- The clock, the line and the devices on it. -/
structure World where
  now : UInt64
  /-- How far the clock moves when it is read. -/
  step : UInt64
  /-- How far the clock moves when nothing arrives. -/
  idle : UInt64
  /-- The clock has alarms. -/
  alarms : Bool
  /-- An alarm goes off with the next poll. -/
  queueAlarms : Bool
  /-- The clock waits by being read again and again. -/
  spin : Bool
  /-- The end of a transmission is reported by itself. -/
  autoDone : Bool
  /-- How many bytes the line accepts at once, unless zero. -/
  chunk : Nat
  failing : List LineCall
  /-- The reactions to the next requests. -/
  replies : List (List Reaction)
  /-- The devices that answer requests once all scripted reactions are used. -/
  devices : List Device
  /-- What is going to arrive. -/
  queue : List Item
  /-- What has arrived and was not read. -/
  received : Bytes
  log : List Entry
  notes : List Note
  /-- The parameter of a device whose handler broke a promise of its definition. -/
  broken : Option UInt16

namespace World

/-- A quiet line without devices, at time zero. -/
def quiet : World where
  now := 0
  step := 0
  idle := 0
  alarms := false
  queueAlarms := false
  spin := false
  autoDone := false
  chunk := 0
  failing := []
  replies := []
  devices := []
  queue := []
  received := []
  log := []
  notes := []
  broken := none

/-- A device has broken a promise. -/
def halted (w : World) : Bool :=
  w.broken.isSome

/-- How far the clock of a halted world moves when it is read: further than any time limit, so that
whoever waits gives up. -/
def haltedStep : UInt64 := 0x100000000

/-- The handler of a parameter broke a promise. -/
def halt (pid : UInt16) (w : World) : World :=
  { w with broken := some pid, step := haltedStep }

/-- Puts down what was done, unless the world is halted. -/
def record (w : World) (entry : Entry) : World :=
  if w.halted then w else { w with log := w.log ++ [entry] }

/-- Puts down what was noticed, unless the world is halted. -/
def note (w : World) (n : Note) : World :=
  if w.halted then w else { w with notes := w.notes ++ [n] }

/-- Lets something arrive after all that is going to arrive. -/
def enqueue (w : World) (items : List Item) : World :=
  { w with queue := w.queue ++ items }

/-- What the listeners of a parameter note. -/
def noteOf (n : Notice Listener) : Note :=
  match n.listener with
  | .ofValue => .value n.key n.value
  | .ofLength => .length n.key n.value.length

/-- Lets the listeners of a device note what changed. -/
def drain (device : Device) (w : World) : Device × World :=
  ({ device with store := { device.store with notices := [] } },
    device.store.notices.foldl (fun w n => w.note (noteOf n)) w)

end World

end Simulation

end LightingBus
