import LightingBus.Discovery

/-!
# A bus to search

A bus of devices that only answer searches: some are muted, some do not confirm that they are muted,
and noise makes answers collide where there is no device.
-/

namespace LightingBus

namespace Simulation

/-- The devices of a bus and how they behave. -/
structure SearchBus where
  /-- Each device and whether it is muted. -/
  devices : List (Uid × Bool)
  /-- Devices that do not confirm. -/
  deaf : List Uid
  /-- Devices whose muting fails. -/
  muteError : List Uid
  /-- Numbers at which answers collide. -/
  noise : List Nat
  /-- After this many questions the bus fails. -/
  failAfter : Option Nat
  /-- The questions asked so far and their answers. -/
  branches : List (Nat × Nat × Discovery.Branch)

/-- Why a simulated bus fails. -/
inductive SearchFailure where
  | branch
  | mute
  deriving DecidableEq

/-- A failure in words. -/
def SearchFailure.text : SearchFailure → String
  | .branch => "bus failed"
  | .mute => "mute failed"

namespace SearchBus

/-- A number lies in a range. -/
def within (lower upper n : Nat) : Bool :=
  lower ≤ n && n ≤ upper

/-- The devices in a range that are not muted. -/
def answering (bus : SearchBus) (lower upper : Nat) : List Uid :=
  (bus.devices.filter fun (uid, muted) => within lower upper uid.toNat && !muted).map Prod.fst

/-- What comes back from a range. -/
def answer (bus : SearchBus) (lower upper : Nat) : Discovery.Branch :=
  if bus.noise.any (within lower upper) then .collision
  else
    match bus.answering lower upper with
    | [] => .nobody
    | [uid] => .found uid
    | _ => .collision

/-- The bus as discovery uses it. -/
def bus : Discovery.Bus SearchBus SearchFailure where
  branch lower upper bus :=
    if bus.failAfter = some bus.branches.length then (.error .branch, bus)
    else
      let answer := bus.answer lower upper
      (.ok answer, { bus with branches := bus.branches ++ [(lower, upper, answer)] })
  mute uid bus :=
    if bus.muteError.contains uid then (.error .mute, bus)
    else if bus.deaf.contains uid then (.ok false, bus)
    else (.ok true, { bus with devices := bus.devices.map fun (u, muted) =>
      (u, muted || u == uid) })

end SearchBus

end Simulation

end LightingBus
