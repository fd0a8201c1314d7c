import LightingBus.Uid

/-!
# Discovery

Unknown devices are found by asking who lies in a range of identifiers. Nobody answers, one device
answers and is muted, or answers collide and the range is halved. The sweep writes what it finds
into slots, from the first on, and asks no more once all slots are filled.
-/

namespace LightingBus

namespace Discovery

/-- What came back when the devices in a range were asked to answer. -/
inductive Branch where
  | nobody
  | found (uid : Uid)
  /-- Several devices answered at once, or an answer was damaged. -/
  | collision
  deriving DecidableEq

/-- What a sweep needs of a bus. Asking and muting may fail and may change the bus. -/
structure Bus (σ ε : Type) where
  /-- Asks the devices from the first to the second number, both included, to answer. -/
  branch : Nat → Nat → σ → Except ε Branch × σ
  /-- Mutes a device and says whether it confirmed. -/
  mute : Uid → σ → Except ε Bool × σ

/-- What a sweep counts. -/
structure Stats where
  branchRequests : Nat := 0
  collisions : Nat := 0
  /-- Devices that answered but did not confirm that they were muted. -/
  muteFailures : Nat := 0
  deriving DecidableEq

/-- The slots, the counters and the bus, which remain also when a sweep fails, and its result: how
many slots were filled. -/
structure Sweep (σ ε : Type) where
  result : Except ε Nat
  slots : List Uid
  stats : Stats
  bus : σ

/-- Searches the numbers from `lower` to `upper`. A range whose answers collide is split in halves,
the lower half first; a single number cannot be split and is given up. -/
def sweep (bus : Bus σ ε) (lower upper : Nat) (slots : List Uid) (stats : Stats) (state : σ) :
    Sweep σ ε :=
  if slots.isEmpty ∨ upper < lower then ⟨.ok 0, slots, stats, state⟩
  else
    let stats := { stats with branchRequests := stats.branchRequests + 1 }
    match bus.branch lower upper state with
    | (.error e, state) => ⟨.error e, slots, stats, state⟩
    | (.ok .nobody, state) => ⟨.ok 0, slots, stats, state⟩
    | (.ok (.found uid), state) =>
      match bus.mute uid state with
      | (.error e, state) => ⟨.error e, slots, stats, state⟩
      | (.ok false, state) =>
        ⟨.ok 0, slots, { stats with muteFailures := stats.muteFailures + 1 }, state⟩
      | (.ok true, state) => ⟨.ok 1, slots.set 0 uid, stats, state⟩
    | (.ok .collision, state) =>
      let stats := { stats with collisions := stats.collisions + 1 }
      if lower = upper then ⟨.ok 0, slots, stats, state⟩
      else
        let middle := lower + (upper - lower) / 2
        let low := sweep bus lower middle slots stats state
        match low.result with
        | .error _ => low
        | .ok n =>
          let high := sweep bus (middle + 1) upper (low.slots.drop n) low.stats low.bus
          { high with
            result := high.result.map (n + ·)
            slots := low.slots.take n ++ high.slots }
termination_by upper - lower
decreasing_by all_goals omega

/-- Searches all numbers a device may have. -/
def sweepAll (bus : Bus σ ε) (slots : List Uid) (state : σ) : Sweep σ ε :=
  sweep bus 0 Uid.largest slots {} state

end Discovery

end LightingBus
