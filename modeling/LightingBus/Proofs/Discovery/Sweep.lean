import LightingBus.Discovery
import Mathlib

/-!
# What a sweep finds

`sweep_outcome`: on a bus that answers truthfully for a census of identifiers, a sweep of a range
fills its slots with the identifiers of the census in the range, in ascending order, and mutes
exactly those.

1. One question and its answer each have an equation (`sweep_idle`, …, `sweep_split`).
2. A census is an ascending list of the identifiers that can be told apart. Its part in a range is
   its part in the lower half followed by its part in the upper half (`between_split`).
3. `Truthful` says what an answer tells of the census. What is muted in the lower half lies below
   the upper half, so the answers there are still those of the census.
-/

namespace LightingBus

namespace Discovery

/-! ## One question -/

/-- The counters after one more question. -/
def Stats.asked (stats : Stats) : Stats :=
  { stats with branchRequests := stats.branchRequests + 1 }

/-- The counters after one more question whose answers collided. -/
def Stats.collided (stats : Stats) : Stats :=
  { stats.asked with collisions := stats.collisions + 1 }

/-- The counters after one more question whose answer came from a device that did not confirm. -/
def Stats.unconfirmed (stats : Stats) : Stats :=
  { stats.asked with muteFailures := stats.muteFailures + 1 }

@[simp] theorem Stats.branchRequests_asked (stats : Stats) :
    stats.asked.branchRequests = stats.branchRequests + 1 := rfl

@[simp] theorem Stats.branchRequests_collided (stats : Stats) :
    stats.collided.branchRequests = stats.branchRequests + 1 := rfl

@[simp] theorem Stats.branchRequests_unconfirmed (stats : Stats) :
    stats.unconfirmed.branchRequests = stats.branchRequests + 1 := rfl

@[simp] theorem Stats.collisions_asked (stats : Stats) :
    stats.asked.collisions = stats.collisions := rfl

@[simp] theorem Stats.collisions_collided (stats : Stats) :
    stats.collided.collisions = stats.collisions + 1 := rfl

@[simp] theorem Stats.collisions_unconfirmed (stats : Stats) :
    stats.unconfirmed.collisions = stats.collisions := rfl

@[simp] theorem Stats.muteFailures_asked (stats : Stats) :
    stats.asked.muteFailures = stats.muteFailures := rfl

@[simp] theorem Stats.muteFailures_collided (stats : Stats) :
    stats.collided.muteFailures = stats.muteFailures := rfl

@[simp] theorem Stats.muteFailures_unconfirmed (stats : Stats) :
    stats.unconfirmed.muteFailures = stats.muteFailures + 1 := rfl

section Steps

variable {σ ε : Type} {bus : Bus σ ε} {lower upper : Nat} {slots : List Uid} {stats : Stats}
  {state state' state'' : σ} {uid : Uid}

/-- A sweep that has nothing to search or no slot to fill asks nothing. -/
theorem sweep_idle (h : slots = [] ∨ upper < lower) :
    sweep bus lower upper slots stats state = ⟨.ok 0, slots, stats, state⟩ := by
  rw [sweep, if_pos (by simpa using h)]

/-- The condition under which a sweep asks. -/
theorem not_idle (hslots : slots ≠ []) (hle : lower ≤ upper) :
    ¬ (slots.isEmpty = true ∨ upper < lower) := by
  simpa [hslots] using hle

theorem sweep_nobody (hslots : slots ≠ []) (hle : lower ≤ upper)
    (hbranch : bus.branch lower upper state = (.ok .nobody, state')) :
    sweep bus lower upper slots stats state = ⟨.ok 0, slots, stats.asked, state'⟩ := by
  rw [sweep, if_neg (not_idle hslots hle)]
  simp only [hbranch, Stats.asked]

theorem sweep_confirmed (hslots : slots ≠ []) (hle : lower ≤ upper)
    (hbranch : bus.branch lower upper state = (.ok (.found uid), state'))
    (hmute : bus.mute uid state' = (.ok true, state'')) :
    sweep bus lower upper slots stats state =
      ⟨.ok 1, slots.set 0 uid, stats.asked, state''⟩ := by
  rw [sweep, if_neg (not_idle hslots hle)]
  simp only [hbranch, hmute, Stats.asked]

theorem sweep_unconfirmed (hslots : slots ≠ []) (hle : lower ≤ upper)
    (hbranch : bus.branch lower upper state = (.ok (.found uid), state'))
    (hmute : bus.mute uid state' = (.ok false, state'')) :
    sweep bus lower upper slots stats state = ⟨.ok 0, slots, stats.unconfirmed, state''⟩ := by
  rw [sweep, if_neg (not_idle hslots hle)]
  simp only [hbranch, hmute, Stats.unconfirmed, Stats.asked]

/-- Colliding answers for a single number are given up. -/
theorem sweep_single (hslots : slots ≠ [])
    (hbranch : bus.branch lower lower state = (.ok .collision, state')) :
    sweep bus lower lower slots stats state = ⟨.ok 0, slots, stats.collided, state'⟩ := by
  rw [sweep, if_neg (not_idle hslots le_rfl)]
  simp only [hbranch, if_true, Stats.collided, Stats.asked]

/-- Colliding answers for a wider range are searched in its halves, the upper half with the slots
that the lower half left. -/
theorem sweep_split (hslots : slots ≠ []) (hlt : lower < upper)
    (hbranch : bus.branch lower upper state = (.ok .collision, state')) {n : Nat}
    {low : Sweep σ ε}
    (hlow : sweep bus lower (lower + (upper - lower) / 2) slots stats.collided state' = low)
    (hn : low.result = .ok n) :
    sweep bus lower upper slots stats state =
      let high := sweep bus (lower + (upper - lower) / 2 + 1) upper (low.slots.drop n) low.stats
        low.bus
      { high with
        result := high.result.map (n + ·)
        slots := low.slots.take n ++ high.slots } := by
  rw [sweep, if_neg (not_idle hslots hlt.le)]
  simp only [Stats.collided, Stats.asked] at hlow
  simp only [hbranch, if_neg hlt.ne, hlow, hn]

end Steps

/-- A bus that does the same on ranges up to a limit; beyond it all answers collide. -/
def Bus.upTo (bus : Bus σ ε) (limit : Nat) : Bus σ ε where
  branch lower upper state :=
    if upper ≤ limit then bus.branch lower upper state else (.ok .collision, state)
  mute := bus.mute

/-- A sweep does not ask beyond its range. -/
theorem sweep_upTo {σ ε : Type} (bus : Bus σ ε) {limit lower upper : Nat} (h : upper ≤ limit)
    (slots : List Uid) (stats : Stats) (state : σ) :
    sweep (bus.upTo limit) lower upper slots stats state =
      sweep bus lower upper slots stats state := by
  induction hwidth : upper - lower using Nat.strong_induction_on
    generalizing lower upper slots stats state with
  | _ width ih =>
  have hbranch : (bus.upTo limit).branch lower upper state = bus.branch lower upper state :=
    if_pos h
  conv_lhs => rw [sweep, hbranch]
  conv_rhs => rw [sweep]
  by_cases hidle : slots.isEmpty = true ∨ upper < lower
  · rw [if_pos hidle, if_pos hidle]
  rw [if_neg hidle, if_neg hidle]
  rcases bus.branch lower upper state with ⟨x | answer, state'⟩
  · rfl
  cases answer with
  | nobody => rfl
  | found uid => rfl
  | collision =>
    by_cases hsingle : lower = upper
    · simp only [if_pos hsingle]
    simp only [if_neg hsingle]
    rw [ih _ (by omega) (by omega) _ _ _ rfl]
    cases (sweep bus lower (lower + (upper - lower) / 2) slots _ state').result with
    | error x => rfl
    | ok n =>
      dsimp only
      rw [ih _ (by omega) h _ _ _ rfl]

/-! ## The census of a bus -/

/-- Identifiers that differ are sorted by their numbers. -/
theorem ascending_mergeSort {uids : List Uid} (h : uids.Nodup) :
    (uids.mergeSort Uid.le).Pairwise fun a b => a.toNat < b.toNat := by
  have hsorted : (uids.mergeSort Uid.le).Pairwise fun a b => a.le b = true :=
    List.pairwise_mergeSort Uid.le_trans Uid.le_total _
  have hnodup : (uids.mergeSort Uid.le).Nodup := (List.mergeSort_perm _ _).nodup_iff.mpr h
  refine (hsorted.and hnodup).imp fun {a b} h => ?_
  exact lt_of_le_of_ne (Uid.le_iff.mp h.1) (mt Uid.toNat_inj.mp h.2)

/-- The identifiers on a bus that can be told apart, in ascending order, and which of their devices
do not confirm that they are muted. -/
structure Census where
  audible : List Uid
  ascending : audible.Pairwise fun a b => a.toNat < b.toNat
  deaf : Uid → Bool

namespace Census

/-- The identifiers in a range. -/
def between (census : Census) (lower upper : Nat) : List Uid :=
  census.audible.filter fun uid => lower ≤ uid.toNat && uid.toNat ≤ upper

/-- The identifiers in a range whose devices confirm. -/
def confirming (census : Census) (lower upper : Nat) : List Uid :=
  (census.between lower upper).filter fun uid => !census.deaf uid

/-- The identifiers in a range whose devices do not confirm. -/
def failing (census : Census) (lower upper : Nat) : List Uid :=
  (census.between lower upper).filter census.deaf

variable {census : Census} {lower middle upper : Nat} {uid : Uid}

@[simp] theorem mem_between :
    uid ∈ census.between lower upper ↔
      uid ∈ census.audible ∧ lower ≤ uid.toNat ∧ uid.toNat ≤ upper := by
  simp [between]

@[simp] theorem mem_confirming :
    uid ∈ census.confirming lower upper ↔
      uid ∈ census.between lower upper ∧ census.deaf uid = false := by
  simp [confirming]

@[simp] theorem mem_failing :
    uid ∈ census.failing lower upper ↔
      uid ∈ census.between lower upper ∧ census.deaf uid = true := by
  simp [failing]

/-- An empty range holds nobody. -/
theorem between_eq_nil (h : upper < lower) : census.between lower upper = [] := by
  rw [List.eq_nil_iff_forall_not_mem]
  intro uid huid
  rw [mem_between] at huid
  omega

/-- An ascending list is filtered by a range as by its two halves, one behind the other. -/
theorem filter_split {α : Type} {key : α → Nat} {items : List α}
    (h : items.Pairwise fun a b => key a < key b) (hlower : lower ≤ middle)
    (hupper : middle ≤ upper) :
    items.filter (fun a => lower ≤ key a && key a ≤ upper) =
      items.filter (fun a => lower ≤ key a && key a ≤ middle) ++
        items.filter (fun a => middle + 1 ≤ key a && key a ≤ upper) := by
  induction items with
  | nil => rfl
  | cons item items ih =>
    obtain ⟨hfirst, hrest⟩ := List.pairwise_cons.mp h
    rcases Nat.lt_or_ge middle (key item) with hmiddle | hmiddle
    · -- all that follows is greater still, so the lower half is empty
      have hnone : items.filter (fun a => lower ≤ key a && key a ≤ middle) = [] := by
        rw [List.filter_eq_nil_iff]
        intro other hother
        have := hfirst other hother
        simp only [Bool.and_eq_true, decide_eq_true_eq, not_and]
        omega
      have hlow : lower ≤ key item := by omega
      have hnot : ¬ key item ≤ middle := by omega
      simp [List.filter_cons, ih hrest, hnone, hmiddle, hlow, hnot]
    · have hle : key item ≤ upper := by omega
      have hnot : ¬ middle < key item := by omega
      by_cases hlow : lower ≤ key item
      · simp [ih hrest, hmiddle, hlow, hle, hnot]
      · simp [ih hrest, hlow, hnot]

theorem between_split (hlower : lower ≤ middle) (hupper : middle ≤ upper) :
    census.between lower upper =
      census.between lower middle ++ census.between (middle + 1) upper :=
  filter_split census.ascending hlower hupper

theorem confirming_split (hlower : lower ≤ middle) (hupper : middle ≤ upper) :
    census.confirming lower upper =
      census.confirming lower middle ++ census.confirming (middle + 1) upper := by
  rw [confirming, between_split hlower hupper, List.filter_append]
  rfl

theorem failing_split (hlower : lower ≤ middle) (hupper : middle ≤ upper) :
    census.failing lower upper =
      census.failing lower middle ++ census.failing (middle + 1) upper := by
  rw [failing, between_split hlower hupper, List.filter_append]
  rfl

theorem ascending_confirming :
    (census.confirming lower upper).Pairwise fun a b => a.toNat < b.toNat :=
  (census.ascending.filter _).filter _

theorem ascending_failing :
    (census.failing lower upper).Pairwise fun a b => a.toNat < b.toNat :=
  (census.ascending.filter _).filter _

/-- What an answer for a range tells of the census. -/
def Explains (census : Census) (lower upper : Nat) : Branch → Prop
  | .nobody => census.between lower upper = []
  | .found uid => census.between lower upper = [uid]
  | .collision => lower = upper → census.between lower upper = []

end Census

/-- The bus answers truthfully for a census: `holds silenced` are the states in which the devices
`silenced` have been muted. Only silenced devices below a range make no difference to its answer,
and a sweep never asks about other ranges. -/
structure Truthful (bus : Bus σ ε) (census : Census) (holds : List Uid → σ → Prop) : Prop where
  branch {silenced : List Uid} {state : σ} {lower upper : Nat} :
    holds silenced state → (∀ uid ∈ silenced, uid.toNat < lower) → lower ≤ upper →
      ∃ answer state', bus.branch lower upper state = (.ok answer, state') ∧
        holds silenced state' ∧ census.Explains lower upper answer
  mute {silenced : List Uid} {state : σ} {uid : Uid} :
    holds silenced state → uid ∈ census.audible →
      ∃ state', bus.mute uid state = (.ok (!census.deaf uid), state') ∧
        holds (if census.deaf uid then silenced else silenced ++ [uid]) state'

/-! ## The sweep -/

/-- What a sweep of a range leaves behind: the slots hold the first confirming devices, these are
silenced, and if a slot is left then every failing device was counted. -/
structure Swept (census : Census) (holds : List Uid → σ → Prop) (lower upper : Nat)
    (slots : List Uid) (failures : Nat) (silenced : List Uid) (run : Sweep σ ε) : Prop where
  result : run.result = .ok (min slots.length (census.confirming lower upper).length)
  filled : run.slots = (census.confirming lower upper).take slots.length ++
    slots.drop (census.confirming lower upper).length
  muted : holds (silenced ++ (census.confirming lower upper).take slots.length) run.bus
  counted : (census.confirming lower upper).length < slots.length →
    run.stats.muteFailures = failures + (census.failing lower upper).length

section Sweeps

variable {σ ε : Type} {bus : Bus σ ε} {census : Census} {holds : List Uid → σ → Prop}
  {lower middle upper : Nat} {slots silenced : List Uid} {failures : Nat}

/-- A range without a device that confirms leaves slots and devices alone. -/
theorem Swept.of_nobody {stats : Stats} {state : σ}
    (hnone : census.confirming lower upper = []) (hholds : holds silenced state)
    (hcounted : slots ≠ [] →
      stats.muteFailures = failures + (census.failing lower upper).length) :
    Swept census holds lower upper slots failures silenced
      (⟨.ok 0, slots, stats, state⟩ : Sweep σ ε) where
  result := by simp [hnone]
  filled := by simp [hnone]
  muted := by simpa [hnone] using hholds
  counted h := hcounted fun hnil => by simp [hnil] at h

/-- The sweeps of two halves make up the sweep of the range. The upper half gets the slots that the
lower half left. -/
theorem Swept.append {low high : Sweep σ ε} {n : Nat} (hlower : lower ≤ middle)
    (hupper : middle ≤ upper)
    (hlow : Swept census holds lower middle slots failures silenced low)
    (hn : n = min slots.length (census.confirming lower middle).length)
    (hhigh : Swept census holds (middle + 1) upper (low.slots.drop n) low.stats.muteFailures
      (silenced ++ (census.confirming lower middle).take slots.length) high) :
    Swept census holds lower upper slots failures silenced
      { high with
        result := high.result.map (n + ·)
        slots := low.slots.take n ++ high.slots } := by
  have hsplit := census.confirming_split hlower hupper
  have hfront : low.slots.take n = (census.confirming lower middle).take slots.length := by
    rw [hlow.filled, List.take_left' (by rw [List.length_take, hn])]
  have hback : low.slots.drop n = slots.drop (census.confirming lower middle).length := by
    rw [hlow.filled, List.drop_left' (by rw [List.length_take, hn])]
  rw [hback] at hhigh
  refine ⟨?_, ?_, ?_, ?_⟩
  · simp only [hhigh.result, Except.map, hsplit, List.length_append, List.length_drop, hn]
    congr 1
    omega
  · simp only [hhigh.filled, hfront, hsplit, List.take_append, List.length_append,
      List.length_drop, List.drop_drop, List.append_assoc]
  · rw [hsplit, List.take_append, ← List.append_assoc, ← List.length_drop]
    exact hhigh.muted
  · intro h
    rw [hsplit, List.length_append] at h
    show high.stats.muteFailures = _
    rw [hhigh.counted (by rw [List.length_drop]; omega), hlow.counted (by omega),
      census.failing_split hlower hupper, List.length_append, Nat.add_assoc]

/-- A single device that confirms is silenced and fills the first slot. -/
theorem Swept.of_confirmed {stats : Stats} {state : σ} {uid : Uid} (hslots : slots ≠ [])
    (hbetween : census.between lower upper = [uid]) (hdeaf : census.deaf uid = false)
    (hholds : holds (silenced ++ [uid]) state) (hcounted : stats.muteFailures = failures) :
    Swept census holds lower upper slots failures silenced
      (⟨.ok 1, slots.set 0 uid, stats, state⟩ : Sweep σ ε) := by
  have hconfirming : census.confirming lower upper = [uid] := by
    simp [Census.confirming, hbetween, hdeaf]
  have hfailing : census.failing lower upper = [] := by
    simp [Census.failing, hbetween, hdeaf]
  cases slots with
  | nil => exact absurd rfl hslots
  | cons slot slots =>
    refine ⟨?_, ?_, ?_, ?_⟩
    · simp [hconfirming]
    · simp [hconfirming]
    · simpa [hconfirming] using hholds
    · intro _
      simpa [hfailing] using hcounted

/-- On a truthful bus a sweep finds what the census says is to be found. -/
theorem sweep_swept (hbus : Truthful bus census holds) {stats : Stats} {state : σ}
    (hholds : holds silenced state) (hbelow : ∀ uid ∈ silenced, uid.toNat < lower) :
    Swept census holds lower upper slots stats.muteFailures silenced
      (sweep bus lower upper slots stats state) := by
  -- the width of the range; what has been silenced stays below it
  induction hwidth : upper - lower using Nat.strong_induction_on
    generalizing lower upper slots stats state silenced with
  | _ width ih =>
  by_cases hslots : slots = []
  · rw [sweep_idle (.inl hslots), hslots]
    exact ⟨by simp, by simp, by simpa using hholds, by simp⟩
  by_cases hle : lower ≤ upper
  swap
  · have hnone : census.between lower upper = [] := Census.between_eq_nil (by omega)
    rw [sweep_idle (.inr (by omega))]
    exact .of_nobody (by simp [Census.confirming, hnone]) hholds
      fun _ => by simp [Census.failing, hnone]
  obtain ⟨answer, state', hbranch, hholds', hexplains⟩ := hbus.branch hholds hbelow hle
  cases answer with
  | nobody =>
    have hnone : census.between lower upper = [] := hexplains
    rw [sweep_nobody hslots hle hbranch]
    exact .of_nobody (by simp [Census.confirming, hnone]) hholds'
      fun _ => by simp [Census.failing, hnone]
  | found uid =>
    have hone : census.between lower upper = [uid] := hexplains
    have hmem : uid ∈ census.between lower upper := by simp [hone]
    obtain ⟨state'', hmute, hholds''⟩ := hbus.mute hholds' (Census.mem_between.mp hmem).1
    cases hdeaf : census.deaf uid with
    | false =>
      rw [sweep_confirmed hslots hle hbranch (by simpa [hdeaf] using hmute)]
      exact .of_confirmed hslots hone hdeaf (by simpa [hdeaf] using hholds'') rfl
    | true =>
      rw [sweep_unconfirmed hslots hle hbranch (by simpa [hdeaf] using hmute)]
      exact .of_nobody (by simp [Census.confirming, hone, hdeaf])
        (by simpa [hdeaf] using hholds'') fun _ => by simp [Census.failing, hone, hdeaf]
  | collision =>
    by_cases heq : lower = upper
    · subst heq
      have hnone : census.between lower lower = [] := hexplains rfl
      rw [sweep_single hslots hbranch]
      exact .of_nobody (by simp [Census.confirming, hnone]) hholds'
        fun _ => by simp [Census.failing, hnone]
    have hlow : Swept census holds lower (lower + (upper - lower) / 2) slots
        stats.collided.muteFailures silenced
        (sweep bus lower (lower + (upper - lower) / 2) slots stats.collided state') :=
      ih (lower + (upper - lower) / 2 - lower) (by omega) hholds' hbelow rfl
    rw [sweep_split hslots (by omega) hbranch rfl hlow.result]
    have hlower : lower ≤ lower + (upper - lower) / 2 := by omega
    have hupper : lower + (upper - lower) / 2 ≤ upper := by omega
    refine .append hlower hupper hlow rfl (ih _ (by omega) hlow.muted ?_ rfl)
    intro uid huid
    rcases List.mem_append.mp huid with huid | huid
    · have := hbelow uid huid
      omega
    · have hmem := Census.mem_between.mp (Census.mem_confirming.mp (List.mem_of_mem_take huid)).1
      omega

end Sweeps
end Discovery
end LightingBus
