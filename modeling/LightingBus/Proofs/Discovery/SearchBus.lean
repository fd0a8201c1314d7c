import LightingBus.Proofs.Discovery.Sweep
import LightingBus.Simulation.SearchBus
import Mathlib

/-!
# Sweeping a bus of devices

`sweep_finds_audible`: which devices a sweep finds and mutes on a bus whose requests never fail.

A device is audible if no other device that is not muted has its identifier and no noise lies on
it. Two devices of one identifier answer alike wherever the range is split, so neither is found;
noise makes every range that contains it collide, down to its own number.
-/

namespace LightingBus

namespace Simulation

namespace SearchBus

open Discovery

/-- No request fails. -/
structure Reliable (bus : SearchBus) : Prop where
  mutes : bus.muteError = []
  answers : bus.failAfter = none

/-! ## Audible devices -/

/-- The devices that are not muted and can be told apart from all others and from noise. -/
def distinct (bus : SearchBus) : List (Uid × Bool) :=
  bus.devices.filter fun d => bus.devices.count d == 1 && !d.2 && !bus.noise.contains d.1.toNat

/-- Their identifiers, in ascending order. -/
def audible (bus : SearchBus) : List Uid :=
  (bus.distinct.map Prod.fst).mergeSort Uid.le

variable {bus state : SearchBus} {uid : Uid} {lower upper : Nat} {silenced : List Uid}

theorem mem_distinct {d : Uid × Bool} :
    d ∈ bus.distinct ↔ bus.devices.count d = 1 ∧ d.2 = false ∧ d.1.toNat ∉ bus.noise := by
  have hmem : bus.devices.count d = 1 → d ∈ bus.devices := fun h =>
    List.count_pos_iff.mp (by omega)
  simp only [distinct, List.mem_filter, Bool.and_eq_true, beq_iff_eq, Bool.not_eq_true',
    List.contains_eq_mem, decide_eq_false_iff_not]
  tauto

theorem mem_audible :
    uid ∈ bus.audible ↔ bus.devices.count (uid, false) = 1 ∧ uid.toNat ∉ bus.noise := by
  simp only [audible, List.mem_mergeSort, List.mem_map, mem_distinct, Prod.exists]
  constructor
  · rintro ⟨uid, muted, ⟨hcount, rfl, hnoise⟩, rfl⟩
    exact ⟨hcount, hnoise⟩
  · rintro ⟨hcount, hnoise⟩
    exact ⟨uid, false, ⟨hcount, rfl, hnoise⟩, rfl⟩

theorem nodup_distinct : (bus.distinct.map Prod.fst).Nodup := by
  have hnodup : bus.distinct.Nodup := by
    rw [List.nodup_iff_count_le_one]
    intro d
    by_cases hd : d ∈ bus.distinct
    · exact (List.filter_sublist.count_le d).trans (mem_distinct.mp hd).1.le
    · rw [List.count_eq_zero_of_not_mem hd]
      exact Nat.zero_le 1
  refine hnodup.map_on fun a ha b hb hab => Prod.ext hab ?_
  rw [(mem_distinct.mp ha).2.1, (mem_distinct.mp hb).2.1]

theorem ascending_audible : bus.audible.Pairwise fun a b => a.toNat < b.toNat :=
  ascending_mergeSort nodup_distinct

/-- The census of a bus. -/
def census (bus : SearchBus) : Census where
  audible := bus.audible
  ascending := ascending_audible
  deaf uid := bus.deaf.contains uid

/-! ## Answers -/

theorem mem_answering :
    uid ∈ bus.answering lower upper ↔
      (uid, false) ∈ bus.devices ∧ lower ≤ uid.toNat ∧ uid.toNat ≤ upper := by
  simp only [answering, within, List.mem_map, List.mem_filter, Bool.and_eq_true,
    decide_eq_true_eq, Bool.not_eq_true', Prod.exists]
  constructor
  · rintro ⟨uid, muted, ⟨hmem, hrange, rfl⟩, rfl⟩
    exact ⟨hmem, hrange⟩
  · rintro ⟨hmem, hrange⟩
    exact ⟨uid, false, ⟨hmem, hrange, rfl⟩, rfl⟩

theorem count_answering (hlower : lower ≤ uid.toNat) (hupper : uid.toNat ≤ upper) :
    (bus.answering lower upper).count uid = bus.devices.count (uid, false) := by
  unfold answering
  rw [List.count, List.countP_map, List.countP_filter, List.count]
  refine List.countP_congr ?_
  rintro ⟨other, muted⟩ -
  by_cases hother : other = uid
  · subst hother
    simp [within, hlower, hupper]
  · simp [hother]

theorem not_noise (h : (bus.noise.any (within lower upper)) = false) (hlower : lower ≤ uid.toNat)
    (hupper : uid.toNat ≤ upper) : uid.toNat ∉ bus.noise := by
  intro hmem
  rw [List.any_eq_false] at h
  exact h _ hmem (by simp [within, hlower, hupper])

/-- An audible device in a range answers. -/
theorem mem_answering_of_mem_between (h : uid ∈ bus.census.between lower upper) :
    uid ∈ bus.answering lower upper := by
  obtain ⟨haudible, hrange⟩ := Census.mem_between.mp h
  have hcount := (mem_audible.mp haudible).1
  exact mem_answering.mpr ⟨List.count_pos_iff.mp (by omega), hrange⟩

/-- Answers for a single number that collide come from devices that are not audible. -/
theorem between_eq_nil_of_collision {number : Nat}
    (h : bus.answer number number = .collision) : bus.census.between number number = [] := by
  rw [List.eq_nil_iff_forall_not_mem]
  intro uid huid
  obtain ⟨haudible, hlower, hupper⟩ := Census.mem_between.mp huid
  obtain ⟨hcount, hnoise⟩ := mem_audible.mp haudible
  have hnumber : number = uid.toNat := le_antisymm hlower hupper
  subst hnumber
  -- all that answer have this identifier, and only one device has it
  have hsame : ∀ other ∈ bus.answering uid.toNat uid.toNat, uid = other := fun other hother =>
    Uid.toNat_inj.mp (le_antisymm (mem_answering.mp hother).2.1 (mem_answering.mp hother).2.2)
  have hlength : (bus.answering uid.toNat uid.toNat).length = 1 := by
    rw [← List.count_eq_length.mpr hsame, count_answering le_rfl le_rfl, hcount]
  obtain ⟨other, hother⟩ := List.length_eq_one_iff.mp hlength
  have hquiet : bus.noise.any (within uid.toNat uid.toNat) = false := by
    rw [List.any_eq_false]
    intro n hn hwithin
    simp only [within, Bool.and_eq_true, decide_eq_true_eq] at hwithin
    exact hnoise (le_antisymm hwithin.2 hwithin.1 ▸ hn)
  simp [answer, hquiet, hother] at h

/-- The only answer comes from the only audible device. -/
theorem between_eq_of_found (h : bus.answer lower upper = .found uid) :
    bus.census.between lower upper = [uid] := by
  have hfound : bus.noise.any (within lower upper) = false ∧ bus.answering lower upper = [uid] := by
    unfold answer at h
    split at h
    · cases h
    next hquiet =>
    split at h
    · cases h
    next other hother =>
      cases h
      exact ⟨by simpa using hquiet, hother⟩
    · cases h
  obtain ⟨hquiet, hanswering⟩ := hfound
  have hrange := mem_answering.mp (by rw [hanswering]; exact List.mem_singleton_self uid)
  have hcount : bus.devices.count (uid, false) = 1 := by
    rw [← count_answering hrange.2.1 hrange.2.2, hanswering, List.count_singleton_self]
  have haudible : uid ∈ bus.audible :=
    mem_audible.mpr ⟨hcount, not_noise hquiet hrange.2.1 hrange.2.2⟩
  have hnodup : (bus.census.between lower upper).Nodup :=
    (bus.census.ascending.filter _).imp fun h => by
      rintro rfl
      exact lt_irrefl _ h
  refine List.perm_singleton.mp ((List.perm_ext_iff_of_nodup hnodup (List.nodup_singleton uid)).mpr
    fun other => ⟨fun hother => ?_, fun hother => ?_⟩)
  · rw [← hanswering]
    exact mem_answering_of_mem_between hother
  · rw [List.mem_singleton.mp hother]
    exact Census.mem_between.mpr ⟨haudible, hrange.2⟩

/-- A bus answers as its census says. -/
theorem explains_answer : bus.census.Explains lower upper (bus.answer lower upper) := by
  cases h : bus.answer lower upper with
  | nobody =>
    have hnone : bus.answering lower upper = [] := by
      unfold answer at h
      split at h
      · cases h
      split at h
      · assumption
      · cases h
      · cases h
    show bus.census.between lower upper = []
    rw [List.eq_nil_iff_forall_not_mem]
    intro uid huid
    have := mem_answering_of_mem_between huid
    simp [hnone] at this
  | found uid => exact between_eq_of_found h
  | collision =>
    rintro rfl
    exact between_eq_nil_of_collision h

/-! ## Muting -/

/-- Devices after some identifiers have been muted. -/
def silence (silenced : List Uid) (devices : List (Uid × Bool)) : List (Uid × Bool) :=
  devices.map fun d => (d.1, d.2 || silenced.contains d.1)

/-- The state is a reliable bus on which some identifiers have been muted since it was `bus`. -/
structure Silenced (bus : SearchBus) (silenced : List Uid) (state : SearchBus) : Prop where
  devices : state.devices = silence silenced bus.devices
  deaf : state.deaf = bus.deaf
  noise : state.noise = bus.noise
  reliable : state.Reliable

@[simp] theorem silence_nil (devices : List (Uid × Bool)) : silence [] devices = devices := by
  simp [silence]

/-- Muting one more identifier is muting all of them at once. -/
theorem silence_append (devices : List (Uid × Bool)) :
    (silence silenced devices).map (fun d => (d.1, d.2 || d.1 == uid)) =
      silence (silenced ++ [uid]) devices := by
  simp only [silence, List.map_map, List.contains_append]
  refine List.map_congr_left fun d _ => ?_
  simp [Bool.or_assoc, Bool.beq_eq_decide_eq]

theorem Silenced.refl (h : bus.Reliable) : bus.Silenced [] bus :=
  ⟨(silence_nil _).symm, rfl, rfl, h⟩

/-- Devices that were muted below a range make no difference to who answers in it. -/
theorem Silenced.answering (h : bus.Silenced silenced state)
    (hbelow : ∀ uid ∈ silenced, uid.toNat < lower) :
    state.answering lower upper = bus.answering lower upper := by
  unfold SearchBus.answering
  rw [h.devices, silence, List.filter_map, List.map_map]
  refine congrArg₂ List.map rfl (List.filter_congr ?_)
  rintro ⟨uid, muted⟩ -
  by_cases hmem : uid ∈ silenced
  · have hlower : ¬ lower ≤ uid.toNat := Nat.not_le.mpr (hbelow uid hmem)
    simp [within, hlower]
  · simp [hmem]

theorem Silenced.answer (h : bus.Silenced silenced state)
    (hbelow : ∀ uid ∈ silenced, uid.toNat < lower) :
    state.answer lower upper = bus.answer lower upper := by
  unfold SearchBus.answer
  rw [h.answering hbelow, h.noise]

/-- A reliable bus answers truthfully for its census. -/
theorem truthful (bus : SearchBus) : Truthful SearchBus.bus bus.census bus.Silenced where
  branch {silenced state lower upper} h hbelow hle := by
    refine ⟨bus.answer lower upper, { state with
      branches := state.branches ++ [(lower, upper, bus.answer lower upper)] }, ?_,
      ⟨h.devices, h.deaf, h.noise, ⟨h.reliable.mutes, h.reliable.answers⟩⟩, explains_answer⟩
    simp [SearchBus.bus, h.reliable.answers, h.answer hbelow]
  mute {silenced state uid} h huid := by
    by_cases hdeaf : uid ∈ bus.deaf
    · refine ⟨state, ?_, by simpa [census, hdeaf] using h⟩
      simp [SearchBus.bus, h.reliable.mutes, h.deaf, census, hdeaf]
    · refine ⟨{ state with devices := state.devices.map fun d => (d.1, d.2 || d.1 == uid) }, ?_, ?_⟩
      · simp [SearchBus.bus, h.reliable.mutes, h.deaf, census, hdeaf]
      · have hdevices : state.devices.map (fun d => (d.1, d.2 || d.1 == uid)) =
            silence (silenced ++ [uid]) bus.devices := by
          rw [h.devices, silence_append]
        simp only [census, List.contains_eq_mem, hdeaf, decide_false, Bool.false_eq_true, if_false]
        exact ⟨hdevices, h.deaf, h.noise, ⟨h.reliable.mutes, h.reliable.answers⟩⟩

/-! ## Sweeping -/

/-- A device that a sweep of a range can tell apart: exactly one device with its identifier is not
muted, and no noise lies on it. -/
structure Distinct (bus : SearchBus) (lower upper : Nat) (uid : Uid) : Prop where
  lower_le : lower ≤ uid.toNat
  le_upper : uid.toNat ≤ upper
  single : bus.devices.count (uid, false) = 1
  quiet : uid.toNat ∉ bus.noise

instance : Decidable (bus.Distinct lower upper uid) :=
  decidable_of_iff (lower ≤ uid.toNat ∧ uid.toNat ≤ upper ∧
      bus.devices.count (uid, false) = 1 ∧ uid.toNat ∉ bus.noise)
    ⟨fun ⟨hlower, hupper, hsingle, hquiet⟩ => ⟨hlower, hupper, hsingle, hquiet⟩,
      fun h => ⟨h.lower_le, h.le_upper, h.single, h.quiet⟩⟩

/-- Only devices of the bus can be told apart. -/
theorem Distinct.exists_mem (h : bus.Distinct lower upper uid) : ∃ d ∈ bus.devices, d.1 = uid :=
  ⟨(uid, false), List.count_pos_iff.mp (by rw [h.single]; exact Nat.one_pos), rfl⟩

theorem mem_between_iff : uid ∈ bus.census.between lower upper ↔ bus.Distinct lower upper uid := by
  rw [Census.mem_between]
  show uid ∈ bus.audible ∧ _ ↔ _
  rw [mem_audible]
  exact ⟨fun ⟨⟨hsingle, hquiet⟩, hlower, hupper⟩ => ⟨hlower, hupper, hsingle, hquiet⟩,
    fun h => ⟨⟨h.single, h.quiet⟩, h.lower_le, h.le_upper⟩⟩

theorem mem_confirming_iff :
    uid ∈ bus.census.confirming lower upper ↔ bus.Distinct lower upper uid ∧ uid ∉ bus.deaf := by
  rw [Census.mem_confirming, mem_between_iff]
  simp [census]

theorem mem_failing_iff :
    uid ∈ bus.census.failing lower upper ↔ bus.Distinct lower upper uid ∧ uid ∈ bus.deaf := by
  rw [Census.mem_failing, mem_between_iff]
  simp [census]

/-- **What a sweep finds.** Let `found` be the distinct devices of the range that confirm, in
ascending order, and `failing` those that do not. A sweep puts as many of `found` into the slots as
there are slots, in this order, and mutes exactly those; if a slot is left then all of `failing`
were counted, each once. -/
theorem sweep_finds_audible (hbus : bus.Reliable) (lower upper : Nat) (slots : List Uid) :
    ∃ found failing : List Uid,
      (∀ uid, uid ∈ found ↔ bus.Distinct lower upper uid ∧ uid ∉ bus.deaf) ∧
      (found.Pairwise fun a b => a.toNat < b.toNat) ∧
      (∀ uid, uid ∈ failing ↔ bus.Distinct lower upper uid ∧ uid ∈ bus.deaf) ∧
      (failing.Pairwise fun a b => a.toNat < b.toNat) ∧
      let run := sweep SearchBus.bus lower upper slots {} bus
      run.result = .ok (min slots.length found.length) ∧
      run.slots = found.take slots.length ++ slots.drop found.length ∧
      run.bus.devices = bus.devices.map (fun d =>
        (d.1, d.2 || (found.take slots.length).contains d.1)) ∧
      (found.length < slots.length → run.stats.muteFailures = failing.length) := by
  have hswept : Swept bus.census bus.Silenced lower upper slots ({} : Stats).muteFailures []
      (sweep SearchBus.bus lower upper slots {} bus) :=
    sweep_swept bus.truthful (Silenced.refl hbus) (by simp)
  refine ⟨bus.census.confirming lower upper, bus.census.failing lower upper,
    fun uid => mem_confirming_iff, Census.ascending_confirming, fun uid => mem_failing_iff,
    Census.ascending_failing, hswept.result, hswept.filled, ?_, fun h => ?_⟩
  · simpa [silence] using hswept.muted.devices
  · simpa using hswept.counted h

/-- A device of one manufacturer. -/
def exampleUid (device : Fin 16) : Uid :=
  ⟨0x7FF0, UInt32.ofNat device, by revert device; decide⟩

/-- Two devices that share an identifier, a muted one, one that does not confirm, two that can be
found, and noise between them. -/
def exampleBus : SearchBus where
  devices := [(exampleUid 12, false), (exampleUid 5, false), (exampleUid 9, false),
    (exampleUid 5, false), (exampleUid 7, true), (exampleUid 1, false)]
  deaf := [exampleUid 9]
  muteError := []
  noise := [(exampleUid 3).toNat]
  failAfter := none
  branches := []

/-- The two devices that can be found are found and muted, and the one that does not confirm is
counted. -/
theorem sweep_exampleBus :
    exampleBus.Reliable ∧
      let run := sweep SearchBus.bus 0 Uid.largest (List.replicate 3 (exampleUid 0)) {} exampleBus
      run.result = .ok 2 ∧ run.slots = [exampleUid 1, exampleUid 12, exampleUid 0] ∧
        run.stats.muteFailures = 1 ∧
        run.bus.devices = [(exampleUid 12, true), (exampleUid 5, false), (exampleUid 9, false),
          (exampleUid 5, false), (exampleUid 7, true), (exampleUid 1, true)] := by
  have hreliable : exampleBus.Reliable := ⟨rfl, rfl⟩
  obtain ⟨found, failing, hfound, hascending, hfailing, hascending', hresult, hslots, hdevices,
    hfailures⟩ := sweep_finds_audible hreliable 0 Uid.largest (List.replicate 3 (exampleUid 0))
  have hcases : ∀ d ∈ exampleBus.devices, exampleBus.Distinct 0 Uid.largest d.1 →
      if d.1 ∈ exampleBus.deaf then d.1 = exampleUid 9
      else d.1 = exampleUid 1 ∨ d.1 = exampleUid 12 := by decide
  have hfound' : found = [exampleUid 1, exampleUid 12] := by
    refine hascending.eq_of_mem_iff (by decide) fun uid => ?_
    rw [hfound]
    refine ⟨fun ⟨hdistinct, hconfirms⟩ => ?_, fun huid => ?_⟩
    · obtain ⟨d, hd, rfl⟩ := hdistinct.exists_mem
      simpa [hconfirms] using hcases d hd hdistinct
    · have hall : ∀ uid ∈ [exampleUid 1, exampleUid 12],
          exampleBus.Distinct 0 Uid.largest uid ∧ uid ∉ exampleBus.deaf := by decide
      exact hall uid huid
  have hfailing' : failing = [exampleUid 9] := by
    refine hascending'.eq_of_mem_iff (by decide) fun uid => ?_
    rw [hfailing]
    refine ⟨fun ⟨hdistinct, hdeaf⟩ => ?_, fun huid => ?_⟩
    · obtain ⟨d, hd, rfl⟩ := hdistinct.exists_mem
      simpa [hdeaf] using hcases d hd hdistinct
    · rw [List.mem_singleton.mp huid]
      decide
  subst hfound' hfailing'
  exact ⟨hreliable, hresult, hslots, hfailures (by decide), hdevices⟩

end SearchBus
end Simulation
end LightingBus
