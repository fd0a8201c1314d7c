import LightingBus.Proofs.Parameter.Refinement

/-!
# What every store satisfies

`consistent_of_leads`: whatever is done with a store, and whatever the permanent storage holds or
refuses meanwhile, its tables are in order and fit together, and a definition that is stored never
changes again.

1. `Grows` is what two stores have in common if one comes out of the other: the capacities stay and
   definitions only come behind those that are there. It is shown for a step (`grows_run`) and
   follows for a run (`Leads.grows`).
2. `Consistent` spells out, in terms of the lists of a store, what `WellFormed` says in terms of the
   layout of its values (`WellFormed.consistent`).
-/

namespace LightingBus

/-- A value has a length and, if the values are numbers with bounds, a number that the definition
admits. -/
structure ParameterDefinition.Admits (d : ParameterDefinition η) (value : Bytes) : Prop where
  size : d.size.accepts value.length = true
  bounds : d.hasRange = true → ∃ number, d.dataType.readNumber? value = some number ∧
    d.minimum ≤ number ∧ number ≤ d.maximum

theorem ParameterDefinition.check_eq_ok_iff {d : ParameterDefinition η} {value : Bytes} :
    d.check value = .ok () ↔ d.Admits value := by
  unfold check
  constructor
  · intro h
    split_ifs at h with haccepts hrange
    · split at h
      next => cases h
      next number hnumber =>
        split_ifs at h with hbounds
        · exact ⟨haccepts, fun _ => ⟨number, hnumber, hbounds⟩⟩
    · exact ⟨haccepts, fun hr => absurd hr hrange⟩
  · rintro ⟨haccepts, hbounds⟩
    rw [if_neg (not_not.mpr haccepts)]
    split_ifs with hrange
    · obtain ⟨number, hnumber, hinside⟩ := hbounds hrange
      simp only [hnumber, if_pos hinside]
    · rfl

namespace Store

variable {η γ κ : Type} {s s' s'' : Store η γ} {capacities : Capacities} {dynamicCapacity : ℕ}

/-! ## Runs -/

/-- A store that comes out of another one by operations. Every operation may find another permanent
storage. -/
inductive Leads (s : Store η γ) : Store η γ → Prop where
  | refl : Leads s s
  | step {κ : Type} (kv : KeyValueStorage κ) (op : Operation η γ κ) {s' : Store η γ} :
    Leads s s' → Leads s (op.run kv s').2

theorem leads_runAll (kv : KeyValueStorage κ) (ops : List (Operation η γ κ)) (h : s.Leads s') :
    s.Leads (runAll kv ops s') := by
  induction ops generalizing s' with
  | nil => exact h
  | cons op ops ih => exact ih (h.step kv op)

theorem Leads.wellFormed (h : s.Leads s') (hs : s.WellFormed) : s'.WellFormed := by
  induction h with
  | refl => exact hs
  | step kv op _ ih => exact (step_refines kv op ih).1

/-! ## What only grows -/

/-- The capacities are the same, and the definitions begin with those that were there. -/
structure Grows (s s' : Store η γ) : Prop where
  capacities : s'.capacities = s.capacities
  dynamicCapacity : s'.dynamicCapacity = s.dynamicCapacity
  definitions : s.definitions.map DefinitionSlot.definition <+:
    s'.definitions.map DefinitionSlot.definition

namespace Grows

theorem refl (s : Store η γ) : s.Grows s :=
  ⟨rfl, rfl, List.prefix_rfl⟩

theorem trans (h : s.Grows s') (h' : s'.Grows s'') : s.Grows s'' :=
  ⟨h'.capacities.trans h.capacities, h'.dynamicCapacity.trans h.dynamicCapacity,
    h.definitions.trans h'.definitions⟩

/-- The values of a store and what waits to be reported may be others. -/
theorem of_definitions (hcapacities : s'.capacities = s.capacities)
    (hdynamic : s'.dynamicCapacity = s.dynamicCapacity)
    (hdefinitions : s'.definitions = s.definitions) : s.Grows s' :=
  ⟨hcapacities, hdynamic, by rw [hdefinitions]⟩

theorem definition? (h : s.Grows s') (hs : s.pids.Nodup) (hs' : s'.pids.Nodup) {pid : UInt16}
    {d : ParameterDefinition η} (hd : s.definition? pid = some d) :
    s'.definition? pid = some d := by
  obtain ⟨n, hn, hpid⟩ := (definition?_eq_some_iff hs).mp hd
  refine (definition?_eq_some_iff hs').mpr ⟨n, ?_, hpid⟩
  obtain ⟨further, hfurther⟩ := h.definitions
  rw [definitionAt?, ← List.getElem?_map] at hn ⊢
  obtain ⟨hlt, -⟩ := List.getElem?_eq_some_iff.mp hn
  rw [← hfurther, List.getElem?_append_left hlt, hn]

end Grows

theorem grows_write {index : ℕ} {value : Bytes} (h : Change.write index value s = (.ok (), s')) :
    s.Grows s' := by
  obtain ⟨i, start, length, d, -, -, -, -, rfl⟩ := write_eq_ok h
  exact .of_definitions rfl rfl rfl

theorem grows_set {key : Key} {value : Bytes} (h : Change.set key value s = (.ok (), s')) :
    s.Grows s' := by
  obtain ⟨index, i, start, length, d, notices, -, -, -, -, -, rfl⟩ := written_of_set h
  exact .of_definitions rfl rfl rfl

theorem grows_queueChanged (s : Store η γ) (key : Key) : s.Grows (s.queueChanged key) := by
  obtain ⟨waiting, hqueued⟩ := queueChanged_eq s key
  rw [hqueued]
  exact .of_definitions rfl rfl rfl

theorem grows_restore (s : Store η γ) (index : ℕ) (value : Bytes) :
    s.Grows (s.restore index value).2 := by
  unfold restore
  split_ifs
  · exact .refl s
  · split
    next s' hwrite =>
      rw [write_atomic _ _ _ _ _ hwrite]
      exact .refl s
    next s' hwrite => exact (grows_write hwrite).trans (.of_definitions rfl rfl rfl)

theorem grows_loadEach (kv : KeyValueStorage κ) (positions : List ℕ) :
    ∀ (s : Store η γ) (k : κ), s.Grows (loadEach kv positions s k).2.1 := by
  induction positions with
  | nil => exact fun s _ => .refl s
  | cons index positions ih =>
    intro s k
    rw [loadEach]
    split
    next => exact ih s k
    next i _ =>
      split
      next => exact .refl s
      next k _ => exact ih s k
      next value k _ =>
        have hrestore := grows_restore s index value
        split
        next restored heq =>
          rw [heq] at hrestore
          exact hrestore.trans (ih restored k)
        next restored heq =>
          rw [heq] at hrestore
          exact hrestore.trans (ih restored k)

/-- An operation that is accepted adds a definition at most. -/
theorem grows_of_run_eq_ok (kv : KeyValueStorage κ) {op : Operation η γ κ}
    (hstorage : op.storage? = none) (h : op.run kv s = (.ok (), s')) : s.Grows s' := by
  cases op with
  | define d =>
    rcases define_eq_ok h with rfl | ⟨-, -, rfl⟩
    · exact .refl _
    · exact ⟨rfl, rfl, by rw [List.map_append]; exact List.prefix_append _ _⟩
  | listen pid listener =>
    obtain ⟨n, rfl⟩ := listen_eq_ok h
    exact ⟨rfl, rfl, by rw [map_definition_modify]⟩
  | addSubDevice n =>
    rcases addSubDevice_eq_ok h with rfl | ⟨-, -, -, -, rfl⟩
    · exact .refl _
    · exact .of_definitions rfl rfl rfl
  | addInstance key storageClass value =>
    obtain ⟨slot, d, place, fresh, -, -, -, -, -, -, -, -, rfl⟩ := addInstance_eq_ok h
    exact .of_definitions rfl rfl rfl
  | set key value => exact grows_set h
  | setAndQueue key value =>
    obtain ⟨written, hset, rfl⟩ := setAndQueue_eq_ok h
    exact (grows_set hset).trans (grows_queueChanged written key)
  | queueChanged key =>
    cases h
    exact grows_queueChanged s key
  | popChanged =>
    cases h
    cases hpop : s.popChanged with
    | none => exact .refl s
    | some p =>
      obtain ⟨key, popped⟩ := p
      obtain ⟨rest, -, rfl⟩ := popChanged_eq_some hpop
      exact .of_definitions rfl rfl rfl
  | commit storage => cases hstorage
  | load storage => cases hstorage

theorem grows_run (kv : KeyValueStorage κ) (op : Operation η γ κ) (s : Store η γ) :
    s.Grows (op.run kv s).2 := by
  cases hstorage : op.storage? with
  | none =>
    rcases hrun : op.run kv s with ⟨e | ⟨⟩, s'⟩
    · rw [op.run_atomic kv hstorage _ _ _ hrun]
      exact .refl s
    · exact grows_of_run_eq_ok kv hstorage hrun
  | some storage =>
    cases op with
    | commit storage => exact .of_definitions rfl rfl rfl
    | load storage => exact grows_loadEach kv _ s storage
    | _ => cases hstorage

theorem Leads.grows (h : s.Leads s') : s.Grows s' := by
  induction h with
  | refl => exact .refl s
  | step kv op _ ih => exact ih.trans (grows_run kv op _)

/-! ## The lists of a store -/

/-- Bytes of the storage that are set aside. -/
structure Reservation where
  start : ℕ
  capacity : ℕ

/-- No byte is in both reservations. -/
def Reservation.Disjoint (a b : Reservation) : Prop :=
  a.start + a.capacity ≤ b.start ∨ b.start + b.capacity ≤ a.start

/-- The bytes that are set aside for an instance. -/
def reservation? (s : Store η γ) (i : Instance) : Option Reservation :=
  match i.place, s.definitionAt? i.slot with
  | .region start _, some d => some ⟨start, d.size.capacity⟩
  | _, _ => none

/-- The reservations of all instances, in the order of their keys. -/
def reservations (s : Store η γ) : List Reservation :=
  s.instances.filterMap s.reservation?

/-- The tables of a store with these capacities are in order and fit together. -/
structure Consistent (capacities : Capacities) (dynamicCapacity : ℕ) (s : Store η γ) : Prop where
  pids : s.pids.Nodup
  devices : ∃ subDevices, s.devices = 0 :: subDevices ∧ subDevices.Nodup ∧
    ∀ n ∈ subDevices, 1 ≤ n.toNat ∧ n.toNat ≤ 512
  devices_le : s.devices.length ≤ capacities.devices
  ascending : s.instances.Pairwise fun i j => i.key.subDevice < j.key.subDevice ∨
    i.key.subDevice = j.key.subDevice ∧ i.key.pid < j.key.pid
  listed : ∀ i ∈ s.instances, i.key.subDevice ∈ s.devices
  defined : ∀ i ∈ s.instances, ∃ d, s.definition? i.key.pid = some d ∧
    s.definitionAt? i.slot = some d ∧ d.pid = i.key.pid
  reserved : ∀ i ∈ s.instances, i.storageClass ≠ .static ↔ (s.reservation? i).isSome
  disjoint : s.reservations.Pairwise Reservation.Disjoint
  within : ∀ r ∈ s.reservations, r.start + r.capacity ≤ s.storage.length
  total : (s.reservations.map Reservation.capacity).sum = s.storage.length
  storage_le : s.storage.length ≤ min dynamicCapacity capacities.bytes
  admitted : ∀ i ∈ s.instances, ∀ d, s.definition? i.key.pid = some d →
    d.Admits (i.value s.storage)
  staged : ∀ i ∈ s.instances, i.staged = true → i.storageClass = .persisted
  changed : s.changed.Nodup
  changed_le : s.changed.length ≤ 16

/-- What is reserved for an instance is the room that it takes. -/
theorem room_eq (s : Store η γ) (i : Instance) :
    i.room s.definitionAt? = (s.reservation? i).elim 0 Reservation.capacity := by
  rw [Instance.room, reservation?]
  cases i.place <;> cases s.definitionAt? i.slot <;> rfl

theorem reservation?_eq_some {i : Instance} {r : Reservation} (h : s.reservation? i = some r) :
    i.offset = r.start ∧ i.room s.definitionAt? = r.capacity := by
  refine ⟨?_, by rw [room_eq, h]; rfl⟩
  unfold reservation? at h
  split at h
  next start _ _ hplace _ =>
    cases h
    exact Instance.offset_of_region hplace
  next => cases h

theorem sum_capacity_filterMap (s : Store η γ) (t : List Instance) :
    ((t.filterMap s.reservation?).map Reservation.capacity).sum =
      (t.map (Instance.room s.definitionAt?)).sum := by
  induction t with
  | nil => rfl
  | cons i t ih =>
    rw [List.map_cons, List.sum_cons, ← ih, room_eq, List.filterMap_cons]
    cases s.reservation? i with
    | none => exact (Nat.zero_add _).symm
    | some r => rfl

theorem WellFormed.isSome_reservation?_iff (h : s.WellFormed) {i : Instance}
    (hi : i ∈ s.instances) : i.storageClass ≠ .static ↔ (s.reservation? i).isSome := by
  obtain ⟨d, hd, hconforms⟩ := h.layout.conforms i hi
  rw [Ne, hconforms.constant, reservation?, hd]
  cases i.place <;> simp

/-- Two keys of the table differ, so their reservations are disjoint. -/
theorem WellFormed.disjoint (h : s.WellFormed) : s.reservations.Pairwise Reservation.Disjoint := by
  rw [reservations, List.pairwise_filterMap]
  refine h.layout.sorted.imp_of_mem fun {i j} hi hj hbefore a ha b hb => ?_
  have hne : i.key ≠ j.key := by
    intro heq
    rw [Key.before_iff, heq] at hbefore
    exact Nat.lt_irrefl _ hbefore
  have hapart := h.layout.apart i hi j hj hne
  obtain ⟨hstart, hroom⟩ := reservation?_eq_some ha
  obtain ⟨hstart', hroom'⟩ := reservation?_eq_some hb
  rw [Instance.Apart, hstart, hroom, hstart', hroom'] at hapart
  exact hapart

theorem WellFormed.within (h : s.WellFormed) {r : Reservation} (hr : r ∈ s.reservations) :
    r.start + r.capacity ≤ s.storage.length := by
  obtain ⟨i, hi, hreservation⟩ := List.mem_filterMap.mp hr
  obtain ⟨d, hd, hconforms⟩ := h.layout.conforms i hi
  obtain ⟨hstart, hroom⟩ := reservation?_eq_some hreservation
  have hend := hconforms.end_le hd
  rwa [hstart, hroom] at hend

theorem WellFormed.consistent (h : s.WellFormed) (hroot : 0 < s.capacities.devices)
    (hdynamic : s.dynamicCapacity = min dynamicCapacity s.capacities.bytes) :
    s.Consistent s.capacities dynamicCapacity where
  pids := h.pids_nodup
  devices := h.devices
  devices_le := by
    have hle := h.devices_le
    omega
  ascending := by
    refine h.layout.sorted.imp fun {i j} hbefore => ?_
    simpa [Key.before] using hbefore
  listed := h.listed
  defined i hi := by
    obtain ⟨d, hdefinition, hd⟩ := h.definition?_of_mem hi
    obtain ⟨d', hd', hconforms⟩ := h.layout.conforms i hi
    obtain rfl : d = d' := Option.some.inj (hd.symm.trans hd')
    exact ⟨d, hdefinition, hd, hconforms.pid⟩
  reserved i hi := h.isSome_reservation?_iff hi
  disjoint := h.disjoint
  within r hr := h.within hr
  total := by rw [reservations, sum_capacity_filterMap, h.layout.total]
  storage_le := hdynamic ▸ h.storage_le
  admitted i hi d hd := by
    obtain ⟨d', hdefinition, hd'⟩ := h.definition?_of_mem hi
    obtain ⟨d'', hd'', hconforms⟩ := h.layout.conforms i hi
    obtain rfl : d = d' := Option.some.inj (hd.symm.trans hdefinition)
    obtain rfl : d = d'' := Option.some.inj (hd'.symm.trans hd'')
    exact ParameterDefinition.check_eq_ok_iff.mp hconforms.allowed
  staged i hi := by
    obtain ⟨d, -, hconforms⟩ := h.layout.conforms i hi
    exact hconforms.staged
  changed := h.changed_nodup
  changed_le := h.changed_le

/-! ## Every store -/

/-- Whatever is done with a store that has room for its root device, its tables are in order and fit
together, and a definition that it has stays as it is. -/
theorem consistent_of_leads (hroot : 0 < capacities.devices)
    (h : (empty capacities dynamicCapacity : Store η γ).Leads s) :
    s.Consistent capacities dynamicCapacity ∧
    ∀ s', s.Leads s' → ∀ pid d, s.definition? pid = some d → s'.definition? pid = some d := by
  have hkept := h.wellFormed (empty_wellFormed capacities dynamicCapacity)
  have hcapacities : s.capacities = capacities := h.grows.capacities
  have hdynamic : s.dynamicCapacity = min dynamicCapacity capacities.bytes :=
    h.grows.dynamicCapacity
  refine ⟨?_, fun s' h' pid d hd => ?_⟩
  · rw [← hcapacities] at hroot hdynamic ⊢
    exact hkept.consistent hroot hdynamic
  · exact h'.grows.definition? hkept.pids_nodup (h'.wellFormed hkept).pids_nodup hd

/-- A permanent storage that has some answers prepared and fails when they are used up. -/
def preparedAnswers : KeyValueStorage (List (Option Bytes)) where
  get _
    | [] => (.error (), [])
    | answer :: rest => (.ok answer, rest)
  set _ _ answers := (.error (), answers)

/-- A level of a sub-device and a name of the root device. The level was set and could not be
written to the permanent storage, which then has a level to offer that is out of bounds. -/
def levelStore : Store Unit Unit :=
  runAll preparedAnswers
    [.define ⟨0x8000, .getSet () (), .unsignedByte, {}, {}, .fixed 1, 1, 10, .none, .none, none⟩,
      .define ⟨0x8001, .get (), .ascii, {}, {}, .upTo 4, 0, 0, .none, .none, none⟩,
      .addSubDevice 3, .addInstance ⟨3, 0x8000⟩ .persisted [5],
      .addInstance ⟨0, 0x8001⟩ .dynamic [110, 111], .setAndQueue ⟨3, 0x8000⟩ [7], .commit [],
      .load [some [11]]]
    (empty ⟨2, 2, 4, 16⟩ 8)

theorem consistent_levelStore :
    (0 < 2 ∧ (empty ⟨2, 2, 4, 16⟩ 8 : Store Unit Unit).Leads levelStore) ∧
    (levelStore.storage = [7, 110, 111, 0, 0] ∧ levelStore.stagedCount = 1) ∧
    levelStore.Consistent ⟨2, 2, 4, 16⟩ 8 ∧
    ∀ s', levelStore.Leads s' → ∀ pid d, levelStore.definition? pid = some d →
      s'.definition? pid = some d := by
  have hleads : (empty ⟨2, 2, 4, 16⟩ 8 : Store Unit Unit).Leads levelStore :=
    leads_runAll _ _ .refl
  exact ⟨⟨by decide, hleads⟩, by cbv, consistent_of_leads (by decide) hleads⟩

end Store

end LightingBus
