import LightingBus.Parameter.Store
import LightingBus.Proofs.Parameter.Layout

/-!
# What changes do to a store

`WellFormed` is the invariant of a store; `contents` is all that its values look like from outside.
For every change there are three results: a refusal leaves the store as it was (`Change.Atomic`), an
accepted change keeps the invariant, and its effect on the contents is that on one key.

1. For every change, `_eq_ok` lists what is known if it is accepted, with the store it leaves.
2. The layout of the values carries the invariant over to that store, and shows whose value differs
   (`WellFormed.addInstance`, `WellFormed.set`).
-/

namespace LightingBus

/-- What is seen of a value from outside. -/
structure Entry where
  storageClass : StorageClass
  value : Bytes
  /-- The value has changed since it was last written to the permanent storage. -/
  staged : Bool
  deriving DecidableEq

/-- The entry after a value was written. -/
def Entry.write (value : Bytes) (e : Entry) : Entry :=
  { e with value := value, staged := e.staged || e.storageClass == .persisted }

/-- Which keys have a value, and what is seen of it. -/
abbrev Contents : Type :=
  Key → Option Entry

namespace Store

variable {η γ : Type} {s s' : Store η γ} {key other : Key} {value : Bytes}

/-- All the tables of a store are in order and fit together. -/
structure WellFormed (s : Store η γ) : Prop where
  pids_nodup : s.pids.Nodup
  definitions_le : s.definitions.length ≤ s.capacities.definitions
  devices : ∃ subDevices, s.devices = SubDevice.root :: subDevices ∧ subDevices.Nodup ∧
    ∀ n ∈ subDevices, 1 ≤ n ∧ n ≤ SubDevice.last
  devices_le : s.devices.length ≤ max 1 s.capacities.devices
  layout : Layout s.definitionAt? s.instances s.storage
  listed : ∀ i ∈ s.instances, i.key.subDevice ∈ s.devices
  instances_le : s.instances.length ≤ s.capacities.instances
  storage_le : s.storage.length ≤ s.dynamicCapacity
  dynamic_le : s.dynamicCapacity ≤ s.capacities.bytes
  changed_nodup : s.changed.Nodup
  changed_le : s.changed.length ≤ changedCapacity

/-- The entry of an instance. -/
def entryOf (storage : Bytes) (i : Instance) : Entry :=
  ⟨i.storageClass, i.value storage, i.staged⟩

/-- What is seen of a store's values. -/
def contents (s : Store η γ) : Contents :=
  fun key => (s.find? key).map (entryOf s.storage)

/-- A refusal leaves the store as it was. -/
def Change.Atomic (change : Change η γ) : Prop :=
  ∀ s s' e, change s = (.error e, s') → s' = s

theorem empty_wellFormed (capacities : Capacities) (dynamicCapacity : ℕ) :
    (empty capacities dynamicCapacity : Store η γ).WellFormed where
  pids_nodup := .nil
  definitions_le := Nat.zero_le _
  devices := ⟨[], rfl, .nil, fun n hn => by cases hn⟩
  devices_le := le_max_left _ _
  layout := .nil
  listed i hi := by cases hi
  instances_le := Nat.zero_le _
  storage_le := Nat.zero_le _
  dynamic_le := min_le_right _ _
  changed_nodup := .nil
  changed_le := Nat.zero_le _

/-! ## Reading -/

theorem get_eq (s : Store η γ) (key : Key) :
    s.get key = ((s.contents key).map Entry.value).elim (.error .notFound) .ok := by
  rw [get, contents]
  cases s.find? key <;> rfl

theorem get_of_contents {e : Entry} (he : s.contents key = some e) : s.get key = .ok e.value := by
  rw [get_eq, he]
  rfl

theorem storageClass_eq (s : Store η γ) (key : Key) : s.storageClass key =
    ((s.contents key).map Entry.storageClass).elim (.error .notFound) .ok := by
  rw [storageClass, contents]
  cases s.find? key <;> rfl

theorem find?_eq_some_iff (h : s.WellFormed) {i : Instance} :
    s.find? key = some i ↔ i ∈ s.instances ∧ i.key = key :=
  InstanceTable.find?_eq_some_iff h.layout.sorted

theorem hasInstance_eq (h : s.WellFormed) (key : Key) :
    s.hasInstance key = (s.contents key).isSome := by
  rw [hasInstance, InstanceTable.isSome_index? h.layout.sorted, contents, Option.isSome_map]
  rfl

theorem contents_eq_none_iff (h : s.WellFormed) :
    s.contents key = none ↔ ∀ i ∈ s.instances, i.key ≠ key := by
  rw [contents, Option.map_eq_none_iff]
  exact InstanceTable.find?_eq_none_iff h.layout.sorted

/-! ## Definitions -/

theorem mem_pids_iff {pid : UInt16} :
    pid ∈ s.pids ↔ ∃ slot ∈ s.definitions, slot.definition.pid = pid := by
  rw [pids, List.mem_map]

theorem definitionAt?_of_slotIndex? {pid : UInt16} {n : ℕ} (h : s.slotIndex? pid = some n) :
    ∃ d, s.definitionAt? n = some d ∧ d.pid = pid := by
  obtain ⟨hn, hpid, -⟩ := List.findIdx?_eq_some_iff_getElem.mp h
  refine ⟨s.definitions[n].definition, ?_, eq_of_beq hpid⟩
  rw [definitionAt?, List.getElem?_eq_getElem hn]
  rfl

theorem slotIndex?_eq_none_iff {pid : UInt16} : s.slotIndex? pid = none ↔ pid ∉ s.pids := by
  rw [slotIndex?, List.findIdx?_eq_none_iff, mem_pids_iff]
  constructor
  · rintro h ⟨slot, hslot, rfl⟩
    simpa using h slot hslot
  · intro h slot hslot
    exact beq_eq_false_iff_ne.mpr fun heq => h ⟨slot, hslot, heq⟩

theorem definition?_eq_none_iff {pid : UInt16} : s.definition? pid = none ↔ pid ∉ s.pids := by
  rw [definition?, ← slotIndex?_eq_none_iff]
  cases hslot : s.slotIndex? pid with
  | none => simp
  | some n =>
    obtain ⟨d, hd, -⟩ := definitionAt?_of_slotIndex? hslot
    simp [hd]

theorem definition?_congr (h : s.definitions = s'.definitions) :
    s.definition? = s'.definition? := by
  have hat : s.definitionAt? = s'.definitionAt? := by
    funext n
    rw [definitionAt?, definitionAt?, h]
  funext pid
  rw [definition?, definition?, slotIndex?, slotIndex?, h, hat]

theorem definition?_eq_some_iff (h : s.pids.Nodup) {pid : UInt16} {d : ParameterDefinition η} :
    s.definition? pid = some d ↔ ∃ n, s.definitionAt? n = some d ∧ d.pid = pid := by
  rw [definition?, Option.bind_eq_some_iff]
  constructor
  · rintro ⟨n, hslot, hd⟩
    obtain ⟨d', hd', hpid⟩ := definitionAt?_of_slotIndex? hslot
    rw [hd, Option.some.injEq] at hd'
    exact ⟨n, hd, hd' ▸ hpid⟩
  · rintro ⟨n, hd, rfl⟩
    have hpid : s.pids[n]? = some d.pid := by
      rw [definitionAt?, Option.map_eq_some_iff] at hd
      obtain ⟨slot, hslot, rfl⟩ := hd
      rw [pids, List.getElem?_map, hslot]
      rfl
    cases hslot : s.slotIndex? d.pid with
    | none =>
      exact absurd (List.mem_of_getElem? hpid) (slotIndex?_eq_none_iff.mp hslot)
    | some m =>
      obtain ⟨d', hd', hpid'⟩ := definitionAt?_of_slotIndex? hslot
      have hm : s.pids[m]? = some d.pid := by
        rw [definitionAt?, Option.map_eq_some_iff] at hd'
        obtain ⟨slot, hslot, rfl⟩ := hd'
        rw [pids, List.getElem?_map, hslot, ← hpid']
        rfl
      obtain ⟨hn, -⟩ := List.getElem?_eq_some_iff.mp hpid
      obtain rfl : n = m := (List.getElem?_inj hn h).mp (hpid.trans hm.symm)
      exact ⟨n, rfl, hd⟩

/-- The definition of an instance is the one of its parameter. -/
theorem WellFormed.definition?_of_mem (h : s.WellFormed) {i : Instance} (hi : i ∈ s.instances) :
    ∃ d, s.definition? i.key.pid = some d ∧ s.definitionAt? i.slot = some d := by
  obtain ⟨d, hd, hconforms⟩ := h.layout.conforms i hi
  exact ⟨d, (definition?_eq_some_iff h.pids_nodup).mpr ⟨i.slot, hd, hconforms.pid⟩, hd⟩

/-- A stored value belongs to a device and is one that its definition allows. -/
theorem WellFormed.of_get (h : s.WellFormed) {value : Bytes} (hget : s.get key = .ok value) :
    s.hasDevice key.subDevice = true ∧
      ∃ d, s.definition? key.pid = some d ∧ d.check value = .ok () := by
  unfold get at hget
  split at hget
  next => cases hget
  next i hi =>
    cases hget
    obtain ⟨hmem, rfl⟩ := (find?_eq_some_iff h).mp hi
    obtain ⟨d, hdefinition, hd⟩ := h.definition?_of_mem hmem
    obtain ⟨d', hd', hconforms⟩ := h.layout.conforms i hmem
    obtain rfl : d = d' := Option.some.inj (hd.symm.trans hd')
    exact ⟨List.contains_iff_mem.mpr (h.listed i hmem), d, hdefinition, hconforms.allowed⟩

theorem WellFormed.check_of_get (h : s.WellFormed) {d : ParameterDefinition η} {value : Bytes}
    (hd : s.definition? key.pid = some d) (hget : s.get key = .ok value) :
    d.check value = .ok () := by
  obtain ⟨-, d', hd', hcheck⟩ := h.of_get hget
  obtain rfl : d = d' := Option.some.inj (hd.symm.trans hd')
  exact hcheck

theorem define_atomic (d : ParameterDefinition η) :
    (Change.define d : Change η γ).Atomic := by
  intro s s' e h
  unfold Change.define at h
  repeat' split at h
  all_goals cases h <;> rfl

/-- A definition that is accepted is there already or comes behind the others. -/
theorem define_eq_ok {d : ParameterDefinition η} (h : Change.define d s = (.ok (), s')) :
    s' = s ∨ (d.pid ∉ s.pids ∧ s.definitions.length < s.capacities.definitions ∧
      s' = { s with definitions := s.definitions ++ [⟨d, none⟩] }) := by
  unfold Change.define at h
  split at h
  next old hold =>
    split_ifs at h
    · cases h
    · cases h
      exact .inl rfl
  next hnone =>
    split_ifs at h with hfull
    · cases h
    · cases h
      exact .inr ⟨definition?_eq_none_iff.mp hnone, by omega, rfl⟩

theorem definitionAt?_append {slot : DefinitionSlot η γ} {n : ℕ} {d : ParameterDefinition η}
    (h : s.definitionAt? n = some d) :
    ({ s with definitions := s.definitions ++ [slot] } : Store η γ).definitionAt? n = some d := by
  rw [definitionAt?, Option.map_eq_some_iff] at h ⊢
  obtain ⟨slot', hslot, rfl⟩ := h
  obtain ⟨hn, -⟩ := List.getElem?_eq_some_iff.mp hslot
  exact ⟨slot', by rw [List.getElem?_append_left hn, hslot], rfl⟩

theorem WellFormed.push_definition (h : s.WellFormed) {slot : DefinitionSlot η γ}
    (hnew : slot.definition.pid ∉ s.pids)
    (hroom : s.definitions.length < s.capacities.definitions) :
    ({ s with definitions := s.definitions ++ [slot] } : Store η γ).WellFormed :=
  { h with
    pids_nodup := by
      rw [pids, List.map_append, List.nodup_append]
      refine ⟨h.pids_nodup, List.nodup_singleton _, fun a ha b hb => ?_⟩
      rintro rfl
      rw [List.map_singleton, List.mem_singleton] at hb
      exact hnew (hb ▸ ha)
    definitions_le := by
      rw [List.length_append, List.length_singleton]
      exact hroom
    layout := h.layout.mono fun n d hd => definitionAt?_append hd }

theorem listen_atomic (pid : UInt16) (listener : γ) :
    (Change.listen pid listener : Change η γ).Atomic := by
  intro s s' e h
  unfold Change.listen at h
  split at h
  all_goals cases h <;> rfl

/-- A listener is no part of a definition. -/
theorem map_definition_modify (slots : List (DefinitionSlot η γ)) (n : ℕ) (listener : Option γ) :
    (slots.modify n fun slot => { slot with listener := listener }).map
        DefinitionSlot.definition = slots.map DefinitionSlot.definition := by
  apply List.ext_getElem?
  intro m
  rw [List.getElem?_map, List.getElem?_map, List.getElem?_modify]
  cases slots[m]? with
  | none => rfl
  | some slot => by_cases hnm : n = m <;> simp [hnm]

theorem listen_eq_ok {pid : UInt16} {listener : γ}
    (h : Change.listen pid listener s = (.ok (), s')) :
    ∃ n, s' = { s with definitions := s.definitions.modify n fun slot =>
      { slot with listener := some listener } } := by
  unfold Change.listen at h
  split at h
  next => cases h
  next n _ =>
    cases h
    exact ⟨n, rfl⟩

theorem WellFormed.hear (h : s.WellFormed) (n : ℕ) (listener : Option γ) :
    ({ s with definitions := s.definitions.modify n fun slot =>
      { slot with listener := listener } } : Store η γ).WellFormed := by
  have hmap := map_definition_modify s.definitions n listener
  have hpids : ({ s with definitions := s.definitions.modify n fun slot =>
      { slot with listener := listener } } : Store η γ).pids = s.pids := by
    rw [pids, pids, ← Function.comp_def ParameterDefinition.pid, ← List.map_map, hmap, List.map_map]
  refine { h with pids_nodup := hpids ▸ h.pids_nodup, definitions_le := ?_, layout := ?_ }
  · rw [List.length_modify]
    exact h.definitions_le
  · refine h.layout.mono fun m d hd => ?_
    rw [definitionAt?, ← List.getElem?_map] at hd ⊢
    rw [hmap, hd]

/-! ## Devices -/

theorem addSubDevice_atomic (n : UInt16) : (Change.addSubDevice n : Change η γ).Atomic := by
  intro s s' e h
  unfold Change.addSubDevice at h
  split_ifs at h
  all_goals cases h <;> rfl

theorem addSubDevice_eq_ok {n : UInt16} (h : Change.addSubDevice n s = (.ok (), s')) :
    s' = s ∨ (1 ≤ n ∧ n ≤ SubDevice.last ∧ n ∉ s.devices ∧
      s.devices.length < s.capacities.devices ∧ s' = { s with devices := s.devices ++ [n] }) := by
  unfold Change.addSubDevice at h
  split_ifs at h with hrange hdevice hfull
  · cases h
  · cases h
    exact .inl rfl
  · cases h
  · cases h
    rw [not_or, UInt16.not_lt, UInt16.not_lt] at hrange
    rw [hasDevice, List.contains_iff_mem] at hdevice
    exact .inr ⟨hrange.1, hrange.2, hdevice, by omega, rfl⟩

theorem WellFormed.push_device (h : s.WellFormed) {n : UInt16} (hlow : 1 ≤ n)
    (hhigh : n ≤ SubDevice.last) (hnew : n ∉ s.devices)
    (hroom : s.devices.length < s.capacities.devices) :
    ({ s with devices := s.devices ++ [n] } : Store η γ).WellFormed := by
  obtain ⟨subDevices, hdevices, hnodup, hrange⟩ := h.devices
  refine { h with devices := ?_, devices_le := ?_, listed := ?_ }
  · refine ⟨subDevices ++ [n], by rw [hdevices, List.cons_append], ?_, fun m hm => ?_⟩
    · rw [List.nodup_append]
      refine ⟨hnodup, List.nodup_singleton _, fun a ha b hb => ?_⟩
      rintro rfl
      rw [List.mem_singleton] at hb
      exact hnew (by rw [hdevices, ← hb]; exact List.mem_cons_of_mem _ ha)
    · rcases List.mem_append.mp hm with hm | hm
      · exact hrange m hm
      · rw [List.mem_singleton.mp hm]
        exact ⟨hlow, hhigh⟩
  · rw [List.length_append, List.length_singleton]
    exact le_max_of_le_right hroom
  · exact fun i hi => List.mem_append_left _ (h.listed i hi)

/-! ## A new value -/

/-- The fresh bytes of an instance: its value and zeros up to the capacity. -/
theorem overwrite_fresh (capacity : ℕ) (storage value : Bytes) :
    Bytes.overwrite storage.length value (storage ++ List.replicate capacity 0) =
      storage ++ (value ++ List.replicate (capacity - value.length) 0) := by
  rw [Bytes.overwrite, List.take_left' rfl, ← List.drop_drop, List.drop_left' rfl,
    List.drop_replicate, List.append_assoc]

/-- Where the bytes of a new value are, and the storage with them. -/
inductive Allocated (storage : Bytes) (capacity : ℕ) (value : Bytes) :
    StorageClass → Place → Bytes → Prop where
  | constant : Allocated storage capacity value .static (.constant value) []
  | region {storageClass : StorageClass} (hclass : storageClass ≠ .static) :
    Allocated storage capacity value storageClass (.region storage.length value.length)
      (value ++ List.replicate (capacity - value.length) 0)

theorem reserve_eq_ok {capacity : ℕ} {place : Place}
    (h : s.reserve capacity value = (.ok place, s')) :
    place = .region s.storage.length value.length ∧
      s.storage.length + capacity ≤ s.dynamicCapacity ∧
      s' = { s with
        storage := s.storage ++ (value ++ List.replicate (capacity - value.length) 0) } := by
  unfold reserve at h
  split_ifs at h with hfull
  · cases h
  · cases h
    exact ⟨rfl, by omega, by rw [overwrite_fresh]⟩

theorem allocate_eq_ok {storageClass : StorageClass} {capacity : ℕ} {place : Place}
    (hvalue : value.length ≤ capacity)
    (h : s.allocate storageClass capacity value = (.ok place, s')) :
    ∃ fresh, Allocated s.storage capacity value storageClass place fresh ∧
      (s.storage.length ≤ s.dynamicCapacity →
        (s.storage ++ fresh).length ≤ s.dynamicCapacity) ∧
      s' = { s with storage := s.storage ++ fresh } := by
  unfold allocate at h
  split at h
  next =>
    cases h
    exact ⟨[], .constant, by rw [List.append_nil]; exact id, by rw [List.append_nil]⟩
  all_goals
    obtain ⟨rfl, hroom, rfl⟩ := reserve_eq_ok h
    refine ⟨_, .region (by decide), fun _ => ?_, rfl⟩
    simp only [List.length_append, List.length_replicate]
    omega

theorem allocate_eq_error {storageClass : StorageClass} {capacity : ℕ} {e : ParameterError}
    (h : s.allocate storageClass capacity value = (.error e, s')) : s' = s := by
  unfold allocate reserve at h
  split at h
  · cases h
  all_goals
    split_ifs at h
    · cases h
      rfl
    · cases h

/-- An instance that is accepted has a new key, a listed device and an allowed value, and comes into
the table together with its fresh bytes. -/
theorem addInstance_eq_ok {storageClass : StorageClass}
    (h : Change.addInstance key storageClass value s = (.ok (), s')) :
    ∃ slot d place fresh, s.slotIndex? key.pid = some slot ∧ s.definition? key.pid = some d ∧
      key.subDevice ∈ s.devices ∧ d.check value = .ok () ∧ s.hasInstance key = false ∧
      s.instances.length < s.capacities.instances ∧
      Allocated s.storage d.size.capacity value storageClass place fresh ∧
      (s.storage.length ≤ s.dynamicCapacity →
        (s.storage ++ fresh).length ≤ s.dynamicCapacity) ∧
      s' = { s with
        storage := s.storage ++ fresh
        instances := s.instances.insert ⟨key, slot, storageClass, place, false⟩ } := by
  unfold Change.addInstance at h
  split at h
  next slot d hslot hd =>
    split at h
    next => cases h
    next hdevice =>
      split at h
      next => cases h
      next hcheck =>
        split_ifs at h with hexists hfull
        · cases h
        · cases h
        · split at h
          next => cases h
          next place allocated hallocate =>
            obtain ⟨fresh, hallocated, hlength, rfl⟩ :=
              allocate_eq_ok (ParameterDefinition.length_le_capacity hcheck) hallocate
            rw [insertInstance, if_neg hfull] at h
            cases h
            rw [not_not, hasDevice, List.contains_iff_mem] at hdevice
            exact ⟨slot, d, place, fresh, hslot, hd, hdevice, hcheck,
              Bool.eq_false_iff.mpr hexists, by omega, hallocated, hlength, rfl⟩
  next => cases h

/-- The bytes are set aside before the instance comes into the table; that the table has room was
looked at before. -/
theorem addInstance_atomic (key : Key) (storageClass : StorageClass) (value : Bytes) :
    (Change.addInstance key storageClass value : Change η γ).Atomic := by
  intro s s' e h
  unfold Change.addInstance at h
  split at h
  next slot d hslot hd =>
    split at h
    next => cases h; rfl
    next hdevice =>
      split at h
      next => cases h; rfl
      next hcheck =>
        split_ifs at h with hexists hfull
        · cases h
          rfl
        · cases h
          rfl
        · split at h
          next hallocate =>
            cases h
            exact allocate_eq_error hallocate
          next place allocated hallocate =>
            -- this would be a refusal with the bytes already taken
            obtain ⟨fresh, -, -, rfl⟩ :=
              allocate_eq_ok (ParameterDefinition.length_le_capacity hcheck) hallocate
            rw [insertInstance, if_neg hfull] at h
            cases h
  next => cases h; rfl

theorem Allocated.conforms {d : ParameterDefinition η} {storage fresh : Bytes}
    {storageClass : StorageClass} {place : Place}
    (h : Allocated storage d.size.capacity value storageClass place fresh)
    (hpid : d.pid = key.pid) (hcheck : d.check value = .ok ()) (slot : ℕ) :
    (Instance.mk key slot storageClass place false).value (storage ++ fresh) = value ∧
      (Instance.mk key slot storageClass place false).Conforms d (storage ++ fresh) := by
  have hlength := ParameterDefinition.length_le_capacity hcheck
  have hvalue :
      (Instance.mk key slot storageClass place false).value (storage ++ fresh) = value := by
    cases h with
    | constant => rfl
    | region hclass =>
      rw [Instance.value_of_region rfl, Bytes.slice, List.drop_left' rfl, List.take_left' rfl]
  refine ⟨hvalue, hpid, by rw [hvalue, hcheck], ?_, ?_, fun hstaged => ?_⟩
  · cases h with
    | constant => simp
    | region hclass => simp [hclass]
  · rintro start length hplace
    cases h with
    | constant => cases hplace
    | region hclass =>
      cases hplace
      simp only [List.length_append, List.length_replicate]
      omega
  · cases hstaged

theorem WellFormed.addInstance (h : s.WellFormed) {storageClass : StorageClass}
    (hok : Change.addInstance key storageClass value s = (.ok (), s')) :
    s'.WellFormed ∧
      s'.contents = Function.update s.contents key (some ⟨storageClass, value, false⟩) := by
  obtain ⟨slot, d, place, fresh, hslot, hdefinition, hdevice, hcheck, hnew, hroom, hallocated,
    hstorage, rfl⟩ := addInstance_eq_ok hok
  obtain ⟨d', hd, hpid⟩ := definitionAt?_of_slotIndex? hslot
  obtain rfl : d = d' := by
    rw [definition?, hslot, Option.bind_some, hd] at hdefinition
    exact Option.some.inj hdefinition.symm
  obtain ⟨hvalue, hconforms⟩ := hallocated.conforms hpid hcheck slot
  have hkeys : ∀ j ∈ s.instances, j.key ≠ key := by
    rw [hasInstance_eq h, Option.isSome_eq_false_iff, Option.isNone_iff_eq_none] at hnew
    exact (contents_eq_none_iff h).mp hnew
  have hlayout : Layout s.definitionAt?
      (s.instances.insert ⟨key, slot, storageClass, place, false⟩) (s.storage ++ fresh) := by
    refine h.layout.insert hkeys hd hconforms ?_ ?_
    · cases hallocated with
      | constant => rfl
      | region hclass =>
        have hlength := ParameterDefinition.length_le_capacity hcheck
        rw [Instance.room_of_region rfl hd, List.length_append, List.length_replicate]
        omega
    · cases hallocated with
      | constant => exact .inr rfl
      | region hclass => exact .inl rfl
  refine ⟨{ h with layout := hlayout, listed := ?_, instances_le := ?_, storage_le := ?_ }, ?_⟩
  · intro i hi
    rcases (InstanceTable.mem_insert_iff h.layout.sorted).mp hi with rfl | hi
    · exact hdevice
    · exact h.listed i hi
  · rw [InstanceTable.length_insert h.layout.sorted]
    exact hroom
  · exact hstorage h.storage_le
  · funext other
    rw [contents, find?, InstanceTable.find?_insert h.layout.sorted hkeys, Function.update_apply]
    split_ifs with hother
    · rw [Option.map_some, entryOf, hvalue]
    · rw [contents, find?]
      refine Option.map_congr fun i hi => ?_
      obtain ⟨hmem, -⟩ := (find?_eq_some_iff h).mp hi
      obtain ⟨d', -, hi'⟩ := h.layout.conforms i hmem
      rw [entryOf, entryOf, hi'.value_append]

/-- What it takes to give a device a parameter. -/
structure Addable (s : Store η γ) (key : Key) (storageClass : StorageClass) (value : Bytes)
    (d : ParameterDefinition η) : Prop where
  defined : s.definition? key.pid = some d
  listed : key.subDevice ∈ s.devices
  allowed : d.check value = .ok ()
  fresh : s.contents key = none
  table : s.instances.length < s.capacities.instances
  bytes : storageClass = .static ∨ s.storage.length + d.size.capacity ≤ s.dynamicCapacity

theorem WellFormed.addInstance_iff (h : s.WellFormed) {storageClass : StorageClass} :
    (∃ s', Change.addInstance key storageClass value s = (.ok (), s')) ↔
      ∃ d, s.Addable key storageClass value d := by
  constructor
  · rintro ⟨s', hok⟩
    obtain ⟨slot, d, place, fresh, -, hd, hdevice, hcheck, hnew, htable, hallocated, hstorage, -⟩ :=
      addInstance_eq_ok hok
    rw [hasInstance_eq h, Option.isSome_eq_false_iff, Option.isNone_iff_eq_none] at hnew
    refine ⟨d, hd, hdevice, hcheck, hnew, htable, ?_⟩
    cases hallocated with
    | constant => exact .inl rfl
    | region hclass =>
      have hroom := hstorage h.storage_le
      simp only [List.length_append, List.length_replicate] at hroom
      exact .inr (by omega)
  · rintro ⟨d, hadd⟩
    obtain ⟨slot, hslot, -⟩ := Option.bind_eq_some_iff.mp hadd.defined
    have hnew : s.hasInstance key = false := by
      rw [hasInstance_eq h, hadd.fresh]
      rfl
    have hdevice : s.hasDevice key.subDevice = true := List.contains_iff_mem.mpr hadd.listed
    have htable : ¬ s.capacities.instances ≤ s.instances.length := Nat.not_le.mpr hadd.table
    obtain ⟨place, s', hallocate, htable'⟩ : ∃ place s',
        s.allocate storageClass d.size.capacity value = (.ok place, s') ∧
          ¬ s'.capacities.instances ≤ s'.instances.length := by
      have hcapacity := h.dynamic_le
      cases storageClass with
      | static => exact ⟨_, s, rfl, htable⟩
      | dynamic | persisted =>
        have hbytes := hadd.bytes.resolve_left (by decide)
        rw [allocate, reserve, if_neg (by omega)]
        exact ⟨_, _, rfl, htable⟩
    refine ⟨{ s' with
      instances := s'.instances.insert ⟨key, slot, storageClass, place, false⟩ }, ?_⟩
    simp only [Change.addInstance, hslot, hadd.defined, hdevice, hadd.allowed, hnew, hallocate,
      insertInstance, if_neg htable, if_neg htable', not_true_eq_false, if_false,
      Bool.false_eq_true]

/-! ## Writing a value -/

/-- What a write puts at a position. -/
def written (s : Store η γ) (index : ℕ) (i : Instance) (start : ℕ) (value : Bytes)
    (staged : Bool) : Store η γ :=
  { s with
    storage := Bytes.overwrite start value s.storage
    instances := s.instances.set index
      { i with place := .region start value.length, staged := staged } }

/-- A write that is accepted goes to a region whose definition allows the value. -/
theorem write_eq_ok {index : ℕ} (h : Change.write index value s = (.ok (), s')) :
    ∃ i start length d, s.instances[index]? = some i ∧ i.place = .region start length ∧
      s.definitionAt? i.slot = some d ∧ d.check value = .ok () ∧
      s' = s.written index i start value (i.staged || i.storageClass == .persisted) := by
  unfold Change.write at h
  split at h
  next => cases h
  next i hi =>
    split at h
    next => cases h
    next start length hplace =>
      split at h
      next => cases h
      next d hd =>
        split at h
        next => cases h
        next hcheck =>
          cases h
          exact ⟨i, start, length, d, hi, hplace, hd, hcheck, rfl⟩

theorem write_atomic (index : ℕ) (value : Bytes) :
    (Change.write index value : Change η γ).Atomic := by
  intro s s' e h
  unfold Change.write at h
  repeat' split at h
  all_goals cases h <;> rfl

/-- The values of a region are allowed whenever its definition allows them. -/
theorem write_of_allowed {index : ℕ} {i : Instance} {start length : ℕ}
    {d : ParameterDefinition η} (hi : s.instances[index]? = some i)
    (hplace : i.place = .region start length) (hd : s.definitionAt? i.slot = some d)
    (hcheck : d.check value = .ok ()) :
    Change.write index value s =
      (.ok (), s.written index i start value (i.staged || i.storageClass == .persisted)) := by
  simp only [Change.write, hi, hplace, hd, hcheck]
  rfl

section Written

variable {index : ℕ} {i : Instance} {start length : ℕ} {d : ParameterDefinition η} {staged : Bool}

theorem WellFormed.written (h : s.WellFormed) (hi : s.instances[index]? = some i)
    (hplace : i.place = .region start length) (hd : s.definitionAt? i.slot = some d)
    (hcheck : d.check value = .ok ()) (hstaged : staged = true → i.storageClass = .persisted) :
    (s.written index i start value staged).WellFormed := by
  have hmem : i ∈ s.instances := List.mem_of_getElem? hi
  obtain ⟨d', hd', hi'⟩ := h.layout.conforms i hmem
  obtain rfl : d = d' := Option.some.inj (hd.symm.trans hd')
  have hwithin := hi'.within start length hplace
  have hlength := ParameterDefinition.length_le_capacity hcheck
  have hstorage : (Bytes.overwrite start value s.storage).length = s.storage.length :=
    Bytes.length_overwrite (by omega)
  refine { h with
    layout := h.layout.write hi hplace hd hcheck hstaged
    listed := ?_
    instances_le := ?_
    storage_le := hstorage ▸ h.storage_le }
  · intro j hj
    rcases List.mem_or_eq_of_mem_set hj with hj | rfl
    · exact h.listed j hj
    · exact h.listed i hmem
  · rw [Store.written, List.length_set]
    exact h.instances_le

theorem contents_written (h : s.WellFormed) (hi : s.instances[index]? = some i)
    (hplace : i.place = .region start length) (hd : s.definitionAt? i.slot = some d)
    (hcheck : d.check value = .ok ()) :
    (s.written index i start value staged).contents =
      Function.update s.contents i.key (some ⟨i.storageClass, value, staged⟩) := by
  have hmem : i ∈ s.instances := List.mem_of_getElem? hi
  obtain ⟨d', hd', hi'⟩ := h.layout.conforms i hmem
  obtain rfl : d = d' := Option.some.inj (hd.symm.trans hd')
  have hwithin := hi'.within start length hplace
  funext other
  have hfind : (s.written index i start value staged).find? other = if other = i.key then
      some { i with place := .region start value.length, staged := staged } else s.find? other :=
    InstanceTable.find?_set h.layout.sorted hi
      { i with place := .region start value.length, staged := staged } rfl other
  rw [contents, hfind, Function.update_apply]
  split_ifs with hother
  · rw [Option.map_some, entryOf, Instance.value_of_region rfl, Store.written,
      Bytes.slice_overwrite_self (by omega)]
  · rw [contents]
    refine Option.map_congr fun j hj => ?_
    obtain ⟨hjmem, hkey⟩ := (find?_eq_some_iff h).mp hj
    have hne : j.key ≠ i.key := fun heq => hother (hkey ▸ heq)
    exact congrArg (Entry.mk j.storageClass · j.staged)
      (h.layout.value_overwrite hmem hjmem hne hplace hd hcheck)

end Written

/-! ## Setting a value -/

theorem notify_eq (s : Store η γ) (listener : Option γ) (key : Key) (value : Bytes) :
    ∃ notices, s.notify listener key value = { s with notices := notices } := by
  cases listener with
  | none => exact ⟨s.notices, rfl⟩
  | some listener => exact ⟨_, rfl⟩

theorem set_eq_ok (h : Change.set key value s = (.ok (), s')) :
    ∃ index written listener, s.instances.index? key = some index ∧
      Change.write index value s = (.ok (), written) ∧
      s' = written.notify listener key value := by
  unfold Change.set at h
  split at h
  next => cases h
  next index hindex =>
    dsimp only at h
    split at h
    next => cases h
    next written hwrite =>
      cases h
      exact ⟨index, written, _, hindex, hwrite, rfl⟩

/-- A value that is set is written to the region of its instance, and listeners may be told. -/
theorem written_of_set (h : Change.set key value s = (.ok (), s')) :
    ∃ index i start length d notices, s.instances.index? key = some index ∧
      s.instances[index]? = some i ∧ i.place = .region start length ∧
      s.definitionAt? i.slot = some d ∧ d.check value = .ok () ∧
      s' = { s.written index i start value (i.staged || i.storageClass == .persisted) with
        notices := notices } := by
  obtain ⟨index, written, listener, hindex, hwrite, rfl⟩ := set_eq_ok h
  obtain ⟨i, start, length, d, hi, hplace, hd, hcheck, rfl⟩ := write_eq_ok hwrite
  obtain ⟨notices, hnotify⟩ := notify_eq
    (s.written index i start value (i.staged || i.storageClass == .persisted)) listener key value
  exact ⟨index, i, start, length, d, notices, hindex, hi, hplace, hd, hcheck, hnotify⟩

theorem set_atomic (key : Key) (value : Bytes) : (Change.set key value : Change η γ).Atomic := by
  intro s s' e h
  unfold Change.set at h
  split at h
  next => cases h; rfl
  next index hindex =>
    dsimp only at h
    split at h
    next hwrite =>
      cases h
      exact write_atomic _ _ _ _ _ hwrite
    next => cases h

theorem WellFormed.set (h : s.WellFormed) (hok : Change.set key value s = (.ok (), s')) :
    s'.WellFormed ∧ ∃ entry, s.contents key = some entry ∧ entry.storageClass ≠ .static ∧
      s'.contents = Function.update s.contents key (some (entry.write value)) := by
  obtain ⟨index, i, start, length, d, notices, hindex, hi, hplace, hd, hcheck, rfl⟩ :=
    written_of_set hok
  obtain ⟨i', hi', rfl⟩ := (InstanceTable.index?_eq_some_iff h.layout.sorted).mp hindex
  obtain rfl : i = i' := Option.some.inj (hi.symm.trans hi')
  have hmem : i ∈ s.instances := List.mem_of_getElem? hi
  obtain ⟨_, -, hconforms⟩ := h.layout.conforms i hmem
  have hstaged : (i.staged || i.storageClass == .persisted) = true →
      i.storageClass = .persisted := by
    rw [Bool.or_eq_true, beq_iff_eq]
    rintro (hstaged | hclass)
    · exact hconforms.staged hstaged
    · exact hclass
  have hwellFormed := h.written hi hplace hd hcheck hstaged
  refine ⟨{ hwellFormed with }, entryOf s.storage i, ?_, fun hstatic => ?_, ?_⟩
  · rw [contents, (find?_eq_some_iff h).mpr ⟨hmem, rfl⟩, Option.map_some]
  · obtain ⟨bytes, hconstant⟩ := hconforms.constant.mp hstatic
    rw [hplace] at hconstant
    cases hconstant
  · exact contents_written h hi hplace hd hcheck

/-- A value that changes accepts what its definition allows. -/
theorem WellFormed.set_of_allowed (h : s.WellFormed) {entry : Entry} {d : ParameterDefinition η}
    (hentry : s.contents key = some entry) (hclass : entry.storageClass ≠ .static)
    (hd : s.definition? key.pid = some d) (hcheck : d.check value = .ok ()) :
    ∃ s', Change.set key value s = (.ok (), s') := by
  rw [contents, Option.map_eq_some_iff] at hentry
  obtain ⟨i, hi, rfl⟩ := hentry
  obtain ⟨hmem, rfl⟩ := (find?_eq_some_iff h).mp hi
  obtain ⟨_, -, hconforms⟩ := h.layout.conforms i hmem
  obtain ⟨d', hdefinition, hd'⟩ := h.definition?_of_mem hmem
  obtain rfl : d = d' := Option.some.inj (hd.symm.trans hdefinition)
  obtain ⟨index, hindex⟩ := List.mem_iff_getElem?.mp hmem
  have hposition : s.instances.index? i.key = some index :=
    (InstanceTable.index?_eq_some_iff h.layout.sorted).mpr ⟨i, hindex, rfl⟩
  cases hplace : i.place with
  | constant bytes => exact absurd (hconforms.constant.mpr ⟨bytes, hplace⟩) hclass
  | region start length =>
    simp only [Change.set, hposition, write_of_allowed hindex hplace hd' hcheck]
    exact ⟨_, rfl⟩

/-- What it takes to set the value of a key. -/
def Settable (s : Store η γ) (key : Key) (value : Bytes) : Prop :=
  ∃ entry d, s.contents key = some entry ∧ entry.storageClass ≠ .static ∧
    s.definition? key.pid = some d ∧ d.check value = .ok ()

theorem WellFormed.set_iff (h : s.WellFormed) :
    (∃ s', Change.set key value s = (.ok (), s')) ↔ s.Settable key value := by
  constructor
  · rintro ⟨s', hok⟩
    obtain ⟨-, entry, hentry, hclass, -⟩ := h.set hok
    obtain ⟨index, i, start, length, d, notices, hindex, hi, -, hd, hcheck, -⟩ :=
      written_of_set hok
    obtain ⟨i', hi', rfl⟩ := (InstanceTable.index?_eq_some_iff h.layout.sorted).mp hindex
    obtain rfl : i = i' := Option.some.inj (hi.symm.trans hi')
    obtain ⟨d', hdefinition, hd'⟩ := h.definition?_of_mem (List.mem_of_getElem? hi)
    obtain rfl : d = d' := Option.some.inj (hd.symm.trans hd')
    exact ⟨entry, d, hentry, hclass, hdefinition, hcheck⟩
  · rintro ⟨entry, d, hentry, hclass, hd, hcheck⟩
    exact h.set_of_allowed hentry hclass hd hcheck

/-! ## The queue of changes -/

theorem WellFormed.enqueue (h : s.WellFormed) {waiting : List Key}
    (hsublist : waiting.Sublist s.changed) (hroom : waiting.length < changedCapacity)
    (hnew : key ∉ s.changed) :
    ({ s with changed := waiting ++ [key] } : Store η γ).WellFormed := by
  refine { h with changed_nodup := ?_, changed_le := ?_ }
  · refine List.nodup_append.mpr ⟨h.changed_nodup.sublist hsublist, List.nodup_singleton _, ?_⟩
    intro a ha b hb hab
    rw [List.mem_singleton] at hb
    exact hnew (hb ▸ hab ▸ hsublist.subset ha)
  · rw [List.length_append, List.length_singleton]
    exact hroom

theorem WellFormed.queueChanged (h : s.WellFormed) (key : Key) :
    (s.queueChanged key).WellFormed := by
  have hle := h.changed_le
  unfold Store.queueChanged
  split_ifs with hwaiting hfull
  · exact h
  · refine h.enqueue (List.tail_sublist _) ?_ (by simpa using hwaiting)
    rw [List.length_tail]
    unfold changedCapacity at hfull hle ⊢
    omega
  · exact h.enqueue (.refl _) (by omega) (by simpa using hwaiting)

/-- Queueing a change is seen in the queue only. -/
theorem queueChanged_eq (s : Store η γ) (key : Key) :
    ∃ waiting, s.queueChanged key = { s with changed := waiting } := by
  unfold Store.queueChanged
  split_ifs
  · exact ⟨s.changed, rfl⟩
  · exact ⟨_, rfl⟩
  · exact ⟨_, rfl⟩

theorem contents_queueChanged (s : Store η γ) (key : Key) :
    (s.queueChanged key).contents = s.contents := by
  obtain ⟨waiting, hqueued⟩ := queueChanged_eq s key
  rw [hqueued]
  rfl

/-- So is taking a change out of it. -/
theorem popChanged_eq_some (h : s.popChanged = some (key, s')) :
    ∃ rest, s.changed = key :: rest ∧ s' = { s with changed := rest } := by
  unfold Store.popChanged at h
  split at h
  next => cases h
  next rest hchanged =>
    cases h
    exact ⟨rest, hchanged, rfl⟩

theorem WellFormed.popChanged (h : s.WellFormed) (hpop : s.popChanged = some (key, s')) :
    s'.WellFormed ∧ s'.contents = s.contents := by
  obtain ⟨rest, hchanged, rfl⟩ := popChanged_eq_some hpop
  have hsublist : rest.Sublist s.changed := hchanged ▸ List.sublist_cons_self _ _
  exact ⟨{ h with
    changed_nodup := h.changed_nodup.sublist hsublist
    changed_le := hsublist.length_le.trans h.changed_le }, rfl⟩

theorem setAndQueue_eq_ok (h : Change.setAndQueue key value s = (.ok (), s')) :
    ∃ written, Change.set key value s = (.ok (), written) ∧ s' = written.queueChanged key := by
  unfold Change.setAndQueue at h
  split at h
  next => cases h
  next written hset =>
    cases h
    exact ⟨written, hset, rfl⟩

theorem WellFormed.setAndQueue_iff (h : s.WellFormed) :
    (∃ s', Change.setAndQueue key value s = (.ok (), s')) ↔ s.Settable key value := by
  rw [← h.set_iff]
  constructor
  · rintro ⟨s', hok⟩
    obtain ⟨written, hset, -⟩ := setAndQueue_eq_ok hok
    exact ⟨written, hset⟩
  · rintro ⟨written, hset⟩
    exact ⟨written.queueChanged key, by rw [Change.setAndQueue, hset]⟩

theorem setAndQueue_atomic (key : Key) (value : Bytes) :
    (Change.setAndQueue key value : Change η γ).Atomic := by
  intro s s' e h
  unfold Change.setAndQueue at h
  split at h
  next hset =>
    cases h
    exact set_atomic _ _ _ _ _ hset
  next => cases h

theorem WellFormed.setAndQueue (h : s.WellFormed)
    (hok : Change.setAndQueue key value s = (.ok (), s')) :
    s'.WellFormed ∧ ∃ entry, s.contents key = some entry ∧ entry.storageClass ≠ .static ∧
      s'.contents = Function.update s.contents key (some (entry.write value)) := by
  obtain ⟨written, hset, rfl⟩ := setAndQueue_eq_ok hok
  obtain ⟨hwritten, entry, hentry, hclass, hcontents⟩ := h.set hset
  exact ⟨hwritten.queueChanged key, entry, hentry, hclass,
    by rw [contents_queueChanged, hcontents]⟩

/-- Setting a value changes no definition. -/
theorem definitions_set (hok : Change.set key value s = (.ok (), s')) :
    s'.definitions = s.definitions := by
  obtain ⟨index, i, start, length, d, notices, -, -, -, -, -, rfl⟩ := written_of_set hok
  rfl

theorem definitions_setAndQueue (hok : Change.setAndQueue key value s = (.ok (), s')) :
    s'.definitions = s.definitions := by
  obtain ⟨written, hset, rfl⟩ := setAndQueue_eq_ok hok
  obtain ⟨waiting, hqueued⟩ := queueChanged_eq written key
  rw [← definitions_set hset, hqueued]

end Store

end LightingBus
