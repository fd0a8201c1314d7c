import LightingBus.Parameter.Definition
import LightingBus.Proofs.Parameter.Table

/-!
# The layout of values

`Layout`: a table of instances and the storage with their values fit together. Every instance has a
definition that allows its value, and the regions of different instances are apart, so that a write
to one region is seen by one instance (`Layout.value_overwrite`).

1. `Instance.Conforms` is what an instance owes to its definition.
2. `Layout.write` and `Layout.insert` are the two changes of the storage: the overwriting of a value
   and a fresh region at the end. `Layout.restage` changes no byte.
-/

namespace LightingBus

variable {η : Type} {i j : Instance} {d : ParameterDefinition η} {storage value : Bytes}

namespace Instance

/-- What an instance owes to its definition. -/
structure Conforms (i : Instance) (d : ParameterDefinition η) (storage : Bytes) : Prop where
  pid : d.pid = i.key.pid
  allowed : d.check (i.value storage) = .ok ()
  constant : i.storageClass = .static ↔ ∃ bytes, i.place = .constant bytes
  within : ∀ offset length, i.place = .region offset length →
    length ≤ d.size.capacity ∧ offset + d.size.capacity ≤ storage.length
  staged : i.staged = true → i.storageClass = .persisted

/-- Where the region of an instance begins. -/
def offset (i : Instance) : ℕ :=
  match i.place with
  | .constant _ => 0
  | .region offset _ => offset

/-- How many bytes an instance takes of the storage. -/
def room (definitions : ℕ → Option (ParameterDefinition η)) (i : Instance) : ℕ :=
  match i.place, definitions i.slot with
  | .region _ _, some d => d.size.capacity
  | _, _ => 0

/-- The regions of two instances have no byte in common. -/
def Apart (definitions : ℕ → Option (ParameterDefinition η)) (i j : Instance) : Prop :=
  i.offset + i.room definitions ≤ j.offset ∨ j.offset + j.room definitions ≤ i.offset

theorem offset_of_region {start length : ℕ} (hplace : i.place = .region start length) :
    i.offset = start := by
  rw [offset, hplace]

theorem room_of_region {definitions : ℕ → Option (ParameterDefinition η)} {start length : ℕ}
    (hplace : i.place = .region start length) (hd : definitions i.slot = some d) :
    i.room definitions = d.size.capacity := by
  rw [room, hplace, hd]

theorem room_of_constant {definitions : ℕ → Option (ParameterDefinition η)} {bytes : Bytes}
    (hplace : i.place = .constant bytes) : i.room definitions = 0 := by
  rw [room, hplace]

theorem value_of_region {start length : ℕ} (hplace : i.place = .region start length) :
    i.value storage = Bytes.slice start length storage := by
  rw [value, hplace]

theorem value_of_constant {bytes : Bytes} (hplace : i.place = .constant bytes) :
    i.value storage = bytes := by
  rw [value, hplace]

theorem Apart.symm {definitions : ℕ → Option (ParameterDefinition η)}
    (h : i.Apart definitions j) : j.Apart definitions i :=
  Or.symm h

/-- The region of an instance ends inside of the storage. -/
theorem Conforms.end_le {definitions : ℕ → Option (ParameterDefinition η)}
    (h : i.Conforms d storage) (hd : definitions i.slot = some d) :
    i.offset + i.room definitions ≤ storage.length := by
  cases hplace : i.place with
  | constant bytes =>
    rw [offset, hplace, room_of_constant hplace]
    exact Nat.zero_le _
  | region start length =>
    rw [offset_of_region hplace, room_of_region hplace hd]
    exact (h.within start length hplace).2

/-- More bytes behind the storage change no value. -/
theorem Conforms.value_append (h : i.Conforms d storage) (more : Bytes) :
    i.value (storage ++ more) = i.value storage := by
  cases hplace : i.place with
  | constant bytes => rw [value_of_constant hplace, value_of_constant hplace]
  | region start length =>
    have hwithin := h.within start length hplace
    rw [value_of_region hplace, value_of_region hplace, Bytes.slice_append (by omega)]

theorem Conforms.append (h : i.Conforms d storage) (more : Bytes) :
    i.Conforms d (storage ++ more) where
  pid := h.pid
  allowed := by rw [h.value_append, h.allowed]
  constant := h.constant
  within start length hplace := by
    have hwithin := h.within start length hplace
    rw [List.length_append]
    omega
  staged := h.staged

end Instance

/-- A value that a definition allows fits into the region the definition asks for. -/
theorem ParameterDefinition.length_le_capacity (h : d.check value = .ok ()) :
    value.length ≤ d.size.capacity := by
  unfold ParameterDefinition.check at h
  split_ifs at h with haccepts hrange
  · exact ValueSize.le_capacity haccepts
  · exact ValueSize.le_capacity haccepts

/-- A table of instances and the storage with their values fit together. -/
structure Layout (definitions : ℕ → Option (ParameterDefinition η)) (t : InstanceTable)
    (storage : Bytes) : Prop where
  sorted : t.Sorted
  conforms : ∀ i ∈ t, ∃ d, definitions i.slot = some d ∧ i.Conforms d storage
  apart : ∀ i ∈ t, ∀ j ∈ t, i.key ≠ j.key → i.Apart definitions j
  total : (t.map (Instance.room definitions)).sum = storage.length

namespace Layout

variable {definitions definitions' : ℕ → Option (ParameterDefinition η)} {t : InstanceTable}
variable {n start length : ℕ}

/-- Nothing is laid out. -/
theorem nil : Layout definitions [] [] where
  sorted := .nil
  conforms i hi := by cases hi
  apart i hi := by cases hi
  total := rfl

/-- Further definitions do not disturb a layout. -/
theorem mono (h : Layout definitions t storage)
    (hmono : ∀ n d, definitions n = some d → definitions' n = some d) :
    Layout definitions' t storage := by
  have hroom : ∀ i ∈ t, i.room definitions' = i.room definitions := by
    intro i hi
    obtain ⟨d, hd, -⟩ := h.conforms i hi
    rw [Instance.room, Instance.room, hd, hmono _ _ hd]
  refine ⟨h.sorted, fun i hi => ?_, fun i hi j hj hne => ?_, ?_⟩
  · obtain ⟨d, hd, hconforms⟩ := h.conforms i hi
    exact ⟨d, hmono _ _ hd, hconforms⟩
  · rw [Instance.Apart, hroom i hi, hroom j hj]
    exact h.apart i hi j hj hne
  · rw [List.map_congr_left hroom, h.total]

/-! ## Overwriting a value -/

/-- An instance with another key does not see a write. -/
theorem value_overwrite (h : Layout definitions t storage) (hi : i ∈ t) (hj : j ∈ t)
    (hne : j.key ≠ i.key) (hplace : i.place = .region start length)
    (hd : definitions i.slot = some d) (hcheck : d.check value = .ok ()) :
    j.value (Bytes.overwrite start value storage) = j.value storage := by
  obtain ⟨d', hd', hi'⟩ := h.conforms i hi
  obtain rfl : d = d' := Option.some.inj (hd.symm.trans hd')
  have hwithin := hi'.within start length hplace
  have hlength := ParameterDefinition.length_le_capacity hcheck
  cases hplace' : j.place with
  | constant bytes => rw [Instance.value_of_constant hplace', Instance.value_of_constant hplace']
  | region start' length' =>
    obtain ⟨d', hd', hj'⟩ := h.conforms j hj
    have hwithin' := hj'.within start' length' hplace'
    have hapart := h.apart j hj i hi hne
    rw [Instance.Apart, Instance.offset_of_region hplace, Instance.offset_of_region hplace',
      Instance.room_of_region hplace hd, Instance.room_of_region hplace' hd'] at hapart
    rw [Instance.value_of_region hplace', Instance.value_of_region hplace']
    exact Bytes.slice_overwrite_of_apart (by omega) (by omega)

/-- A replacement in the same region of the same parameter keeps the regions apart and their sum. -/
theorem set (h : Layout definitions t storage) {storage' : Bytes} (hi : t[n]? = some i)
    (hkey : j.key = i.key) (hoffset : j.offset = i.offset)
    (hroom : j.room definitions = i.room definitions) (hd : definitions j.slot = some d)
    (hconforms : j.Conforms d storage') (hlength : storage'.length = storage.length)
    (hothers : ∀ k ∈ t, k.key ≠ j.key → k.value storage' = k.value storage) :
    Layout definitions (t.set n j) storage' := by
  have hmem : i ∈ t := List.mem_of_getElem? hi
  have mem_set : ∀ k, k ∈ t.set n j ↔ k = j ∨ (k ∈ t ∧ k.key ≠ j.key) := fun k =>
    InstanceTable.mem_set_iff h.sorted hi hkey
  have hapart : ∀ k ∈ t, k.key ≠ j.key → k.Apart definitions j := by
    intro k hk hne
    rw [Instance.Apart, hoffset, hroom]
    exact h.apart k hk i hmem (hkey ▸ hne)
  refine ⟨h.sorted.set hi hkey, fun k hk => ?_, fun k hk l hl hne => ?_, ?_⟩
  · rcases (mem_set k).mp hk with rfl | ⟨hk, hne⟩
    · exact ⟨d, hd, hconforms⟩
    · obtain ⟨d', hd', hk'⟩ := h.conforms k hk
      refine ⟨d', hd', hk'.pid, ?_, hk'.constant, fun start length hplace => ?_, hk'.staged⟩
      · rw [hothers k hk hne, hk'.allowed]
      · rw [hlength]
        exact hk'.within start length hplace
  · rcases (mem_set k).mp hk with rfl | ⟨hk', hkne⟩
    · rcases (mem_set l).mp hl with rfl | ⟨hl', hlne⟩
      · exact absurd rfl hne
      · exact (hapart l hl' hlne).symm
    · rcases (mem_set l).mp hl with rfl | ⟨hl', hlne⟩
      · exact hapart k hk' hkne
      · exact h.apart k hk' l hl' hne
  · have hmap :
        (t.set n j).map (Instance.room definitions) = t.map (Instance.room definitions) := by
      apply List.ext_getElem?
      intro m
      rw [List.getElem?_map, List.getElem?_map, List.getElem?_set]
      split_ifs with hnm hm
      · rw [← hnm, hi, Option.map_some, Option.map_some, hroom]
      · rw [List.getElem?_eq_none (by omega)]
      · rfl
    rw [hmap, h.total, hlength]

/-- An allowed value goes to the region of its instance. -/
theorem write (h : Layout definitions t storage) (hi : t[n]? = some i)
    (hplace : i.place = .region start length) (hd : definitions i.slot = some d)
    (hcheck : d.check value = .ok ()) {staged : Bool}
    (hstaged : staged = true → i.storageClass = .persisted) :
    Layout definitions
      (t.set n { i with place := .region start value.length, staged := staged })
      (Bytes.overwrite start value storage) := by
  have hmem : i ∈ t := List.mem_of_getElem? hi
  obtain ⟨d', hd', hi'⟩ := h.conforms i hmem
  obtain rfl : d = d' := Option.some.inj (hd.symm.trans hd')
  have hwithin := hi'.within start length hplace
  have hlength := ParameterDefinition.length_le_capacity hcheck
  have hstorage : (Bytes.overwrite start value storage).length = storage.length :=
    Bytes.length_overwrite (by omega)
  refine h.set hi rfl ?_ ?_ hd ⟨hi'.pid, ?_, ?_, ?_, hstaged⟩ hstorage ?_
  · rw [Instance.offset_of_region hplace]
    rfl
  · rw [Instance.room_of_region hplace hd]
    exact Instance.room_of_region rfl hd
  · rw [Instance.value_of_region rfl, Bytes.slice_overwrite_self (by omega), hcheck]
  · rw [hi'.constant, hplace]
    simp
  · rintro _ _ ⟨⟩
    rw [hstorage]
    exact ⟨hlength, hwithin.2⟩
  · exact fun k hk hne => h.value_overwrite hmem hk hne hplace hd hcheck

/-- Whether a value is staged does not concern its bytes. -/
theorem restage (h : Layout definitions t storage) (hi : t[n]? = some i) {staged : Bool}
    (hstaged : staged = true → i.storageClass = .persisted) :
    Layout definitions (t.set n { i with staged := staged }) storage := by
  obtain ⟨d, hd, hi'⟩ := h.conforms i (List.mem_of_getElem? hi)
  exact h.set hi rfl rfl rfl hd ⟨hi'.pid, hi'.allowed, hi'.constant, hi'.within, hstaged⟩ rfl
    fun _ _ _ => rfl

/-! ## A new value -/

/-- A new instance with the fresh bytes behind the storage. -/
theorem insert (h : Layout definitions t storage) {fresh : Bytes}
    (hnew : ∀ j ∈ t, j.key ≠ i.key) (hd : definitions i.slot = some d)
    (hconforms : i.Conforms d (storage ++ fresh)) (hroom : i.room definitions = fresh.length)
    (hoffset : i.offset = storage.length ∨ i.offset + i.room definitions = 0) :
    Layout definitions (t.insert i) (storage ++ fresh) := by
  have mem_insert : ∀ k, k ∈ t.insert i ↔ k = i ∨ k ∈ t := fun k =>
    InstanceTable.mem_insert_iff h.sorted
  have hapart : ∀ k ∈ t, k.Apart definitions i := by
    intro k hk
    obtain ⟨d', hd', hk'⟩ := h.conforms k hk
    have hend := hk'.end_le hd'
    rw [Instance.Apart]
    omega
  refine ⟨h.sorted.insert hnew, fun k hk => ?_, fun k hk l hl hne => ?_, ?_⟩
  · rcases (mem_insert k).mp hk with rfl | hk
    · exact ⟨d, hd, hconforms⟩
    · obtain ⟨d', hd', hk'⟩ := h.conforms k hk
      exact ⟨d', hd', hk'.append fresh⟩
  · rcases (mem_insert k).mp hk with rfl | hk'
    · rcases (mem_insert l).mp hl with rfl | hl'
      · exact absurd rfl hne
      · exact (hapart l hl').symm
    · rcases (mem_insert l).mp hl with rfl | hl'
      · exact hapart k hk'
      · exact h.apart k hk' l hl' hne
  · rw [InstanceTable.insert_eq h.sorted, List.map_append, List.map_cons, List.sum_append,
      List.sum_cons, hroom, List.length_append, ← h.total]
    conv_rhs => rw [← List.take_append_drop (t.position i.key) t, List.map_append, List.sum_append]
    omega

end Layout

end LightingBus
