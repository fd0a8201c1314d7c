import LightingBus.Proofs.Parameter.Invariant
import LightingBus.Proofs.Parameter.Saving

/-!
# Values after a restart

`load_restores`: the values of a store are saved, and a store that is built in the same way reads
what was saved. It then has the values of the first store, except for set values that are longer
than the parameter data of one packet: they are saved, and reading passes them over.

1. The two stores differ in values that were set and in what goes with them, and nowhere else
   (`Rebuilt`, `rebuilt_runAll`).
2. Reading gives each persisted instance what is held for its key, if that is allowed
   (`WellFormed.load_of_readable`).
-/

namespace LightingBus

/-- Reading never fails, gives what is held and leaves it. -/
structure KeyValueStorage.Readable {κ : Type} (kv : KeyValueStorage κ)
    (content : κ → UInt32 → Option Bytes) : Prop where
  get : ∀ key k, ∃ k', kv.get key k = (.ok (content k key), k') ∧ content k' = content k

/-- An entry and the one that it was before it was set: they differ in the value at most, and a
persisted value that is not staged is the same. -/
structure Entry.Rebuilt (fresh e : Entry) : Prop where
  storageClass : fresh.storageClass = e.storageClass
  clean : fresh.staged = false
  value : e.storageClass = .persisted → e.staged = false → fresh.value = e.value

/-- A persisted value that is set is staged, so that the entry may have any value. -/
theorem Entry.Rebuilt.write {f e : Entry} (h : f.Rebuilt e) (value : Bytes) :
    f.Rebuilt (e.write value) where
  storageClass := h.storageClass
  clean := h.clean
  value hclass hstaged := by
    have hset : (e.staged || e.storageClass == .persisted) = false := hstaged
    have hpersisted : e.storageClass = .persisted := hclass
    rw [hpersisted, beq_self_eq_true, Bool.or_true] at hset
    cases hset

namespace Contents

variable (r : Instance → Option Bytes)

/-- The entries after the values of a table were taken over. -/
def takeOver (t : InstanceTable) (c : Contents) : Contents :=
  (t.filterMap fun i => (r i).map fun value => (i.key, value)).foldl
    (fun c (key, value) => c.change (Entry.load value) key) c

theorem takeOver_cons (i : Instance) (t : InstanceTable) (c : Contents) :
    takeOver r (i :: t) c =
      takeOver r t ((r i).elim c fun value => c.change (Entry.load value) i.key) := by
  rw [takeOver, List.filterMap_cons]
  cases r i <;> rfl

theorem takeOver_of_not_mem {t : InstanceTable} {key : Key} (hkey : ∀ i ∈ t, i.key ≠ key) :
    ∀ c : Contents, takeOver r t c key = c key := by
  induction t with
  | nil => exact fun _ => rfl
  | cons i t ih =>
    intro c
    rw [takeOver_cons, ih fun j hj => hkey j (List.mem_cons_of_mem _ hj)]
    cases r i with
    | none => rfl
    | some value => exact Function.update_of_ne (hkey i List.mem_cons_self).symm _ _

/-- All keys of a table differ, so that each entry gets the value of its own instance. -/
theorem takeOver_of_mem {t : InstanceTable} (hsorted : t.Sorted) {i : Instance}
    (hi : i ∈ t) : ∀ c : Contents, takeOver r t c i.key =
      (r i).elim (c i.key) fun value => (c i.key).map (Entry.load value) := by
  induction t with
  | nil => cases hi
  | cons j t ih =>
    intro c
    obtain ⟨hbefore, hsorted⟩ := List.pairwise_cons.mp hsorted
    have hlater : ∀ l ∈ t, l.key ≠ j.key := by
      intro l hl heq
      have hrank := Key.before_iff.mp (hbefore l hl)
      rw [heq] at hrank
      exact Nat.lt_irrefl _ hrank
    rw [takeOver_cons]
    cases hi with
    | head =>
      rw [takeOver_of_not_mem r hlater]
      cases r i with
      | none => rfl
      | some value => exact Function.update_self _ _ _
    | tail _ hi =>
      rw [ih hsorted hi]
      cases r j with
      | none => rfl
      | some value =>
        have hother : c.change (Entry.load value) j.key i.key = c i.key :=
          Function.update_of_ne (hlater i hi) _ _
        rw [Option.elim_some, hother]

end Contents

namespace Store

variable {η γ κ : Type} {kv : KeyValueStorage κ} {content : κ → UInt32 → Option Bytes}
  {s s' fresh : Store η γ} {key : Key} {value : Bytes}

/-! ## Stores that are built in the same way -/

/-- The store `fresh` is built as `s` was, and no value of it was set. -/
structure Rebuilt (fresh s : Store η γ) : Prop where
  capacities : fresh.capacities = s.capacities
  dynamicCapacity : fresh.dynamicCapacity = s.dynamicCapacity
  definitions : fresh.definitions = s.definitions
  devices : fresh.devices = s.devices
  instances : fresh.instances.length = s.instances.length
  storage : fresh.storage.length = s.storage.length
  entries : ∀ key, Option.Rel Entry.Rebuilt (fresh.contents key) (s.contents key)

/-- The operation sets a value. -/
def Operation.setsValue : Operation η γ κ → Bool
  | .set _ _ | .setAndQueue _ _ => true
  | _ => false

theorem Rebuilt.exists_entry (h : fresh.Rebuilt s) {e : Entry} (he : s.contents key = some e) :
    ∃ f, fresh.contents key = some f ∧ f.Rebuilt e := by
  have hentry := h.entries key
  rw [he] at hentry
  cases hf : fresh.contents key with
  | none =>
    rw [hf] at hentry
    cases hentry
  | some f =>
    rw [hf] at hentry
    cases hentry with
    | some hrebuilt => exact ⟨f, rfl, hrebuilt⟩

theorem Rebuilt.contents_eq_none (h : fresh.Rebuilt s) :
    fresh.contents key = none ↔ s.contents key = none := by
  constructor
  · intro hnone
    by_contra hsome
    obtain ⟨e, he⟩ := Option.ne_none_iff_exists'.mp hsome
    obtain ⟨f, hf, -⟩ := h.exists_entry he
    rw [hnone] at hf
    cases hf
  · intro hnone
    have hentry := h.entries key
    rw [hnone] at hentry
    cases hf : fresh.contents key with
    | none => rfl
    | some f =>
      rw [hf] at hentry
      cases hentry

/-- What waits to be reported is no part of how a store is built. -/
theorem Rebuilt.of_changed (h : fresh.Rebuilt s) (waiting waiting' : List Key) :
    ({ fresh with changed := waiting } : Store η γ).Rebuilt { s with changed := waiting' } :=
  ⟨h.capacities, h.dynamicCapacity, h.definitions, h.devices, h.instances, h.storage, h.entries⟩

theorem popChanged_eq (s : Store η γ) :
    ∃ waiting, (s.popChanged.map Prod.snd).getD s = { s with changed := waiting } := by
  cases hpop : s.popChanged with
  | none => exact ⟨s.changed, rfl⟩
  | some p =>
    obtain ⟨key, popped⟩ := p
    obtain ⟨rest, -, rfl⟩ := popChanged_eq_some hpop
    exact ⟨rest, rfl⟩

/-- A set value leaves all tables as long as they were. -/
theorem WellFormed.lengths_of_set (h : s.WellFormed)
    (hset : Change.set key value s = (.ok (), s')) :
    s'.devices = s.devices ∧ s'.instances.length = s.instances.length ∧
      s'.storage.length = s.storage.length := by
  obtain ⟨index, i, start, length, d, notices, -, hi, hplace, hd, hcheck, rfl⟩ :=
    written_of_set hset
  obtain ⟨d', hd', hconforms⟩ := h.layout.conforms i (List.mem_of_getElem? hi)
  obtain rfl : d = d' := Option.some.inj (hd.symm.trans hd')
  have hwithin := hconforms.within start length hplace
  have hlength := ParameterDefinition.length_le_capacity hcheck
  exact ⟨rfl, List.length_set, Bytes.length_overwrite (by omega)⟩

theorem Rebuilt.set (h : fresh.Rebuilt s) (hs : s.WellFormed)
    (hset : Change.set key value s = (.ok (), s')) : fresh.Rebuilt s' := by
  have hgrows := grows_set hset
  obtain ⟨hdevices, hinstances, hstorage⟩ := hs.lengths_of_set hset
  obtain ⟨-, entry, hentry, -, hcontents⟩ := hs.set hset
  refine ⟨h.capacities.trans hgrows.capacities.symm,
    h.dynamicCapacity.trans hgrows.dynamicCapacity.symm,
    h.definitions.trans (definitions_set hset).symm, h.devices.trans hdevices.symm,
    h.instances.trans hinstances.symm, h.storage.trans hstorage.symm, fun other => ?_⟩
  rw [hcontents, Function.update_apply]
  split_ifs with hother
  · obtain ⟨f, hf, hrebuilt⟩ := h.exists_entry hentry
    rw [hother, hf]
    exact .some (hrebuilt.write value)
  · exact h.entries other

theorem Rebuilt.run_of_setsValue (h : fresh.Rebuilt s) (hs : s.WellFormed)
    {op : Operation η γ Empty} (hop : op.setsValue = true) :
    fresh.Rebuilt (op.run noStorage s).2 := by
  cases op with
  | set key value =>
    change fresh.Rebuilt (Change.set key value s).2
    rcases hset : Change.set key value s with ⟨e | ⟨⟩, s'⟩
    · rw [set_atomic _ _ _ _ _ hset]
      exact h
    · exact h.set hs hset
  | setAndQueue key value =>
    change fresh.Rebuilt (Change.setAndQueue key value s).2
    rcases hset : Change.setAndQueue key value s with ⟨e | ⟨⟩, s'⟩
    · rw [setAndQueue_atomic _ _ _ _ _ hset]
      exact h
    · obtain ⟨written, hwritten, rfl⟩ := setAndQueue_eq_ok hset
      obtain ⟨waiting, hqueued⟩ := queueChanged_eq written key
      rw [hqueued]
      exact (h.set hs hwritten).of_changed fresh.changed waiting
  | _ => cases hop

/-- What it takes to add an instance can be told from what the two stores have in common. -/
theorem Rebuilt.addable (h : fresh.Rebuilt s) {storageClass : StorageClass}
    {d : ParameterDefinition η} :
    fresh.Addable key storageClass value d ↔ s.Addable key storageClass value d := by
  have hdefinition := definition?_congr h.definitions
  constructor
  · intro ⟨hdefined, hlisted, hallowed, hfresh, htable, hbytes⟩
    refine ⟨hdefinition ▸ hdefined, h.devices ▸ hlisted, hallowed, h.contents_eq_none.mp hfresh, ?_,
      ?_⟩
    · rwa [h.instances, h.capacities] at htable
    · rwa [h.storage, h.dynamicCapacity] at hbytes
  · intro ⟨hdefined, hlisted, hallowed, hfresh, htable, hbytes⟩
    refine ⟨hdefinition ▸ hdefined, h.devices ▸ hlisted, hallowed, h.contents_eq_none.mpr hfresh,
      ?_, ?_⟩
    · rwa [h.instances, h.capacities]
    · rwa [h.storage, h.dynamicCapacity]

theorem Allocated.length_eq {storage fresh : Bytes} {capacity : ℕ} {storageClass : StorageClass}
    {place : Place} (h : Allocated storage capacity value storageClass place fresh)
    (hvalue : value.length ≤ capacity) :
    fresh.length = if storageClass = .static then 0 else capacity := by
  cases h with
  | constant => rfl
  | region hclass =>
    rw [if_neg hclass, List.length_append, List.length_replicate]
    omega

/-- The lengths of the tables after an instance was added. -/
theorem WellFormed.lengths_of_addInstance (h : s.WellFormed) {storageClass : StorageClass}
    (hok : Change.addInstance key storageClass value s = (.ok (), s')) :
    ∃ d, s.definition? key.pid = some d ∧ s'.capacities = s.capacities ∧
      s'.dynamicCapacity = s.dynamicCapacity ∧ s'.definitions = s.definitions ∧
      s'.devices = s.devices ∧ s'.instances.length = s.instances.length + 1 ∧
      s'.storage.length = s.storage.length +
        if storageClass = .static then 0 else d.size.capacity := by
  obtain ⟨slot, d, place, more, -, hd, -, hcheck, -, -, hallocated, -, rfl⟩ := addInstance_eq_ok hok
  refine ⟨d, hd, rfl, rfl, rfl, rfl, InstanceTable.length_insert h.layout.sorted _, ?_⟩
  rw [List.length_append, hallocated.length_eq (ParameterDefinition.length_le_capacity hcheck)]

theorem Rebuilt.addInstance (h : fresh.Rebuilt s) (hs : s.WellFormed) (hfresh : fresh.WellFormed)
    (key : Key) (storageClass : StorageClass) (value : Bytes) :
    (Change.addInstance key storageClass value fresh).2.Rebuilt
      (Change.addInstance key storageClass value s).2 := by
  rcases hadd : Change.addInstance key storageClass value s with ⟨e | ⟨⟩, s'⟩
  · have hrefused : ¬∃ f', Change.addInstance key storageClass value fresh = (.ok (), f') := by
      rw [hfresh.addInstance_iff, exists_congr fun _ => h.addable, ← hs.addInstance_iff]
      rintro ⟨s'', hok⟩
      rw [hadd] at hok
      cases hok
    rcases hadd' : Change.addInstance key storageClass value fresh with ⟨e' | ⟨⟩, f'⟩
    · rw [addInstance_atomic _ _ _ _ _ _ hadd, addInstance_atomic _ _ _ _ _ _ hadd']
      exact h
    · exact absurd ⟨f', hadd'⟩ hrefused
  · obtain ⟨f', hadd'⟩ : ∃ f', Change.addInstance key storageClass value fresh = (.ok (), f') := by
      rw [hfresh.addInstance_iff, exists_congr fun _ => h.addable, ← hs.addInstance_iff]
      exact ⟨s', hadd⟩
    obtain ⟨-, hcontents⟩ := hs.addInstance hadd
    obtain ⟨-, hcontents'⟩ := hfresh.addInstance hadd'
    obtain ⟨d, hd, hcapacities, hdynamic, hdefinitions, hdevices, hinstances, hstorage⟩ :=
      hs.lengths_of_addInstance hadd
    obtain ⟨d', hd', hcapacities', hdynamic', hdefinitions', hdevices', hinstances', hstorage'⟩ :=
      hfresh.lengths_of_addInstance hadd'
    rw [definition?_congr h.definitions, hd, Option.some.injEq] at hd'
    subst hd'
    rw [hadd']
    refine ⟨?_, ?_, ?_, ?_, ?_, ?_, fun other => ?_⟩
    · rw [hcapacities, hcapacities', h.capacities]
    · rw [hdynamic, hdynamic', h.dynamicCapacity]
    · rw [hdefinitions, hdefinitions', h.definitions]
    · rw [hdevices, hdevices', h.devices]
    · rw [hinstances, hinstances', h.instances]
    · rw [hstorage, hstorage', h.storage]
    · rw [hcontents, hcontents', Function.update_apply, Function.update_apply]
      split_ifs
      · exact .some ⟨rfl, rfl, fun _ _ => rfl⟩
      · exact h.entries other

/-- An operation that sets no value keeps the two stores alike. -/
theorem Rebuilt.run (h : fresh.Rebuilt s) (hs : s.WellFormed) (hfresh : fresh.WellFormed)
    {op : Operation η γ Empty} (hop : op.setsValue = false) :
    (op.run noStorage fresh).2.Rebuilt (op.run noStorage s).2 := by
  cases op with
  | commit storage | load storage => exact storage.elim
  | set key value | setAndQueue key value => cases hop
  | define d =>
    change (Change.define d fresh).2.Rebuilt (Change.define d s).2
    unfold Change.define
    rw [definition?_congr h.definitions, h.capacities, h.definitions]
    split
    next =>
      split_ifs
      · exact h
      · exact h
    next =>
      split_ifs
      · exact h
      · exact { h with capacities := rfl, definitions := rfl }
  | listen pid listener =>
    have hslot : fresh.slotIndex? pid = s.slotIndex? pid := by
      rw [slotIndex?, slotIndex?, h.definitions]
    change (Change.listen pid listener fresh).2.Rebuilt (Change.listen pid listener s).2
    unfold Change.listen
    rw [hslot, h.definitions]
    split
    next => exact h
    next => exact { h with definitions := rfl }
  | addSubDevice n =>
    change (Change.addSubDevice n fresh).2.Rebuilt (Change.addSubDevice n s).2
    unfold Change.addSubDevice
    rw [hasDevice, hasDevice, h.capacities, h.devices]
    split_ifs
    · exact h
    · exact h
    · exact h
    · exact { h with capacities := rfl, devices := rfl }
  | addInstance key storageClass value => exact h.addInstance hs hfresh key storageClass value
  | queueChanged key =>
    obtain ⟨waiting, hqueued⟩ := queueChanged_eq fresh key
    obtain ⟨waiting', hqueued'⟩ := queueChanged_eq s key
    change (fresh.queueChanged key).Rebuilt (s.queueChanged key)
    rw [hqueued, hqueued']
    exact h.of_changed waiting waiting'
  | popChanged =>
    obtain ⟨waiting, hpopped⟩ := popChanged_eq fresh
    obtain ⟨waiting', hpopped'⟩ := popChanged_eq s
    change ((fresh.popChanged.map Prod.snd).getD fresh).Rebuilt ((s.popChanged.map Prod.snd).getD s)
    rw [hpopped, hpopped']
    exact h.of_changed waiting waiting'

/-- The store that is built by the same operations without those that set a value. -/
def rebuild (capacities : Capacities) (dynamicCapacity : ℕ) (ops : List (Operation η γ Empty)) :
    Store η γ :=
  runAll noStorage (ops.filter fun op => !op.setsValue) (empty capacities dynamicCapacity)

theorem rebuilt_runAll (ops : List (Operation η γ Empty)) :
    ∀ {fresh s : Store η γ}, fresh.Rebuilt s → s.WellFormed → fresh.WellFormed →
      (runAll noStorage (ops.filter fun op => !op.setsValue) fresh).Rebuilt
        (runAll noStorage ops s) := by
  induction ops with
  | nil => exact fun h _ _ => h
  | cons op ops ih =>
    intro fresh s h hs hfresh
    have hkept := (step_refines noStorage op hs).1
    cases hop : op.setsValue with
    | true =>
      rw [List.filter_cons_of_neg (by simp [hop])]
      exact ih (h.run_of_setsValue hs hop) hkept hfresh
    | false =>
      rw [List.filter_cons_of_pos (by simp [hop])]
      exact ih (h.run hs hfresh hop) hkept (step_refines noStorage op hfresh).1

/-! ## Reading -/

/-- The value that reading takes over for an instance. -/
def restored? (held : UInt32 → Option Bytes) (s : Store η γ) (i : Instance) : Option Bytes :=
  if i.storageClass = .persisted then (held i.key.pack).filter (s.allows i.key) else none

/-- Reading that never fails takes over whatever is held and allowed. -/
theorem loaded_of_readable (hread : kv.Readable content) (s : Store η γ) (t : InstanceTable) :
    ∀ k : κ, loaded kv s t k =
      t.filterMap fun i => (restored? (content k) s i).map fun value => (i.key, value) := by
  induction t with
  | nil => exact fun _ => rfl
  | cons i t ih =>
    intro k
    obtain ⟨k', hget, hheld⟩ := hread.get i.key.pack k
    have hrest := ih k'
    rw [hheld] at hrest
    rw [loaded]
    split_ifs with hclass
    · rw [ih k, List.filterMap_cons_none]
      rw [restored?, if_neg hclass, Option.map_none]
    · have hrestored : restored? (content k) s i = (content k i.key.pack).filter (s.allows i.key) :=
        if_pos (not_not.mp hclass)
      rw [hget]
      cases hvalue : content k i.key.pack with
      | none =>
        rw [hvalue, Option.filter_none] at hrestored
        rw [List.filterMap_cons_none (by rw [hrestored, Option.map_none])]
        exact hrest
      | some value =>
        rw [hvalue] at hrestored
        dsimp only
        split_ifs with hallows
        · rw [Option.filter_some_pos hallows] at hrestored
          rw [List.filterMap_cons_some (by rw [hrestored, Option.map_some]), hrest]
        · rw [Option.filter_some_neg (Bool.eq_false_iff.mpr hallows)] at hrestored
          rw [List.filterMap_cons_none (by rw [hrestored, Option.map_none])]
          exact hrest

/-- Reading that never fails succeeds. -/
theorem loadEach_of_readable (hread : kv.Readable content) (positions : List ℕ) :
    ∀ (s : Store η γ) (k : κ), ∃ n, (loadEach kv positions s k).1 = .ok n := by
  induction positions with
  | nil => exact fun _ _ => ⟨0, rfl⟩
  | cons index positions ih =>
    intro s k
    rw [loadEach]
    split
    next => exact ih s k
    next i _ =>
      obtain ⟨k', hget, -⟩ := hread.get i.key.pack k
      rw [hget]
      cases content k i.key.pack with
      | none => exact ih s k'
      | some value =>
        dsimp only
        split
        next restored _ => exact ih restored k'
        next restored _ =>
          obtain ⟨n, hn⟩ := ih restored k'
          exact ⟨n + 1, by rw [hn]; rfl⟩

/-- What reading that never fails does to a store: every persisted instance gets the value that is
held for it, if it is allowed. -/
theorem WellFormed.load_of_readable (h : s.WellFormed) (hread : kv.Readable content) (k : κ) :
    ∃ n s' k', s.load kv k = (.ok n, s', k') ∧ s'.WellFormed ∧
      (∀ key, s.contents key = none → s'.contents key = none) ∧
      ∀ i ∈ s.instances, s'.contents i.key =
        some ((restored? (content k) s i).elim (entryOf s.storage i)
          fun value => (entryOf s.storage i).load value) := by
  obtain ⟨hkept, hcontents⟩ := h.load kv k
  obtain ⟨n, hn⟩ := loadEach_of_readable hread (List.range s.instances.length) s k
  rw [loaded_of_readable hread] at hcontents
  refine ⟨n, (s.load kv k).2.1, (s.load kv k).2.2, Prod.ext hn rfl, hkept, fun key hnone => ?_,
    fun i hi => ?_⟩
  · rw [hcontents]
    refine (Contents.takeOver_of_not_mem _ ?_ _).trans hnone
    exact (contents_eq_none_iff h).mp hnone
  · rw [hcontents]
    refine (Contents.takeOver_of_mem _ h.layout.sorted hi _).trans ?_
    rw [contents_of_mem h hi]
    cases restored? (content k) s i <;> rfl

/-! ## Saved and read again -/

theorem get_of_mem (h : s.WellFormed) {i : Instance} (hi : i ∈ s.instances) :
    s.get i.key = .ok (i.value s.storage) :=
  get_of_contents (contents_of_mem h hi)

/-- What an empty permanent storage holds after a commit: the values of the staged instances. -/
theorem WellFormed.held_of_commit (h : s.WellFormed) (hkv : kv.Faithful content) {k k' : κ}
    (hempty : ∀ key, content k key = none) {n : ℕ} (hok : s.commit kv k = (.ok n, s', k'))
    {i : Instance} (hi : i ∈ s.instances) :
    content k' i.key.pack = if i.staged = true then some (i.value s.storage) else none := by
  obtain ⟨front, back, k₁, ht, hsaved, -, hend⟩ := commit_cases kv s k
  rw [hok] at hend
  obtain ⟨-, rfl, rfl⟩ | ⟨herror, -⟩ := hend
  · rw [List.append_nil] at ht
    rw [← ht] at hsaved
    split_ifs with hstaged
    · exact hsaved.content_of_staged hkv h.layout.sorted hi hstaged
    · rw [hsaved.content_of_clean hkv h (fun _ hj => hj) hi (Bool.eq_false_iff.mpr hstaged),
        hempty]
  · cases herror

/-- A value that a store has is allowed in a store with the same definitions, if it is not too
long. -/
theorem WellFormed.allows_of_mem (h : s.WellFormed)
    (hdefinitions : fresh.definitions = s.definitions) {i : Instance} (hi : i ∈ s.instances) :
    fresh.allows i.key (i.value s.storage) =
      decide ((i.value s.storage).length ≤ maxParameterLength) := by
  obtain ⟨-, d, hd, hcheck⟩ := h.of_get (get_of_mem h hi)
  rw [allows, definition?_congr hdefinitions, hd, Option.any_some, hcheck]
  exact Bool.and_true _

theorem rebuilt_rebuild (capacities : Capacities) (dynamicCapacity : ℕ)
    (ops : List (Operation η γ Empty)) :
    (rebuild capacities dynamicCapacity ops).Rebuilt
      (runAll noStorage ops (empty capacities dynamicCapacity)) := by
  have hempty := empty_wellFormed (η := η) (γ := γ) capacities dynamicCapacity
  exact rebuilt_runAll ops ⟨rfl, rfl, rfl, rfl, rfl, rfl, fun _ => .none⟩ hempty hempty

/-- The entry of a store for each entry of the one that it is rebuilt from. -/
theorem Rebuilt.exists_mem (h : fresh.Rebuilt s) (hfresh : fresh.WellFormed) {e : Entry}
    (he : s.contents key = some e) :
    ∃ f ∈ fresh.instances, f.key = key ∧ (entryOf fresh.storage f).Rebuilt e := by
  obtain ⟨e', he', hrebuilt⟩ := h.exists_entry he
  obtain ⟨f, hmem, hkey, rfl⟩ := mem_of_contents hfresh he'
  exact ⟨f, hmem, hkey, hrebuilt⟩

/-- A rebuilt instance that is offered what is held for its key has the value of the instance that
was saved, unless that value is too long. -/
theorem Rebuilt.value_of_restored (h : fresh.Rebuilt s) (hs : s.WellFormed) {i f : Instance}
    (hi : i ∈ s.instances) (hclass : i.storageClass = .persisted) (hkey : f.key = i.key)
    (hsame : (entryOf fresh.storage f).Rebuilt (entryOf s.storage i))
    {held : UInt32 → Option Bytes}
    (hheld : held i.key.pack = if i.staged = true then some (i.value s.storage) else none) :
    ((restored? held fresh f).elim (entryOf fresh.storage f)
      fun value => (entryOf fresh.storage f).load value).value =
        if i.staged = true ∧ maxParameterLength < (i.value s.storage).length
        then f.value fresh.storage else i.value s.storage := by
  have hfclass : f.storageClass = .persisted := hsame.storageClass.trans hclass
  rw [restored?, if_pos hfclass, hkey, hheld]
  cases hstaged : i.staged with
  | false =>
    rw [if_neg nofun, if_neg nofun]
    exact hsame.value hclass hstaged
  | true =>
    have hallows := hs.allows_of_mem h.definitions hi
    rw [if_pos rfl]
    by_cases hlong : maxParameterLength < (i.value s.storage).length
    · rw [decide_eq_false (Nat.not_le.mpr hlong)] at hallows
      rw [if_pos ⟨rfl, hlong⟩, Option.filter_some_neg hallows]
      rfl
    · rw [decide_eq_true (Nat.not_lt.mp hlong)] at hallows
      rw [if_neg fun h => hlong h.2, Option.filter_some_pos hallows]
      rfl

/-- A store is saved to an empty permanent storage, and a store that is built in the same way, but
without setting a value, reads what was saved. Reading succeeds, no value is staged then, and every
persisted instance has the value that it has in the first store; unless that value was set and is
longer than the parameter data of one packet, for then it is passed over, and the instance has its
first value. -/
theorem load_restores (hkv : kv.Faithful content) (hread : kv.Readable content) {k₀ k₁ : κ}
    (hempty : ∀ key, content k₀ key = none) (capacities : Capacities) (dynamicCapacity : ℕ)
    (ops : List (Operation η γ Empty))
    (hrun : runAll noStorage ops (empty capacities dynamicCapacity) = s) {n : ℕ}
    (hcommit : s.commit kv k₀ = (.ok n, s', k₁)) :
    let fresh := rebuild capacities dynamicCapacity ops
    ∃ m s₂ k₂, fresh.load kv k₁ = (.ok m, s₂, k₂) ∧ s₂.stagedCount = 0 ∧
      (∀ key, s₂.storageClass key = s.storageClass key) ∧
      ∀ i ∈ s.instances, i.storageClass = .persisted → s₂.get i.key =
        if i.staged = true ∧ maxParameterLength < (i.value s.storage).length then fresh.get i.key
        else s.get i.key := by
  intro fresh
  have hs : s.WellFormed :=
    hrun ▸ (runAll_refines noStorage ops _ (empty_wellFormed capacities dynamicCapacity)).1
  have hfresh : fresh.WellFormed :=
    (runAll_refines noStorage _ _ (empty_wellFormed capacities dynamicCapacity)).1
  have hrebuilt : fresh.Rebuilt s := hrun ▸ rebuilt_rebuild capacities dynamicCapacity ops
  obtain ⟨m, s₂, k₂, hload, hkept, habsent, hpresent⟩ := hfresh.load_of_readable hread k₁
  -- every entry of the second store is clean and of the class that it has in the first one
  have hentry : ∀ key e, s.contents key = some e →
      ∃ e₂, s₂.contents key = some e₂ ∧ e₂.storageClass = e.storageClass ∧ e₂.staged = false := by
    intro key e he
    obtain ⟨f, hf, rfl, hsame⟩ := hrebuilt.exists_mem hfresh he
    refine ⟨_, hpresent f hf, ?_⟩
    cases restored? (content k₁) fresh f with
    | none => exact ⟨hsame.storageClass, hsame.clean⟩
    | some value => exact ⟨hsame.storageClass, rfl⟩
  refine ⟨m, s₂, k₂, hload, ?_, fun key => ?_, fun i hi hclass => ?_⟩
  · rw [stagedCount, List.countP_eq_zero]
    intro j hj hstaged
    have hj' := contents_of_mem hkept hj
    cases he : s.contents j.key with
    | none =>
      rw [habsent _ (hrebuilt.contents_eq_none.mpr he)] at hj'
      cases hj'
    | some e =>
      obtain ⟨e₂, he₂, -, hclean⟩ := hentry _ _ he
      rw [hj', Option.some.injEq] at he₂
      rw [← he₂] at hclean
      exact Bool.false_ne_true (hclean.symm.trans hstaged)
  · rw [storageClass_eq, storageClass_eq]
    cases he : s.contents key with
    | none => rw [habsent _ (hrebuilt.contents_eq_none.mpr he)]
    | some e =>
      obtain ⟨e₂, he₂, hsame, -⟩ := hentry _ _ he
      rw [he₂, Option.map_some, Option.map_some, hsame]
  · obtain ⟨f, hf, hkey, hsame⟩ := hrebuilt.exists_mem hfresh (contents_of_mem hs hi)
    have hvalue := hrebuilt.value_of_restored hs hi hclass hkey hsame
      (hs.held_of_commit hkv hempty hcommit hi)
    rw [← hkey, get_of_contents (hpresent f hf), hvalue, get_of_mem hfresh hf, hkey,
      get_of_mem hs hi]
    split_ifs <;> rfl

/-! ## Levels and a long text -/

theorem Unreliable.readable : Unreliable.keyValue.Readable Unreliable.value? where
  get _ k := ⟨k, rfl, rfl⟩

/-- Two devices get a level, and that of one of them is set. -/
def levelOperations : List (Operation Unit Unit Empty) :=
  [.define ⟨0x8000, .getSet () (), .unsignedByte, {}, {}, .fixed 1, 1, 10, .none, .none, none⟩,
    .addSubDevice 3, .addInstance ⟨0, 0x8000⟩ .persisted [5],
    .addInstance ⟨3, 0x8000⟩ .persisted [5], .setAndQueue ⟨3, 0x8000⟩ [8]]

/-- What saving the values of a store leaves that has these operations behind it. -/
def savedAfter (capacities : Capacities) (ops : List (Operation Unit Unit Empty)) :
    Except ParameterError ℕ × Store Unit Unit × Unreliable :=
  (runAll noStorage ops (empty capacities capacities.bytes)).commit Unreliable.keyValue ⟨[], []⟩

theorem load_restores_levels :
    (savedAfter ⟨1, 2, 2, 2⟩ levelOperations).1 = .ok 1 ∧
    ∃ m s₂ k₂, (rebuild ⟨1, 2, 2, 2⟩ 2 levelOperations).load Unreliable.keyValue
        (savedAfter ⟨1, 2, 2, 2⟩ levelOperations).2.2 = (.ok m, s₂, k₂) ∧
      s₂.stagedCount = 0 ∧ s₂.get ⟨0, 0x8000⟩ = .ok [5] ∧ s₂.get ⟨3, 0x8000⟩ = .ok [8] := by
  have hcommit : (savedAfter ⟨1, 2, 2, 2⟩ levelOperations).1 = .ok 1 := by cbv
  obtain ⟨m, s₂, k₂, hload, hclean, -, hvalues⟩ :=
    load_restores Unreliable.faithful Unreliable.readable (fun _ => rfl) ⟨1, 2, 2, 2⟩ 2
      levelOperations rfl (Prod.ext hcommit rfl)
  have hfirst := hvalues ⟨⟨0, 0x8000⟩, 0, .persisted, .region 0 1, false⟩
    (List.mem_of_getElem? (i := 0) (by cbv)) rfl
  have hsecond := hvalues ⟨⟨3, 0x8000⟩, 0, .persisted, .region 1 1, true⟩
    (List.mem_of_getElem? (i := 1) (by cbv)) rfl
  exact ⟨hcommit, m, s₂, k₂, hload, hclean, hfirst.trans (by cbv), hsecond.trans (by cbv)⟩

/-- A device gets a text of up to 232 bytes, and one with that many is set. -/
def textOperations : List (Operation Unit Unit Empty) :=
  [.define ⟨0x8001, .getSet () (), .ascii, {}, {}, .upTo 232, 0, 0, .none, .none, none⟩,
    .addInstance ⟨0, 0x8001⟩ .persisted [], .set ⟨0, 0x8001⟩ (List.replicate 232 0x61)]

/-- The text is saved, and reading passes it over without an error. -/
theorem long_value_passed_over :
    (savedAfter ⟨1, 1, 1, 232⟩ textOperations).1 = .ok 1 ∧
    (savedAfter ⟨1, 1, 1, 232⟩ textOperations).2.1.get ⟨0, 0x8001⟩ =
      .ok (List.replicate 232 0x61) ∧
    ((rebuild ⟨1, 1, 1, 232⟩ 232 textOperations).load Unreliable.keyValue
      (savedAfter ⟨1, 1, 1, 232⟩ textOperations).2.2).1 = .ok 0 ∧
    ((rebuild ⟨1, 1, 1, 232⟩ 232 textOperations).load Unreliable.keyValue
      (savedAfter ⟨1, 1, 1, 232⟩ textOperations).2.2).2.1.get ⟨0, 0x8001⟩ = .ok [] := by
  refine ⟨by cbv, by cbv, by cbv, by cbv⟩

end Store

end LightingBus
