import LightingBus.Parameter.Persistence
import LightingBus.Proofs.Parameter.Changes

/-!
# What the permanent storage does to a store

Writing to the permanent storage takes entries off the stage, one after the other until a call
fails (`WellFormed.commit`). Reading from it gives persisted entries the values that it has for
them and that their definitions allow, again until a call fails (`WellFormed.load`).

Both are loops over a table that changes meanwhile. A loop changes the instances behind it and none
in front of it, so that what is still to come can be read off the table at the start.
-/

namespace LightingBus

/-- The entry after its value was written to the permanent storage. -/
def Entry.commit (e : Entry) : Entry :=
  { e with staged := false }

/-- The entry after a value was taken over from the permanent storage. -/
def Entry.load (value : Bytes) (e : Entry) : Entry :=
  { e with value := value, staged := false }

namespace Contents

/-- The contents after the entry of one key has changed. -/
def change (f : Entry → Entry) (key : Key) (c : Contents) : Contents :=
  Function.update c key ((c key).map f)

theorem change_of_some {c : Contents} {key : Key} {e : Entry} (h : c key = some e)
    (f : Entry → Entry) : c.change f key = Function.update c key (some (f e)) := by
  rw [change, h, Option.map_some]

end Contents

namespace Store

variable {η γ κ : Type} {s : Store η γ} {index : ℕ} {i : Instance} {value : Bytes}

theorem contents_of_mem (h : s.WellFormed) (hi : i ∈ s.instances) :
    s.contents i.key = some (entryOf s.storage i) := by
  rw [contents, (find?_eq_some_iff h).mpr ⟨hi, rfl⟩, Option.map_some]

/-! ## Writing to the permanent storage -/

/-- The store with another mark on the instance at a position. -/
def restaged (s : Store η γ) (index : ℕ) (i : Instance) (staged : Bool) : Store η γ :=
  { s with instances := s.instances.set index { i with staged := staged } }

theorem WellFormed.restaged (h : s.WellFormed) (hi : s.instances[index]? = some i) {staged : Bool}
    (hstaged : staged = true → i.storageClass = .persisted) :
    (s.restaged index i staged).WellFormed := by
  refine { h with layout := h.layout.restage hi hstaged, listed := ?_, instances_le := ?_ }
  · intro j hj
    rcases List.mem_or_eq_of_mem_set hj with hj | rfl
    · exact h.listed j hj
    · exact h.listed i (List.mem_of_getElem? hi)
  · rw [Store.restaged, List.length_set]
    exact h.instances_le

theorem contents_restaged (h : s.WellFormed) (hi : s.instances[index]? = some i) (staged : Bool) :
    (s.restaged index i staged).contents =
      s.contents.change (fun e => { e with staged := staged }) i.key := by
  rw [Contents.change_of_some (contents_of_mem h (List.mem_of_getElem? hi))]
  funext other
  have hfind : (s.restaged index i staged).find? other = if other = i.key then
      some { i with staged := staged } else s.find? other :=
    InstanceTable.find?_set h.layout.sorted hi { i with staged := staged } rfl other
  rw [contents, hfind, Function.update_apply]
  split_ifs with hother
  · rfl
  · rfl

/-- The keys whose values reach the permanent storage: the staged ones up to the first failure. -/
def committed (kv : KeyValueStorage κ) (storage : Bytes) : List Instance → κ → List Key
  | [], _ => []
  | i :: rest, k =>
    if i.staged then
      match kv.set i.key.pack (i.value storage) k with
      | (.error _, _) => []
      | (.ok _, k) => i.key :: committed kv storage rest k
    else committed kv storage rest k

/-- Entries whose values were written are no longer staged. -/
theorem WellFormed.commitInstances (kv : KeyValueStorage κ) (rest : List Instance) :
    ∀ (front : List Instance) (s : Store η γ) (k : κ), s.WellFormed →
      s.instances = front ++ rest →
      let s' := { s with instances := front ++ (commitInstances kv s.storage rest k).2.1 }
      s'.WellFormed ∧ s'.contents =
        (committed kv s.storage rest k).foldl (fun c key => c.change Entry.commit key)
          s.contents := by
  induction rest with
  | nil =>
    intro front s k h hfront
    have hs : ({ s with instances := front ++ [] } : Store η γ) = s := by rw [← hfront]
    rw [Store.commitInstances, committed, hs]
    exact ⟨h, rfl⟩
  | cons i rest ih =>
    intro front s k h hfront
    have hi : s.instances[front.length]? = some i := by
      rw [hfront, List.getElem?_append_right le_rfl, Nat.sub_self]
      rfl
    have skip (k : κ) := ih (front ++ [i]) s k h (by rw [hfront, List.append_assoc]; rfl)
    have stay : ({ s with instances := front ++ i :: rest } : Store η γ) = s := by rw [← hfront]
    by_cases hstaged : i.staged = true
    · rw [Store.commitInstances, committed, if_pos hstaged, if_pos hstaged]
      rcases kv.set i.key.pack (i.value s.storage) k with ⟨_ | _, k⟩
      · dsimp only
        rw [stay]
        exact ⟨h, rfl⟩
      · have hset : (s.restaged front.length i false).instances =
            (front ++ [{ i with staged := false }]) ++ rest := by
          rw [Store.restaged, hfront, List.set_append_right _ _ le_rfl, Nat.sub_self,
            List.append_assoc]
          rfl
        have hnext := ih (front ++ [{ i with staged := false }]) (s.restaged front.length i false) k
          (h.restaged hi nofun) hset
        rw [contents_restaged h hi, List.append_assoc] at hnext
        exact hnext
    · rw [Store.commitInstances, committed, if_neg hstaged, if_neg hstaged]
      have hnext := skip k
      rw [List.append_assoc] at hnext
      exact hnext

theorem WellFormed.commit (h : s.WellFormed) (kv : KeyValueStorage κ) (k : κ) :
    (s.commit kv k).2.1.WellFormed ∧ (s.commit kv k).2.1.contents =
      (committed kv s.storage s.instances k).foldl (fun c key => c.change Entry.commit key)
        s.contents :=
  WellFormed.commitInstances kv s.instances [] s k h rfl

/-! ## Reading from the permanent storage -/

/-- A value of the permanent storage that would be taken over for a key. -/
def allows (s : Store η γ) (key : Key) (value : Bytes) : Bool :=
  value.length ≤ maxParameterLength &&
    (s.definition? key.pid).any fun d => (d.check value).toBool

theorem check_of_toBool {d : ParameterDefinition η} (h : (d.check value).toBool = true) :
    d.check value = .ok () := by
  cases hcheck : d.check value with
  | error e => simp [hcheck, Except.toBool] at h
  | ok => rfl

theorem modify_set (t : List Instance) (n : ℕ) (i : Instance) (f : Instance → Instance) :
    (t.set n i).modify n f = t.set n (f i) := by
  apply List.ext_getElem?
  intro m
  rw [List.getElem?_modify, List.getElem?_set, List.getElem?_set]
  split_ifs <;> simp_all

/-- An allowed value is taken over. -/
theorem WellFormed.restore (h : s.WellFormed) (hi : s.instances[index]? = some i)
    (hclass : i.storageClass = .persisted) (hallows : s.allows i.key value = true) :
    ∃ start, s.restore index value = (true, s.written index i start value false) ∧
      (s.written index i start value false).WellFormed ∧
      (s.written index i start value false).contents =
        s.contents.change (Entry.load value) i.key := by
  have hmem := List.mem_of_getElem? hi
  obtain ⟨d, hdefinition, hd⟩ := h.definition?_of_mem hmem
  rw [allows, hdefinition, Bool.and_eq_true, decide_eq_true_eq, Option.any_some] at hallows
  have hcheck := check_of_toBool hallows.2
  obtain ⟨_, -, hconforms⟩ := h.layout.conforms i hmem
  cases hplace : i.place with
  | constant bytes =>
    have := hconforms.constant.mpr ⟨bytes, hplace⟩
    rw [hclass] at this
    cases this
  | region start length =>
    refine ⟨start, ?_, h.written hi hplace hd hcheck nofun, ?_⟩
    · rw [Store.restore, if_neg (by omega), write_of_allowed hi hplace hd hcheck]
      dsimp only
      rw [unstage, Store.written, modify_set]
      rfl
    · rw [contents_written h hi hplace hd hcheck,
        Contents.change_of_some (contents_of_mem h hmem)]
      rfl

/-- A value that is not allowed is passed over. -/
theorem WellFormed.restore_of_not_allowed (h : s.WellFormed) (hi : s.instances[index]? = some i)
    (hallows : s.allows i.key value = false) : s.restore index value = (false, s) := by
  rw [Store.restore]
  split_ifs with hlong
  · rfl
  · split
    next hwrite => rw [write_atomic _ _ _ _ _ hwrite]
    next hwrite =>
      -- a write that is accepted has an allowed value
      obtain ⟨j, start, length, d, hj, hplace, hd, hcheck, rfl⟩ := write_eq_ok hwrite
      obtain rfl : i = j := Option.some.inj (hi.symm.trans hj)
      obtain ⟨d', hdefinition, hd'⟩ := h.definition?_of_mem (List.mem_of_getElem? hi)
      obtain rfl : d = d' := Option.some.inj (hd.symm.trans hd')
      rw [allows, hdefinition, Option.any_some, hcheck, decide_eq_true (by omega)] at hallows
      cases hallows

/-- The values that are taken over: those the permanent storage has for persisted instances and the
definitions allow, up to the first failure. -/
def loaded (kv : KeyValueStorage κ) (s : Store η γ) : List Instance → κ → List (Key × Bytes)
  | [], _ => []
  | i :: rest, k =>
    if i.storageClass ≠ .persisted then loaded kv s rest k
    else
      match kv.get i.key.pack k with
      | (.error _, _) => []
      | (.ok none, k) => loaded kv s rest k
      | (.ok (some value), k) =>
        if s.allows i.key value then (i.key, value) :: loaded kv s rest k else loaded kv s rest k

/-- Entries get the values that are taken over. -/
theorem WellFormed.loadEach (kv : KeyValueStorage κ) (before : Store η γ) (rest : List Instance) :
    ∀ (n : ℕ) (s : Store η γ) (k : κ), s.WellFormed → s.definitions = before.definitions →
      s.instances.drop n = rest →
      let s' := (loadEach kv (List.range' n rest.length) s k).2.1
      s'.WellFormed ∧ s'.contents = (loaded kv before rest k).foldl
        (fun c (key, value) => c.change (Entry.load value) key) s.contents := by
  induction rest with
  | nil =>
    intro n s k h _ _
    exact ⟨h, rfl⟩
  | cons i rest ih =>
    intro n s k h hdefinitions hdrop
    have hi : s.instances[n]? = some i := by
      rw [← Nat.add_zero n, ← List.getElem?_drop, hdrop]
      rfl
    have hrest : s.instances.drop (n + 1) = rest := by
      rw [← List.drop_drop, hdrop]
      rfl
    have hallows (value : Bytes) : before.allows i.key value = s.allows i.key value := by
      rw [allows, allows, definition?_congr hdefinitions]
    have skip (k : κ) := ih (n + 1) s k h hdefinitions hrest
    rw [List.length_cons, List.range'_succ, Store.loadEach, hi, loaded]
    by_cases hclass : i.storageClass = .persisted
    · rw [Option.filter_some, if_pos (by rw [hclass]; rfl), if_neg (not_not.mpr hclass)]
      dsimp only
      rcases kv.get i.key.pack k with ⟨_ | _ | value, k⟩
      · exact ⟨h, rfl⟩
      · exact skip k
      · dsimp only
        rw [hallows]
        by_cases hallowed : s.allows i.key value = true
        · obtain ⟨start, hrestore, hwritten, hcontents⟩ := h.restore hi hclass hallowed
          have hnext := ih (n + 1) (s.written n i start value false) k hwritten hdefinitions
            (by rw [Store.written, List.drop_set_of_lt (Nat.lt_succ_self n), hrest])
          rw [hcontents] at hnext
          rw [hrestore, if_pos hallowed]
          exact hnext
        · rw [h.restore_of_not_allowed hi (Bool.eq_false_iff.mpr hallowed), if_neg hallowed]
          exact skip k
    · rw [Option.filter_some, if_neg (by simpa using hclass), if_pos hclass]
      exact skip k

theorem WellFormed.load (h : s.WellFormed) (kv : KeyValueStorage κ) (k : κ) :
    (s.load kv k).2.1.WellFormed ∧ (s.load kv k).2.1.contents =
      (loaded kv s s.instances k).foldl (fun c (key, value) => c.change (Entry.load value) key)
        s.contents := by
  rw [Store.load, List.range_eq_range']
  exact WellFormed.loadEach kv s s.instances 0 s k h rfl rfl

/-! ## How values are kept -/

/-- Taking over values leaves how they are kept. -/
theorem map_storageClass_foldl {α : Type} {f : α → Entry → Entry}
    (hf : ∀ a e, (f a e).storageClass = e.storageClass) (keyOf : α → Key) (l : List α)
    (key : Key) : ∀ c : Contents,
      (l.foldl (fun c a => c.change (f a) (keyOf a)) c key).map Entry.storageClass =
        (c key).map Entry.storageClass := by
  induction l with
  | nil => exact fun _ => rfl
  | cons a l ih =>
    intro c
    rw [List.foldl_cons, ih, Contents.change, Function.update_apply]
    split_ifs with hkey
    · rw [hkey, Option.map_map]
      exact Option.map_congr fun e _ => hf a e
    · rfl

theorem WellFormed.map_storageClass_commit (h : s.WellFormed) (kv : KeyValueStorage κ) (k : κ)
    (key : Key) : ((s.commit kv k).2.1.contents key).map Entry.storageClass =
      (s.contents key).map Entry.storageClass := by
  rw [(h.commit kv k).2]
  exact map_storageClass_foldl (f := fun _ => Entry.commit) (fun _ _ => rfl) id _ key _

theorem WellFormed.map_storageClass_load (h : s.WellFormed) (kv : KeyValueStorage κ) (k : κ)
    (key : Key) : ((s.load kv k).2.1.contents key).map Entry.storageClass =
      (s.contents key).map Entry.storageClass := by
  rw [(h.load kv k).2]
  exact map_storageClass_foldl (f := fun p : Key × Bytes => Entry.load p.2) (fun _ _ => rfl)
    Prod.fst _ key _

end Store

end LightingBus
