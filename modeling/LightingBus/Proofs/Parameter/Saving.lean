import LightingBus.Proofs.Parameter.Refinement

/-!
# No change is lost

`commit_keeps_changes`: the permanent storage has the current value of every persisted instance that
was set and is not staged, however often writing to it failed.

1. A commit writes the staged instances in front of the first failure and no others
   (`commitInstances_cases`). All keys are different, so what it wrote is still there at its end
   (`Saved.content_of_staged`).
2. Setting a persisted value stages it, adding an instance gives a key that was not set, and nothing
   else changes a value. So what is not staged stays as it was written (`Safe`, `safe_runSteps`).
-/

namespace LightingBus

/-- What a permanent storage holds: an accepted write replaces the value of its key, and a failed
write changes nothing. -/
structure KeyValueStorage.Faithful {κ : Type} (kv : KeyValueStorage κ)
    (content : κ → UInt32 → Option Bytes) : Prop where
  accepted : ∀ key value k k', kv.set key value k = (.ok (), k') →
    content k' = Function.update (content k) key (some value)
  failed : ∀ key value k k', kv.set key value k = (.error (), k') → content k' = content k

theorem Key.pack_inj {a b : Key} : a.pack = b.pack ↔ a = b := by
  constructor
  · intro h
    rw [← unpack_pack a, h, unpack_pack]
  · rintro rfl
    rfl

/-- The instance after its value was written. -/
def Instance.saved (i : Instance) : Instance :=
  { i with staged := false }

theorem Instance.saved_of_not_staged {i : Instance} (h : i.staged = false) : i.saved = i := by
  cases i
  cases h
  rfl

namespace Store

variable {η γ κ : Type} {kv : KeyValueStorage κ} {content : κ → UInt32 → Option Bytes}
  {s s' : Store η γ} {storage : Bytes} {t : InstanceTable} {i : Instance} {k k' : κ}

/-! ## One commit -/

/-- The storage accepts the value of every staged instance, one after the other. -/
inductive Saved (kv : KeyValueStorage κ) (storage : Bytes) : InstanceTable → κ → κ → Prop where
  | nil {k : κ} : Saved kv storage [] k k
  | skip {i : Instance} {t : InstanceTable} {k k' : κ} : i.staged = false →
      Saved kv storage t k k' → Saved kv storage (i :: t) k k'
  | write {i : Instance} {t : InstanceTable} {k k₁ k' : κ} : i.staged = true →
      kv.set i.key.pack (i.value storage) k = (.ok (), k₁) → Saved kv storage t k₁ k' →
        Saved kv storage (i :: t) k k'

/-- A commit writes all staged instances, or those in front of one that cannot be written. That one
and all behind it stay as they were. -/
theorem commitInstances_cases (kv : KeyValueStorage κ) (storage : Bytes) (t : InstanceTable)
    (k : κ) :
    (∃ k', commitInstances kv storage t k =
      (.ok (t.countP Instance.staged), t.map Instance.saved, k') ∧ Saved kv storage t k k') ∨
    ∃ front i back k₁ k', t = front ++ i :: back ∧ i.staged = true ∧
      Saved kv storage front k k₁ ∧ kv.set i.key.pack (i.value storage) k₁ = (.error (), k') ∧
      commitInstances kv storage t k =
        (.error .storage, front.map Instance.saved ++ i :: back, k') := by
  induction t generalizing k with
  | nil => exact .inl ⟨k, rfl, .nil⟩
  | cons i t ih =>
    cases hstaged : i.staged with
    | false =>
      rw [commitInstances, if_neg (by simp [hstaged])]
      obtain ⟨k', hall, hsaved⟩ | ⟨front, j, back, k₁, k', rfl, hj, hsaved, hset, hrun⟩ := ih k
      · refine .inl ⟨k', ?_, .skip hstaged hsaved⟩
        simp [hall, hstaged, Instance.saved_of_not_staged]
      · refine .inr ⟨i :: front, j, back, k₁, k', rfl, hj, .skip hstaged hsaved, hset, ?_⟩
        simp [hrun, hstaged, Instance.saved_of_not_staged]
    | true =>
      rw [commitInstances, if_pos hstaged]
      rcases hwrite : kv.set i.key.pack (i.value storage) k with ⟨⟨⟩ | ⟨⟩, k₂⟩
      · exact .inr ⟨[], i, t, k, k₂, rfl, hstaged, .nil, hwrite, rfl⟩
      · obtain ⟨k', hall, hsaved⟩ | ⟨front, j, back, k₁, k', rfl, hj, hsaved, hset, hrun⟩ := ih k₂
        · refine .inl ⟨k', ?_, .write hstaged hwrite hsaved⟩
          simp [hall, hstaged, Instance.saved, Except.map]
        · refine .inr ⟨i :: front, j, back, k₁, k', rfl, hj, .write hstaged hwrite hsaved, hset, ?_⟩
          simp [hrun, Instance.saved, Except.map]

/-- Keys that were not written keep what the permanent storage has for them. -/
theorem Saved.content_of_not_written (hkv : kv.Faithful content) (h : Saved kv storage t k k')
    {key : Key} (hkey : ∀ i ∈ t, i.staged = true → i.key ≠ key) :
    content k' key.pack = content k key.pack := by
  induction h with
  | nil => rfl
  | skip _ _ ih => exact ih fun j hj => hkey j (List.mem_cons_of_mem _ hj)
  | write hstaged hset _ ih =>
    rw [ih fun j hj => hkey j (List.mem_cons_of_mem _ hj), hkv.accepted _ _ _ _ hset,
      Function.update_of_ne]
    intro heq
    exact hkey _ List.mem_cons_self hstaged (Key.pack_inj.mp heq).symm

/-- The permanent storage has the values of the instances that were staged. -/
theorem Saved.content_of_staged (hkv : kv.Faithful content) (h : Saved kv storage t k k')
    (hsorted : t.Sorted) (hi : i ∈ t) (hstaged : i.staged = true) :
    content k' i.key.pack = some (i.value storage) := by
  induction h with
  | nil => cases hi
  | skip hclean _ ih =>
    obtain ⟨-, hsorted⟩ := List.pairwise_cons.mp hsorted
    cases hi with
    | head =>
      rw [hclean] at hstaged
      cases hstaged
    | tail _ hi => exact ih hsorted hi
  | @write _ t _ _ _ hwritten hset hsaved ih =>
    obtain ⟨hbefore, hsorted⟩ := List.pairwise_cons.mp hsorted
    cases hi with
    | head =>
      have hlater : ∀ j ∈ t, j.staged = true → j.key ≠ i.key := by
        rintro j hj - heq
        have := Key.before_iff.mp (hbefore j hj)
        rw [heq] at this
        exact Nat.lt_irrefl _ this
      rw [hsaved.content_of_not_written hkv hlater, hkv.accepted _ _ _ _ hset, Function.update_self]
    | tail _ hi => exact ih hsorted hi

/-- All keys of a store differ, so nothing is written under the key of an instance that is not
staged. -/
theorem Saved.content_of_clean (hkv : kv.Faithful content) (h : Saved kv storage t k k')
    (hs : s.WellFormed) (ht : ∀ j ∈ t, j ∈ s.instances) (hi : i ∈ s.instances)
    (hclean : i.staged = false) : content k' i.key.pack = content k i.key.pack := by
  apply h.content_of_not_written hkv
  intro j hj hstaged heq
  have hfind := (find?_eq_some_iff hs).mpr ⟨ht j hj, heq⟩
  rw [(find?_eq_some_iff hs).mpr ⟨hi, rfl⟩, Option.some.injEq] at hfind
  rw [hfind, hstaged] at hclean
  cases hclean

/-! ## Runs -/

/-- No permanent storage: there is nothing that could be asked. -/
def noStorage : KeyValueStorage Empty where
  get _ k := k.elim
  set _ _ k := k.elim

/-- What happens to a store whose values are saved: an operation without the permanent storage, or
a commit to it. -/
inductive Step (η γ : Type) where
  | operate (op : Operation η γ Empty)
  | commit

/-- The key whose value was set. -/
def Event.setKey? : Event → Option Key
  | .written key _ => some key
  | _ => none

namespace Step

/-- The store and the permanent storage after a step. -/
def run (kv : KeyValueStorage κ) : Step η γ → Store η γ × κ → Store η γ × κ
  | .operate op, (s, k) => ((op.run noStorage s).2, k)
  | .commit, (s, k) => (s.commit kv k).2

/-- The key that a step sets, if that is accepted. -/
def setKeys (s : Store η γ) : Step η γ → List Key
  | .operate op => (op.events noStorage s).filterMap Event.setKey?
  | .commit => []

end Step

/-- The store and the permanent storage after all steps. -/
def runSteps (kv : KeyValueStorage κ) (steps : List (Step η γ)) (start : Store η γ × κ) :
    Store η γ × κ :=
  steps.foldl (fun state step => step.run kv state) start

/-- The keys that were set in a run. -/
def setKeys (kv : KeyValueStorage κ) : List (Step η γ) → Store η γ × κ → List Key
  | [], _ => []
  | step :: steps, state => step.setKeys state.1 ++ setKeys kv steps (step.run kv state)

/-- The keys have entries, and those that are persisted and not staged are saved. -/
structure Safe (content : UInt32 → Option Bytes) (keys : List Key) (s : Store η γ) : Prop where
  wellFormed : s.WellFormed
  present : ∀ key ∈ keys, (s.contents key).isSome
  saved : ∀ key ∈ keys, ∀ e, s.contents key = some e → e.storageClass = .persisted →
    e.staged = false → content key.pack = some e.value

/-- Without the permanent storage an operation adds an instance, sets a value or changes no
value. -/
theorem Operation.events_cases (op : Operation η γ Empty) (s : Store η γ) :
    op.events noStorage s = [] ∨
      (∃ key storageClass value, op.events noStorage s = [.added key storageClass value]) ∨
      ∃ key value, op.events noStorage s = [.written key value] := by
  cases op with
  | commit storage | load storage => exact storage.elim
  | addInstance key storageClass value =>
    unfold events
    split <;> simp_all
  | set key value | setAndQueue key value =>
    unfold events
    split <;> simp_all
  | define | listen | addSubDevice | queueChanged | popChanged => exact .inl rfl

theorem Safe.operate {content : UInt32 → Option Bytes} {keys : List Key}
    (h : Safe content keys s) (op : Operation η γ Empty) :
    Safe content (keys ++ (Step.operate op).setKeys s) (op.run noStorage s).2 := by
  obtain ⟨hkept, hlawful, hcontents⟩ := step_refines noStorage op h.wellFormed
  rw [Step.setKeys]
  obtain hevents | ⟨key, storageClass, value, hevents⟩ | ⟨key, value, hevents⟩ :=
    op.events_cases s
  · rw [hevents] at hcontents ⊢
    rw [List.filterMap_nil, List.append_nil]
    exact ⟨hkept, hcontents ▸ h.present, hcontents ▸ h.saved⟩
  · rw [hevents] at hcontents hlawful ⊢
    rw [List.foldl_cons, List.foldl_nil] at hcontents
    have hother : ∀ other ∈ keys, (op.run noStorage s).2.contents other = s.contents other := by
      intro other hmem
      rw [hcontents]
      apply Event.apply_of_ne
      rintro rfl
      have hnone : s.contents other = none := hlawful.1
      simpa [hnone] using h.present other hmem
    rw [List.filterMap_cons_none rfl, List.filterMap_nil, List.append_nil]
    refine ⟨hkept, fun other hmem => ?_, fun other hmem => ?_⟩
    · rw [hother other hmem]
      exact h.present other hmem
    · rw [hother other hmem]
      exact h.saved other hmem
  · rw [hevents] at hcontents hlawful ⊢
    rw [List.foldl_cons, List.foldl_nil] at hcontents
    obtain ⟨entry, hentry⟩ : ∃ entry, s.contents key = some entry :=
      Option.isSome_iff_exists.mp hlawful.1
    have hself : (op.run noStorage s).2.contents key = some (entry.write value) := by
      rw [hcontents]
      change s.contents.change (Entry.write value) key key = _
      rw [Contents.change_of_some hentry, Function.update_self]
    have hother : ∀ other, other ≠ key →
        (op.run noStorage s).2.contents other = s.contents other := by
      intro other hne
      have hsubject : other ≠ (Event.written key value).subject := hne
      rw [hcontents, Event.apply_of_ne _ hsubject]
    have hmem : ∀ other ∈ keys ++ [key], other ≠ key → other ∈ keys := by
      intro other hmem hne
      simpa [hne] using hmem
    change Safe content (keys ++ [key]) _
    refine ⟨hkept, fun other hkey => ?_, fun other hkey e he hclass hstaged => ?_⟩
    · by_cases hne : other = key
      · rw [hne, hself]
        rfl
      · rw [hother other hne]
        exact h.present other (hmem other hkey hne)
    · by_cases hne : other = key
      · -- a persisted value that is set is staged
        rw [hne, hself, Option.some.injEq] at he
        subst he
        simp_all [Entry.write]
      · rw [hother other hne] at he
        exact h.saved other (hmem other hkey hne) e he hclass hstaged

theorem mem_of_contents (h : s.WellFormed) {key : Key} {e : Entry}
    (he : s.contents key = some e) :
    ∃ i ∈ s.instances, i.key = key ∧ entryOf s.storage i = e := by
  obtain ⟨i, hi, rfl⟩ := Option.map_eq_some_iff.mp he
  obtain ⟨hmem, hkey⟩ := (find?_eq_some_iff h).mp hi
  exact ⟨i, hmem, hkey, rfl⟩

/-- What a commit leaves: the values are what they were, and the staged instances of a front of the
table are written. -/
theorem commit_cases (kv : KeyValueStorage κ) (s : Store η γ) (k : κ) :
    ∃ front back k₁, s.instances = front ++ back ∧ Saved kv s.storage front k k₁ ∧
      (s.commit kv k).2.1 = { s with instances := front.map Instance.saved ++ back } ∧
      ((s.commit kv k).1 = .ok s.stagedCount ∧ (s.commit kv k).2.2 = k₁ ∧ back = [] ∨
        (s.commit kv k).1 = .error .storage ∧ ∃ i rest, back = i :: rest ∧ i.staged = true ∧
          kv.set i.key.pack (i.value s.storage) k₁ = (.error (), (s.commit kv k).2.2)) := by
  rw [Store.commit]
  obtain ⟨k', hrun, hsaved⟩ | ⟨front, i, back, k₁, k', ht, hi, hsaved, hset, hrun⟩ :=
    commitInstances_cases kv s.storage s.instances k
  · rw [hrun]
    refine ⟨s.instances, [], k', (List.append_nil _).symm, hsaved, ?_, .inl ⟨rfl, rfl, rfl⟩⟩
    rw [List.append_nil]
  · rw [hrun]
    exact ⟨front, i :: back, k₁, ht, hsaved, rfl, .inr ⟨rfl, i, back, rfl, hi, hset⟩⟩

theorem Safe.commit {keys : List Key} (hkv : kv.Faithful content)
    (h : Safe (content k) keys s) :
    Safe (content (s.commit kv k).2.2) keys (s.commit kv k).2.1 := by
  have hkept := (h.wellFormed.commit kv k).1
  obtain ⟨front, back, k₁, ht, hsaved, hcommit, hend⟩ := commit_cases kv s k
  have hcontent : content (s.commit kv k).2.2 = content k₁ := by
    obtain ⟨-, hk, -⟩ | ⟨-, i, rest, -, -, hset⟩ := hend
    · rw [hk]
    · exact hkv.failed _ _ _ _ hset
  rw [hcommit] at hkept ⊢
  rw [hcontent]
  have hfront : ∀ i ∈ front, i ∈ s.instances := fun i hi => ht ▸ List.mem_append_left _ hi
  have hsorted : front.Sorted :=
    h.wellFormed.layout.sorted.sublist (ht ▸ List.sublist_append_left front back)
  have hkeep : ∀ i ∈ s.instances, i.key ∈ keys → i.storageClass = .persisted → i.staged = false →
      content k₁ i.key.pack = some (i.value s.storage) := by
    intro i hi hkey hclass hstaged
    rw [hsaved.content_of_clean hkv h.wellFormed hfront hi hstaged]
    exact h.saved i.key hkey _ (contents_of_mem h.wellFormed hi) hclass hstaged
  refine ⟨hkept, ?_, ?_⟩
  · intro key hkey
    obtain ⟨e, he⟩ := Option.isSome_iff_exists.mp (h.present key hkey)
    obtain ⟨i, hi, rfl, -⟩ := mem_of_contents h.wellFormed he
    rw [ht] at hi
    rcases List.mem_append.mp hi with hi | hi
    · have hmem : i.saved ∈ front.map Instance.saved ++ back :=
        List.mem_append_left _ (List.mem_map_of_mem hi)
      have hentry := contents_of_mem hkept hmem
      exact Option.isSome_of_eq_some hentry
    · exact Option.isSome_of_eq_some (contents_of_mem hkept (List.mem_append_right _ hi))
  · intro key hkey e he hclass hstaged
    obtain ⟨j, hj, rfl, rfl⟩ := mem_of_contents hkept he
    rcases List.mem_append.mp hj with hj | hj
    · obtain ⟨i, hi, rfl⟩ := List.mem_map.mp hj
      change content k₁ i.key.pack = some (i.value s.storage)
      cases hwritten : i.staged with
      | false => exact hkeep i (hfront i hi) hkey hclass hwritten
      | true => exact hsaved.content_of_staged hkv hsorted hi hwritten
    · exact hkeep j (ht ▸ List.mem_append_right _ hj) hkey hclass hstaged

theorem safe_runSteps (hkv : kv.Faithful content) (steps : List (Step η γ)) :
    ∀ {keys : List Key} {s : Store η γ} {k : κ}, Safe (content k) keys s →
      Safe (content (runSteps kv steps (s, k)).2) (keys ++ setKeys kv steps (s, k))
        (runSteps kv steps (s, k)).1 := by
  induction steps with
  | nil =>
    intro keys s k h
    rw [setKeys, List.append_nil]
    exact h
  | cons step steps ih =>
    intro keys s k h
    rw [setKeys, ← List.append_assoc]
    cases step with
    | operate op => exact ih (h.operate op)
    | commit =>
      rw [Step.setKeys, List.append_nil]
      exact ih (h.commit hkv)

/-- Nothing that was set is lost.

After any run against a permanent storage that may fail, each persisted instance that was set and is
not staged has its current value there. A commit that succeeds returns how many instances were
staged, and after it none is, so that all that was ever set is saved. A commit that fails saves the
staged instances of a front of the table; the one that could not be written and all behind it stay
as they were, and no value has changed. -/
theorem commit_keeps_changes (hkv : kv.Faithful content) (steps : List (Step η γ))
    (capacities : Capacities) (dynamicCapacity : ℕ) (k₀ : κ)
    (hrun : runSteps kv steps (empty capacities dynamicCapacity, k₀) = (s, k)) :
    (∀ i ∈ s.instances, i.storageClass = .persisted →
      i.key ∈ setKeys kv steps (empty capacities dynamicCapacity, k₀) → i.staged = false →
        content k i.key.pack = some (i.value s.storage)) ∧
    (∀ n s' k', s.commit kv k = (.ok n, s', k') →
      n = s.stagedCount ∧ s'.stagedCount = 0 ∧ (∀ key, s'.get key = s.get key) ∧
      ∀ i ∈ s'.instances, i.storageClass = .persisted →
        i.key ∈ setKeys kv steps (empty capacities dynamicCapacity, k₀) →
          content k' i.key.pack = some (i.value s'.storage)) ∧
    ∀ e s' k', s.commit kv k = (.error e, s', k') →
      (∀ key, s'.get key = s.get key) ∧
      ∃ front i back k₁, s.instances = front ++ i :: back ∧ i.staged = true ∧
        kv.set i.key.pack (i.value s.storage) k₁ = (.error (), k') ∧
        s'.instances = front.map Instance.saved ++ i :: back ∧
        ∀ j ∈ front, j.staged = true → content k' j.key.pack = some (j.value s.storage) := by
  have hstart : Safe (content k₀) [] (empty capacities dynamicCapacity : Store η γ) :=
    ⟨empty_wellFormed capacities dynamicCapacity, fun _ h => absurd h List.not_mem_nil,
      fun _ h => absurd h List.not_mem_nil⟩
  have hsafe := safe_runSteps hkv steps hstart
  rw [hrun, List.nil_append] at hsafe
  have hcommitted := hsafe.commit (k := k) hkv
  have hvalues := hsafe.wellFormed.get_commit kv k
  obtain ⟨front, back, k₁, ht, hsaved, hcommit, hend⟩ := commit_cases kv s k
  refine ⟨?_, ?_, ?_⟩
  · intro i hi hclass hkey hstaged
    exact hsafe.saved i.key hkey _ (contents_of_mem hsafe.wellFormed hi) hclass hstaged
  · intro n s' k' hok
    rw [hok] at hcommitted hvalues hcommit hend
    dsimp only at hcommitted hvalues hcommit hend
    obtain ⟨hn, -, rfl⟩ | ⟨herror, -⟩ := hend
    · have hclean : ∀ i ∈ s'.instances, i.staged = false := by
        intro i hi
        rw [hcommit, List.append_nil] at hi
        obtain ⟨j, -, rfl⟩ := List.mem_map.mp hi
        rfl
      refine ⟨Except.ok.inj hn, ?_, hvalues, ?_⟩
      · rw [stagedCount, List.countP_eq_zero]
        intro i hi
        simp [hclean i hi]
      · intro i hi hclass hkey
        exact hcommitted.saved i.key hkey _ (contents_of_mem hcommitted.wellFormed hi) hclass
          (hclean i hi)
    · cases herror
  · intro e s' k' herror
    rw [herror] at hvalues hcommit hend
    dsimp only at hvalues hcommit hend
    obtain ⟨hok, -⟩ | ⟨-, i, back, rfl, hi, hset⟩ := hend
    · cases hok
    · refine ⟨hvalues, front, i, back, k₁, ht, hi, hset, by rw [hcommit], ?_⟩
      intro j hj hstaged
      have hsorted : front.Sorted :=
        hsafe.wellFormed.layout.sorted.sublist (ht ▸ List.sublist_append_left front _)
      rw [hkv.failed _ _ _ _ hset]
      exact hsaved.content_of_staged hkv hsorted hj hstaged

/-! ## A storage that fails now and then -/

/-- Values with the newest first, and which of the next writes fail. -/
structure Unreliable where
  values : List (UInt32 × Bytes)
  failures : List Bool

namespace Unreliable

/-- The value of a key. -/
def value? (k : Unreliable) (key : UInt32) : Option Bytes :=
  k.values.lookup key

def keyValue : KeyValueStorage Unreliable where
  get key k := (.ok (k.value? key), k)
  set key value k :=
    if k.failures.head? = some true then (.error (), { k with failures := k.failures.tail })
    else (.ok (), ⟨(key, value) :: k.values, k.failures.tail⟩)

theorem faithful : keyValue.Faithful value? where
  accepted key value k k' h := by
    unfold keyValue at h
    dsimp only at h
    split_ifs at h
    · cases h
    · cases h
      funext other
      by_cases hother : other = key
      · simp [value?, hother]
      · simp [value?, hother, List.lookup_cons, beq_false_of_ne hother]
  failed key value k k' h := by
    unfold keyValue at h
    dsimp only at h
    split_ifs at h
    · cases h
      rfl
    · cases h

end Unreliable

/-- Two devices get a level, and both levels are set. -/
def levelSteps : List (Step Unit Unit) :=
  [.operate (.define ⟨0x8000, .getSet () (), .unsignedByte, {}, {}, .fixed 1, 1, 10, .none, .none,
      none⟩),
    .operate (.addSubDevice 3), .operate (.addInstance ⟨0, 0x8000⟩ .persisted [5]),
    .operate (.addInstance ⟨3, 0x8000⟩ .persisted [5]), .operate (.set ⟨0, 0x8000⟩ [7]),
    .operate (.setAndQueue ⟨3, 0x8000⟩ [8])]

/-- The stores after these and further steps, where the second write fails. -/
def levelRun (further : List (Step Unit Unit)) : Store Unit Unit × Unreliable :=
  runSteps Unreliable.keyValue (levelSteps ++ further) (empty ⟨1, 2, 2, 2⟩ 2, ⟨[], [false, true]⟩)

/-- The first commit saves the level of one device and leaves that of the other one staged; the next
commit saves that one too. -/
theorem commit_keeps_changes_unreliable :
    Unreliable.keyValue.Faithful Unreliable.value? ∧
    (((levelRun []).1.commit Unreliable.keyValue (levelRun []).2).1 = .error .storage ∧
      ∃ front i back, (levelRun []).1.instances = front ++ i :: back ∧ i.staged = true ∧
        ((levelRun []).1.commit Unreliable.keyValue (levelRun []).2).2.1.instances =
          front.map Instance.saved ++ i :: back) ∧
    (levelRun [.commit]).2.value? (Key.pack ⟨0, 0x8000⟩) = some [7] ∧
    (levelRun [.commit]).2.value? (Key.pack ⟨3, 0x8000⟩) = none ∧
    ((levelRun [.commit]).1.commit Unreliable.keyValue (levelRun [.commit]).2).1 = .ok 1 ∧
    (levelRun [.commit, .commit]).1.stagedCount = 0 ∧
    (levelRun [.commit, .commit]).2.value? (Key.pack ⟨3, 0x8000⟩) = some [8] := by
  have hfails :
      ((levelRun []).1.commit Unreliable.keyValue (levelRun []).2).1 = .error .storage := by cbv
  have hok : ((levelRun [.commit]).1.commit Unreliable.keyValue (levelRun [.commit]).2).1 =
    .ok 1 := by cbv
  refine ⟨Unreliable.faithful, ⟨hfails, ?_⟩, ?_⟩
  · obtain ⟨-, -, herror⟩ := commit_keeps_changes (s := (levelRun []).1) (k := (levelRun []).2)
      Unreliable.faithful (levelSteps ++ []) ⟨1, 2, 2, 2⟩ 2 ⟨[], [false, true]⟩ rfl
    obtain ⟨-, front, i, back, -, ht, hi, -, hcommit, -⟩ :=
      herror .storage _ _ (Prod.ext hfails rfl)
    exact ⟨front, i, back, ht, hi, hcommit⟩
  · obtain ⟨hclean, hcommits, -⟩ :=
      commit_keeps_changes (s := (levelRun [.commit]).1) (k := (levelRun [.commit]).2)
        Unreliable.faithful (levelSteps ++ [.commit]) ⟨1, 2, 2, 2⟩ 2 ⟨[], [false, true]⟩ rfl
    have hfirst := hclean ⟨⟨0, 0x8000⟩, 0, .persisted, .region 0 1, false⟩
      (List.mem_of_getElem? (i := 0) (by cbv)) rfl (List.mem_of_getElem? (i := 0) (by cbv)) rfl
    obtain ⟨-, hnone, -, hsaved⟩ := hcommits 1 _ _ (Prod.ext hok rfl)
    have hsecond := hsaved ⟨⟨3, 0x8000⟩, 0, .persisted, .region 1 1, false⟩
      (List.mem_of_getElem? (i := 1) (by cbv)) rfl (List.mem_of_getElem? (i := 1) (by cbv))
    exact ⟨hfirst.trans (by cbv), by cbv, hok, hnone, hsecond.trans (by cbv)⟩

end Store

end LightingBus
