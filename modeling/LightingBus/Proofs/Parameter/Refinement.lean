import LightingBus.Proofs.Parameter.Persistence

/-!
# A store as a map

`run_refines`: whatever is done with a store, it looks like a map from keys to entries. A value is
read as it was last accepted for its key, an accepted change of one key is not seen at another one,
and a refused change is not seen at all. Which changes are accepted can be told from the map, the
definitions and the room that is left.

1. `Operation.run` is one operation, `Operation.events` what it gets accepted.
2. `step_refines`: a step keeps the invariant and changes the contents by its events.
3. Events only concern keys that have an entry, except for those that add one (`Lawful`); this makes
   the last accepted value the value of the entry (`Lawful.value`).
-/

namespace LightingBus

namespace Store

variable {η γ κ : Type} {s s' : Store η γ} {key : Key}

/-! ## Operations -/

/-- An operation on a store. What `commit` and `load` find in the permanent storage is part of the
operation. -/
inductive Operation (η γ κ : Type) where
  | define (d : ParameterDefinition η)
  | listen (pid : UInt16) (listener : γ)
  | addSubDevice (n : UInt16)
  | addInstance (key : Key) (storageClass : StorageClass) (value : Bytes)
  | set (key : Key) (value : Bytes)
  | setAndQueue (key : Key) (value : Bytes)
  | queueChanged (key : Key)
  | popChanged
  | commit (storage : κ)
  | load (storage : κ)

namespace Operation

/-- The key whose value an operation is to change. -/
def key? : Operation η γ κ → Option Key
  | .addInstance key _ _ | .set key _ | .setAndQueue key _ => some key
  | _ => none

/-- The permanent storage that an operation uses. -/
def storage? : Operation η γ κ → Option κ
  | .commit storage | .load storage => some storage
  | _ => none

/-- Carries out an operation. -/
def run (kv : KeyValueStorage κ) : Operation η γ κ → Change η γ
  | .define d => Change.define d
  | .listen pid listener => Change.listen pid listener
  | .addSubDevice n => Change.addSubDevice n
  | .addInstance key storageClass value => Change.addInstance key storageClass value
  | .set key value => Change.set key value
  | .setAndQueue key value => Change.setAndQueue key value
  | .queueChanged key => fun s => (.ok (), s.queueChanged key)
  | .popChanged => fun s => (.ok (), (s.popChanged.map Prod.snd).getD s)
  | .commit storage => fun s =>
    let (result, s, _) := s.commit kv storage
    (result.map fun _ => (), s)
  | .load storage => fun s =>
    let (result, s, _) := s.load kv storage
    (result.map fun _ => (), s)

/-- A refused operation leaves the store as it was, unless it was the permanent storage that
failed. -/
theorem run_atomic (kv : KeyValueStorage κ) {op : Operation η γ κ} (hstorage : op.storage? = none) :
    (op.run kv).Atomic := by
  cases op with
  | define d => exact define_atomic d
  | listen pid listener => exact listen_atomic pid listener
  | addSubDevice n => exact addSubDevice_atomic n
  | addInstance key storageClass value => exact addInstance_atomic key storageClass value
  | set key value => exact set_atomic key value
  | setAndQueue key value => exact setAndQueue_atomic key value
  | queueChanged key => exact fun _ _ _ h => by cases h
  | popChanged => exact fun _ _ _ h => by cases h
  | commit storage => cases hstorage
  | load storage => cases hstorage

end Operation

/-! ## Events -/

/-- Something that was accepted. -/
inductive Event where
  | added (key : Key) (storageClass : StorageClass) (value : Bytes)
  | written (key : Key) (value : Bytes)
  | committed (key : Key)
  | loaded (key : Key) (value : Bytes)

namespace Event

/-- The key an event is about. -/
def subject : Event → Key
  | .added key _ _ | .written key _ | .committed key | .loaded key _ => key

/-- The value that was accepted for a key. -/
def value? : Event → Key → Option Bytes
  | .added k _ value, key | .written k value, key | .loaded k value, key =>
    if k = key then some value else none
  | .committed _, _ => none

/-- The map after an event. -/
def apply (c : Contents) : Event → Contents
  | .added key storageClass value => Function.update c key (some ⟨storageClass, value, false⟩)
  | .written key value => c.change (Entry.write value) key
  | .committed key => c.change Entry.commit key
  | .loaded key value => c.change (Entry.load value) key

/-- An event that can happen: new keys are added, all else concerns keys that have an entry. -/
def Possible (c : Contents) : Event → Prop
  | .added key _ _ => c key = none
  | e => (c e.subject).isSome

/-- What the entry of another key was, it is. -/
theorem apply_of_ne (c : Contents) {e : Event} (h : key ≠ e.subject) : e.apply c key = c key := by
  cases e <;> exact Function.update_of_ne h _ _

/-- An event sets the value it accepts and leaves the other values. -/
theorem value_apply {c : Contents} {e : Event} (h : e.Possible c) (key : Key) :
    (e.apply c key).map Entry.value = (e.value? key).or ((c key).map Entry.value) := by
  rcases eq_or_ne key e.subject with rfl | hne
  · cases e with
    | added key storageClass value =>
      rw [apply, Event.subject, Function.update_self, value?, if_pos rfl]
      rfl
    | written key value =>
      obtain ⟨entry, hentry⟩ := Option.isSome_iff_exists.mp h
      rw [subject] at hentry ⊢
      rw [apply, Contents.change_of_some hentry, Function.update_self, value?, if_pos rfl]
      rfl
    | committed key =>
      obtain ⟨entry, hentry⟩ := Option.isSome_iff_exists.mp h
      rw [subject] at hentry ⊢
      rw [apply, Contents.change_of_some hentry, Function.update_self, value?, hentry]
      rfl
    | loaded key value =>
      obtain ⟨entry, hentry⟩ := Option.isSome_iff_exists.mp h
      rw [subject] at hentry ⊢
      rw [apply, Contents.change_of_some hentry, Function.update_self, value?, if_pos rfl]
      rfl
  · have hnone : e.value? key = none := by
      cases e <;> first | rfl | exact if_neg hne.symm
    rw [apply_of_ne c hne, hnone, Option.none_or]

end Event

/-- The value that was last accepted for a key. -/
def lastAccepted (events : List Event) (key : Key) : Option Bytes :=
  events.reverse.findSome? fun e => e.value? key

/-- Every event of a run can happen when its turn comes. -/
def Lawful : Contents → List Event → Prop
  | _, [] => True
  | c, e :: events => e.Possible c ∧ Lawful (e.apply c) events

theorem Lawful.append {c : Contents} {front back : List Event} (hfront : Lawful c front)
    (hback : Lawful (front.foldl Event.apply c) back) : Lawful c (front ++ back) := by
  induction front generalizing c with
  | nil => exact hback
  | cons e front ih => exact ⟨hfront.1, ih hfront.2 hback⟩

/-- After possible events the value of a key is the one that was last accepted for it. -/
theorem Lawful.value {events : List Event} : ∀ {c : Contents}, Lawful c events → ∀ key,
    (events.foldl Event.apply c key).map Entry.value =
      (lastAccepted events key).or ((c key).map Entry.value) := by
  induction events with
  | nil => exact fun _ _ => rfl
  | cons e events ih =>
    intro c h key
    rw [List.foldl_cons, ih h.2 key, Event.value_apply h.1, ← Option.or_assoc, lastAccepted,
      lastAccepted, List.reverse_cons, List.findSome?_append, List.findSome?_singleton]

/-- Changes of keys that have an entry can happen in any number. -/
theorem Lawful.of_present {events : List Event} : ∀ {c : Contents},
    (∀ e ∈ events, (∀ key storageClass value, e ≠ .added key storageClass value) ∧
      (c e.subject).isSome) → Lawful c events := by
  induction events with
  | nil => exact fun _ => trivial
  | cons e events ih =>
    intro c h
    obtain ⟨hchange, hpresent⟩ := h e List.mem_cons_self
    have hpossible : e.Possible c := by
      cases e with
      | added key storageClass value => exact absurd rfl (hchange key storageClass value)
      | written | committed | loaded => exact hpresent
    refine ⟨hpossible, ih fun e' he' => ?_⟩
    obtain ⟨hchange', hpresent'⟩ := h e' (List.mem_cons_of_mem _ he')
    refine ⟨hchange', ?_⟩
    have hvalue := congrArg Option.isSome (Event.value_apply hpossible e'.subject)
    rw [Option.isSome_map, Option.isSome_or, Option.isSome_map, hpresent', Bool.or_true] at hvalue
    exact hvalue

/-! ## Steps -/

/-- What an operation gets accepted. -/
def Operation.events (kv : KeyValueStorage κ) (op : Operation η γ κ) (s : Store η γ) :
    List Event :=
  match op, (op.run kv s).1 with
  | .addInstance key storageClass value, .ok () => [.added key storageClass value]
  | .set key value, .ok () => [.written key value]
  | .setAndQueue key value, .ok () => [.written key value]
  | .commit storage, _ => (committed kv s.storage s.instances storage).map .committed
  | .load storage, _ =>
    (loaded kv s s.instances storage).map fun (key, value) => .loaded key value
  | _, _ => []

/-- An operation keeps the invariant, and changes the contents by events that can happen. -/
def Operation.Refines (kv : KeyValueStorage κ) (op : Operation η γ κ) (s : Store η γ) : Prop :=
  (op.run kv s).2.WellFormed ∧ Lawful s.contents (op.events kv s) ∧
    (op.run kv s).2.contents = (op.events kv s).foldl Event.apply s.contents

theorem mem_committed (kv : KeyValueStorage κ) {bytes : Bytes} (t : List Instance) :
    ∀ {storage : κ}, ∀ key ∈ committed kv bytes t storage, ∃ i ∈ t, i.key = key := by
  induction t with
  | nil => exact fun _ hkey => by cases hkey
  | cons i t ih =>
    intro storage key hkey
    have later {storage : κ} (hkey : key ∈ committed kv bytes t storage) :
        ∃ j ∈ i :: t, j.key = key := by
      obtain ⟨j, hj, hjkey⟩ := ih key hkey
      exact ⟨j, List.mem_cons_of_mem _ hj, hjkey⟩
    rw [committed] at hkey
    split_ifs at hkey
    · split at hkey
      · cases hkey
      · rcases List.mem_cons.mp hkey with rfl | hkey
        · exact ⟨i, List.mem_cons_self, rfl⟩
        · exact later hkey
    · exact later hkey

theorem mem_loaded (kv : KeyValueStorage κ) (t : List Instance) :
    ∀ {storage : κ}, ∀ p ∈ loaded kv s t storage, ∃ i ∈ t, i.key = p.1 := by
  induction t with
  | nil => exact fun _ hp => by cases hp
  | cons i t ih =>
    intro storage p hp
    have later {storage : κ} (hp : p ∈ loaded kv s t storage) : ∃ j ∈ i :: t, j.key = p.1 := by
      obtain ⟨j, hj, hjkey⟩ := ih p hp
      exact ⟨j, List.mem_cons_of_mem _ hj, hjkey⟩
    rw [loaded] at hp
    split_ifs at hp
    · exact later hp
    · split at hp
      · cases hp
      · exact later hp
      · split_ifs at hp
        · rcases List.mem_cons.mp hp with rfl | hp
          · exact ⟨i, List.mem_cons_self, rfl⟩
          · exact later hp
        · exact later hp

theorem committed_present (h : s.WellFormed) (kv : KeyValueStorage κ) (storage : κ) :
    ∀ key ∈ committed kv s.storage s.instances storage, (s.contents key).isSome := by
  intro key hkey
  obtain ⟨i, hi, rfl⟩ := mem_committed kv _ key hkey
  rw [contents_of_mem h hi]
  rfl

theorem loaded_present (h : s.WellFormed) (kv : KeyValueStorage κ) (storage : κ) :
    ∀ p ∈ loaded kv s s.instances storage, (s.contents p.1).isSome := by
  intro p hp
  obtain ⟨i, hi, hkey⟩ := mem_loaded kv _ p hp
  rw [← hkey, contents_of_mem h hi]
  rfl

namespace Operation.Refines

variable {kv : KeyValueStorage κ} {op : Operation η γ κ}

theorem of_refused (h : s.WellFormed) (hstorage : op.storage? = none)
    (hevents : op.events kv s = []) {e : ParameterError} (hrun : op.run kv s = (.error e, s')) :
    op.Refines kv s := by
  rw [Refines, hevents, hrun, run_atomic kv hstorage _ _ _ hrun]
  exact ⟨h, trivial, rfl⟩

theorem of_silent (hevents : op.events kv s = []) (hrun : (op.run kv s).2 = s')
    (hkept : s'.WellFormed) (hcontents : s'.contents = s.contents) : op.Refines kv s := by
  rw [Refines, hevents, hrun]
  exact ⟨hkept, trivial, hcontents⟩

theorem of_event (e : Event) (hevents : op.events kv s = [e]) (hrun : (op.run kv s).2 = s')
    (hkept : s'.WellFormed) (hpossible : e.Possible s.contents)
    (hcontents : s'.contents = e.apply s.contents) : op.Refines kv s := by
  rw [Refines, hevents, hrun]
  exact ⟨hkept, ⟨hpossible, trivial⟩, hcontents⟩

end Operation.Refines

theorem step_refines (kv : KeyValueStorage κ) (op : Operation η γ κ) (h : s.WellFormed) :
    op.Refines kv s := by
  cases op with
  | define d =>
    rcases hrun : Change.define d s with ⟨e | ⟨⟩, s'⟩
    · exact .of_refused h rfl rfl hrun
    · refine .of_silent rfl (congrArg Prod.snd hrun) ?_ ?_
      · rcases define_eq_ok hrun with rfl | ⟨hnew, hroom, rfl⟩
        · exact h
        · exact h.push_definition hnew hroom
      · rcases define_eq_ok hrun with rfl | ⟨-, -, rfl⟩ <;> rfl
  | listen pid listener =>
    rcases hrun : Change.listen pid listener s with ⟨e | ⟨⟩, s'⟩
    · exact .of_refused h rfl rfl hrun
    · obtain ⟨n, rfl⟩ := listen_eq_ok hrun
      exact .of_silent rfl (congrArg Prod.snd hrun) (h.hear n _) rfl
  | addSubDevice n =>
    rcases hrun : Change.addSubDevice n s with ⟨e | ⟨⟩, s'⟩
    · exact .of_refused h rfl rfl hrun
    · refine .of_silent rfl (congrArg Prod.snd hrun) ?_ ?_
      · rcases addSubDevice_eq_ok hrun with rfl | ⟨hlow, hhigh, hnew, hroom, rfl⟩
        · exact h
        · exact h.push_device hlow hhigh hnew hroom
      · rcases addSubDevice_eq_ok hrun with rfl | ⟨-, -, -, -, rfl⟩ <;> rfl
  | addInstance key storageClass value =>
    rcases hrun : Change.addInstance key storageClass value s with ⟨e | ⟨⟩, s'⟩
    · exact .of_refused h rfl (by simp only [Operation.events, Operation.run, hrun]) hrun
    · obtain ⟨hkept, hcontents⟩ := h.addInstance hrun
      obtain ⟨-, -, -, -, -, -, -, -, hnew, -⟩ := addInstance_eq_ok hrun
      rw [hasInstance_eq h, Option.isSome_eq_false_iff, Option.isNone_iff_eq_none] at hnew
      exact .of_event (.added key storageClass value)
        (by simp only [Operation.events, Operation.run, hrun]) (congrArg Prod.snd hrun) hkept hnew
        hcontents
  | set key value =>
    rcases hrun : Change.set key value s with ⟨e | ⟨⟩, s'⟩
    · exact .of_refused h rfl (by simp only [Operation.events, Operation.run, hrun]) hrun
    · obtain ⟨hkept, entry, hentry, -, hcontents⟩ := h.set hrun
      rw [← Contents.change_of_some hentry] at hcontents
      exact .of_event (.written key value) (by simp only [Operation.events, Operation.run, hrun])
        (congrArg Prod.snd hrun) hkept (Option.isSome_of_eq_some hentry) hcontents
  | setAndQueue key value =>
    rcases hrun : Change.setAndQueue key value s with ⟨e | ⟨⟩, s'⟩
    · exact .of_refused h rfl (by simp only [Operation.events, Operation.run, hrun]) hrun
    · obtain ⟨hkept, entry, hentry, -, hcontents⟩ := h.setAndQueue hrun
      rw [← Contents.change_of_some hentry] at hcontents
      exact .of_event (.written key value) (by simp only [Operation.events, Operation.run, hrun])
        (congrArg Prod.snd hrun) hkept (Option.isSome_of_eq_some hentry) hcontents
  | queueChanged key =>
    exact .of_silent rfl rfl (h.queueChanged key) (contents_queueChanged s key)
  | popChanged =>
    cases hpop : s.popChanged with
    | none =>
      have hrun : (Operation.popChanged.run kv s).2 = s := by
        change (s.popChanged.map Prod.snd).getD s = s
        rw [hpop]
        rfl
      exact .of_silent rfl hrun h rfl
    | some p =>
      have hrun : (Operation.popChanged.run kv s).2 = p.2 := by
        change (s.popChanged.map Prod.snd).getD s = p.2
        rw [hpop]
        rfl
      obtain ⟨hkept, hcontents⟩ := h.popChanged hpop
      exact .of_silent rfl hrun hkept hcontents
  | commit storage =>
    obtain ⟨hkept, hcontents⟩ := h.commit kv storage
    refine ⟨hkept, .of_present fun e he => ?_, ?_⟩
    · obtain ⟨key, hkey, rfl⟩ := List.mem_map.mp he
      exact ⟨nofun, committed_present h kv storage key hkey⟩
    · have hevents : (Operation.commit storage : Operation η γ κ).events kv s =
        (committed kv s.storage s.instances storage).map .committed := rfl
      rw [hevents, List.foldl_map]
      exact hcontents
  | load storage =>
    obtain ⟨hkept, hcontents⟩ := h.load kv storage
    refine ⟨hkept, .of_present fun e he => ?_, ?_⟩
    · obtain ⟨p, hp, rfl⟩ := List.mem_map.mp he
      exact ⟨nofun, loaded_present h kv storage p hp⟩
    · have hevents : (Operation.load storage : Operation η γ κ).events kv s =
        (loaded kv s s.instances storage).map fun (key, value) => .loaded key value := rfl
      rw [hevents, List.foldl_map]
      exact hcontents

/-- Writing values to the permanent storage changes none. -/
theorem WellFormed.get_commit (h : s.WellFormed) (kv : KeyValueStorage κ) (k : κ) (key : Key) :
    (s.commit kv k).2.1.get key = s.get key := by
  obtain ⟨-, hlawful, hcontents⟩ := step_refines kv (.commit k) h
  have hevents : (Operation.commit k : Operation η γ κ).events kv s =
      (committed kv s.storage s.instances k).map .committed := rfl
  have hvalue := hlawful.value key
  have hnone : lastAccepted ((committed kv s.storage s.instances k).map .committed) key = none := by
    rw [lastAccepted, ← List.map_reverse, List.findSome?_map]
    exact List.findSome?_eq_none_iff.mpr fun _ _ => rfl
  rw [← hcontents, hevents, hnone, Option.none_or] at hvalue
  change (((Operation.commit k).run kv s).2).get key = s.get key
  rw [get_eq, get_eq, hvalue]

/-! ## Runs -/

/-- The store after a list of operations. A refused operation does not end the run. -/
def runAll (kv : KeyValueStorage κ) (ops : List (Operation η γ κ)) (s : Store η γ) : Store η γ :=
  ops.foldl (fun s op => (op.run kv s).2) s

/-- What a list of operations gets accepted, oldest first. -/
def history (kv : KeyValueStorage κ) : List (Operation η γ κ) → Store η γ → List Event
  | [], _ => []
  | op :: ops, s => op.events kv s ++ history kv ops (op.run kv s).2

theorem runAll_refines (kv : KeyValueStorage κ) (ops : List (Operation η γ κ)) :
    ∀ s : Store η γ, s.WellFormed → (runAll kv ops s).WellFormed ∧
      Lawful s.contents (history kv ops s) ∧
      (runAll kv ops s).contents = (history kv ops s).foldl Event.apply s.contents := by
  induction ops with
  | nil => exact fun s h => ⟨h, trivial, rfl⟩
  | cons op ops ih =>
    intro s h
    obtain ⟨hkept, hlawful, hcontents⟩ := step_refines kv op h
    obtain ⟨hkeptAll, hlawfulAll, hcontentsAll⟩ := ih _ hkept
    rw [hcontents] at hlawfulAll hcontentsAll
    refine ⟨hkeptAll, hlawful.append hlawfulAll, ?_⟩
    rw [history, List.foldl_append]
    exact hcontentsAll

/-- Events about other keys leave the entry of a key. -/
theorem Event.foldl_apply_of_ne (events : List Event) : ∀ c : Contents,
    (∀ e ∈ events, key ≠ e.subject) → events.foldl Event.apply c key = c key := by
  induction events with
  | nil => exact fun _ _ => rfl
  | cons e events ih =>
    intro c hne
    rw [List.foldl_cons, ih _ fun e' he' => hne e' (List.mem_cons_of_mem _ he'),
      Event.apply_of_ne c (hne e List.mem_cons_self)]

theorem Operation.key?_of_mem_events (kv : KeyValueStorage κ) {op : Operation η γ κ}
    (hstorage : op.storage? = none) {e : Event} (he : e ∈ op.events kv s) :
    op.key? = some e.subject := by
  unfold Operation.events at he
  generalize (op.run kv s).1 = result at he
  cases op with
  | addInstance | set | setAndQueue =>
    cases result with
    | error => cases he
    | ok =>
      cases List.mem_singleton.mp he
      rfl
  | commit | load => cases hstorage
  | _ => cases he

/-- An operation that is not about a key and uses no permanent storage leaves the entry of the key,
also if it is refused. -/
theorem WellFormed.contents_of_ne (h : s.WellFormed) (kv : KeyValueStorage κ)
    {op : Operation η γ κ} (hstorage : op.storage? = none) (hkey : op.key? ≠ some key) :
    (op.run kv s).2.contents key = s.contents key := by
  obtain ⟨-, -, hcontents⟩ := step_refines kv op h
  rw [hcontents]
  refine Event.foldl_apply_of_ne _ _ fun e he heq => hkey ?_
  rw [heq]
  exact Operation.key?_of_mem_events kv hstorage he

/-- An accepted change of one key leaves the values of the others. -/
theorem get_of_ne (kv : KeyValueStorage κ) {op : Operation η γ κ} (h : s.WellFormed) {key : Key}
    (hkey : op.key? = some key) (hrun : op.run kv s = (.ok (), s')) {other : Key}
    (hne : other ≠ key) : s'.get other = s.get other := by
  have hstorage : op.storage? = none := by
    cases op with
    | commit | load => cases hkey
    | _ => rfl
  have hother : op.key? ≠ some other := by
    rw [hkey]
    exact fun heq => hne (Option.some.inj heq).symm
  have hcontents := h.contents_of_ne kv hstorage hother
  rw [hrun] at hcontents
  rw [get_eq, get_eq, hcontents]

theorem copy_eq (s : Store η γ) (key : Key) (buffer : Bytes) :
    s.copy key buffer = match s.get key with
      | .error e => .error e
      | .ok value =>
        if buffer.length < value.length then .error .sizeMismatch
        else .ok (value ++ buffer.drop value.length, value.length) := by
  rw [copy]
  cases s.get key with
  | error e => rfl
  | ok value =>
    by_cases hshort : buffer.length < value.length
    · simp [bind, Except.bind, hshort]
    · simp [bind, Except.bind, hshort, Bytes.overwrite]

/-- A store looks like the map that the accepted changes make of the empty map: a value is read and
copied as it was last accepted for its key, a change of one key is not seen at another one, and
unless the permanent storage is to blame a refused operation leaves the store as it was. Nothing is
refused that can be added or set. -/
theorem run_refines (kv : KeyValueStorage κ) (capacities : Capacities) (dynamicCapacity : ℕ)
    (ops : List (Operation η γ κ)) :
    let start : Store η γ := empty capacities dynamicCapacity
    let s := runAll kv ops start
    let events := history kv ops start
    s.contents = events.foldl Event.apply (fun _ => none) ∧
    (∀ key, s.get key = (lastAccepted events key).elim (.error .notFound) .ok) ∧
    (∀ key buffer, s.copy key buffer =
      match lastAccepted events key with
      | none => .error .notFound
      | some value =>
        if buffer.length < value.length then .error .sizeMismatch
        else .ok (value ++ buffer.drop value.length, value.length)) ∧
    (∀ (op : Operation η γ κ) key s', op.key? = some key → op.run kv s = (.ok (), s') →
      ∀ other, other ≠ key → s'.get other = s.get other) ∧
    (∀ (op : Operation η γ κ) e s', op.storage? = none → op.run kv s = (.error e, s') →
      s' = s) ∧
    (∀ key storageClass value,
      (∃ s', Change.addInstance key storageClass value s = (.ok (), s')) ↔
        ∃ d, s.Addable key storageClass value d) ∧
    (∀ key value,
      ((∃ s', Change.set key value s = (.ok (), s')) ↔ s.Settable key value) ∧
      ((∃ s', Change.setAndQueue key value s = (.ok (), s')) ↔ s.Settable key value)) := by
  intro start s events
  obtain ⟨hkept, hlawful, hcontents⟩ :=
    runAll_refines kv ops start (empty_wellFormed capacities dynamicCapacity)
  have hget : ∀ key, s.get key = (lastAccepted events key).elim (.error .notFound) .ok := by
    intro key
    have hvalue := hlawful.value key
    rw [← hcontents] at hvalue
    rw [get_eq, hvalue, show start.contents key = none from rfl, Option.map_none, Option.or_none]
  refine ⟨hcontents, hget, fun key buffer => ?_, fun op key s' hkey hrun other hne => ?_,
    fun op e s' hstorage hrun => ?_, fun _ _ _ => hkept.addInstance_iff,
    fun _ _ => ⟨hkept.set_iff, hkept.setAndQueue_iff⟩⟩
  · rw [copy_eq, hget]
    cases lastAccepted events key <;> rfl
  · exact get_of_ne kv hkept hkey hrun hne
  · exact Operation.run_atomic kv hstorage s s' e hrun

end Store

end LightingBus
