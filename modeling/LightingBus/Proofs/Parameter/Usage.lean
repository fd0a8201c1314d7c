import LightingBus.Proofs.Parameter.Changes

/-!
# Using a store

A handler is given less than the device's own program: it sets values and puts keys into the queue
of changes or takes them out (`Used`). Whatever it does,

* which parameters there are, how they are kept, and the constant ones stay as they are
  (`Used.retains`), and
* listeners are told of every value that becomes another one, in order (`Used.told`).

`Adopts` is for one value among others: it stays, or becomes one that is admitted.
-/

namespace LightingBus

namespace Store

variable {η γ : Type} {before s s' s'' : Store η γ} {key other : Key} {value : Bytes}
  {admitted : Bytes → Prop}

/-- What becomes of a store in the hands of a handler. -/
inductive Used (s : Store η γ) : Store η γ → Prop where
  | refl : Used s s
  | set (key : Key) (value : Bytes) {s' : Store η γ} :
    Used s s' → Used s (Change.set key value s').2
  | queueChanged (key : Key) {s' : Store η γ} : Used s s' → Used s (s'.queueChanged key)
  | popChanged {key : Key} {s' s'' : Store η γ} :
    Used s s' → s'.popChanged = some (key, s'') → Used s s''

namespace Used

theorem trans (h : s.Used s') (h' : s'.Used s'') : s.Used s'' := by
  induction h' with
  | refl => exact h
  | set key value _ ih => exact ih.set key value
  | queueChanged key _ ih => exact ih.queueChanged key
  | popChanged _ hpop ih => exact ih.popChanged hpop

theorem setAndQueue (h : s.Used s') (key : Key) (value : Bytes) :
    s.Used (Change.setAndQueue key value s').2 := by
  have hset := h.set key value
  unfold Change.setAndQueue
  generalize Change.set key value s' = outcome at hset ⊢
  obtain ⟨e | ⟨⟩, written⟩ := outcome
  · exact hset
  · exact hset.queueChanged key

/-- Keys are taken out of the queue of changes one after the other. -/
theorem dequeue (front : List Key) : ∀ {s' : Store η γ} {rest : List Key}, s.Used s' →
    s'.changed = front ++ rest → s.Used { s' with changed := rest } := by
  induction front with
  | nil =>
    intro s' rest h hchanged
    rw [List.nil_append] at hchanged
    rw [← hchanged]
    exact h
  | cons key front ih =>
    intro s' rest h hchanged
    have hpop : s'.popChanged = some (key, { s' with changed := front ++ rest }) := by
      rw [Store.popChanged, hchanged]
      rfl
    have hrest := ih (h.popChanged hpop) rfl
    exact hrest

end Used

/-! ## What is left alone -/

/-- Contents that differ from others in a value at most. -/
theorem map_storageClass_update {c : Contents} {key : Key} {e : Entry} (h : c key = some e)
    (value : Bytes) (other : Key) :
    (Function.update c key (some (e.write value)) other).map Entry.storageClass =
      (c other).map Entry.storageClass := by
  rw [Function.update_apply]
  split_ifs with hother
  · rw [hother, h]
    rfl
  · rfl

/-- The store `s` has the parameters of the store `before`, kept in the same way, and the same
constants. Values that may change may be others. -/
structure Retains (before s : Store η γ) : Prop where
  wellFormed : s.WellFormed
  definitions : s.definitions = before.definitions
  classes : ∀ key, (s.contents key).map Entry.storageClass =
    (before.contents key).map Entry.storageClass
  constants : ∀ key, (before.contents key).map Entry.storageClass = some .static →
    s.get key = before.get key

namespace Retains

theorem refl (h : s.WellFormed) : s.Retains s :=
  ⟨h, rfl, fun _ => rfl, fun _ _ => rfl⟩

theorem trans (h : s.Retains s') (h' : s'.Retains s'') : s.Retains s'' where
  wellFormed := h'.wellFormed
  definitions := h'.definitions.trans h.definitions
  classes key := (h'.classes key).trans (h.classes key)
  constants key hstatic :=
    (h'.constants key ((h.classes key).trans hstatic)).trans (h.constants key hstatic)

/-- The queue of changes and the notices are no part of the parameters. -/
theorem of_contents (h : before.Retains s) (hkept : s'.WellFormed)
    (hdefinitions : s'.definitions = s.definitions) (hcontents : s'.contents = s.contents) :
    before.Retains s' := by
  have hget (key : Key) : s'.get key = s.get key := by rw [get_eq, get_eq, hcontents]
  exact ⟨hkept, hdefinitions.trans h.definitions, fun key => hcontents ▸ h.classes key,
    fun key hstatic => (hget key).trans (h.constants key hstatic)⟩

theorem set (h : before.Retains s) (key : Key) (value : Bytes) :
    before.Retains (Change.set key value s).2 := by
  rcases hset : Change.set key value s with ⟨e | ⟨⟩, s'⟩
  · rw [set_atomic _ _ _ _ _ hset]
    exact h
  · obtain ⟨hkept, entry, hentry, hclass, hcontents⟩ := h.wellFormed.set hset
    refine ⟨hkept, (definitions_set hset).trans h.definitions, fun other => ?_,
      fun other hstatic => ?_⟩
    · rw [hcontents, map_storageClass_update hentry, h.classes]
    · have hne : other ≠ key := by
        rintro rfl
        rw [← h.classes, hentry, Option.map_some, Option.some.injEq] at hstatic
        exact hclass hstatic
      rw [← h.constants other hstatic, get_eq, get_eq, hcontents, Function.update_of_ne hne]

theorem queueChanged (h : before.Retains s) (key : Key) : before.Retains (s.queueChanged key) := by
  obtain ⟨waiting, hqueued⟩ := queueChanged_eq s key
  have hdefinitions : (s.queueChanged key).definitions = s.definitions := by rw [hqueued]
  exact h.of_contents (h.wellFormed.queueChanged key) hdefinitions (contents_queueChanged s key)

theorem popChanged (h : before.Retains s) (hpop : s.popChanged = some (key, s')) :
    before.Retains s' := by
  obtain ⟨hkept, hcontents⟩ := h.wellFormed.popChanged hpop
  obtain ⟨rest, -, rfl⟩ := popChanged_eq_some hpop
  exact h.of_contents hkept rfl hcontents

end Retains

/-- Values that may change are all that a handler can change of the parameters. -/
theorem Used.retains (h : s.Used s') (hs : s.WellFormed) : s.Retains s' := by
  induction h with
  | refl => exact .refl hs
  | set key value _ ih => exact ih.set key value
  | queueChanged key _ ih => exact ih.queueChanged key
  | popChanged _ hpop ih => exact ih.popChanged hpop

/-- What can be stored depends on the definitions and on how parameters are kept, not on values. -/
theorem Settable.of_same (h : s.Settable key value) (hdefinitions : s'.definitions = s.definitions)
    (hsame : (s'.contents key).map Entry.storageClass = (s.contents key).map Entry.storageClass) :
    s'.Settable key value := by
  obtain ⟨entry, d, hentry, hclass, hd, hcheck⟩ := h
  rw [hentry, Option.map_some, Option.map_eq_some_iff] at hsame
  obtain ⟨present, hpresent, hsame⟩ := hsame
  refine ⟨present, d, hpresent, hsame ▸ hclass, ?_, hcheck⟩
  rw [definition?_congr hdefinitions]
  exact hd

/-- A value that was stored before and is not a constant can be stored again. -/
theorem set_back (hkept : s.WellFormed) (hdefinitions : s.definitions = before.definitions)
    (hsame : (s.contents key).map Entry.storageClass =
      (before.contents key).map Entry.storageClass) (hbefore : before.WellFormed) {entry : Entry}
    (hentry : before.contents key = some entry) (hclass : entry.storageClass ≠ .static) :
    ∃ s', Change.set key entry.value s = (.ok (), s') := by
  obtain ⟨-, d, hd, hcheck⟩ := hbefore.of_get (get_of_contents hentry)
  have hsettable : before.Settable key entry.value := ⟨entry, d, hentry, hclass, hd, hcheck⟩
  exact hkept.set_iff.mpr (hsettable.of_same hdefinitions hsame)

/-! ## What listeners are told -/

/-- Somebody listens to every parameter. -/
def Attended (s : Store η γ) : Prop :=
  ∀ slot ∈ s.definitions, slot.listener.isSome = true

theorem Attended.of_definitions (h : s.Attended) (hdefinitions : s'.definitions = s.definitions) :
    s'.Attended := by
  unfold Attended
  rw [hdefinitions]
  exact h

/-- The value that listeners were last told for a key. -/
def lastTold (notices : List (Notice γ)) (key : Key) : Option Bytes :=
  notices.reverse.findSome? fun n => if n.key = key then some n.value else none

theorem lastTold_concat (notices : List (Notice γ)) (n : Notice γ) (key : Key) :
    lastTold (notices ++ [n]) key = if n.key = key then some n.value else lastTold notices key := by
  rw [lastTold, List.reverse_append, List.reverse_singleton, List.singleton_append,
    List.findSome?_cons]
  split_ifs <;> rfl

/-- The value of a key for whoever knew the values of the store `before` and remembers what
listeners were told since. -/
def mirrored (before : Store η γ) (told : List (Notice γ)) (key : Key) :
    Except ParameterError Bytes :=
  (lastTold told key).elim (before.get key) .ok

theorem get_of_set (h : s.WellFormed) (hok : Change.set key value s = (.ok (), s')) (other : Key) :
    s'.get other = if key = other then .ok value else s.get other := by
  obtain ⟨-, entry, -, -, hcontents⟩ := h.set hok
  rw [get_eq, get_eq, hcontents, Function.update_apply]
  by_cases hother : other = key
  · rw [if_pos hother, if_pos hother.symm]
    rfl
  · rw [if_neg hother, if_neg (Ne.symm hother)]

/-- The listener of a parameter hears of a value that was set. -/
theorem notices_of_set (h : s.WellFormed) (hattended : s.Attended)
    (hok : Change.set key value s = (.ok (), s')) :
    ∃ listener, s'.notices = s.notices ++ [⟨listener, key, value⟩] := by
  unfold Change.set at hok
  split at hok
  next => cases hok
  next index hindex =>
    obtain ⟨i, hi, -⟩ := (InstanceTable.index?_eq_some_iff h.layout.sorted).mp hindex
    obtain ⟨d, hd, -⟩ := h.layout.conforms i (List.mem_of_getElem? hi)
    obtain ⟨slot, hslot, -⟩ := Option.map_eq_some_iff.mp hd
    obtain ⟨listener, hlistener⟩ :=
      Option.isSome_iff_exists.mp (hattended slot (List.mem_of_getElem? hslot))
    have hheard : s.listener? index = some listener := by
      simp only [listener?, hi, hslot, bind, Option.bind, hlistener]
    dsimp only at hok
    split at hok
    next => cases hok
    next written hwrite =>
      obtain ⟨_, _, _, _, _, _, _, _, rfl⟩ := write_eq_ok hwrite
      cases hok
      rw [hheard]
      exact ⟨listener, rfl⟩

/-- Whoever remembers what all listeners are told knows the values that a handler has left. -/
theorem Used.told (h : s.Used s') (hs : s.WellFormed) (hattended : s.Attended) :
    ∃ told, s'.notices = s.notices ++ told ∧ ∀ key, s'.get key = s.mirrored told key := by
  induction h with
  | refl => exact ⟨[], (List.append_nil _).symm, fun _ => rfl⟩
  | @set key value s' hused ih =>
    obtain ⟨told, hnotices, hget⟩ := ih
    have hretains := hused.retains hs
    rcases hset : Change.set key value s' with ⟨e | ⟨⟩, s''⟩
    · rw [set_atomic _ _ _ _ _ hset]
      exact ⟨told, hnotices, hget⟩
    · obtain ⟨listener, hnotice⟩ := notices_of_set hretains.wellFormed
        (hattended.of_definitions hretains.definitions) hset
      refine ⟨told ++ [⟨listener, key, value⟩], by rw [hnotice, hnotices, List.append_assoc],
        fun other => ?_⟩
      rw [get_of_set hretains.wellFormed hset, mirrored, lastTold_concat, hget, mirrored]
      by_cases hother : key = other
      · rw [if_pos hother, if_pos hother]
        rfl
      · rw [if_neg hother, if_neg hother]
  | @queueChanged key s' _ ih =>
    obtain ⟨told, hnotices, hget⟩ := ih
    refine ⟨told, ?_, fun other => ?_⟩
    · obtain ⟨waiting, hqueued⟩ := queueChanged_eq s' key
      rw [hqueued, ← hnotices]
    · rw [get_eq, contents_queueChanged, ← get_eq, hget]
  | @popChanged key s' s'' hused hpop ih =>
    obtain ⟨told, hnotices, hget⟩ := ih
    obtain ⟨-, hcontents⟩ := (hused.retains hs).wellFormed.popChanged hpop
    refine ⟨told, ?_, fun other => ?_⟩
    · obtain ⟨rest, -, rfl⟩ := popChanged_eq_some hpop
      exact hnotices
    · rw [get_eq, hcontents, ← get_eq, hget]

/-! ## One value among others -/

/-- The store `s` has the parameters of the store `before`, and the value of one key is the same or
one that is admitted. -/
structure Adopts (key : Key) (admitted : Bytes → Prop) (before s : Store η γ) : Prop where
  retains : before.Retains s
  value : s.get key = before.get key ∨ ∃ value, s.get key = .ok value ∧ admitted value

namespace Adopts

theorem refl (h : s.WellFormed) : Adopts key admitted s s :=
  ⟨.refl h, .inl rfl⟩

theorem of_get (h : Adopts key admitted before s) (hretains : before.Retains s')
    (hget : s'.get key = s.get key) : Adopts key admitted before s' :=
  ⟨hretains, hget ▸ h.value⟩

theorem set (h : Adopts key admitted before s) (hvalue : other = key → admitted value) :
    Adopts key admitted before (Change.set other value s).2 := by
  have hretains := h.retains.set other value
  rcases hset : Change.set other value s with ⟨e | ⟨⟩, s'⟩
  · rw [set_atomic _ _ _ _ _ hset]
    exact h
  · rw [hset] at hretains
    have hget := get_of_set h.retains.wellFormed hset key
    by_cases hother : other = key
    · rw [if_pos hother] at hget
      exact ⟨hretains, .inr ⟨value, hget, hvalue hother⟩⟩
    · rw [if_neg hother] at hget
      exact h.of_get hretains hget

theorem queueChanged (h : Adopts key admitted before s) (other : Key) :
    Adopts key admitted before (s.queueChanged other) :=
  h.of_get (h.retains.queueChanged other) (by rw [get_eq, get_eq, contents_queueChanged])

theorem setAndQueue (h : Adopts key admitted before s) (hvalue : other = key → admitted value) :
    Adopts key admitted before (Change.setAndQueue other value s).2 := by
  have hset := h.set hvalue
  unfold Change.setAndQueue
  generalize Change.set other value s = outcome at hset ⊢
  obtain ⟨e | ⟨⟩, written⟩ := outcome
  · exact hset
  · exact hset.queueChanged other

end Adopts

end Store

end LightingBus
