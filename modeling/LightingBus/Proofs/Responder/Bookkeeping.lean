import LightingBus.Proofs.Responder.FanOutVerdicts

/-!
# Bookkeeping of requests to all sub-devices

`setAll_bookkeeping`: a request to store a value on all sub-devices that is refused leaves the
values as they were, but its traces stay. The keys in front of the one that refuses have been put
into the queue of changes, where they may have driven out older ones, and their persisted values are
staged.

1. Which keys accept a value is decided by the store before the request (`Retains.accepts_eq`).
2. `Noted` is the bookkeeping after some keys were written. Values are put back by writes, which
   leave it as it is (`Noted.putBackAll`).
3. `applyEach_noted` follows the request from device to device.
-/

namespace LightingBus

namespace Store

variable {η γ : Type} {before s s' : Store η γ} {key : Key} {keys : List Key} {value : Bytes}

/-! ## Values that are accepted -/

/-- The value can be set. -/
def accepts (s : Store η γ) (key : Key) (value : Bytes) : Bool :=
  (Change.set key value s).1.toBool

theorem accepts_iff (h : s.WellFormed) : s.accepts key value = true ↔ s.Settable key value := by
  rw [← h.set_iff, accepts]
  rcases Change.set key value s with ⟨e | ⟨⟩, s'⟩
  · exact ⟨nofun, fun ⟨_, hok⟩ => by cases hok⟩
  · exact ⟨fun _ => ⟨s', rfl⟩, fun _ => rfl⟩

/-- The values that a store accepts do not depend on the values that it has. -/
theorem Retains.accepts_eq (h : before.Retains s) (hbefore : before.WellFormed) (key : Key)
    (value : Bytes) : s.accepts key value = before.accepts key value := by
  rw [Bool.eq_iff_iff, accepts_iff h.wellFormed, accepts_iff hbefore]
  have hclass := h.classes key
  exact ⟨fun hset => hset.of_same h.definitions.symm hclass.symm,
    fun hset => hset.of_same h.definitions hclass⟩

theorem fst_setAndQueue (key : Key) (value : Bytes) (s : Store η γ) :
    (Change.setAndQueue key value s).1 = (Change.set key value s).1 := by
  unfold Change.setAndQueue
  rcases Change.set key value s with ⟨e | ⟨⟩, s'⟩ <;> rfl

/-! ## The queue of changes -/

/-- A queue of changes with one more key. -/
def enqueue (queue : List Key) (key : Key) : List Key :=
  if queue.contains key then queue
  else (if changedCapacity ≤ queue.length then queue.tail else queue) ++ [key]

theorem changed_queueChanged (s : Store η γ) (key : Key) :
    (s.queueChanged key).changed = enqueue s.changed key := by
  unfold queueChanged enqueue
  split_ifs <;> rfl

theorem changed_set (hok : Change.set key value s = (.ok (), s')) : s'.changed = s.changed := by
  obtain ⟨index, i, start, length, d, notices, -, -, -, -, -, rfl⟩ := written_of_set hok
  rfl

/-! ## Traces of writes -/

/-- The store after values of some keys were written: these keys have been queued, and those of them
whose values are persisted are staged. -/
structure Noted (keys : List Key) (before s : Store η γ) : Prop where
  changed : s.changed = keys.foldl enqueue before.changed
  staged : ∀ key, (s.contents key).map Entry.staged = (before.contents key).map fun e =>
    e.staged || (e.storageClass == .persisted && keys.contains key)

theorem Noted.refl (s : Store η γ) : Noted [] s s where
  changed := rfl
  staged key := by
    cases s.contents key <;> simp

/-- A write stages the value of its key, if it is persisted. -/
theorem staged_of_set (hretains : before.Retains s) (hset : Change.set key value s = (.ok (), s'))
    (hstaged : ∀ other, (s.contents other).map Entry.staged = (before.contents other).map fun e =>
      e.staged || (e.storageClass == .persisted && keys.contains other)) (other : Key) :
    (s'.contents other).map Entry.staged = (before.contents other).map fun e =>
      e.staged || (e.storageClass == .persisted && (keys ++ [key]).contains other) := by
  obtain ⟨-, entry, hentry, -, hcontents⟩ := hretains.wellFormed.set hset
  rw [hcontents, Function.update_apply]
  split_ifs with hother
  · have hclass := hretains.classes key
    have hbefore := hstaged key
    rw [hentry, Option.map_some] at hclass hbefore
    obtain ⟨old, hold, hclass⟩ := Option.map_eq_some_iff.mp hclass.symm
    rw [hold, Option.map_some, Option.some.injEq] at hbefore
    rw [hother, hold, Option.map_some, Option.map_some, Entry.write, hbefore, hclass]
    cases old.staged <;> cases entry.storageClass == .persisted <;> simp
  · rw [hstaged other]
    simp [hother]

theorem Noted.setAndQueue (h : Noted keys before s) (hretains : before.Retains s)
    (hok : Change.setAndQueue key value s = (.ok (), s')) : Noted (keys ++ [key]) before s' := by
  obtain ⟨written, hset, rfl⟩ := setAndQueue_eq_ok hok
  constructor
  · rw [changed_queueChanged, changed_set hset, h.changed, List.foldl_append]
    rfl
  · rw [contents_queueChanged]
    exact staged_of_set hretains hset h.staged

/-- A further write to one of the keys leaves no further traces. -/
theorem Noted.set (h : Noted keys before s) (hretains : before.Retains s) (hkey : key ∈ keys)
    (value : Bytes) : Noted keys before (Change.set key value s).2 := by
  rcases hset : Change.set key value s with ⟨e | ⟨⟩, s'⟩
  · rw [set_atomic _ _ _ _ _ hset]
    exact h
  · refine ⟨(changed_set hset).trans h.changed, fun other => ?_⟩
    have hcontains : (keys ++ [key]).contains other = keys.contains other := by
      by_cases hother : other = key
      · simp [hother, hkey]
      · simp [hother]
    rw [staged_of_set hretains hset h.staged other, hcontains]

end Store

namespace Responder

open Store (Noted)

variable {κ γ σ ω ε η : Type} {pid : UInt16} {r : Responder κ γ} {request : Request}
  {d : ParameterDefinition (HandlerName κ)}

/-! ## From device to device -/

/-- The keys of a parameter of some devices. -/
def keysOf (pid : UInt16) (devices : List UInt16) : List Key :=
  devices.map fun device => ⟨device, pid⟩

/-- Values are put back without a trace, and their traces stay. -/
theorem noted_putBackAll {keys : List Key} {before : Store η γ}
    (applied : List (UInt16 × Option ParameterData)) :
    ∀ {s : Store η γ}, before.Retains s → Noted keys before s →
      (∀ key ∈ keysOf pid (applied.map Prod.fst), key ∈ keys) →
        Noted keys before (applied.foldl (putBack pid) s) := by
  induction applied with
  | nil => exact fun _ h _ => h
  | cons p applied ih =>
    intro s hretains h hkeys
    refine ih (retains_putBack hretains pid p) ?_
      fun key hkey => hkeys key (List.mem_cons_of_mem _ hkey)
    unfold putBack
    split
    · exact h
    · exact h.set hretains (hkeys _ List.mem_cons_self) _

/-- The keys in front of the first one that does not accept the value. -/
def accepting (before : Store η γ) (request : Request) (keys : List Key) : List Key :=
  keys.takeWhile fun key => before.accepts key request.data.bytes

theorem applyEach_noted (custom : κ → Handler κ γ ω) (request : Request)
    {before : Store (HandlerName κ) γ} (hbefore : before.WellFormed)
    (devices : List (UInt16 × Option ParameterData)) :
    ∀ (applied : List (UInt16 × Option ParameterData)) (r : Responder κ γ) (w : ω),
      before.Retains r.store →
      Noted (keysOf request.pid (applied.map Prod.fst).reverse) before r.store →
      let keys := keysOf request.pid (devices.map Prod.fst)
      let front := accepting before request keys
      ∃ verdict r', applyEach (interpret custom (.builtin .simpleSet)) request devices applied r w =
          (verdict, r', w) ∧
        ((verdict = acknowledgeEmpty ∧ front = keys) ∨
          (∃ reason, verdict = .refused reason) ∧ front ≠ keys) ∧
        Noted (keysOf request.pid (applied.map Prod.fst).reverse ++ front) before r'.store := by
  induction devices with
  | nil =>
    intro applied r w _ h
    refine ⟨acknowledgeEmpty, r, rfl, .inl ⟨rfl, rfl⟩, ?_⟩
    change Noted (_ ++ []) before r.store
    rw [List.append_nil]
    exact h
  | cons p devices ih =>
    intro applied r w hretains h
    have hrun : interpret custom (.builtin .simpleSet) { request with subDevice := p.1 } r w =
      ((storeValue ⟨p.1, request.pid⟩ request.data.bytes r).1,
        (storeValue ⟨p.1, request.pid⟩ request.data.bytes r).2, w) := rfl
    have haccepts := hretains.accepts_eq hbefore ⟨p.1, request.pid⟩ request.data.bytes
    rw [Store.accepts, ← Store.fst_setAndQueue] at haccepts
    dsimp only
    rw [applyEach, hrun, storeValue, List.map_cons, keysOf, List.map_cons, ← keysOf, accepting,
      List.takeWhile_cons, ← haccepts]
    rcases hset : Store.Change.setAndQueue ⟨p.1, request.pid⟩ request.data.bytes r.store with
      ⟨e | ⟨⟩, store⟩
    · obtain rfl := Store.setAndQueue_atomic _ _ _ _ _ hset
      refine ⟨.refused e.nackReason, _, rfl, .inr ⟨⟨_, rfl⟩, (List.cons_ne_nil _ _).symm⟩, ?_⟩
      change Noted (_ ++ []) before _
      rw [List.append_nil]
      refine noted_putBackAll applied hretains h fun key hkey => ?_
      rw [keysOf, List.map_reverse, List.mem_reverse]
      exact hkey
    · have hused := Store.Used.refl.setAndQueue (s := r.store) ⟨p.1, request.pid⟩ request.data.bytes
      rw [hset] at hused
      have hnoted := h.setAndQueue hretains hset
      have hkeys : keysOf request.pid (applied.map Prod.fst).reverse ++ [⟨p.1, request.pid⟩] =
          keysOf request.pid ((p :: applied).map Prod.fst).reverse := by
        rw [List.map_cons, List.reverse_cons, keysOf, keysOf, List.map_append, List.map_singleton]
      rw [hkeys] at hnoted
      obtain ⟨verdict, r', hrest, hverdict, hnoted'⟩ := ih (p :: applied)
        { r with store := store } w (hretains.trans (hused.retains hretains.wellFormed)) hnoted
      refine ⟨verdict, r', hrest, ?_, ?_⟩
      · exact hverdict.imp (.imp_right (congrArg (_ :: ·)))
          (.imp_right fun hne heq => hne (List.cons_inj_right _ |>.mp heq))
      · rw [← hkeys, List.append_assoc] at hnoted'
        exact hnoted'

theorem holders_ne_nil (store : Store η γ) (pid : UInt16) : holders store pid ≠ [] := by
  unfold holders
  split
  · exact nofun
  next hne => exact hne

/-- A request to store a value on all devices that have its parameter leaves its traces for all
devices in front of the first one that does not accept it: their keys are queued in order, as far as
they did not wait already, and their persisted values are staged. If it is refused, the traces are
all that is left of it. -/
theorem setAll_bookkeeping {kv : KeyValueStorage σ} (hreach : Reachable kv r)
    (h : SetsAll request r d (.builtin .simpleSet)) (custom : κ → Handler κ γ ω)
    (fallback : Fallback κ γ ω ε) (w : ω) :
    let keys := keysOf request.pid (holders r.store request.pid)
    let front := if admits d request r then accepting r.store request keys else []
    ∃ verdict r', handle custom fallback request r w = (conclude request r' verdict, r', w) ∧
      ((verdict = acknowledgeEmpty ∧ front = keys) ∨
        (∃ reason, verdict = .refused reason) ∧ front ≠ keys) ∧
      r'.store.changed = front.foldl Store.enqueue r.store.changed ∧
      ∀ key, (r'.store.contents key).map Entry.staged = (r.store.contents key).map fun e =>
        e.staged || (e.storageClass == .persisted && front.contains key) := by
  dsimp only
  have hstore := hreach.wellFormed
  cases hadmits : admits d request r with
  | false =>
    obtain ⟨reason, hhandle⟩ := h.handle_of_not_admits hadmits custom fallback w
    refine ⟨.refused reason, r, hhandle, .inr ⟨⟨reason, rfl⟩, fun hnil => ?_⟩, rfl,
      (Noted.refl r.store).staged⟩
    exact holders_ne_nil _ _ (List.map_eq_nil_iff.mp hnil.symm)
  | true =>
    obtain ⟨captured, hdevices, -, hhandle⟩ := h.handle_of_admits hadmits custom fallback w
    obtain ⟨verdict, r', hrun, hverdict, hnoted⟩ :=
      applyEach_noted custom request hstore captured [] r w (.refl hstore) (.refl r.store)
    rw [hdevices] at hverdict hnoted
    exact ⟨verdict, r', hhandle hrun, hverdict, hnoted.changed, hnoted.staged⟩

/-! ## A label that never changes -/

/-- The controller wants to know whether all labels were replaced. -/
def setAllLabels : Request :=
  { exampleSetAll with destination := .device exampleConfig.uid }

theorem setsAll_exampleDevice : SetsAll setAllLabels (exampleDevice exampleOperations)
    labelDefinition (.builtin .simpleSet) where
  commandClass := rfl
  subDevice := rfl
  targets := by cbv
  definition := by cbv
  handler := rfl

theorem setAll_bookkeeping_exampleDevice :
    let r := exampleDevice exampleOperations
    ∃ verdict r', handle Empty.elim (noFallback : Fallback Empty Empty Unit Empty) setAllLabels r
        () = (conclude setAllLabels r' verdict, r', ()) ∧
      (∃ reason, verdict = .refused reason) ∧
      r'.store.changed = [⟨0, Pid.deviceLabel⟩, ⟨1, Pid.deviceLabel⟩] := by
  obtain ⟨verdict, r', hhandle, hverdict, hchanged, -⟩ :=
    setAll_bookkeeping (exampleDevice_reachable exampleOperations) setsAll_exampleDevice Empty.elim
      (noFallback : Fallback Empty Empty Unit Empty) ()
  -- the second sub-device does not accept another label
  have hfront : (if admits labelDefinition setAllLabels (exampleDevice exampleOperations) then
      accepting (exampleDevice exampleOperations).store setAllLabels (keysOf Pid.deviceLabel
        (holders (exampleDevice exampleOperations).store Pid.deviceLabel)) else []) =
      [⟨0, Pid.deviceLabel⟩, ⟨1, Pid.deviceLabel⟩] := by
    decide +kernel
  rw [show setAllLabels.pid = Pid.deviceLabel from rfl, hfront] at hverdict hchanged
  refine ⟨verdict, r', hhandle, ?_, ?_⟩
  · rcases hverdict with ⟨-, hkeys⟩ | ⟨hrefused, -⟩
    · exact absurd hkeys (by decide +kernel)
    · exact hrefused
  · rw [hchanged]
    decide +kernel

/-- The labels could not be replaced. -/
def labelsRefusal : Response :=
  setAllLabels.respondAs exampleConfig.uid .nack (wordData NackReason.writeProtect.code) 2

/-- The request is refused; two changes wait that did not wait before, and a value is staged that
was not staged. -/
theorem refusal_leaves_traces :
    let r := exampleDevice exampleOperations
    let outcome := handle Empty.elim (noFallback : Fallback Empty Empty Unit Empty) setAllLabels r ()
    Reachable forgetful r ∧ SetsAll setAllLabels r labelDefinition (.builtin .simpleSet) ∧
    outcome.1 = .answered (.response labelsRefusal) ∧ labelsRefusal.type = .nack ∧
    r.store.changed = [] ∧
    outcome.2.1.store.changed = [⟨0, Pid.deviceLabel⟩, ⟨1, Pid.deviceLabel⟩] ∧
    r.store.stagedCount = 0 ∧ outcome.2.1.store.stagedCount = 1 := by
  refine ⟨exampleDevice_reachable exampleOperations, setsAll_exampleDevice, ?_, rfl, ?_, ?_, ?_, ?_⟩
  · cbv
  all_goals decide +kernel

end Responder

end LightingBus
