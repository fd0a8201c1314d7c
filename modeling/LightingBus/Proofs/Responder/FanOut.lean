import LightingBus.Proofs.Responder.Reachable

/-!
# Requests to all sub-devices

`setAll_all_or_nothing`: a request to store a value on every device that has the parameter changes
the values of all of them or no value at all.

1. `Drifted` compares the store during the request with the one before it: values of some devices
   may differ, all else that a write looks at does not.
2. A write to a device makes it one of the differing ones (`Drifted.set`). Putting its old value
   back takes it out again (`Drifted.putBack`); the old value passes the check of the definition
   since it was stored before.
3. `applyEach_simpleSet` follows the request from device to device.
-/

namespace LightingBus

namespace Responder

open Store (entryOf)

variable {κ γ σ ω ε η : Type} {pid : UInt16}

/-! ## Values during a request -/

/-- The store after values of one parameter were written on some devices. -/
structure Drifted (pid : UInt16) (devices : List UInt16) (before s : Store η γ) : Prop where
  wellFormed : s.WellFormed
  definitions : s.definitions = before.definitions
  classes : ∀ key, (s.contents key).map Entry.storageClass =
    (before.contents key).map Entry.storageClass
  values : ∀ key : Key, (key.pid = pid → key.subDevice ∉ devices) →
    (s.contents key).map Entry.value = (before.contents key).map Entry.value

/-- The device had a value that was captured and can be written again. -/
def Restorable (pid : UInt16) (before : Store η γ) (p : UInt16 × Option ParameterData) : Prop :=
  ∃ data entry, p.2 = some data ∧ before.contents ⟨p.1, pid⟩ = some entry ∧
    entry.value = data.bytes ∧ entry.storageClass ≠ .static

/-- What was captured is the value of the device. -/
def Captured (pid : UInt16) (before : Store η γ) (p : UInt16 × Option ParameterData) : Prop :=
  (before.contents ⟨p.1, pid⟩).map Entry.value = p.2.map ParameterData.bytes

variable {before s s' : Store η γ} {devices : List UInt16} {device : UInt16} {value : Bytes}
variable {p : UInt16 × Option ParameterData}

theorem Drifted.refl (h : s.WellFormed) : Drifted pid [] s s where
  wellFormed := h
  definitions := rfl
  classes _ := rfl
  values _ _ := rfl

/-- A value that is written makes its device one of those that differ. -/
theorem Drifted.set (h : Drifted pid devices before s)
    (hok : Store.Change.setAndQueue ⟨device, pid⟩ value s = (.ok (), s')) :
    Drifted pid (device :: devices) before s' ∧ s'.get ⟨device, pid⟩ = .ok value ∧
      ∃ entry, before.contents ⟨device, pid⟩ = some entry ∧ entry.storageClass ≠ .static := by
  obtain ⟨hkept, entry, hentry, hclass, hcontents⟩ := h.wellFormed.setAndQueue hok
  refine ⟨⟨hkept, ?_, fun key => ?_, fun key hkey => ?_⟩, ?_, ?_⟩
  · rw [Store.definitions_setAndQueue hok, h.definitions]
  · rw [hcontents, Store.map_storageClass_update hentry, h.classes]
  · have hne : key ≠ ⟨device, pid⟩ := by
      rintro rfl
      exact hkey rfl List.mem_cons_self
    rw [hcontents, Function.update_of_ne hne]
    exact h.values key fun hpid hmem => hkey hpid (List.mem_cons_of_mem _ hmem)
  · rw [Store.get_eq, hcontents, Function.update_self]
    rfl
  · have hsame := h.classes ⟨device, pid⟩
    rw [hentry, Option.map_some, eq_comm, Option.map_eq_some_iff] at hsame
    obtain ⟨old, hold, hsame⟩ := hsame
    exact ⟨old, hold, hsame ▸ hclass⟩

/-- A value that was stored before the request is allowed by the definition, so that it can be
written again. -/
theorem Drifted.putBack (h : Drifted pid (p.1 :: devices) before s) (hbefore : before.WellFormed)
    (hp : Restorable pid before p) : Drifted pid devices before (putBack pid s p) := by
  obtain ⟨data, entry, hdata, hentry, hvalue, hclass⟩ := hp
  obtain ⟨s', hset⟩ := Store.set_back h.wellFormed h.definitions (h.classes _) hbefore hentry hclass
  rw [hvalue] at hset
  obtain ⟨hkept, present, hpresent, -, hcontents⟩ := h.wellFormed.set hset
  have hput : Responder.putBack pid s p = s' := by
    rw [Responder.putBack, hdata]
    dsimp only
    rw [hset]
  rw [hput]
  refine ⟨hkept, ?_, fun key => ?_, fun key hkey => ?_⟩
  · rw [Store.definitions_set hset, h.definitions]
  · rw [hcontents, Store.map_storageClass_update hpresent, h.classes]
  · rw [hcontents, Function.update_apply]
    split_ifs with hother
    · rw [hother, hentry, Option.map_some, Option.map_some, hvalue]
      rfl
    · refine h.values key fun hpid hmem => ?_
      rcases List.mem_cons.mp hmem with hdevice | hmem
      · exact hother (by rw [← hpid, ← hdevice])
      · exact hkey hpid hmem

/-- With all values put back, none differs. -/
theorem Drifted.putBackAll (hbefore : before.WellFormed)
    (applied : List (UInt16 × Option ParameterData)) :
    ∀ {s : Store η γ}, Drifted pid (applied.map Prod.fst) before s →
      (∀ p ∈ applied, Restorable pid before p) →
        Drifted pid [] before (applied.foldl (Responder.putBack pid) s) := by
  induction applied with
  | nil => exact fun h _ => h
  | cons p applied ih =>
    intro s h happlied
    exact ih (h.putBack hbefore (happlied p List.mem_cons_self))
      fun p' hp' => happlied p' (List.mem_cons_of_mem _ hp')

theorem Drifted.get_eq (h : Drifted pid devices before s) {key : Key}
    (hkey : key.pid = pid → key.subDevice ∉ devices) : s.get key = before.get key := by
  rw [Store.get_eq, Store.get_eq, h.values key hkey]

/-! ## From device to device -/

/-- The parameter data of a request was written on some devices, one after the other. -/
structure Written (request : Request) (before : Store η γ)
    (applied : List (UInt16 × Option ParameterData)) (s : Store η γ) : Prop where
  drifted : Drifted request.pid (applied.map Prod.fst) before s
  restorable : ∀ p ∈ applied, Restorable request.pid before p
  stored : ∀ p ∈ applied, s.get ⟨p.1, request.pid⟩ = .ok request.data.bytes

theorem Written.cons {request : Request} {applied : List (UInt16 × Option ParameterData)}
    (h : Written request before applied s) (hp : Captured request.pid before p)
    (hok : Store.Change.setAndQueue ⟨p.1, request.pid⟩ request.data.bytes s = (.ok (), s')) :
    Written request before (p :: applied) s' := by
  obtain ⟨hdrifted, hstored, entry, hentry, hclass⟩ := h.drifted.set hok
  refine ⟨hdrifted, fun p' hp' => ?_, fun p' hp' => ?_⟩
  · rcases List.mem_cons.mp hp' with rfl | hp'
    · rw [Captured, hentry, Option.map_some, eq_comm, Option.map_eq_some_iff] at hp
      obtain ⟨data, hdata, hvalue⟩ := hp
      exact ⟨data, entry, hdata, hentry, hvalue.symm, hclass⟩
    · exact h.restorable p' hp'
  · rcases List.mem_cons.mp hp' with rfl | hp'
    · exact hstored
    · obtain ⟨-, present, -, -, hcontents⟩ := h.drifted.wellFormed.setAndQueue hok
      have hold := h.stored p' hp'
      rw [Store.get_eq] at hold ⊢
      rw [hcontents, Function.update_apply]
      split_ifs
      · rfl
      · exact hold

/-- The request is either carried out on all devices, or refused by one of them and taken back on
those before it. -/
theorem applyEach_simpleSet (custom : κ → Handler κ γ ω) (request : Request)
    {before : Store (HandlerName κ) γ} (hbefore : before.WellFormed)
    (devices : List (UInt16 × Option ParameterData)) :
    ∀ (applied : List (UInt16 × Option ParameterData)) (r : Responder κ γ) (w : ω),
      Written request before applied r.store →
      (∀ p ∈ devices, Captured request.pid before p) →
      ∃ verdict r', applyEach (interpret custom (.builtin .simpleSet)) request devices applied r w =
          (verdict, r', w) ∧
        ((verdict = acknowledgeEmpty ∧
          Written request before (devices.reverse ++ applied) r'.store) ∨
        ∃ reason, verdict = .refused reason ∧ Drifted request.pid [] before r'.store) := by
  induction devices with
  | nil =>
    intro applied r w h _
    exact ⟨acknowledgeEmpty, r, rfl, .inl ⟨rfl, h⟩⟩
  | cons p devices ih =>
    intro applied r w h hcaptured
    have hrun : interpret custom (.builtin .simpleSet) { request with subDevice := p.1 } r w =
      ((storeValue ⟨p.1, request.pid⟩ request.data.bytes r).1,
        (storeValue ⟨p.1, request.pid⟩ request.data.bytes r).2, w) := rfl
    rw [applyEach, hrun, storeValue]
    rcases hset : Store.Change.setAndQueue ⟨p.1, request.pid⟩ request.data.bytes r.store with
      ⟨e | ⟨⟩, store⟩
    · -- the refusal itself changes nothing
      obtain rfl := Store.setAndQueue_atomic _ _ _ _ _ hset
      exact ⟨.refused e.nackReason, _, rfl, .inr ⟨e.nackReason, rfl,
        Drifted.putBackAll hbefore applied h.drifted h.restorable⟩⟩
    · have hwritten := h.cons (hcaptured p List.mem_cons_self) hset
      obtain ⟨verdict, r', hrest, hresult⟩ := ih (p :: applied) { r with store := store } w hwritten
        fun p' hp' => hcaptured p' (List.mem_cons_of_mem _ hp')
      refine ⟨verdict, r', hrest, ?_⟩
      rw [List.reverse_cons, List.append_assoc]
      exact hresult

/-! ## All devices -/

/-- Every device that has the parameter is among those a request is applied to. -/
theorem mem_holders (h : s.WellFormed) (hinstance : s.hasInstance ⟨device, pid⟩ = true) :
    device ∈ holders s pid := by
  have hfilter : device ∈ s.devices.filter fun device => s.hasInstance ⟨device, pid⟩ := by
    refine List.mem_filter.mpr ⟨?_, hinstance⟩
    rw [Store.hasInstance_eq h, Store.contents, Option.isSome_map, Option.isSome_iff_exists]
      at hinstance
    obtain ⟨i, hi⟩ := hinstance
    obtain ⟨hmem, hkey⟩ := (Store.find?_eq_some_iff h).mp hi
    have hlisted := h.listed i hmem
    rw [hkey] at hlisted
    exact hlisted
  unfold holders
  split
  next hnil =>
    rw [hnil] at hfilter
    cases hfilter
  next => exact hfilter

theorem captured_of_previousValues? (devices : List UInt16) :
    ∀ {captured : List (UInt16 × Option ParameterData)},
      previousValues? s pid devices = some captured →
        captured.map Prod.fst = devices ∧ ∀ p ∈ captured, Captured pid s p := by
  induction devices with
  | nil =>
    intro captured h
    cases h
    exact ⟨rfl, fun p hp => by cases hp⟩
  | cons device devices ih =>
    intro captured h
    have cons_captured {previous : Option ParameterData}
        (hprevious : Captured pid s (device, previous))
        (h : (previousValues? s pid devices).map ((device, previous) :: ·) = some captured) :
        captured.map Prod.fst = device :: devices ∧ ∀ p ∈ captured, Captured pid s p := by
      obtain ⟨rest, hrest, rfl⟩ := Option.map_eq_some_iff.mp h
      obtain ⟨hdevices, hall⟩ := ih hrest
      refine ⟨by rw [List.map_cons, hdevices], fun p hp => ?_⟩
      rcases List.mem_cons.mp hp with rfl | hp
      · exact hprevious
      · exact hall p hp
    rw [previousValues?, Store.get_eq] at h
    cases hvalue : (s.contents ⟨device, pid⟩).map Entry.value with
    | none =>
      rw [hvalue] at h
      have hprevious : Captured pid s (device, none) := hvalue
      exact cons_captured hprevious h
    | some value =>
      rw [hvalue] at h
      dsimp only [Option.elim_some] at h
      split at h
      next => cases h
      next data hdata =>
        refine cons_captured ?_ h
        rw [Captured, hvalue, Option.map_some, ParameterData.bytes_of_ofBytes? hdata]

/-- The devices that a request was applied to have its value, and all other values are those of
before. -/
theorem Written.everywhere {request : Request} {applied : List (UInt16 × Option ParameterData)}
    (h : Written request before applied s) (hbefore : before.WellFormed)
    (hdevices : ∀ device ∈ holders before request.pid, device ∈ applied.map Prod.fst) :
    (∀ device, before.hasInstance ⟨device, request.pid⟩ = true →
      s.get ⟨device, request.pid⟩ = .ok request.data.bytes) ∧
    ∀ key : Key, (key.pid = request.pid → before.hasInstance key = false) →
      s.get key = before.get key := by
  refine ⟨fun device hinstance => ?_, fun key hkey => h.drifted.get_eq fun hpid hmem => ?_⟩
  · obtain ⟨p, hp, rfl⟩ := List.mem_map.mp (hdevices device (mem_holders hbefore hinstance))
    exact h.stored p hp
  · obtain ⟨p, hp, hdevice⟩ := List.mem_map.mp hmem
    obtain ⟨data, entry, -, hentry, -, -⟩ := h.restorable p hp
    have hnone := hkey hpid
    rw [Store.hasInstance_eq hbefore] at hnone
    rw [hdevice, ← hpid] at hentry
    rw [hentry] at hnone
    cases hnone

theorem handle_of_dispatch {r r' : Responder κ γ} {request : Request} {custom : κ → Handler κ γ ω}
    {fallback : Fallback κ γ ω ε} {w w' : ω} {d : ParameterDefinition (HandlerName κ)}
    {verdict : Verdict} (hheard : r.ignores request = false)
    (hd : r.store.definition? request.pid = some d)
    (hdispatch : dispatch custom d request r w = (verdict, r', w')) :
    handle custom fallback request r w = (conclude request r' verdict, r', w') := by
  rw [handle, hheard, if_neg Bool.false_ne_true, hd]
  dsimp only
  rw [hdispatch]

theorem dispatch_setAll {request : Request} (hcommand : request.commandClass = .set)
    (hall : request.subDevice = SubDevice.every) {d : ParameterDefinition (HandlerName κ)}
    {name : HandlerName κ} (hset : d.handlers.forCommand? .set = some name)
    (custom : κ → Handler κ γ ω) (r : Responder κ γ) (w : ω) :
    dispatch custom d request r w = (refusal? d.setFormat request.data.bytes).elim
      (applyToAll (interpret custom name) request r w) fun reason => (.refused reason, r, w) := by
  rw [dispatch, hcommand, hset]
  dsimp only [ParameterDefinition.format?]
  rw [if_pos hall]
  cases refusal? d.setFormat request.data.bytes <;> rfl

theorem applyToAll_set {request : Request} (hcommand : request.commandClass = .set)
    (handler : Handler κ γ ω) (r : Responder κ γ) (w : ω) :
    applyToAll handler request r w =
      (previousValues? r.store request.pid (holders r.store request.pid)).elim
        (.refused .hardwareFault, r, w)
        fun devices => applyEach handler request devices [] r w := by
  rw [applyToAll, if_neg (not_not.mpr hcommand)]
  cases previousValues? r.store request.pid (holders r.store request.pid) <;> rfl

/-- A request to store a value on all devices that have its parameter is all or nothing: either it
is acknowledged, all of these devices have the value and no other value has changed, or it is
refused and no value has changed. -/
theorem setAll_all_or_nothing {kv : KeyValueStorage σ} {r : Responder κ γ} (hreach : Reachable kv r)
    {request : Request} (hcommand : request.commandClass = .set)
    (hall : request.subDevice = SubDevice.every)
    (htargets : request.destination.targets r.uid = true)
    (hhandler : (r.store.definition? request.pid).bind (fun d => d.handlers.forCommand? .set) =
      some (.builtin .simpleSet))
    (custom : κ → Handler κ γ ω) (fallback : Fallback κ γ ω ε) (w : ω) :
    ∃ verdict r', handle custom fallback request r w = (conclude request r' verdict, r', w) ∧
      ((verdict = acknowledgeEmpty ∧
        (∀ device, r.store.hasInstance ⟨device, request.pid⟩ = true →
          r'.store.get ⟨device, request.pid⟩ = .ok request.data.bytes) ∧
        ∀ key : Key, (key.pid = request.pid → r.store.hasInstance key = false) →
          r'.store.get key = r.store.get key) ∨
      ∃ reason, verdict = .refused reason ∧
        ∀ key, r'.store.get key = r.store.get key) := by
  have hstore := hreach.wellFormed
  obtain ⟨d, hd, hset⟩ := Option.bind_eq_some_iff.mp hhandler
  have hheard : r.ignores request = false := by
    rw [ignores, htargets, hcommand]
    rfl
  have hdispatch := dispatch_setAll hcommand hall hset custom r w
  cases hrefusal : refusal? d.setFormat request.data.bytes with
  | some reason =>
    rw [hrefusal] at hdispatch
    exact ⟨.refused reason, r, handle_of_dispatch hheard hd hdispatch,
      .inr ⟨reason, rfl, fun _ => rfl⟩⟩
  | none =>
    rw [hrefusal, Option.elim_none, applyToAll_set hcommand] at hdispatch
    cases hprevious : previousValues? r.store request.pid (holders r.store request.pid) with
    | none =>
      rw [hprevious] at hdispatch
      exact ⟨.refused .hardwareFault, r, handle_of_dispatch hheard hd hdispatch,
        .inr ⟨_, rfl, fun _ => rfl⟩⟩
    | some captured =>
      rw [hprevious, Option.elim_some] at hdispatch
      obtain ⟨hdevices, hcaptured⟩ := captured_of_previousValues? _ hprevious
      have hstart : Written request r.store [] r.store :=
        ⟨.refl hstore, fun _ hp => absurd hp List.not_mem_nil,
          fun _ hp => absurd hp List.not_mem_nil⟩
      obtain ⟨verdict, r', hrun, hresult⟩ :=
        applyEach_simpleSet custom request hstore captured [] r w hstart hcaptured
      rw [List.append_nil] at hresult
      refine ⟨verdict, r', handle_of_dispatch hheard hd (hdispatch.trans hrun),
        hresult.imp ?_ ?_⟩
      · rintro ⟨hverdict, hwritten⟩
        refine ⟨hverdict, hwritten.everywhere hstore fun device hdevice => ?_⟩
        rw [List.map_reverse, List.mem_reverse, hdevices]
        exact hdevice
      · rintro ⟨reason, hverdict, hdrifted⟩
        exact ⟨reason, hverdict, fun key => hdrifted.get_eq fun _ => List.not_mem_nil⟩

/-! ## A device with three labels -/

/-- A device without handlers of its own. -/
def exampleConfig : ResponderConfig where
  uid := ⟨0x7FF0, 0xD1, by decide⟩
  model := 1
  category := 1
  version := 1
  versionLabel := ""
  personalities := [⟨4, ""⟩]
  initialPersonality := 1
  initialStartAddress := 1
  initialLabel := ""
  dynamicCapacity := 128

/-- A permanent storage that keeps nothing. -/
def forgetful : KeyValueStorage Unit where
  get _ k := (.ok none, k)
  set _ _ k := (.ok (), k)

/-- Two sub-devices, the second one with a label that never changes. -/
def exampleOperations : List (Store.Operation (HandlerName Empty) Empty Unit) :=
  [.addSubDevice 1, .addSubDevice 2,
    .addInstance ⟨1, Pid.deviceLabel⟩ .dynamic [0x6F, 0x6E, 0x65],
    .addInstance ⟨2, Pid.deviceLabel⟩ .static [0x66, 0x69, 0x78]]

/-- The label of every device is to be replaced. -/
def exampleSetAll : Request where
  destination := .broadcast
  source := ⟨0x7FF0, 0xC0, by decide⟩
  transaction := 0
  port := 1
  messageCount := 0
  subDevice := SubDevice.every
  commandClass := .set
  pid := Pid.deviceLabel
  data := ⟨[0x61, 0x6C, 0x6C], by decide⟩

theorem exists_exampleDevice :
    (create exampleConfig ⟨16, 4, 8, 128⟩ :
      Except ParameterError (Responder Empty Empty)).toOption.isSome = true := by
  decide +kernel

/-- The device after operations on its store. -/
def exampleDevice (ops : List (Store.Operation (HandlerName Empty) Empty Unit)) :
    Responder Empty Empty :=
  let r := (create exampleConfig ⟨16, 4, 8, 128⟩).toOption.get exists_exampleDevice
  { r with store := Store.runAll forgetful ops r.store }

theorem eq_ok_get {α : Type} {x : Except ε α} (h : x.toOption.isSome = true) :
    x = .ok (x.toOption.get h) := by
  cases x with
  | error e => cases h
  | ok a => rfl

theorem exampleDevice_reachable (ops : List (Store.Operation (HandlerName Empty) Empty Unit)) :
    Reachable forgetful (exampleDevice ops) :=
  (Reachable.create (eq_ok_get exists_exampleDevice)).runAll ops

theorem exists_deviceOf (κ γ : Type) :
    (create exampleConfig ⟨16, 4, 8, 128⟩ :
      Except ParameterError (Responder κ γ)).toOption.isSome = true := by
  cbv

/-- The same device with handlers of its own and listeners. -/
def deviceOf (ops : List (Store.Operation (HandlerName κ) γ Unit)) : Responder κ γ :=
  let r := (create exampleConfig ⟨16, 4, 8, 128⟩).toOption.get (exists_deviceOf κ γ)
  { r with store := Store.runAll forgetful ops r.store }

theorem deviceOf_reachable (ops : List (Store.Operation (HandlerName κ) γ Unit)) :
    Reachable forgetful (deviceOf ops) :=
  (Reachable.create (eq_ok_get (exists_deviceOf κ γ))).runAll ops

theorem setAll_exampleDevice :
    let r := exampleDevice exampleOperations
    ∃ verdict r', handle Empty.elim (noFallback : Fallback Empty Empty Unit Empty) exampleSetAll r
        () = (conclude exampleSetAll r' verdict, r', ()) ∧
      ((verdict = acknowledgeEmpty ∧
        (∀ device, r.store.hasInstance ⟨device, Pid.deviceLabel⟩ = true →
          r'.store.get ⟨device, Pid.deviceLabel⟩ = .ok [0x61, 0x6C, 0x6C]) ∧
        ∀ key : Key, (key.pid = Pid.deviceLabel → r.store.hasInstance key = false) →
          r'.store.get key = r.store.get key) ∨
      ∃ reason, verdict = .refused reason ∧ ∀ key, r'.store.get key = r.store.get key) :=
  setAll_all_or_nothing (exampleDevice_reachable exampleOperations) rfl rfl rfl (by decide +kernel)
    Empty.elim noFallback ()

/-- Without the constant label the request reaches all labels. -/
example : (applyToAll (interpret Empty.elim (.builtin .simpleSet)) exampleSetAll
    (exampleDevice (exampleOperations.take 3)) ()).2.1.store.get ⟨1, Pid.deviceLabel⟩ =
      .ok [0x61, 0x6C, 0x6C] := by
  decide +kernel

/-- The constant label refuses the request, so that the dynamic one stays. -/
example : (applyToAll (interpret Empty.elim (.builtin .simpleSet)) exampleSetAll
    (exampleDevice exampleOperations) ()).2.1.store.get ⟨1, Pid.deviceLabel⟩ =
      .ok [0x6F, 0x6E, 0x65] := by
  decide +kernel

end Responder

end LightingBus
