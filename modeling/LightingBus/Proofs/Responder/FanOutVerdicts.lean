import LightingBus.Proofs.Responder.FanOut

/-!
# Answers to requests to all sub-devices

`setAll_verdict`: a request to set a parameter on all sub-devices is acknowledged exactly if the
handler is done with it on every device, whatever its result is, and refused exactly if the handler
returns a reason on some device.

1. `trial` is what the handler makes of the request on one device after the other.
2. A handler cannot take away parameters or replace constants (`Mannerly`), so that old values can
   be written again (`get_putBack`).
3. `applyEach_settles` and `get_of_applyEach_refused` follow the request from device to device.
-/

namespace LightingBus

namespace Responder

variable {κ γ σ ω ε η : Type} {pid : UInt16} {before s : Store η γ} {key : Key}
  {r r' : Responder κ γ} {request : Request} {d : ParameterDefinition (HandlerName κ)}
  {name : HandlerName κ} {handler : Handler κ γ ω} {p : UInt16 × Option ParameterData}

/-! ## The request -/

/-- A request to set a parameter on all sub-devices, which is up to a handler. -/
structure SetsAll (request : Request) (r : Responder κ γ) (d : ParameterDefinition (HandlerName κ))
    (name : HandlerName κ) : Prop where
  commandClass : request.commandClass = .set
  subDevice : request.subDevice = SubDevice.every
  targets : request.destination.targets r.uid = true
  definition : r.store.definition? request.pid = some d
  handler : d.handlers.forCommand? .set = some name

/-- The parameter data has its format, and all present values could be put back. -/
def admits (d : ParameterDefinition (HandlerName κ)) (request : Request) (r : Responder κ γ) :
    Bool :=
  (refusal? d.setFormat request.data.bytes).isNone &&
    (previousValues? r.store request.pid (holders r.store request.pid)).isSome

theorem SetsAll.heard (h : SetsAll request r d name) : r.ignores request = false := by
  rw [ignores, h.targets, h.commandClass]
  rfl

/-- A request that is not admitted is refused before any device is asked. -/
theorem SetsAll.handle_of_not_admits (h : SetsAll request r d name)
    (hadmits : admits d request r = false) (custom : κ → Handler κ γ ω)
    (fallback : Fallback κ γ ω ε) (w : ω) :
    ∃ reason, handle custom fallback request r w =
      (conclude request r (.refused reason), r, w) := by
  have hdispatch := dispatch_setAll h.commandClass h.subDevice h.handler custom r w
  cases hrefusal : refusal? d.setFormat request.data.bytes with
  | some reason =>
    rw [hrefusal] at hdispatch
    exact ⟨reason, handle_of_dispatch h.heard h.definition hdispatch⟩
  | none =>
    rw [admits, hrefusal, Option.isNone_none, Bool.true_and, Option.isSome_eq_false_iff,
      Option.isNone_iff_eq_none] at hadmits
    rw [hrefusal, Option.elim_none, applyToAll_set h.commandClass, hadmits] at hdispatch
    exact ⟨.hardwareFault, handle_of_dispatch h.heard h.definition hdispatch⟩

/-- A request that is admitted is applied to the devices that have the parameter. -/
theorem SetsAll.handle_of_admits (h : SetsAll request r d name)
    (hadmits : admits d request r = true) (custom : κ → Handler κ γ ω)
    (fallback : Fallback κ γ ω ε) (w : ω) :
    ∃ captured, captured.map Prod.fst = holders r.store request.pid ∧
      (∀ p ∈ captured, Captured request.pid r.store p) ∧
      ∀ {verdict r' w'}, applyEach (interpret custom name) request captured [] r w =
          (verdict, r', w') →
        handle custom fallback request r w = (conclude request r' verdict, r', w') := by
  have hdispatch := dispatch_setAll h.commandClass h.subDevice h.handler custom r w
  rw [admits, Bool.and_eq_true, Option.isNone_iff_eq_none, Option.isSome_iff_exists] at hadmits
  obtain ⟨hrefusal, captured, hprevious⟩ := hadmits
  obtain ⟨hdevices, hcaptured⟩ := captured_of_previousValues? _ hprevious
  rw [hrefusal, Option.elim_none, applyToAll_set h.commandClass, hprevious,
    Option.elim_some] at hdispatch
  exact ⟨captured, hdevices, hcaptured, fun hrun =>
    handle_of_dispatch h.heard h.definition (hdispatch.trans hrun)⟩

/-! ## Handlers -/

/-- The handler has not refused the request, nor broken a promise. It may still tell the controller
that the request is not carried out. -/
def isDone : Verdict → Bool
  | .done _ => true
  | _ => false

/-- What a handler makes of a request on one device after the other, up to the first device where
it is not done. -/
def trial (handler : Handler κ γ ω) (request : Request) :
    List UInt16 → Responder κ γ → ω → List (UInt16 × Verdict)
  | [], _, _ => []
  | device :: rest, r, w =>
    match handler { request with subDevice := device } r w with
    | (.done result, r, w) => (device, .done result) :: trial handler request rest r w
    | (verdict, _, _) => [(device, verdict)]

/-- A handler that changes values at most, and no constants. -/
def Mannerly (handler : Handler κ γ ω) : Prop :=
  ∀ request (r : Responder κ γ) w, r.store.WellFormed →
    r.store.Retains (handler request r w).2.1.store

/-- Built-in handlers are mannerly. -/
theorem mannerly_interpret {custom : κ → Handler κ γ ω}
    (hcustom : ∀ other, name = .custom other → Mannerly (custom other)) :
    Mannerly (interpret custom name) := by
  cases name with
  | builtin handler => exact fun request r w h => (used_run handler request r).retains h
  | custom name => exact hcustom name rfl

/-! ## Putting values back -/

theorem retains_putBack (h : before.Retains s) (pid : UInt16)
    (p : UInt16 × Option ParameterData) : before.Retains (putBack pid s p) := by
  unfold putBack
  split
  · exact h
  · exact h.set _ _

/-- A value that is put back is the one that was captured, and no value that is already the old one
becomes another one. -/
theorem get_putBack (hbefore : before.WellFormed) (h : before.Retains s)
    (hp : Captured pid before p) (hkey : s.get key = before.get key ∨ key = ⟨p.1, pid⟩) :
    (putBack pid s p).get key = before.get key := by
  obtain ⟨device, previous⟩ := p
  have hclass := h.classes ⟨device, pid⟩
  cases previous with
  | none =>
    -- there was no value and there is none
    rw [Captured, Option.map_none, Option.map_eq_none_iff] at hp
    rw [hp, Option.map_none, Option.map_eq_none_iff] at hclass
    rcases hkey with hsame | rfl
    · exact hsame
    · change s.get _ = _
      rw [Store.get_eq, Store.get_eq, hp, hclass]
  | some data =>
    rw [Captured, Option.map_some, Option.map_eq_some_iff] at hp
    obtain ⟨entry, hentry, hvalue⟩ := hp
    have hold : before.get ⟨device, pid⟩ = .ok data.bytes := by
      rw [Store.get_eq, hentry, ← hvalue]
      rfl
    change (Store.Change.set ⟨device, pid⟩ data.bytes s).2.get key = _
    rcases hset : Store.Change.set ⟨device, pid⟩ data.bytes s with ⟨e | ⟨⟩, s'⟩
    · -- only a constant is refused, and it is the one that it was
      rw [Store.set_atomic _ _ _ _ _ hset]
      rcases hkey with hsame | rfl
      · exact hsame
      · refine h.constants _ ?_
        rw [hentry, Option.map_some]
        by_contra hstatic
        obtain ⟨s'', hback⟩ := Store.set_back h.wellFormed h.definitions (h.classes _) hbefore hentry
          fun heq => hstatic (congrArg some heq)
        rw [hvalue, hset] at hback
        cases hback
    · rw [Store.get_of_set h.wellFormed hset]
      by_cases hdevice : (⟨device, pid⟩ : Key) = key
      · rw [if_pos hdevice, ← hdevice, hold]
      · rw [if_neg hdevice]
        exact hkey.resolve_right (Ne.symm hdevice)

/-- With all values put back, the devices have the values that were captured. -/
theorem get_putBackAll (hbefore : before.WellFormed)
    (applied : List (UInt16 × Option ParameterData)) :
    ∀ {s : Store η γ}, before.Retains s → (∀ p ∈ applied, Captured pid before p) →
      (s.get key = before.get key ∨ ∃ p ∈ applied, key = ⟨p.1, pid⟩) →
        (applied.foldl (putBack pid) s).get key = before.get key := by
  induction applied with
  | nil =>
    rintro s - - (hsame | ⟨p, hp, -⟩)
    · exact hsame
    · cases hp
  | cons p applied ih =>
    intro s h hcaptured hkey
    have hp := hcaptured p List.mem_cons_self
    refine ih (retains_putBack h pid p) (fun p' hp' => hcaptured p' (List.mem_cons_of_mem _ hp')) ?_
    rcases hkey with hsame | ⟨p', hp', hkey⟩
    · exact .inl (get_putBack hbefore h hp (.inl hsame))
    · rcases List.mem_cons.mp hp' with rfl | hp'
      · exact .inl (get_putBack hbefore h hp (.inr hkey))
      · exact .inr ⟨p', hp', hkey⟩

/-! ## From device to device -/

/-- How a request to all sub-devices ends, by what the handler made of it on the devices that were
asked: done on all of them, or on those in front of the last one. -/
inductive Settles (devices : List UInt16) (asked : List (UInt16 × Verdict)) (verdict : Verdict) :
    Prop where
  | acknowledged : (∀ p ∈ asked, isDone p.2 = true) → asked.map Prod.fst = devices →
    verdict = acknowledgeEmpty → Settles devices asked verdict
  | refused (front : List (UInt16 × Verdict)) {device : UInt16} {reason : NackReason} :
    (∀ p ∈ front, isDone p.2 = true) → asked = front ++ [(device, .refused reason)] →
    verdict = .refused reason → Settles devices asked verdict
  | broken (front : List (UInt16 × Verdict)) {device : UInt16} {fault : Fault} :
    (∀ p ∈ front, isDone p.2 = true) → asked = front ++ [(device, .broken fault)] →
    verdict = .broken fault → Settles devices asked verdict

namespace Settles

variable {device : UInt16} {devices : List UInt16} {asked : List (UInt16 × Verdict)}
  {verdict : Verdict}

/-- A device is asked, and the handler is done with it. -/
theorem cons (h : Settles devices asked verdict) (result : HandlerResult) :
    Settles (device :: devices) ((device, .done result) :: asked) verdict := by
  cases h with
  | acknowledged hall hdevices hverdict =>
    exact .acknowledged (List.forall_mem_cons.mpr ⟨rfl, hall⟩) (congrArg (device :: ·) hdevices)
      hverdict
  | refused front hfront hasked hverdict =>
    exact .refused ((device, .done result) :: front) (List.forall_mem_cons.mpr ⟨rfl, hfront⟩)
      (congrArg (_ :: ·) hasked) hverdict
  | broken front hfront hasked hverdict =>
    exact .broken ((device, .done result) :: front) (List.forall_mem_cons.mpr ⟨rfl, hfront⟩)
      (congrArg (_ :: ·) hasked) hverdict

theorem acknowledged_iff (h : Settles devices asked verdict) :
    verdict = acknowledgeEmpty ↔ ∀ p ∈ asked, isDone p.2 = true := by
  cases h with
  | acknowledged hall _ hverdict => exact ⟨fun _ => hall, fun _ => hverdict⟩
  | refused front _ hasked hverdict | broken front _ hasked hverdict =>
    rw [hverdict, hasked]
    exact ⟨nofun, fun hall => by cases hall _ List.mem_concat_self⟩

theorem refused_iff (h : Settles devices asked verdict) (reason : NackReason) :
    verdict = .refused reason ↔ ∃ p ∈ asked, p.2 = .refused reason := by
  have not_done {list : List (UInt16 × Verdict)} (hall : ∀ p ∈ list, isDone p.2 = true)
      {p : UInt16 × Verdict} (hp : p ∈ list) : p.2 ≠ .refused reason := by
    intro hrefused
    have hdone := hall p hp
    rw [hrefused] at hdone
    cases hdone
  cases h with
  | acknowledged hall _ hverdict =>
    rw [hverdict]
    exact ⟨nofun, fun ⟨p, hp, hrefused⟩ => absurd hrefused (not_done hall hp)⟩
  | refused front hfront hasked hverdict | broken front hfront hasked hverdict =>
    rw [hverdict, hasked]
    refine ⟨fun heq => ⟨_, List.mem_concat_self, heq⟩, fun ⟨p, hp, hrefused⟩ => ?_⟩
    rcases List.mem_append.mp hp with hp | hp
    · exact absurd hrefused (not_done hfront hp)
    · rw [List.mem_singleton] at hp
      rw [hp] at hrefused
      exact hrefused

theorem devices_eq (h : Settles devices asked verdict) (hverdict : verdict = acknowledgeEmpty) :
    asked.map Prod.fst = devices := by
  cases h with
  | acknowledged _ hdevices _ => exact hdevices
  | refused _ _ _ hother | broken _ _ _ hother =>
    rw [hother] at hverdict
    cases hverdict

end Settles

theorem applyEach_settles (handler : Handler κ γ ω) (request : Request)
    (devices : List (UInt16 × Option ParameterData)) :
    ∀ (applied : List (UInt16 × Option ParameterData)) (r : Responder κ γ) (w : ω),
      Settles (devices.map Prod.fst) (trial handler request (devices.map Prod.fst) r w)
        (applyEach handler request devices applied r w).1 := by
  induction devices with
  | nil => exact fun applied r w => .acknowledged (fun p hp => by cases hp) rfl rfl
  | cons p devices ih =>
    intro applied r w
    rw [applyEach, List.map_cons, trial]
    generalize handler { request with subDevice := p.1 } r w = outcome
    obtain ⟨result | reason | fault, r', w'⟩ := outcome
    · exact (ih (p :: applied) r' w').cons result
    · exact .refused [] (fun p hp => by cases hp) rfl rfl
    · exact .broken [] (fun p hp => by cases hp) rfl rfl

/-- If the request is refused, the devices that it was done on have their values back. -/
theorem get_of_applyEach_refused (hhandler : Mannerly handler) {before : Store (HandlerName κ) γ}
    (hbefore : before.WellFormed) (request : Request) {reason : NackReason} {device : UInt16}
    (devices : List (UInt16 × Option ParameterData)) :
    ∀ (applied : List (UInt16 × Option ParameterData)) (r : Responder κ γ) (w : ω),
      before.Retains r.store → (∀ p ∈ applied, Captured request.pid before p) →
      (∀ p ∈ devices, Captured request.pid before p) →
      (applyEach handler request devices applied r w).1 = .refused reason →
      (∃ p ∈ applied, p.1 = device) ∨
        (∃ p ∈ trial handler request (devices.map Prod.fst) r w,
          isDone p.2 = true ∧ p.1 = device) →
      (applyEach handler request devices applied r w).2.1.store.get ⟨device, request.pid⟩ =
        before.get ⟨device, request.pid⟩ := by
  induction devices with
  | nil =>
    intro applied r w _ _ _ hrefused
    cases hrefused
  | cons p devices ih =>
    intro applied r w h happlied hdevices hrefused hdevice
    have hstep : before.Retains (handler { request with subDevice := p.1 } r w).2.1.store :=
      h.trans (hhandler _ r w h.wellFormed)
    rw [List.map_cons, trial] at hdevice
    rw [applyEach] at hrefused ⊢
    generalize handler { request with subDevice := p.1 } r w = outcome at hstep hrefused hdevice ⊢
    obtain ⟨result | other | fault, r', w'⟩ := outcome
    · have happlied' : ∀ p' ∈ p :: applied, Captured request.pid before p' := fun p' hp' =>
        (List.mem_cons.mp hp').elim (fun heq => heq ▸ hdevices p List.mem_cons_self) (happlied p')
      refine ih (p :: applied) r' w' hstep happlied'
        (fun p' hp' => hdevices p' (List.mem_cons_of_mem _ hp')) hrefused ?_
      rcases hdevice with ⟨p', hp', rfl⟩ | ⟨p', hp', hdone, rfl⟩
      · exact .inl ⟨p', List.mem_cons_of_mem _ hp', rfl⟩
      · rcases List.mem_cons.mp hp' with rfl | hp'
        · exact .inl ⟨p, List.mem_cons_self, rfl⟩
        · exact .inr ⟨p', hp', hdone, rfl⟩
    · rcases hdevice with ⟨p', hp', rfl⟩ | ⟨p', hp', hdone, -⟩
      · exact get_putBackAll hbefore applied hstep happlied (.inr ⟨p', hp', rfl⟩)
      · -- the device that refuses is the only one that was asked
        rw [List.mem_singleton.mp hp'] at hdone
        cases hdone
    · cases hrefused

/-- A request to set a parameter on all sub-devices, if it is admitted, is acknowledged exactly if
the handler is done with it on every device, and refused exactly if the handler gives a reason for
one of them; then the devices before that one have the values of before, unless it is a custom
handler that does more than change values. Whether the handler acknowledges, tells the controller to
ask again later or tells it that the request is not carried out makes no difference. -/
theorem setAll_verdict {kv : KeyValueStorage σ} (hreach : Reachable kv r)
    (h : SetsAll request r d name) (custom : κ → Handler κ γ ω) (fallback : Fallback κ γ ω ε)
    (w : ω) :
    ∃ verdict r' w', handle custom fallback request r w =
        (conclude request r' verdict, r', w') ∧
      (admits d request r = false → (∃ reason, verdict = .refused reason) ∧ r' = r ∧ w' = w) ∧
      (admits d request r = true →
        let asked := trial (interpret custom name) request (holders r.store request.pid) r w
        (verdict = acknowledgeEmpty ↔ ∀ p ∈ asked, isDone p.2 = true) ∧
        (verdict = acknowledgeEmpty → asked.map Prod.fst = holders r.store request.pid) ∧
        (∀ reason, verdict = .refused reason ↔ ∃ p ∈ asked, p.2 = .refused reason) ∧
        ((∀ other, name = .custom other → Mannerly (custom other)) →
          ∀ reason, verdict = .refused reason → ∀ p ∈ asked, isDone p.2 = true →
            r'.store.get ⟨p.1, request.pid⟩ = r.store.get ⟨p.1, request.pid⟩)) := by
  have hstore := hreach.wellFormed
  cases hadmits : admits d request r with
  | false =>
    obtain ⟨reason, hhandle⟩ := h.handle_of_not_admits hadmits custom fallback w
    exact ⟨.refused reason, r, w, hhandle, fun _ => ⟨⟨reason, rfl⟩, rfl, rfl⟩, nofun⟩
  | true =>
    obtain ⟨captured, hdevices, hcaptured, hhandle⟩ := h.handle_of_admits hadmits custom fallback w
    have hsettles := applyEach_settles (interpret custom name) request captured [] r w
    rw [hdevices] at hsettles
    refine ⟨_, _, _, hhandle rfl, nofun, fun _ => ⟨hsettles.acknowledged_iff, hsettles.devices_eq,
      hsettles.refused_iff, fun hmannerly reason hrefused p hp hdone => ?_⟩⟩
    refine get_of_applyEach_refused (mannerly_interpret hmannerly) hstore request captured [] r w
      (.refl hstore) (fun p hp => by cases hp) hcaptured hrefused (.inr ⟨p, ?_, hdone, rfl⟩)
    rw [hdevices]
    exact hp

/-! ## A handler that leaves out odd sub-devices -/

/-- Stores the value on even sub-devices and has another verdict for odd ones. -/
def storeOnEven (verdict : Verdict) : Unit → Handler Unit Empty Unit :=
  fun _ request r w =>
    if request.subDevice % 2 = 1 then (verdict, r, w)
    else ((simpleSet request r).1, (simpleSet request r).2, w)

theorem mannerly_storeOnEven (verdict : Verdict) (name : Unit) :
    Mannerly (storeOnEven verdict name) := by
  intro request r w h
  unfold storeOnEven
  split_ifs
  · exact .refl h
  · exact (used_storeValue _ _ r).retains h

/-- A byte that the handler sets. -/
def evenDefinition : ParameterDefinition (HandlerName Unit) :=
  { pid := 0x8002
    handlers := .getSet (.builtin .simpleGet) (.custom ())
    getFormat := ⟨"", "b$"⟩
    setFormat := ⟨"b$", ""⟩
    size := .fixed 1 }

/-- The byte is to be set on all sub-devices. -/
def setAllEven : Request :=
  { exampleSetAll with
    destination := .device exampleConfig.uid
    pid := evenDefinition.pid
    data := ⟨[7], by decide⟩ }

/-- A device and a sub-device with the byte. -/
def evenOperations : List (Store.Operation (HandlerName Unit) Empty Unit) :=
  [.addSubDevice 1, .define evenDefinition, .addInstance ⟨0, evenDefinition.pid⟩ .dynamic [5],
    .addInstance ⟨1, evenDefinition.pid⟩ .dynamic [5]]

def evenDevice : Responder Unit Empty :=
  deviceOf evenOperations

theorem evenDevice_reachable : Reachable forgetful evenDevice :=
  deviceOf_reachable evenOperations

theorem setsAll_evenDevice : SetsAll setAllEven evenDevice evenDefinition (.custom ()) where
  commandClass := rfl
  subDevice := rfl
  targets := by cbv
  definition := by cbv
  handler := rfl

theorem setAll_verdict_evenDevice :
    ∃ r' w', handle (storeOnEven (.refused .bufferFull)) (noFallback : Fallback Unit Empty Unit Empty)
        setAllEven evenDevice () = (conclude setAllEven r' (.refused .bufferFull), r', w') ∧
      r'.store.get ⟨0, evenDefinition.pid⟩ = .ok [5] := by
  obtain ⟨verdict, r', w', hhandle, -, hadmitted⟩ :=
    setAll_verdict evenDevice_reachable setsAll_evenDevice (storeOnEven (.refused .bufferFull))
      noFallback ()
  obtain ⟨-, -, hrefused, hback⟩ := hadmitted (by decide +kernel)
  obtain rfl := (hrefused .bufferFull).mpr ⟨(1, .refused .bufferFull), by decide +kernel, rfl⟩
  refine ⟨r', w', hhandle, ?_⟩
  have hroot := hback (fun other _ => mannerly_storeOnEven (.refused .bufferFull) other) .bufferFull
    rfl (0, acknowledgeEmpty) (by decide +kernel) rfl
  rw [show evenDefinition.pid = setAllEven.pid from rfl, hroot]
  decide +kernel

/-- The handler tells that a sub-device did not carry out the request, and the request is
acknowledged. -/
theorem refusal_acknowledged :
    let refusal : Verdict := .done (.notAcknowledged NackReason.bufferFull.code)
    let outcome := handle (storeOnEven refusal) (noFallback : Fallback Unit Empty Unit Empty)
      setAllEven evenDevice ()
    Reachable forgetful evenDevice ∧
    SetsAll setAllEven evenDevice evenDefinition (.custom ()) ∧
    (1, refusal) ∈ trial (storeOnEven refusal ()) setAllEven
      (holders evenDevice.store evenDefinition.pid) evenDevice () ∧
    outcome.1 =
      .answered (.response (setAllEven.respondAs exampleConfig.uid .ack .empty 1)) ∧
    evenDevice.store.get ⟨0, evenDefinition.pid⟩ = .ok [5] ∧
    outcome.2.1.store.get ⟨0, evenDefinition.pid⟩ = .ok [7] := by
  refine ⟨evenDevice_reachable, setsAll_evenDevice, ?_, ?_, ?_, ?_⟩
  · decide +kernel
  · cbv
  · decide +kernel
  · decide +kernel

end Responder

end LightingBus
