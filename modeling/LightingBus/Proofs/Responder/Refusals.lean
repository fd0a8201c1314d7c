import LightingBus.Proofs.Responder.Promises
import LightingBus.Proofs.Responder.Responses

/-!
# Refusals

`refusal_changes_nothing`: a request to one device that is refused leaves the whole responder as it
was, and so does one that is addressed to other devices.

1. A handler checks first and changes then, so that a refusal comes before any change
   (`run_of_refusal`). One handler is different: a change is no longer queued when its value turns
   out to be too long for a report, hence `Fits`.
2. The checks in front of the handlers change nothing (`dispatch_of_refusal`).
3. A response may also be one that was remembered, and all of these are acknowledgements
   (`type_of_custom`); so a negative response is a refusal (`isRefusal_of_nack`).
-/

namespace LightingBus

/-- All handlers of a parameter are of this kind. -/
def Handlers.all {η : Type} (p : η → Bool) : Handlers η → Bool
  | .discovery handler | .get handler | .set handler => p handler
  | .getSet reader writer => p reader && p writer

theorem Handlers.of_all {η : Type} {p : η → Bool} {handlers : Handlers η} {c : CommandClass}
    {handler : η} (h : handlers.all p = true) (hc : handlers.forCommand? c = some handler) :
    p handler = true := by
  cases handlers with
  | discovery _ | get _ | set _ =>
    cases c <;> cases hc
    exact h
  | getSet reader writer =>
    rw [Handlers.all, Bool.and_eq_true] at h
    cases c <;> cases hc
    · exact h.1
    · exact h.2

namespace Responder

variable {κ γ ω ε : Type} {r : Responder κ γ} {request : Request} {response : Response}
  {verdict : Verdict} {format : CommandFormat} {d : ParameterDefinition (HandlerName κ)}
  {handler : Builtin}

/-! ## Devices without handlers of their own -/

/-- The parameter is read from the store, or a value is stored. -/
def isSimple : HandlerName κ → Bool
  | .builtin .simpleGet | .builtin .simpleSet => true
  | _ => false

/-- The parameters are built in, belong to sensors, or are read and written in the store. -/
def Elementary (r : Responder κ γ) : Prop :=
  ∀ pid d, r.store.definition? pid = some d →
    d ∈ standardDefinitions ∨ d.handlers.all isSimple = true

/-- Every value fits into one response. -/
def Fits (r : Responder κ γ) : Prop :=
  ∀ key value, r.store.get key = .ok value → value.length ≤ maxParameterLength

/-- A device that serves is elementary if the definitions behind the built-in ones are simple. -/
theorem Serving.elementary (h : Serving r)
    (hsimple : ∀ slot ∈ r.store.definitions.drop builtinPids.length,
      slot.definition.handlers.all isSimple = true) : r.Elementary := by
  intro pid d hd
  obtain ⟨hwell, further, hfurther⟩ := h.builtins
  obtain ⟨n, hn, -⟩ := (Store.definition?_eq_some_iff hwell.pids_nodup).mp hd
  have hmem : d ∈ builtinDefinitions ++ further := by
    rw [hfurther]
    rw [Store.definitionAt?, ← List.getElem?_map] at hn
    exact List.mem_of_getElem? hn
  have hdrop : (r.store.definitions.drop builtinPids.length).map DefinitionSlot.definition =
      further := by
    rw [List.map_drop, ← hfurther]
    exact List.drop_left' rfl
  rcases List.mem_append.mp hmem with hbuiltin | hbehind
  · exact .inl (List.mem_append_left _ hbuiltin)
  · rw [← hdrop] at hbehind
    obtain ⟨slot, hslot, rfl⟩ := List.mem_map.mp hbehind
    exact .inr (hsimple slot hslot)

/-- Values fit if no definition leaves room for a longer one. -/
theorem fits_of_capacity (h : r.store.WellFormed)
    (hcapacity : ∀ slot ∈ r.store.definitions,
      slot.definition.size.capacity ≤ maxParameterLength) : r.Fits := by
  intro key value hvalue
  obtain ⟨-, d, hd, hcheck⟩ := h.of_get hvalue
  obtain ⟨n, hn, -⟩ := (Store.definition?_eq_some_iff h.pids_nodup).mp hd
  obtain ⟨slot, hslot, rfl⟩ := Option.map_eq_some_iff.mp hn
  obtain ⟨hsize, -⟩ := ParameterDefinition.check_eq_ok_iff.mp hcheck
  exact (ValueSize.le_capacity hsize).trans (hcapacity slot (List.mem_of_getElem? hslot))

/-- The only handlers of such a device are built in. -/
theorem Elementary.builtin (h : r.Elementary) (hd : r.store.definition? request.pid = some d)
    {name : HandlerName κ} (hname : d.handlers.forCommand? request.commandClass = some name) :
    ∃ handler, name = .builtin handler := by
  rcases h request.pid d hd with hstandard | hsimple
  · obtain ⟨handler, hhandler, -⟩ := offer_of_standard hstandard hname
    exact ⟨handler, hhandler⟩
  · have hsimple := Handlers.of_all hsimple hname
    cases name with
    | builtin handler => exact ⟨handler, rfl⟩
    | custom name => cases hsimple

/-! ## Handlers -/

/-- The request is refused, with a reason or by the code of one. -/
def isRefusal : Verdict → Bool
  | .refused _ | .done (.notAcknowledged _) => true
  | _ => false

theorem isRefusal_acknowledge {bytes : Bytes} (h : bytes.length ≤ maxParameterLength) :
    isRefusal (acknowledge bytes) = false := by
  rw [acknowledge_of_le h]
  rfl

theorem storeValue_of_refusal {key : Key} {value : Bytes}
    (h : isRefusal (storeValue key value r).1 = true) : (storeValue key value r).2 = r := by
  rcases hset : Store.Change.setAndQueue key value r.store with ⟨e | ⟨⟩, store⟩
  · -- what was refused has left the store as it was
    obtain rfl := Store.setAndQueue_atomic _ _ _ _ _ hset
    rw [storeValue_snd, hset]
  · rw [storeValue, hset] at h
    cases h

theorem setPersonality_of_refusal (h : isRefusal (setPersonality request r).1 = true) :
    (setPersonality request r).2 = r := by
  unfold setPersonality at h ⊢
  split_ifs at h ⊢
  · rfl
  · split at h
    next => rfl
    next number _ =>
      split at h
      next => rfl
      next => exact storeValue_of_refusal h

theorem setMuted_of_refusal {muted : Bool} (h : isRefusal (setMuted muted request r).1 = true) :
    (setMuted muted request r).2 = r := by
  unfold setMuted at h ⊢
  split_ifs at h ⊢
  · have hlength : r.muteReply.encode.length ≤ maxParameterLength := by
      simp [MuteReply.encode, muteReply, maxParameterLength]
    rw [isRefusal_acknowledge hlength] at h
    cases h
  · rfl

theorem get_of_takeChanged {store : Store (HandlerName κ) γ} {keys rest : List Key} {key : Key}
    {value : Bytes} (h : takeChanged store keys = (some (key, value), rest)) :
    store.get key = .ok value := by
  induction keys with
  | nil => cases h
  | cons key keys ih =>
    rw [takeChanged] at h
    split at h
    · exact ih h
    next hvalue =>
      cases h
      exact hvalue

/-- A change that is taken out of the queue has a value, and one that fits is reported. -/
theorem popQueued_not_refusal (hfits : r.Fits) (type : StatusType) :
    isRefusal (popQueued type request r).1 = false := by
  unfold popQueued
  split
  next key value rest htake =>
    have hvalue := get_of_takeChanged htake
    dsimp only
    rw [ParameterData.ofBytes?, dif_pos (hfits key value hvalue)]
    rfl
  next => rfl

theorem queuedMessage_of_refusal (hfits : r.Fits)
    (h : isRefusal (queuedMessage request r).1 = true) : (queuedMessage request r).2 = r := by
  unfold queuedMessage at h ⊢
  split at h
  next => rfl
  next type _ =>
    split_ifs at h ⊢
    · unfold repeatQueued at h ⊢
      split at h
      next => rfl
      next => cases h
    · rw [popQueued_not_refusal hfits] at h
      cases h
    · rfl

theorem statusMessages_of_refusal (h : isRefusal (statusMessages request r).1 = true) :
    (statusMessages request r).2 = r := by
  unfold statusMessages at h ⊢
  split at h
  next => rfl
  next type _ =>
    dsimp only at h ⊢
    split_ifs at h ⊢
    · rfl
    · rfl
    · cases h
    · rfl

theorem resetSensor_of_refusal (h : isRefusal (resetSensor request r).1 = true) :
    (resetSensor request r).2 = r := by
  have hlength (s : SensorReading) : s.encode.length ≤ maxParameterLength := by
    rw [s.length_encode]
    decide
  unfold resetSensor at h ⊢
  split at h
  next => rfl
  next number _ =>
    dsimp only at h ⊢
    split_ifs at h ⊢
    · rw [isRefusal_acknowledge (hlength _)] at h
      cases h
    · split at h
      next => rfl
      next s _ =>
        dsimp only at h
        rw [isRefusal_acknowledge (hlength _)] at h
        cases h

theorem recordSensors_of_refusal (h : isRefusal (recordSensors request r).1 = true) :
    (recordSensors request r).2 = r := by
  unfold recordSensors at h ⊢
  split at h
  next => rfl
  next number _ =>
    split_ifs at h ⊢
    · cases h
    · split at h
      next => rfl
      next => cases h

/-- Built-in handlers refuse before they change anything. -/
theorem run_of_refusal (hfits : r.Fits) (h : isRefusal (handler.run request r).1 = true) :
    (handler.run request r).2 = r := by
  cases handler with
  | simpleSet => exact storeValue_of_refusal h
  | setPersonality => exact setPersonality_of_refusal h
  | discMute | discUnMute => exact setMuted_of_refusal h
  | queuedMessage => exact queuedMessage_of_refusal hfits h
  | statusMessages => exact statusMessages_of_refusal h
  | resetSensor => exact resetSensor_of_refusal h
  | recordSensors => exact recordSensors_of_refusal h
  | _ => rfl

/-- A handler that makes its own response is the one of queued messages. -/
theorem eq_queuedMessage_of_custom (h : (handler.run request r).1 = .done (.custom response)) :
    handler = .queuedMessage := by
  by_contra hhandler
  by_cases hdata : readsByte handler = true → request.data.bytes ≠ []
  · have hplain := isPlain_run hhandler hdata r
    rw [h] at hplain
    cases hplain
  · -- without a byte to look at, the promise of the definition is broken
    obtain ⟨hreads, hnil⟩ := Classical.not_imp.mp hdata
    rw [not_not] at hnil
    cases handler <;> cases hreads <;>
      simp [Builtin.run, setPersonality, getPersonalityDescription, getSensor, resetSensor,
        recordSensors, withFirstByte, hnil] at h <;> split_ifs at h

/-- Reports are acknowledgements. -/
theorem type_of_custom (h : r.Recorded)
    (hrun : (handler.run request r).1 = .done (.custom response)) : response.type = .ack := by
  obtain rfl := eq_queuedMessage_of_custom hrun
  rcases queuedMessage_eq_custom hrun with ⟨-, last, hlast, rfl⟩ | ⟨-, -, key, data, rfl⟩
  · exact (h.queued last hlast).type
  · rfl

/-! ## Requests to one device -/

/-- A request to one device is refused in front of the handler, or the handler decides. -/
theorem dispatch_one (helementary : r.Elementary) (hone : request.subDevice ≠ SubDevice.every)
    (hd : r.store.definition? request.pid = some d) (custom : κ → Handler κ γ ω) (w : ω) :
    (∃ reason, dispatch custom d request r w = (.refused reason, r, w)) ∨
    ∃ (handler : Builtin) (verdict : Verdict),
      dispatch custom d request r w = (verdict, (handler.run request r).2, w) ∧
      (verdict = (handler.run request r).1 ∨ verdict = .broken .wrongResponse) := by
  unfold dispatch
  cases hname : d.handlers.forCommand? request.commandClass with
  | none => exact .inl ⟨_, rfl⟩
  | some name =>
    obtain ⟨handler, rfl⟩ := helementary.builtin hd hname
    dsimp only [interpret]
    cases d.format? request.commandClass with
    | none => exact .inr ⟨handler, _, rfl, .inl rfl⟩
    | some format =>
      dsimp only
      cases refusal? format request.data.bytes with
      | some reason => exact .inl ⟨reason, rfl⟩
      | none =>
        dsimp only
        rw [if_neg hone, applyToOne]
        split_ifs
        · refine .inr ⟨handler, _, rfl, ?_⟩
          unfold inspect
          split_ifs
          · exact .inl rfl
          · exact .inr rfl
        · exact .inl ⟨_, rfl⟩

theorem dispatch_of_refusal (helementary : r.Elementary) (hfits : r.Fits)
    (hone : request.subDevice ≠ SubDevice.every)
    (hd : r.store.definition? request.pid = some d) {custom : κ → Handler κ γ ω} {w : ω}
    (h : isRefusal (dispatch custom d request r w).1 = true) :
    (dispatch custom d request r w).2 = (r, w) := by
  rcases dispatch_one helementary hone hd custom w with
    ⟨reason, hdispatch⟩ | ⟨handler, verdict, hdispatch, rfl | rfl⟩
  · rw [hdispatch]
  · rw [hdispatch] at h ⊢
    exact congrArg (·, w) (run_of_refusal hfits h)
  · rw [hdispatch] at h
    cases h

theorem type_of_respond {type : ResponseType} {data : ParameterData}
    (h : r.respond request type data = .response response) : response.type = type := by
  unfold respond at h
  split at h
  next => cases h
  next other hother =>
    cases h
    obtain ⟨uid, -, rfl⟩ := Option.map_eq_some_iff.mp hother
    rfl

/-- A negative response says that the request was refused. -/
theorem isRefusal_of_nack
    (h : (conclude request r verdict : Outcome ε) = .answered (.response response))
    (hcustom : verdict = .done (.custom response) → response.type = .ack)
    (htype : response.type = .nack) : isRefusal verdict = true := by
  cases verdict with
  | broken fault => cases h
  | refused reason => rfl
  | done result =>
    have h := Outcome.answered.inj h
    cases result with
    | notAcknowledged code => rfl
    | acknowledged _ | acknowledgedOverflow _ | acknowledgedTimer _ =>
      have hother := type_of_respond h
      rw [htype] at hother
      cases hother
    | discovery | silent => cases h
    | custom other =>
      rw [answer] at h
      split_ifs at h
      obtain rfl := Answer.response.inj h
      rw [hcustom rfl] at htype
      cases htype

/-- A device with the parameters that it came with and further ones that are read and written in its
store, all of whose values fit into a response, is not changed at all by a request that is addressed
to other devices, nor by a request to one device that is refused. -/
theorem refusal_changes_nothing (h : Running r) (helementary : r.Elementary) (hfits : r.Fits)
    (request : Request) (custom : κ → Handler κ γ ω) (fallback : Fallback κ γ ω ε) (w : ω) :
    (request.destination.targets r.uid = false →
      handle custom fallback request r w = (.answered .silent, r, w)) ∧
    (request.subDevice ≠ SubDevice.every → ∀ d, r.store.definition? request.pid = some d →
      (isRefusal (dispatch custom d request r w).1 = true ∨
        ∃ response, (handle custom fallback request r w).1 = .answered (.response response) ∧
          response.type = .nack) →
      (handle custom fallback request r w).2 = (r, w)) := by
  refine ⟨fun htargets => if_pos (by rw [ignores, htargets]; rfl), fun hone d hd hrefused => ?_⟩
  by_cases hheard : r.ignores request = true
  · rw [handle, if_pos hheard]
  · have hhandle : handle custom fallback request r w =
        (conclude request (dispatch custom d request r w).2.1 (dispatch custom d request r w).1,
          (dispatch custom d request r w).2) :=
      handle_of_dispatch (Bool.not_eq_true _ ▸ hheard) hd rfl
    rw [hhandle] at hrefused ⊢
    refine dispatch_of_refusal helementary hfits hone hd ?_
    rcases hrefused with hrefusal | ⟨response, hresponse, htype⟩
    · exact hrefusal
    · refine isRefusal_of_nack hresponse (fun hverdict => ?_) htype
      rcases dispatch_one helementary hone hd custom w with
        ⟨reason, hdispatch⟩ | ⟨handler, verdict, hdispatch, hrun | hbroken⟩
      · rw [hdispatch] at hverdict
        cases hverdict
      · rw [hdispatch, hrun] at hverdict
        exact type_of_custom h.recorded hverdict
      · rw [hdispatch, hbroken] at hverdict
        cases hverdict

/-! ## A device with a level -/

/-- A number from 1 to 10. -/
def levelDefinition : ParameterDefinition (HandlerName Empty) :=
  { readWriteParameter 0x8001 .simpleGet .simpleSet ⟨"", "b$"⟩ ⟨"b$", ""⟩ with
    dataType := .unsignedByte
    size := .fixed 1
    minimum := 1
    maximum := 10 }

/-- A level that has changed, which was not reported yet. -/
def levelOperations : List (Store.Operation (HandlerName Empty) Empty Unit) :=
  [.define levelDefinition, .addInstance (rootKey levelDefinition.pid) .persisted [5],
    .setAndQueue (rootKey levelDefinition.pid) [6]]

/-- The level is to be set. -/
def requestLevel (level : UInt8) : Request :=
  { exampleSetAll with
    destination := .device exampleConfig.uid
    subDevice := SubDevice.root
    pid := levelDefinition.pid
    data := ⟨[level], show 1 ≤ maxParameterLength by decide⟩ }

/-- The level cannot be 11. -/
def levelRefusal : Response :=
  (requestLevel 11).respondAs exampleConfig.uid .nack (wordData NackReason.dataOutOfRange.code) 1

theorem handle_requestLevel : (handle Empty.elim (noFallback : Fallback Empty Empty Unit Empty)
    (requestLevel 11) (exampleDevice levelOperations) ()).1 =
      .answered (.response levelRefusal) := by
  cbv

theorem levelDevice_running : Running (exampleDevice levelOperations) :=
  exampleDevice_running levelOperations

/-- What is presumed of the device holds, and the level is one of its parameters. -/
theorem levelDevice_suits :
    (exampleDevice levelOperations).Elementary ∧ (exampleDevice levelOperations).Fits ∧
    ((exampleDevice levelOperations).store.definition? levelDefinition.pid).isSome = true := by
  have hserving := levelDevice_running.serving
  refine ⟨hserving.elementary ?_, fits_of_capacity hserving.builtins.1 ?_, ?_⟩
  all_goals decide +kernel

theorem refusal_changes_nothing_level :
    let r := exampleDevice levelOperations
    let outcome := handle Empty.elim (noFallback : Fallback Empty Empty Unit Empty)
      (requestLevel 11) r ()
    outcome.1 = .answered (.response levelRefusal) ∧ levelRefusal.type = .nack ∧
      outcome.2 = (r, ()) := by
  obtain ⟨helementary, hfits, hdefined⟩ := levelDevice_suits
  obtain ⟨d, hd⟩ := Option.isSome_iff_exists.mp hdefined
  exact ⟨handle_requestLevel, rfl, (refusal_changes_nothing levelDevice_running helementary hfits _
    Empty.elim noFallback ()).2 (by decide) d hd (.inr ⟨levelRefusal, handle_requestLevel, rfl⟩)⟩

end Responder

end LightingBus
