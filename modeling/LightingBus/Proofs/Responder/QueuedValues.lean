import LightingBus.Proofs.Responder.Promises
import LightingBus.Proofs.Responder.Responses

/-!
# Queued values

`queued_value_iff`: the report of a change has the stored value of the parameter, and so has the
answer to a request to read that parameter. Only where the answer is computed, the two may differ.

1. The report is that of the oldest change that has a value (`report_of_changed`).
2. Four parameters are answered from the store, but the start address of a device that uses no
   slots is answered as unused (`data_of_get`). This is never a stored start address, because values
   lie in the bounds of their definition (`readValue_eq_iff`).
3. All other parameters have no stored value to speak of: their definitions leave no room for one
   (`eq_nil_of_get`).
-/

namespace LightingBus

namespace Responder

open Format (Describes)

variable {κ γ ω ε : Type} {r r' : Responder κ γ} {request : Request} {response : Response}
  {key : Key} {rest : List Key} {value data : Bytes} {pid : UInt16} {handler : Builtin}
  {format : CommandFormat} {d : ParameterDefinition (HandlerName κ)}

/-- A request to read a parameter of this device or of one of its sub-devices. -/
structure Asks (request : Request) (r : Responder κ γ) (key : Key) (data : Bytes) : Prop where
  destination : request.destination = .device r.uid
  commandClass : request.commandClass = .get
  key : requestKey request = key
  data : request.data.bytes = data

theorem Asks.targets (h : Asks request r key data) :
    request.destination.targets r.uid = true := by
  rw [h.destination]
  exact decide_eq_true rfl

theorem Asks.heard (h : Asks request r key data) : r.ignores request = false :=
  heard_of_targets h.targets h.commandClass

/-- Requests to read have a format. -/
theorem Offer.not_get_none : ¬ Offer pid .get handler none :=
  nofun

/-! ## Stored values -/

/-- The parameters that are answered from the store. -/
def storedPids : List UInt16 :=
  [Pid.identifyDevice, Pid.dmxStartAddress, Pid.dmxPersonality, Pid.deviceLabel]

theorem builtin_of_stored (h : pid ∈ storedPids) : pid ∈ builtinPids :=
  (show storedPids ⊆ builtinPids by decide) h

theorem size_of_standard (hd : d ∈ standardDefinitions) :
    d.pid ∈ storedPids ∨ d.size = .fixed 0 := by
  have hall : (standardDefinitions : List (ParameterDefinition (HandlerName κ))).all
      (fun d => decide (d.pid ∈ storedPids ∨ d.size = .fixed 0)) = true := rfl
  exact of_decide_eq_true (List.all_eq_true.mp hall d hd)

theorem capacity_le_of_standard (hd : d ∈ standardDefinitions) :
    d.size.capacity ≤ maxParameterLength := by
  have hall : (standardDefinitions : List (ParameterDefinition (HandlerName κ))).all
      (fun d => decide (d.size.capacity ≤ maxParameterLength)) = true := rfl
  exact of_decide_eq_true (List.all_eq_true.mp hall d hd)

theorem length_le_of_get (h : Serving r) (hstandard : r.Standard key.pid)
    (hvalue : r.store.get key = .ok value) : value.length ≤ maxParameterLength := by
  obtain ⟨-, d, hd, hcheck⟩ := h.builtins.1.of_get hvalue
  obtain ⟨hsize, -⟩ := ParameterDefinition.check_eq_ok_iff.mp hcheck
  exact (ValueSize.le_capacity hsize).trans (capacity_le_of_standard (h.mem_standard hstandard hd))

/-- A parameter that is not answered from the store can be stored, but without any bytes. -/
theorem eq_nil_of_get (h : Serving r) (hstandard : r.Standard key.pid) (hpid : key.pid ∉ storedPids)
    (hvalue : r.store.get key = .ok value) : value = [] := by
  obtain ⟨-, d, hd, hcheck⟩ := h.builtins.1.of_get hvalue
  obtain ⟨hsize, -⟩ := ParameterDefinition.check_eq_ok_iff.mp hcheck
  obtain ⟨-, -, hkey⟩ := (Store.definition?_eq_some_iff h.builtins.1.pids_nodup).mp hd
  rcases size_of_standard (h.mem_standard hstandard hd) with hmem | hempty
  · exact absurd (hkey ▸ hmem) hpid
  · rw [hempty, ValueSize.accepts, beq_iff_eq] at hsize
    exact List.length_eq_zero_iff.mp hsize

/-! ## The report of a change -/

theorem takeChanged_of_get (hchanged : r.store.changed = key :: rest)
    (hvalue : r.store.get key = .ok value) :
    takeChanged r.store r.store.changed = (some (key, value), rest) := by
  rw [hchanged, takeChanged, hvalue]

/-- A request for reports of some severity, by whatever address, is left to the queue of changes. -/
theorem handle_queuedMessage (h : Serving r) (hpid : request.pid = Pid.queuedMessage)
    (htargets : request.destination.targets r.uid = true) (hget : request.commandClass = .get)
    (hdevice : r.store.hasDevice request.subDevice = true) {type : StatusType}
    (hdata : request.data.bytes = [type.code]) (htype : isSeverity type = true)
    (custom : κ → Handler κ γ ω) (fallback : Fallback κ γ ω ε) (w : ω) :
    handle custom fallback request r w =
      (conclude request (popQueued type request r).2 (popQueued type request r).1,
        (popQueued type request r).2, w) := by
  have hbyte : Describes "b$" request.data.bytes :=
    Format.describes_byte_iff.mpr (congrArg List.length hdata)
  have hne : type ≠ .getLastMessage := by
    rintro rfl
    cases htype
  have hrun : queuedMessage request r = popQueued type request r := by
    rw [queuedMessage, decode?_eq_some_iff.mpr hdata]
    dsimp only
    rw [if_neg hne, if_pos htype]
  -- there is nothing to inspect in a response that the handler has made
  have hinspect (format : CommandFormat) :
      inspect format (popQueued type request r).1 = (popQueued type request r).1 := by
    unfold popQueued
    split
    · dsimp only
      split <;> rfl
    · rfl
  rw [handle_get h .queuedMessage (by decide) hpid htargets hget hdevice hbyte]
  change (conclude request (queuedMessage request r).2 (inspect _ (queuedMessage request r).1),
    (queuedMessage request r).2, w) = _
  rw [hrun, hinspect]

theorem popQueued_of_changed (hchanged : r.store.changed = key :: rest)
    (hvalue : r.store.get key = .ok value) (hlength : value.length ≤ maxParameterLength)
    (type : StatusType) (request : Request) :
    popQueued type request r =
      let r := { r with store := { r.store with changed := rest } }
      reportQueued (queuedResponse request key ⟨value, hlength⟩ r) r := by
  rw [popQueued, takeChanged_of_get hchanged hvalue]
  dsimp only
  rw [ParameterData.ofBytes?, dif_pos hlength]

/-- The oldest change is reported with the stored value. -/
theorem report_of_changed (h : Serving r) (hchanged : r.store.changed = key :: rest)
    (hvalue : r.store.get key = .ok value) (hlength : value.length ≤ maxParameterLength)
    {type : StatusType} (htype : isSeverity type = true) {subDevice : UInt16}
    (hdevice : r.store.hasDevice subDevice = true)
    (hasks : Asks request r ⟨subDevice, Pid.queuedMessage⟩ [type.code])
    (custom : κ → Handler κ γ ω) (fallback : Fallback κ γ ω ε) (w : ω) :
    (handle custom fallback request r w).1 = .answered (.response
      (queuedResponse request key ⟨value, hlength⟩
        { r with store := { r.store with changed := rest } })) := by
  have hpid : request.pid = Pid.queuedMessage := congrArg Key.pid hasks.key
  have hsubDevice : request.subDevice = subDevice := congrArg Key.subDevice hasks.key
  rw [handle_queuedMessage h hpid hasks.targets hasks.commandClass (hsubDevice ▸ hdevice)
    hasks.data htype, popQueued_of_changed hchanged hvalue hlength]
  change Outcome.answered (if request.destination.isBroadcast = true then _ else _) = _
  rw [hasks.destination]
  rfl

/-! ## Requests to read a stored parameter -/

/-- The start address of a device that uses no slots. -/
def IsUnused (r : Responder κ γ) (pid : UInt16) : Prop :=
  pid = Pid.dmxStartAddress ∧ r.footprint = 0

instance : Decidable (IsUnused r pid) :=
  inferInstanceAs (Decidable (_ ∧ _))

/-- What a stored parameter is answered with. -/
def readValue (r : Responder κ γ) (pid : UInt16) (value : Bytes) : Bytes :=
  if IsUnused r pid then StartAddress.unused.encode else value

theorem length_readValue_le (hlength : value.length ≤ maxParameterLength) :
    (readValue r pid value).length ≤ maxParameterLength := by
  rw [readValue]
  split_ifs
  · decide
  · exact hlength

/-- The bounds of start addresses leave out the one that means that no slots are used. -/
theorem readValue_eq_iff (h : Serving r) (hvalue : r.store.get key = .ok value) :
    readValue r key.pid value = value ↔ ¬ IsUnused r key.pid := by
  rw [readValue]
  split_ifs with hunused
  · have hd : r.store.definition? key.pid = some startAddressDefinition := by
      rw [hunused.1]
      exact h.definition? (d := startAddressDefinition) (by simp [builtinDefinitions])
    have hcheck := h.builtins.1.check_of_get hd hvalue
    refine ⟨fun heq => ?_, absurd hunused⟩
    rw [← heq] at hcheck
    cases hcheck
  · exact ⟨fun _ => hunused, fun _ => rfl⟩

theorem run_of_stored (hoffer : Offer pid .get handler (some format)) (hstored : pid ∈ storedPids)
    (hvalue : r.store.get (requestKey request) = .ok value) :
    (handler.run request r).1 = acknowledge (readValue r pid value) := by
  have hsimple : simpleGet request r = acknowledge value := by
    rw [simpleGet, hvalue]
  cases hoffer with
  | getIdentify | getPersonality | getLabel =>
    rw [readValue, if_neg fun hunused => absurd hunused.1 (by decide)]
    exact hsimple
  | getStartAddress =>
    change getStartAddress request r = _
    rw [getStartAddress, readValue, hsimple, apply_ite acknowledge]
    exact if_congr (and_iff_right rfl).symm rfl rfl
  | _ => exact absurd hstored (by decide)

/-- A response that acknowledges has the data of a handler, or a handler has made it. -/
theorem conclude_eq_ack {verdict : Verdict} {uid : Uid}
    (hdestination : request.destination = .device uid)
    (h : (conclude request r verdict : Outcome ε) = .answered (.response response))
    (hack : response.type = .ack) :
    verdict = .done (.acknowledged response.data) ∨ verdict = .done (.custom response) := by
  cases verdict with
  | refused reason =>
    obtain rfl := respond_eq_response hdestination (Outcome.answered.inj h)
    cases hack
  | broken fault => cases h
  | done result =>
    have hanswer := Outcome.answered.inj h
    cases result with
    | acknowledged data =>
      obtain rfl := respond_eq_response hdestination hanswer
      exact .inl rfl
    | acknowledgedOverflow data | notAcknowledged code | acknowledgedTimer units =>
      obtain rfl := respond_eq_response hdestination hanswer
      cases hack
    | discovery | silent => cases hanswer
    | custom other =>
      rw [answer, hdestination] at hanswer
      exact .inr (congrArg _ (congrArg _ (Answer.response.inj hanswer)))

/-- A request to read a stored parameter that is acknowledged is so with what is to be read. -/
theorem data_of_get (h : Serving r) (hstored : key.pid ∈ storedPids)
    (hvalue : r.store.get key = .ok value) (hasks : Asks request r key data)
    {custom : κ → Handler κ γ ω} {fallback : Fallback κ γ ω ε} {w : ω}
    (hresponse : (handle custom fallback request r w).1 = .answered (.response response))
    (hack : response.type = .ack) : response.data.bytes = readValue r key.pid value := by
  have hstandard : r.Standard key.pid := .inl (builtin_of_stored hstored)
  obtain rfl := hasks.key
  obtain ⟨hdevice, d, hd, -⟩ := h.builtins.1.of_get hvalue
  obtain ⟨verdict, r', w', hdispatched, hhandle⟩ :=
    exists_dispatched h hasks.heard hstandard hd custom fallback w
  rw [hhandle] at hresponse
  have hverdict := conclude_eq_ack hasks.destination hresponse hack
  cases hdispatched with
  | refused reason hrefused =>
    rw [hrefused] at hverdict
    rcases hverdict with hverdict | hverdict <;> cases hverdict
  | everywhere hevery =>
    rw [requestKey, hevery, h.hasDevice_every] at hdevice
    cases hdevice
  | discovery hoffer =>
    exact absurd (hasks.commandClass ▸ hoffer) Offer.not_get_none
  | device hoffer _ _ hinspect =>
    rw [hasks.commandClass] at hoffer
    have hlength : (readValue r request.pid value).length ≤ maxParameterLength :=
      length_readValue_le (length_le_of_get h hstandard hvalue)
    have hrun := run_of_stored hoffer hstored hvalue
    rw [acknowledge_of_le hlength] at hrun
    rw [hinspect] at hverdict
    rcases hverdict with hverdict | hverdict
    · have hdone := inspect_eq_done hverdict
      rw [hrun, Verdict.done.injEq, HandlerResult.acknowledged.injEq] at hdone
      rw [← hdone]
      rfl
    · have hdone := inspect_eq_done hverdict
      rw [hrun] at hdone
      cases hdone

/-- Stored parameters are read without parameter data. -/
theorem exists_storedOffer (hstored : pid ∈ storedPids) :
    ∃ handler response, Offer pid .get handler (some ⟨"", response⟩) := by
  simp only [storedPids, List.mem_cons, List.not_mem_nil, or_false] at hstored
  rcases hstored with rfl | rfl | rfl | rfl
  · exact ⟨_, _, .getIdentify⟩
  · exact ⟨_, _, .getStartAddress⟩
  · exact ⟨_, _, .getPersonality⟩
  · exact ⟨_, _, .getLabel⟩

/-- A request to read a stored parameter is acknowledged, but for a label that is no text. -/
theorem acknowledged_of_get (h : Running r) (hstored : key.pid ∈ storedPids)
    (hvalue : r.store.get key = .ok value) (hasks : Asks request r key [])
    (hproper : ¬ Garbled request r) (custom : κ → Handler κ γ ω) (fallback : Fallback κ γ ω ε)
    (w : ω) : ∃ response, (handle custom fallback request r w).1 = .answered (.response response) ∧
      response.type = .ack := by
  obtain rfl := hasks.key
  have hstandard : r.Standard request.pid := .inl (builtin_of_stored hstored)
  obtain ⟨hdevice, -⟩ := h.serving.builtins.1.of_get hvalue
  obtain ⟨handler, response, hoffer⟩ := exists_storedOffer hstored
  have hdata : Describes "" request.data.bytes := Format.describes_nothing_iff.mpr hasks.data
  have hkeeps : keepsPromise ⟨"", response⟩ (handler.run request r).1 = true := by
    rw [← Bool.not_eq_false, keepsPromise_eq_false_iff h hasks.heard hdevice
      (hasks.commandClass ▸ hoffer) hdata]
    exact hproper
  have hrun := run_of_stored hoffer hstored hvalue
  rw [handle_get h.serving hoffer (builtin_of_stored hstored) rfl hasks.targets hasks.commandClass
    hdevice hdata, inspect, if_pos hkeeps, hrun, acknowledge_of_le (length_readValue_le
      (length_le_of_get h.serving hstandard hvalue))]
  change ∃ response, Outcome.answered (respond _ request .ack _) = _ ∧ _
  rw [respond, Request.respond?, hasks.destination]
  exact ⟨_, rfl, rfl⟩

/-! ## Reports and answers -/

/-- The oldest change is reported with its stored value. A request to read the same parameter, if it
is acknowledged, has the same data: always, for a parameter that is answered from the store, but for
the start address of a device that uses no slots; and for one that is computed, only if what is
computed is empty. Parameters that are answered from the store are acknowledged, unless the answer
is a text that is none. -/
theorem queued_value_iff (h : Running r) (hchanged : r.store.changed = key :: rest)
    (hvalue : r.store.get key = .ok value) (hstandard : r.Standard key.pid) {type : StatusType}
    (htype : isSeverity type = true) {subDevice : UInt16}
    (hdevice : r.store.hasDevice subDevice = true)
    (hasks : Asks request r ⟨subDevice, Pid.queuedMessage⟩ [type.code])
    (custom : κ → Handler κ γ ω) (fallback : Fallback κ γ ω ε) (w : ω) :
    ∃ report, (handle custom fallback request r w).1 = .answered (.response report) ∧
      report.type = .ack ∧ report.subDevice = key.subDevice ∧ report.pid = key.pid ∧
      report.data.bytes = value ∧
      (∀ question data answer, Asks question r key data →
        (handle custom fallback question r w).1 = .answered (.response answer) →
        answer.type = .ack →
        (answer.data.bytes = report.data.bytes ↔
          if key.pid ∈ storedPids then ¬ (key.pid = Pid.dmxStartAddress ∧ r.footprint = 0)
          else answer.data.bytes = [])) ∧
      ∀ question, key.pid ∈ storedPids → Asks question r key [] → ¬ Garbled question r →
        ∃ answer, (handle custom fallback question r w).1 = .answered (.response answer) ∧
          answer.type = .ack := by
  have hlength := length_le_of_get h.serving hstandard hvalue
  refine ⟨_, report_of_changed h.serving hchanged hvalue hlength htype hdevice hasks custom
    fallback w, rfl, rfl, rfl, rfl, ?_, ?_⟩
  · intro question data answer hquestion hanswer hack
    change answer.data.bytes = value ↔ _
    split_ifs with hstored
    · rw [data_of_get h.serving hstored hvalue hquestion hanswer hack]
      exact readValue_eq_iff h.serving hvalue
    · rw [eq_nil_of_get h.serving hstandard hstored hvalue]
  · intro question hstored hquestion hproper
    exact acknowledged_of_get h hstored hvalue hquestion hproper custom fallback w

/-! ## A start address that is not used -/

/-- A device that uses no slots. -/
def slotlessConfig : ResponderConfig :=
  { exampleConfig with personalities := [⟨0, ""⟩] }

theorem exists_slotlessDevice :
    (create slotlessConfig ⟨16, 4, 8, 128⟩ :
      Except ParameterError (Responder Empty Empty)).toOption.isSome = true := by
  decide +kernel

/-- The start address of a device that uses no slots was changed. -/
def slotlessDevice : Responder Empty Empty :=
  let r := (create slotlessConfig ⟨16, 4, 8, 128⟩).toOption.get exists_slotlessDevice
  { r with store :=
      Store.runAll forgetful [.setAndQueue (rootKey Pid.dmxStartAddress) [0, 7]] r.store }

theorem slotlessDevice_running : Running slotlessDevice :=
  (Running.create (eq_ok_get exists_slotlessDevice)).alter
    (.of_leads (Store.leads_runAll forgetful _ .refl))

theorem slotlessDevice_initially :
    Address.device exampleConfig.uid = .device slotlessDevice.uid ∧
    slotlessDevice.store.changed = [rootKey Pid.dmxStartAddress] ∧
    slotlessDevice.store.get (rootKey Pid.dmxStartAddress) = .ok [0, 7] ∧
    slotlessDevice.store.hasDevice SubDevice.root = true := by
  refine ⟨?_, ?_, ?_, ?_⟩
  all_goals cbv

theorem queued_value_iff_slotlessDevice :
    let handled (request : Request) := (handle Empty.elim
      (noFallback : Fallback Empty Empty Unit Empty) request slotlessDevice ()).1
    let key := rootKey Pid.dmxStartAddress
    ∃ report, handled (askReport firstAsker .advisory 1) = .answered (.response report) ∧
      report.type = .ack ∧ report.subDevice = key.subDevice ∧ report.pid = key.pid ∧
      report.data.bytes = [0, 7] ∧
      (∀ question data answer, Asks question slotlessDevice key data →
        handled question = .answered (.response answer) → answer.type = .ack →
        (answer.data.bytes = report.data.bytes ↔
          if key.pid ∈ storedPids then
            ¬ (key.pid = Pid.dmxStartAddress ∧ slotlessDevice.footprint = 0)
          else answer.data.bytes = [])) ∧
      ∀ question, key.pid ∈ storedPids → Asks question slotlessDevice key [] →
        ¬ Garbled question slotlessDevice →
        ∃ answer, handled question = .answered (.response answer) ∧ answer.type = .ack := by
  obtain ⟨huid, hchanged, hvalue, hdevice⟩ := slotlessDevice_initially
  exact queued_value_iff slotlessDevice_running hchanged hvalue (.inl (by decide)) rfl hdevice
    ⟨huid, rfl, rfl, rfl⟩ Empty.elim noFallback ()

/-- A controller reads the start address of the device. -/
def askStartAddress : Request :=
  { askReport firstAsker .advisory 2 with
    pid := Pid.dmxStartAddress
    data := .empty }

/-- The device reports that its start address has changed. -/
def slotlessReport : Response where
  destination := .device firstAsker
  source := exampleConfig.uid
  transaction := 1
  type := .ack
  messageCount := 0
  subDevice := SubDevice.root
  commandClass := .get
  pid := Pid.dmxStartAddress
  data := .ofBytes [0, 7]

/-- The device says that it uses no slots. -/
def slotlessAnswer : Response :=
  { slotlessReport with
    transaction := 2
    messageCount := 1
    data := .ofBytes [0xFF, 0xFF] }

theorem handle_slotlessReport : (handle Empty.elim (noFallback : Fallback Empty Empty Unit Empty)
    (askReport firstAsker .advisory 1) slotlessDevice ()).1 =
      .answered (.response slotlessReport) := by
  cbv

theorem handle_slotlessAnswer : (handle Empty.elim (noFallback : Fallback Empty Empty Unit Empty)
    askStartAddress slotlessDevice ()).1 = .answered (.response slotlessAnswer) := by
  cbv

/-- The start address that is reported is not the one that is read. -/
theorem unused_start_address_reported :
    let key := rootKey Pid.dmxStartAddress
    Running slotlessDevice ∧ slotlessDevice.store.changed = [key] ∧
    slotlessDevice.store.get key = .ok [0, 7] ∧ key.pid ∈ builtinPids ∧
    Asks (askReport firstAsker .advisory 1) slotlessDevice ⟨SubDevice.root, Pid.queuedMessage⟩
      [StatusType.advisory.code] ∧
    Asks askStartAddress slotlessDevice key [] ∧
    (handle Empty.elim (noFallback : Fallback Empty Empty Unit Empty)
      (askReport firstAsker .advisory 1) slotlessDevice ()).1 =
        .answered (.response slotlessReport) ∧
    (handle Empty.elim (noFallback : Fallback Empty Empty Unit Empty) askStartAddress
      slotlessDevice ()).1 = .answered (.response slotlessAnswer) ∧
    slotlessAnswer.type = .ack ∧ slotlessAnswer.data ≠ slotlessReport.data := by
  obtain ⟨huid, hchanged, hvalue, -⟩ := slotlessDevice_initially
  exact ⟨slotlessDevice_running, hchanged, hvalue, by decide, ⟨huid, rfl, rfl, rfl⟩,
    ⟨huid, rfl, rfl, rfl⟩, handle_slotlessReport, handle_slotlessAnswer, rfl, by decide⟩

end Responder

end LightingBus
