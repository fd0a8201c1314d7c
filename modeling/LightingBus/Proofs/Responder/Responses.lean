import LightingBus.Controller.Basic
import LightingBus.Proofs.Responder.Offers
import LightingBus.Proofs.Responder.Running

/-!
# Headers of responses

`response_header`: a response comes from the device that was asked, repeats the transaction and the
class of the request and counts the changes that are left. It goes to whoever asked, but a repeated
report goes to whoever it was made for, so a controller may be refused what another one was told.

1. A response is built in one of two ways: from the request (`Request.respondAs`), or by the handler
   of queued messages (`answer_eq_response`, `dispatch_eq_custom`).
2. That handler builds a new report for the request, or takes the last one and brings it up to date
   in everything but its destination (`queuedMessage_eq_custom`).
3. What it takes is a report of this device (`Running.recorded`).
-/

namespace LightingBus

namespace Responder

variable {κ γ ω ε δ : Type} {r r' : Responder κ γ} {request : Request} {response : Response}
  {d : ParameterDefinition (HandlerName κ)} {c : CommandClass} {verdict : Verdict}

/-! ## The two ways to a response -/

theorem respond_eq_response {type : ResponseType} {data : ParameterData} {uid : Uid}
    (hdestination : request.destination = .device uid)
    (h : r.respond request type data = .response response) :
    response = request.respondAs uid type data r.messageCount := by
  rw [respond, Request.respond?, hdestination] at h
  exact (Answer.response.inj h).symm

/-- A response answers the request, unless a handler has made it. -/
theorem answer_eq_response {result : HandlerResult} {uid : Uid}
    (hdestination : request.destination = .device uid)
    (h : r.answer request result = .response response) :
    (∃ type data, response = request.respondAs uid type data r.messageCount) ∨
      result = .custom response := by
  cases result with
  | acknowledged data => exact .inl ⟨_, _, respond_eq_response hdestination h⟩
  | acknowledgedOverflow data => exact .inl ⟨_, _, respond_eq_response hdestination h⟩
  | notAcknowledged code => exact .inl ⟨_, _, respond_eq_response hdestination h⟩
  | acknowledgedTimer units => exact .inl ⟨_, _, respond_eq_response hdestination h⟩
  | discovery => cases h
  | silent => cases h
  | custom other =>
    rw [answer, hdestination] at h
    exact .inr (congrArg _ (Answer.response.inj h))

theorem conclude_eq_response {uid : Uid} (hdestination : request.destination = .device uid)
    (h : (conclude request r verdict : Outcome ε) = .answered (.response response)) :
    (∃ type data, response = request.respondAs uid type data r.messageCount) ∨
      verdict = .done (.custom response) := by
  cases verdict with
  | done result =>
    exact (answer_eq_response hdestination (Outcome.answered.inj h)).imp_right (congrArg _)
  | refused reason =>
    exact (answer_eq_response hdestination (Outcome.answered.inj h)).imp_right nofun
  | broken fault => cases h

/-! ## Reports -/

/-- The request asks for the last report. -/
def AsksLast (request : Request) : Prop :=
  request.data.bytes = [StatusType.getLastMessage.code]

instance : DecidablePred AsksLast :=
  fun _ => inferInstanceAs (Decidable (_ = _))

/-- The last report as it is given to a further request. -/
def refreshed (last : Response) (request : Request) (r : Responder κ γ) : Response :=
  { last with
    messageCount := r.messageCount
    transaction := request.transaction }

theorem decode?_eq_some_iff {bytes : Bytes} {type : StatusType} :
    StatusType.decode? bytes = some type ↔ bytes = [type.code] := by
  constructor
  · intro h
    unfold StatusType.decode? at h
    split at h
    · unfold StatusType.ofCode? at h
      split_ifs at h
      all_goals
        cases h
        simp_all [StatusType.code]
    · cases h
  · rintro rfl
    exact StatusType.ofCode?_code type

theorem queuedMessage_of_asksLast (h : AsksLast request) (r : Responder κ γ) :
    queuedMessage request r = repeatQueued request r := by
  rw [queuedMessage, decode?_eq_some_iff.mpr h]
  exact if_pos rfl

/-- A report is the last one, or it is new and made for this request. -/
theorem queuedMessage_eq_custom (h : (queuedMessage request r).1 = .done (.custom response)) :
    (AsksLast request ∧ ∃ last, r.lastQueued = some last ∧
      response = refreshed last request (queuedMessage request r).2) ∨
    (¬ AsksLast request ∧ (queuedMessage request r).2.uid = r.uid ∧
      ∃ key data, response = queuedResponse request key data (queuedMessage request r).2) := by
  by_cases hlast : AsksLast request
  · rw [queuedMessage_of_asksLast hlast] at h ⊢
    refine .inl ⟨hlast, ?_⟩
    unfold repeatQueued at h ⊢
    split at h
    next => cases h
    next last hqueued =>
      cases h
      exact ⟨last, hqueued, rfl⟩
  · refine .inr ⟨hlast, ?_⟩
    unfold queuedMessage at h ⊢
    split at h
    next => cases h
    next type htype =>
      have hne : type ≠ .getLastMessage := by
        rintro rfl
        exact hlast (decode?_eq_some_iff.mp htype)
      rw [if_neg hne] at h ⊢
      split_ifs at h ⊢
      unfold popQueued at h ⊢
      split at h
      next key value rest _ =>
        dsimp only at h ⊢
        split at h
        next => cases h
        next data _ =>
          cases h
          exact ⟨rfl, key, data, rfl⟩
      next rest _ =>
        cases h
        exact ⟨rfl, rootKey Pid.statusMessages, _, rfl⟩

/-! ## Responses to requests -/

theorem inspect_eq_done {format : CommandFormat} {result : HandlerResult}
    (h : inspect format verdict = .done result) : verdict = .done result := by
  unfold inspect at h
  split_ifs at h
  exact h

/-- Only reports are responses that a handler has made. -/
theorem Dispatched.of_custom (h : Dispatched request r (.done (.custom response)) r') :
    request.pid = Pid.queuedMessage ∧ request.commandClass = .get ∧
      r.store.hasDevice request.subDevice = true ∧
      (queuedMessage request r).1 = .done (.custom response) ∧
      r' = (queuedMessage request r).2 := by
  cases h with
  | refused reason hverdict => cases hverdict
  | everywhere _ _ hverdict => cases hverdict
  | @discovery handler hoffer hverdict hstate =>
    have hplain := hoffer.isPlain_run request r
    rw [← hverdict] at hplain
    cases hplain
  | @device handler format hoffer hdata hdevice hverdict hstate =>
    have hrun := inspect_eq_done hverdict.symm
    by_cases hhandler : handler = .queuedMessage
    · subst hhandler
      obtain ⟨hpid, hget⟩ := hoffer.of_queuedMessage
      exact ⟨hpid, hget, hdevice, hrun, hstate⟩
    · have hplain := isPlain_run hhandler (hoffer.ne_nil hdata) r
      rw [hrun] at hplain
      cases hplain

/-- The report that a request asks for once more, if there is one. -/
def repeated? (request : Request) (r : Responder κ γ) : Option Response :=
  if request.pid = Pid.queuedMessage ∧ request.commandClass = .get ∧
      r.store.hasDevice request.subDevice = true ∧ AsksLast request then r.lastQueued
  else none

/-- A response of the device `uid` that repeats the transaction and the class of a request, counts
the changes that wait in `r`, and is sent to an address. -/
structure Header (request : Request) (uid : Uid) (r : Responder κ γ) (destination : Address)
    (response : Response) : Prop where
  source : response.source = uid
  transaction : response.transaction = request.transaction
  commandClass : response.commandClass = request.commandClass
  messageCount : response.messageCount = r.messageCount
  destination : response.destination = destination

theorem header_respondAs (request : Request) (uid : Uid) (type : ResponseType)
    (data : ParameterData) (r : Responder κ γ) :
    Header request uid r (.device request.source)
      (request.respondAs uid type data r.messageCount) :=
  ⟨rfl, rfl, rfl, rfl, rfl⟩

theorem handle_of_repeated (h : Running r) (hdestination : request.destination = .device r.uid)
    {last : Response} (hlast : repeated? request r = some last) (custom : κ → Handler κ γ ω)
    (fallback : Fallback κ γ ω ε) (w : ω) :
    request.commandClass = .get ∧ r.lastQueued = some last ∧
      handle custom fallback request r w = (.answered (.response (refreshed last request r)),
        { r with lastQueued := some (refreshed last request r) }, w) := by
  unfold repeated? at hlast
  split_ifs at hlast with hasks
  obtain ⟨hpid, hget, hdevice, hasks⟩ := hasks
  have htargets : request.destination.targets r.uid = true := by
    rw [hdestination]
    exact decide_eq_true rfl
  have hdata : Format.Describes "b$" request.data.bytes :=
    Format.describes_byte_iff.mpr (congrArg List.length hasks)
  have hrun : Builtin.queuedMessage.run request r =
      reportQueued (refreshed last request r) r := by
    change queuedMessage request r = _
    rw [queuedMessage_of_asksLast hasks, repeatQueued, hlast]
    rfl
  refine ⟨hget, hlast, ?_⟩
  rw [handle_get h.serving .queuedMessage (by decide) hpid htargets hget hdevice hdata, hrun]
  change (Outcome.answered (if request.destination.isBroadcast = true then _ else _), _, _) = _
  rw [hdestination]
  rfl

/-- A fallback that leaves it to the dispatcher to build responses. -/
def LeavesResponses (fallback : Fallback κ γ ω ε) : Prop :=
  ∀ request r w response, (fallback request r w).1 ≠ .ok (.custom response)

theorem header_of_handle {custom : κ → Handler κ γ ω} {fallback : Fallback κ γ ω ε} {w : ω}
    (h : Running r) (hpid : r.Standard request.pid)
    (hdestination : request.destination = .device r.uid) (hplain : LeavesResponses fallback)
    (hfresh : repeated? request r = none)
    (hresponse : (handle custom fallback request r w).1 = .answered (.response response)) :
    Header request r.uid (handle custom fallback request r w).2.1 (.device request.source)
      response := by
  have hheard : r.ignores request = false :=
    heard_of_ne_silent (Eq.trans_ne hresponse nofun)
  cases hd : r.store.definition? request.pid with
  | none =>
    rw [handle, hheard, if_neg Bool.false_ne_true, hd] at hresponse ⊢
    dsimp only at hresponse ⊢
    have hother := hplain request r w
    generalize fallback request r w = outcome at hresponse hother ⊢
    obtain ⟨e | result, r', w'⟩ := outcome
    · cases hresponse
    · rcases answer_eq_response hdestination (Outcome.answered.inj hresponse) with
        ⟨type, data, rfl⟩ | rfl
      · exact header_respondAs request r.uid type data r'
      · exact absurd rfl (hother response)
  | some d =>
    obtain ⟨verdict, r', w', hdispatched, hhandle⟩ :=
      exists_dispatched h.serving hheard hpid hd custom fallback w
    rw [hhandle] at hresponse ⊢
    rcases conclude_eq_response hdestination hresponse with ⟨type, data, rfl⟩ | rfl
    · exact header_respondAs request r.uid type data r'
    · obtain ⟨hqueued, hget, hdevice, hreport, rfl⟩ := hdispatched.of_custom
      rcases queuedMessage_eq_custom hreport with ⟨hasks, last, hlast, -⟩ |
        ⟨-, huid, key, data, rfl⟩
      · rw [repeated?, if_pos ⟨hqueued, hget, hdevice, hasks⟩, hlast] at hfresh
        cases hfresh
      · exact ⟨huid, rfl, hget.symm, rfl, rfl⟩

theorem Serving.toNat_messageCount (h : Serving r) :
    r.messageCount.toNat = r.store.changed.length := by
  have hle : r.store.changed.length ≤ 16 := h.builtins.1.changed_le
  rw [messageCount, Nat.min_eq_left (by omega), UInt8.toNat_ofNat', Nat.mod_eq_of_lt (by omega)]

/-- A controller takes a response of the device that it asked, if the response is for it. -/
theorem Header.checkResponse {destination : Address}
    (h : Header request r.uid r' destination response)
    (hdestination : request.destination = .device r.uid) {controller : Controller}
    {inquiry : Inquiry} (huid : controller.uid = request.source)
    (hinquiry : inquiry.destination = request.destination) :
    (controller.checkResponse request.commandClass inquiry response :
        Except (RequestError δ) Response) =
      if destination = .device request.source then .ok response else .error .notMatching := by
  rw [Controller.checkResponse, huid, hinquiry, hdestination, h.source, h.commandClass,
    h.destination]
  by_cases hsame : destination = .device request.source
  · rw [if_neg (not_not.mpr hsame), if_pos hsame]
    simp [Address.uid?]
  · rw [if_pos hsame, if_neg hsame]

/-- A response to a request for one device comes from this device, repeats the transaction and the
class of the request and counts the changes that are left. It goes to the sender of the request,
unless it repeats a report: that goes to whoever the report was made for, so that its controller
takes it only if it had asked for it the first time. -/
theorem response_header (h : Running r) (hpid : r.Standard request.pid)
    (hdestination : request.destination = .device r.uid) {custom : κ → Handler κ γ ω}
    (hcustom : ∀ name, Confined (custom name)) {fallback : Fallback κ γ ω ε}
    (hfallback : ConfinedFallback fallback) (hplain : LeavesResponses fallback) {w : ω}
    (hresponse : (handle custom fallback request r w).1 = .answered (.response response)) :
    let addressee := (repeated? request r).elim (.device request.source) Response.destination
    response.source = r.uid ∧ response.transaction = request.transaction ∧
    response.commandClass = request.commandClass ∧
    response.messageCount.toNat = (handle custom fallback request r w).2.1.store.changed.length ∧
    response.destination = addressee ∧
    ∀ (controller : Controller) (inquiry : Inquiry), controller.uid = request.source →
      inquiry.destination = request.destination →
      (controller.checkResponse request.commandClass inquiry response :
          Except (RequestError δ) Response) =
        if addressee = .device request.source then .ok response else .error .notMatching := by
  have hheader : Header request r.uid (handle custom fallback request r w).2.1
      ((repeated? request r).elim (.device request.source) Response.destination) response := by
    cases hrepeated : repeated? request r with
    | none => exact header_of_handle h hpid hdestination hplain hrepeated hresponse
    | some last =>
      obtain ⟨hget, hlast, hhandle⟩ :=
        handle_of_repeated h hdestination hrepeated custom fallback w
      rw [hhandle] at hresponse ⊢
      obtain rfl := Answer.response.inj (Outcome.answered.inj hresponse)
      have hown := h.recorded.queued last hlast
      exact ⟨hown.source, rfl, hown.commandClass.trans hget.symm, rfl, rfl⟩
  have hrunning := Running.request request w hcustom hfallback h
  refine ⟨hheader.source, hheader.transaction, hheader.commandClass, ?_, hheader.destination,
    fun controller inquiry huid hinquiry => hheader.checkResponse hdestination huid hinquiry⟩
  rw [hheader.messageCount, hrunning.serving.toNat_messageCount]

/-! ## Two controllers -/

/-- A controller asks the device for a report. -/
def askReport (asker : Uid) (type : StatusType) (transaction : UInt8) : Request where
  destination := .device exampleConfig.uid
  source := asker
  transaction := transaction
  port := 1
  messageCount := 0
  subDevice := SubDevice.root
  commandClass := .get
  pid := Pid.queuedMessage
  data := ⟨[type.code], by simp [maxParameterLength]⟩

def firstAsker : Uid := exampleSetAll.source

def secondAsker : Uid := ⟨0x7FF0, 0xC1, by decide⟩

/-- Two parameters of the device have changed, and the first controller was told of one. -/
def toldDevice : Responder Empty Empty :=
  (handle Empty.elim (noFallback : Fallback Empty Empty Unit Empty)
    (askReport firstAsker .advisory 1)
    (exampleDevice [.setAndQueue (rootKey Pid.identifyDevice) [1],
      .setAndQueue (rootKey Pid.dmxStartAddress) [0, 7]]) ()).2.1

theorem toldDevice_running : Running toldDevice :=
  .request _ () nofun confinedFallback_noFallback (exampleDevice_running _)

theorem uid_toldDevice : Address.device exampleConfig.uid = .device toldDevice.uid := by
  cbv

/-- The device tells the second controller of the other parameter. -/
def secondReport : Response where
  destination := .device secondAsker
  source := exampleConfig.uid
  transaction := 2
  type := .ack
  messageCount := 0
  subDevice := SubDevice.root
  commandClass := .get
  pid := Pid.dmxStartAddress
  data := .ofBytes [0, 7]

theorem handle_advisory : (handle Empty.elim (noFallback : Fallback Empty Empty Unit Empty)
    (askReport secondAsker .advisory 2) toldDevice ()).1 = .answered (.response secondReport) := by
  cbv

theorem response_header_secondReport :
    let request := askReport secondAsker .advisory 2
    let outcome := handle Empty.elim (noFallback : Fallback Empty Empty Unit Empty) request
      toldDevice ()
    let addressee := (repeated? request toldDevice).elim (.device request.source)
      Response.destination
    outcome.1 = .answered (.response secondReport) ∧ secondReport.source = toldDevice.uid ∧
    secondReport.transaction = request.transaction ∧
    secondReport.commandClass = request.commandClass ∧
    secondReport.messageCount.toNat = outcome.2.1.store.changed.length ∧
    secondReport.destination = addressee ∧
    ∀ (controller : Controller) (inquiry : Inquiry), controller.uid = request.source →
      inquiry.destination = request.destination →
      (controller.checkResponse request.commandClass inquiry secondReport :
          Except (RequestError Empty) Response) =
        if addressee = .device request.source then .ok secondReport else .error .notMatching :=
  ⟨handle_advisory, response_header toldDevice_running (.inl (by decide)) uid_toldDevice nofun
    confinedFallback_noFallback (fun _ _ _ _ => nofun) handle_advisory⟩

/-- What the device told the first controller, as it repeats it. -/
def firstReport : Response where
  destination := .device firstAsker
  source := exampleConfig.uid
  transaction := 2
  type := .ack
  messageCount := 1
  subDevice := SubDevice.root
  commandClass := .get
  pid := Pid.identifyDevice
  data := .ofBytes [1]

theorem handle_getLastMessage : (handle Empty.elim (noFallback : Fallback Empty Empty Unit Empty)
    (askReport secondAsker .getLastMessage 2) toldDevice ()).1 =
      .answered (.response firstReport) := by
  cbv

/-- The second controller asks for the last report and is sent what is addressed to the first. -/
theorem response_astray :
    let request := askReport secondAsker .getLastMessage 2
    Running toldDevice ∧ Standard toldDevice request.pid ∧
    request.destination = .device toldDevice.uid ∧
    (handle Empty.elim (noFallback : Fallback Empty Empty Unit Empty) request toldDevice ()).1 =
      .answered (.response firstReport) ∧
    firstReport.destination ≠ .device request.source ∧
    ∀ controller : Controller, controller.uid = request.source →
      (controller.checkResponse .get ⟨request.destination, request.subDevice, request.pid,
        request.data⟩ firstReport : Except (RequestError Empty) Response) =
          .error .notMatching := by
  have hother : Address.device firstAsker ≠ .device secondAsker := by decide
  refine ⟨toldDevice_running, .inl (by decide), uid_toldDevice, handle_getLastMessage, hother,
    fun controller huid => ?_⟩
  rw [Controller.checkResponse, huid]
  exact if_pos hother

end Responder

end LightingBus
