import LightingBus.Proofs.Responder.QueuedValues
import LightingBus.Proofs.Responder.Refusals
import LightingBus.Proofs.Responder.Unreported

/-!
# Reports of changes

`changes_reported`: every change is reported once, in order and with the value that the parameter
has by then, whatever requests and changes come in between, as long as there is room for it in the
queue; and what is lost if there is not. `change_never_reported` is the exception: a broadcast
request for a report takes a change out of the queue, and nobody answers it.

1. A request to store a value queues the keys that accept it, and is refused if these are not all
   that it is about (`StoresValue.handle`). So it queues all of them or none, unless it fails midway
   (`acceptedBy_eq_changedBy`).
2. A request for a report takes the oldest key out of the queue (`AsksReport.handle`).
3. So after every turn of a run the queue holds what it has room for of what has not been reported
   (`Turn.changed_eq`, `Ledger.balanced`).
4. As many requests as keys wait empty the queue (`drains_handleEach`).
-/

namespace LightingBus

namespace Responder

variable {κ γ ω ε η : Type} {r r' : Responder κ γ} {request : Request} {key : Key}
  {keys : List Key} {type : StatusType} {d : ParameterDefinition (HandlerName κ)}
  {log events : List QueueEvent}

/-! ## Requests to store a value -/

/-- A request to a parameter whose values are stored as they come. -/
structure StoresValue (request : Request) (r : Responder κ γ)
    (d : ParameterDefinition (HandlerName κ)) : Prop where
  commandClass : request.commandClass = .set
  destination : request.destination.targets r.uid = true
  definition : r.store.definition? request.pid = some d
  handler : d.handlers.forCommand? .set = some (.builtin .simpleSet)

theorem StoresValue.heard (h : StoresValue request r d) : r.ignores request = false := by
  rw [ignores, h.destination, h.commandClass]
  rfl

/-- The keys that a request is about. -/
def named (request : Request) (r : Responder κ γ) : List Key :=
  if request.subDevice = SubDevice.every then keysOf request.pid (holders r.store request.pid)
  else [requestKey request]

/-- The parameter data has its format, and if the request is one to all sub-devices, their present
values could be put back. -/
def isAdmitted (d : ParameterDefinition (HandlerName κ)) (request : Request) (r : Responder κ γ) :
    Bool :=
  if request.subDevice = SubDevice.every then admits d request r
  else (refusal? d.setFormat request.data.bytes).isNone

/-- The keys that accept the value of a request, up to the first one that does not. -/
def acceptedBy (d : ParameterDefinition (HandlerName κ)) (request : Request) (r : Responder κ γ) :
    List Key :=
  if isAdmitted d request r then accepting r.store request (named request r) else []

/-- The keys that a request changes: all that it is about if all accept the value, and else none. -/
def changedBy (d : ParameterDefinition (HandlerName κ)) (request : Request) (r : Responder κ γ) :
    List Key :=
  if acceptedBy d request r = named request r then named request r else []

/-- A request to all sub-devices whose value some of them accept, before one does not. -/
def FailsMidway (d : ParameterDefinition (HandlerName κ)) (request : Request)
    (r : Responder κ γ) : Prop :=
  acceptedBy d request r ≠ [] ∧ acceptedBy d request r ≠ named request r

theorem named_ne_nil (request : Request) (r : Responder κ γ) : named request r ≠ [] := by
  rw [named]
  split_ifs
  · exact fun hnil => holders_ne_nil _ _ (List.map_eq_nil_iff.mp hnil)
  · exact List.cons_ne_nil _ _

theorem changedBy_eq_named_iff :
    changedBy d request r = named request r ↔ acceptedBy d request r = named request r := by
  rw [changedBy]
  split_ifs with hall
  · exact iff_of_true rfl hall
  · exact iff_of_false (named_ne_nil request r).symm hall

/-- A request to one device is carried out or not. -/
theorem FailsMidway.every (h : FailsMidway d request r) : request.subDevice = SubDevice.every := by
  by_contra hone
  obtain ⟨hsome, hnot⟩ := h
  rw [acceptedBy, named, if_neg hone, accepting, List.takeWhile_cons, List.takeWhile_nil]
    at hsome hnot
  split_ifs at hsome hnot
  · exact hnot rfl
  · exact hsome rfl
  · exact hsome rfl

theorem acceptedBy_eq_changedBy (h : ¬ FailsMidway d request r) :
    acceptedBy d request r = changedBy d request r := by
  rw [changedBy]
  split_ifs with hall
  · exact hall
  · exact not_not.mp fun hsome => h ⟨hsome, hall⟩

/-- A device that is not there accepts no values. -/
theorem accepts_of_absent (hstore : r.store.WellFormed)
    (hdevice : r.store.hasDevice key.subDevice = false) (value : Bytes) :
    r.store.accepts key value = false := by
  rw [← Bool.not_eq_true, Store.accepts_iff hstore]
  rintro ⟨entry, -, hentry, -⟩
  rw [(hstore.of_get (Store.get_of_contents hentry)).1] at hdevice
  cases hdevice

/-- How a request to store a value ends: its keys that accept the value are queued, and it is
refused if these are not all. -/
structure Stores (d : ParameterDefinition (HandlerName κ)) (request : Request)
    (r : Responder κ γ) (verdict : Verdict) (r' : Responder κ γ) : Prop where
  changed : r'.store.changed = (acceptedBy d request r).foldl Store.enqueue r.store.changed
  refused : (∃ reason, verdict = .refused reason) ↔ acceptedBy d request r ≠ named request r

theorem Stores.of_refused {reason : NackReason} (h : acceptedBy d request r = []) :
    Stores d request r (.refused reason) r where
  changed := by rw [h]; rfl
  refused := ⟨fun _ => h ▸ (named_ne_nil request r).symm, fun _ => ⟨reason, rfl⟩⟩

theorem changed_setAndQueue (key : Key) (value : Bytes) (s : Store η γ) :
    (Store.Change.setAndQueue key value s).2.changed =
      (if s.accepts key value then [key] else []).foldl Store.enqueue s.changed := by
  rw [Store.accepts, ← Store.fst_setAndQueue]
  rcases hset : Store.Change.setAndQueue key value s with ⟨e | ⟨⟩, s'⟩
  · rw [Store.setAndQueue_atomic _ _ _ _ _ hset]
    rfl
  · obtain ⟨written, hwritten, rfl⟩ := Store.setAndQueue_eq_ok hset
    exact (Store.changed_queueChanged written _).trans
      (congrArg (Store.enqueue · _) (Store.changed_set hwritten))

theorem stores_storeValue (hnamed : named request r = [requestKey request])
    (haccepted : acceptedBy d request r =
      if r.store.accepts (requestKey request) request.data.bytes then [requestKey request] else [])
    (format : CommandFormat) :
    Stores d request r (inspect format (simpleSet request r).1) (simpleSet request r).2 := by
  constructor
  · rw [haccepted, simpleSet, storeValue_snd]
    exact changed_setAndQueue _ _ r.store
  · rw [haccepted, hnamed, simpleSet, storeValue, Store.accepts, ← Store.fst_setAndQueue]
    rcases Store.Change.setAndQueue (requestKey request) request.data.bytes r.store with
      ⟨e | ⟨⟩, store⟩
    · exact ⟨fun _ => (List.cons_ne_nil _ _).symm, fun _ => ⟨_, rfl⟩⟩
    · refine ⟨?_, fun hne => absurd rfl hne⟩
      rintro ⟨reason, hrefused⟩
      dsimp only [inspect] at hrefused
      split_ifs at hrefused
      cases hrefused

/-- A request to one device. -/
theorem StoresValue.handle_one (h : StoresValue request r d) (hstore : r.store.WellFormed)
    (hone : request.subDevice ≠ SubDevice.every) (custom : κ → Handler κ γ ω)
    (fallback : Fallback κ γ ω ε) (w : ω) :
    ∃ verdict r', handle custom fallback request r w = (conclude request r' verdict, r', w) ∧
      Stores d request r verdict r' := by
  have hnamed : named request r = [requestKey request] := if_neg hone
  have hadmitted : isAdmitted d request r =
    (refusal? d.setFormat request.data.bytes).isNone := if_neg hone
  have hdispatch : dispatch custom d request r w =
      (refusal? d.setFormat request.data.bytes).elim
        (applyToOne (interpret custom (.builtin .simpleSet)) d.setFormat request r w)
        fun reason => (.refused reason, r, w) := by
    rw [dispatch, h.commandClass, h.handler]
    dsimp only [ParameterDefinition.format?]
    rw [if_neg hone]
    cases refusal? d.setFormat request.data.bytes <;> rfl
  cases hrefusal : refusal? d.setFormat request.data.bytes with
  | some reason =>
    rw [hrefusal] at hdispatch hadmitted
    exact ⟨.refused reason, r, handle_of_dispatch h.heard h.definition hdispatch,
      .of_refused (by rw [acceptedBy, hadmitted]; rfl)⟩
  | none =>
    rw [hrefusal, Option.elim_none] at hdispatch
    rw [hrefusal] at hadmitted
    have haccepted : acceptedBy d request r =
        if r.store.accepts (requestKey request) request.data.bytes then [requestKey request]
        else [] := by
      rw [acceptedBy, hadmitted, hnamed, accepting, List.takeWhile_cons, List.takeWhile_nil]
      rfl
    cases hdevice : r.store.hasDevice request.subDevice with
    | false =>
      rw [applyToOne, hdevice] at hdispatch
      refine ⟨_, r, handle_of_dispatch h.heard h.definition hdispatch, .of_refused ?_⟩
      rw [haccepted, accepts_of_absent hstore hdevice]
      rfl
    | true =>
      rw [applyToOne, if_pos hdevice] at hdispatch
      exact ⟨_, _, handle_of_dispatch h.heard h.definition hdispatch,
        stores_storeValue hnamed haccepted d.setFormat⟩

/-- A request to all sub-devices. -/
theorem StoresValue.handle_every (h : StoresValue request r d) (hstore : r.store.WellFormed)
    (hevery : request.subDevice = SubDevice.every) (custom : κ → Handler κ γ ω)
    (fallback : Fallback κ γ ω ε) (w : ω) :
    ∃ verdict r', handle custom fallback request r w = (conclude request r' verdict, r', w) ∧
      Stores d request r verdict r' := by
  have hall : SetsAll request r d (.builtin .simpleSet) :=
    ⟨h.commandClass, hevery, h.destination, h.definition, h.handler⟩
  have hnamed : named request r = keysOf request.pid (holders r.store request.pid) := if_pos hevery
  have hadmitted : isAdmitted d request r = admits d request r := if_pos hevery
  cases hadmits : admits d request r with
  | false =>
    obtain ⟨reason, hhandle⟩ := hall.handle_of_not_admits hadmits custom fallback w
    refine ⟨.refused reason, r, hhandle, .of_refused ?_⟩
    rw [acceptedBy, hadmitted, hadmits]
    rfl
  | true =>
    obtain ⟨captured, hdevices, -, hhandle⟩ := hall.handle_of_admits hadmits custom fallback w
    obtain ⟨verdict, r', hrun, hverdict, hnoted⟩ :=
      applyEach_noted custom request hstore captured [] r w (.refl hstore) (.refl r.store)
    have haccepted : acceptedBy d request r = accepting r.store request (named request r) := by
      rw [acceptedBy, hadmitted, hadmits]
      rfl
    rw [hdevices, ← hnamed, ← haccepted] at hverdict hnoted
    refine ⟨verdict, r', hhandle hrun, hnoted.changed, ?_⟩
    rcases hverdict with ⟨rfl, hkeys⟩ | ⟨hrefused, hkeys⟩
    · exact ⟨nofun, fun hne => absurd hkeys hne⟩
    · exact ⟨fun _ => hkeys, fun _ => hrefused⟩

theorem StoresValue.handle (h : StoresValue request r d) (hstore : r.store.WellFormed)
    (custom : κ → Handler κ γ ω) (fallback : Fallback κ γ ω ε) (w : ω) :
    ∃ verdict r', Responder.handle custom fallback request r w =
        (conclude request r' verdict, r', w) ∧ Stores d request r verdict r' := by
  by_cases hevery : request.subDevice = SubDevice.every
  · exact h.handle_every hstore hevery custom fallback w
  · exact h.handle_one hstore hevery custom fallback w

theorem StoresValue.used (h : StoresValue request r d) (custom : κ → Handler κ γ ω)
    (fallback : Fallback κ γ ω ε) (w : ω) :
    r.store.Used (Responder.handle custom fallback request r w).2.1.store := by
  have hname (name : HandlerName κ) (hsome : d.handlers.forCommand? request.commandClass =
      some name) : Keeps (fun r' : Responder κ γ => r.store.Used r'.store)
        (interpret custom name) := by
    rw [h.commandClass, h.handler] at hsome
    cases hsome
    exact fun request r' _ hused => hused.trans (used_run .simpleSet request r')
  have hused := keeps_dispatch (fun key value _ hused => hused.set key value) hname r w .refl
  rw [handle_of_dispatch h.heard h.definition rfl]
  exact hused

/-! ## Requests for reports -/

/-- A request for the oldest change, or for status messages of some severity. -/
structure AsksReport (request : Request) (r : Responder κ γ) (type : StatusType) : Prop where
  commandClass : request.commandClass = .get
  pid : request.pid = Pid.queuedMessage
  data : request.data.bytes = [type.code]
  severity : isSeverity type = true
  destination : request.destination.targets r.uid = true

/-- A report of a change: the value is the present one, and so many keys are left. -/
structure Tells (r : Responder κ γ) (key : Key) (left : ℕ) (report : Response) : Prop where
  ack : report.type = .ack
  about : reportedKey report = key
  value : r.store.get key = .ok report.data.bytes
  messageCount : report.messageCount.toNat = left

/-- A report of status messages: those of at least the severity, as many as fit. No keys are
left. -/
structure TellsStatuses (r : Responder κ γ) (type : StatusType) (report : Response) : Prop where
  ack : report.type = .ack
  about : reportedKey report = rootKey Pid.statusMessages
  data : report.data = (takeStatuses type.code r.statuses .empty).1
  messageCount : report.messageCount = 0

/-- What is reported while these keys wait. -/
def TellsNext (r : Responder κ γ) (type : StatusType) (report : Response) : List Key → Prop
  | [] => TellsStatuses r type report
  | key :: rest => Tells r key rest.length report

theorem TellsNext.ack {report : Response} (h : TellsNext r type report keys) :
    report.type = .ack := by
  cases keys with
  | nil => exact (show TellsStatuses r type report from h).ack
  | cons key rest => exact (show Tells r key rest.length report from h).ack

/-- The keys that wait have values, and these fit into one response. -/
def Reportable (r : Responder κ γ) : Prop :=
  ∀ key ∈ r.store.changed, ∃ value, r.store.get key = .ok value ∧
    value.length ≤ maxParameterLength

theorem Serving.used (h : Serving r) (hused : r.store.Used r'.store) : Serving r' := by
  have hstore := (stable_serving Simulation.MemoryStorage.keyValue).use h hused
  exact hstore.of_store_eq rfl

/-- The oldest key is taken out of the queue. -/
def dequeued (r : Responder κ γ) : Responder κ γ :=
  { r with store := { r.store with changed := r.store.changed.tail } }

theorem used_dequeued (r : Responder κ γ) : r.store.Used r.dequeued.store := by
  cases hchanged : r.store.changed with
  | nil =>
    have hsame : r.dequeued.store = r.store := by
      rw [dequeued, hchanged, List.tail_nil, ← hchanged]
    exact hsame ▸ .refl
  | cons key rest =>
    have hrest := Store.Used.refl.dequeue [key] (s := r.store) hchanged
    rw [dequeued, hchanged]
    exact hrest

theorem popQueued_of_unchanged (hchanged : r.store.changed = []) (type : StatusType)
    (request : Request) : popQueued type request r =
      reportQueued (queuedResponse request (rootKey Pid.statusMessages) (popStatuses type r).1
        (popStatuses type r).2) (popStatuses type r).2 := by
  have hsame : { r with store := { r.store with changed := [] } } = r := by
    rw [← hchanged]
  rw [popQueued, hchanged, takeChanged]
  dsimp only
  rw [hsame]

/-- How a request for a report ends. While keys wait, status messages are left alone. -/
structure Reports (r : Responder κ γ) (type : StatusType) (report : Response)
    (r' : Responder κ γ) : Prop where
  tells : TellsNext r type report r.store.changed
  store : r'.store = r.dequeued.store
  config : r'.config = r.config
  statuses : r.store.changed ≠ [] → r'.statuses = r.statuses

theorem Reports.used {report : Response} (h : Reports r type report r') :
    r.store.Used r'.store := by
  rw [h.store]
  exact used_dequeued r

theorem Reports.reportable {report : Response} (h : Reports r type report r')
    (hreportable : Reportable r) : Reportable r' := by
  intro key hkey
  rw [h.store] at hkey ⊢
  exact hreportable key (List.mem_of_mem_tail hkey)

theorem reports_popQueued (h : Serving r) (hreportable : Reportable r) (type : StatusType)
    (request : Request) : ∃ report, (popQueued type request r).1 = .done (.custom report) ∧
      Reports r type report (popQueued type request r).2 := by
  have hleft := (h.used (used_dequeued r)).toNat_messageCount
  cases hchanged : r.store.changed with
  | nil =>
    rw [popQueued_of_unchanged hchanged]
    refine ⟨_, rfl, ?_, ?_, rfl, fun hne => absurd hchanged hne⟩
    · rw [hchanged]
      refine ⟨rfl, rfl, rfl, ?_⟩
      change (popStatuses type r).2.messageCount = 0
      rw [messageCount, popStatuses, hchanged]
      rfl
    · change r.store = _
      rw [dequeued, hchanged, List.tail_nil, ← hchanged]
  | cons key rest =>
    obtain ⟨value, hvalue, hlength⟩ := hreportable key (hchanged ▸ List.mem_cons_self)
    rw [popQueued_of_changed hchanged hvalue hlength]
    rw [dequeued, hchanged, List.tail_cons] at hleft
    refine ⟨_, rfl, ?_, ?_, rfl, fun _ => rfl⟩
    · rw [hchanged]
      exact ⟨rfl, rfl, hvalue, hleft⟩
    · rw [dequeued, hchanged]
      rfl

/-- A request for a report of a device that is there. -/
theorem AsksReport.handle (hasks : AsksReport request r type) (h : Serving r)
    (hreportable : Reportable r) (hdevice : r.store.hasDevice request.subDevice = true)
    (custom : κ → Handler κ γ ω) (fallback : Fallback κ γ ω ε) (w : ω) :
    ∃ report r', Responder.handle custom fallback request r w =
        (.answered (if request.destination.isBroadcast then .silent else .response report), r', w) ∧
      Reports r type report r' := by
  obtain ⟨report, hverdict, hreports⟩ := reports_popQueued h hreportable type request
  refine ⟨report, _, ?_, hreports⟩
  rw [handle_queuedMessage h hasks.pid hasks.destination hasks.commandClass hdevice hasks.data
    hasks.severity, hverdict]
  rfl

/-- A request for a report of a device that is not there changes nothing. -/
theorem AsksReport.handle_absent (hasks : AsksReport request r type) (h : Serving r)
    (hdevice : r.store.hasDevice request.subDevice = false) (custom : κ → Handler κ γ ω)
    (fallback : Fallback κ γ ω ε) (w : ω) : Responder.handle custom fallback request r w =
      (conclude request r (.refused .subDeviceOutOfRange), r, w) :=
  handle_get_absent h .queuedMessage (by decide) hasks.pid hasks.destination hasks.commandClass
    hdevice (Format.describes_byte_iff.mpr (congrArg List.length hasks.data)) custom fallback w

/-! ## Runs -/

/-- The reports among the answers. -/
def reportsIn : Outcome ε → List QueueEvent
  | .answered (.response response) => if response.type = .ack then [.reported response] else []
  | _ => []

/-- What a run is made of, and what it does to the queue of changes: the device sets a value, a
value is sent to it, or it is asked for a report. What a request leaves behind that fails midway is
no matter of these runs. -/
inductive Turn (custom : κ → Handler κ γ ω) (fallback : Fallback κ γ ω ε) (r : Responder κ γ) :
    List QueueEvent → Responder κ γ → Prop where
  | setAndQueue (key : Key) (value : Bytes) :
    Turn custom fallback r (if r.store.accepts key value then [.changed key] else [])
      { r with store := (Store.Change.setAndQueue key value r.store).2 }
  | store {request : Request} {d : ParameterDefinition (HandlerName κ)} (w : ω) :
    StoresValue request r d → ¬ FailsMidway d request r →
    Turn custom fallback r ((changedBy d request r).map .changed)
      (handle custom fallback request r w).2.1
  | ask {request : Request} {type : StatusType} (w : ω) :
    AsksReport request r type → request.destination.isBroadcast = false →
    Turn custom fallback r (reportsIn (handle custom fallback request r w).1)
      (handle custom fallback request r w).2.1

/-- A run in which all values fit into one response, with what it did to the queue of changes. -/
inductive Ledger (custom : κ → Handler κ γ ω) (fallback : Fallback κ γ ω ε) :
    List QueueEvent → Responder κ γ → Prop where
  | start {r : Responder κ γ} : Serving r → Reportable r →
    Ledger custom fallback (r.store.changed.map .changed) r
  | turn {log events : List QueueEvent} {r r' : Responder κ γ} : Ledger custom fallback log r →
    Turn custom fallback r events r' → r'.Fits → Ledger custom fallback (log ++ events) r'

/-- The queue holds what it has room for of what has not been reported. -/
structure Balanced (log : List QueueEvent) (r : Responder κ γ) : Prop where
  serving : Serving r
  changed : r.store.changed = queued log
  reportable : Reportable r

theorem balanced_start (h : Serving r) (hreportable : Reportable r) :
    Balanced (r.store.changed.map .changed) r := by
  have hlog := queued_changed [] r.store.changed
  have hkept := foldl_enqueue r.store.changed [] (Nat.zero_le 16) h.builtins.1.changed_nodup
  have hle : r.store.changed.length ≤ 16 := h.builtins.1.changed_le
  rw [List.rtake, List.nil_append, Nat.sub_eq_zero_of_le hle, List.drop_zero] at hkept
  exact ⟨h, (hlog.trans hkept).symm, hreportable⟩

theorem exists_entry_of_get {value : Bytes} (h : r.store.get key = .ok value) :
    ∃ entry, r.store.contents key = some entry := by
  rw [Store.get_eq] at h
  cases hentry : r.store.contents key with
  | none =>
    rw [hentry] at h
    cases h
  | some entry => exact ⟨entry, rfl⟩

/-- A parameter that has a value does not lose it. -/
theorem exists_get_of_used (h : Serving r) (hused : r.store.Used r'.store) {entry : Entry}
    (hentry : r.store.contents key = some entry) : ∃ value, r'.store.get key = .ok value := by
  have hclass := (hused.retains h.builtins.1).classes key
  rw [hentry, Option.map_some, Option.map_eq_some_iff] at hclass
  obtain ⟨present, hpresent, -⟩ := hclass
  exact ⟨_, Store.get_of_contents hpresent⟩

/-- After keys were queued that accept values, all keys that wait have values. -/
theorem Reportable.write (hreportable : Reportable r) (h : Serving r)
    (hused : r.store.Used r'.store)
    (hkeys : ∀ key ∈ keys, ∃ value, r.store.accepts key value = true)
    (hchanged : r'.store.changed = keys.foldl Store.enqueue r.store.changed) (hfits : r'.Fits) :
    Reportable r' := by
  intro key hkey
  have hentry : ∃ entry, r.store.contents key = some entry := by
    rcases mem_foldl_enqueue (hchanged ▸ hkey) with hwaiting | hnew
    · obtain ⟨value, hvalue, -⟩ := hreportable key hwaiting
      exact exists_entry_of_get hvalue
    · obtain ⟨value, haccepts⟩ := hkeys key hnew
      obtain ⟨entry, -, hentry, -⟩ := (Store.accepts_iff h.builtins.1).mp haccepts
      exact ⟨entry, hentry⟩
  obtain ⟨entry, hentry⟩ := hentry
  obtain ⟨value, hvalue⟩ := exists_get_of_used h hused hentry
  exact ⟨value, hvalue, hfits key value hvalue⟩

/-- What is reported is no longer waiting, and everything else still is. -/
theorem Reports.queued_eq {report : Response} (h : Reports r type report r')
    (hbalanced : Balanced log r) :
    queued (log ++ [.reported report]) = r.store.changed.tail := by
  have htells := h.tells
  rw [queued_concat, QueueEvent.apply, ← hbalanced.changed]
  cases hchanged : r.store.changed with
  | nil => rfl
  | cons key rest =>
    rw [hchanged] at htells
    have hnodup : (key :: rest).Nodup := hchanged ▸ hbalanced.serving.builtins.1.changed_nodup
    rw [htells.about, List.filter_cons_of_neg (by simp), List.tail_cons, List.filter_eq_self]
    rintro other hother
    exact decide_eq_true fun heq => (List.nodup_cons.mp hnodup).1 (heq ▸ hother)

theorem Reports.balanced {report : Response} (h : Reports r type report r')
    (hbalanced : Balanced log r) : Balanced (log ++ [.reported report]) r' := by
  refine ⟨hbalanced.serving.used h.used, ?_, h.reportable hbalanced.reportable⟩
  rw [h.store, h.queued_eq hbalanced]
  rfl

theorem reportsIn_refused (request : Request) (r : Responder κ γ) (reason : NackReason) :
    reportsIn (conclude request r (.refused reason) : Outcome ε) = [] := by
  simp only [conclude, answer, respond, Request.respond?]
  cases request.destination.uid? <;> rfl

theorem AsksReport.balanced (hasks : AsksReport request r type) (h : Balanced log r)
    (hunicast : request.destination.isBroadcast = false) (custom : κ → Handler κ γ ω)
    (fallback : Fallback κ γ ω ε) (w : ω) :
    Balanced (log ++ reportsIn (Responder.handle custom fallback request r w).1)
      (Responder.handle custom fallback request r w).2.1 := by
  cases hdevice : r.store.hasDevice request.subDevice with
  | false =>
    rw [hasks.handle_absent h.serving hdevice, reportsIn_refused, List.append_nil]
    exact h
  | true =>
    obtain ⟨report, r', hhandle, hreports⟩ :=
      hasks.handle h.serving h.reportable hdevice custom fallback w
    rw [hhandle, hunicast]
    simp only [reportsIn, hreports.tells.ack, Bool.false_eq_true, if_false, if_true]
    exact hreports.balanced h

variable {custom : κ → Handler κ γ ω} {fallback : Fallback κ γ ω ε}

theorem accepts_of_mem_acceptedBy (hkey : key ∈ acceptedBy d request r) :
    r.store.accepts key request.data.bytes = true := by
  rw [acceptedBy] at hkey
  split_ifs at hkey
  · rw [accepting] at hkey
    exact List.mem_takeWhile_imp (p := fun key => r.store.accepts key request.data.bytes) hkey
  · cases hkey

/-- Keys that accept values are queued, whether the device sets the values or they are sent to
it. -/
theorem Balanced.write (h : Balanced log r) (hused : r.store.Used r'.store)
    (hkeys : ∀ key ∈ keys, ∃ value, r.store.accepts key value = true)
    (hchanged : r'.store.changed = keys.foldl Store.enqueue r.store.changed) :
    r'.store.changed = queued (log ++ keys.map .changed) ∧
      (r'.Fits → Balanced (log ++ keys.map .changed) r') := by
  have hqueued : r'.store.changed = queued (log ++ keys.map .changed) := by
    rw [queued_changed, ← h.changed]
    exact hchanged
  exact ⟨hqueued, fun hfits => ⟨h.serving.used hused, hqueued,
    h.reportable.write h.serving hused hkeys hchanged hfits⟩⟩

/-- What a turn does to the queue is what its events do, and the run may go on if all values still
fit into one response. -/
theorem Turn.balanced (hturn : Turn custom fallback r events r') (h : Balanced log r) :
    r'.store.changed = queued (log ++ events) ∧ (r'.Fits → Balanced (log ++ events) r') := by
  cases hturn with
  | setAndQueue key value =>
    have hevents : (if r.store.accepts key value then [QueueEvent.changed key] else []) =
        (if r.store.accepts key value then [key] else []).map .changed := by
      split_ifs <;> rfl
    rw [hevents]
    refine h.write (.setAndQueue .refl key value) (fun other hother => ?_)
      (changed_setAndQueue key value r.store)
    split_ifs at hother with haccepts
    · obtain rfl := List.mem_singleton.mp hother
      exact ⟨value, haccepts⟩
    · cases hother
  | store w hstores hwhole =>
    obtain ⟨verdict, r', hhandle, hend⟩ :=
      hstores.handle h.serving.builtins.1 custom fallback w
    have hused := hstores.used custom fallback w
    rw [hhandle] at hused ⊢
    rw [← acceptedBy_eq_changedBy hwhole]
    exact h.write hused (fun key hkey => ⟨_, accepts_of_mem_acceptedBy hkey⟩) hend.changed
  | ask w hasks hunicast =>
    have hbalanced := hasks.balanced h hunicast custom fallback w
    exact ⟨hbalanced.changed, fun _ => hbalanced⟩

theorem Ledger.balanced (h : Ledger custom fallback log r) : Balanced log r := by
  induction h with
  | start hserving hreportable => exact balanced_start hserving hreportable
  | turn _ hturn hfits ih => exact (hturn.balanced ih).2 hfits

/-! ## Emptying the queue -/

/-- Hands requests to a device in order. -/
def handleEach (custom : κ → Handler κ γ ω) (fallback : Fallback κ γ ω ε) :
    List Request → Responder κ γ → ω → List (Outcome ε) × Responder κ γ × ω
  | [], r, w => ([], r, w)
  | request :: rest, r, w =>
    let (outcome, r, w) := handle custom fallback request r w
    let (outcomes, r, w) := handleEach custom fallback rest r w
    (outcome :: outcomes, r, w)

/-- A request for a report that is answered. -/
structure Polls (request : Request) (r : Responder κ γ) (type : StatusType) : Prop
    extends AsksReport request r type where
  unicast : request.destination.isBroadcast = false
  device : r.store.hasDevice request.subDevice = true

/-- All keys that wait are reported, the oldest one first, each with its present value and with the
number of those that are left. -/
structure Drains (r : Responder κ γ) (reports : List Response) (r' : Responder κ γ) : Prop where
  keys : reports.map reportedKey = r.store.changed
  values : ∀ report ∈ reports, report.type = .ack ∧
    r.store.get (reportedKey report) = .ok report.data.bytes
  messageCounts : reports.map (·.messageCount.toNat) = (List.range reports.length).reverse
  store : r'.store = { r.store with changed := [] }
  config : r'.config = r.config
  statuses : r'.statuses = r.statuses

theorem Polls.handle (h : Polls request r type) (hserving : Serving r)
    (hreportable : Reportable r) (custom : κ → Handler κ γ ω) (fallback : Fallback κ γ ω ε)
    (w : ω) : ∃ report r', Responder.handle custom fallback request r w =
        (.answered (.response report), r', w) ∧ Reports r type report r' := by
  obtain ⟨report, r', hhandle, hreports⟩ :=
    h.toAsksReport.handle hserving hreportable h.device custom fallback w
  rw [h.unicast] at hhandle
  exact ⟨report, r', hhandle, hreports⟩

/-- Requests for reports do not move devices. -/
theorem Polls.of_same (h : Polls request r type) (hconfig : r'.config = r.config)
    (hdevices : r'.store.devices = r.store.devices) : Polls request r' type where
  toAsksReport := { h.toAsksReport with
    destination := by
      rw [uid, hconfig]
      exact h.destination }
  unicast := h.unicast
  device := by
    rw [Store.hasDevice, hdevices]
    exact h.device

theorem Drains.cons {report : Response} {reports : List Response} {last : Responder κ γ}
    (hwaiting : r.store.changed ≠ []) (hreports : Reports r type report r')
    (hdrains : Drains r' reports last) : Drains r (report :: reports) last := by
  obtain ⟨key, rest, hchanged⟩ := List.exists_cons_of_ne_nil hwaiting
  have htells := hreports.tells
  rw [hchanged] at htells
  have hstore : r'.store = { r.store with changed := rest } := by
    rw [hreports.store, dequeued, hchanged, List.tail_cons]
  have hkeys : reports.map reportedKey = rest := by rw [hdrains.keys, hstore]
  have hlength : reports.length = rest.length := by rw [← hkeys, List.length_map]
  constructor
  · rw [List.map_cons, hkeys, htells.about, hchanged]
  · have hvalues := hdrains.values
    rw [hstore] at hvalues
    refine List.forall_mem_cons.mpr ⟨⟨htells.ack, ?_⟩, hvalues⟩
    rw [htells.about]
    exact htells.value
  · rw [List.map_cons, hdrains.messageCounts, htells.messageCount, List.length_cons,
      List.range_succ, List.reverse_concat, hlength]
  · rw [hdrains.store, hstore]
  · exact hdrains.config.trans hreports.config
  · exact hdrains.statuses.trans (hreports.statuses hwaiting)

theorem drains_handleEach (custom : κ → Handler κ γ ω) (fallback : Fallback κ γ ω ε)
    (questions : List Request) (w : ω) : ∀ {r : Responder κ γ}, Serving r → Reportable r →
      questions.length = r.store.changed.length →
      (∀ question ∈ questions, ∃ type, Polls question r type) →
      ∃ reports r', handleEach custom fallback questions r w =
        (reports.map fun report => .answered (.response report), r', w) ∧
        Drains r reports r' := by
  induction questions with
  | nil =>
    intro r _ _ hlength _
    have hnil : r.store.changed = [] := List.length_eq_zero_iff.mp hlength.symm
    refine ⟨[], r, rfl, hnil.symm, nofun, rfl, ?_, rfl, rfl⟩
    rw [← hnil]
  | cons question questions ih =>
    intro r hserving hreportable hlength hpolls
    have hwaiting : r.store.changed ≠ [] := List.ne_nil_of_length_eq_add_one hlength.symm
    obtain ⟨type, hfirst⟩ := hpolls question List.mem_cons_self
    obtain ⟨report, r', hhandle, hreports⟩ :=
      hfirst.handle hserving hreportable custom fallback w
    have hlength' : questions.length = r'.store.changed.length := by
      rw [hreports.store, dequeued, List.length_tail, ← hlength, List.length_cons]
      rfl
    have hpolls' : ∀ other ∈ questions, ∃ type, Polls other r' type := by
      intro other hother
      obtain ⟨type, hpoll⟩ := hpolls other (List.mem_cons_of_mem _ hother)
      exact ⟨type, hpoll.of_same hreports.config (by rw [hreports.store, dequeued])⟩
    obtain ⟨reports, last, hhandles, hdrains⟩ :=
      ih (hserving.used hreports.used) (hreports.reportable hreportable) hlength' hpolls'
    refine ⟨report :: reports, last, ?_, hdrains.cons hwaiting hreports⟩
    rw [handleEach, hhandle]
    dsimp only
    rw [hhandles]
    rfl

theorem handleEach_concat (questions : List Request) (last : Request) (r : Responder κ γ) (w : ω) :
    handleEach custom fallback (questions ++ [last]) r w =
      let (outcomes, r, w) := handleEach custom fallback questions r w
      let (outcome, r, w) := handle custom fallback last r w
      (outcomes ++ [outcome], r, w) := by
  induction questions generalizing r w with
  | nil => rfl
  | cons question questions ih =>
    rw [List.cons_append, handleEach]
    dsimp only
    rw [ih]
    rfl

/-- With one more request than there are keys that wait, the queue is emptied and status messages
are reported. -/
theorem exists_drained (hserving : Serving r) (hreportable : Reportable r)
    {questions : List Request} {last : Request}
    (hlength : questions.length = r.store.changed.length)
    (hpolls : ∀ question ∈ questions, ∃ type, Polls question r type) (hlast : Polls last r type)
    (custom : κ → Handler κ γ ω) (fallback : Fallback κ γ ω ε) (w : ω) :
    ∃ reports final r' r'', handleEach custom fallback (questions ++ [last]) r w =
        ((reports ++ [final]).map fun report => .answered (.response report), r'', w) ∧
      Drains r reports r' ∧ TellsStatuses r type final := by
  obtain ⟨reports, r', hhandles, hdrains⟩ :=
    drains_handleEach custom fallback questions w hserving hreportable hlength hpolls
  have hchanged : r'.store.changed = [] := by rw [hdrains.store]
  have hused : r.store.Used r'.store := by
    rw [hdrains.store]
    exact Store.Used.refl.dequeue r.store.changed (List.append_nil _).symm
  have hempty : Reportable r' := by
    intro key hkey
    rw [hchanged] at hkey
    cases hkey
  have hlast' : Polls last r' type := hlast.of_same hdrains.config (by rw [hdrains.store])
  obtain ⟨final, r'', hhandle, hreports⟩ :=
    hlast'.handle (hserving.used hused) hempty custom fallback w
  have htells := hreports.tells
  rw [hchanged] at htells
  refine ⟨reports, final, r', r'', ?_, hdrains, htells.ack, htells.about, ?_, htells.messageCount⟩
  · rw [handleEach_concat, hhandles]
    dsimp only
    rw [hhandle, List.map_append]
    rfl
  · rw [← hdrains.statuses]
    exact htells.data

/-! ## Changes and reports -/

/-- In a run in which all values fit into one response, the queue holds what it has room for of what
has not been reported. As long as never more than 16 keys wait, that is all of it: the keys that
have changed since they were last reported, each once, behind those that waited when it changed. A
request to store a value that is not refused changes all the keys that it is about, and one that is
refused none. A request for a report is answered with the present value of the first key that waits,
and with status messages only if none waits; but a broadcast one takes the key out of the queue
without an answer. As many requests as keys wait report all of them in order, while the message
count falls to 0, and one more reports status messages. Whatever a turn changes, the queue then
holds what its events make of it; of further keys and those that wait, it holds the last 16, so that
each one too many drives out the one that has waited the longest. -/
theorem changes_reported (h : Ledger custom fallback log r) :
    r.store.changed = queued log ∧ (queued log).Nodup ∧
    ((∀ early, early <+: log → (unreported early).length ≤ 16) → queued log = unreported log) ∧
    (∀ key, key ∈ unreported log ↔ Outstanding log key) ∧
    (∀ front key back, unreported log = front ++ key :: back → ∃ before after,
      log = before ++ .changed key :: after ∧ Silent key after ∧ key ∉ unreported before ∧
      front ⊆ unreported before) ∧
    (∀ request d w, StoresValue request r d → ∃ verdict r',
      handle custom fallback request r w = (conclude request r' verdict, r', w) ∧
      ((∃ reason, verdict = .refused reason) ↔ changedBy d request r ≠ named request r)) ∧
    (∀ request type w, AsksReport request r type → r.store.hasDevice request.subDevice = true →
      ∃ report r', handle custom fallback request r w = (.answered
          (if request.destination.isBroadcast then .silent else .response report), r', w) ∧
        TellsNext r type report (queued log) ∧ r'.store.changed = (queued log).tail) ∧
    (∀ questions last type w, questions.length = (queued log).length →
      (∀ question ∈ questions, ∃ type, Polls question r type) → Polls last r type →
      ∃ reports final r', handleEach custom fallback (questions ++ [last]) r w =
          ((reports ++ [final]).map fun report => .answered (.response report), r', w) ∧
        reports.map reportedKey = queued log ∧
        (∀ report ∈ reports, report.type = .ack ∧
          r.store.get (reportedKey report) = .ok report.data.bytes) ∧
        reports.map (·.messageCount.toNat) = (List.range reports.length).reverse ∧
        TellsStatuses r type final) ∧
    (∀ events r', Turn custom fallback r events r' → r'.store.changed = queued (log ++ events)) ∧
    ∀ keys r', Turn custom fallback r (keys.map .changed) r' → (queued log ++ keys).Nodup →
      r'.store.changed = (queued log ++ keys).rtake 16 := by
  have hbalanced := h.balanced
  have hserving := hbalanced.serving
  have hchanged := hbalanced.changed
  have hreportable := hbalanced.reportable
  refine ⟨hchanged, hchanged ▸ hserving.builtins.1.changed_nodup, queued_eq_unreported,
    fun key => mem_unreported_iff, fun front key back => unreported_order, ?_, ?_, ?_,
    fun events r' hturn => (hturn.balanced hbalanced).1, ?_⟩
  · intro request d w hstores
    obtain ⟨verdict, r', hhandle, hend⟩ := hstores.handle hserving.builtins.1 custom fallback w
    exact ⟨verdict, r', hhandle, hend.refused.trans changedBy_eq_named_iff.not.symm⟩
  · intro request type w hasks hdevice
    obtain ⟨report, r', hhandle, hreports⟩ :=
      hasks.handle hserving hreportable hdevice custom fallback w
    refine ⟨report, r', hhandle, hchanged ▸ hreports.tells, ?_⟩
    rw [hreports.store, ← hchanged]
    rfl
  · intro questions last type w hlength hpolls hlast
    obtain ⟨reports, final, _, r', hhandles, hdrains, hfinal⟩ := exists_drained hserving hreportable
      (hchanged ▸ hlength) hpolls hlast custom fallback w
    exact ⟨reports, final, r', hhandles, hchanged ▸ hdrains.keys, hdrains.values,
      hdrains.messageCounts, hfinal⟩
  · intro keys r' hturn hnew
    have hle : (queued log).length ≤ 16 := hchanged ▸ hserving.builtins.1.changed_le
    rw [(hturn.balanced hbalanced).1, queued_changed, foldl_enqueue keys _ hle hnew]

/-- The device begins to identify itself. -/
def identifyingDevice : Responder Empty Empty :=
  exampleDevice [.setAndQueue (rootKey Pid.identifyDevice) [1]]

/-- The device is given a label. -/
def setRootLabel : Request :=
  { setAllLabels with subDevice := SubDevice.root }

/-- The device has been given a label as well. -/
def labelledDevice : Responder Empty Empty :=
  (handle Empty.elim (noFallback : Fallback Empty Empty Unit Empty) setRootLabel identifyingDevice
    ()).2.1

/-- The device identifies itself no longer. -/
def restingDevice : Responder Empty Empty :=
  { labelledDevice with
    store := (Store.Change.setAndQueue (rootKey Pid.identifyDevice) [0] labelledDevice.store).2 }

theorem storesValue_setRootLabel :
    StoresValue setRootLabel identifyingDevice labelDefinition where
  commandClass := rfl
  destination := by cbv
  definition := by cbv
  handler := rfl

theorem ledger_identifyingDevice :
    Ledger Empty.elim (noFallback : Fallback Empty Empty Unit Empty)
      [.changed (rootKey Pid.identifyDevice)] identifyingDevice := by
  have hunchanged : (exampleDevice []).store.changed = [] := by decide +kernel
  have haccepts : (exampleDevice []).store.accepts (rootKey Pid.identifyDevice) [1] = true := by
    decide +kernel
  have hstart : Ledger Empty.elim (noFallback : Fallback Empty Empty Unit Empty)
      ((exampleDevice []).store.changed.map .changed) (exampleDevice []) := by
    refine .start (exampleDevice_running []).serving fun key hkey => ?_
    rw [hunchanged] at hkey
    cases hkey
  have hledger := hstart.turn (.setAndQueue (rootKey Pid.identifyDevice) [1])
    (fits_of_capacity (exampleDevice_running
      [.setAndQueue (rootKey Pid.identifyDevice) [1]]).serving.builtins.1 (by decide +kernel))
  rw [hunchanged, if_pos haccepts] at hledger
  exact hledger

theorem ledger_labelledDevice :
    Ledger Empty.elim (noFallback : Fallback Empty Empty Unit Empty)
      [.changed (rootKey Pid.identifyDevice), .changed (rootKey Pid.deviceLabel)]
      labelledDevice := by
  have hkeys : changedBy labelDefinition setRootLabel identifyingDevice =
      [rootKey Pid.deviceLabel] := by
    decide +kernel
  have hserving : Serving labelledDevice := ledger_identifyingDevice.balanced.serving.used
    (storesValue_setRootLabel.used Empty.elim noFallback ())
  have hledger := ledger_identifyingDevice.turn
    (.store () storesValue_setRootLabel (mt FailsMidway.every (by decide)))
    (fits_of_capacity hserving.builtins.1 (by decide +kernel))
  rw [hkeys] at hledger
  exact hledger

theorem ledger_restingDevice :
    Ledger Empty.elim (noFallback : Fallback Empty Empty Unit Empty)
      [.changed (rootKey Pid.identifyDevice), .changed (rootKey Pid.deviceLabel),
        .changed (rootKey Pid.identifyDevice)] restingDevice := by
  have haccepts : labelledDevice.store.accepts (rootKey Pid.identifyDevice) [0] = true := by
    decide +kernel
  have hserving : Serving restingDevice := ledger_labelledDevice.balanced.serving.used
    (.setAndQueue .refl (rootKey Pid.identifyDevice) [0])
  have hledger := ledger_labelledDevice.turn (.setAndQueue (rootKey Pid.identifyDevice) [0])
    (fits_of_capacity hserving.builtins.1 (by decide +kernel))
  rw [if_pos haccepts] at hledger
  exact hledger

/-- Both changes are reported, the one that was made twice with its last value. -/
theorem changes_reported_restingDevice :
    let identify := rootKey Pid.identifyDevice
    let label := rootKey Pid.deviceLabel
    let questions := [askReport firstAsker .advisory 1, askReport secondAsker .error 2]
    let last := askReport firstAsker .warning 3
    Ledger Empty.elim (noFallback : Fallback Empty Empty Unit Empty)
      [.changed identify, .changed label, .changed identify] restingDevice ∧
    restingDevice.store.changed = [identify, label] ∧
    ∃ reports final r', handleEach Empty.elim (noFallback : Fallback Empty Empty Unit Empty)
        (questions ++ [last]) restingDevice () =
          ((reports ++ [final]).map fun report => .answered (.response report), r', ()) ∧
      reports.map reportedKey = [identify, label] ∧
      (∀ report ∈ reports, restingDevice.store.get (reportedKey report) = .ok report.data.bytes) ∧
      reports.map (·.messageCount.toNat) = [1, 0] ∧
      TellsStatuses restingDevice .warning final := by
  intro identify label questions last
  obtain ⟨hchanged, -, -, -, -, -, -, hdrained, -⟩ := changes_reported ledger_restingDevice
  have htargets : (Address.device exampleConfig.uid).targets restingDevice.uid = true := by cbv
  have hdevice : restingDevice.store.hasDevice SubDevice.root = true := by decide +kernel
  have hpolls (asker : Uid) (type : StatusType) (transaction : UInt8)
      (htype : isSeverity type = true) :
      Polls (askReport asker type transaction) restingDevice type :=
    ⟨⟨rfl, rfl, rfl, htype, htargets⟩, rfl, hdevice⟩
  have hquestions : ∀ question ∈ questions, ∃ type, Polls question restingDevice type :=
    List.forall_mem_cons.mpr ⟨⟨.advisory, hpolls firstAsker .advisory 1 rfl⟩,
      List.forall_mem_singleton.mpr ⟨.error, hpolls secondAsker .error 2 rfl⟩⟩
  obtain ⟨reports, final, r', hhandles, hkeys, hvalues, hcounts, hfinal⟩ :=
    hdrained questions last .warning () rfl hquestions (hpolls firstAsker .warning 3 rfl)
  have hlength : reports.length = 2 := by
    rw [← List.length_map, hkeys]
    rfl
  rw [hlength] at hcounts
  exact ⟨ledger_restingDevice, hchanged, reports, final, r', hhandles, hkeys,
    fun report hreport => (hvalues report hreport).2, hcounts, hfinal⟩

/-! ## A request for reports that nobody answers -/

/-- All devices are asked for reports. -/
def askEverybody : Request :=
  { askReport firstAsker .advisory 1 with destination := .broadcast }

/-- The device after that request. -/
def askedDevice : Responder Empty Empty :=
  (handle Empty.elim (noFallback : Fallback Empty Empty Unit Empty) askEverybody identifyingDevice
    ()).2.1

/-- The device reports that it has no status messages. -/
def emptyReport : Response where
  destination := .device firstAsker
  source := exampleConfig.uid
  transaction := 2
  type := .ack
  messageCount := 0
  subDevice := SubDevice.root
  commandClass := .get
  pid := Pid.statusMessages
  data := .empty

/-- A broadcast request uses up the report of a change that nobody has been told of. -/
theorem change_never_reported :
    let change := rootKey Pid.identifyDevice
    let handled (request : Request) (r : Responder Empty Empty) :=
      handle Empty.elim (noFallback : Fallback Empty Empty Unit Empty) request r ()
    Ledger Empty.elim (noFallback : Fallback Empty Empty Unit Empty) [.changed change]
      identifyingDevice ∧
    AsksReport askEverybody identifyingDevice .advisory ∧
    (handled askEverybody identifyingDevice).1 = .answered .silent ∧
    Polls (askReport firstAsker .advisory 2) askedDevice .advisory ∧
    (handled (askReport firstAsker .advisory 2) askedDevice).1 =
      .answered (.response emptyReport) ∧
    reportedKey emptyReport ≠ change := by
  refine ⟨ledger_identifyingDevice, ⟨rfl, rfl, rfl, rfl, rfl⟩, ?_, ⟨⟨rfl, rfl, rfl, rfl, ?_⟩, rfl,
    ?_⟩, ?_, by decide⟩
  all_goals cbv

end Responder

end LightingBus
