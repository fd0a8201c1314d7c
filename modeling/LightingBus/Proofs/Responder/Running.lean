import LightingBus.Proofs.Responder.Discovery
import LightingBus.Proofs.Responder.FanOut

/-!
# Responders in service

A responder that was set up is altered by its program and asked by controllers, in any order
(`Running`). Whatever else happens to it,

* its store begins with the built-in definitions (`Running.serving`), and
* what it remembers of its reports are reports of its own (`Running.recorded`).

What the program can do is stated as a relation (`Altered`) and not as a list of operations: the
typed parameters, sensors, status messages and the permanent storage are instances of it (the
`altered_` lemmas), and handlers that a device brings along can do no more than that.
-/

namespace LightingBus

namespace Responder

variable {κ γ σ ω ε : Type} {kv : KeyValueStorage σ} {r r' : Responder κ γ}

/-! ## The program of a device -/

/-- What the program of a device can make of its responder. Its store goes through operations, and
notices are fetched. The configuration is fixed, and only the responder itself remembers reports;
all else is open. -/
structure Altered (r r' : Responder κ γ) : Prop where
  config : r'.config = r.config
  lastQueued : r'.lastQueued = r.lastQueued
  lastStatuses : r'.lastStatuses = r.lastStatuses
  store : ∃ s notices, r.store.Leads s ∧ r'.store = { s with notices := notices }

theorem Altered.of_leads {s : Store (HandlerName κ) γ} (h : r.store.Leads s) :
    r.Altered { r with store := s } :=
  ⟨rfl, rfl, rfl, s, s.notices, h, rfl⟩

theorem Altered.refl (r : Responder κ γ) : r.Altered r :=
  .of_leads .refl

/-- What is neither fixed nor in the store may become anything. -/
theorem Altered.of_same (hconfig : r'.config = r.config) (hqueued : r'.lastQueued = r.lastQueued)
    (hstatuses : r'.lastStatuses = r.lastStatuses) (hstore : r'.store = r.store) : r.Altered r' :=
  ⟨hconfig, hqueued, hstatuses, r.store, r.store.notices, .refl, hstore⟩

theorem leads_of_accept (kv : KeyValueStorage σ) (op : Store.Operation (HandlerName κ) γ σ)
    {s s' s'' : Store (HandlerName κ) γ} (h : s.Leads s')
    (haccept : s'.accept (op.run kv) = .ok s'') : s.Leads s'' := by
  have hnext := h.step kv op
  rwa [accept_eq_ok haccept] at hnext

/-- Typed parameters are set by operations that are accepted or change nothing. -/
theorem altered_update (kv : KeyValueStorage σ) (op : Store.Operation (HandlerName κ) γ σ)
    {s : Store (HandlerName κ) γ} (h : r.store.Leads s)
    (hupdate : { r with store := s }.update (fun s => s.accept (op.run kv)) = .ok r') :
    r.Altered r' := by
  obtain ⟨s', hrun, rfl⟩ := update_eq_ok hupdate
  have hnext := h.step kv op
  rw [hrun] at hnext
  exact .of_leads hnext

theorem altered_setAndQueue {key : Key} {value : Bytes}
    (h : r.update (fun s => s.setAndQueue key value) = .ok r') : r.Altered r' :=
  altered_update Simulation.MemoryStorage.keyValue (.setAndQueue key value) .refl h

theorem altered_setStartAddress {address : UInt16} (h : r.setStartAddress address = .ok r') :
    r.Altered r' :=
  altered_setAndQueue h

theorem altered_setIdentify {on : Bool} (h : r.setIdentify on = .ok r') : r.Altered r' :=
  altered_setAndQueue h

theorem altered_setLabel {label : String} (h : r.setLabel label = .ok r') : r.Altered r' := by
  unfold setLabel at h
  split_ifs at h
  exact altered_setAndQueue h

theorem altered_choosePersonality {number : UInt8} (h : r.choosePersonality number = .ok r') :
    r.Altered r' := by
  unfold choosePersonality at h
  split at h
  · cases h
  · exact altered_setAndQueue h

/-- Readings of sensors are not in the store. -/
theorem altered_changeSensor {number : UInt8} {f : SensorReading → SensorReading}
    (h : r.changeSensor number f = .ok r') : r.Altered r' := by
  unfold changeSensor at h
  split at h
  · cases h
  · cases h
    exact .of_same rfl rfl rfl rfl

/-- Status messages that wait are not in the store. -/
theorem altered_pushStatus {m : StatusMessage} (h : r.pushStatus m = some r') : r.Altered r' := by
  unfold pushStatus at h
  split_ifs at h
  cases h
  exact .of_same rfl rfl rfl rfl

theorem altered_commit (kv : KeyValueStorage σ) (r : Responder κ γ) (k : σ) :
    r.Altered (r.commit kv k).2.1 :=
  .of_leads (.step kv (.commit k) .refl)

/-- Values of the permanent storage are taken over and the personality is repaired, also if one of
the two fails. -/
theorem altered_load (kv : KeyValueStorage σ) (r : Responder κ γ) (k : σ) :
    r.Altered (r.load kv k).2.1 := by
  have hloaded : r.store.Leads (r.store.load kv k).2.1 := .step kv (.load k) .refl
  unfold load
  generalize r.store.load kv k = outcome at hloaded ⊢
  obtain ⟨_ | n, store, k'⟩ := outcome
  · exact .of_leads hloaded
  · dsimp only at hloaded ⊢
    split
    next => exact .of_leads hloaded
    next repaired hrepair =>
      unfold repairPersonality at hrepair
      split_ifs at hrepair
      · cases hrepair
        exact .of_leads hloaded
      · exact altered_update kv (.set _ _) hloaded hrepair

/-- Sensors bring two definitions with them, of which the second one may be refused. -/
theorem altered_registerSensors (kv : KeyValueStorage σ) (r : Responder κ γ) (count : UInt8) :
    r.Altered (r.registerSensors count).2 := by
  unfold registerSensors
  split_ifs
  · exact .refl r
  · split
    next => exact .refl r
    next value hvalue =>
      have hleads := leads_of_accept kv (.define sensorValueDefinition) .refl hvalue
      dsimp only
      split
      next => exact .of_leads hleads
      next record hrecord =>
        have hleads := leads_of_accept kv (.define recordSensorsDefinition) hleads hrecord
        exact ⟨rfl, rfl, rfl, record, record.notices, hleads, rfl⟩

/-- A handler that does no more with a responder than its program could do. -/
def Confined (handler : Handler κ γ ω) : Prop :=
  ∀ request (r : Responder κ γ) w, r.Altered (handler request r w).2.1

/-- A fallback that does no more with a responder than its program could do. -/
def ConfinedFallback (fallback : Fallback κ γ ω ε) : Prop :=
  ∀ request (r : Responder κ γ) w, r.Altered (fallback request r w).2.1

theorem confinedFallback_noFallback : ConfinedFallback (noFallback : Fallback κ γ ω ε) :=
  fun _ r _ => .refl r

/-- A responder that was set up, and then altered by its program and asked, again and again. -/
inductive Running : Responder κ γ → Prop where
  | create {config : ResponderConfig} {capacities : Capacities} {r : Responder κ γ} :
    create config capacities = .ok r → Running r
  | alter {r r' : Responder κ γ} : Running r → r.Altered r' → Running r'
  | request {ω ε : Type} {custom : κ → Handler κ γ ω} {fallback : Fallback κ γ ω ε}
      (request : Request) (w : ω) {r : Responder κ γ} : (∀ name, Confined (custom name)) →
    ConfinedFallback fallback → Running r → Running (handle custom fallback request r w).2.1

/-! ## Definitions -/

theorem Serving.leads (h : Serving r) {s : Store (HandlerName κ) γ} (hleads : r.store.Leads s) :
    Serving { r with store := s } := by
  induction hleads with
  | refl => exact h
  | step kv op _ ih => exact ih.operate kv op

theorem Serving.altered (h : Serving r) (haltered : r.Altered r') : Serving r' := by
  obtain ⟨s, notices, hleads, hstore⟩ := haltered.store
  exact (h.leads hleads).other hstore

theorem stable_serving (kv : KeyValueStorage σ) :
    Stable kv (Serving : Responder κ γ → Prop) where
  operate op _ h := h.operate kv op
  of_store_eq h hstore := h.of_store_eq hstore

theorem Running.serving (h : Running r) : r.Serving := by
  induction h with
  | create h => exact .create h
  | alter _ haltered ih => exact ih.altered haltered
  | request request w hcustom hfallback _ ih =>
    exact (stable_serving Simulation.MemoryStorage.keyValue).handle
      (fun name request r w h => h.altered (hcustom name request r w))
      (fun request r w h => h.altered (hfallback request r w)) request _ w ih

/-! ## Reports -/

/-- A report that the device `uid` may have given to a request for queued messages. -/
structure OwnReport (uid : Uid) (response : Response) : Prop where
  destination : ∃ asker, response.destination = .device asker
  source : response.source = uid
  type : response.type = .ack
  commandClass : response.commandClass = .get

/-- Parameter data that consists of whole status messages. -/
def Entries (bytes : Bytes) : Prop :=
  ∃ messages : List StatusMessage, bytes = messages.flatMap StatusMessage.encode

/-- What a device remembers are reports that it gave. -/
structure Recorded (r : Responder κ γ) : Prop where
  queued : ∀ response, r.lastQueued = some response → OwnReport r.uid response
  statuses : Entries r.lastStatuses.bytes

theorem Recorded.of_same (h : Recorded r) (hconfig : r'.config = r.config)
    (hqueued : r'.lastQueued = r.lastQueued) (hstatuses : r'.lastStatuses = r.lastStatuses) :
    Recorded r' := by
  refine ⟨fun response hresponse => ?_, hstatuses ▸ h.statuses⟩
  rw [uid, hconfig]
  exact h.queued response (hqueued ▸ hresponse)

theorem Recorded.altered (h : Recorded r) (haltered : r.Altered r') : Recorded r' :=
  h.of_same haltered.config haltered.lastQueued haltered.lastStatuses

/-- Messages are taken out one after the other. -/
theorem entries_takeStatuses (filter : UInt8) (messages : List StatusMessage) :
    ∀ {data : ParameterData}, Entries data.bytes →
      Entries (takeStatuses filter messages data).1.bytes := by
  induction messages with
  | nil => exact fun h => h
  | cons m messages ih =>
    intro data h
    rw [takeStatuses]
    split_ifs
    · exact ih h
    · split
      next => exact h
      next longer happend =>
        obtain ⟨entries, hentries⟩ := h
        refine ih ⟨entries ++ [m], ?_⟩
        rw [ParameterData.bytes_of_ofBytes? happend, hentries, List.flatMap_append,
          List.flatMap_singleton]

theorem entries_popStatuses (type : StatusType) (r : Responder κ γ) :
    Entries (popStatuses type r).1.bytes :=
  entries_takeStatuses type.code r.statuses ⟨[], rfl⟩

theorem Recorded.popStatuses (h : Recorded r) (type : StatusType) :
    Recorded (popStatuses type r).2 :=
  ⟨h.queued, entries_popStatuses type r⟩

theorem Recorded.reportQueued (h : Recorded r) {response : Response}
    (hown : OwnReport r.uid response) : Recorded (reportQueued response r).2 := by
  refine ⟨fun response' hresponse => ?_, h.statuses⟩
  cases hresponse
  exact hown

theorem ownReport_queuedResponse (request : Request) (key : Key) (data : ParameterData)
    (r : Responder κ γ) : OwnReport r.uid (queuedResponse request key data r) :=
  ⟨⟨request.source, rfl⟩, rfl, rfl, rfl⟩

theorem Recorded.queuedMessage (h : Recorded r) (request : Request) :
    Recorded (queuedMessage request r).2 := by
  unfold Responder.queuedMessage
  split
  next => exact h
  next type _ =>
    split_ifs
    · unfold repeatQueued
      split
      next => exact h
      next response hresponse =>
        obtain ⟨hdestination, hsource, htype, hclass⟩ := h.queued response hresponse
        exact h.reportQueued ⟨hdestination, hsource, htype, hclass⟩
    · unfold popQueued
      split
      next key value rest _ =>
        have hrest : Recorded { r with store := { r.store with changed := rest } } :=
          h.of_same rfl rfl rfl
        dsimp only
        split
        · exact hrest
        · exact hrest.reportQueued (ownReport_queuedResponse ..)
      next rest _ =>
        have hrest : Recorded { r with store := { r.store with changed := rest } } :=
          h.of_same rfl rfl rfl
        exact (hrest.popStatuses type).reportQueued (ownReport_queuedResponse ..)
    · exact h

theorem Recorded.statusMessages (h : Recorded r) (request : Request) :
    Recorded (statusMessages request r).2 := by
  unfold Responder.statusMessages
  split
  next => exact h
  next type _ =>
    split_ifs
    · exact h
    · exact h
    · exact h.popStatuses type
    · exact h

/-- All but two handlers leave alone what the device remembers of its reports. -/
theorem Recorded.runBuiltin (h : Recorded r) (handler : Builtin) (request : Request) :
    Recorded (handler.run request r).2 := by
  cases handler with
  | queuedMessage => exact h.queuedMessage request
  | statusMessages => exact h.statusMessages request
  | simpleSet =>
    change Recorded (storeValue _ _ r).2
    rw [storeValue_snd]
    exact h.of_same rfl rfl rfl
  | setPersonality =>
    simp only [Builtin.run, setPersonality]
    split_ifs
    · exact h
    · split
      · exact h
      · split
        · exact h
        · rw [storeValue_snd]
          exact h.of_same rfl rfl rfl
  | discMute | discUnMute =>
    simp only [Builtin.run, setMuted]
    split_ifs
    · exact h.of_same rfl rfl rfl
    · exact h
  | resetSensor | recordSensors =>
    simp only [Builtin.run, resetSensor, recordSensors]
    split
    · exact h
    · split_ifs
      · exact h.of_same rfl rfl rfl
      · split
        · exact h
        · exact h.of_same rfl rfl rfl
  | _ => exact h

theorem Running.recorded (h : Running r) : r.Recorded := by
  induction h with
  | create hcreate =>
    unfold Responder.create at hcreate
    split_ifs at hcreate
    obtain ⟨s, -, hcreate⟩ := bind_eq_ok.mp hcreate
    cases hcreate
    exact ⟨nofun, [], rfl⟩
  | alter _ haltered ih => exact ih.altered haltered
  | request request w hcustom hfallback _ ih =>
    refine keeps_handle (fun _ _ _ h => h.of_same rfl rfl rfl)
      (keeps_interpret (fun handler request _ h => h.runBuiltin handler request)
        fun name request r w h => h.altered (hcustom name request r w))
      (fun request r w h => h.altered (hfallback request r w)) request _ w ih

theorem exampleDevice_running (ops : List (Store.Operation (HandlerName Empty) Empty Unit)) :
    Running (exampleDevice ops) :=
  (Running.create (eq_ok_get exists_exampleDevice)).alter
    (.of_leads (Store.leads_runAll forgetful ops .refl))

end Responder

end LightingBus
