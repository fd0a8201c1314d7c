import LightingBus.Proofs.Packet.Addresses
import LightingBus.Proofs.Responder.Offers
import LightingBus.Proofs.Responder.Running

/-!
# Muted responders

`answers_of_history`: which requests a responder answers, told from the requests before them.

A request to several devices is never answered with a response, whatever its handler makes of it.
A search is answered by a device in its range, unless the last request that told the device to be
silent or to speak again told it to be silent.

1. Handlers are of two kinds. Those of the three discovery parameters have equations of their own
   (`handle_discovery`); all others are discreet (`discreet_interpret`), and so is the fallback.
2. One request makes a responder muted or not as the request says (`Step`, `step_handle`).
3. By induction on the history, the responder is muted as the last such request has said
   (`History.tracks`).
-/

namespace LightingBus

namespace Responder

variable {κ γ ω ε : Type} {config : ResponderConfig} {r r' : Responder κ γ} {request : Request}
  {custom : κ → Handler κ γ ω} {fallback : Fallback κ γ ω ε} {verdict : Verdict} {uid : Uid}

/-! ## Answers -/

theorem answer_eq_discovery_iff {result : HandlerResult} :
    r.answer request result = .discovery uid ↔ result = .discovery ∧ uid = r.uid := by
  have hrespond (type : ResponseType) (data : ParameterData) :
      r.respond request type data ≠ .discovery uid := by
    unfold respond
    split <;> exact nofun
  cases result with
  | acknowledged | acknowledgedOverflow | notAcknowledged | acknowledgedTimer =>
    exact ⟨fun h => absurd h (hrespond _ _), nofun⟩
  | discovery => exact ⟨fun h => ⟨rfl, (Answer.discovery.inj h).symm⟩, fun h => h.2 ▸ rfl⟩
  | silent => exact ⟨nofun, nofun⟩
  | custom response =>
    refine ⟨fun h => ?_, nofun⟩
    unfold answer at h
    split_ifs at h

theorem conclude_eq_discovery_iff :
    (conclude request r verdict : Outcome ε) = .answered (.discovery uid) ↔
      verdict = .done .discovery ∧ uid = r.uid := by
  cases verdict with
  | done result =>
    rw [conclude, Outcome.answered.injEq, answer_eq_discovery_iff, Verdict.done.injEq]
  | refused reason =>
    rw [conclude, Outcome.answered.injEq, answer_eq_discovery_iff]
    exact ⟨nofun, nofun⟩
  | broken fault => exact ⟨nofun, nofun⟩

/-- No device answers for several. -/
theorem answer_ne_response (hbroadcast : request.destination.isBroadcast = true)
    (result : HandlerResult) (response : Response) :
    r.answer request result ≠ .response response := by
  have hrespond (type : ResponseType) (data : ParameterData) :
      r.respond request type data ≠ .response response := by
    rw [respond, Request.respond?]
    cases hdestination : request.destination with
    | device uid =>
      rw [hdestination] at hbroadcast
      cases hbroadcast
    | broadcast | manufacturer => exact nofun
  cases result with
  | acknowledged | acknowledgedOverflow | notAcknowledged | acknowledgedTimer =>
    exact hrespond _ _
  | discovery | silent => exact nofun
  | custom =>
    rw [answer, if_pos hbroadcast]
    exact nofun

theorem handle_ne_response (hbroadcast : request.destination.isBroadcast = true)
    (r : Responder κ γ) (w : ω) (response : Response) :
    (handle custom fallback request r w).1 ≠ .answered (.response response) := by
  have hanswer (r : Responder κ γ) (result : HandlerResult) :
      (.answered (r.answer request result) : Outcome ε) ≠ .answered (.response response) :=
    fun h => answer_ne_response hbroadcast result response (Outcome.answered.inj h)
  unfold handle
  split_ifs
  · exact nofun
  · split
    next =>
      split
      · exact nofun
      · exact hanswer _ _
    next d _ =>
      dsimp only
      cases (dispatch custom d request r w).1 with
      | done result => exact hanswer _ result
      | refused reason => exact hanswer _ _
      | broken fault => exact nofun

/-! ## Searches -/

/-- The request asks the device to name itself: it is a search, addressed to the device, with the
bounds of a range that holds the identifier of the device. -/
structure Searches (uid : Uid) (request : Request) : Prop where
  targets : request.destination.targets uid = true
  commandClass : request.commandClass = .discovery
  pid : request.pid = Pid.discUniqueBranch
  length : request.data.bytes.length = 12
  lower : Bytes.bigEndian (request.data.bytes.take 6) ≤ uid.toNat
  upper : uid.toNat ≤ Bytes.bigEndian (request.data.bytes.drop 6)

theorem discUniqueBranch_eq_discovery_iff :
    discUniqueBranch request r = .done .discovery ↔ request.data.bytes.length = 12 ∧
      Bytes.bigEndian (request.data.bytes.take 6) ≤ r.uid.toNat ∧
      r.uid.toNat ≤ Bytes.bigEndian (request.data.bytes.drop 6) ∧ r.muted = false := by
  have hlength : request.data.bytes.length = 12 ↔ (request.data.bytes.take 6).length = 6 ∧
      (request.data.bytes.drop 6).length = 6 := by
    rw [List.length_take, List.length_drop]
    omega
  rw [hlength]
  unfold discUniqueBranch
  dsimp only
  by_cases hlow : (request.data.bytes.take 6).length = 6
  · by_cases hhigh : (request.data.bytes.drop 6).length = 6
    · obtain ⟨lower, hlower, hnumber⟩ := Address.toNat_of_ofBytes? hlow
      obtain ⟨upper, hupper, hnumber'⟩ := Address.toNat_of_ofBytes? hhigh
      rw [hlower, hupper, ← hnumber, ← hnumber', ← Bool.not_eq_true]
      dsimp only
      split_ifs with hanswers
      · exact ⟨fun _ => ⟨⟨hlow, hhigh⟩, hanswers.2.1, hanswers.2.2, hanswers.1⟩, fun _ => rfl⟩
      · exact ⟨nofun, fun h => absurd ⟨h.2.2.2, h.2.1, h.2.2.1⟩ hanswers⟩
    · obtain ⟨lower, hlower, -⟩ := Address.toNat_of_ofBytes? hlow
      rw [hlower, Address.ofBytes?_eq_none hhigh]
      exact ⟨nofun, fun h => absurd h.1.2 hhigh⟩
  · rw [Address.ofBytes?_eq_none hlow]
    exact ⟨nofun, fun h => absurd h.1.1 hlow⟩

/-! ## Handlers that have nothing to do with discovery -/

/-- The responder is configured as it was, is muted as it was, and its store was used at most. -/
structure Kept (r r' : Responder κ γ) : Prop where
  store : r.store.Used r'.store
  config : r'.config = r.config
  muted : r'.muted = r.muted

namespace Kept

theorem refl (r : Responder κ γ) : Kept r r :=
  ⟨.refl, rfl, rfl⟩

theorem trans {r'' : Responder κ γ} (h : Kept r r') (h' : Kept r' r'') : Kept r r'' :=
  ⟨h.store.trans h'.store, h'.config.trans h.config, h'.muted.trans h.muted⟩

theorem keptBySet (r : Responder κ γ) : KeptBySet (Kept r) :=
  fun key value _ h => ⟨h.store.set key value, h.config, h.muted⟩

end Kept

/-- A handler that neither mutes the device nor lets it speak again, and that does not answer
searches. The configuration is given to it to read, and the store to be used. -/
structure Discreet (handler : Handler κ γ ω) : Prop where
  kept : ∀ request r w, Kept r (handler request r w).2.1
  verdict : ∀ request r w, (handler request r w).1 ≠ .done .discovery

/-- A fallback that does the same. -/
structure DiscreetFallback (fallback : Fallback κ γ ω ε) : Prop where
  kept : ∀ request r w, Kept r (fallback request r w).2.1
  result : ∀ request r w, (fallback request r w).1 ≠ .ok .discovery

theorem discreetFallback_noFallback : DiscreetFallback (noFallback : Fallback κ γ ω ε) where
  kept _ r _ := .refl r
  result _ _ _ := nofun

/-- The handlers of the discovery parameters. -/
def isDiscovery : Builtin → Bool
  | .discUniqueBranch | .discMute | .discUnMute => true
  | _ => false

/-- The device names itself to whoever searches. -/
def namesDevice : Verdict → Bool
  | .done .discovery => true
  | _ => false

theorem namesDevice_eq_false_iff : namesDevice verdict = false ↔ verdict ≠ .done .discovery := by
  constructor
  · rintro h rfl
    cases h
  · intro h
    unfold namesDevice
    split
    · exact absurd rfl h
    · rfl

/-- The device does not name itself, and the configuration and the muting were left alone. -/
structure Aside (r : Responder κ γ) (outcome : Verdict × Responder κ γ) : Prop where
  config : outcome.2.config = r.config
  muted : outcome.2.muted = r.muted
  verdict : namesDevice outcome.1 = false

theorem namesDevice_acknowledge (bytes : Bytes) : namesDevice (acknowledge bytes) = false := by
  unfold acknowledge
  split <;> rfl

theorem namesDevice_simpleGet (request : Request) (r : Responder κ γ) :
    namesDevice (simpleGet request r) = false := by
  unfold simpleGet
  split
  · rfl
  · exact namesDevice_acknowledge _

theorem namesDevice_withFirstByte {next : UInt8 → Verdict}
    (h : ∀ byte, namesDevice (next byte) = false) :
    namesDevice (withFirstByte request next) = false := by
  unfold withFirstByte
  split
  · rfl
  · exact h _

theorem Aside.of_acknowledge {bytes : Bytes} (hconfig : r'.config = r.config)
    (hmuted : r'.muted = r.muted) : Aside r (acknowledge bytes, r') :=
  ⟨hconfig, hmuted, namesDevice_acknowledge bytes⟩

theorem aside_storeValue (key : Key) (value : Bytes) (r : Responder κ γ) :
    Aside r (storeValue key value r) := by
  unfold storeValue
  split <;> exact ⟨rfl, rfl, rfl⟩

theorem aside_queuedMessage (request : Request) (r : Responder κ γ) :
    Aside r (queuedMessage request r) := by
  unfold queuedMessage
  split
  · exact ⟨rfl, rfl, rfl⟩
  · split_ifs
    · unfold repeatQueued
      split <;> exact ⟨rfl, rfl, rfl⟩
    · unfold popQueued
      split
      · dsimp only
        split <;> exact ⟨rfl, rfl, rfl⟩
      · exact ⟨rfl, rfl, rfl⟩
    · exact ⟨rfl, rfl, rfl⟩

theorem aside_run {handler : Builtin} (h : isDiscovery handler = false) (request : Request)
    (r : Responder κ γ) : Aside r (handler.run request r) := by
  cases handler with
  | discUniqueBranch | discMute | discUnMute => cases h
  | simpleGet => exact ⟨rfl, rfl, namesDevice_simpleGet request r⟩
  | simpleSet => exact aside_storeValue _ _ r
  | supportedParameters | deviceInfo | softwareVersionLabel => exact .of_acknowledge rfl rfl
  | getStartAddress =>
    refine ⟨rfl, rfl, ?_⟩
    simp only [Builtin.run, getStartAddress]
    split_ifs
    · exact namesDevice_acknowledge _
    · exact namesDevice_simpleGet request r
  | setPersonality =>
    simp only [Builtin.run, setPersonality]
    split_ifs
    · exact ⟨rfl, rfl, rfl⟩
    · split
      · exact ⟨rfl, rfl, rfl⟩
      · split
        · exact ⟨rfl, rfl, rfl⟩
        · exact aside_storeValue _ _ r
  | getPersonalityDescription =>
    refine ⟨rfl, rfl, ?_⟩
    simp only [Builtin.run, getPersonalityDescription]
    split_ifs
    · rfl
    · refine namesDevice_withFirstByte fun number => ?_
      split
      · rfl
      · exact namesDevice_acknowledge _
  | queuedMessage => exact aside_queuedMessage request r
  | statusMessages =>
    simp only [Builtin.run, statusMessages]
    split
    · exact ⟨rfl, rfl, rfl⟩
    · split_ifs <;> exact ⟨rfl, rfl, rfl⟩
  | getSensor =>
    refine ⟨rfl, rfl, namesDevice_withFirstByte fun number => ?_⟩
    split
    · rfl
    · exact namesDevice_acknowledge _
  | resetSensor =>
    simp only [Builtin.run, resetSensor]
    split
    · exact ⟨rfl, rfl, rfl⟩
    · split_ifs
      · exact .of_acknowledge rfl rfl
      · split
        · exact ⟨rfl, rfl, rfl⟩
        · exact .of_acknowledge rfl rfl
  | recordSensors =>
    simp only [Builtin.run, recordSensors]
    split
    · exact ⟨rfl, rfl, rfl⟩
    · split_ifs
      · exact ⟨rfl, rfl, rfl⟩
      · split <;> exact ⟨rfl, rfl, rfl⟩

/-- All other built-in handlers are discreet. -/
theorem discreet_interpret {name : HandlerName κ}
    (hbuiltin : ∀ handler, name = .builtin handler → isDiscovery handler = false)
    (hcustom : ∀ name, Discreet (custom name)) : Discreet (interpret custom name) := by
  cases name with
  | builtin handler =>
    have haside (request : Request) (r : Responder κ γ) :=
      aside_run (hbuiltin handler rfl) request r
    exact {
      kept := fun request r _ =>
        ⟨used_run handler request r, (haside request r).config, (haside request r).muted⟩
      verdict := fun request r _ => namesDevice_eq_false_iff.mp (haside request r).verdict }
  | custom name => exact hcustom name

/-! ## Dispatching -/

theorem namesDevice_applyEach (handler : Handler κ γ ω) (request : Request)
    (devices : List (UInt16 × Option ParameterData)) :
    ∀ (applied : List (UInt16 × Option ParameterData)) (r : Responder κ γ) (w : ω),
      namesDevice (applyEach handler request devices applied r w).1 = false := by
  induction devices with
  | nil => exact fun _ _ _ => rfl
  | cons p devices ih =>
    intro applied r w
    rw [applyEach]
    generalize handler { request with subDevice := p.1 } r w = outcome
    obtain ⟨_ | _ | _, r', w'⟩ := outcome
    · exact ih _ r' w'
    · rfl
    · rfl

theorem namesDevice_inspect {format : CommandFormat} (h : namesDevice verdict = false) :
    namesDevice (inspect format verdict) = false := by
  unfold inspect
  split_ifs
  · exact h
  · rfl

theorem namesDevice_dispatch {d : ParameterDefinition (HandlerName κ)}
    (hname : ∀ name, d.handlers.forCommand? request.commandClass = some name →
      Discreet (interpret custom name)) (r : Responder κ γ) (w : ω) :
    namesDevice (dispatch custom d request r w).1 = false := by
  unfold dispatch
  split
  next => rfl
  next name hsome =>
    have hhandler := namesDevice_eq_false_iff.mpr ((hname name hsome).verdict request r w)
    dsimp only
    split
    next => exact hhandler
    next format _ =>
      split
      next => rfl
      next =>
        split_ifs
        · unfold applyToAll
          split_ifs
          · rfl
          · split
            · rfl
            · exact namesDevice_applyEach _ _ _ _ _ _
        · unfold applyToOne
          split_ifs
          · exact namesDevice_inspect hhandler
          · rfl

/-- Only the discovery parameters have handlers of discovery. The program of a device cannot name
these handlers. -/
def Reserved (r : Responder κ γ) : Prop :=
  ∀ pid d c handler, r.store.definition? pid = some d →
    d.handlers.forCommand? c = some (.builtin handler) → isDiscovery handler = true →
      pid ∈ discoveryPids

/-! ## One request -/

/-- The request is a command of discovery to the device. -/
structure Commands (uid : Uid) (request : Request) : Prop where
  targets : request.destination.targets uid = true
  commandClass : request.commandClass = .discovery
  pid : request.pid ∈ discoveryPids

/-- Whether the request mutes the device or lets it speak again, if it does one of the two. -/
def muting? (uid : Uid) (request : Request) : Option Bool :=
  if request.destination.targets uid ∧ request.commandClass = .discovery ∧
      request.data.bytes = [] then
    if request.pid = Pid.discMute then some true
    else if request.pid = Pid.discUnMute then some false
    else none
  else none

theorem Searches.commands (h : Searches uid request) : Commands uid request :=
  ⟨h.targets, h.commandClass, h.pid ▸ List.mem_cons_self⟩

theorem commands_of_muting? {muted : Bool} (h : muting? uid request = some muted) :
    Commands uid request := by
  unfold muting? at h
  split_ifs at h with hcommand hmute hunmute
  · exact ⟨hcommand.1, hcommand.2.1, hmute ▸ by decide⟩
  · exact ⟨hcommand.1, hcommand.2.1, hunmute ▸ by decide⟩

/-- What a request does to a responder, and when it is answered as a search. -/
structure Step (request : Request) (r : Responder κ γ) (outcome : Outcome ε)
    (r' : Responder κ γ) : Prop where
  store : r.store.Used r'.store
  config : r'.config = r.config
  muted : r'.muted = (muting? r.uid request).getD r.muted
  answer : ∀ uid, outcome = .answered (.discovery uid) ↔
    uid = r.uid ∧ Searches uid request ∧ r.muted = false

theorem Step.of_kept {outcome : Outcome ε} (hcommands : ¬ Commands r.uid request)
    (hkept : Kept r r') (houtcome : ∀ uid, outcome ≠ .answered (.discovery uid)) :
    Step request r outcome r' where
  store := hkept.store
  config := hkept.config
  muted := by
    have hnone : muting? r.uid request = none :=
      Option.eq_none_iff_forall_ne_some.mpr fun muted h => hcommands (commands_of_muting? h)
    rw [hkept.muted, hnone]
    rfl
  answer uid := by
    refine ⟨fun h => absurd h (houtcome uid), ?_⟩
    rintro ⟨rfl, hsearches, -⟩
    exact absurd hsearches.commands hcommands

theorem conclude_ne_discovery (h : namesDevice verdict = false) (uid : Uid) :
    (conclude request r verdict : Outcome ε) ≠ .answered (.discovery uid) :=
  fun hconclude => namesDevice_eq_false_iff.mp h (conclude_eq_discovery_iff.mp hconclude).1

theorem exists_discoveryParameter {pid : UInt16} (h : pid ∈ discoveryPids) :
    ∃ handler, (discoveryParameter pid handler : ParameterDefinition (HandlerName κ)) ∈
      builtinDefinitions := by
  rw [discoveryPids, List.mem_cons, List.mem_cons, List.mem_singleton] at h
  rcases h with rfl | rfl | rfl
  · exact ⟨.discUniqueBranch, List.mem_cons_self⟩
  · exact ⟨.discMute, List.mem_cons_of_mem _ List.mem_cons_self⟩
  · exact ⟨.discUnMute, List.mem_cons_of_mem _ (List.mem_cons_of_mem _ List.mem_cons_self)⟩

/-- Only commands of discovery reach the handlers of discovery. -/
theorem discreet_of_not_commands (h : Serving r) (hreserved : Reserved r)
    (hcustom : ∀ name, Discreet (custom name)) (hcommands : ¬ Commands r.uid request)
    (htargets : request.destination.targets r.uid = true) {d : ParameterDefinition (HandlerName κ)}
    (hd : r.store.definition? request.pid = some d) {name : HandlerName κ}
    (hname : d.handlers.forCommand? request.commandClass = some name) :
    Discreet (interpret custom name) := by
  refine discreet_interpret (fun handler hbuiltin => ?_) hcustom
  subst hbuiltin
  by_contra hdiscovery
  rw [Bool.not_eq_false] at hdiscovery
  have hpid := hreserved _ _ _ _ hd hname hdiscovery
  -- discovery parameters have no handlers for other commands than those of discovery
  obtain ⟨other, hother⟩ := exists_discoveryParameter (κ := κ) hpid
  cases hd.symm.trans (h.definition? hother)
  refine hcommands ⟨htargets, ?_, hpid⟩
  cases hclass : request.commandClass with
  | discovery => rfl
  | get | set =>
    rw [hclass] at hname
    cases hname

theorem step_search (h : Serving r) (hcommands : Commands r.uid request)
    (hpid : request.pid = Pid.discUniqueBranch) (w : ω) :
    Step request r (handle custom fallback request r w).1
      (handle custom fallback request r w).2.1 := by
  rw [handle_discovery h .discUniqueBranch (hpid ▸ List.mem_cons_self) hcommands.targets
    hcommands.commandClass (List.contains_iff_mem.mpr hcommands.pid)]
  refine ⟨.refl, rfl, ?_, fun uid => ?_⟩
  · have hnone : muting? r.uid request = none := by
      simp [muting?, hpid, Pid.discUniqueBranch, Pid.discMute, Pid.discUnMute]
    rw [hnone]
    rfl
  · rw [conclude_eq_discovery_iff]
    change discUniqueBranch request r = _ ∧ _ ↔ _
    rw [discUniqueBranch_eq_discovery_iff]
    constructor
    · rintro ⟨⟨hlength, hlower, hupper, hmuted⟩, rfl⟩
      exact ⟨rfl, ⟨hcommands.targets, hcommands.commandClass, hpid, hlength, hlower, hupper⟩,
        hmuted⟩
    · rintro ⟨rfl, hsearches, hmuted⟩
      exact ⟨⟨hsearches.length, hsearches.lower, hsearches.upper, hmuted⟩, rfl⟩

/-- A device is muted, or speaks again, if it is told to without parameter data. -/
theorem step_setMuted (handler : Builtin) (muted : Bool) (h : Serving r)
    (hcommands : Commands r.uid request)
    (hd : (discoveryParameter request.pid handler : ParameterDefinition (HandlerName κ)) ∈
      builtinDefinitions) (hrun : handler.run request r = setMuted muted request r)
    (hpid : request.pid ≠ Pid.discUniqueBranch)
    (hmuting : muting? r.uid request = if request.data.bytes = [] then some muted else none)
    (w : ω) : Step request r (handle custom fallback request r w).1
      (handle custom fallback request r w).2.1 := by
  rw [handle_discovery h handler hd hcommands.targets hcommands.commandClass
    (List.contains_iff_mem.mpr hcommands.pid), hrun]
  unfold setMuted
  by_cases hdata : request.data.bytes = []
  · rw [if_pos hdata] at hmuting
    rw [if_pos (List.isEmpty_iff.mpr hdata)]
    have hverdict := namesDevice_acknowledge r.muteReply.encode
    exact ⟨.refl, rfl, by rw [hmuting]; rfl, fun uid =>
      ⟨fun hanswer => absurd hanswer (conclude_ne_discovery hverdict uid),
        fun h => absurd h.2.1.pid hpid⟩⟩
  · rw [if_neg hdata] at hmuting
    rw [if_neg (mt List.isEmpty_iff.mp hdata)]
    exact ⟨.refl, rfl, by rw [hmuting]; rfl, fun uid => ⟨nofun, fun h => absurd h.2.1.pid hpid⟩⟩

/-- All other requests leave the muting alone, and their answers are no answers to a search. -/
theorem step_other (h : Serving r) (hreserved : Reserved r)
    (hcustom : ∀ name, Discreet (custom name)) (hfallback : DiscreetFallback fallback)
    (hcommands : ¬ Commands r.uid request) (w : ω) :
    Step request r (handle custom fallback request r w).1
      (handle custom fallback request r w).2.1 := by
  unfold handle
  split_ifs with hignores
  · exact .of_kept hcommands (.refl r) fun _ h => by cases h
  · have htargets : request.destination.targets r.uid = true := by
      by_contra hother
      exact hignores (by simp [ignores, hother])
    split
    next =>
      have hkept := hfallback.kept request r w
      have hresult := hfallback.result request r w
      generalize fallback request r w = outcome at hkept hresult ⊢
      obtain ⟨_ | result, r', w'⟩ := outcome
      · exact .of_kept hcommands hkept fun _ h => by cases h
      · refine .of_kept hcommands hkept fun uid hanswer => hresult ?_
        rw [(answer_eq_discovery_iff.mp (Outcome.answered.inj hanswer)).1]
    next d hd =>
      have hname (name : HandlerName κ)
          (hname : d.handlers.forCommand? request.commandClass = some name) :=
        discreet_of_not_commands h hreserved hcustom hcommands htargets hd hname
      have hkept := keeps_dispatch (Kept.keptBySet r) (fun name hsome request r' w hkept =>
        hkept.trans ((hname name hsome).kept request r' w)) r w (.refl r)
      exact .of_kept hcommands hkept (conclude_ne_discovery (namesDevice_dispatch hname r w))

/-- One request. -/
theorem step_handle (h : Serving r) (hreserved : Reserved r)
    (hcustom : ∀ name, Discreet (custom name)) (hfallback : DiscreetFallback fallback)
    (request : Request) (w : ω) :
    Step request r (handle custom fallback request r w).1
      (handle custom fallback request r w).2.1 := by
  by_cases hcommands : Commands r.uid request
  · have hpid := hcommands.pid
    rw [discoveryPids, List.mem_cons, List.mem_cons, List.mem_singleton] at hpid
    rcases hpid with hpid | hpid | hpid
    · exact step_search h hcommands hpid w
    · refine step_setMuted .discMute true h hcommands ?_ rfl ?_ ?_ w
      · exact hpid ▸ List.mem_cons_of_mem _ List.mem_cons_self
      · exact hpid ▸ by decide
      · simp [muting?, hcommands.targets, hcommands.commandClass, hpid]
    · have hne : Pid.discUnMute ≠ Pid.discMute := by decide
      refine step_setMuted .discUnMute false h hcommands ?_ rfl ?_ ?_ w
      · exact hpid ▸ List.mem_cons_of_mem _ (List.mem_cons_of_mem _ List.mem_cons_self)
      · exact hpid ▸ by decide
      · simp [muting?, hcommands.targets, hcommands.commandClass, hpid, hne]
  · exact step_other h hreserved hcustom hfallback hcommands w

/-! ## Many requests -/

/-- A new responder was given these requests one after the other, and they ended like this. In
between its program may alter it, but not whether it is muted. -/
inductive History (custom : κ → Handler κ γ ω) (fallback : Fallback κ γ ω ε)
    (config : ResponderConfig) : List (Request × Outcome ε) → Responder κ γ → Prop where
  | create {capacities : Capacities} {r : Responder κ γ} :
    Responder.create config capacities = .ok r → History custom fallback config [] r
  | alter {log : List (Request × Outcome ε)} {r r' : Responder κ γ} :
    History custom fallback config log r → r.Altered r' → r'.muted = r.muted → Reserved r' →
    History custom fallback config log r'
  | request {log : List (Request × Outcome ε)} {r : Responder κ γ} (request : Request) (w : ω) :
    History custom fallback config log r →
    History custom fallback config (log ++ [(request, (handle custom fallback request r w).1)])
      (handle custom fallback request r w).2.1

/-- What the last request that muted the device or let it speak again has told it. -/
def lastMuting? (uid : Uid) (log : List (Request × Outcome ε)) : Option Bool :=
  (log.filterMap fun entry => muting? uid entry.1).getLast?

theorem lastMuting?_concat (uid : Uid) (log : List (Request × Outcome ε)) (request : Request)
    (outcome : Outcome ε) : lastMuting? uid (log ++ [(request, outcome)]) =
      (muting? uid request).or (lastMuting? uid log) := by
  unfold lastMuting?
  rw [List.filterMap_append]
  cases hmuting : muting? uid request with
  | none => simp [hmuting]
  | some muted => simp [hmuting]

/-- What is known of a responder after these requests. -/
structure Tracks (config : ResponderConfig) (log : List (Request × Outcome ε))
    (r : Responder κ γ) : Prop where
  serving : Serving r
  reserved : Reserved r
  muted : r.muted = (lastMuting? config.uid log).getD false
  config : r.config = config

theorem Reserved.of_used (h : Reserved r) (hserving : Serving r)
    (hused : r.store.Used r'.store) : Reserved r' := by
  intro pid d c handler hd
  rw [Store.definition?_congr (hused.retains hserving.builtins.1).definitions] at hd
  exact h pid d c handler hd

theorem reserved_of_create {capacities : Capacities} (h : create config capacities = .ok r) :
    Reserved r := by
  intro pid d c handler hd hname hdiscovery
  have hserving := Serving.create h
  obtain ⟨n, hn, rfl⟩ := (Store.definition?_eq_some_iff hserving.builtins.1.pids_nodup).mp hd
  unfold create at h
  split_ifs at h
  obtain ⟨s, hs, h⟩ := bind_eq_ok.mp h
  cases h
  have hmem : d ∈ builtinDefinitions := by
    rw [← definitions_initialStore hs]
    rw [Store.definitionAt?, ← List.getElem?_map] at hn
    exact List.mem_of_getElem? hn
  obtain ⟨_, hbuiltin, hoffer⟩ := offer_of_standard (List.mem_append_left _ hmem) hname
  cases hbuiltin
  generalize d.pid = pid at hoffer ⊢
  generalize d.format? c = format at hoffer
  cases hoffer with
  | discUniqueBranch | discMute | discUnMute => decide
  | _ => cases hdiscovery

theorem History.tracks {log : List (Request × Outcome ε)}
    (hcustom : ∀ name, Discreet (custom name)) (hfallback : DiscreetFallback fallback)
    (h : History custom fallback config log r) : Tracks config log r := by
  induction h with
  | create hcreate =>
    have hreserved := reserved_of_create hcreate
    have hserving := Serving.create hcreate
    unfold Responder.create at hcreate
    split_ifs at hcreate
    obtain ⟨s, -, hcreate⟩ := bind_eq_ok.mp hcreate
    cases hcreate
    exact ⟨hserving, hreserved, rfl, rfl⟩
  | alter _ haltered hmuted hreserved ih =>
    exact ⟨ih.serving.altered haltered, hreserved, hmuted.trans ih.muted,
      haltered.config.trans ih.config⟩
  | request request w _ ih =>
    have hstep := step_handle ih.serving ih.reserved hcustom hfallback request w
    refine ⟨((stable_serving forgetful).use ih.serving hstep.store).of_store_eq rfl,
      ih.reserved.of_used ih.serving hstep.store, ?_, hstep.config.trans ih.config⟩
    rw [hstep.muted, lastMuting?_concat, ih.muted, uid, ih.config]
    cases muting? config.uid request <;> rfl

/-- Every request of a history was handled by the responder that the requests before it left. -/
theorem History.entry {log before after : List (Request × Outcome ε)} {outcome : Outcome ε}
    (h : History custom fallback config log r)
    (hlog : log = before ++ (request, outcome) :: after) :
    ∃ r' w, History custom fallback config before r' ∧
      outcome = (handle custom fallback request r' w).1 := by
  induction h generalizing after with
  | create => simp at hlog
  | alter _ _ _ _ ih => exact ih hlog
  | @request log r' request' w hhistory ih =>
    -- the request is the last one, or it stands in the history before the last one
    rcases List.eq_nil_or_concat after with rfl | ⟨after, last, rfl⟩
    · obtain ⟨rfl, hentry⟩ := List.append_inj' hlog rfl
      cases hentry
      exact ⟨r', w, hhistory, rfl⟩
    · rw [List.concat_eq_append, ← List.cons_append, ← List.append_assoc] at hlog
      exact ih (List.append_inj' hlog rfl).1

/-- No request to several devices was answered with a response. A request was answered as a search
if and only if it searches a range that holds the device, and the last request before it that muted
the device or let it speak again, if there was one, let it speak. -/
theorem answers_of_history (hcustom : ∀ name, Discreet (custom name))
    (hfallback : DiscreetFallback fallback) {log before after : List (Request × Outcome ε)}
    {outcome : Outcome ε} (h : History custom fallback config log r)
    (hlog : log = before ++ (request, outcome) :: after) :
    (request.destination.isBroadcast = true →
      ∀ response, outcome ≠ .answered (.response response)) ∧
    ∀ uid, outcome = .answered (.discovery uid) ↔
      uid = config.uid ∧ Searches uid request ∧ lastMuting? uid before ≠ some true := by
  obtain ⟨r', w, hhistory, rfl⟩ := h.entry hlog
  have htracks := hhistory.tracks hcustom hfallback
  have hstep := step_handle htracks.serving htracks.reserved hcustom hfallback request w
  have huid : r'.uid = config.uid := congrArg ResponderConfig.uid htracks.config
  have hmuted : r'.muted = false ↔ lastMuting? config.uid before ≠ some true := by
    rw [htracks.muted]
    rcases lastMuting? config.uid before with _ | _ | _ <;> decide
  refine ⟨fun hbroadcast => handle_ne_response hbroadcast r' w, fun uid => ?_⟩
  rw [hstep.answer uid, huid, hmuted]
  refine and_congr_right fun hown => ?_
  rw [hown]

/-! ## A device that is found and muted -/

/-- All devices are searched. -/
def searchEverybody : Request :=
  { exampleSetAll with
    subDevice := SubDevice.root
    commandClass := .discovery
    pid := Pid.discUniqueBranch
    data := ⟨List.replicate 6 0 ++ List.replicate 6 0xFF, by decide⟩ }

/-- All devices are muted. -/
def muteEverybody : Request :=
  { searchEverybody with
    pid := Pid.discMute
    data := .empty }

/-- The device answers before it is muted, and not afterwards. -/
theorem answers_of_history_exampleDevice :
    let custom : Empty → Handler Empty Empty Unit := Empty.elim
    let fallback : Fallback Empty Empty Unit Empty := noFallback
    let first := handle custom fallback searchEverybody (exampleDevice []) ()
    let second := handle custom fallback muteEverybody first.2.1 ()
    let third := handle custom fallback searchEverybody second.2.1 ()
    (∀ name, Discreet (custom name)) ∧ DiscreetFallback fallback ∧
    History custom fallback exampleConfig [(searchEverybody, first.1), (muteEverybody, second.1),
      (searchEverybody, third.1)] third.2.1 ∧
    first.1 = .answered (.discovery exampleConfig.uid) ∧
    (∀ response, second.1 ≠ .answered (.response response)) ∧
    ∀ uid, third.1 ≠ .answered (.discovery uid) := by
  intro custom fallback first second third
  have hcustom (name : Empty) : Discreet (custom name) := name.elim
  have hcreate : create exampleConfig ⟨16, 4, 8, 128⟩ = .ok (exampleDevice []) :=
    eq_ok_get exists_exampleDevice
  have hnew : History custom fallback exampleConfig [] (exampleDevice []) := .create hcreate
  have hhistory : History custom fallback exampleConfig [(searchEverybody, first.1),
      (muteEverybody, second.1), (searchEverybody, third.1)] third.2.1 :=
    ((hnew.request searchEverybody ()).request muteEverybody ()).request searchEverybody ()
  obtain ⟨-, hfirst⟩ := answers_of_history hcustom discreetFallback_noFallback hhistory
    (show _ = [] ++ (searchEverybody, first.1) :: _ from rfl)
  obtain ⟨hsecond, -⟩ := answers_of_history hcustom discreetFallback_noFallback hhistory
    (show _ = [_] ++ (muteEverybody, second.1) :: _ from rfl)
  obtain ⟨-, hthird⟩ := answers_of_history hcustom discreetFallback_noFallback hhistory
    (show _ = [_, (muteEverybody, second.1)] ++ (searchEverybody, third.1) :: _ from rfl)
  refine ⟨hcustom, discreetFallback_noFallback, hhistory, ?_, hsecond rfl, fun uid hanswer => ?_⟩
  · refine (hfirst _).mpr ⟨rfl, ⟨rfl, rfl, rfl, rfl, ?_, ?_⟩, ?_⟩
    all_goals decide
  · obtain ⟨rfl, -, hlast⟩ := (hthird uid).mp hanswer
    exact hlast (by decide)

end Responder

end LightingBus
