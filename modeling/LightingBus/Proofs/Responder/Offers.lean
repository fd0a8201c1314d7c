import LightingBus.Proofs.Format.Validation
import LightingBus.Proofs.Responder.Discovery
import LightingBus.Proofs.Responder.FanOut

/-!
# What responders offer

The requests that a responder comes with, as a table (`Offer`), and what its handlers can make of
them, told once for all handlers (`isPlain_run`). `handle_get` is what a request to read a parameter
comes to.
-/

namespace LightingBus

namespace Responder

open Format (Describes)

variable {κ γ ω ε : Type} {r : Responder κ γ} {request : Request} {format : CommandFormat}
  {bytes : Bytes} {d : ParameterDefinition (HandlerName κ)} {c : CommandClass} {handler : Builtin}
  {pid : UInt16}

/-! ## The table -/

/-- The parameters that every responder has. -/
def builtinPids : List UInt16 :=
  [Pid.discUniqueBranch, Pid.discMute, Pid.discUnMute, Pid.supportedParameters, Pid.deviceInfo,
    Pid.softwareVersionLabel, Pid.identifyDevice, Pid.dmxStartAddress, Pid.dmxPersonality,
    Pid.dmxPersonalityDescription, Pid.deviceLabel, Pid.queuedMessage, Pid.statusMessages]

theorem exists_builtin (h : pid ∈ builtinPids) :
    ∃ d : ParameterDefinition (HandlerName κ), d ∈ builtinDefinitions ∧ d.pid = pid :=
  List.mem_map.mp (show pid ∈ builtinDefinitions.map ParameterDefinition.pid from h)

/-- The definitions that come with a responder: those of every device and those of its sensors. -/
def standardDefinitions : List (ParameterDefinition (HandlerName κ)) :=
  builtinDefinitions ++ [sensorValueDefinition, recordSensorsDefinition]

/-- The parameter is built in, or it is not defined but for sensors. -/
def Standard (r : Responder κ γ) (pid : UInt16) : Prop :=
  pid ∈ builtinPids ∨ ∀ d, r.store.definition? pid = some d →
    d = sensorValueDefinition ∨ d = recordSensorsDefinition

theorem Serving.mem_standard (h : Serving r) (hpid : r.Standard pid)
    (hd : r.store.definition? pid = some d) :
    d ∈ standardDefinitions := by
  rw [standardDefinitions, List.mem_append]
  rcases hpid with hpid | hsensors
  · obtain ⟨builtin, hbuiltin, hpid⟩ := exists_builtin (κ := κ) hpid
    rw [← hpid, h.definition? hbuiltin, Option.some.injEq] at hd
    exact .inl (hd ▸ hbuiltin)
  · exact .inr (by simpa using hsensors d hd)

/-- The requests that a responder comes with: a parameter, a command, its handler and its format;
discovery commands have none. -/
inductive Offer : UInt16 → CommandClass → Builtin → Option CommandFormat → Prop where
  | discUniqueBranch : Offer Pid.discUniqueBranch .discovery .discUniqueBranch none
  | discMute : Offer Pid.discMute .discovery .discMute none
  | discUnMute : Offer Pid.discUnMute .discovery .discUnMute none
  | supportedParameters : Offer Pid.supportedParameters .get .supportedParameters (some ⟨"", "w"⟩)
  | deviceInfo : Offer Pid.deviceInfo .get .deviceInfo (some ⟨"", "#0100hwwdwbbwwb$"⟩)
  | softwareVersionLabel :
    Offer Pid.softwareVersionLabel .get .softwareVersionLabel (some ⟨"", "a$"⟩)
  | getIdentify : Offer Pid.identifyDevice .get .simpleGet (some ⟨"", "b$"⟩)
  | setIdentify : Offer Pid.identifyDevice .set .simpleSet (some ⟨"b$", ""⟩)
  | getStartAddress : Offer Pid.dmxStartAddress .get .getStartAddress (some ⟨"", "w$"⟩)
  | setStartAddress : Offer Pid.dmxStartAddress .set .simpleSet (some ⟨"w$", ""⟩)
  | getPersonality : Offer Pid.dmxPersonality .get .simpleGet (some ⟨"", "bb$"⟩)
  | setPersonality : Offer Pid.dmxPersonality .set .setPersonality (some ⟨"b$", ""⟩)
  | personalityDescription :
    Offer Pid.dmxPersonalityDescription .get .getPersonalityDescription (some ⟨"b$", "bwa$"⟩)
  | getLabel : Offer Pid.deviceLabel .get .simpleGet (some ⟨"", "a$"⟩)
  | setLabel : Offer Pid.deviceLabel .set .simpleSet (some ⟨"a$", ""⟩)
  | queuedMessage : Offer Pid.queuedMessage .get .queuedMessage (some ⟨"b$", "r"⟩)
  | statusMessages : Offer Pid.statusMessages .get .statusMessages (some ⟨"b$", "wbwww"⟩)
  | getSensor : Offer Pid.sensorValue .get .getSensor (some ⟨"b$", "bwwww$"⟩)
  | resetSensor : Offer Pid.sensorValue .set .resetSensor (some ⟨"b$", "bwwww$"⟩)
  | recordSensors : Offer Pid.recordSensors .set .recordSensors (some ⟨"b$", ""⟩)

theorem offer_of_standard (hd : d ∈ standardDefinitions)
    {name : HandlerName κ} (hname : d.handlers.forCommand? c = some name) :
    ∃ handler, name = .builtin handler ∧ Offer d.pid c handler (d.format? c) := by
  simp only [standardDefinitions, builtinDefinitions, List.cons_append, List.nil_append,
    List.mem_cons, List.not_mem_nil, or_false] at hd
  rcases hd with rfl | rfl | rfl | rfl | rfl | rfl | rfl | rfl | rfl | rfl | rfl | rfl | rfl |
    rfl | rfl
  all_goals
    cases c
    all_goals cases hname
    all_goals exact ⟨_, rfl, by constructor⟩

/-- What is offered to read a built-in parameter stands in its definition. -/
theorem Offer.exists_builtin (hoffer : Offer pid .get handler (some format))
    (hpid : pid ∈ builtinPids) :
    ∃ d : ParameterDefinition (HandlerName κ), d ∈ builtinDefinitions ∧ d.pid = pid ∧
      d.getFormat = format ∧ d.handlers.forCommand? .get = some (.builtin handler) := by
  have hmem {n : ℕ} (hn : n < builtinPids.length) : builtinDefinitions[n] ∈
      (builtinDefinitions : List (ParameterDefinition (HandlerName κ))) :=
    List.getElem_mem (l := builtinDefinitions) hn
  cases hoffer with
  | supportedParameters => exact ⟨_, hmem (n := 3) (by decide), rfl, rfl, rfl⟩
  | deviceInfo => exact ⟨_, hmem (n := 4) (by decide), rfl, rfl, rfl⟩
  | softwareVersionLabel => exact ⟨_, hmem (n := 5) (by decide), rfl, rfl, rfl⟩
  | getIdentify => exact ⟨_, hmem (n := 6) (by decide), rfl, rfl, rfl⟩
  | getStartAddress => exact ⟨_, hmem (n := 7) (by decide), rfl, rfl, rfl⟩
  | getPersonality => exact ⟨_, hmem (n := 8) (by decide), rfl, rfl, rfl⟩
  | personalityDescription => exact ⟨_, hmem (n := 9) (by decide), rfl, rfl, rfl⟩
  | getLabel => exact ⟨_, hmem (n := 10) (by decide), rfl, rfl, rfl⟩
  | queuedMessage => exact ⟨_, hmem (n := 11) (by decide), rfl, rfl, rfl⟩
  | statusMessages => exact ⟨_, hmem (n := 12) (by decide), rfl, rfl, rfl⟩
  | getSensor => exact absurd hpid (by decide)

/-- The number that addresses all sub-devices is not the number of a device. -/
theorem Serving.hasDevice_every (h : Serving r) : r.store.hasDevice SubDevice.every = false := by
  obtain ⟨subDevices, hdevices, -, hrange⟩ := h.builtins.1.devices
  rw [Store.hasDevice, hdevices, List.contains_eq_mem, decide_eq_false_iff_not, List.mem_cons]
  rintro (hroot | hmem)
  · cases hroot
  · exact absurd (hrange _ hmem).2 (by decide)

/-! ## Parameter data of requests -/

theorem refusal?_eq_none_iff {data : Bytes} :
    refusal? format data = none ↔ Describes format.request data := by
  rw [refusal?]
  cases hparse : Format.parse format.request with
  | error e => exact ⟨nofun, fun h => absurd h (Format.not_describes hparse)⟩
  | ok parsed =>
    rw [Format.describes_iff hparse]
    dsimp only
    cases parsed.validate data with
    | error e => exact ⟨nofun, nofun⟩
    | ok records => exact ⟨fun _ => ⟨records, rfl⟩, fun _ => rfl⟩

/-- The handler looks at the first byte of the parameter data. -/
def readsByte : Builtin → Bool
  | .setPersonality | .getPersonalityDescription | .getSensor | .resetSensor | .recordSensors =>
    true
  | _ => false

/-- The formats of requests ensure that handlers find the bytes they look at. -/
theorem Offer.ne_nil (hoffer : Offer pid c handler (some format))
    (hdata : Describes format.request bytes) : readsByte handler = true → bytes ≠ [] := by
  have hbyte : Describes "b$" bytes → bytes ≠ [] := by
    rintro h rfl
    cases Format.describes_byte_iff.mp h
  cases hoffer with
  | setPersonality | personalityDescription | getSensor | resetSensor | recordSensors =>
    exact fun _ => hbyte hdata
  | _ => exact nofun

/-- Queued messages are asked for by one command, which has a format. -/
theorem Offer.of_queuedMessage {format? : Option CommandFormat}
    (hoffer : Offer pid c .queuedMessage format?) : pid = Pid.queuedMessage ∧ c = .get := by
  cases hoffer
  exact ⟨rfl, rfl⟩

/-! ## What handlers make of requests -/

/-- The verdict is neither a response that the handler has made nor a broken promise. -/
def isPlain : Verdict → Bool
  | .done (.custom _) | .broken _ => false
  | _ => true

theorem isPlain_acknowledge (bytes : Bytes) : isPlain (acknowledge bytes) = true := by
  unfold acknowledge
  split <;> rfl

theorem isPlain_storeValue (key : Key) (value : Bytes) (r : Responder κ γ) :
    isPlain (storeValue key value r).1 = true := by
  unfold storeValue
  split <;> rfl

theorem isPlain_simpleGet (request : Request) (r : Responder κ γ) :
    isPlain (simpleGet request r) = true := by
  unfold simpleGet
  split
  · rfl
  · exact isPlain_acknowledge _

theorem isPlain_withFirstByte {next : UInt8 → Verdict} (hdata : request.data.bytes ≠ [])
    (h : ∀ byte, isPlain (next byte) = true) : isPlain (withFirstByte request next) = true := by
  unfold withFirstByte
  split
  next hnone => exact absurd (List.head?_eq_none_iff.mp hnone) hdata
  next byte _ => exact h byte

/-- Given the parameter data that they need, all handlers but that of queued messages leave the
response to the dispatcher and break no promise. -/
theorem isPlain_run (hhandler : handler ≠ .queuedMessage)
    (hdata : readsByte handler = true → request.data.bytes ≠ []) (r : Responder κ γ) :
    isPlain (handler.run request r).1 = true := by
  cases handler with
  | simpleGet => exact isPlain_simpleGet request r
  | simpleSet => exact isPlain_storeValue _ _ r
  | discUniqueBranch =>
    simp only [Builtin.run, discUniqueBranch]
    split
    · split_ifs <;> rfl
    · rfl
  | discMute | discUnMute =>
    simp only [Builtin.run, setMuted]
    split_ifs
    · exact isPlain_acknowledge r.muteReply.encode
    · rfl
  | supportedParameters | softwareVersionLabel => exact isPlain_acknowledge _
  | deviceInfo => exact isPlain_acknowledge r.info.encode
  | getStartAddress =>
    simp only [Builtin.run, getStartAddress]
    split_ifs
    · exact isPlain_acknowledge _
    · exact isPlain_simpleGet request r
  | setPersonality =>
    simp only [Builtin.run, setPersonality]
    split_ifs
    · rfl
    · split
      next hnone => exact absurd (List.head?_eq_none_iff.mp hnone) (hdata rfl)
      next =>
        split
        · rfl
        · exact isPlain_storeValue _ _ r
  | getPersonalityDescription =>
    simp only [Builtin.run, getPersonalityDescription]
    split_ifs
    · rfl
    · refine isPlain_withFirstByte (hdata rfl) fun number => ?_
      split
      · rfl
      · exact isPlain_acknowledge _
  | queuedMessage => exact absurd rfl hhandler
  | statusMessages =>
    simp only [Builtin.run, statusMessages]
    split
    · rfl
    · split_ifs <;> rfl
  | getSensor =>
    refine isPlain_withFirstByte (hdata rfl) fun number => ?_
    split
    · rfl
    · exact isPlain_acknowledge _
  | resetSensor | recordSensors =>
    simp only [Builtin.run, resetSensor, recordSensors]
    split
    next hnone => exact absurd (List.head?_eq_none_iff.mp hnone) (hdata rfl)
    next =>
      split_ifs
      · rfl
      · split <;> rfl

/-- Without a format no bytes are ensured, and none are looked at. -/
theorem Offer.isPlain_run (hoffer : Offer pid c handler none) (request : Request)
    (r : Responder κ γ) : isPlain (handler.run request r).1 = true := by
  cases hoffer with
  | discUniqueBranch | discMute | discUnMute =>
    refine Responder.isPlain_run ?_ ?_ r
    · exact nofun
    · exact nofun

theorem queuedMessage_ne_broken {fault : Fault} : (queuedMessage request r).1 ≠ .broken fault := by
  unfold queuedMessage
  split
  · exact nofun
  · split_ifs
    · unfold repeatQueued
      split <;> exact nofun
    · unfold popQueued
      split
      · dsimp only
        split <;> exact nofun
      · exact nofun
    · exact nofun

theorem run_ne_broken {fault : Fault}
    (hdata : readsByte handler = true → request.data.bytes ≠ []) (r : Responder κ γ) :
    (handler.run request r).1 ≠ .broken fault := by
  by_cases hhandler : handler = .queuedMessage
  · rw [hhandler]
    exact queuedMessage_ne_broken
  · intro hbroken
    have hplain := isPlain_run hhandler hdata r
    rw [hbroken] at hplain
    cases hplain

/-! ## Requests to all sub-devices -/

/-- A request to all sub-devices is carried out without a word or refused, if the handler breaks no
promise. -/
theorem applyEach_verdict {handler : Handler κ γ ω}
    (hhandler : ∀ fault subDevice r w,
      (handler { request with subDevice := subDevice } r w).1 ≠ .broken fault)
    (devices : List (UInt16 × Option ParameterData)) :
    ∀ (applied : List (UInt16 × Option ParameterData)) (r : Responder κ γ) (w : ω),
      (applyEach handler request devices applied r w).1 = acknowledgeEmpty ∨
        ∃ reason, (applyEach handler request devices applied r w).1 = .refused reason := by
  induction devices with
  | nil => exact fun _ _ _ => .inl rfl
  | cons p devices ih =>
    intro applied r w
    have hstep (fault : Fault) := hhandler fault p.1 r w
    rw [applyEach]
    generalize handler { request with subDevice := p.1 } r w = outcome at hstep ⊢
    obtain ⟨_ | reason | fault, r', w'⟩ := outcome
    · exact ih _ r' w'
    · exact .inr ⟨reason, rfl⟩
    · exact absurd rfl (hstep fault)

theorem applyToAll_verdict {handler : Handler κ γ ω}
    (hhandler : ∀ fault subDevice r w,
      (handler { request with subDevice := subDevice } r w).1 ≠ .broken fault)
    (r : Responder κ γ) (w : ω) :
    (applyToAll handler request r w).1 = acknowledgeEmpty ∨
      ∃ reason, (applyToAll handler request r w).1 = .refused reason := by
  unfold applyToAll
  split_ifs
  · exact .inr ⟨_, rfl⟩
  · split
    · exact .inr ⟨_, rfl⟩
    · exact applyEach_verdict hhandler _ [] r w

/-! ## Dispatching -/

/-- What becomes of a request to a parameter that a responder comes with. -/
inductive Dispatched (request : Request) (r : Responder κ γ) (verdict : Verdict)
    (r' : Responder κ γ) : Prop where
  | refused (reason : NackReason) : verdict = .refused reason → Dispatched request r verdict r'
  | everywhere {handler : Builtin} {format : CommandFormat} :
    request.subDevice = SubDevice.every → Offer request.pid .set handler (some format) →
    verdict = acknowledgeEmpty → Dispatched request r verdict r'
  | discovery {handler : Builtin} : Offer request.pid request.commandClass handler none →
    verdict = (handler.run request r).1 → r' = (handler.run request r).2 →
    Dispatched request r verdict r'
  | device {handler : Builtin} {format : CommandFormat} :
    Offer request.pid request.commandClass handler (some format) →
    Describes format.request request.data.bytes →
    r.store.hasDevice request.subDevice = true →
    verdict = inspect format (handler.run request r).1 → r' = (handler.run request r).2 →
    Dispatched request r verdict r'

theorem dispatched_applyToAll (hevery : request.subDevice = SubDevice.every)
    (hoffer : Offer request.pid request.commandClass handler (some format))
    (hdata : Describes format.request request.data.bytes) (custom : κ → Handler κ γ ω)
    (r : Responder κ γ) (w : ω) :
    let outcome := applyToAll (interpret custom (.builtin handler)) request r w
    Dispatched request r outcome.1 outcome.2.1 := by
  by_cases hset : request.commandClass = .set
  · have hone (fault : Fault) (subDevice : UInt16) (r : Responder κ γ) (w : ω) :
        (interpret custom (.builtin handler) { request with subDevice := subDevice } r w).1 ≠
          .broken fault := by
      let request' := { request with subDevice := subDevice }
      have hdata' : readsByte handler = true → request'.data.bytes ≠ [] := hoffer.ne_nil hdata
      exact run_ne_broken hdata' r
    rw [hset] at hoffer
    rcases applyToAll_verdict hone r w with hverdict | ⟨reason, hverdict⟩
    · exact .everywhere hevery hoffer hverdict
    · exact .refused reason hverdict
  · dsimp only
    rw [applyToAll, if_pos hset]
    exact .refused _ rfl

theorem dispatched (h : Serving r) (hd : r.store.definition? request.pid = some d)
    (hstandard : d ∈ standardDefinitions) (custom : κ → Handler κ γ ω) (w : ω) :
    Dispatched request r (dispatch custom d request r w).1 (dispatch custom d request r w).2.1 := by
  obtain ⟨-, -, hpid⟩ := (Store.definition?_eq_some_iff h.builtins.1.pids_nodup).mp hd
  unfold dispatch
  cases hname : d.handlers.forCommand? request.commandClass with
  | none => exact .refused _ rfl
  | some name =>
    obtain ⟨handler, rfl, hoffer⟩ := offer_of_standard hstandard hname
    rw [hpid] at hoffer
    dsimp only
    cases hformat : d.format? request.commandClass with
    | none =>
      rw [hformat] at hoffer
      exact .discovery hoffer rfl rfl
    | some format =>
      rw [hformat] at hoffer
      dsimp only
      cases hrefusal : refusal? format request.data.bytes with
      | some reason => exact .refused reason rfl
      | none =>
        have hdata := refusal?_eq_none_iff.mp hrefusal
        dsimp only
        split_ifs with hevery
        · exact dispatched_applyToAll hevery hoffer hdata custom r w
        · unfold applyToOne
          split_ifs with hdevice
          · exact .device hoffer hdata hdevice rfl rfl
          · exact .refused _ rfl

/-- A request that is passed over is not answered. -/
theorem heard_of_ne_silent {custom : κ → Handler κ γ ω} {fallback : Fallback κ γ ω ε} {w : ω}
    (h : (handle custom fallback request r w).1 ≠ .answered .silent) :
    r.ignores request = false := by
  cases hignores : r.ignores request with
  | false => rfl
  | true => exact absurd (by rw [handle, if_pos hignores]) h

/-- A request that is heard and whose parameter is defined ends as its dispatching does. -/
theorem exists_dispatched (h : Serving r) (hheard : r.ignores request = false)
    (hpid : r.Standard request.pid) (hd : r.store.definition? request.pid = some d)
    (custom : κ → Handler κ γ ω) (fallback : Fallback κ γ ω ε) (w : ω) :
    ∃ verdict r' w', Dispatched request r verdict r' ∧
      handle custom fallback request r w = (conclude request r' verdict, r', w') :=
  ⟨_, _, _, dispatched h hd (h.mem_standard hpid hd) custom w, handle_of_dispatch hheard hd rfl⟩

/-! ## Requests to read a parameter -/

/-- A request to read a parameter comes to its handler, if the device is there. -/
theorem dispatch_get (h : Serving r) (hoffer : Offer pid .get handler (some format))
    (hbuiltin : pid ∈ builtinPids) (hpid : request.pid = pid) (hget : request.commandClass = .get)
    (hdata : Describes format.request request.data.bytes) :
    ∃ d : ParameterDefinition (HandlerName κ), r.store.definition? request.pid = some d ∧
      ∀ {ω : Type} (custom : κ → Handler κ γ ω) (w : ω), dispatch custom d request r w =
        if request.subDevice = SubDevice.every then
          applyToAll (interpret custom (.builtin handler)) request r w
        else applyToOne (interpret custom (.builtin handler)) format request r w := by
  obtain ⟨d, hd, rfl, rfl, hhandler⟩ := hoffer.exists_builtin (κ := κ) hbuiltin
  refine ⟨d, hpid ▸ h.definition? hd, fun custom w => ?_⟩
  rw [dispatch, hget, hhandler]
  dsimp only [ParameterDefinition.format?]
  rw [refusal?_eq_none_iff.mpr hdata]

theorem heard_of_targets (htargets : request.destination.targets r.uid = true)
    (hget : request.commandClass = .get) : r.ignores request = false := by
  rw [ignores, htargets, hget]
  rfl

/-- A request to read a parameter of a device that is there is answered by the handler, and the
answer is inspected. -/
theorem handle_get (h : Serving r) (hoffer : Offer pid .get handler (some format))
    (hbuiltin : pid ∈ builtinPids) (hpid : request.pid = pid)
    (htargets : request.destination.targets r.uid = true) (hget : request.commandClass = .get)
    (hdevice : r.store.hasDevice request.subDevice = true)
    (hdata : Describes format.request request.data.bytes) (custom : κ → Handler κ γ ω)
    (fallback : Fallback κ γ ω ε) (w : ω) :
    handle custom fallback request r w =
      (conclude request (handler.run request r).2 (inspect format (handler.run request r).1),
        (handler.run request r).2, w) := by
  obtain ⟨d, hd, hdispatch⟩ := dispatch_get h hoffer hbuiltin hpid hget hdata
  have hevery : request.subDevice ≠ SubDevice.every := by
    intro hevery
    rw [hevery, h.hasDevice_every] at hdevice
    cases hdevice
  refine handle_of_dispatch (heard_of_targets htargets hget) hd ?_
  rw [hdispatch, if_neg hevery, applyToOne, if_pos hdevice]
  rfl

/-- A request to read a parameter of a device that is not there is refused. -/
theorem handle_get_absent (h : Serving r) (hoffer : Offer pid .get handler (some format))
    (hbuiltin : pid ∈ builtinPids) (hpid : request.pid = pid)
    (htargets : request.destination.targets r.uid = true) (hget : request.commandClass = .get)
    (hdevice : r.store.hasDevice request.subDevice = false)
    (hdata : Describes format.request request.data.bytes) (custom : κ → Handler κ γ ω)
    (fallback : Fallback κ γ ω ε) (w : ω) :
    handle custom fallback request r w =
      (conclude request r (.refused .subDeviceOutOfRange), r, w) := by
  obtain ⟨d, hd, hdispatch⟩ := dispatch_get h hoffer hbuiltin hpid hget hdata
  refine handle_of_dispatch (heard_of_targets htargets hget) hd ?_
  rw [hdispatch]
  split_ifs
  · have hset : request.commandClass ≠ .set := by
      rw [hget]
      decide
    rw [applyToAll, if_pos hset]
  · rw [applyToOne, hdevice]
    rfl

end Responder

end LightingBus
