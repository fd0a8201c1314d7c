import LightingBus.Proofs.Responder.Offers
import LightingBus.Proofs.Responder.Running

/-!
# Promises of the built-in parameters

A definition promises that requests bring the parameter data its handler needs and that answers have
their written format. `breaks_promise_iff`: the first promise is always kept, and the second one is
broken exactly by texts that are not ascii up to their first zero byte.

1. Which answers have their format is told handler by handler: for all but texts by their length
   (`keepsPromise_run`), for texts by `keepsPromise_text_iff`.
2. `Garbled` is a request that is acknowledged with what is no text. Texts come from the
   configuration and, as the label, from whoever stores values; neither is checked to be ascii.
3. `Dispatched.of_broken` and `Garbled.handle` are the two directions for a whole request.
-/

namespace LightingBus

namespace Responder

open Format (Describes IsText)

variable {κ γ ω ε : Type} {r r' : Responder κ γ} {request : Request} {format : CommandFormat}
  {bytes : Bytes} {fault : Fault} {d : ParameterDefinition (HandlerName κ)} {c : CommandClass}

/-! ## What is promised -/

theorem keepsPromise_acknowledged {data : ParameterData} :
    keepsPromise format (.done (.acknowledged data)) = true ↔
      Describes format.response data.bytes := by
  rw [keepsPromise]
  cases hparse : Format.parse format.response with
  | error e => exact ⟨nofun, fun h => absurd h (Format.not_describes hparse)⟩
  | ok parsed =>
    rw [Format.describes_iff hparse]
    dsimp only
    cases parsed.validate data.bytes with
    | error e => exact ⟨nofun, nofun⟩
    | ok records => exact ⟨fun _ => ⟨records, rfl⟩, fun _ => rfl⟩

/-- Data that does not fit into one packet is refused, which breaks no promise. -/
theorem keepsPromise_acknowledge (h : Describes format.response bytes) :
    keepsPromise format (acknowledge bytes) = true := by
  unfold acknowledge
  split
  next => rfl
  next data hdata =>
    rw [keepsPromise_acknowledged, ParameterData.bytes_of_ofBytes? hdata]
    exact h

theorem acknowledge_of_le (h : bytes.length ≤ maxParameterLength) :
    acknowledge bytes = .done (.acknowledged ⟨bytes, h⟩) := by
  rw [acknowledge, ParameterData.ofBytes?, dif_pos h]

theorem keepsPromise_acknowledge_iff (h : bytes.length ≤ maxParameterLength) :
    keepsPromise format (acknowledge bytes) = true ↔ Describes format.response bytes := by
  rw [acknowledge_of_le h]
  exact keepsPromise_acknowledged

theorem inspect_eq_broken_iff {verdict : Verdict} (hverdict : ∀ fault, verdict ≠ .broken fault) :
    inspect format verdict = .broken fault ↔
      fault = .wrongResponse ∧ keepsPromise format verdict = false := by
  unfold inspect
  split_ifs with hkeeps
  · rw [hkeeps]
    exact ⟨fun h => absurd h (hverdict fault), nofun⟩
  · rw [Verdict.broken.injEq, Bool.not_eq_true] at *
    exact ⟨fun h => ⟨h.symm, hkeeps⟩, fun h => h.1.symm⟩

/-! ## Texts -/

/-- The parameters that report texts. -/
def textPids : List UInt16 :=
  [Pid.softwareVersionLabel, Pid.deviceLabel, Pid.dmxPersonalityDescription]

/-- The text that a request is acknowledged with, if its parameter is one that reports a text. -/
def reportedText? (request : Request) (r : Responder κ γ) : Option Bytes :=
  if request.pid = Pid.softwareVersionLabel then
    some ((Text.toBytes r.config.versionLabel).take Label.maxLength)
  else if request.pid = Pid.deviceLabel then (r.store.get (requestKey request)).toOption
  else if request.pid = Pid.dmxPersonalityDescription ∧ request.subDevice = SubDevice.root then
    (request.data.bytes.head?.bind r.setting?).map fun setting =>
      (Label.empty.fill setting.description.toList).toBytes
  else none

theorem reportedText?_eq_none (h : request.pid ∉ textPids) : reportedText? request r = none := by
  simp only [textPids, List.mem_cons, List.not_mem_nil, or_false, not_or] at h
  rw [reportedText?, if_neg h.1, if_neg h.2.1, if_neg fun hpid => h.2.2 hpid.1]

/-! ## Promises that are kept -/

/-- Stored values have the length that their definition demands. -/
theorem keepsPromise_simpleGet (h : Serving r) (hd : r.store.definition? request.pid = some d)
    (hpromise : ∀ value, d.check value = .ok () → Describes format.response value) :
    keepsPromise format (simpleGet request r) = true := by
  unfold simpleGet
  split
  next => rfl
  next value hvalue =>
    exact keepsPromise_acknowledge (hpromise value (h.builtins.1.check_of_get hd hvalue))

theorem keepsPromise_acknowledgeEmpty (h : Describes format.response []) :
    keepsPromise format acknowledgeEmpty = true :=
  keepsPromise_acknowledged.mpr h

theorem keepsPromise_storeValue {key : Key} {value : Bytes} (h : Describes format.response []) :
    keepsPromise format (storeValue key value r).1 = true := by
  unfold storeValue
  split
  · rfl
  · exact keepsPromise_acknowledgeEmpty h

theorem keepsPromise_setPersonality (h : Describes format.response []) :
    keepsPromise format (setPersonality request r).1 = true := by
  unfold setPersonality
  split_ifs
  · rfl
  · split
    · rfl
    · split
      · rfl
      · exact keepsPromise_storeValue h

theorem keepsPromise_queuedMessage (h : Describes format.response []) :
    keepsPromise format (queuedMessage request r).1 = true := by
  unfold queuedMessage
  split
  · rfl
  · split_ifs
    · unfold repeatQueued
      split
      · exact keepsPromise_acknowledgeEmpty h
      · rfl
    · unfold popQueued
      split
      · dsimp only
        split <;> rfl
      · rfl
    · rfl

theorem length_flatMap_of_const {α : Type} (f : α → Bytes) (n : ℕ) (hf : ∀ a, (f a).length = n)
    (l : List α) : n ∣ (l.flatMap f).length := by
  rw [List.length_flatMap]
  exact List.dvd_sum fun m hm => by
    obtain ⟨a, -, rfl⟩ := List.mem_map.mp hm
    rw [hf]

theorem keepsPromise_statusMessages (h : Recorded r)
    (hformat : ∀ bytes, Entries bytes → Describes format.response bytes) :
    keepsPromise format (statusMessages request r).1 = true := by
  unfold statusMessages
  split
  · rfl
  · split_ifs
    · exact keepsPromise_acknowledgeEmpty (hformat [] ⟨[], rfl⟩)
    · exact keepsPromise_acknowledged.mpr (hformat _ h.statuses)
    · exact keepsPromise_acknowledged.mpr (hformat _ (entries_popStatuses _ r))
    · rfl

theorem keepsPromise_getSensor (h : ∀ s : SensorReading, Describes format.response s.encode) :
    keepsPromise format (getSensor request r) = true := by
  unfold getSensor withFirstByte
  split
  · rfl
  · dsimp only
    split
    · rfl
    · exact keepsPromise_acknowledge (h _)

theorem keepsPromise_resetSensor (h : ∀ s : SensorReading, Describes format.response s.encode) :
    keepsPromise format (resetSensor request r).1 = true := by
  unfold resetSensor
  split
  · rfl
  · split_ifs
    · exact keepsPromise_acknowledge (h _)
    · split
      · rfl
      · exact keepsPromise_acknowledge (h _)

theorem keepsPromise_recordSensors (h : Describes format.response []) :
    keepsPromise format (recordSensors request r).1 = true := by
  unfold recordSensors
  split
  · rfl
  · split_ifs
    · exact keepsPromise_acknowledgeEmpty h
    · split
      · rfl
      · exact keepsPromise_acknowledgeEmpty h

theorem keepsPromise_getStored (h : Serving r) {n : ℕ}
    (hd : r.store.definition? request.pid = some d) (hsize : d.size = .fixed n)
    (hformat : ∀ bytes, bytes.length = n → Describes format.response bytes) :
    keepsPromise format (simpleGet request r) = true := by
  refine keepsPromise_simpleGet h hd fun value hvalue => hformat value ?_
  obtain ⟨hlength, -⟩ := ParameterDefinition.check_eq_ok_iff.mp hvalue
  rw [hsize, ValueSize.accepts, beq_iff_eq] at hlength
  exact hlength

/-- An answer that is no text has the promised format. -/
theorem keepsPromise_run (h : Running r) {pid : UInt16} (hpid : request.pid = pid)
    {handler : Builtin} (hoffer : Offer pid c handler (some format))
    (htext : c = .get → pid ∉ textPids) :
    keepsPromise format (handler.run request r).1 = true := by
  have hnothing : Describes "" [] := Format.describes_nothing_iff.mpr rfl
  have hsensor : ∀ s : SensorReading, Describes "bwwww$" s.encode :=
    fun s => Format.describes_sensor_iff.mpr s.length_encode
  cases hoffer with
  | supportedParameters =>
    exact keepsPromise_acknowledge (Format.describes_words (length_flatMap_of_const _ 2
      Bytes.length_ofWord _))
  | deviceInfo =>
    change keepsPromise _ (acknowledge r.info.encode) = true
    exact keepsPromise_acknowledge (Format.describes_info rfl r.info.length_encode)
  | getIdentify =>
    have hd : r.store.definition? request.pid = some identifyDefinition := by
      rw [hpid]
      exact h.serving.definition? (d := identifyDefinition) (by simp [builtinDefinitions])
    exact keepsPromise_getStored h.serving hd rfl fun _ => Format.describes_byte_iff.mpr
  | getPersonality =>
    have hd : r.store.definition? request.pid = some personalityDefinition := by
      rw [hpid]
      exact h.serving.definition? (d := personalityDefinition) (by simp [builtinDefinitions])
    exact keepsPromise_getStored h.serving hd rfl fun _ => Format.describes_twoBytes_iff.mpr
  | getStartAddress =>
    change keepsPromise _ (getStartAddress request r) = true
    unfold getStartAddress
    split_ifs
    · exact keepsPromise_acknowledge (Format.describes_word_iff.mpr rfl)
    · have hd : r.store.definition? request.pid = some startAddressDefinition := by
        rw [hpid]
        exact h.serving.definition? (d := startAddressDefinition) (by simp [builtinDefinitions])
      exact keepsPromise_getStored h.serving hd rfl fun _ => Format.describes_word_iff.mpr
  | setIdentify | setStartAddress | setLabel => exact keepsPromise_storeValue hnothing
  | setPersonality => exact keepsPromise_setPersonality hnothing
  | queuedMessage => exact keepsPromise_queuedMessage (Format.describes_anything [])
  | statusMessages =>
    refine keepsPromise_statusMessages h.recorded ?_
    rintro bytes ⟨messages, rfl⟩
    exact Format.describes_statuses (length_flatMap_of_const _ 9 StatusMessage.length_encode _)
  | getSensor => exact keepsPromise_getSensor hsensor
  | resetSensor => exact keepsPromise_resetSensor hsensor
  | recordSensors => exact keepsPromise_recordSensors hnothing
  | softwareVersionLabel | personalityDescription | getLabel =>
    exact absurd (by decide) (htext rfl)

/-! ## Promises that depend on texts -/

theorem keepsPromise_label_iff (hformat : format.response = "a$")
    (hlength : bytes.length ≤ Label.maxLength) :
    keepsPromise format (acknowledge bytes) = true ↔ Text.isAscii bytes.untilZero = true := by
  rw [keepsPromise_acknowledge_iff (hlength.trans (by decide)), hformat,
    Format.describes_label_iff, Format.isText_iff_of_length_le hlength]

/-- A label behind the number and the footprint of a personality. -/
theorem keepsPromise_description_iff (hformat : format.response = "bwa$") (number : UInt8)
    (footprint : UInt16) (label : Label) :
    keepsPromise format (acknowledge (PersonalityDescription.encode ⟨number, footprint, label⟩)) =
      true ↔ Text.isAscii label.toBytes.untilZero = true := by
  have hfront : ([number] ++ Bytes.ofWord footprint).length = 3 := rfl
  have hencode : PersonalityDescription.encode ⟨number, footprint, label⟩ =
      ([number] ++ Bytes.ofWord footprint) ++ label.toBytes := rfl
  have hlabel : label.toBytes.length ≤ 32 := label.length_le
  have hlength : (PersonalityDescription.encode ⟨number, footprint, label⟩).length =
      3 + label.toBytes.length := by rw [hencode, List.length_append, hfront]
  have hfits : 3 + label.toBytes.length ≤ maxParameterLength := by
    rw [maxParameterLength]
    omega
  rw [keepsPromise_acknowledge_iff (hlength ▸ hfits), hformat, Format.describes_description_iff,
    hlength, hencode, List.drop_left' hfront, Format.isText_iff_of_length_le hlabel,
    and_iff_right (Nat.le_add_right 3 _)]

/-- A text that is reported has the promised format if it is ascii up to its first zero byte. -/
theorem keepsPromise_text_iff (h : Running r) {pid : UInt16} (hpid : request.pid = pid)
    {handler : Builtin} (hoffer : Offer pid .get handler (some format)) (htext : pid ∈ textPids)
    (hdata : Describes format.request request.data.bytes) :
    keepsPromise format (handler.run request r).1 = true ↔
      ∀ text, reportedText? request r = some text → Text.isAscii text.untilZero = true := by
  cases hoffer with
  | softwareVersionLabel =>
    rw [reportedText?, if_pos hpid]
    refine Iff.trans (keepsPromise_label_iff rfl (List.length_take_le _ _)) ?_
    exact ⟨fun hascii text htext => Option.some.inj htext ▸ hascii, fun h => h _ rfl⟩
  | getLabel =>
    rw [reportedText?, if_neg (by rw [hpid]; decide), if_pos hpid]
    change keepsPromise _ (simpleGet request r) = true ↔ _
    unfold simpleGet
    cases hvalue : r.store.get (requestKey request) with
    | error e => exact iff_of_true rfl fun _ htext => absurd htext.symm (Option.some_ne_none _)
    | ok value =>
      have hd : r.store.definition? request.pid = some labelDefinition := by
        rw [hpid]
        exact h.serving.definition? (d := labelDefinition) (by simp [builtinDefinitions])
      have hcheck := h.serving.builtins.1.check_of_get hd hvalue
      obtain ⟨hlength, -⟩ := ParameterDefinition.check_eq_ok_iff.mp hcheck
      refine Iff.trans (keepsPromise_label_iff rfl (of_decide_eq_true hlength)) ?_
      exact ⟨fun hascii text htext => Option.some.inj htext ▸ hascii, fun h => h _ rfl⟩
  | personalityDescription =>
    rw [reportedText?, if_neg (by rw [hpid]; decide), if_neg (by rw [hpid]; decide)]
    change keepsPromise _ (getPersonalityDescription request r) = true ↔ _
    unfold getPersonalityDescription
    by_cases hroot : request.subDevice = SubDevice.root
    · rw [if_neg (not_not.mpr hroot), if_pos ⟨hpid, hroot⟩]
      obtain ⟨number, hnumber⟩ := List.length_eq_one_iff.mp (Format.describes_byte_iff.mp hdata)
      rw [withFirstByte, hnumber]
      dsimp only [List.head?_cons, Option.bind_some]
      cases r.setting? number with
      | none => exact iff_of_true rfl fun _ htext => absurd htext.symm (Option.some_ne_none _)
      | some setting =>
        refine Iff.trans (keepsPromise_description_iff rfl _ _ _) ?_
        exact ⟨fun hascii text htext => Option.some.inj htext ▸ hascii, fun h => h _ rfl⟩
    · rw [if_pos hroot, if_neg fun h => hroot h.2]
      exact iff_of_true rfl fun _ htext => absurd htext.symm (Option.some_ne_none _)
  | _ => exact absurd htext (by decide)

/-! ## Broken promises -/

/-- A request that is acknowledged with a text that is none: one that the responder heeds, for a
device that is there, and with the parameter data that it has to have. -/
structure Garbled (request : Request) (r : Responder κ γ) : Prop where
  heard : r.ignores request = false
  commandClass : request.commandClass = .get
  device : r.store.hasDevice request.subDevice = true
  data : request.data.bytes.length = if request.pid = Pid.dmxPersonalityDescription then 1 else 0
  text : ∃ text, reportedText? request r = some text ∧ Text.isAscii text.untilZero = false

theorem Garbled.mem_textPids (h : Garbled request r) : request.pid ∈ textPids := by
  obtain ⟨text, htext, -⟩ := h.text
  by_contra hpid
  rw [reportedText?_eq_none hpid] at htext
  cases htext

theorem Offer.describes_request_iff {pid : UInt16} {handler : Builtin}
    (hoffer : Offer pid .get handler (some format)) (htext : pid ∈ textPids) :
    Describes format.request bytes ↔
      bytes.length = if pid = Pid.dmxPersonalityDescription then 1 else 0 := by
  cases hoffer with
  | softwareVersionLabel | getLabel =>
    rw [if_neg (by decide), List.length_eq_zero_iff]
    exact Format.describes_nothing_iff
  | personalityDescription => exact Format.describes_byte_iff
  | _ => exact absurd htext (by decide)

theorem keepsPromise_eq_false_iff (h : Running r) (hheard : r.ignores request = false)
    (hdevice : r.store.hasDevice request.subDevice = true) {handler : Builtin}
    (hoffer : Offer request.pid request.commandClass handler (some format))
    (hdata : Describes format.request request.data.bytes) :
    keepsPromise format (handler.run request r).1 = false ↔ Garbled request r := by
  by_cases htext : request.commandClass = .get ∧ request.pid ∈ textPids
  · obtain ⟨hget, hmem⟩ := htext
    rw [hget] at hoffer
    rw [← Bool.not_eq_true, keepsPromise_text_iff h rfl hoffer hmem hdata]
    constructor
    · intro hnot
      push Not at hnot
      obtain ⟨text, hreported, hascii⟩ := hnot
      exact ⟨hheard, hget, hdevice, (hoffer.describes_request_iff hmem).mp hdata, text, hreported,
        Bool.eq_false_iff.mpr hascii⟩
    · intro hgarbled hall
      obtain ⟨text, hreported, hascii⟩ := hgarbled.text
      rw [hall text hreported] at hascii
      cases hascii
  · rw [keepsPromise_run h rfl hoffer fun hget hmem => htext ⟨hget, hmem⟩]
    exact ⟨nofun, fun hgarbled => absurd ⟨hgarbled.commandClass, hgarbled.mem_textPids⟩ htext⟩

/-- The promise that is broken is never one about the parameter data of the request. -/
theorem Dispatched.of_broken (h : Running r) (hheard : r.ignores request = false)
    (hdispatched : Dispatched request r (.broken fault) r') :
    fault = .wrongResponse ∧ Garbled request r := by
  cases hdispatched with
  | refused reason hverdict => cases hverdict
  | everywhere _ _ hverdict => cases hverdict
  | discovery hoffer hverdict _ =>
    have hplain := hoffer.isPlain_run request r
    rw [← hverdict] at hplain
    cases hplain
  | device hoffer hdata hdevice hverdict _ =>
    obtain ⟨rfl, hbroken⟩ :=
      (inspect_eq_broken_iff fun _ => run_ne_broken (hoffer.ne_nil hdata) r).mp hverdict.symm
    exact ⟨rfl, (keepsPromise_eq_false_iff h hheard hdevice hoffer hdata).mp hbroken⟩

theorem exists_textOffer {pid : UInt16} (htext : pid ∈ textPids) :
    ∃ handler format, Offer pid .get handler (some format) := by
  simp only [textPids, List.mem_cons, List.not_mem_nil, or_false] at htext
  rcases htext with rfl | rfl | rfl
  · exact ⟨_, _, .softwareVersionLabel⟩
  · exact ⟨_, _, .getLabel⟩
  · exact ⟨_, _, .personalityDescription⟩

theorem Garbled.handle (h : Running r) (hgarbled : Garbled request r)
    (custom : κ → Handler κ γ ω) (fallback : Fallback κ γ ω ε) (w : ω) :
    (handle custom fallback request r w).1 = .broken .wrongResponse request.pid := by
  have htext := hgarbled.mem_textPids
  obtain ⟨handler, format, hoffer⟩ := exists_textOffer htext
  have hbuiltin : request.pid ∈ builtinPids := (show textPids ⊆ builtinPids by decide) htext
  have htargets : request.destination.targets r.uid = true := by
    have hheard := hgarbled.heard
    rw [ignores, Bool.or_eq_false_iff, Bool.not_eq_false'] at hheard
    exact hheard.1
  have hdata : Describes format.request request.data.bytes :=
    (hoffer.describes_request_iff htext).mpr hgarbled.data
  have hkeeps : keepsPromise format (handler.run request r).1 = false :=
    (keepsPromise_eq_false_iff h hgarbled.heard hgarbled.device
      (hgarbled.commandClass ▸ hoffer) hdata).mpr hgarbled
  have hbroken : inspect format (handler.run request r).1 = .broken .wrongResponse :=
    (inspect_eq_broken_iff fun _ => run_ne_broken (hoffer.ne_nil hdata) r).mpr ⟨rfl, hkeeps⟩
  rw [handle_get h.serving hoffer hbuiltin rfl htargets hgarbled.commandClass hgarbled.device
    hdata, hbroken]
  rfl

theorem conclude_eq_broken_iff {verdict : Verdict} {pid : UInt16} :
    (conclude request r verdict : Outcome ε) = .broken fault pid ↔
      verdict = .broken fault ∧ pid = request.pid := by
  cases verdict with
  | done result => exact ⟨nofun, nofun⟩
  | refused reason => exact ⟨nofun, nofun⟩
  | broken other =>
    rw [conclude, Outcome.broken.injEq, Verdict.broken.injEq]
    exact and_congr_right fun _ => eq_comm

/-- A request to a parameter that comes with the responder breaks a promise exactly if it is
acknowledged with a text that is not ascii up to its first zero byte; and the promise is the format
of the answer, never the parameter data that the handler needs. -/
theorem breaks_promise_iff (h : Running r) (hpid : r.Standard request.pid)
    (custom : κ → Handler κ γ ω) (fallback : Fallback κ γ ω ε) (w : ω) (fault : Fault)
    (pid : UInt16) :
    (handle custom fallback request r w).1 = .broken fault pid ↔
      fault = .wrongResponse ∧ pid = request.pid ∧ Garbled request r := by
  constructor
  · intro hbroken
    have hheard : r.ignores request = false :=
      heard_of_ne_silent (Eq.trans_ne hbroken nofun)
    cases hd : r.store.definition? request.pid with
    | none =>
      rw [handle, hheard, if_neg Bool.false_ne_true, hd] at hbroken
      dsimp only at hbroken
      generalize fallback request r w = outcome at hbroken
      obtain ⟨_ | _, r', w'⟩ := outcome
      · cases hbroken
      · cases hbroken
    | some d =>
      obtain ⟨verdict, r', w', hdispatched, hhandle⟩ :=
        exists_dispatched h.serving hheard hpid hd custom fallback w
      rw [hhandle] at hbroken
      obtain ⟨rfl, rfl⟩ := conclude_eq_broken_iff.mp hbroken
      obtain ⟨rfl, hgarbled⟩ := hdispatched.of_broken h hheard
      exact ⟨rfl, rfl, hgarbled⟩
  · rintro ⟨rfl, rfl, hgarbled⟩
    exact hgarbled.handle h custom fallback w

/-! ## A label that is no text -/

/-- A permanent storage with a label in another encoding. -/
def foreignLabel : Simulation.MemoryStorage where
  values := [((rootKey Pid.deviceLabel).pack, [0x66, 0xE9, 0x65])]

/-- The example device after it has read its label. -/
def loadedDevice : Responder Empty Empty :=
  ((exampleDevice []).load Simulation.MemoryStorage.keyValue foreignLabel).2.1

theorem loadedDevice_running : Running loadedDevice :=
  (exampleDevice_running []).alter (altered_load _ _ _)

/-- A controller asks the device for its label. -/
def askLabel : Request where
  destination := .device exampleConfig.uid
  source := exampleSetAll.source
  transaction := 0
  port := 1
  messageCount := 0
  subDevice := SubDevice.root
  commandClass := .get
  pid := Pid.deviceLabel
  data := .empty

theorem garbled_askLabel : Garbled askLabel loadedDevice where
  heard := by cbv
  commandClass := rfl
  device := by cbv
  data := rfl
  text := ⟨[0x66, 0xE9, 0x65], by cbv, by decide⟩

theorem breaks_promise_iff_askLabel :
    (Running loadedDevice ∧ Standard loadedDevice askLabel.pid) ∧
    Garbled askLabel loadedDevice ∧
    ((handle Empty.elim (noFallback : Fallback Empty Empty Unit Empty) askLabel loadedDevice ()).1 =
        .broken .wrongResponse Pid.deviceLabel ↔
      Fault.wrongResponse = .wrongResponse ∧ Pid.deviceLabel = askLabel.pid ∧
        Garbled askLabel loadedDevice) :=
  ⟨⟨loadedDevice_running, .inl (by decide)⟩, garbled_askLabel,
    breaks_promise_iff loadedDevice_running (.inl (by decide)) Empty.elim noFallback () _ _⟩

/-- A label is read from the permanent storage that the device then cannot report. -/
theorem label_breaks_promise :
    Running loadedDevice ∧ askLabel.pid ∈ builtinPids ∧
    ((exampleDevice []).load Simulation.MemoryStorage.keyValue foreignLabel).1.toOption = some 1 ∧
    (handle Empty.elim (noFallback : Fallback Empty Empty Unit Empty) askLabel loadedDevice ()).1 =
      .broken .wrongResponse Pid.deviceLabel := by
  refine ⟨loadedDevice_running, by decide, ?_, ?_⟩
  · cbv
  · cbv

end Responder

end LightingBus
