import LightingBus.Proofs.Responder.Adoption
import LightingBus.Proofs.Responder.Answers

/-!
# Two readers of one label

The program of a device reads the stored label as a whole, and a controller reads what it is told
up to the first zero byte. `label_read_iff`: the two read the same text exactly if no byte of the
stored label is zero, or if its first one is and the whole is no text, which both read as the empty
label.

1. A label comes from the configuration, from the program or from a request that sets it
   (`Relabelled`). Each of them ensures that it is ascii, but only in front of the first zero byte
   (`Named`).
2. So every request to read it is answered (`yields_label`), and what is told is read as a label.
3. The rest compares the bytes in front of the first zero byte with all of them.
-/

namespace LightingBus

theorem Bytes.untilZero_eq_self_iff {bytes : Bytes} : bytes.untilZero = bytes ↔ 0 ∉ bytes := by
  refine ⟨fun h hzero => ?_, untilZero_of_not_mem⟩
  have hne := List.takeWhile_eq_self_iff.mp h 0 hzero
  simp at hne

/-- Nothing stands in front of the first zero byte if it is the first byte. -/
theorem Bytes.untilZero_eq_nil_iff {bytes : Bytes} (h : 0 ∈ bytes) :
    bytes.untilZero = [] ↔ bytes.head? = some 0 := by
  cases bytes with
  | nil => cases h
  | cons byte bytes =>
    by_cases hbyte : byte = 0
    · simp [untilZero, hbyte]
    · simp [untilZero, hbyte]

namespace Responder

open Store (Adopts)

variable {κ γ ω ε : Type} {r r' : Responder κ γ} {request : Request} {data : Bytes}

/-! ## Where labels come from -/

/-- The key of the label of the device. -/
abbrev labelKey : Key :=
  rootKey Pid.deviceLabel

/-- Bytes that are ascii in front of the first zero byte. -/
def Legible (data : Bytes) : Prop :=
  Text.isAscii data.untilZero = true

/-- A fallback that uses the store of a device and gives the device no label but one that a request
could give it. -/
def Literate (fallback : Fallback κ γ ω ε) : Prop :=
  ∀ request (r : Responder κ γ) w, r.store.Used (fallback request r w).2.1.store ∧
    ((fallback request r w).2.1.store.get labelKey = r.store.get labelKey ∨
      ∃ data, (fallback request r w).2.1.store.get labelKey = .ok data ∧ Legible data)

theorem literate_noFallback : Literate (noFallback : Fallback κ γ ω ε) :=
  fun _ _ _ => ⟨.refl, .inl rfl⟩

/-- A device that was set up with an ascii label, and then asked by controllers and relabelled by
its program, again and again. -/
inductive Relabelled : Responder κ γ → Prop where
  | create {config : ResponderConfig} {capacities : Capacities} {r : Responder κ γ} :
    create config capacities = .ok r →
    Text.isAscii (Text.toBytes config.initialLabel) = true → Relabelled r
  | setLabel {label : String} {r r' : Responder κ γ} :
    Relabelled r → r.setLabel label = .ok r' → Relabelled r'
  | request {ω ε : Type} (custom : κ → Handler κ γ ω) {fallback : Fallback κ γ ω ε}
      (request : Request) (w : ω) {r : Responder κ γ} :
    Literate fallback → Relabelled r → Relabelled (handle custom fallback request r w).2.1

/-- A device with the built-in parameters and a label that is legible. -/
structure Named (r : Responder κ γ) : Prop where
  serving : Serving r
  definitions : r.store.definitions.map DefinitionSlot.definition = builtinDefinitions
  label : ∃ data, r.store.get labelKey = .ok data ∧ Legible data

/-- The label stays or becomes another one that is legible. -/
theorem Named.adopts (h : Named r) (hserving : Serving r')
    (hadopts : Adopts labelKey Legible r.store r'.store) : Named r' where
  serving := hserving
  definitions := by rw [hadopts.retains.definitions, h.definitions]
  label := by
    obtain hsame | hnew := hadopts.value
    · rw [hsame]
      exact h.label
    · exact hnew

theorem named_of_create {config : ResponderConfig} {capacities : Capacities}
    (h : create config capacities = .ok r)
    (hascii : Text.isAscii (Text.toBytes config.initialLabel) = true) : Named r := by
  have hfresh := fresh_of_create h
  refine ⟨hfresh.serving, hfresh.definitions, _, Store.get_of_contents hfresh.label, ?_⟩
  exact Text.isAscii_untilZero (Text.isAscii_of_sublist (List.take_sublist _ _) hascii)

theorem Named.setLabel (h : Named r) {label : String} (hset : r.setLabel label = .ok r') :
    Named r' := by
  have hserving := h.serving.altered (altered_setLabel hset)
  unfold Responder.setLabel at hset
  split_ifs at hset with hascii
  obtain ⟨s, hchange, rfl⟩ := update_eq_ok hset
  have hadopts : Adopts labelKey Legible r.store
      (Store.Change.setAndQueue labelKey (Text.toBytes label) r.store).2 :=
    (Adopts.refl h.serving.builtins.1).setAndQueue fun _ => Text.isAscii_untilZero hascii
  rw [hchange] at hadopts
  exact h.adopts hserving hadopts

/-! ## Requests -/

/-- A label that is stored by a request has passed its format. -/
theorem legible_of_offer {pid : UInt16} {c : CommandClass} {format? : Option CommandFormat}
    (hoffer : Offer pid c .simpleSet format?) (hpid : pid = Pid.deviceLabel)
    (hdata : ∀ format, format? = some format → Format.Describes format.request data) :
    Legible data := by
  cases hoffer with
  | setLabel => exact (Format.describes_label_iff.mp (hdata _ rfl)).2
  | setIdentify | setStartAddress => exact absurd hpid (by decide)

theorem Named.mem_builtins (h : Named r) {pid : UInt16} {d : ParameterDefinition (HandlerName κ)}
    (hd : r.store.definition? pid = some d) : d ∈ builtinDefinitions ∧ d.pid = pid := by
  obtain ⟨n, hn, hpid⟩ := (Store.definition?_eq_some_iff h.serving.builtins.1.pids_nodup).mp hd
  rw [Store.definitionAt?, ← List.getElem?_map, h.definitions] at hn
  exact ⟨List.mem_of_getElem? hn, hpid⟩

theorem Named.dispatch (h : Named r) {d : ParameterDefinition (HandlerName κ)}
    (hd : r.store.definition? request.pid = some d) (custom : κ → Handler κ γ ω) (w : ω) :
    Named (dispatch custom d request r w).2.1 := by
  obtain ⟨hmem, hpid⟩ := h.mem_builtins hd
  have hstandard : d ∈ standardDefinitions := List.mem_append_left _ hmem
  have hstable : Stable forgetful (Serving : Responder κ γ → Prop) := stable_serving forgetful
  have hserving : Serving (Responder.dispatch custom d request r w).2.1 := by
    refine keeps_dispatch hstable.keptBySet (fun name hname => ?_) r w h.serving
    obtain ⟨handler, rfl, -⟩ := offer_of_standard hstandard hname
    exact fun request r w hr => hstable.runBuiltin hr handler request
  have hfollows : Follows labelKey Legible r (Responder.dispatch custom d request r w).2.1 := by
    refine .dispatch h.serving.builtins.1 hstandard hpid (fun hoffer hdata => ⟨?_, ?_⟩) custom w
    · rintro rfl hlabel
      exact legible_of_offer hoffer hlabel hdata
    · exact fun _ hkey => absurd hkey (by decide)
  exact h.adopts hserving hfollows.store

theorem Named.handle (h : Named r) (custom : κ → Handler κ γ ω) {fallback : Fallback κ γ ω ε}
    (hfallback : Literate fallback) (request : Request) (w : ω) :
    Named (handle custom fallback request r w).2.1 := by
  unfold Responder.handle
  split_ifs
  · exact h
  · split
    next =>
      obtain ⟨hused, hlabel⟩ := hfallback request r w
      have hserving : Serving (fallback request r w).2.1 :=
        ((stable_serving forgetful).use h.serving hused).of_store_eq rfl
      have hnamed := h.adopts hserving ⟨hused.retains h.serving.builtins.1, hlabel⟩
      generalize fallback request r w = outcome at hnamed ⊢
      obtain ⟨_ | _, r', w'⟩ := outcome
      · exact hnamed
      · exact hnamed
    next d hd => exact h.dispatch hd custom w

theorem Relabelled.named (h : Relabelled r) : Named r := by
  induction h with
  | create hcreate hascii => exact named_of_create hcreate hascii
  | setLabel _ hset ih => exact ih.setLabel hset
  | request custom request w hfallback _ ih => exact ih.handle custom hfallback request w

/-! ## Reading a label -/

/-- A label that is stored is never too long to be told. -/
theorem Named.isText (h : Named r) (hget : r.store.get labelKey = .ok data)
    (hlegible : Legible data) : Format.IsText data := by
  have hd : r.store.definition? Pid.deviceLabel = some labelDefinition :=
    h.serving.definition? (d := labelDefinition) (by simp [builtinDefinitions])
  obtain ⟨hlength, -⟩ := ParameterDefinition.check_eq_ok_iff.mp
    (h.serving.builtins.1.check_of_get hd hget)
  exact (Format.isText_iff_of_length_le (of_decide_eq_true hlength)).mpr hlegible

/-- What the program reads: all of the stored bytes, if they are a text. -/
theorem label_of_get (hget : r.store.get labelKey = .ok data) :
    r.label = (Text.ofBytes? data).getD "" := by
  rw [label, rootValue?, hget]
  rfl

/-- All bytes and those in front of the first zero byte are the same text if no byte is zero. If
some byte is, then they are so only if they are no text at all. -/
theorem getD_eq_text_iff {label : Label} (hlabel : label.toBytes = data.untilZero) :
    (Text.ofBytes? data).getD "" = label.text ↔
      0 ∉ data ∨ data.head? = some 0 ∧ Text.ofBytes? data = none := by
  by_cases hzero : 0 ∈ data
  · have hempty : label.text = "" ↔ data.head? = some 0 := by
      rw [← Bytes.untilZero_eq_nil_iff hzero, ← hlabel, Label.toBytes,
        ← Text.toBytes_injective.eq_iff]
      rfl
    have hne : data.untilZero ≠ data := fun h => Bytes.untilZero_eq_self_iff.mp h hzero
    rw [or_iff_right (not_not.mpr hzero)]
    cases hread : Text.ofBytes? data with
    | none =>
      rw [Option.getD_none, eq_comm, hempty]
      exact (and_iff_left rfl).symm
    | some text =>
      have hbytes := Text.toBytes_of_ofBytes? hread
      refine iff_of_false (fun heq => hne ?_) (fun h => Option.some_ne_none _ h.2)
      rw [← hlabel, Label.toBytes, ← heq]
      exact hbytes
  · have hsame : data = Text.toBytes label.text := by
      rw [← Bytes.untilZero_of_not_mem hzero, ← hlabel]
      rfl
    refine iff_of_true ?_ (.inl hzero)
    rw [hsame, Text.ofBytes?_toBytes]
    rfl

/-- **One label, two readers.** Whatever a device with an ascii label was asked and however its
program relabelled it, every controller that asks for the label is told the stored bytes and reads
those in front of the first zero byte. The program of the device reads the same text exactly if
there is no zero byte, or if the first byte is zero and the bytes are no text. -/
theorem label_read_iff (h : Relabelled r) :
    ∃ (data : Bytes) (label : Label), r.Yields labelKey [] data ∧
      Label.decode? data = some label ∧ label.toBytes = data.untilZero ∧
      (r.label = label.text ↔ 0 ∉ data ∨ data.head? = some 0 ∧ Text.ofBytes? data = none) := by
  have hnamed := h.named
  obtain ⟨data, hget, hlegible⟩ := hnamed.label
  have htext := hnamed.isText hget hlegible
  obtain ⟨label, hdecode, hbytes⟩ := Label.exists_decode? htext
  refine ⟨data, label, yields_label hnamed.serving hget htext, hdecode, hbytes, ?_⟩
  rw [label_of_get hget]
  exact getD_eq_text_iff hbytes

/-! ## Labels with a zero byte -/

/-- A controller gives the device a label. -/
def giveLabel (data : ParameterData) : Request :=
  { exampleSetAll with
    destination := .device exampleConfig.uid
    subDevice := SubDevice.root
    data := data }

/-- The example device after it was given a label. -/
def givenLabel (data : ParameterData) : Responder Empty Empty :=
  (handle Empty.elim (noFallback : Fallback Empty Empty Unit Empty) (giveLabel data)
    (exampleDevice []) ()).2.1

theorem givenLabel_relabelled (data : ParameterData) : Relabelled (givenLabel data) :=
  .request Empty.elim (giveLabel data) () literate_noFallback
    (.create (eq_ok_get exists_exampleDevice) rfl)

/-- A zero byte and a byte that is no text are an empty label for both readers. -/
theorem label_read_iff_givenLabel :
    Relabelled (givenLabel (.ofBytes [0, 0xFF])) ∧ ∃ (data : Bytes) (label : Label),
      (givenLabel (.ofBytes [0, 0xFF])).Yields labelKey [] data ∧ Label.decode? data = some label ∧
      label.toBytes = data.untilZero ∧ ((givenLabel (.ofBytes [0, 0xFF])).label = label.text ↔
        0 ∉ data ∨ data.head? = some 0 ∧ Text.ofBytes? data = none) :=
  ⟨givenLabel_relabelled _, label_read_iff (givenLabel_relabelled _)⟩

/-- What the device tells of a label with a zero byte in the middle. -/
def cutLabelAnswer : Response where
  destination := .device exampleSetAll.source
  source := exampleConfig.uid
  transaction := 0
  type := .ack
  messageCount := 1
  subDevice := SubDevice.root
  commandClass := .get
  pid := Pid.deviceLabel
  data := .ofBytes [0x61, 0x62, 0, 0x63]

theorem givenLabel_get : (givenLabel (.ofBytes [0x61, 0x62, 0, 0x63])).store.get labelKey =
    .ok cutLabelAnswer.data.bytes := by
  cbv

/-- A controller gives the device a label with a zero byte and reads the text in front of it, where
the program of the device reads four characters. -/
theorem label_read_shorter :
    let r := givenLabel (.ofBytes [0x61, 0x62, 0, 0x63])
    Relabelled r ∧
    (handle Empty.elim (noFallback : Fallback Empty Empty Unit Empty) askLabel r ()).1 =
      .answered (.response cutLabelAnswer) ∧
    (Label.decode? cutLabelAnswer.data.bytes).map Label.text = some "ab" ∧
    r.label = "ab\x00c" ∧ r.label ≠ "ab" := by
  have hlabel : (givenLabel (.ofBytes [0x61, 0x62, 0, 0x63])).label = "ab\x00c" := by
    rw [label_of_get givenLabel_get]
    decide
  refine ⟨givenLabel_relabelled _, ?_, by decide, hlabel, ?_⟩
  · cbv
  · rw [hlabel]
    decide

end Responder

end LightingBus
