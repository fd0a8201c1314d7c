import LightingBus.Proofs.Payload.Labels
import LightingBus.Proofs.Responder.QueuedValues

/-!
# What controllers are told

`Yields r key data told`: every controller that asks the device `r` for the parameter `key` with the
parameter data `data` is told the bytes `told`, and the device is as it was. It takes an offer, a
handler that acknowledges with these bytes and leaves the device alone, and the promised format
(`Yields.of_run`).

The parameters of the device itself follow: what is stored is told as it is (`yields_personality`,
`yields_label`), but for the start address of a device that uses no slots (`yields_startAddress`),
and what is computed is told as it is written (`yields_info`, `yields_description`).
-/

namespace LightingBus

namespace Responder

open Format (Describes)

variable {κ γ : Type} {r : Responder κ γ} {key : Key} {data told value : Bytes} {pid : UInt16}
  {handler : Builtin} {format : CommandFormat}

/-- Whoever asks the device for a parameter with this parameter data is told these bytes, and the
device is as it was. -/
structure Yields (r : Responder κ γ) (key : Key) (data told : Bytes) : Prop where
  answer : ∀ {ω ε : Type} (custom : κ → Handler κ γ ω) (fallback : Fallback κ γ ω ε)
    (request : Request) (w : ω), Asks request r key data → ∃ response : Response,
      handle custom fallback request r w = (.answered (.response response), r, w) ∧
        response.type = .ack ∧ response.pid = key.pid ∧ response.data.bytes = told

theorem Yields.of_run (h : Serving r) (hoffer : Offer key.pid .get handler (some format))
    (hbuiltin : key.pid ∈ builtinPids) (hdevice : r.store.hasDevice key.subDevice = true)
    (hdata : Describes format.request data)
    (hrun : ∀ request, Asks request r key data → handler.run request r = (acknowledge told, r))
    (hlength : told.length ≤ maxParameterLength) (htold : Describes format.response told) :
    r.Yields key data told := by
  constructor
  intro ω ε custom fallback request w hasks
  obtain rfl := hasks.key
  rw [← hasks.data] at hdata
  rw [handle_get h hoffer hbuiltin rfl hasks.targets hasks.commandClass hdevice hdata,
    hrun request hasks, inspect, if_pos (keepsPromise_acknowledge htold),
    acknowledge_of_le hlength]
  show ∃ response, (Outcome.answered (respond r request .ack _), r, w) = _ ∧ _
  rw [respond, Request.respond?, hasks.destination]
  exact ⟨_, rfl, rfl, rfl, rfl⟩

theorem Serving.hasDevice_root (h : Serving r) : r.store.hasDevice SubDevice.root = true := by
  obtain ⟨subDevices, hdevices, -⟩ := h.builtins.1.devices
  rw [Store.hasDevice, hdevices]
  rfl

/-! ## Stored values -/

/-- Reading a stored value leaves the device alone. -/
theorem Offer.snd_run (hoffer : Offer pid .get handler (some format)) (hstored : pid ∈ storedPids)
    (request : Request) (r : Responder κ γ) : (handler.run request r).2 = r := by
  cases hoffer with
  | getIdentify | getStartAddress | getPersonality | getLabel => rfl
  | _ => exact absurd hstored (by decide)

/-- A stored parameter of the device itself is told as it is to be read, if that has the promised
format. -/
theorem Yields.of_get (h : Serving r) (hstored : pid ∈ storedPids)
    (hget : r.store.get (rootKey pid) = .ok value) {response : String}
    (hoffer : Offer pid .get handler (some ⟨"", response⟩)) (htold : readValue r pid value = told)
    (hdescribes : Describes response told) : r.Yields (rootKey pid) [] told := by
  subst htold
  have hlength : value.length ≤ maxParameterLength :=
    length_le_of_get h (.inl (builtin_of_stored hstored)) hget
  refine .of_run h hoffer (builtin_of_stored hstored) h.hasDevice_root
    (Format.describes_nothing_iff.mpr rfl) (fun request hasks => ?_) (length_readValue_le hlength)
    hdescribes
  have hsame : r.store.get (requestKey request) = .ok value := hasks.key ▸ hget
  exact Prod.ext (run_of_stored hoffer hstored hsame) (hoffer.snd_run hstored request r)

theorem readValue_of_ne (hpid : pid ≠ Pid.dmxStartAddress) : readValue r pid value = value :=
  if_neg fun hunused => hpid hunused.1

theorem yields_personality (h : Serving r) {p : Personality}
    (hget : r.store.get (rootKey Pid.dmxPersonality) = .ok p.encode) :
    r.Yields (rootKey Pid.dmxPersonality) [] p.encode :=
  .of_get h (by decide) hget .getPersonality (readValue_of_ne (by decide))
    (Format.describes_twoBytes_iff.mpr rfl)

theorem yields_label (h : Serving r) (hget : r.store.get (rootKey Pid.deviceLabel) = .ok value)
    (htext : Format.IsText value) : r.Yields (rootKey Pid.deviceLabel) [] value :=
  .of_get h (by decide) hget .getLabel (readValue_of_ne (by decide))
    (Format.describes_label_iff.mpr htext)

/-- The start address that is told is the one that the device goes by. -/
theorem yields_startAddress (h : Serving r) {address : StartAddress}
    (hget : r.store.get (rootKey Pid.dmxStartAddress) = .ok address.encode)
    (hread : StartAddress.decode? address.encode = some address) :
    r.Yields (rootKey Pid.dmxStartAddress) [] r.startAddress.encode := by
  refine .of_get h (by decide) hget .getStartAddress ?_ (Format.describes_word_iff.mpr rfl)
  have hvalue : r.rootValue? Pid.dmxStartAddress = some address.encode := by
    rw [rootValue?, hget]
    rfl
  rw [startAddress, hvalue, Option.bind_some, hread, Option.getD_some, readValue,
    apply_ite StartAddress.encode]
  exact if_congr (and_iff_right rfl) rfl rfl

/-! ## Computed values -/

theorem yields_info (h : Serving r) : r.Yields (rootKey Pid.deviceInfo) [] r.info.encode :=
  .of_run h .deviceInfo (by decide) h.hasDevice_root (Format.describes_nothing_iff.mpr rfl)
    (fun _ _ => rfl) (by rw [DeviceInfo.length_encode]; decide)
    (Format.describes_info rfl r.info.length_encode)

/-- As many characters of a text as a label takes. -/
def shortened (text : String) : Label :=
  Label.empty.fill text.toList

theorem isAscii_shortened {text : String} (h : Text.isAscii (Text.toBytes text) = true) :
    Text.isAscii (shortened text).toBytes = true := by
  refine Label.isAscii_fill text.toList rfl ?_
  rw [← Text.toBytes_ofList, String.ofList_toList]
  exact h

theorem yields_description (h : Serving r) {number : UInt8} {setting : PersonalitySetting}
    (hsetting : r.setting? number = some setting)
    (hascii : Text.isAscii (Text.toBytes setting.description) = true) :
    r.Yields (rootKey Pid.dmxPersonalityDescription) [number]
      (PersonalityDescription.encode
        ⟨number, setting.footprint, shortened setting.description⟩) := by
  have hlength : (PersonalityDescription.encode
      ⟨number, setting.footprint, shortened setting.description⟩).length ≤ maxParameterLength := by
    have hshort := (shortened setting.description).length_toBytes_le
    simp only [PersonalityDescription.encode, List.length_append, List.length_singleton,
      Bytes.length_ofWord, maxParameterLength, Label.maxLength] at hshort ⊢
    omega
  have hformat : (CommandFormat.mk "b$" "bwa$").response = "bwa$" := rfl
  have hkeeps := (keepsPromise_description_iff hformat number setting.footprint
    (shortened setting.description)).mpr (Text.isAscii_untilZero (isAscii_shortened hascii))
  refine .of_run h .personalityDescription (by decide) h.hasDevice_root
    (Format.describes_byte_iff.mpr rfl) (fun request hasks => Prod.ext ?_ rfl) hlength
    ((keepsPromise_acknowledge_iff hlength).mp hkeeps)
  have hroot : request.subDevice = SubDevice.root := congrArg Key.subDevice hasks.key
  show getPersonalityDescription request r = _
  rw [getPersonalityDescription, if_neg (not_not.mpr hroot), withFirstByte, hasks.data,
    List.head?_cons]
  dsimp only
  rw [hsetting]
  rfl

end Responder

end LightingBus
