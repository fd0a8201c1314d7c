import LightingBus.Proofs.Payload.RoundTrip
import LightingBus.Proofs.Responder.Adoption
import LightingBus.Proofs.Responder.Answers

/-!
# The summary and its parts

`info_agrees`: in every state that a device reaches, what a controller reads out of the summary of
the device is what it reads out of the parameters that the summary is made of.

1. A value that every new device has is there for good (`Running.holds`), so there always is a
   personality and a start address, and the definitions say which bytes they are.
2. Sub-devices and sensors are counted while the device is put together (`Assembled`). Requests
   neither add nor remove any (`sameParts_handle`), so the lists of the device have the lengths that
   were counted (`Outfitted`), and these are small enough for the words of the summary.
3. The summary is written and read back as it is (`DeviceInfo.readsBack`), and so are its parts.
-/

namespace LightingBus

namespace Store

variable {η γ σ : Type} {s s' : Store η γ} {key : Key} {value : Bytes}

/-- No operation takes a value away. -/
theorem isSome_contents_run (kv : KeyValueStorage σ) (op : Operation η γ σ) (hs : s.WellFormed)
    (h : (s.contents key).isSome = true) : ((op.run kv s).2.contents key).isSome = true := by
  obtain ⟨-, hlawful, hcontents⟩ := step_refines kv op hs
  have hvalue := congrArg Option.isSome (hlawful.value key)
  rw [← hcontents, Option.isSome_map, Option.isSome_or, Option.isSome_map, h, Bool.or_true]
    at hvalue
  exact hvalue

theorem devices_set (key : Key) (value : Bytes) (s : Store η γ) :
    (Change.set key value s).2.devices = s.devices := by
  rcases hset : Change.set key value s with ⟨e | ⟨⟩, s'⟩
  · rw [set_atomic _ _ _ _ _ hset]
  · obtain ⟨_, _, _, _, _, _, -, -, -, -, -, rfl⟩ := written_of_set hset
    rfl

/-- Handlers do not add devices. -/
theorem Used.devices (h : s.Used s') : s'.devices = s.devices := by
  induction h with
  | refl => rfl
  | set key value _ ih => exact (devices_set key value _).trans ih
  | @queueChanged key s' _ ih =>
    obtain ⟨waiting, hqueued⟩ := queueChanged_eq s' key
    rw [hqueued]
    exact ih
  | popChanged _ hpop ih =>
    obtain ⟨rest, -, rfl⟩ := popChanged_eq_some hpop
    exact ih

end Store

namespace Responder

variable {κ γ ω ε σ : Type} {r r' : Responder κ γ} {key : Key} {added : Finset UInt16}
  {registered : ℕ}

/-! ## Values that stay -/

/-- A device that has a value for the key. -/
structure Holds (key : Key) (r : Responder κ γ) : Prop where
  serving : Serving r
  present : (r.store.contents key).isSome = true

theorem stable_holds (kv : KeyValueStorage σ) (key : Key) :
    Stable kv (Holds key : Responder κ γ → Prop) where
  operate op _ h :=
    ⟨h.serving.operate kv op, Store.isSome_contents_run kv op h.serving.builtins.1 h.present⟩
  of_store_eq h hstore := ⟨h.serving.of_store_eq hstore, hstore ▸ h.present⟩

theorem Holds.altered (h : Holds key r) (haltered : r.Altered r') : Holds key r' := by
  refine ⟨h.serving.altered haltered, ?_⟩
  obtain ⟨s, notices, hleads, hstore⟩ := haltered.store
  have hholds : Holds key { r with store := s } := by
    clear hstore
    induction hleads with
    | refl => exact h
    | step kv op _ ih => exact (stable_holds kv key).operate op ih
  rw [hstore]
  exact hholds.present

/-- A value that every new device has is there for good. -/
theorem Running.holds (hfresh : ∀ {config : ResponderConfig} {r : Responder κ γ}, Fresh config r →
    (r.store.contents key).isSome = true) (h : Running r) : Holds key r := by
  induction h with
  | create hcreate =>
    have hnew := fresh_of_create hcreate
    exact ⟨hnew.serving, hfresh hnew⟩
  | alter _ haltered ih => exact ih.altered haltered
  | request request w hcustom hfallback _ ih =>
    exact (stable_holds forgetful key).handle
      (fun name request r w h => h.altered (hcustom name request r w))
      (fun request r w h => h.altered (hfallback request r w)) request _ w ih

theorem Running.exists_personality (h : Running r) :
    ∃ p : Personality, r.store.get (rootKey Pid.dmxPersonality) = .ok p.encode := by
  have hholds : Holds (rootKey Pid.dmxPersonality) r :=
    h.holds fun hnew => Option.isSome_of_eq_some hnew.personality
  obtain ⟨entry, hentry⟩ := Option.isSome_iff_exists.mp hholds.present
  have hget := Store.get_of_contents hentry
  have hd : r.store.definition? Pid.dmxPersonality = some personalityDefinition :=
    h.serving.definition? (d := personalityDefinition) (by simp [builtinDefinitions])
  obtain ⟨p, hp⟩ := personality_of_check (h.serving.builtins.1.check_of_get hd hget)
  exact ⟨p, hp ▸ hget⟩

theorem Running.exists_startAddress (h : Running r) :
    ∃ address : StartAddress, address.InRange ∧ address ≠ .unused ∧
      r.store.get (rootKey Pid.dmxStartAddress) = .ok address.encode := by
  have hholds : Holds (rootKey Pid.dmxStartAddress) r :=
    h.holds fun hnew => Option.isSome_of_eq_some hnew.startAddress
  obtain ⟨entry, hentry⟩ := Option.isSome_iff_exists.mp hholds.present
  have hget := Store.get_of_contents hentry
  have hd : r.store.definition? Pid.dmxStartAddress = some startAddressDefinition :=
    h.serving.definition? (d := startAddressDefinition) (by simp [builtinDefinitions])
  obtain ⟨number, hrange, hvalue⟩ :=
    startAddress_of_check (h.serving.builtins.1.check_of_get hd hget)
  exact ⟨.slot number, hrange, by rintro ⟨⟩, hvalue ▸ hget⟩

/-! ## Sub-devices and sensors -/

/-- Neither sub-devices nor sensors have come or gone. -/
structure SameParts (r r' : Responder κ γ) : Prop where
  devices : r'.store.devices = r.store.devices
  sensors : r'.sensors.length = r.sensors.length

theorem SameParts.refl (r : Responder κ γ) : SameParts r r :=
  ⟨rfl, rfl⟩

theorem SameParts.trans {r'' : Responder κ γ} (h : SameParts r r') (h' : SameParts r' r'') :
    SameParts r r'' :=
  ⟨h'.devices.trans h.devices, h'.sensors.trans h.sensors⟩

theorem length_sensors_queuedMessage (request : Request) (r : Responder κ γ) :
    (queuedMessage request r).2.sensors.length = r.sensors.length := by
  unfold queuedMessage
  split
  · rfl
  · split_ifs
    · unfold repeatQueued
      split <;> rfl
    · unfold popQueued
      split
      · dsimp only
        split <;> rfl
      · rfl
    · rfl

/-- Sensors are reset and recorded where they are. -/
theorem sameParts_run (handler : Builtin) (request : Request) (r : Responder κ γ) :
    SameParts r (handler.run request r).2 := by
  refine ⟨(used_run handler request r).devices, ?_⟩
  cases handler with
  | simpleSet =>
    show (storeValue _ _ r).2.sensors.length = _
    rw [storeValue_snd]
  | setPersonality =>
    simp only [Builtin.run, setPersonality]
    split_ifs
    · rfl
    · split
      · rfl
      · split
        · rfl
        · rw [storeValue_snd]
  | discMute | discUnMute =>
    simp only [Builtin.run, setMuted]
    split_ifs <;> rfl
  | queuedMessage => exact length_sensors_queuedMessage request r
  | statusMessages =>
    simp only [Builtin.run, statusMessages]
    split
    · rfl
    · split_ifs <;> rfl
  | resetSensor | recordSensors =>
    simp only [Builtin.run, resetSensor, recordSensors]
    split
    · rfl
    · split_ifs
      · exact List.length_map _
      · split
        · rfl
        · exact List.length_set
  | _ => rfl

/-- A handler that is confined to what the program could do, and adds no sub-devices or sensors. -/
structure Unobtrusive (handler : Handler κ γ ω) : Prop where
  confined : Confined handler
  parts : ∀ request r w, SameParts r (handler request r w).2.1

/-- A fallback that is confined in the same way. -/
structure UnobtrusiveFallback (fallback : Fallback κ γ ω ε) : Prop where
  confined : ConfinedFallback fallback
  parts : ∀ request r w, SameParts r (fallback request r w).2.1

theorem unobtrusiveFallback_noFallback :
    UnobtrusiveFallback (noFallback : Fallback κ γ ω ε) where
  confined := confinedFallback_noFallback
  parts _ r _ := .refl r

theorem sameParts_handle {custom : κ → Handler κ γ ω} {fallback : Fallback κ γ ω ε}
    (hcustom : ∀ name, Unobtrusive (custom name)) (hfallback : UnobtrusiveFallback fallback)
    (request : Request) (r : Responder κ γ) (w : ω) :
    SameParts r (handle custom fallback request r w).2.1 := by
  refine keeps_handle (P := SameParts r) (fun key value _ h => ?_)
    (keeps_interpret (fun handler request _ h => h.trans (sameParts_run handler request _))
      fun name request _ w h => h.trans ((hcustom name).parts request _ w))
    (fun request _ w h => h.trans (hfallback.parts request _ w)) request r w (.refl r)
  exact ⟨(Store.devices_set key value _).trans h.devices, h.sensors⟩

/-- A device in service, with the sub-devices that were added to it and the number of the sensors
that were registered. -/
inductive Assembled : Finset UInt16 → ℕ → Responder κ γ → Prop where
  | create {config : ResponderConfig} {capacities : Capacities} {r : Responder κ γ} :
    create config capacities = .ok r → Assembled ∅ 0 r
  | addSubDevice {added : Finset UInt16} {registered : ℕ} (n : UInt16)
      {s : Store (HandlerName κ) γ} {r : Responder κ γ} : Assembled added registered r →
    r.store.addSubDevice n = .ok s → Assembled (insert n added) registered { r with store := s }
  | registerSensors {added : Finset UInt16} {registered : ℕ} (count : UInt8)
      {r r' : Responder κ γ} : Assembled added registered r →
    r.registerSensors count = (.ok (), r') → Assembled added count.toNat r'
  | alter {added : Finset UInt16} {registered : ℕ} {r r' : Responder κ γ} :
    Assembled added registered r → r.Altered r' → SameParts r r' → Assembled added registered r'
  | request {added : Finset UInt16} {registered : ℕ} {ω ε : Type} {custom : κ → Handler κ γ ω}
      {fallback : Fallback κ γ ω ε} (request : Request) (w : ω) {r : Responder κ γ} :
    (∀ name, Unobtrusive (custom name)) → UnobtrusiveFallback fallback →
    Assembled added registered r →
      Assembled added registered (handle custom fallback request r w).2.1

theorem Assembled.running (h : Assembled added registered r) : Running r := by
  induction h with
  | create hcreate => exact .create hcreate
  | addSubDevice n _ hadd ih =>
    exact ih.alter (.of_leads (leads_of_accept forgetful (.addSubDevice n) .refl hadd))
  | @registerSensors _ _ count r _ _ hregister ih =>
    have haltered := altered_registerSensors forgetful r count
    rw [hregister] at haltered
    exact ih.alter haltered
  | alter _ haltered _ ih => exact ih.alter haltered
  | request request w hcustom hfallback _ ih =>
    exact ih.request request w (fun name => (hcustom name).confined) hfallback.confined

/-- The sub-devices of a device are these, and it has so many sensors. -/
structure Outfitted (added : Finset UInt16) (registered : ℕ) (r : Responder κ γ) : Prop where
  devices : ∃ subDevices, r.store.devices = SubDevice.root :: subDevices ∧
    subDevices.toFinset = added
  sensors : r.sensors.length = registered
  registered_le : registered ≤ maxSensors

theorem Outfitted.sameParts (h : Outfitted added registered r) (hsame : SameParts r r') :
    Outfitted added registered r' where
  devices := by
    rw [hsame.devices]
    exact h.devices
  sensors := hsame.sensors.trans h.sensors
  registered_le := h.registered_le

theorem Outfitted.addSubDevice (h : Outfitted added registered r) {n : UInt16}
    {s : Store (HandlerName κ) γ} (hadd : r.store.addSubDevice n = .ok s) :
    Outfitted (insert n added) registered { r with store := s } := by
  obtain ⟨subDevices, hdevices, rfl⟩ := h.devices
  refine ⟨?_, h.sensors, h.registered_le⟩
  have hchange := accept_eq_ok hadd
  unfold Store.Change.addSubDevice at hchange
  split_ifs at hchange with hrange hdevice hfull
  · cases hchange
  · -- the sub-device was there already
    cases hchange
    have hroot : n ≠ SubDevice.root := by
      rintro rfl
      exact hrange (.inl (by decide))
    rw [Store.hasDevice, hdevices, List.contains_cons, Bool.or_eq_true, beq_iff_eq,
      or_iff_right hroot, List.contains_iff_mem] at hdevice
    exact ⟨subDevices, hdevices, (Finset.insert_eq_of_mem (List.mem_toFinset.mpr hdevice)).symm⟩
  · cases hchange
  · cases hchange
    refine ⟨subDevices ++ [n], by rw [hdevices, List.cons_append], ?_⟩
    rw [List.toFinset_append, Finset.union_comm]
    rfl

theorem Outfitted.registerSensors (h : Outfitted added registered r) {count : UInt8}
    (hregister : r.registerSensors count = (.ok (), r')) : Outfitted added count.toNat r' := by
  unfold Responder.registerSensors at hregister
  split_ifs at hregister with hcount
  · cases hregister
  · split at hregister
    next => cases hregister
    next values hvalues =>
      dsimp only at hregister
      split at hregister
      next => cases hregister
      next records hrecords =>
        cases hregister
        have hdevices : records.devices = r.store.devices :=
          (devices_define hrecords).trans (devices_define hvalues)
        refine ⟨?_, by simp, Nat.not_lt.mp hcount⟩
        rw [hdevices]
        exact h.devices

theorem Assembled.outfitted (h : Assembled added registered r) :
    Outfitted added registered r := by
  induction h with
  | create hcreate =>
    have hnew := fresh_of_create hcreate
    exact ⟨⟨[], hnew.devices, rfl⟩, by rw [hnew.sensors]; rfl, Nat.zero_le _⟩
  | addSubDevice n _ hadd ih => exact ih.addSubDevice hadd
  | registerSensors count _ hregister ih => exact ih.registerSensors hregister
  | alter _ _ hsame ih => exact ih.sameParts hsame
  | request request w hcustom hfallback _ ih =>
    exact ih.sameParts (sameParts_handle hcustom hfallback request _ w)

/-- Sub-devices are numbered 1 to 512, so that their number is a word. -/
theorem Outfitted.toNat_subDeviceCount (h : Outfitted added registered r) (hserving : Serving r) :
    r.store.subDeviceCount.toNat = added.card := by
  obtain ⟨subDevices, hdevices, rfl⟩ := h.devices
  obtain ⟨same, hsame, hnodup, hrange⟩ := hserving.builtins.1.devices
  obtain rfl : subDevices = same := List.tail_eq_of_cons_eq (hdevices ▸ hsame)
  have hsubset : subDevices.map UInt16.toNat ⊆ List.range' 1 512 := by
    intro n hn
    obtain ⟨device, hdevice, rfl⟩ := List.mem_map.mp hn
    obtain ⟨hlow, hhigh⟩ := hrange device hdevice
    rw [UInt16.le_iff_toNat_le] at hlow hhigh
    exact List.mem_range'_1.mpr ⟨hlow, Nat.lt_succ_of_le hhigh⟩
  have hlength : subDevices.length ≤ 512 := by
    have hperm := (hnodup.map (fun _ _ => UInt16.toNat_inj.mp)).subperm hsubset
    simpa using hperm.length_le
  rw [Store.subDeviceCount, Store.subDevices, hdevices, List.tail_cons,
    List.toFinset_card_of_nodup hnodup, UInt16.toNat_ofNat']
  omega

theorem Outfitted.toNat_sensorCount (h : Outfitted added registered r) :
    (UInt8.ofNat r.sensors.length).toNat = registered := by
  have hle := h.registered_le
  unfold maxSensors at hle
  rw [h.sensors, UInt8.toNat_ofNat']
  omega

/-! ## The summary -/

/-- Whoever asks the device for one of its own parameters reads this value. -/
def Reads {α : Type} (r : Responder κ γ) (pid : UInt16) (data : Bytes)
    (decode? : Bytes → Option α) (value : α) : Prop :=
  ∃ told, r.Yields (rootKey pid) data told ∧ decode? told = some value

/-- The personality that the device goes by is the one that is stored. -/
theorem reads_personality (h : Running r) :
    r.Reads Pid.dmxPersonality [] Personality.decode? r.personality := by
  obtain ⟨p, hget⟩ := h.exists_personality
  have hpersonality : r.personality = p := by
    rw [personality, rootValue?, hget]
    rfl
  rw [hpersonality]
  exact ⟨_, yields_personality h.serving hget, Personality.canonical.decode p trivial⟩

theorem inRange_startAddress (h : Running r) :
    r.startAddress.InRange ∧ (r.startAddress = .unused ↔ r.footprint = 0) := by
  obtain ⟨address, hrange, hused, hget⟩ := h.exists_startAddress
  have hread := StartAddress.canonical.decode address hrange
  have hvalue : r.startAddress = if r.footprint = 0 then .unused else address := by
    have hstored : r.rootValue? Pid.dmxStartAddress = some address.encode := by
      rw [rootValue?, hget]
      rfl
    rw [startAddress, hstored, Option.bind_some, hread, Option.getD_some]
  rw [hvalue]
  split_ifs with hfootprint
  · exact ⟨trivial, iff_of_true rfl hfootprint⟩
  · exact ⟨hrange, iff_of_false hused hfootprint⟩

theorem reads_startAddress (h : Running r) :
    r.Reads Pid.dmxStartAddress [] StartAddress.decode? r.startAddress := by
  obtain ⟨address, hrange, -, hget⟩ := h.exists_startAddress
  have hread := StartAddress.canonical.decode address hrange
  exact ⟨_, yields_startAddress h.serving hget hread,
    StartAddress.canonical.decode _ (inRange_startAddress h).1⟩

theorem reads_info (h : Running r) : r.Reads Pid.deviceInfo [] DeviceInfo.decode? r.info :=
  ⟨_, yields_info h.serving, DeviceInfo.readsBack.decode r.info (inRange_startAddress h).1⟩

/-- A description is read with the number and the footprint of its personality, whatever is left of
its text. -/
theorem reads_description (h : Running r) {number : UInt8} {setting : PersonalitySetting}
    (hsetting : r.setting? number = some setting)
    (hascii : Text.isAscii (Text.toBytes setting.description) = true) :
    ∃ label, r.Reads Pid.dmxPersonalityDescription [number] PersonalityDescription.decode?
      ⟨number, setting.footprint, label⟩ := by
  have hshort := Text.isAscii_untilZero (isAscii_shortened hascii)
  obtain ⟨label, hlabel, -⟩ := Label.exists_decode?
    ((Format.isText_iff_of_length_le (Label.length_toBytes_le _)).mpr hshort)
  refine ⟨label, _, yields_description h.serving hsetting hascii, ?_⟩
  simp [PersonalityDescription.encode, PersonalityDescription.decode?, Bytes.ofWord, hlabel]

/-- **The summary agrees with its parts.** In every state of a device in service, a controller reads
a summary whose personality and start address are those it reads from their own parameters. The
start address is missing exactly if the footprint is zero. Sub-devices and sensors are as many as
were added and registered. If the chosen personality is configured with an ascii description, the
description is read with the footprint of the summary. -/
theorem info_agrees (h : Assembled added registered r) : ∃ info : DeviceInfo,
    r.Reads Pid.deviceInfo [] DeviceInfo.decode? info ∧
      r.Reads Pid.dmxPersonality [] Personality.decode? info.personality ∧
      r.Reads Pid.dmxStartAddress [] StartAddress.decode? info.startAddress ∧
      (info.startAddress = .unused ↔ info.footprint = 0) ∧
      info.subDeviceCount.toNat = added.card ∧ info.sensorCount.toNat = registered ∧
      ∀ setting, r.setting? info.personality.current = some setting →
        Text.isAscii (Text.toBytes setting.description) = true →
          ∃ label, r.Reads Pid.dmxPersonalityDescription [info.personality.current]
            PersonalityDescription.decode? ⟨info.personality.current, info.footprint, label⟩ := by
  have hrunning := h.running
  refine ⟨r.info, reads_info hrunning, reads_personality hrunning, reads_startAddress hrunning,
    (inRange_startAddress hrunning).2, h.outfitted.toNat_subDeviceCount hrunning.serving,
    h.outfitted.toNat_sensorCount, fun setting hsetting hascii => ?_⟩
  have hfootprint : r.info.footprint = setting.footprint := by
    show ((r.setting? r.personality.current).map PersonalitySetting.footprint).getD 0 = _
    rw [show r.setting? r.personality.current = some setting from hsetting]
    rfl
  rw [hfootprint]
  exact reads_description hrunning hsetting hascii

/-! ## A device with sub-devices and sensors -/

/-- The example device with two sub-devices and three sensors, after a request. -/
def sensorDevice : Responder Empty Empty :=
  (handle Empty.elim (noFallback : Fallback Empty Empty Unit Empty) exampleSetAll
    ((exampleDevice [.addSubDevice 1, .addSubDevice 2]).registerSensors 3).2 ()).2.1

theorem accept_of_fst {s : Store (HandlerName κ) γ} {change : Store.Change (HandlerName κ) γ}
    (h : (change s).1 = .ok ()) : s.accept change = .ok (change s).2 := by
  have hchange : change s = (.ok (), (change s).2) := Prod.ext h rfl
  rw [Store.accept, hchange]

theorem sensorDevice_assembled : Assembled {2, 1} 3 sensorDevice := by
  have hnew : Assembled ∅ 0 (exampleDevice []) := .create (eq_ok_get exists_exampleDevice)
  have hone : Assembled {1} 0 (exampleDevice [.addSubDevice 1]) :=
    hnew.addSubDevice 1 (accept_of_fst (by decide +kernel))
  have htwo : Assembled {2, 1} 0 (exampleDevice [.addSubDevice 1, .addSubDevice 2]) :=
    hone.addSubDevice 2 (accept_of_fst (by decide +kernel))
  have hsensors : Assembled {2, 1} 3
      ((exampleDevice [.addSubDevice 1, .addSubDevice 2]).registerSensors 3).2 :=
    htwo.registerSensors 3 (Prod.ext (by decide +kernel) rfl)
  exact hsensors.request exampleSetAll () (fun name => name.elim) unobtrusiveFallback_noFallback

theorem info_agrees_sensorDevice :
    Assembled {2, 1} 3 sensorDevice ∧ ∃ info : DeviceInfo,
      sensorDevice.Reads Pid.deviceInfo [] DeviceInfo.decode? info ∧
      sensorDevice.Reads Pid.dmxPersonality [] Personality.decode? info.personality ∧
      sensorDevice.Reads Pid.dmxStartAddress [] StartAddress.decode? info.startAddress ∧
      (info.startAddress = .unused ↔ info.footprint = 0) ∧
      info.subDeviceCount.toNat = 2 ∧ info.sensorCount.toNat = 3 ∧
      ∀ setting, sensorDevice.setting? info.personality.current = some setting →
        Text.isAscii (Text.toBytes setting.description) = true →
          ∃ label, sensorDevice.Reads Pid.dmxPersonalityDescription [info.personality.current]
            PersonalityDescription.decode? ⟨info.personality.current, info.footprint, label⟩ :=
  ⟨sensorDevice_assembled, info_agrees sensorDevice_assembled⟩

end Responder

end LightingBus
