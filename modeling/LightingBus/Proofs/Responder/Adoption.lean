import LightingBus.Proofs.Parameter.Invariant
import LightingBus.Proofs.Responder.FanOutVerdicts
import LightingBus.Proofs.Responder.Muting

/-!
# One value and the requests that replace it

`Follows.dispatch`: after a request to a parameter that a responder comes with, the value of a key
is the one of before or one that is admitted, if nothing else is written by the handler of the
request.

1. All handlers but two write no value (`get_run`).
2. A request to one device is a run of its handler (`Follows.run`).
3. A request to all sub-devices is a run on one device after the other (`Follows.applyEach`), and
   what is put back after a refusal are values of before (`Follows.putBackAll`).

`fresh_of_create` has the values that a new device begins with, and the lemmas behind it say which
bytes its definitions admit.
-/

namespace LightingBus

namespace Responder

open Store (Adopts)

variable {κ γ ω : Type} {r before : Responder κ γ} {custom : κ → Handler κ γ ω} {request : Request}
  {d : ParameterDefinition (HandlerName κ)} {key : Key} {admitted : Bytes → Prop}
  {handler : Builtin} {config : ResponderConfig}

/-! ## New devices -/

section Devices

variable {s s' : Store (HandlerName κ) γ}

theorem devices_define (h : s.define d = .ok s') : s'.devices = s.devices := by
  rcases Store.define_eq_ok (accept_eq_ok h) with rfl | ⟨-, -, rfl⟩ <;> rfl

theorem devices_of_defineAll (definitions : List (ParameterDefinition (HandlerName κ))) :
    ∀ {s : Store (HandlerName κ) γ}, definitions.foldlM Store.define s = .ok s' →
      s'.devices = s.devices := by
  induction definitions with
  | nil =>
    intro s h
    cases h
    rfl
  | cons d definitions ih =>
    intro s h
    rw [List.foldlM_cons, bind_eq_ok] at h
    obtain ⟨defined, hd, h⟩ := h
    exact (ih h).trans (devices_define hd)

theorem devices_addInstance {storageClass : StorageClass} {value : Bytes}
    (h : s.addInstance key storageClass value = .ok s') : s'.devices = s.devices := by
  obtain ⟨_, _, _, _, -, -, -, -, -, -, -, -, rfl⟩ := Store.addInstance_eq_ok (accept_eq_ok h)
  rfl

end Devices

/-- A device with the values that its configuration gives it. -/
structure Fresh (config : ResponderConfig) (r : Responder κ γ) : Prop where
  configured : r.config = config
  valid : validPersonalities config = true
  serving : Serving r
  definitions : r.store.definitions.map DefinitionSlot.definition = builtinDefinitions
  devices : r.store.devices = [SubDevice.root]
  sensors : r.sensors = []
  identify : r.store.contents (rootKey Pid.identifyDevice) = some ⟨.dynamic, [0], false⟩
  startAddress : r.store.contents (rootKey Pid.dmxStartAddress) =
    some ⟨.persisted, Bytes.ofWord config.initialStartAddress, false⟩
  personality : r.store.contents (rootKey Pid.dmxPersonality) = some ⟨.persisted,
    Personality.encode ⟨config.initialPersonality, UInt8.ofNat config.personalities.length⟩, false⟩
  label : r.store.contents (rootKey Pid.deviceLabel) =
    some ⟨.persisted, (Text.toBytes config.initialLabel).take Label.maxLength, false⟩

theorem fresh_of_create {capacities : Capacities} (h : create config capacities = .ok r) :
    Fresh config r := by
  have hserving := Serving.create h
  unfold create at h
  split_ifs at h with hvalid
  obtain ⟨s, hs, h⟩ := bind_eq_ok.mp h
  cases h
  have hdefinitions := definitions_initialStore hs
  unfold initialStore at hs
  obtain ⟨s₁, h₁, hs⟩ := bind_eq_ok.mp hs
  obtain ⟨s₂, h₂, hs⟩ := bind_eq_ok.mp hs
  obtain ⟨s₃, h₃, hs⟩ := bind_eq_ok.mp hs
  obtain ⟨s₄, h₄, hs⟩ := bind_eq_ok.mp hs
  have hs₁ := wellFormed_of_defineAll forgetful _ (Store.empty_wellFormed _ _) h₁
  obtain ⟨hs₂, hidentify⟩ := hs₁.addInstance (accept_eq_ok h₂)
  obtain ⟨hs₃, haddress⟩ := hs₂.addInstance (accept_eq_ok h₃)
  obtain ⟨hs₄, hpersonality⟩ := hs₃.addInstance (accept_eq_ok h₄)
  obtain ⟨-, hlabel⟩ := hs₄.addInstance (accept_eq_ok hs)
  refine ⟨rfl, hvalid, hserving, hdefinitions, ?_, rfl, ?_, ?_, ?_, ?_⟩
  · rw [devices_addInstance hs, devices_addInstance h₄, devices_addInstance h₃,
      devices_addInstance h₂, devices_of_defineAll _ h₁]
    rfl
  · rw [hlabel, Function.update_of_ne (by decide), hpersonality, Function.update_of_ne (by decide),
      haddress, Function.update_of_ne (by decide), hidentify, Function.update_self]
  · rw [hlabel, Function.update_of_ne (by decide), hpersonality, Function.update_of_ne (by decide),
      haddress, Function.update_self]
  · rw [hlabel, Function.update_of_ne (by decide), hpersonality, Function.update_self]
  · rw [hlabel, Function.update_self]

/-! ## Values that are admitted -/

theorem personality_of_check {value : Bytes}
    (h : (personalityDefinition : ParameterDefinition (HandlerName κ)).check value = .ok ()) :
    ∃ p : Personality, value = p.encode := by
  have hlength := (ParameterDefinition.check_eq_ok_iff.mp h).size
  rw [personalityDefinition, ValueSize.accepts, beq_iff_eq] at hlength
  obtain ⟨current, count, hvalue⟩ := List.length_eq_two.mp hlength
  exact ⟨⟨current, count⟩, hvalue⟩

/-- The bounds of start addresses are the slots of a frame. -/
theorem startAddress_of_check {value : Bytes}
    (h : (startAddressDefinition : ParameterDefinition (HandlerName κ)).check value = .ok ()) :
    ∃ number : UInt16, (1 ≤ number ∧ number ≤ 512) ∧ value = (StartAddress.slot number).encode := by
  obtain ⟨hlength, hbounds⟩ := ParameterDefinition.check_eq_ok_iff.mp h
  rw [startAddressDefinition, ValueSize.accepts, beq_iff_eq] at hlength
  obtain ⟨high, low, rfl⟩ := List.length_eq_two.mp hlength
  obtain ⟨number, hnumber, hlow, hhigh⟩ := hbounds rfl
  obtain rfl : ((Bytes.word high low).toNat : ℤ) = number := Option.some.inj hnumber
  refine ⟨Bytes.word high low, ⟨?_, ?_⟩, (Bytes.ofWord_word high low).symm⟩
  · exact UInt16.le_iff_toNat_le.mpr (Int.ofNat_le.mp hlow)
  · exact UInt16.le_iff_toNat_le.mpr (Int.ofNat_le.mp hhigh)

/-! ## What handlers write -/

theorem config_run (handler : Builtin) (request : Request) (r : Responder κ γ) :
    (handler.run request r).2.config = r.config := by
  cases hdiscovery : isDiscovery handler with
  | false => exact (aside_run hdiscovery request r).config
  | true =>
    cases handler with
    | discUniqueBranch => rfl
    | discMute | discUnMute =>
      simp only [Builtin.run, setMuted]
      split_ifs <;> rfl
    | _ => cases hdiscovery

theorem get_queuedMessage (request : Request) (r : Responder κ γ) (key : Key) :
    (queuedMessage request r).2.store.get key = r.store.get key := by
  unfold queuedMessage
  split
  · rfl
  · split_ifs
    · unfold repeatQueued
      split <;> rfl
    · unfold popQueued
      split
      · dsimp only
        split <;> rfl
      · rfl
    · rfl

/-- Two handlers write values; the others write none. -/
theorem get_run (hset : handler ≠ .simpleSet) (hchoose : handler ≠ .setPersonality)
    (request : Request) (r : Responder κ γ) (key : Key) :
    (handler.run request r).2.store.get key = r.store.get key := by
  cases handler with
  | simpleSet => exact absurd rfl hset
  | setPersonality => exact absurd rfl hchoose
  | queuedMessage => exact get_queuedMessage request r key
  | discMute | discUnMute =>
    simp only [Builtin.run, setMuted]
    split_ifs <;> rfl
  | statusMessages =>
    simp only [Builtin.run, statusMessages]
    split
    · rfl
    · split_ifs <;> rfl
  | resetSensor | recordSensors =>
    simp only [Builtin.run, resetSensor, recordSensors]
    split
    · rfl
    · split_ifs
      · rfl
      · split <;> rfl
  | _ => rfl

/-- The handler of a request writes no other values for a key than those that are admitted. -/
structure WritesAdmitted (before : Responder κ γ) (key : Key) (admitted : Bytes → Prop)
    (request : Request) (handler : Builtin) : Prop where
  stored : handler = .simpleSet → request.pid = key.pid → admitted request.data.bytes
  chosen : handler = .setPersonality → rootKey Pid.dmxPersonality = key →
    ∀ number setting, before.setting? number = some setting →
      admitted (Personality.encode ⟨number, before.personalityCount⟩)

/-! ## One device -/

/-- The device has the configuration and the parameters of before, and the value of the key is the
same or one that is admitted. -/
structure Follows (key : Key) (admitted : Bytes → Prop) (before r : Responder κ γ) : Prop where
  config : r.config = before.config
  store : Adopts key admitted before.store r.store

namespace Follows

theorem refl (h : r.store.WellFormed) : Follows key admitted r r :=
  ⟨rfl, .refl h⟩

theorem setting?_eq (h : Follows key admitted before r) : r.setting? = before.setting? := by
  funext number
  rw [setting?, setting?, h.config]

theorem storeValue (h : Follows key admitted before r) {other : Key} {value : Bytes}
    (hvalue : other = key → admitted value) :
    Follows key admitted before (storeValue other value r).2 := by
  rw [storeValue_snd]
  exact ⟨h.config, h.store.setAndQueue hvalue⟩

theorem run (h : Follows key admitted before r)
    (hwrites : WritesAdmitted before key admitted request handler) :
    Follows key admitted before (handler.run request r).2 := by
  by_cases hset : handler = .simpleSet
  · subst hset
    exact h.storeValue fun hkey => hwrites.stored rfl (congrArg Key.pid hkey)
  by_cases hchoose : handler = .setPersonality
  · subst hchoose
    simp only [Builtin.run, setPersonality]
    split_ifs
    · exact h
    · split
      next => exact h
      next number _ =>
        split
        next => exact h
        next setting hsetting =>
          rw [h.setting?_eq] at hsetting
          have hcount : r.personalityCount = before.personalityCount := by
            rw [personalityCount, personalityCount, h.config]
          rw [hcount]
          exact h.storeValue fun hkey => hwrites.chosen rfl hkey number setting hsetting
  · have hretains := (used_run handler request r).retains h.store.retains.wellFormed
    exact ⟨(config_run handler request r).trans h.config,
      h.store.of_get (h.store.retains.trans hretains) (get_run hset hchoose request r key)⟩

/-! ## All sub-devices -/

/-- A value that is put back is the one of before. -/
theorem putBack (h : Follows key admitted before r) (hbefore : before.store.WellFormed)
    {p : UInt16 × Option ParameterData} (hp : Captured request.pid before.store p) :
    Follows key admitted before { r with store := putBack request.pid r.store p } := by
  refine ⟨h.config, retains_putBack h.store.retains request.pid p, ?_⟩
  by_cases hkey : key = ⟨p.1, request.pid⟩
  · exact .inl (get_putBack hbefore h.store.retains hp (.inr hkey))
  · have hadopts : Adopts key admitted before.store
        (Responder.putBack request.pid r.store p) := by
      unfold Responder.putBack
      split
      · exact h.store
      · exact h.store.set fun heq => absurd heq.symm hkey
    exact hadopts.value

theorem putBackAll (hbefore : before.store.WellFormed)
    (applied : List (UInt16 × Option ParameterData)) :
    ∀ {r : Responder κ γ}, Follows key admitted before r →
      (∀ p ∈ applied, Captured request.pid before.store p) →
        Follows key admitted before
          { r with store := applied.foldl (Responder.putBack request.pid) r.store } := by
  induction applied with
  | nil => exact fun h _ => h
  | cons p applied ih =>
    intro r h hcaptured
    have hput := h.putBack hbefore (hcaptured p List.mem_cons_self)
    exact ih hput fun p' hp' => hcaptured p' (List.mem_cons_of_mem _ hp')

theorem applyEach (hbefore : before.store.WellFormed) {handler : Handler κ γ ω}
    (hhandler : ∀ subDevice (r : Responder κ γ) w, Follows key admitted before r →
      Follows key admitted before (handler { request with subDevice := subDevice } r w).2.1)
    (devices : List (UInt16 × Option ParameterData)) :
    ∀ (applied : List (UInt16 × Option ParameterData)) (r : Responder κ γ) (w : ω),
      Follows key admitted before r → (∀ p ∈ devices, Captured request.pid before.store p) →
      (∀ p ∈ applied, Captured request.pid before.store p) →
        Follows key admitted before
          (Responder.applyEach handler request devices applied r w).2.1 := by
  induction devices with
  | nil => exact fun _ _ _ h _ _ => h
  | cons p devices ih =>
    intro applied r w h hdevices happlied
    have hstep := hhandler p.1 r w h
    rw [Responder.applyEach]
    generalize handler { request with subDevice := p.1 } r w = outcome at hstep ⊢
    obtain ⟨_ | _ | _, r', w'⟩ := outcome
    · exact ih _ r' w' hstep (fun p' hp' => hdevices p' (List.mem_cons_of_mem _ hp'))
        (List.forall_mem_cons.mpr ⟨hdevices p List.mem_cons_self, happlied⟩)
    · exact putBackAll hbefore applied hstep happlied
    · exact hstep

/-! ## Requests -/

/-- A request to a parameter that a responder comes with. What its handler writes has to be admitted
only if the parameter data has the format of the request. -/
theorem dispatch (hstore : r.store.WellFormed) (hd : d ∈ standardDefinitions)
    (hpid : d.pid = request.pid)
    (hwrites : ∀ {handler format?}, Offer request.pid request.commandClass handler format? →
      (∀ format, format? = some format → Format.Describes format.request request.data.bytes) →
        WritesAdmitted r key admitted request handler)
    (custom : κ → Handler κ γ ω) (w : ω) :
    Follows key admitted r (dispatch custom d request r w).2.1 := by
  unfold Responder.dispatch
  cases hname : d.handlers.forCommand? request.commandClass with
  | none => exact .refl hstore
  | some name =>
    obtain ⟨handler, rfl, hoffer⟩ := offer_of_standard hd hname
    rw [hpid] at hoffer
    dsimp only
    cases hformat : d.format? request.commandClass with
    | none =>
      rw [hformat] at hoffer
      exact (Follows.refl hstore).run (hwrites hoffer nofun)
    | some format =>
      rw [hformat] at hoffer
      dsimp only
      cases hrefusal : refusal? format request.data.bytes with
      | some reason => exact .refl hstore
      | none =>
        have hwrites := hwrites hoffer fun _ heq =>
          Option.some.inj heq ▸ refusal?_eq_none_iff.mp hrefusal
        have heach (subDevice : UInt16) (r' : Responder κ γ) (w : ω)
            (h : Follows key admitted r r') : Follows key admitted r
              (interpret custom (.builtin handler) { request with subDevice := subDevice } r'
                w).2.1 := by
          have hsame : WritesAdmitted r key admitted { request with subDevice := subDevice }
            handler := ⟨hwrites.stored, hwrites.chosen⟩
          exact h.run hsame
        dsimp only
        split_ifs
        · unfold applyToAll
          split_ifs
          · exact .refl hstore
          · split
            next => exact .refl hstore
            next captured hprevious =>
              obtain ⟨-, hcaptured⟩ := captured_of_previousValues? _ hprevious
              exact applyEach hstore heach captured [] r w (.refl hstore) hcaptured nofun
        · unfold applyToOne
          split_ifs
          · exact (Follows.refl hstore).run hwrites
          · exact .refl hstore

end Follows

end Responder

end LightingBus
