import LightingBus.Proofs.Parameter.Invariant
import LightingBus.Proofs.Responder.Adoption
import LightingBus.Proofs.Responder.Mirrors

/-!
# Chosen personalities

`personality_of_run`: whatever a device is asked and whatever its program does, the stored
personality is one that is configured, next to the number of personalities; unless loading failed
after it had taken over a value that does not fit, which then stays.

1. A request to a parameter that a device comes with keeps the personality or leaves one that is
   configured, also if it is put back on the way (`Attuned`, `Equipped.handle`).
2. Repairing never fails (`Equipped.repair`), so loading fails before it or leaves a personality
   that is configured (`Equipped.load`).
3. Sensors, status messages and sub-devices have nothing to do with the personality (`Unconcerned`).
4. `Equipped.act` is one act, `Equipped.runService` a run of them.
-/

namespace LightingBus

namespace Responder

open Store (Adopts)

variable {κ γ σ ω ε : Type} {kv : KeyValueStorage σ} {r r' before : Responder κ γ}
  {custom : κ → Handler κ γ ω} {fallback : Fallback κ γ ω ε} {request : Request}
  {config : ResponderConfig} {d : ParameterDefinition (HandlerName κ)}

/-- The key of the chosen personality. -/
abbrev personalityKey : Key :=
  rootKey Pid.dmxPersonality

/-- The value of a personality that is configured, next to the number of personalities. -/
def IsChoice (config : ResponderConfig) (value : Bytes) : Prop :=
  ∃ number : UInt8, 1 ≤ number.toNat ∧ number.toNat ≤ config.personalities.length ∧
    value = Personality.encode ⟨number, UInt8.ofNat config.personalities.length⟩

/-- A personality that has a setting can be chosen. -/
theorem isChoice_of_setting? {number : UInt8} {setting : PersonalitySetting}
    (h : r.setting? number = some setting) :
    IsChoice r.config (Personality.encode ⟨number, r.personalityCount⟩) := by
  unfold setting? at h
  split_ifs at h with hzero
  obtain ⟨hlt, -⟩ := List.getElem?_eq_some_iff.mp h
  have hpositive : number.toNat ≠ 0 := fun heq => hzero (UInt8.toNat_inj.mp heq)
  exact ⟨number, by omega, by omega, rfl⟩

theorem isChoice_initial (h : validPersonalities config = true) : IsChoice config
    (Personality.encode
      ⟨config.initialPersonality, UInt8.ofNat config.personalities.length⟩) := by
  simp only [validPersonalities, Bool.and_eq_true, decide_eq_true_eq] at h
  exact ⟨config.initialPersonality, h.1.2, h.2, rfl⟩

/-! ## Requests -/

/-- The device has the configuration and the parameters of before, and the same personality or one
that is configured. -/
structure Attuned (before r : Responder κ γ) : Prop where
  config : r.config = before.config
  store : Adopts personalityKey (IsChoice before.config) before.store r.store

theorem Attuned.refl (h : r.store.WellFormed) : Attuned r r :=
  ⟨rfl, .refl h⟩

/-- Values are stored as they are by handlers of other parameters only. -/
theorem Offer.pid_of_simpleSet {pid : UInt16} {c : CommandClass} {format : Option CommandFormat}
    (hoffer : Offer pid c .simpleSet format) : pid ≠ Pid.dmxPersonality := by
  cases hoffer with
  | setIdentify | setStartAddress | setLabel => decide

/-- A request to a parameter that a responder comes with. One handler writes a personality that is
configured, and the others that write are not the handlers of personalities. -/
theorem Attuned.dispatch (hstore : r.store.WellFormed) (hd : d ∈ standardDefinitions)
    (hpid : d.pid = request.pid) (custom : κ → Handler κ γ ω) (w : ω) :
    Attuned r (dispatch custom d request r w).2.1 := by
  have hfollows : Follows personalityKey (IsChoice r.config) r
      (Responder.dispatch custom d request r w).2.1 := by
    refine .dispatch hstore hd hpid (fun hoffer _ => ⟨?_, ?_⟩) custom w
    · rintro rfl hkey
      exact absurd hkey hoffer.pid_of_simpleSet
    · exact fun _ _ number setting hsetting => isChoice_of_setting? hsetting
  exact ⟨hfollows.config, hfollows.store⟩

/-! ## Devices with a personality -/

/-- A device with its built-in parameters, one of which is a personality that is persisted. -/
structure Equipped (r : Responder κ γ) : Prop where
  valid : validPersonalities r.config = true
  wellFormed : r.store.WellFormed
  definition : ∀ d ∈ builtinDefinitions, r.store.definition? d.pid = some d
  persisted : (r.store.contents personalityKey).map Entry.storageClass = some .persisted

theorem Equipped.of_same (h : Equipped r) (hconfig : r'.config = r.config)
    (hkept : r'.store.WellFormed) (hdefinitions : r'.store.definitions = r.store.definitions)
    (hclass : (r'.store.contents personalityKey).map Entry.storageClass =
      (r.store.contents personalityKey).map Entry.storageClass) : Equipped r' where
  valid := hconfig ▸ h.valid
  wellFormed := hkept
  definition := Store.definition?_congr hdefinitions ▸ h.definition
  persisted := hclass.trans h.persisted

theorem Equipped.attuned (h : Equipped r) (hattuned : Attuned r r') : Equipped r' :=
  h.of_same hattuned.config hattuned.store.retains.wellFormed hattuned.store.retains.definitions
    (hattuned.store.retains.classes personalityKey)

/-- The parameter is one that devices come with, and this device has not defined it otherwise. -/
def Provides (r : Responder κ γ) (pid : UInt16) : Prop :=
  ∃ d ∈ standardDefinitions, r.store.definition? pid = some d

theorem Equipped.provides (h : Equipped r) {pid : UInt16} (hpid : pid ∈ builtinPids) :
    r.Provides pid := by
  obtain ⟨d, hd, rfl⟩ := exists_builtin (κ := κ) hpid
  exact ⟨d, List.mem_append_left _ hd, h.definition d hd⟩

theorem Equipped.handle (h : Equipped r) (hprovides : r.Provides request.pid)
    (custom : κ → Handler κ γ ω) (fallback : Fallback κ γ ω ε) (w : ω) :
    Attuned r (handle custom fallback request r w).2.1 := by
  obtain ⟨d, hd, hdefinition⟩ := hprovides
  obtain ⟨-, -, hpid⟩ := (Store.definition?_eq_some_iff h.wellFormed.pids_nodup).mp hdefinition
  unfold Responder.handle
  split_ifs
  · exact .refl h.wellFormed
  · rw [hdefinition]
    exact Attuned.dispatch h.wellFormed hd hpid custom w

/-- A new device has its first personality. -/
theorem equipped_of_create {capacities : Capacities} (h : create config capacities = .ok r) :
    Equipped r ∧ r.config = config ∧
      ∃ value, r.store.get personalityKey = .ok value ∧ IsChoice config value := by
  have hfresh := fresh_of_create h
  refine ⟨⟨?_, hfresh.serving.builtins.1, fun d hd => hfresh.serving.definition? hd, ?_⟩,
    hfresh.configured, _, Store.get_of_contents hfresh.personality, isChoice_initial hfresh.valid⟩
  · rw [hfresh.configured]
    exact hfresh.valid
  · rw [hfresh.personality]
    rfl

/-! ## What is stored -/

/-- The stored personality is one that is configured, next to the number of personalities, and the
device uses the slots of that personality. -/
def FitsConfiguration (config : ResponderConfig) (r : Responder κ γ) : Prop :=
  ∃ (current count : UInt8) (setting : PersonalitySetting),
    r.store.get personalityKey = .ok [current, count] ∧
      count.toNat = config.personalities.length ∧
      1 ≤ current.toNat ∧ current.toNat ≤ count.toNat ∧
      config.personalities[current.toNat - 1]? = some setting ∧ r.footprint = setting.footprint

theorem personality_of_get {p : Personality}
    (hget : r.store.get personalityKey = .ok p.encode) : r.personality = p := by
  rw [personality, rootValue?, hget]
  rfl

/-- There are no more personalities than a byte can count. -/
theorem toNat_count (h : validPersonalities config = true) :
    (UInt8.ofNat config.personalities.length).toNat = config.personalities.length := by
  simp only [validPersonalities, Bool.and_eq_true, decide_eq_true_eq] at h
  rw [UInt8.toNat_ofNat']
  omega

theorem Equipped.fits (h : Equipped r) {value : Bytes}
    (hget : r.store.get personalityKey = .ok value) (hchoice : IsChoice r.config value) :
    FitsConfiguration r.config r := by
  obtain ⟨number, hlow, hhigh, rfl⟩ := hchoice
  have hcount := toNat_count h.valid
  have hlt : number.toNat - 1 < r.config.personalities.length := by omega
  have hzero : number ≠ 0 := by
    rintro rfl
    cases hlow
  refine ⟨number, UInt8.ofNat r.config.personalities.length, _, hget, hcount, hlow, by omega,
    List.getElem?_eq_getElem hlt, ?_⟩
  rw [footprint, personality_of_get hget, setting?, if_neg hzero, List.getElem?_eq_getElem hlt]
  rfl

theorem Equipped.personalityDefinition (h : Equipped r) :
    r.store.definition? Pid.dmxPersonality = some personalityDefinition :=
  h.definition _ (List.mem_of_getElem? (i := 8) rfl)

/-- Two bytes are stored. -/
theorem Equipped.exists_personality (h : Equipped r) :
    ∃ p : Personality, r.store.get personalityKey = .ok p.encode := by
  obtain ⟨e, he, -⟩ := Option.map_eq_some_iff.mp h.persisted
  have hget := Store.get_of_contents he
  have hcheck := h.wellFormed.check_of_get h.personalityDefinition hget
  obtain ⟨p, hvalue⟩ := personality_of_check hcheck
  exact ⟨p, hvalue ▸ hget⟩

theorem isChoice_of_personalityFits (hfits : r.personalityFits = true) :
    IsChoice r.config r.personality.encode := by
  simp only [personalityFits, Bool.and_eq_true, beq_iff_eq, decide_eq_true_eq] at hfits
  obtain ⟨⟨hcount, hlow⟩, hhigh⟩ := hfits
  rw [UInt8.le_iff_toNat_le] at hlow hhigh
  refine ⟨r.personality.current, hlow, hcount ▸ hhigh, ?_⟩
  rw [← hcount, UInt8.ofNat_toNat]

/-- Repairing the personality never fails, and then it fits. -/
theorem Equipped.repair (h : Equipped r) : ∃ r', r.repairPersonality = .ok r' ∧ Attuned r r' ∧
    ∃ value, r'.store.get personalityKey = .ok value ∧ IsChoice r.config value := by
  obtain ⟨p, hget⟩ := h.exists_personality
  unfold repairPersonality
  split_ifs with hfits
  · have hchoice := isChoice_of_personalityFits hfits
    rw [personality_of_get hget] at hchoice
    exact ⟨r, rfl, .refl h.wellFormed, p.encode, hget, hchoice⟩
  · obtain ⟨e, he, hclass⟩ := Option.map_eq_some_iff.mp h.persisted
    let initial := Personality.encode ⟨r.config.initialPersonality, r.personalityCount⟩
    have hchoice : IsChoice r.config initial := isChoice_initial h.valid
    have hclass' : e.storageClass ≠ .static := by
      rw [hclass]
      decide
    obtain ⟨s, hset⟩ : ∃ s, Store.Change.set personalityKey initial r.store = (.ok (), s) :=
      h.wellFormed.set_of_allowed he hclass' h.personalityDefinition rfl
    have hadopts : Adopts personalityKey (IsChoice r.config) r.store
        (Store.Change.set personalityKey initial r.store).2 :=
      (Adopts.refl h.wellFormed).set fun _ => hchoice
    have hstored := Store.get_of_set h.wellFormed hset personalityKey
    rw [if_pos rfl] at hstored
    rw [hset] at hadopts
    refine ⟨{ r with store := s }, ?_, ⟨rfl, hadopts⟩, initial, hstored, hchoice⟩
    rw [update, Store.set, Store.accept, hset]
    rfl

/-! ## The permanent storage -/

theorem Equipped.commit (h : Equipped r) (kv : KeyValueStorage σ) (k : σ) :
    Equipped (r.commit kv k).2.1 :=
  h.of_same rfl (h.wellFormed.commit kv k).1 rfl
    (h.wellFormed.map_storageClass_commit kv k personalityKey)

/-- Loading may leave any personality if it fails, and leaves one that is configured if not. -/
theorem Equipped.load (h : Equipped r) (kv : KeyValueStorage σ) (k : σ) :
    Equipped (r.load kv k).2.1 ∧ (r.load kv k).2.1.config = r.config ∧
      ((∃ value, (r.load kv k).2.1.store.get personalityKey = .ok value ∧
          IsChoice r.config value) ∨
        ∃ e, (r.load kv k).1 = .error e ∧
          (r.load kv k).2.1.store = (r.store.load kv k).2.1) := by
  have hreports := Store.reports_load kv h.wellFormed k
  have hloaded : Equipped { r with store := (r.store.load kv k).2.1 } :=
    h.of_same rfl hreports.wellFormed hreports.definitions
      (h.wellFormed.map_storageClass_load kv k personalityKey)
  unfold Responder.load
  generalize r.store.load kv k = outcome at hloaded ⊢
  obtain ⟨e | n, store, k'⟩ := outcome
  · exact ⟨hloaded, rfl, .inr ⟨e, rfl, rfl⟩⟩
  · obtain ⟨r', hrepair, hattuned, hstored⟩ := hloaded.repair
    dsimp only at hrepair hloaded ⊢
    rw [hrepair]
    exact ⟨hloaded.attuned hattuned, hattuned.config, .inl hstored⟩

/-- A load that succeeds leaves a personality that is configured. -/
theorem Equipped.fits_of_load (h : Equipped r) {k k' : σ} {n : ℕ}
    (hload : r.load kv k = (.ok n, r', k')) : FitsConfiguration r.config r' := by
  obtain ⟨hequipped, hconfig, ⟨value, hget, hchoice⟩ | ⟨e, herror, -⟩⟩ := h.load kv k
  · rw [hload] at hequipped hconfig hget
    rw [← hconfig] at hchoice ⊢
    exact hequipped.fits hget hchoice
  · rw [hload] at herror
    cases herror

/-! ## What the personality does not depend on -/

/-- The device has the configuration of before, its store has gone through operations, and the
personality was not one of the things they were about. -/
structure Unconcerned (before r : Responder κ γ) : Prop where
  config : r.config = before.config
  leads : before.store.Leads r.store
  contents : r.store.contents personalityKey = before.store.contents personalityKey

theorem Unconcerned.of_same (hconfig : r'.config = r.config) (hstore : r'.store = r.store) :
    Unconcerned r r' :=
  ⟨hconfig, hstore ▸ .refl, hstore ▸ rfl⟩

theorem Unconcerned.operate (h : Unconcerned before r) (hbefore : before.store.WellFormed)
    (kv : KeyValueStorage σ) {op : Store.Operation (HandlerName κ) γ σ}
    (hstorage : op.storage? = none) (hkey : op.key? ≠ some personalityKey) :
    Unconcerned before { r with store := (op.run kv r.store).2 } :=
  ⟨h.config, h.leads.step kv op,
    ((h.leads.wellFormed hbefore).contents_of_ne kv hstorage hkey).trans h.contents⟩

theorem Unconcerned.define (h : Unconcerned before r) (hbefore : before.store.WellFormed)
    {s : Store (HandlerName κ) γ} (hdefine : r.store.define d = .ok s) :
    Unconcerned before { r with store := s } := by
  have hrest : Unconcerned before
      { r with store := ((Store.Operation.define d).run forgetful r.store).2 } :=
    h.operate hbefore forgetful rfl nofun
  have hrun : (Store.Operation.define d).run forgetful r.store = (.ok (), s) :=
    accept_eq_ok hdefine
  rwa [hrun] at hrest

/-- Sensors bring definitions with them, of which the second one may be refused. -/
theorem unconcerned_registerSensors (hstore : r.store.WellFormed) (count : UInt8) :
    Unconcerned r (r.registerSensors count).2 := by
  have hsame : Unconcerned r r := .of_same rfl rfl
  unfold Responder.registerSensors
  split_ifs
  · exact hsame
  · split
    next => exact hsame
    next value hvalue =>
      have hvalue := hsame.define hstore hvalue
      dsimp only
      split
      next => exact hvalue
      next record hrecord =>
        have hrecord := hvalue.define hstore hrecord
        exact ⟨hrecord.config, hrecord.leads, hrecord.contents⟩

theorem unconcerned_changeSensor (number : UInt8) (f : SensorReading → SensorReading) :
    Unconcerned r ((r.changeSensor number f).toOption.getD r) := by
  unfold Responder.changeSensor
  split <;> exact .of_same rfl rfl

theorem unconcerned_pushStatus (m : StatusMessage) : Unconcerned r ((r.pushStatus m).getD r) := by
  unfold Responder.pushStatus
  split_ifs <;> exact .of_same rfl rfl

theorem Equipped.unconcerned (h : Equipped r) (hrest : Unconcerned r r') : Equipped r' where
  valid := hrest.config ▸ h.valid
  wellFormed := hrest.leads.wellFormed h.wellFormed
  definition d hd := hrest.leads.grows.definition? h.wellFormed.pids_nodup
    (hrest.leads.wellFormed h.wellFormed).pids_nodup (h.definition d hd)
  persisted := by
    rw [hrest.contents]
    exact h.persisted

/-! ## Runs -/

/-- What is done with a device in service: it is asked, or its program sets typed parameters,
measures, reports its status, or uses the permanent storage, whose contents at that time are part of
it. With its store the program may do what it likes (`operate`), to have sub-devices and parameters
of its own for example, as long as it does not write the personality past `choosePersonality`. -/
inductive ServiceAct (κ γ σ : Type) where
  | ask (request : Request)
  | setStartAddress (address : UInt16)
  | choosePersonality (number : UInt8)
  | setLabel (label : String)
  | setIdentify (on : Bool)
  | registerSensors (count : UInt8)
  | sensorSet (number : UInt8) (value : Int16)
  | sensorRecord (number : UInt8)
  | sensorReset (number : UInt8)
  | pushStatus (m : StatusMessage)
  | clearStatuses
  | operate (op : Store.Operation (HandlerName κ) γ σ) (hstorage : op.storage? = none)
      (hkey : op.key? ≠ some personalityKey)
  | commit (storage : σ)
  | load (storage : σ)

/-- The device and the world after an act. What is refused changes nothing, but if the second of the
two definitions that sensors bring is refused, the first one stays. -/
def ServiceAct.run (kv : KeyValueStorage σ) (custom : κ → Handler κ γ ω)
    (fallback : Fallback κ γ ω ε) (act : ServiceAct κ γ σ) (r : Responder κ γ) (w : ω) :
    Responder κ γ × ω :=
  match act with
  | .ask request => (Responder.handle custom fallback request r w).2
  | .setStartAddress address => ((r.setStartAddress address).toOption.getD r, w)
  | .choosePersonality number => ((r.choosePersonality number).toOption.getD r, w)
  | .setLabel label => ((r.setLabel label).toOption.getD r, w)
  | .setIdentify on => ((r.setIdentify on).toOption.getD r, w)
  | .registerSensors count => ((r.registerSensors count).2, w)
  | .sensorSet number value => ((r.sensorSet number value).toOption.getD r, w)
  | .sensorRecord number => ((r.sensorRecord number).toOption.getD r, w)
  | .sensorReset number => ((r.sensorReset number).toOption.getD r, w)
  | .pushStatus m => ((r.pushStatus m).getD r, w)
  | .clearStatuses => (r.clearStatuses, w)
  | .operate op _ _ => ({ r with store := (op.run kv r.store).2 }, w)
  | .commit storage => ((r.commit kv storage).2.1, w)
  | .load storage => ((r.load kv storage).2.1, w)

/-- The device and the world after acts, one after the other. -/
def runService (kv : KeyValueStorage σ) (custom : κ → Handler κ γ ω) (fallback : Fallback κ γ ω ε)
    (acts : List (ServiceAct κ γ σ)) (r : Responder κ γ) (w : ω) : Responder κ γ × ω :=
  acts.foldl (fun state act => act.run kv custom fallback state.1 state.2) (r, w)

/-- Whenever the device is asked, it is for a parameter that is built in or that it provides. -/
def AsksProvided (kv : KeyValueStorage σ) (custom : κ → Handler κ γ ω)
    (fallback : Fallback κ γ ω ε) (acts : List (ServiceAct κ γ σ)) (start : Responder κ γ) (w : ω) :
    Prop :=
  ∀ front request back, acts = front ++ .ask request :: back →
    request.pid ∈ builtinPids ∨
      (runService kv custom fallback front start w).1.Provides request.pid

theorem Equipped.setAndQueue (h : Equipped r) {key : Key} {value : Bytes}
    (hvalue : key = personalityKey → IsChoice r.config value)
    (hupdate : r.update (fun s => s.setAndQueue key value) = .ok r') : Attuned r r' := by
  obtain ⟨s, hset, rfl⟩ := update_eq_ok hupdate
  have hadopts := (Adopts.refl h.wellFormed).setAndQueue hvalue
  rw [hset] at hadopts
  exact ⟨rfl, hadopts⟩

theorem Equipped.of_setter (h : Equipped r) {result : Except ParameterError (Responder κ γ)}
    (hresult : ∀ r', result = .ok r' → Attuned r r') : Attuned r (result.toOption.getD r) := by
  cases result with
  | error e => exact .refl h.wellFormed
  | ok r' => exact hresult r' rfl

theorem Equipped.choosePersonality (h : Equipped r) {number : UInt8}
    (hchoose : r.choosePersonality number = .ok r') : Attuned r r' := by
  unfold Responder.choosePersonality at hchoose
  split at hchoose
  next => cases hchoose
  next setting hsetting => exact h.setAndQueue (fun _ => isChoice_of_setting? hsetting) hchoose

theorem Equipped.setLabel (h : Equipped r) {label : String} (hset : r.setLabel label = .ok r') :
    Attuned r r' := by
  unfold Responder.setLabel at hset
  split_ifs at hset
  exact h.setAndQueue (fun heq => absurd heq (by decide)) hset

/-- Loading fails after it has taken over this personality. -/
def TakesOver (kv : KeyValueStorage σ) (r : Responder κ γ) (k : σ) (value : Bytes) : Prop :=
  (∃ e, (r.load kv k).1 = .error e) ∧
    (personalityKey, value) ∈ Store.loaded kv r.store r.store.instances k

/-- What an act makes of the stored personality: it stays, becomes one that is configured, or is
taken over by a load that fails. -/
inductive Revised (kv : KeyValueStorage σ) (r : Responder κ γ) (act : ServiceAct κ γ σ)
    (r' : Responder κ γ) : Prop where
  | kept : r'.store.get personalityKey = r.store.get personalityKey → Revised kv r act r'
  | chosen (value : Bytes) : r'.store.get personalityKey = .ok value → IsChoice r.config value →
    Revised kv r act r'
  | takenOver (k : σ) (value : Bytes) : act = .load k → TakesOver kv r k value →
    r'.store.get personalityKey = .ok value → Revised kv r act r'

theorem Attuned.revised (h : Attuned r r') (kv : KeyValueStorage σ) (act : ServiceAct κ γ σ) :
    Revised kv r act r' := by
  obtain hkept | ⟨value, hget, hchoice⟩ := h.store.value
  · exact .kept hkept
  · exact .chosen value hget hchoice

theorem Unconcerned.revised (h : Unconcerned r r') (kv : KeyValueStorage σ)
    (act : ServiceAct κ γ σ) : Revised kv r act r' :=
  .kept (by rw [Store.get_eq, Store.get_eq, h.contents])

theorem Equipped.act (h : Equipped r) (kv : KeyValueStorage σ) (custom : κ → Handler κ γ ω)
    (fallback : Fallback κ γ ω ε) {act : ServiceAct κ γ σ}
    (hasked : ∀ request, act = .ask request → r.Provides request.pid) (w : ω) :
    let r' := (act.run kv custom fallback r w).1
    Equipped r' ∧ r'.config = r.config ∧ Revised kv r act r' := by
  have of_attuned {r' : Responder κ γ} (hattuned : Attuned r r') :
      Equipped r' ∧ r'.config = r.config ∧ Revised kv r act r' :=
    ⟨h.attuned hattuned, hattuned.config, hattuned.revised kv act⟩
  have of_unconcerned {r' : Responder κ γ} (hrest : Unconcerned r r') :
      Equipped r' ∧ r'.config = r.config ∧ Revised kv r act r' :=
    ⟨h.unconcerned hrest, hrest.config, hrest.revised kv act⟩
  cases act with
  | ask request => exact of_attuned (h.handle (hasked request rfl) custom fallback w)
  | setStartAddress address | setIdentify on =>
    exact of_attuned (h.of_setter fun _ => h.setAndQueue fun heq => absurd heq (by decide))
  | choosePersonality number => exact of_attuned (h.of_setter fun _ => h.choosePersonality)
  | setLabel label => exact of_attuned (h.of_setter fun _ => h.setLabel)
  | registerSensors count => exact of_unconcerned (unconcerned_registerSensors h.wellFormed count)
  | sensorSet number | sensorRecord number | sensorReset number =>
    exact of_unconcerned (unconcerned_changeSensor number _)
  | pushStatus m => exact of_unconcerned (unconcerned_pushStatus m)
  | clearStatuses => exact of_unconcerned (.of_same rfl rfl)
  | operate op hstorage hkey =>
    exact of_unconcerned ((Unconcerned.of_same rfl rfl).operate h.wellFormed kv hstorage hkey)
  | commit k => exact ⟨h.commit kv k, rfl, .kept (h.wellFormed.get_commit kv k personalityKey)⟩
  | load k =>
    obtain ⟨hequipped, hconfig, ⟨value, hget, hchoice⟩ | ⟨e, herror, hstore⟩⟩ := h.load kv k
    · exact ⟨hequipped, hconfig, .chosen value hget hchoice⟩
    · -- nothing is repaired, so that the values are those that loading has left
      refine ⟨hequipped, hconfig, ?_⟩
      obtain hkept | ⟨value, hmem, hget⟩ := h.wellFormed.get_load kv k personalityKey
      · rw [← hstore] at hkept
        exact .kept hkept
      · rw [← hstore] at hget
        exact .takenOver k value rfl ⟨⟨e, herror⟩, hmem⟩ hget

/-- The stored personality was taken over by a load that failed, and nothing has replaced it. -/
def Spoiled (kv : KeyValueStorage σ) (custom : κ → Handler κ γ ω) (fallback : Fallback κ γ ω ε)
    (acts : List (ServiceAct κ γ σ)) (start : Responder κ γ) (w : ω) : Prop :=
  ∃ front k back value, acts = front ++ .load k :: back ∧
    TakesOver kv (runService kv custom fallback front start w).1 k value ∧
    (runService kv custom fallback acts start w).1.store.get personalityKey = .ok value

theorem runService_concat (acts : List (ServiceAct κ γ σ)) (act : ServiceAct κ γ σ)
    (r : Responder κ γ) (w : ω) :
    runService kv custom fallback (acts ++ [act]) r w =
      act.run kv custom fallback (runService kv custom fallback acts r w).1
        (runService kv custom fallback acts r w).2 := by
  rw [runService, List.foldl_append]
  rfl

/-- It is enough if the device is asked for built-in parameters only. -/
theorem asksProvided_of_builtin {acts : List (ServiceAct κ γ σ)} {w : ω}
    (h : ∀ request, .ask request ∈ acts → request.pid ∈ builtinPids) :
    AsksProvided kv custom fallback acts r w := by
  rintro front request back rfl
  exact .inl (h request (List.mem_append_right _ List.mem_cons_self))

/-- The last act of a run is a request to a parameter that the device provides by then, or it is no
request. -/
theorem asksProvided_concat_iff {acts : List (ServiceAct κ γ σ)} {act : ServiceAct κ γ σ} {w : ω} :
    AsksProvided kv custom fallback (acts ++ [act]) r w ↔
      AsksProvided kv custom fallback acts r w ∧ ∀ request, act = .ask request →
        request.pid ∈ builtinPids ∨
          (runService kv custom fallback acts r w).1.Provides request.pid := by
  constructor
  · refine fun h => ⟨?_, ?_⟩
    · rintro front request back rfl
      exact h front request (back ++ [act]) (by rw [List.append_assoc, List.cons_append])
    · rintro request rfl
      exact h acts request [] rfl
  · rintro ⟨hacts, hact⟩ front request back hsplit
    cases back using List.reverseRecOn with
    | nil =>
      obtain ⟨rfl, hlast⟩ := List.append_inj' hsplit rfl
      exact hact request (List.singleton_inj.mp hlast)
    | append_singleton back last =>
      rw [← List.cons_append, ← List.append_assoc] at hsplit
      exact hacts front request back (List.append_inj' hsplit rfl).1

theorem Equipped.runService (h : Equipped r) {value : Bytes}
    (hget : r.store.get personalityKey = .ok value) (hchoice : IsChoice r.config value)
    (kv : KeyValueStorage σ) (custom : κ → Handler κ γ ω) (fallback : Fallback κ γ ω ε)
    (acts : List (ServiceAct κ γ σ)) (w : ω) (hasked : AsksProvided kv custom fallback acts r w) :
    let r' := (runService kv custom fallback acts r w).1
    Equipped r' ∧ r'.config = r.config ∧
      ((∃ value, r'.store.get personalityKey = .ok value ∧ IsChoice r.config value) ∨
        Spoiled kv custom fallback acts r w) := by
  induction acts using List.reverseRecOn with
  | nil => exact ⟨h, rfl, .inl ⟨value, hget, hchoice⟩⟩
  | append_singleton acts act ih =>
    obtain ⟨hbefore, hlast⟩ := asksProvided_concat_iff.mp hasked
    obtain ⟨hequipped, hconfig, hstored⟩ := ih hbefore
    have hprovides : ∀ request, act = .ask request →
        (Responder.runService kv custom fallback acts r w).1.Provides request.pid := by
      exact fun request hact => (hlast request hact).elim hequipped.provides id
    obtain ⟨hequipped', hconfig', hrevised⟩ := hequipped.act kv custom fallback hprovides
      (Responder.runService kv custom fallback acts r w).2
    rw [← runService_concat] at hequipped' hconfig' hrevised
    refine ⟨hequipped', hconfig'.trans hconfig, ?_⟩
    cases hrevised with
    | kept hkept =>
      obtain ⟨value, hget, hchoice⟩ | ⟨front, k, back, value, rfl, htakes, hget⟩ := hstored
      · exact .inl ⟨value, hkept.trans hget, hchoice⟩
      · refine .inr ⟨front, k, back ++ [act], value, ?_, htakes, hkept.trans hget⟩
        rw [List.append_assoc, List.cons_append]
    | chosen value hget hchoice => exact .inl ⟨value, hget, hconfig ▸ hchoice⟩
    | takenOver k value hact htakes hget =>
      subst hact
      exact .inr ⟨acts, k, [], value, rfl, htakes, hget⟩

/-- After any acts, the stored personality is one that is configured, next to the number of
personalities, and the device uses its slots; or a load that failed has taken over the value that is
stored, and nothing has replaced it. The next load that succeeds leaves a personality that is
configured in any case. -/
theorem personality_of_run {capacities : Capacities} (hcreate : create config capacities = .ok r)
    (kv : KeyValueStorage σ) (custom : κ → Handler κ γ ω) (fallback : Fallback κ γ ω ε)
    (acts : List (ServiceAct κ γ σ)) (w : ω) (hasked : AsksProvided kv custom fallback acts r w) :
    let r' := (runService kv custom fallback acts r w).1
    (FitsConfiguration config r' ∨ Spoiled kv custom fallback acts r w) ∧
      ∀ k n r'' k', r'.load kv k = (.ok n, r'', k') → FitsConfiguration config r'' := by
  obtain ⟨hequipped, rfl, value, hget, hchoice⟩ := equipped_of_create hcreate
  obtain ⟨hequipped', hconfig, hstored⟩ :=
    hequipped.runService hget hchoice kv custom fallback acts w hasked
  constructor
  · obtain ⟨value, hget, hchoice⟩ | hspoiled := hstored
    · rw [← hconfig] at hchoice ⊢
      exact .inl (hequipped'.fits hget hchoice)
    · exact .inr hspoiled
  · intro k n r'' k' hload
    rw [← hconfig]
    exact hequipped'.fits_of_load hload

/-! ## A device that loads a personality it does not have -/

/-- A device with one personality. -/
def newDevice : Responder Empty Empty :=
  (create exampleConfig ⟨16, 4, 8, 128⟩).toOption.get exists_exampleDevice

/-- The label is missing, the personality is the ninth of nine, and then the permanent storage
fails. -/
def ninthThenFailure : List (Option Bytes) :=
  [none, some [9, 9]]

/-- The first sensor is to be recorded. -/
def recordFirstSensor : Request :=
  { exampleSetAll with
    pid := Pid.recordSensors
    subDevice := SubDevice.root
    data := .ofBytes [0] }

/-- A device gets a sub-device and a sensor that measures. -/
def fitting : List (ServiceAct Empty Empty (List (Option Bytes))) :=
  [.operate (.addSubDevice 1) rfl nofun, .registerSensors 1, .sensorSet 0 5]

/-- Then the sensor is recorded over the bus, and loading fails. -/
def service : List (ServiceAct Empty Empty (List (Option Bytes))) :=
  fitting ++ [.ask recordFirstSensor] ++ [.load ninthThenFailure]

theorem asksProvided_service : AsksProvided Store.preparedAnswers Empty.elim
    (noFallback : Fallback Empty Empty Unit Empty) service newDevice () := by
  have hfitting : AsksProvided Store.preparedAnswers Empty.elim
      (noFallback : Fallback Empty Empty Unit Empty) fitting newDevice () :=
    asksProvided_of_builtin fun request hmem => by simp [fitting] at hmem
  have hrecord : (runService Store.preparedAnswers Empty.elim
      (noFallback : Fallback Empty Empty Unit Empty) fitting newDevice ()).1.Provides
        Pid.recordSensors :=
    ⟨recordSensorsDefinition, List.mem_append_right _ (.tail _ (.head _)), by decide +kernel⟩
  refine asksProvided_concat_iff.mpr ⟨asksProvided_concat_iff.mpr ⟨hfitting, ?_⟩, nofun⟩
  rintro request hask
  cases hask
  exact .inr hrecord

/-- After a load that failed, one that succeeds puts the personality right. -/
theorem personality_of_run_newDevice :
    let r := (runService Store.preparedAnswers Empty.elim
      (noFallback : Fallback Empty Empty Unit Empty) service newDevice ()).1
    create exampleConfig ⟨16, 4, 8, 128⟩ = .ok newDevice ∧
    AsksProvided Store.preparedAnswers Empty.elim
      (noFallback : Fallback Empty Empty Unit Empty) service newDevice () ∧
    r.store.get personalityKey = .ok [9, 9] ∧ r.sensors = [⟨0, 5, 0, 5, 5⟩] ∧
    ∃ n r' k', r.load Store.preparedAnswers [none, some [9, 9], none] = (.ok n, r', k') ∧
      FitsConfiguration exampleConfig r' := by
  intro r
  have hcreate : create exampleConfig ⟨16, 4, 8, 128⟩ = .ok newDevice :=
    eq_ok_get exists_exampleDevice
  have hok : (r.load Store.preparedAnswers [none, some [9, 9], none]).1 = .ok 1 := by
    decide +kernel
  obtain ⟨-, hload⟩ := personality_of_run hcreate Store.preparedAnswers Empty.elim
    (noFallback : Fallback Empty Empty Unit Empty) service () asksProvided_service
  exact ⟨hcreate, asksProvided_service, by decide +kernel, by decide +kernel, 1, _, _,
    Prod.ext hok rfl, hload _ _ _ _ (Prod.ext hok rfl)⟩

/-- Loading fails after the personality, and nothing puts it right. -/
theorem unfit_personality_kept :
    let outcome := newDevice.load Store.preparedAnswers ninthThenFailure
    create exampleConfig ⟨16, 4, 8, 128⟩ = .ok newDevice ∧
    FitsConfiguration exampleConfig newDevice ∧
    outcome.1 = .error .storage ∧ outcome.2.1.store.get personalityKey = .ok [9, 9] ∧
    outcome.2.1.footprint = 0 ∧ ¬ FitsConfiguration exampleConfig outcome.2.1 := by
  intro outcome
  have hget : outcome.2.1.store.get personalityKey = .ok [9, 9] := by decide +kernel
  refine ⟨eq_ok_get exists_exampleDevice, ?_, by decide +kernel, hget, by decide +kernel, ?_⟩
  · exact ⟨1, 1, ⟨4, ""⟩, by decide +kernel, rfl, by decide, by decide, rfl, by decide +kernel⟩
  · rintro ⟨current, count, setting, hget', hcount, -⟩
    rw [hget, Except.ok.injEq] at hget'
    cases hget'
    cases hcount

end Responder

end LightingBus
