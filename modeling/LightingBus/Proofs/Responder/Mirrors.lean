import LightingBus.Proofs.Responder.FanOut

/-!
# Mirrors

`mirrored_of_run`: a program that listens to every parameter and remembers the last value that it
was told for each key knows the values of its device, except for values that were taken over from
the permanent storage: of these nobody is told.

1. `Reports` is a change of a store together with the values that it leaves, in order, and whether
   listeners heard of each. Reports are put one behind the other (`Reports.trans`).
2. Who uses a store tells of all values (`Reports.of_used`), a request to a device uses its store
   (`used_handle`), and so does the repair of the personality (`used_load`). Loading values tells of
   none (`reports_load`).
3. A key whose latest value was told has that value in the mirror (`mirrored_of_told`).
-/

namespace LightingBus

/-- A value that a key was given. -/
structure News where
  key : Key
  value : Bytes
  /-- A listener heard of it. -/
  told : Bool
  deriving DecidableEq

namespace News

variable {γ : Type} {news : List News} {key : Key}

/-- What a listener hears of. -/
def ofNotice (n : Notice γ) : News :=
  ⟨n.key, n.value, true⟩

/-- A value that nobody hears of. -/
def silent (p : Key × Bytes) : News :=
  ⟨p.1, p.2, false⟩

/-- The last news of a key. -/
def latest (news : List News) (key : Key) : Option News :=
  news.reverse.findSome? fun n => if n.key = key then some n else none

theorem latest_append (news more : List News) (key : Key) :
    latest (news ++ more) key = (latest more key).or (latest news key) := by
  rw [latest, List.reverse_append, List.findSome?_append]
  rfl

theorem latest_concat (news : List News) (n : News) (key : Key) :
    latest (news ++ [n]) key = if n.key = key then some n else latest news key := by
  rw [latest_append, latest, List.reverse_singleton, List.findSome?_singleton]
  split_ifs <;> rfl

theorem mem_of_latest {n : News} (h : latest news key = some n) : n ∈ news := by
  obtain ⟨n', hn', heq⟩ := List.exists_of_findSome?_eq_some h
  split_ifs at heq
  obtain rfl := Option.some.inj heq
  exact List.mem_reverse.mp hn'

theorem key_of_latest {n : News} (h : latest news key = some n) : n.key = key := by
  obtain ⟨n', -, heq⟩ := List.exists_of_findSome?_eq_some h
  split_ifs at heq with hkey
  exact Option.some.inj heq ▸ hkey

theorem latest_told (told : List (Notice γ)) (key : Key) :
    (latest (told.map ofNotice) key).map News.value = Store.lastTold told key := by
  rw [latest, Store.lastTold, ← List.map_reverse, List.findSome?_map, List.map_findSome?]
  congr 1
  funext n
  rw [Function.comp, Function.comp, apply_ite (Option.map News.value)]
  rfl

theorem filter_told (told : List (Notice γ)) :
    (told.map ofNotice).filter News.told = told.map ofNotice := by
  refine List.filter_eq_self.mpr fun n hn => ?_
  obtain ⟨_, -, rfl⟩ := List.mem_map.mp hn
  rfl

theorem filter_silent (taken : List (Key × Bytes)) :
    (taken.map silent).filter News.told = [] := by
  refine List.filter_eq_nil_iff.mpr fun n hn => ?_
  obtain ⟨_, -, rfl⟩ := List.mem_map.mp hn
  exact nofun

/-- If the last news of a key was told, the last told news of the key is the last one. -/
theorem latest_filter_told (h : ∀ n, latest news key = some n → n.told = true) :
    latest (news.filter News.told) key = latest news key := by
  induction news using List.reverseRecOn with
  | nil => rfl
  | append_singleton news n ih =>
    rw [latest_concat] at h ⊢
    rw [List.filter_append]
    by_cases hkey : n.key = key
    · rw [if_pos hkey] at h ⊢
      rw [List.filter_cons_of_pos (h n rfl), List.filter_nil, latest_concat, if_pos hkey]
    · rw [if_neg hkey] at h ⊢
      have hone : latest ([n].filter News.told) key = none := by
        rw [List.filter_cons, List.filter_nil]
        split_ifs
        · rw [← List.nil_append [n], latest_concat, if_neg hkey]
          rfl
        · rfl
      rw [latest_append, hone, Option.none_or, ih h]

end News

namespace Store

open News (latest)

variable {η γ κ : Type} {s s' s'' : Store η γ} {news more : List News} {key : Key}

/-! ## Reports -/

/-- The store `s'` comes out of `s` by giving keys these values, and listeners hear of those that
are told. -/
structure Reports (news : List News) (s s' : Store η γ) : Prop where
  wellFormed : s'.WellFormed
  definitions : s'.definitions = s.definitions
  notices : ∃ told, s'.notices = s.notices ++ told ∧
    told.map News.ofNotice = news.filter News.told
  values : ∀ key, s'.get key = ((latest news key).map News.value).elim (s.get key) .ok

namespace Reports

theorem refl (hs : s.WellFormed) : Reports [] s s :=
  ⟨hs, rfl, ⟨[], (List.append_nil _).symm, rfl⟩, fun _ => rfl⟩

theorem trans (h : Reports news s s') (h' : Reports more s' s'') :
    Reports (news ++ more) s s'' := by
  obtain ⟨told, hnotices, htold⟩ := h.notices
  obtain ⟨told', hnotices', htold'⟩ := h'.notices
  refine ⟨h'.wellFormed, h'.definitions.trans h.definitions, ⟨told ++ told', ?_, ?_⟩,
    fun key => ?_⟩
  · rw [hnotices', hnotices, List.append_assoc]
  · rw [List.map_append, htold, htold', List.filter_append]
  · rw [h'.values, h.values, News.latest_append]
    cases latest more key <;> rfl

/-- Nothing is concealed by who uses a store. -/
theorem of_used (h : s.Used s') (hs : s.WellFormed) (hattended : s.Attended) :
    Reports ((s'.notices.drop s.notices.length).map News.ofNotice) s s' := by
  obtain ⟨told, hnotices, hvalues⟩ := h.told hs hattended
  have hretains := h.retains hs
  have hdrop : s'.notices.drop s.notices.length = told := by
    rw [hnotices, List.drop_left' rfl]
  rw [hdrop]
  refine ⟨hretains.wellFormed, hretains.definitions,
    ⟨told, hnotices, (News.filter_told told).symm⟩, fun key => ?_⟩
  rw [hvalues, mirrored, News.latest_told]

/-- A key whose latest value was told has that value in the mirror. -/
theorem mirrored_of_told (h : Reports news s s') {told : List (Notice γ)}
    (htold : told.map News.ofNotice = news.filter News.told)
    (hlatest : ∀ n, latest news key = some n → n.told = true) :
    s.mirrored told key = s'.get key := by
  rw [h.values, mirrored, ← News.latest_told, htold, News.latest_filter_told hlatest]

end Reports

/-! ## The permanent storage -/

/-- Writing values to the permanent storage changes none. -/
theorem reports_commit (kv : KeyValueStorage κ) (hs : s.WellFormed) (k : κ) :
    Reports [] s (s.commit kv k).2.1 :=
  ⟨(hs.commit kv k).1, rfl, ⟨[], (List.append_nil _).symm, rfl⟩, hs.get_commit kv k⟩

theorem restore_leaves (s : Store η γ) (index : ℕ) (value : Bytes) :
    (s.restore index value).2.definitions = s.definitions ∧
      (s.restore index value).2.notices = s.notices := by
  unfold restore
  split_ifs
  · exact ⟨rfl, rfl⟩
  · split
    next hwrite =>
      rw [write_atomic _ _ _ _ _ hwrite]
      exact ⟨rfl, rfl⟩
    next hwrite =>
      obtain ⟨i, start, length, d, -, -, -, -, rfl⟩ := write_eq_ok hwrite
      exact ⟨rfl, rfl⟩

/-- Values are loaded without a word. -/
theorem loadEach_leaves (kv : KeyValueStorage κ) (positions : List ℕ) :
    ∀ (s : Store η γ) (k : κ),
      (loadEach kv positions s k).2.1.definitions = s.definitions ∧
        (loadEach kv positions s k).2.1.notices = s.notices := by
  induction positions with
  | nil => exact fun _ _ => ⟨rfl, rfl⟩
  | cons index positions ih =>
    intro s k
    rw [loadEach]
    split
    · exact ih s k
    next i _ =>
      rcases kv.get i.key.pack k with ⟨_ | _ | value, k⟩
      · exact ⟨rfl, rfl⟩
      · exact ih s k
      · have hrestore := restore_leaves s index value
        dsimp only
        generalize s.restore index value = outcome at hrestore ⊢
        obtain ⟨_ | _, s'⟩ := outcome
        · exact ⟨(ih s' k).1.trans hrestore.1, (ih s' k).2.trans hrestore.2⟩
        · exact ⟨(ih s' k).1.trans hrestore.1, (ih s' k).2.trans hrestore.2⟩

/-- Nobody is told of the values that are taken over from the permanent storage. -/
theorem reports_load (kv : KeyValueStorage κ) (hs : s.WellFormed) (k : κ) :
    Reports ((loaded kv s s.instances k).map News.silent) s (s.load kv k).2.1 := by
  obtain ⟨hkept, hlawful, hcontents⟩ := step_refines kv (.load k) hs
  obtain ⟨hdefinitions, hnotices⟩ := loadEach_leaves kv (List.range s.instances.length) s k
  refine ⟨hkept, hdefinitions, ⟨[], ?_, (News.filter_silent _).symm⟩, fun key => ?_⟩
  · rw [List.append_nil]
    exact hnotices
  · have hvalue := hlawful.value key
    have hevents : lastAccepted ((Operation.load k : Operation η γ κ).events kv s) key =
        (latest ((loaded kv s s.instances k).map News.silent) key).map News.value := by
      change lastAccepted ((loaded kv s s.instances k).map fun p => .loaded p.1 p.2)
        key = _
      rw [lastAccepted, latest, ← List.map_reverse, ← List.map_reverse, List.findSome?_map,
        List.findSome?_map, List.map_findSome?]
      congr 1
      funext p
      simp only [Function.comp, apply_ite (Option.map News.value)]
      rfl
    rw [← hcontents, hevents] at hvalue
    change (((Operation.load k).run kv s).2).get key = _
    rw [get_eq, get_eq, hvalue]
    cases latest ((loaded kv s s.instances k).map News.silent) key <;> rfl

/-- A value after loading is the one of before or one that was taken over. -/
theorem WellFormed.get_load (h : s.WellFormed) (kv : KeyValueStorage κ) (k : κ) (key : Key) :
    (s.load kv k).2.1.get key = s.get key ∨
      ∃ value, (key, value) ∈ loaded kv s s.instances k ∧
        (s.load kv k).2.1.get key = .ok value := by
  have hvalues := (reports_load kv h k).values key
  cases hlatest : News.latest ((loaded kv s s.instances k).map News.silent) key with
  | none =>
    rw [hlatest] at hvalues
    exact .inl hvalues
  | some n =>
    obtain ⟨p, hp, rfl⟩ := List.mem_map.mp (News.mem_of_latest hlatest)
    obtain rfl := News.key_of_latest hlatest
    rw [hlatest] at hvalues
    exact .inr ⟨p.2, hp, hvalues⟩

end Store

namespace Responder

open News (latest)

variable {κ γ σ ω ε : Type} {kv : KeyValueStorage σ} {r : Responder κ γ}
  {custom : κ → Handler κ γ ω} {fallback : Fallback κ γ ω ε}

/-! ## Who uses a store -/

/-- A handler that does no more with a store than to use it. -/
def Attentive (handler : Handler κ γ ω) : Prop :=
  ∀ request (r : Responder κ γ) w, r.store.Used (handler request r w).2.1.store

/-- A fallback that does no more with a store than to use it. -/
def AttentiveFallback (fallback : Fallback κ γ ω ε) : Prop :=
  ∀ request (r : Responder κ γ) w, r.store.Used (fallback request r w).2.1.store

theorem attentiveFallback_noFallback : AttentiveFallback (noFallback : Fallback κ γ ω ε) :=
  fun _ _ _ => .refl

/-- A request uses the store of its device. -/
theorem used_handle (hcustom : ∀ name, Attentive (custom name))
    (hfallback : AttentiveFallback fallback) (request : Request) (r : Responder κ γ) (w : ω) :
    r.store.Used (handle custom fallback request r w).2.1.store := by
  have hnames := keeps_interpret (P := fun r' : Responder κ γ => r.store.Used r'.store)
    (fun handler request r' h => h.trans (used_run handler request r'))
    fun name request r' w h => h.trans (hcustom name request r' w)
  exact keeps_handle (fun key value _ h => h.set key value) hnames
    (fun request r' w h => h.trans (hfallback request r' w)) request r w .refl

/-- Values are loaded, and then the store is used. -/
theorem used_load (kv : KeyValueStorage σ) (r : Responder κ γ) (k : σ) :
    (r.store.load kv k).2.1.Used (r.load kv k).2.1.store := by
  unfold load
  generalize r.store.load kv k = outcome
  obtain ⟨_ | n, store, k'⟩ := outcome
  · exact .refl
  · dsimp only
    split
    next => exact .refl
    next repaired hrepair =>
      unfold repairPersonality at hrepair
      split_ifs at hrepair
      · cases hrepair
        exact .refl
      · obtain ⟨s, hset, rfl⟩ := update_eq_ok hrepair
        have hused := Store.Used.refl.set (s := store) (rootKey Pid.dmxPersonality)
          (Personality.encode ⟨r.config.initialPersonality, r.personalityCount⟩)
        have hrun : Store.Change.set (rootKey Pid.dmxPersonality)
            (Personality.encode ⟨r.config.initialPersonality, r.personalityCount⟩) store =
              (.ok (), s) := hset
        rw [hrun] at hused
        exact hused

/-! ## Runs -/

/-- Something that changes the parameters of a device. What the permanent storage has at that time
is part of it. -/
inductive Act (σ : Type) where
  | set (key : Key) (value : Bytes)
  | setAndQueue (key : Key) (value : Bytes)
  | ask (request : Request)
  | commit (storage : σ)
  | load (storage : σ)

namespace Act

/-- The device and the world after an act. -/
def run (kv : KeyValueStorage σ) (custom : κ → Handler κ γ ω) (fallback : Fallback κ γ ω ε)
    (act : Act σ) (r : Responder κ γ) (w : ω) : Responder κ γ × ω :=
  match act with
  | .set key value => ({ r with store := (Store.Change.set key value r.store).2 }, w)
  | .setAndQueue key value =>
    ({ r with store := (Store.Change.setAndQueue key value r.store).2 }, w)
  | .ask request => (handle custom fallback request r w).2
  | .commit storage => ((r.commit kv storage).2.1, w)
  | .load storage => ((r.load kv storage).2.1, w)

/-- The values that an act leaves: those that are taken over from the permanent storage, and then
those that listeners hear of. -/
def news (kv : KeyValueStorage σ) (custom : κ → Handler κ γ ω) (fallback : Fallback κ γ ω ε)
    (act : Act σ) (r : Responder κ γ) (w : ω) : List News :=
  let taken := match act with
    | .load storage => Store.loaded kv r.store r.store.instances storage
    | _ => []
  let told := (act.run kv custom fallback r w).1.store.notices.drop r.store.notices.length
  taken.map News.silent ++ told.map News.ofNotice

/-- An act reports its news. -/
theorem reports (hcustom : ∀ name, Attentive (custom name))
    (hfallback : AttentiveFallback fallback) (act : Act σ) (hstore : r.store.WellFormed)
    (hattended : r.store.Attended) (w : ω) :
    Store.Reports (act.news kv custom fallback r w) r.store
      (act.run kv custom fallback r w).1.store := by
  cases act with
  | set key value => exact .of_used (Store.Used.refl.set key value) hstore hattended
  | setAndQueue key value => exact .of_used (Store.Used.refl.setAndQueue key value) hstore hattended
  | ask request => exact .of_used (used_handle hcustom hfallback request r w) hstore hattended
  | commit storage =>
    have hreports := Store.reports_commit kv hstore storage
    have hnews : (commit storage).news kv custom fallback r w = [] := by
      change [].map News.silent ++
        (r.store.notices.drop r.store.notices.length).map News.ofNotice = []
      rw [List.drop_length]
      rfl
    rw [hnews]
    exact hreports
  | load storage =>
    have hreports := Store.reports_load kv hstore storage
    obtain ⟨-, hnotices⟩ := Store.loadEach_leaves kv (List.range r.store.instances.length) r.store
      storage
    have hrepaired := Store.Reports.of_used (used_load kv r storage) hreports.wellFormed
      (hattended.of_definitions hreports.definitions)
    rw [Store.load, hnotices] at hrepaired
    exact hreports.trans hrepaired

/-- Only values of the permanent storage are not told. -/
theorem told_of_mem_news {act : Act σ} (hload : ∀ storage, act ≠ .load storage) {w : ω} {n : News}
    (hn : n ∈ act.news kv custom fallback r w) : n.told = true := by
  have htold (notices : List (Notice γ)) (h : n ∈ [].map News.silent ++ notices.map News.ofNotice) :
      n.told = true := by
    obtain ⟨_, -, rfl⟩ := List.mem_map.mp h
    rfl
  cases act with
  | load storage => exact absurd rfl (hload storage)
  | _ => exact htold _ hn

end Act

/-- The device and the world after acts, one after the other. -/
def runActs (kv : KeyValueStorage σ) (custom : κ → Handler κ γ ω) (fallback : Fallback κ γ ω ε) :
    List (Act σ) → Responder κ γ → ω → Responder κ γ × ω
  | [], r, w => (r, w)
  | act :: acts, r, w =>
    let next := act.run kv custom fallback r w
    runActs kv custom fallback acts next.1 next.2

/-- The values that acts leave, oldest first. -/
def newsOfActs (kv : KeyValueStorage σ) (custom : κ → Handler κ γ ω)
    (fallback : Fallback κ γ ω ε) : List (Act σ) → Responder κ γ → ω → List News
  | [], _, _ => []
  | act :: acts, r, w =>
    let next := act.run kv custom fallback r w
    act.news kv custom fallback r w ++ newsOfActs kv custom fallback acts next.1 next.2

theorem runActs_reports (hcustom : ∀ name, Attentive (custom name))
    (hfallback : AttentiveFallback fallback) (acts : List (Act σ)) :
    ∀ (r : Responder κ γ) (w : ω), r.store.WellFormed → r.store.Attended →
      Store.Reports (newsOfActs kv custom fallback acts r w) r.store
        (runActs kv custom fallback acts r w).1.store := by
  induction acts with
  | nil => exact fun r w hstore _ => .refl hstore
  | cons act acts ih =>
    intro r w hstore hattended
    have hstep : Store.Reports (act.news kv custom fallback r w) r.store
        (act.run kv custom fallback r w).1.store :=
      act.reports hcustom hfallback hstore hattended w
    exact hstep.trans (ih _ _ hstep.wellFormed (hattended.of_definitions hstep.definitions))

theorem told_of_mem_newsOfActs (acts : List (Act σ)) {n : News} :
    ∀ {r : Responder κ γ} {w : ω}, (∀ storage, .load storage ∉ acts) →
      n ∈ newsOfActs kv custom fallback acts r w → n.told = true := by
  induction acts with
  | nil => exact fun _ hn => by cases hn
  | cons act acts ih =>
    intro r w hload hn
    rcases List.mem_append.mp hn with hn | hn
    · exact Act.told_of_mem_news
        (fun storage heq => hload storage (heq ▸ List.mem_cons_self)) hn
    · exact ih (fun storage hmem => hload storage (List.mem_cons_of_mem _ hmem)) hn

/-- Listeners to all parameters hear of exactly those values that were not taken over from the
permanent storage, in order. A key has the last value that it was given. So whoever remembers what
listeners hear of has the value of every key, unless its last value was taken over from the
permanent storage; and of all keys, if nothing was loaded. -/
theorem mirrored_of_run {kv' : KeyValueStorage σ} (hreach : Reachable kv' r)
    (hattended : r.store.Attended) (hcustom : ∀ name, Attentive (custom name))
    (hfallback : AttentiveFallback fallback) (kv : KeyValueStorage σ) (acts : List (Act σ)) (w : ω) :
    let r' := (runActs kv custom fallback acts r w).1
    let news := newsOfActs kv custom fallback acts r w
    ∃ told, r'.store.notices = r.store.notices ++ told ∧
      told.map News.ofNotice = news.filter News.told ∧
      (∀ key, r'.store.get key =
        ((latest news key).map News.value).elim (r.store.get key) .ok) ∧
      (∀ key, (∀ n, latest news key = some n → n.told = true) →
        r.store.mirrored told key = r'.store.get key) ∧
      ((∀ storage, .load storage ∉ acts) → ∀ key,
        r.store.mirrored told key = r'.store.get key) := by
  intro r' news
  have hreports : Store.Reports news r.store r'.store :=
    runActs_reports hcustom hfallback acts r w hreach.wellFormed hattended
  obtain ⟨told, hnotices, htold⟩ := hreports.notices
  exact ⟨told, hnotices, htold, hreports.values, fun key => hreports.mirrored_of_told htold,
    fun hload key => hreports.mirrored_of_told htold fun n hn =>
      told_of_mem_newsOfActs acts hload (News.mem_of_latest hn)⟩

/-! ## A device with listeners -/

/-- A permanent storage that has one start address. -/
def slotNine : KeyValueStorage Unit where
  get key k :=
    if key = (rootKey Pid.dmxStartAddress).pack then (.ok (some [0, 9]), k) else (.ok none, k)
  set _ _ k := (.ok (), k)

/-- Somebody listens to every parameter. -/
def attendedDevice : Responder Empty Unit :=
  deviceOf ((deviceOf [] : Responder Empty Unit).store.pids.map (.listen · ()))

theorem attendedDevice_reachable : Reachable forgetful attendedDevice :=
  deviceOf_reachable _

theorem attendedDevice_attended : attendedDevice.store.Attended := by
  unfold Store.Attended
  decide +kernel

/-- The start address is loaded, and then it is set. -/
def loadAndSet : List (Act Unit) :=
  [.load (), .setAndQueue (rootKey Pid.dmxStartAddress) [0, 7]]

theorem mirrored_of_run_attendedDevice :
    ∃ told, (runActs slotNine Empty.elim (noFallback : Fallback Empty Unit Unit Empty) loadAndSet
        attendedDevice ()).1.store.notices = attendedDevice.store.notices ++ told ∧
      attendedDevice.store.mirrored told (rootKey Pid.dmxStartAddress) = .ok [0, 7] := by
  obtain ⟨told, hnotices, -, -, hmirrored, -⟩ := mirrored_of_run attendedDevice_reachable
    attendedDevice_attended nofun
    (attentiveFallback_noFallback : AttentiveFallback (noFallback : Fallback _ _ Unit Empty))
    slotNine loadAndSet ()
  refine ⟨told, hnotices, ?_⟩
  rw [hmirrored (rootKey Pid.dmxStartAddress)]
  · decide +kernel
  · have hlatest : (latest (newsOfActs slotNine Empty.elim
        (noFallback : Fallback Empty Unit Unit Empty) loadAndSet attendedDevice ())
        (rootKey Pid.dmxStartAddress)) = some ⟨rootKey Pid.dmxStartAddress, [0, 7], true⟩ := by
      decide +kernel
    intro n hn
    rw [hlatest] at hn
    cases hn
    rfl

/-- The start address is loaded, and nobody is told. -/
theorem loaded_unnoticed :
    let r' := (runActs slotNine Empty.elim (noFallback : Fallback Empty Unit Unit Empty) [.load ()]
      attendedDevice ()).1
    Reachable forgetful attendedDevice ∧ attendedDevice.store.Attended ∧
    attendedDevice.store.get (rootKey Pid.dmxStartAddress) = .ok [0, 1] ∧
    r'.store.notices = attendedDevice.store.notices ∧
    r'.store.get (rootKey Pid.dmxStartAddress) = .ok [0, 9] := by
  refine ⟨attendedDevice_reachable, attendedDevice_attended, ?_, ?_, ?_⟩
  all_goals decide +kernel

end Responder

end LightingBus
