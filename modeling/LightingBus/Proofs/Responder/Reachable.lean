import LightingBus.Proofs.Parameter.Refinement
import LightingBus.Proofs.Parameter.Usage
import LightingBus.Responder.Dispatch
import LightingBus.Responder.Operations

/-!
# Reachable responders

Whoever changes the store of a responder, its own program, a handler or the permanent storage, does
it by the operations of the store. `Reachable` says so, and leaves the rest of a responder's state
open; `Reachable.wellFormed` is what follows for the store.

Every built-in handler uses the store or leaves it alone (`used_run`), and so does every step of a
request to all sub-devices. So a request keeps what the store decides and its operations keep
(`Stable.handle`); that it does not lead out of the reachable states is the case `Reachable.handle`.
-/

namespace LightingBus

namespace Responder

variable {κ γ σ ω ε : Type} {kv : KeyValueStorage σ} {r r' : Responder κ γ}

/-- A responder that was set up and whose store, its own or another one that it was given, then
went through operations. -/
inductive Reachable (kv : KeyValueStorage σ) : Responder κ γ → Prop where
  | create {config : ResponderConfig} {capacities : Capacities} {r : Responder κ γ} :
    create config capacities = .ok r → Reachable kv r
  | operate (op : Store.Operation (HandlerName κ) γ σ) {r : Responder κ γ} :
    Reachable kv r → Reachable kv { r with store := (op.run kv r.store).2 }
  /-- Another store is put in the place of the present one. -/
  | replace {capacities : Capacities} {dynamicCapacity : ℕ}
      (ops : List (Store.Operation (HandlerName κ) γ σ)) {r : Responder κ γ} :
    Reachable kv r → Reachable kv { r with
      store := Store.runAll kv ops (Store.empty capacities dynamicCapacity) }
  /-- Notices are fetched, and all but the store may change at will. -/
  | other {r r' : Responder κ γ} {notices : List (Notice γ)} :
    Reachable kv r → r'.store = { r.store with notices := notices } → Reachable kv r'

/-! ## The store -/

theorem bind_eq_ok {α β : Type} {x : Except ε α} {f : α → Except ε β} {b : β} :
    x >>= f = .ok b ↔ ∃ a, x = .ok a ∧ f a = .ok b := by
  cases x with
  | error e => exact ⟨nofun, fun ⟨_, h, _⟩ => by cases h⟩
  | ok a => exact ⟨fun h => ⟨a, rfl, h⟩, fun ⟨_, h, hf⟩ => by cases h; exact hf⟩

theorem accept_eq_ok {η : Type} {s s' : Store η γ} {change : Store.Change η γ}
    (h : s.accept change = .ok s') : change s = (.ok (), s') := by
  unfold Store.accept at h
  split at h
  next => cases h
  next hchange =>
    cases h
    exact hchange

/-- An operation that is accepted keeps the invariant of the store. -/
theorem wellFormed_of_accept (kv : KeyValueStorage σ) {s s' : Store (HandlerName κ) γ}
    (op : Store.Operation (HandlerName κ) γ σ) (hs : s.WellFormed)
    (h : s.accept (op.run kv) = .ok s') : s'.WellFormed := by
  obtain ⟨hkept, -⟩ := Store.step_refines kv op hs
  rw [accept_eq_ok h] at hkept
  exact hkept

theorem wellFormed_of_defineAll (kv : KeyValueStorage σ)
    (definitions : List (ParameterDefinition (HandlerName κ))) :
    ∀ {s s' : Store (HandlerName κ) γ}, s.WellFormed →
      definitions.foldlM Store.define s = .ok s' → s'.WellFormed := by
  induction definitions with
  | nil =>
    intro s s' hs h
    cases h
    exact hs
  | cons d definitions ih =>
    intro s s' hs h
    rw [List.foldlM_cons, bind_eq_ok] at h
    obtain ⟨defined, hd, h⟩ := h
    exact ih (wellFormed_of_accept kv (.define d) hs hd) h

theorem wellFormed_initialStore (kv : KeyValueStorage σ) {config : ResponderConfig}
    {capacities : Capacities} {s : Store (HandlerName κ) γ}
    (h : initialStore config capacities = .ok s) : s.WellFormed := by
  unfold initialStore at h
  obtain ⟨s₁, h₁, h⟩ := bind_eq_ok.mp h
  obtain ⟨s₂, h₂, h⟩ := bind_eq_ok.mp h
  obtain ⟨s₃, h₃, h⟩ := bind_eq_ok.mp h
  obtain ⟨s₄, h₄, h⟩ := bind_eq_ok.mp h
  have hs₁ := wellFormed_of_defineAll kv _ (Store.empty_wellFormed _ _) h₁
  have hs₂ := wellFormed_of_accept kv (.addInstance _ _ _) hs₁ h₂
  have hs₃ := wellFormed_of_accept kv (.addInstance _ _ _) hs₂ h₃
  have hs₄ := wellFormed_of_accept kv (.addInstance _ _ _) hs₃ h₄
  exact wellFormed_of_accept kv (.addInstance _ _ _) hs₄ h

theorem Reachable.wellFormed (h : Reachable kv r) : r.store.WellFormed := by
  induction h with
  | create hcreate =>
    unfold Responder.create at hcreate
    split_ifs at hcreate
    obtain ⟨s, hs, hcreate⟩ := bind_eq_ok.mp hcreate
    cases hcreate
    exact wellFormed_initialStore kv hs
  | operate op _ ih => exact (Store.step_refines kv op ih).1
  | replace ops => exact (Store.runAll_refines kv ops _ (Store.empty_wellFormed _ _)).1
  | other _ hstore ih =>
    rw [hstore]
    exact { ih with }

theorem Reachable.runAll (ops : List (Store.Operation (HandlerName κ) γ σ)) :
    ∀ {r : Responder κ γ}, Reachable kv r →
      Reachable kv { r with store := Store.runAll kv ops r.store } := by
  induction ops with
  | nil => exact fun h => h
  | cons op ops ih =>
    intro r h
    have hnext := ih (h.operate op)
    exact hnext

/-! ## Built-in handlers -/

theorem Reachable.of_store_eq (h : Reachable kv r) (hstore : r'.store = r.store) :
    Reachable kv r' := by
  have hnotices : r'.store = { r.store with notices := r.store.notices } := hstore
  exact h.other hnotices

/-- A property of responders that their stores decide and that operations on the store keep. -/
structure Stable (kv : KeyValueStorage σ) (P : Responder κ γ → Prop) : Prop where
  operate : ∀ (op : Store.Operation (HandlerName κ) γ σ) {r : Responder κ γ}, P r →
    P { r with store := (op.run kv r.store).2 }
  of_store_eq : ∀ {r r' : Responder κ γ}, P r → r'.store = r.store → P r'

theorem stable_reachable : Stable kv (Reachable kv : Responder κ γ → Prop) where
  operate op _ h := h.operate op
  of_store_eq h hstore := h.of_store_eq hstore

theorem storeValue_snd (key : Key) (value : Bytes) (r : Responder κ γ) :
    (storeValue key value r).2 =
      { r with store := (Store.Change.setAndQueue key value r.store).2 } := by
  unfold storeValue
  split
  next h => rw [h]
  next h => rw [h]

theorem takeChanged_suffix (store : Store (HandlerName κ) γ) (keys : List Key) :
    ∃ front, keys = front ++ (takeChanged store keys).2 := by
  induction keys with
  | nil => exact ⟨[], rfl⟩
  | cons key keys ih =>
    obtain ⟨front, hfront⟩ := ih
    rw [takeChanged]
    split
    · exact ⟨key :: front, by rw [List.cons_append, ← hfront]⟩
    · exact ⟨[key], rfl⟩

theorem used_storeValue (key : Key) (value : Bytes) (r : Responder κ γ) :
    r.store.Used (storeValue key value r).2.store := by
  rw [storeValue_snd]
  exact Store.Used.refl.setAndQueue key value

theorem used_popQueued (type : StatusType) (request : Request) (r : Responder κ γ) :
    r.store.Used (popQueued type request r).2.store := by
  obtain ⟨front, hfront⟩ := takeChanged_suffix r.store r.store.changed
  have hrest := Store.Used.refl.dequeue front hfront
  unfold popQueued
  split
  next htake =>
    rw [htake] at hrest
    dsimp only
    split
    · exact hrest
    · exact hrest
  next htake =>
    rw [htake] at hrest
    exact hrest

theorem used_queuedMessage (request : Request) (r : Responder κ γ) :
    r.store.Used (queuedMessage request r).2.store := by
  unfold queuedMessage
  split
  next => exact .refl
  next type _ =>
    split_ifs
    · unfold repeatQueued
      split <;> exact .refl
    · exact used_popQueued type request r
    · exact .refl

theorem used_statusMessages (request : Request) (r : Responder κ γ) :
    r.store.Used (statusMessages request r).2.store := by
  unfold statusMessages
  split
  next => exact .refl
  next type _ => split_ifs <;> exact .refl

/-- Built-in handlers use the store or leave it alone. -/
theorem used_run (handler : Builtin) (request : Request) (r : Responder κ γ) :
    r.store.Used (handler.run request r).2.store := by
  cases handler with
  | simpleSet => exact used_storeValue (requestKey request) request.data.bytes r
  | discMute | discUnMute =>
    simp only [Builtin.run, setMuted]
    split_ifs <;> exact .refl
  | setPersonality =>
    simp only [Builtin.run, setPersonality]
    split_ifs
    · exact .refl
    · split
      · exact .refl
      · split
        · exact .refl
        · exact used_storeValue _ _ r
  | queuedMessage => exact used_queuedMessage request r
  | statusMessages => exact used_statusMessages request r
  | resetSensor | recordSensors =>
    simp only [Builtin.run, resetSensor, recordSensors]
    split
    · exact .refl
    · split_ifs
      · exact .refl
      · split <;> exact .refl
  | _ => exact .refl

namespace Stable

variable {P : Responder κ γ → Prop}

/-- To use a store is to operate on it. -/
theorem use (hP : Stable kv P) (h : P r) {s : Store (HandlerName κ) γ} (hused : r.store.Used s) :
    P { r with store := s } := by
  induction hused with
  | refl => exact h
  | set key value _ ih => exact hP.operate (.set key value) ih
  | queueChanged key _ ih => exact hP.operate (.queueChanged key) ih
  | @popChanged key s' s'' _ hpop ih =>
    have hrun : ((Store.Operation.popChanged : Store.Operation (HandlerName κ) γ σ).run kv s').2 =
        s'' := by
      change (s'.popChanged.map Prod.snd).getD s' = s''
      rw [hpop]
      rfl
    have hnext := hP.operate .popChanged ih
    rw [hrun] at hnext
    exact hnext

theorem runBuiltin (hP : Stable kv P) (h : P r) (handler : Builtin) (request : Request) :
    P (handler.run request r).2 :=
  hP.of_store_eq (hP.use h (used_run handler request r)) rfl

end Stable

/-! ## Requests -/

/-- A handler that keeps a property of responders. -/
def Keeps (P : Responder κ γ → Prop) (handler : Handler κ γ ω) : Prop :=
  ∀ request r w, P r → P (handler request r w).2.1

/-- Writing a value into the store keeps a property of responders. -/
def KeptBySet (P : Responder κ γ → Prop) : Prop :=
  ∀ key value r, P r → P { r with store := (Store.Change.set key value r.store).2 }

theorem Stable.keptBySet {P : Responder κ γ → Prop} (hP : Stable kv P) : KeptBySet P :=
  fun key value _ h => hP.operate (.set key value) h

section Requests

variable {P : Responder κ γ → Prop} {custom : κ → Handler κ γ ω}

theorem keeps_interpret (hbuiltin : ∀ (handler : Builtin) request r, P r →
      P (handler.run request r).2)
    (hcustom : ∀ name, Keeps P (custom name)) (name : HandlerName κ) :
    Keeps P (interpret custom name) := by
  intro request r w h
  cases name with
  | builtin handler => exact hbuiltin handler request r h
  | custom name => exact hcustom name request r w h

theorem KeptBySet.putBackAll (hset : KeptBySet P) (h : P r) (pid : UInt16)
    (applied : List (UInt16 × Option ParameterData)) :
    P { r with store := applied.foldl (putBack pid) r.store } := by
  induction applied generalizing r with
  | nil => exact h
  | cons previous applied ih =>
    have hput : P { r with store := putBack pid r.store previous } := by
      unfold putBack
      split
      next => exact h
      next value _ => exact hset ⟨previous.1, pid⟩ value.bytes r h
    have hnext := ih hput
    exact hnext

theorem keeps_applyEach (hset : KeptBySet P) {handler : Handler κ γ ω} (hhandler : Keeps P handler)
    (request : Request) (devices : List (UInt16 × Option ParameterData)) :
    ∀ (applied : List (UInt16 × Option ParameterData)) (r : Responder κ γ) (w : ω),
      P r → P (applyEach handler request devices applied r w).2.1 := by
  induction devices with
  | nil => exact fun _ _ _ h => h
  | cons p devices ih =>
    intro applied r w h
    have hstep := hhandler { request with subDevice := p.1 } r w h
    rw [Responder.applyEach]
    generalize handler { request with subDevice := p.1 } r w = outcome at hstep ⊢
    obtain ⟨_ | _ | _, r', w'⟩ := outcome
    · exact ih _ r' w' hstep
    · exact hset.putBackAll hstep request.pid applied
    · exact hstep

/-- Dispatching keeps what the handler of the command keeps. -/
theorem keeps_dispatch (hset : KeptBySet P) {d : ParameterDefinition (HandlerName κ)}
    {request : Request}
    (hname : ∀ name, d.handlers.forCommand? request.commandClass = some name →
      Keeps P (interpret custom name)) (r : Responder κ γ) (w : ω) (h : P r) :
    P (dispatch custom d request r w).2.1 := by
  unfold dispatch
  split
  next => exact h
  next name hsome =>
    have hhandler := hname name hsome
    dsimp only
    split
    next => exact hhandler request r w h
    next format _ =>
      split
      next => exact h
      next =>
        split_ifs
        · unfold applyToAll
          split_ifs
          · exact h
          · split
            · exact h
            · exact keeps_applyEach hset hhandler request _ [] r w h
        · unfold applyToOne
          split_ifs
          · exact hhandler request r w h
          · exact h

/-- Handling a request keeps what all handlers keep. -/
theorem keeps_handle (hset : KeptBySet P) (hnames : ∀ name, Keeps P (interpret custom name))
    {fallback : Fallback κ γ ω ε}
    (hfallback : ∀ request r w, P r → P (fallback request r w).2.1)
    (request : Request) (r : Responder κ γ) (w : ω) (h : P r) :
    P (handle custom fallback request r w).2.1 := by
  unfold Responder.handle
  split_ifs
  · exact h
  · split
    next =>
      have hnext := hfallback request r w h
      generalize fallback request r w = outcome at hnext ⊢
      obtain ⟨_ | _, r', w'⟩ := outcome
      · exact hnext
      · exact hnext
    next => exact keeps_dispatch hset (fun name _ => hnames name) r w h

/-- What the store decides outlasts requests, if the handlers that a device brings along keep it. -/
theorem Stable.handle (hP : Stable kv P) (hcustom : ∀ name, Keeps P (custom name))
    {fallback : Fallback κ γ ω ε} (hfallback : ∀ request r w, P r → P (fallback request r w).2.1)
    (request : Request) (r : Responder κ γ) (w : ω) (h : P r) :
    P (handle custom fallback request r w).2.1 :=
  have hnames := keeps_interpret (fun handler request _ h => hP.runBuiltin h handler request)
    hcustom
  keeps_handle hP.keptBySet hnames hfallback request r w h

end Requests

/-- Handling a request does not lead out of the reachable states, if the handlers that a device
brings along do not. -/
theorem Reachable.handle (h : Reachable kv r) {custom : κ → Handler κ γ ω}
    (hcustom : ∀ name, Keeps (Reachable kv) (custom name)) {fallback : Fallback κ γ ω ε}
    (hfallback : ∀ request r w, Reachable kv r → Reachable kv (fallback request r w).2.1)
    (request : Request) (w : ω) : Reachable kv (handle custom fallback request r w).2.1 :=
  stable_reachable.handle hcustom hfallback request r w h

/-! ## The device's own program -/

/-- A typed parameter is set by a change of the store that is accepted. -/
theorem update_eq_ok {change : Store.Change (HandlerName κ) γ}
    (h : r.update (fun s => s.accept change) = .ok r') :
    ∃ s, change r.store = (.ok (), s) ∧ r' = { r with store := s } := by
  unfold update at h
  dsimp only at h
  cases haccept : r.store.accept change with
  | error e =>
    rw [haccept] at h
    cases h
  | ok s =>
    rw [haccept] at h
    cases h
    exact ⟨s, accept_eq_ok haccept, rfl⟩

theorem Reachable.update (h : Reachable kv r) (op : Store.Operation (HandlerName κ) γ σ)
    (hupdate : r.update (fun s => s.accept (op.run kv)) = .ok r') : Reachable kv r' := by
  obtain ⟨s, hrun, rfl⟩ := update_eq_ok hupdate
  have hnext := h.operate op
  rw [hrun] at hnext
  exact hnext

theorem Reachable.commit (h : Reachable kv r) (k : σ) : Reachable kv (r.commit kv k).2.1 :=
  h.operate (.commit k)

/-- Values of the permanent storage are taken over and the personality is repaired, also if one of
the two fails. -/
theorem Reachable.load (h : Reachable kv r) (k : σ) : Reachable kv (r.load kv k).2.1 := by
  have hloaded := h.operate (.load k)
  change Reachable kv { r with store := (r.store.load kv k).2.1 } at hloaded
  unfold Responder.load
  generalize r.store.load kv k = outcome at hloaded ⊢
  obtain ⟨_ | n, store, k'⟩ := outcome
  · exact hloaded
  · dsimp only at hloaded ⊢
    split
    next => exact hloaded
    next repaired hrepair =>
      unfold repairPersonality at hrepair
      split_ifs at hrepair
      · cases hrepair
        exact hloaded
      · exact hloaded.update (.set _ _) hrepair

end Responder

end LightingBus
