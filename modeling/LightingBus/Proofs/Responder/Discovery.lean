import LightingBus.Proofs.Packet.DiscoveryReply
import LightingBus.Proofs.Parameter.Invariant
import LightingBus.Proofs.Responder.Reachable
import LightingBus.Simulation.Storage

/-!
# Responders in a search

`handle_branch`, `handle_mute` and `handle_muteOther`: what a responder makes of the two requests of
a search. They are about every responder that keeps its own store (`Serving`): whatever happens to
its parameters, the definitions it was set up with stay in front of all others
(`Serving.builtins`), so discovery commands always reach their built-in handlers.
-/

namespace LightingBus

namespace Responder

variable {κ γ ω ε : Type} {r r' : Responder κ γ} {request : Request}
  {custom : κ → Handler κ γ ω} {fallback : Fallback κ γ ω ε} {lower upper : ℕ}

/-- A responder that was set up and whose store then went through operations. Notices are fetched,
and all but the store may change at will. -/
inductive Serving : Responder κ γ → Prop where
  | create {config : ResponderConfig} {capacities : Capacities} {r : Responder κ γ} :
    create config capacities = .ok r → Serving r
  | operate {σ : Type} (kv : KeyValueStorage σ) (op : Store.Operation (HandlerName κ) γ σ)
      {r : Responder κ γ} : Serving r → Serving { r with store := (op.run kv r.store).2 }
  | other {r r' : Responder κ γ} {notices : List (Notice γ)} :
    Serving r → r'.store = { r.store with notices := notices } → Serving r'

theorem Serving.of_store_eq (h : Serving r) (hstore : r'.store = r.store) : Serving r' := by
  have hnotices : r'.store = { r.store with notices := r.store.notices } := hstore
  exact h.other hnotices

/-! ## Built-in definitions -/

/-- A parameter that was not defined before is defined behind the others. -/
theorem definitions_of_define {d : ParameterDefinition (HandlerName κ)}
    {s s' : Store (HandlerName κ) γ} (hnew : d.pid ∉ s.pids) (h : s.define d = .ok s') :
    s'.definitions = s.definitions ++ [⟨d, none⟩] := by
  have hdefine := accept_eq_ok h
  unfold Store.Change.define at hdefine
  rw [Store.definition?_eq_none_iff.mpr hnew] at hdefine
  dsimp only at hdefine
  split_ifs at hdefine
  · cases hdefine
  · cases hdefine
    rfl

theorem definitions_of_defineAll (definitions : List (ParameterDefinition (HandlerName κ))) :
    ∀ {s s' : Store (HandlerName κ) γ},
      (s.pids ++ definitions.map ParameterDefinition.pid).Nodup →
      definitions.foldlM Store.define s = .ok s' →
        s'.definitions.map DefinitionSlot.definition =
          s.definitions.map DefinitionSlot.definition ++ definitions := by
  induction definitions with
  | nil =>
    intro s s' _ h
    cases h
    exact (List.append_nil _).symm
  | cons d definitions ih =>
    intro s s' hnodup h
    rw [List.foldlM_cons, bind_eq_ok] at h
    obtain ⟨defined, hd, h⟩ := h
    have hnew : d.pid ∉ s.pids := fun hmem =>
      (List.nodup_append.mp hnodup).2.2 _ hmem _ List.mem_cons_self rfl
    have hdefined := definitions_of_define hnew hd
    rw [ih _ h, hdefined, List.map_append, List.append_assoc]
    · rfl
    · rwa [Store.pids, hdefined, List.map_append, List.append_assoc]

theorem nodup_builtins : ((builtinDefinitions : List (ParameterDefinition (HandlerName κ))).map
    ParameterDefinition.pid).Nodup := by
  change List.Nodup [Pid.discUniqueBranch, Pid.discMute, Pid.discUnMute, Pid.supportedParameters,
    Pid.deviceInfo, Pid.softwareVersionLabel, Pid.identifyDevice, Pid.dmxStartAddress,
    Pid.dmxPersonality, Pid.dmxPersonalityDescription, Pid.deviceLabel, Pid.queuedMessage,
    Pid.statusMessages]
  decide

theorem definitions_addInstance {s s' : Store (HandlerName κ) γ} {key : Key}
    {storageClass : StorageClass} {value : Bytes}
    (h : s.addInstance key storageClass value = .ok s') : s'.definitions = s.definitions := by
  obtain ⟨_, _, _, _, -, -, -, -, -, -, -, -, rfl⟩ := Store.addInstance_eq_ok (accept_eq_ok h)
  rfl

/-- A new store has the built-in definitions. -/
theorem definitions_initialStore {config : ResponderConfig} {capacities : Capacities}
    {s : Store (HandlerName κ) γ} (h : initialStore config capacities = .ok s) :
    s.definitions.map DefinitionSlot.definition = builtinDefinitions := by
  unfold initialStore at h
  obtain ⟨s₁, h₁, h⟩ := bind_eq_ok.mp h
  obtain ⟨s₂, h₂, h⟩ := bind_eq_ok.mp h
  obtain ⟨s₃, h₃, h⟩ := bind_eq_ok.mp h
  obtain ⟨s₄, h₄, h⟩ := bind_eq_ok.mp h
  rw [definitions_addInstance h, definitions_addInstance h₄, definitions_addInstance h₃,
    definitions_addInstance h₂]
  exact definitions_of_defineAll builtinDefinitions (by exact nodup_builtins) h₁

theorem Serving.builtins (h : Serving r) : r.store.WellFormed ∧
    builtinDefinitions <+: r.store.definitions.map DefinitionSlot.definition := by
  induction h with
  | create hcreate =>
    unfold Responder.create at hcreate
    split_ifs at hcreate
    obtain ⟨s, hs, hcreate⟩ := bind_eq_ok.mp hcreate
    cases hcreate
    exact ⟨wellFormed_initialStore Simulation.MemoryStorage.keyValue hs,
      (definitions_initialStore hs).symm ▸ List.prefix_refl _⟩
  | operate kv op _ ih =>
    exact ⟨(Store.step_refines kv op ih.1).1, ih.2.trans (Store.grows_run kv op _).definitions⟩
  | other _ hstore ih =>
    rw [hstore]
    exact ⟨{ ih.1 with }, ih.2⟩

theorem Serving.definition? (h : Serving r) {d : ParameterDefinition (HandlerName κ)}
    (hd : d ∈ builtinDefinitions) : r.store.definition? d.pid = some d := by
  obtain ⟨hwell, further, hfurther⟩ := h.builtins
  obtain ⟨n, hn⟩ := List.getElem?_of_mem hd
  refine (Store.definition?_eq_some_iff hwell.pids_nodup).mpr ⟨n, ?_, rfl⟩
  obtain ⟨hlt, -⟩ := List.getElem?_eq_some_iff.mp hn
  rw [Store.definitionAt?, ← List.getElem?_map, ← hfurther, List.getElem?_append_left hlt, hn]

/-! ## Discovery commands -/

/-- A discovery command reaches its built-in handler. -/
theorem handle_discovery (h : Serving r) (handler : Builtin)
    (hd : (discoveryParameter request.pid handler : ParameterDefinition (HandlerName κ)) ∈
      builtinDefinitions)
    (htargets : request.destination.targets r.uid = true)
    (hclass : request.commandClass = .discovery)
    (hpid : discoveryPids.contains request.pid = true) (w : ω) :
    handle custom fallback request r w = (conclude request (handler.run request r).2
      (handler.run request r).1, (handler.run request r).2, w) := by
  have hignores : r.ignores request = false := by
    rw [ignores, htargets, hclass, hpid]
    rfl
  have hdefinition : r.store.definition? request.pid =
      some (discoveryParameter request.pid handler) := h.definition? hd
  have hdispatch : dispatch custom (discoveryParameter request.pid handler) request r w =
      ((handler.run request r).1, (handler.run request r).2, w) := by
    rw [dispatch, hclass]
    rfl
  rw [handle, hignores, hdefinition]
  dsimp only
  rw [if_neg Bool.false_ne_true, hdispatch]

/-- A device that is not muted answers a search of a range that holds its identifier. -/
def Answers (lower upper : ℕ) (r : Responder κ γ) : Prop :=
  r.muted = false ∧ lower ≤ r.uid.toNat ∧ r.uid.toNat ≤ upper

instance : Decidable (Answers lower upper r) :=
  inferInstanceAs (Decidable (_ ∧ _ ∧ _))

theorem discUniqueBranch_eq (hlower : lower ≤ Uid.broadcastNumber)
    (hupper : upper ≤ Uid.broadcastNumber)
    (hdata : request.data.bytes = Controller.boundBytes lower ++ Controller.boundBytes upper) :
    discUniqueBranch request r = .done (if Answers lower upper r then .discovery else .silent) := by
  obtain ⟨low, hlow, hlownumber⟩ := Controller.toNat_of_boundBytes hlower
  obtain ⟨high, hhigh, hhighnumber⟩ := Controller.toNat_of_boundBytes hupper
  unfold discUniqueBranch
  dsimp only
  rw [hdata, List.take_left' (Controller.length_boundBytes lower),
    List.drop_left' (Controller.length_boundBytes lower), hlow, hhigh]
  dsimp only
  rw [hlownumber, hhighnumber, apply_ite Verdict.done]
  exact if_congr (and_congr_left' (Iff.of_eq (Bool.not_eq_true _))) rfl rfl

/-- The bounds that a controller writes are the bounds that the device reads. -/
theorem handle_branch (h : Serving r) {c : Controller} {transaction : UInt8}
    (hrequest : c.message .discovery (Controller.branchInquiry lower upper) transaction =
      .request request)
    (hlower : lower ≤ Uid.broadcastNumber) (hupper : upper ≤ Uid.broadcastNumber) (w : ω) :
    handle custom fallback request r w =
      (.answered (if Answers lower upper r then .discovery r.uid else .silent), r, w) := by
  obtain rfl := Message.request.inj hrequest
  rw [handle_discovery h .discUniqueBranch List.mem_cons_self rfl rfl rfl, Builtin.run,
    discUniqueBranch_eq hlower hupper rfl]
  split_ifs <;> rfl

/-- The device that is told to be muted is muted and responds with what it says about itself. -/
theorem handle_mute (h : Serving r) {c : Controller} {transaction : UInt8}
    (hrequest : c.message .discovery (.bare (.device r.uid) Pid.discMute) transaction =
      .request request) (w : ω) :
    handle custom fallback request r w =
      (.answered (.response (request.respondAs r.uid .ack (.ofBytes r.muteReply.encode)
        r.messageCount)), { r with muted := true }, w) := by
  obtain rfl := Message.request.inj hrequest
  have htargets : (Address.device r.uid).targets r.uid = true := decide_eq_true rfl
  rw [handle_discovery h .discMute (List.mem_cons_of_mem _ List.mem_cons_self) htargets rfl rfl]
  rfl

/-- A device passes over what another one is told. -/
theorem handle_muteOther {c : Controller} {transaction : UInt8} {uid : Uid} (hother : r.uid ≠ uid)
    (hrequest : c.message .discovery (.bare (.device uid) Pid.discMute) transaction =
      .request request) (w : ω) :
    handle custom fallback request r w = (.answered .silent, r, w) := by
  obtain rfl := Message.request.inj hrequest
  have htargets : (Address.device uid).targets r.uid = false := decide_eq_false hother.symm
  refine if_pos ?_
  change (!(Address.device uid).targets r.uid || _) = true
  rw [htargets]
  rfl

end Responder

end LightingBus
