import LightingBus.Proofs.Discovery.Sweep
import LightingBus.Proofs.Packet.RoundTrip
import LightingBus.Proofs.Responder.Discovery
import LightingBus.Proofs.Responder.FanOut

/-!
# Sweeping a bus of responders

`sweepAll_unmuted`: a sweep of a bus of responders finds exactly those that are not muted, in
ascending order, and leaves all of them muted, so that a second sweep finds nobody.

1. `ResponderBus.bus` connects a controller with responders: its requests are written, read and
   handled by every responder, and their answers are written and read (`askAll`, `overheard`).
2. `ask_branch` and `ask_mute` say what the responders make of the two requests of a search. The
   answers for a range come from the census of the range (`perm_answering`), so the bus is truthful
   (`truthful`).
3. Six bytes hold no number beyond that of the broadcast, so the bus is truthful only up to there,
   and a sweep of all devices asks no further.
-/

namespace LightingBus

open Discovery

/-- Responders at one line, the world they act on and the next transaction number of whoever
searches them. -/
structure ResponderBus (κ γ ω : Type) where
  responders : List (Responder κ γ)
  world : ω
  transaction : UInt8

namespace ResponderBus

variable {κ γ ω ε : Type}

/-! ## The bus -/

/-- Hands a request to responders in order. -/
def askEach (custom : κ → Responder.Handler κ γ ω) (fallback : Responder.Fallback κ γ ω ε)
    (request : Request) :
    List (Responder κ γ) → ω → List (Responder.Outcome ε) × List (Responder κ γ) × ω
  | [], w => ([], [], w)
  | r :: rest, w =>
    let (outcome, r, w) := Responder.handle custom fallback request r w
    let (outcomes, rest, w) := askEach custom fallback request rest w
    (outcome :: outcomes, r :: rest, w)

/-- Puts a message on the line. Every responder reads the packet and handles the request in it. -/
def askAll (custom : κ → Responder.Handler κ γ ω) (fallback : Responder.Fallback κ γ ω ε)
    (message : Message) (b : ResponderBus κ γ ω) :
    List (Responder.Outcome ε) × ResponderBus κ γ ω :=
  match Message.decode message.encode with
  | .ok (.request request) =>
    let (outcomes, responders, w) := askEach custom fallback request b.responders b.world
    (outcomes, ⟨responders, w, b.transaction + 1⟩)
  | _ => ([], { b with transaction := b.transaction + 1 })

/-- The device that replied to a search. -/
def replied : Responder.Outcome ε → Option Uid
  | .answered (.discovery uid) => some uid
  | _ => none

/-- The responder sent a response. -/
def responded : Responder.Outcome ε → Bool
  | .answered (.response _) => true
  | _ => false

/-- What is heard of the devices that reply at once. -/
def overheard : List Uid → Branch
  | [] => .nobody
  | [uid] =>
    match DiscoveryReply.decode (DiscoveryReply.encode uid) with
    | .ok uid => .found uid
    | .error _ => .collision
  | _ => .collision

/-- Responders as a bus that the controller `c` searches. -/
def bus (c : Controller) (custom : κ → Responder.Handler κ γ ω)
    (fallback : Responder.Fallback κ γ ω ε) : Bus (ResponderBus κ γ ω) Empty where
  branch lower upper b :=
    let inquiry := Controller.branchInquiry lower upper
    let (outcomes, b) := askAll custom fallback (c.message .discovery inquiry b.transaction) b
    (.ok (overheard (outcomes.filterMap replied)), b)
  mute uid b :=
    let inquiry := Inquiry.bare (.device uid) Pid.discMute
    let (outcomes, b) := askAll custom fallback (c.message .discovery inquiry b.transaction) b
    (.ok (outcomes.any responded), b)

variable {c : Controller} {custom : κ → Responder.Handler κ γ ω}
  {fallback : Responder.Fallback κ γ ω ε} {b b' : ResponderBus κ γ ω} {lower upper : ℕ} {uid : Uid}
  {silenced : List Uid} {responders : List (Responder κ γ)}

/-! ## Two requests -/

/-- What every responder does by itself is what the bus does. -/
theorem askEach_eq {request : Request} (f : Responder κ γ → Responder.Outcome ε)
    (g : Responder κ γ → Responder κ γ)
    (h : ∀ r ∈ responders, ∀ w, Responder.handle custom fallback request r w = (f r, g r, w))
    (w : ω) :
    askEach custom fallback request responders w = (responders.map f, responders.map g, w) := by
  induction responders with
  | nil => rfl
  | cons r rest ih =>
    obtain ⟨hr, hrest⟩ := List.forall_mem_cons.mp h
    rw [askEach, hr w]
    dsimp only
    rw [ih hrest]
    rfl

/-- All responders read what the controller wrote. -/
theorem askAll_message {inquiry : Inquiry} {transaction : UInt8} {request : Request}
    (hrequest : c.message .discovery inquiry transaction = .request request)
    (hdestination : inquiry.destination ≠ .manufacturer 0xFFFF)
    (f : Responder κ γ → Responder.Outcome ε) (g : Responder κ γ → Responder κ γ)
    (h : ∀ r ∈ b.responders, ∀ w, Responder.handle custom fallback request r w = (f r, g r, w)) :
    askAll custom fallback (c.message .discovery inquiry transaction) b =
      (b.responders.map f, ⟨b.responders.map g, b.world, b.transaction + 1⟩) := by
  have hread : Message.decode (c.message .discovery inquiry transaction).encode =
      .ok (c.message .discovery inquiry transaction) := Message.decode_encode hdestination
  unfold askAll
  rw [hread, hrequest]
  dsimp only
  rw [askEach_eq f g h]

/-- Those that answer a search, in the order of the bus. -/
def answering (b : ResponderBus κ γ ω) (lower upper : ℕ) : List Uid :=
  (b.responders.filter fun r => r.Answers lower upper).map Responder.uid

/-- What a responder makes of a search. -/
def searched (lower upper : ℕ) (r : Responder κ γ) : Responder.Outcome ε :=
  .answered (if r.Answers lower upper then .discovery r.uid else .silent)

variable (c custom fallback)

theorem ask_branch (hserving : ∀ r ∈ b.responders, r.Serving) (hlower : lower ≤ Uid.broadcastNumber)
    (hupper : upper ≤ Uid.broadcastNumber) (transaction : UInt8) :
    askAll custom fallback
        (c.message .discovery (Controller.branchInquiry lower upper) transaction) b =
      (b.responders.map (searched lower upper), { b with transaction := b.transaction + 1 }) := by
  have hasked : askAll custom fallback
      (c.message .discovery (Controller.branchInquiry lower upper) transaction) b =
      (b.responders.map (searched lower upper),
        ⟨b.responders.map id, b.world, b.transaction + 1⟩) :=
    askAll_message rfl (by exact nofun) _ id fun r hr w =>
      Responder.handle_branch (hserving r hr) rfl hlower hupper w
  rwa [List.map_id] at hasked

theorem filterMap_replied (responders : List (Responder κ γ)) :
    (responders.map (searched lower upper : _ → Responder.Outcome ε)).filterMap replied =
      (responders.filter fun r => r.Answers lower upper).map Responder.uid := by
  induction responders with
  | nil => rfl
  | cons r rest ih =>
    rw [List.map_cons, List.filterMap_cons, ih, List.filter_cons]
    by_cases hr : r.Answers lower upper
    · simp only [searched, replied, if_pos hr, decide_eq_true hr]
      rfl
    · simp only [searched, replied, if_neg hr, decide_eq_false hr]
      rfl

theorem branch_eq (hserving : ∀ r ∈ b.responders, r.Serving) (hlower : lower ≤ Uid.broadcastNumber)
    (hupper : upper ≤ Uid.broadcastNumber) :
    (bus c custom fallback).branch lower upper b =
      (.ok (overheard (b.answering lower upper)), { b with transaction := b.transaction + 1 }) := by
  simp only [bus, ask_branch c custom fallback hserving hlower hupper, filterMap_replied, answering]

/-- Responders after some identifiers have been muted. -/
def silence (silenced : List Uid) (responders : List (Responder κ γ)) : List (Responder κ γ) :=
  responders.map fun r => { r with muted := r.muted || silenced.contains r.uid }

/-- What a responder makes of being told, as the device `uid`, to be muted. -/
def told (request : Request) (uid : Uid) (r : Responder κ γ) : Responder.Outcome ε :=
  .answered <| if r.uid = uid then
      .response (request.respondAs r.uid .ack (.ofBytes r.muteReply.encode) r.messageCount)
    else .silent

theorem ask_mute (hserving : ∀ r ∈ b.responders, r.Serving) (uid : Uid) (transaction : UInt8) :
    ∃ request, askAll custom fallback
        (c.message .discovery (.bare (.device uid) Pid.discMute) transaction) b =
      (b.responders.map (told request uid),
        ⟨silence [uid] b.responders, b.world, b.transaction + 1⟩) := by
  obtain ⟨request, hrequest⟩ : ∃ request, c.message .discovery
      (.bare (.device uid) Pid.discMute) transaction = .request request := ⟨_, rfl⟩
  refine ⟨request, askAll_message hrequest (by exact nofun) _ _ fun r hr w => ?_⟩
  by_cases huid : r.uid = uid
  · subst huid
    have hmuted : (r.muted || [r.uid].contains r.uid) = true := by simp
    rw [Responder.handle_mute (hserving r hr) hrequest, told, if_pos rfl, hmuted]
  · have hmuted : (r.muted || [uid].contains r.uid) = r.muted := by simp [huid]
    rw [Responder.handle_muteOther huid hrequest, told, if_neg huid, hmuted]

theorem any_responded (request : Request) (uid : Uid) (responders : List (Responder κ γ)) :
    (responders.map (told request uid : _ → Responder.Outcome ε)).any responded =
      responders.any fun r => r.uid = uid := by
  rw [List.any_map]
  congr 1
  funext r
  by_cases huid : r.uid = uid
  · simp [told, responded, huid]
  · simp [told, responded, huid]

theorem mute_eq (hserving : ∀ r ∈ b.responders, r.Serving) (uid : Uid) :
    (bus c custom fallback).mute uid b = (.ok (b.responders.any fun r => r.uid = uid),
      ⟨silence [uid] b.responders, b.world, b.transaction + 1⟩) := by
  obtain ⟨request, hasked⟩ := ask_mute c custom fallback hserving uid b.transaction
  simp only [bus, hasked, any_responded]

/-! ## The census -/

/-- The identifiers of the responders that are not muted, in ascending order. -/
def unmuted (b : ResponderBus κ γ ω) : List Uid :=
  ((b.responders.filter fun r => !r.muted).map Responder.uid).mergeSort Uid.le

/-- Every responder confirms that it is muted. -/
def census (b : ResponderBus κ γ ω) (hdistinct : (b.responders.map Responder.uid).Nodup) :
    Census where
  audible := b.unmuted
  ascending := ascending_mergeSort ((List.filter_sublist.map _).nodup hdistinct)
  deaf _ := false

variable {c custom fallback} {hdistinct : (b.responders.map Responder.uid).Nodup}

theorem mem_unmuted : uid ∈ b.unmuted ↔ ∃ r ∈ b.responders, r.muted = false ∧ r.uid = uid := by
  simp [unmuted, and_assoc]

/-- Those that answer a search are those of the census in the range. -/
theorem perm_answering :
    ((b.census hdistinct).between lower upper).Perm (b.answering lower upper) := by
  have hsorted : ((b.census hdistinct).between lower upper).Perm
      (((b.responders.filter fun r => !r.muted).map Responder.uid).filter
        fun uid => lower ≤ uid.toNat && uid.toNat ≤ upper) :=
    (List.mergeSort_perm _ _).filter _
  refine hsorted.trans (.of_eq ?_)
  rw [List.filter_map, List.filter_filter, answering]
  congr 1
  refine List.filter_congr fun r _ => ?_
  rw [Bool.eq_iff_iff]
  simp only [Function.comp_apply, Bool.and_eq_true, decide_eq_true_eq, Bool.not_eq_true']
  exact and_comm

/-- What is heard tells of the census what the replies tell. -/
theorem explains_overheard {census : Census} {uids : List Uid}
    (h : (census.between lower upper).Perm uids) :
    census.Explains lower upper (overheard uids) := by
  rcases uids with _ | ⟨uid, _ | ⟨other, uids⟩⟩
  · exact h.eq_nil
  · have hfound : overheard [uid] = .found uid := by
      rw [overheard, DiscoveryReply.decode_encode]
    rw [hfound]
    exact List.perm_singleton.mp h
  · -- two devices have two numbers, so they do not lie in a range of one number
    rintro rfl
    have hnodup : (uid :: other :: uids).Nodup := h.nodup_iff.mp <|
      (census.ascending.filter _).imp fun hlt heq => (heq ▸ hlt).ne rfl
    have hrange : ∀ u ∈ uid :: other :: uids, u.toNat = lower := fun u hu => by
      obtain ⟨-, hlow, hhigh⟩ := Census.mem_between.mp (h.mem_iff.mpr hu)
      exact le_antisymm hhigh hlow
    refine absurd ?_ (List.nodup_cons.mp hnodup).1
    rw [Uid.toNat_inj.mp ((hrange uid (by simp)).trans (hrange other (by simp)).symm)]
    exact List.mem_cons_self

/-! ## Muting -/

/-- The bus is `b`, on which some identifiers have been muted since. -/
def Silenced (b : ResponderBus κ γ ω) (silenced : List Uid) (b' : ResponderBus κ γ ω) : Prop :=
  b'.responders = silence silenced b.responders

theorem silence_nil (responders : List (Responder κ γ)) : silence [] responders = responders := by
  simp [silence]

theorem silence_append (responders : List (Responder κ γ)) :
    silence [uid] (silence silenced responders) = silence (silenced ++ [uid]) responders := by
  simp only [silence, List.map_map]
  refine List.map_congr_left fun r _ => ?_
  simp [Responder.uid, Bool.or_assoc]

theorem serving_silence (hserving : ∀ r ∈ responders, r.Serving) (silenced : List Uid) :
    ∀ r ∈ silence silenced responders, r.Serving := by
  intro r hr
  obtain ⟨r, hmem, rfl⟩ := List.mem_map.mp hr
  exact (hserving r hmem).of_store_eq rfl

/-- Devices that were muted below a range make no difference to who answers in it. -/
theorem Silenced.answering (h : b.Silenced silenced b')
    (hbelow : ∀ uid ∈ silenced, uid.toNat < lower) :
    b'.answering lower upper = b.answering lower upper := by
  rw [ResponderBus.answering, h, silence, List.filter_map, List.map_map]
  refine congrArg₂ List.map rfl (List.filter_congr fun r _ => ?_)
  by_cases hmem : r.uid ∈ silenced
  · have hlower : ¬ lower ≤ r.uid.toNat := Nat.not_le.mpr (hbelow r.uid hmem)
    have hnot {muted : Bool} : ¬ Responder.Answers lower upper { r with muted := muted } :=
      fun hanswers => hlower hanswers.2.1
    exact (decide_eq_false hnot).trans (decide_eq_false hnot).symm
  · have hsame : (r.muted || silenced.contains r.uid) = r.muted := by simp [hmem]
    simp only [Function.comp_apply, hsame]

theorem Silenced.serving (h : b.Silenced silenced b') (hserving : ∀ r ∈ b.responders, r.Serving) :
    ∀ r ∈ b'.responders, r.Serving := by
  rw [h]
  exact serving_silence hserving silenced

/-- A bus of responders answers truthfully for its census. -/
theorem truthful (hserving : ∀ r ∈ b.responders, r.Serving) :
    Truthful ((bus c custom fallback).upTo Uid.largest) (b.census hdistinct) b.Silenced where
  branch {silenced b' lower upper} h hbelow hle := by
    by_cases hupper : upper ≤ Uid.largest
    · have hbound : upper ≤ Uid.broadcastNumber := hupper.trans (by decide)
      have hbranch := branch_eq c custom fallback (h.serving hserving) (hle.trans hbound) hbound
      rw [h.answering hbelow] at hbranch
      exact ⟨overheard (b.answering lower upper), { b' with transaction := b'.transaction + 1 },
        (if_pos hupper).trans hbranch, h, explains_overheard perm_answering⟩
    · refine ⟨.collision, b', if_neg hupper, h, ?_⟩
      rintro rfl
      rw [List.eq_nil_iff_forall_not_mem]
      intro uid huid
      have hrange := (Census.mem_between.mp huid).2
      have hlargest := uid.toNat_le_largest
      omega
  mute {silenced b' uid} h huid := by
    have hmute := mute_eq c custom fallback (h.serving hserving) uid
    have hthere : b'.responders.any (fun r => r.uid = uid) = true := by
      obtain ⟨r, hr, -, rfl⟩ := mem_unmuted.mp huid
      rw [h]
      exact List.any_eq_true.mpr ⟨_, List.mem_map_of_mem hr, decide_eq_true rfl⟩
    have hsilenced : silence [uid] b'.responders = silence (silenced ++ [uid]) b.responders := by
      rw [h, silence_append]
    rw [hthere] at hmute
    exact ⟨_, hmute, hsilenced⟩

/-! ## Sweeping -/

/-- Every device confirms, and every device has a number that a sweep asks for. -/
theorem confirming_census : (b.census hdistinct).confirming 0 Uid.largest = b.unmuted := by
  have hall : ∀ uid ∈ b.unmuted, (decide (0 ≤ uid.toNat) && decide (uid.toNat ≤ Uid.largest)) := by
    intro uid _
    simp [uid.toNat_le_largest]
  rw [Census.confirming, Census.between]
  change ((b.unmuted.filter _).filter fun _ => true) = b.unmuted
  rw [List.filter_true, List.filter_eq_self.mpr hall]

/-- A sweep of all devices fills the slots with those that are not muted, and mutes them. -/
theorem sweepAll_eq (c : Controller) (custom : κ → Responder.Handler κ γ ω)
    (fallback : Responder.Fallback κ γ ω ε) (hserving : ∀ r ∈ b.responders, r.Serving)
    (hdistinct : (b.responders.map Responder.uid).Nodup) (slots : List Uid) :
    let run := sweepAll (bus c custom fallback) slots b
    run.result = .ok (min slots.length b.unmuted.length) ∧
      run.slots = b.unmuted.take slots.length ++ slots.drop b.unmuted.length ∧
      run.bus.responders = silence (b.unmuted.take slots.length) b.responders := by
  have hswept : Swept (b.census hdistinct) b.Silenced 0 Uid.largest slots
      ({} : Stats).muteFailures [] (sweepAll (bus c custom fallback) slots b) := by
    rw [sweepAll, ← sweep_upTo _ le_rfl]
    exact sweep_swept (truthful hserving) (silence_nil _).symm (by simp)
  obtain ⟨hresult, hfilled, hmuted, -⟩ := hswept
  rw [confirming_census] at hresult hfilled hmuted
  exact ⟨hresult, hfilled, hmuted⟩

theorem length_unmuted_le : b.unmuted.length ≤ b.responders.length := by
  rw [unmuted, List.length_mergeSort, List.length_map]
  exact List.length_filter_le _ _

/-- Those that were not muted before are those that are muted now. -/
theorem silence_unmuted : silence b.unmuted b.responders =
    b.responders.map fun r => { r with muted := true } := by
  refine List.map_congr_left fun r hr => ?_
  have hmuted : (r.muted || b.unmuted.contains r.uid) = true := by
    cases hm : r.muted with
    | true => rfl
    | false => simpa using mem_unmuted.mpr ⟨r, hr, hm, rfl⟩
  rw [hmuted]

/-- On a bus of responders with different identifiers, a sweep with a slot for each of them finds
exactly those that are not muted, in ascending order, and leaves all of them muted. A second sweep
finds nobody. -/
theorem sweepAll_unmuted (c : Controller) (custom : κ → Responder.Handler κ γ ω)
    (fallback : Responder.Fallback κ γ ω ε) (b : ResponderBus κ γ ω)
    (hserving : ∀ r ∈ b.responders, r.Serving)
    (hdistinct : (b.responders.map Responder.uid).Nodup) (slots : List Uid)
    (hslots : b.responders.length ≤ slots.length) :
    ∃ found : List Uid,
      (∀ uid, uid ∈ found ↔ ∃ r ∈ b.responders, r.muted = false ∧ r.uid = uid) ∧
      (found.Pairwise fun a b => a.toNat < b.toNat) ∧
      let run := sweepAll (bus c custom fallback) slots b
      run.result = .ok found.length ∧ run.slots = found ++ slots.drop found.length ∧
      run.bus.responders = b.responders.map (fun r => { r with muted := true }) ∧
      ∀ more : List Uid,
        let again := sweepAll (bus c custom fallback) more run.bus
        again.result = .ok 0 ∧ again.slots = more := by
  refine ⟨b.unmuted, fun uid => mem_unmuted, (b.census hdistinct).ascending, ?_⟩
  have hroom : b.unmuted.length ≤ slots.length := length_unmuted_le.trans hslots
  obtain ⟨hresult, hfilled, hmuted⟩ := sweepAll_eq c custom fallback hserving hdistinct slots
  rw [Nat.min_eq_right hroom] at hresult
  rw [List.take_of_length_le hroom] at hfilled hmuted
  have hserving' := Silenced.serving hmuted hserving
  rw [silence_unmuted] at hmuted
  refine ⟨hresult, hfilled, hmuted, fun more => ?_⟩
  -- nobody is left who is not muted
  generalize (sweepAll (bus c custom fallback) slots b).bus = b' at hserving' hmuted
  have hnobody : b'.unmuted = [] := by
    rw [List.eq_nil_iff_forall_not_mem]
    intro uid huid
    obtain ⟨r, hr, hm, -⟩ := mem_unmuted.mp huid
    rw [hmuted] at hr
    obtain ⟨r, -, rfl⟩ := List.mem_map.mp hr
    cases hm
  have hdistinct' : (b'.responders.map Responder.uid).Nodup := by
    rw [hmuted, List.map_map]
    exact hdistinct
  obtain ⟨hresult', hfilled', -⟩ := sweepAll_eq c custom fallback hserving' hdistinct' more
  rw [hnobody, List.length_nil, Nat.min_zero] at hresult'
  rw [hnobody, List.take_nil, List.nil_append, List.length_nil, List.drop_zero] at hfilled'
  exact ⟨hresult', hfilled'⟩

/-- A device of one manufacturer. -/
def exampleUid (device : Fin 4) : Uid :=
  ⟨0x7FF0, UInt32.ofNat device, by revert device; decide⟩

def exampleConfig (device : Fin 4) : ResponderConfig :=
  { Responder.exampleConfig with uid := exampleUid device }

theorem exists_freshResponder (device : Fin 4) :
    (Responder.create (exampleConfig device) ⟨16, 4, 8, 128⟩ :
      Except ParameterError (Responder Empty Empty)).toOption.isSome = true := by
  revert device
  decide +kernel

/-- A device as it is set up. -/
def freshResponder (device : Fin 4) : Responder Empty Empty :=
  (Responder.create (exampleConfig device) ⟨16, 4, 8, 128⟩).toOption.get
    (exists_freshResponder device)

/-- The device after it was found, or not. -/
def exampleResponder (device : Fin 4) (muted : Bool) : Responder Empty Empty :=
  { freshResponder device with muted := muted }

theorem uid_exampleResponder (device : Fin 4) (muted : Bool) :
    (exampleResponder device muted).uid = exampleUid device := by
  revert device muted
  decide +kernel

theorem serving_exampleResponder (device : Fin 4) (muted : Bool) :
    (exampleResponder device muted).Serving := by
  have hfresh : (freshResponder device).Serving :=
    .create (Responder.eq_ok_get (exists_freshResponder device))
  exact hfresh.of_store_eq (by rw [exampleResponder])

/-- Two devices that can be found and one that is muted. -/
def exampleBus : ResponderBus Empty Empty Unit :=
  ⟨[exampleResponder 3 false, exampleResponder 2 true, exampleResponder 1 false], (), 0⟩

/-- Whoever searches them. -/
def exampleController : Controller :=
  .create (exampleUid 0) 1

theorem sweepAll_exampleBus :
    let run := sweepAll (bus exampleController Empty.elim
      (Responder.noFallback : Responder.Fallback Empty Empty Unit Empty))
      (List.replicate 3 (exampleUid 0)) exampleBus
    run.result = .ok 2 ∧ run.slots = [exampleUid 1, exampleUid 3, exampleUid 0] ∧
      run.bus.responders = [exampleResponder 3 true, exampleResponder 2 true,
        exampleResponder 1 true] := by
  have hserving : ∀ r ∈ exampleBus.responders, r.Serving := by
    simp [exampleBus, serving_exampleResponder]
  have hdistinct : (exampleBus.responders.map Responder.uid).Nodup := by
    simp only [exampleBus, List.map_cons, List.map_nil, uid_exampleResponder]
    decide
  obtain ⟨found, hfound, hascending, hresult, hslots, hmuted, -⟩ := sweepAll_unmuted
    exampleController Empty.elim (Responder.noFallback : Responder.Fallback Empty Empty Unit Empty)
    exampleBus hserving hdistinct (List.replicate 3 (exampleUid 0)) le_rfl
  have hfound' : found = [exampleUid 1, exampleUid 3] := by
    refine hascending.eq_of_mem_iff (by decide) fun uid => ?_
    rw [hfound]
    have hmuted (device : Fin 4) (muted : Bool) : (exampleResponder device muted).muted = muted :=
      rfl
    simp only [exampleBus, List.mem_cons, List.not_mem_nil, or_false, exists_eq_or_imp,
      exists_eq_left, uid_exampleResponder, hmuted, true_and, Bool.true_eq_false, false_and,
      false_or]
    exact or_comm.trans (or_congr eq_comm eq_comm)
  subst hfound'
  exact ⟨hresult, hslots, hmuted⟩

end ResponderBus

end LightingBus
