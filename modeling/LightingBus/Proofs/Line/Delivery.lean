import LightingBus.Proofs.Line.Transmission
import LightingBus.Receiver

/-!
# What tasks put on the line

A task fills the frame buffer in one step and has it sent in another. A reception that completes
between the two exchanges the buffers. `delivery`: where none does, the line gets the frame that the
task means, or a first part of it; `sendPackage_overtaken` is a run where one does.

1. `Spares` says that no reception completes behind a beginning of a task. There are interrupts that
   complete none (`spared_of_events`), and ports where none can (`Deaf.spares`).
2. `Filled` is what stands between the two steps, as long as the port is spared.
3. `Delivers` is what stands from the second step on; `ensures_waitSent` waits for the whole frame.
4. `ends_sendPackage`, `ensures_sendMessage` and `ensures_sendAnswer` follow the tasks, and
   `Delivered` is what can be said of them all.
-/

namespace LightingBus

variable {σ ε α β : Type}

namespace Port

/-! ## Receptions that complete -/

section Receptions

variable {line : Transport σ ε} {p q : Port σ ε} {a : α}

/-- What interrupts the next step of a task completes no frame: the front buffer stays where it
is. -/
def Spared (line : Transport σ ε) (p : Port σ ε) : Prop :=
  (interrupted line p).engine.front = p.engine.front

/-- If this beginning of a task ends well, what interrupts the step behind it completes no frame. -/
def Spares (line : Transport σ ε) (beginning : PortM σ ε α) (p : Port σ ε) : Prop :=
  ∀ a q, exec beginning p = (.ok a, q) → q.Spared line

theorem spares_of_spared {beginning : PortM σ ε α} (h : (exec beginning p).2.Spared line) :
    p.Spares line beginning := by
  intro a q hq
  rw [hq] at h
  exact h

/-- Events that leave the front buffer alone one by one leave it alone together. -/
theorem front_foldEvents {I : Port σ ε → Prop} {events : List Event}
    (hstep : ∀ p, I p → ∀ event ∈ events, I (p.onEvent line event) ∧
      (p.onEvent line event).engine.front = p.engine.front) (h : I p) :
    I (events.foldl (Port.onEvent line) p) ∧
      (events.foldl (Port.onEvent line) p).engine.front = p.engine.front := by
  induction events generalizing p with
  | nil => exact ⟨h, rfl⟩
  | cons event events ih =>
    obtain ⟨hI, hfront⟩ := hstep p h event List.mem_cons_self
    obtain ⟨hI', hfront'⟩ :=
      ih (fun p h event hmem => hstep p h event (List.mem_cons_of_mem _ hmem)) hI
    exact ⟨hI', hfront'.trans hfront⟩

/-- A port that sends nothing is spared by all interrupts but breaks, received bytes and silence;
whether it is by these depends on what it has received. -/
theorem spared_of_events (hidle : p.engine.isSending = false)
    (hevents : ∀ event ∈ (line.interrupts p.world).1, event.completesFrame = false) :
    p.Spared line := by
  have hleaves : ∀ q : Port σ ε, q.engine.isSending = false →
      ∀ event ∈ (line.interrupts p.world).1, (q.onEvent line event).engine.isSending = false ∧
        (q.onEvent line event).engine.front = q.engine.front := by
    intro q hidle event hmem
    rw [onEvent_eq]
    exact ⟨Engine.isSending_onEvent line event q.world hidle,
      Engine.front_onEvent line q.world hidle (hevents event hmem)⟩
  have hworld : { p with world := (line.interrupts p.world).2 }.engine.isSending = false := hidle
  exact (front_foldEvents hleaves hworld).2

/-- A longer beginning goes on behind a shorter one. -/
theorem Spares.behind {beginning : PortM σ ε α} {next : α → PortM σ ε β}
    (h : p.Spares line (beginning >>= next)) (hexec : exec beginning p = (.ok a, q)) :
    q.Spares line (next a) := by
  intro b q' hq'
  refine h b q' ?_
  rw [exec_bind, hexec]
  exact hq'

/-- The port keeps the line for sending, so nothing is received. -/
def HoldsLine (p : Port σ ε) : Prop :=
  p.engine.mode = .transmit ∧ p.engine.isReceiving = false

/-- Nothing is sent, and nothing is received. -/
structure Deaf (p : Port σ ε) : Prop where
  idle : p.engine.isSending = false
  holds : p.HoldsLine

theorem Deaf.onEvent (h : p.Deaf) (line : Transport σ ε) (kind : Event) :
    (p.onEvent line kind).Deaf ∧ (p.onEvent line kind).engine.front = p.engine.front := by
  have hlistens := (Engine.hears_onEvent line.accounts_true h.idle kind (w := p.world)).listens
  obtain ⟨hmode, hsilent⟩ := h.holds
  obtain ⟨hfront, hsilent'⟩ := hlistens.deaf hmode hsilent
  rw [onEvent_eq]
  exact ⟨⟨(Engine.isSending_congr hlistens.txState).trans h.idle, hlistens.mode.trans hmode,
    hsilent'⟩, hfront⟩

theorem Deaf.interrupted (h : p.Deaf) (line : Transport σ ε) :
    (Port.interrupted line p).Deaf ∧ p.Spared line := by
  have hworld : Deaf { p with world := (line.interrupts p.world).2 } := ⟨h.idle, h.holds⟩
  exact front_foldEvents (fun _ h event _ => h.onEvent line event) hworld

theorem stable_deaf (line : Transport σ ε) : Stable line Deaf where
  interrupted h := (h.interrupted line).1
  now h := ⟨h.idle, h.holds⟩
  lockDepth _ h := ⟨h.idle, h.holds⟩

theorem ensures_writeAt_deaf (line : Transport σ ε) (offset : ℕ) (bytes : Bytes) :
    Ensures Deaf (writeAt line offset bytes) (fun _ => Deaf) fun _ _ => True :=
  .withFront (fun _ h => (h.interrupted line).1) (fun _ _ _ => trivial)
    fun _ h _ => ⟨h.idle, h.holds⟩

/-- A task that begins in front of a deaf port, and leaves it deaf, is spared. -/
theorem Deaf.spares (h : p.Deaf) {beginning : PortM σ ε α}
    (hdeaf : Ensures Deaf beginning (fun _ => Deaf) fun _ _ => True) :
    p.Spares line beginning := by
  intro a q hq
  have hend := hdeaf p h
  rw [hq] at hend
  have hdeaf' : q.Deaf := hend
  exact (hdeaf'.interrupted line).2

end Receptions

variable {line : Transport σ ε} {base bytes more frame : Bytes} {p q : Port (Tape σ) ε}

/-- Where no frame is sent, nothing is accepted, whatever else is done. -/
theorem receiving_rests (line : Transport σ ε) (accepted : Bytes) :
    Kept.Receiving line.taped (Rests accepted) :=
  have hidle := receiving_idle line.taped
  { onEvent := fun kind h => h.onEvent kind
    checkIdle := fun now h => ⟨hidle.checkIdle now h.idle, h.accepted⟩
    interrupts := fun h => ⟨h.idle, h.accepted⟩
    poll := fun h => ⟨h.idle, h.accepted⟩
    now := fun h => ⟨h.idle, h.accepted⟩
    waiting := fun b h => ⟨hidle.waiting b h.idle, h.accepted⟩
    popFault := fun {p} h =>
      ⟨hidle.popFault h.idle, (congrArg Tape.accepted (popFault_keeps p).2.1).trans h.accepted⟩
    armReceive := fun h => ⟨hidle.armReceive h.idle, h.accepted⟩
    takeFrame := fun h => ⟨hidle.takeFrame h.idle, h.accepted⟩ }

theorem stable_rests (line : Transport σ ε) (base : Bytes) : Stable line.taped (Rests base) where
  interrupted h := (receiving_rests line base).interrupted h
  now h := ⟨h.idle, h.accepted⟩
  lockDepth _ h := ⟨h.idle, h.accepted⟩

/-! ## Before the frame is accepted -/

/-- Nothing has been sent yet, and the front buffer begins with these bytes if it has room for
them. -/
structure Filled (base bytes : Bytes) (p : Port (Tape σ) ε) : Prop extends Rests base p where
  slots : bytes.length ≤ p.engine.front.capacity → bytes <+: p.engine.front.slots

theorem Filled.interrupted (h : p.Filled base bytes) (hspared : p.Spared line.taped) :
    (Port.interrupted line.taped p).Filled base bytes := by
  refine ⟨(receiving_rests line base).interrupted h.toRests, ?_⟩
  rw [hspared]
  exact h.slots

/-- Bytes are copied behind those that are in the buffer when the step is taken. -/
theorem ensures_writeAt {P : Port (Tape σ) ε → Prop} {R : PortError ε → Port (Tape σ) ε → Prop}
    (bytes : Bytes) (hP : ∀ p, P p → (interrupted line.taped p).Filled base bytes) :
    Ensures P (writeAt line.taped bytes.length more) (fun _ => Filled base (bytes ++ more)) R := by
  intro p hp
  have hfilled := hP p hp
  rw [writeAt, exec_withFront]
  dsimp only
  rw [hfilled.idle, if_neg Bool.false_ne_true]
  refine ⟨⟨hfilled.idle, hfilled.accepted⟩, fun hroom => ?_⟩
  dsimp only at hroom ⊢
  rw [FrameBuffer.capacity_writeAt, List.length_append] at hroom
  exact FrameBuffer.prefix_writeAt (hfilled.slots (by omega))
    (FrameBuffer.length_writeAt (by omega))

/-- A frame is copied to the front of the buffer, whatever was in it. -/
theorem ensures_write {R : PortError ε → Port (Tape σ) ε → Prop} :
    Ensures (Rests base) (write line.taped frame) (fun _ => Filled base frame) R :=
  ensures_writeAt [] fun _ h =>
    ⟨(receiving_rests line base).interrupted h, fun _ => List.nil_prefix⟩

/-- What is in the buffer behind a beginning of a task is still there when the next step is
taken. -/
theorem Ensures.spared {P : Port (Tape σ) ε → Prop} {R : PortError ε → Port (Tape σ) ε → Prop}
    {task : PortM (Tape σ) ε α} (h : Ensures P task (fun _ => Filled base bytes) R) :
    Ensures (fun p => P p ∧ p.Spares line.taped task) task
      (fun _ p => p.Filled base bytes ∧ p.Spared line.taped) R :=
  h.observe fun _ a q hspares hexec => hspares a q hexec

/-! ## After the frame is accepted -/

/-- A frame is on its way; if it was sent without an error of the driver, it was sent as a whole. -/
structure Delivers (base frame : Bytes) (p : Port (Tape σ) ε) : Prop extends
    Transmits base frame p where
  whole : p.driverFault = none → p.engine.isSending = false → p.Rests (base ++ frame)

theorem driverFault_onEvent {line : Transport σ ε} {p : Port σ ε} {kind : Event}
    (h : (p.onEvent line kind).driverFault = none) :
    (Engine.onEvent line kind p.engine p.world).1 = .ok () ∧ p.driverFault = none := by
  unfold Port.onEvent at h
  generalize Engine.onEvent line kind p.engine p.world = out at h ⊢
  obtain ⟨_ | _, _, _⟩ := out
  · cases h
  · exact ⟨rfl, h⟩

theorem Delivers.onEvent (h : p.Delivers base frame) (kind : Event) :
    (p.onEvent line.taped kind).Delivers base frame where
  toTransmits := h.toTransmits.onEvent kind
  whole := by
    intro hfault hdone
    obtain ⟨hok, hfault'⟩ := driverFault_onEvent hfault
    cases hsending : p.engine.isSending with
    | true => exact ⟨hdone, h.toTransmits.finish ⟨hsending, hok, hdone⟩⟩
    | false => exact (h.whole hfault' hsending).onEvent kind

theorem kept_delivers (line : Transport σ ε) (base frame : Bytes) :
    Kept line.taped (Delivers base frame) where
  onEvent kind h := h.onEvent kind
  checkIdle {p} now h := by
    refine ⟨h.toTransmits.checkIdle now, fun hfault hdone => ?_⟩
    have hidle := (Engine.isSending_congr (Engine.listens_checkIdle p.engine now).txState).symm
    exact (receiving_rests line _).checkIdle now (h.whole hfault (hidle.trans hdone))
  interrupts h := ⟨(kept_transmits line base frame).interrupts h.toTransmits,
    fun hfault hdone => (receiving_rests line _).interrupts (h.whole hfault hdone)⟩
  poll h := ⟨(kept_transmits line base frame).poll h.toTransmits,
    fun hfault hdone => (receiving_rests line _).poll (h.whole hfault hdone)⟩
  now h := ⟨(kept_transmits line base frame).now h.toTransmits,
    fun hfault hdone => (receiving_rests line _).now (h.whole hfault hdone)⟩

theorem Rests.transmits (h : p.Rests base) : p.Transmits base frame := by
  rw [← List.append_nil base] at h
  exact .of_rests h List.nil_prefix

/-- A port at rest accepts a frame, or has sent as much of it as ever will be. -/
theorem Rests.beginSend (h : p.Rests base) {size : ℕ} {withBreak : Bool} {turnaround : Turnaround}
    (hframe : size ≤ p.engine.front.capacity → p.engine.front.slots.take size = frame)
    {out : Except (PortError ε) Unit × Engine × Tape σ}
    (hout : Engine.beginSend line.taped p.engine size withBreak turnaround p.world = out) :
    Ends (fun _ => Delivers base frame) (fun _ => Transmits base frame)
      (out.1, { p with engine := out.2.1, world := out.2.2 }) := by
  by_cases hsize : p.engine.front.capacity < size
  · rw [Engine.beginSend_eq, h.idle, if_neg Bool.false_ne_true, if_pos hsize] at hout
    rw [← hout]
    exact h.transmits
  have hframe := hframe (Nat.le_of_not_lt hsize)
  have hprepared := Engine.Carries.prepared p.engine size turnaround p.world
  rw [h.accepted, hframe] at hprepared
  obtain ⟨e₁, t₁, hbegin, hsends⟩ | ⟨x, e₁, t₁, hbegin, hsends⟩ :=
    Engine.sends_beginSend line.accounts_taped withBreak turnaround h.idle
      (Nat.le_of_not_lt hsize) (w := p.world)
  · obtain ⟨hcarries, hwhole⟩ := Engine.Carries.of_beginSend line.accounts_taped hbegin rfl
    rw [h.accepted, hframe] at hcarries hwhole
    rw [← hout, hbegin]
    exact ⟨.of_carries hcarries, fun _ hidle => ⟨hidle, hwhole hidle⟩⟩
  · obtain ⟨sent, hsent, haccepted⟩ := (hprepared.of_sends hsends).sent
    rw [← hout, hbegin]
    exact .of_rests ⟨rfl, haccepted⟩ hsent

theorem ensures_sendFrame {size : ℕ} (withBreak : Bool) (turnaround : Turnaround)
    (hsize : size = frame.length) :
    Ensures (fun p => p.Filled base frame ∧ p.Spared line.taped)
      (sendFrame line.taped size withBreak turnaround)
      (fun _ => Delivers base frame) fun _ => Transmits base frame := by
  intro p hp
  have hfilled := hp.1.interrupted hp.2
  rw [exec_sendFrame]
  refine hfilled.toRests.beginSend (fun hroom => ?_) rfl
  rw [hsize] at hroom ⊢
  exact (List.prefix_iff_eq_take.mp (hfilled.slots hroom)).symm

/-- Copying and sending in one step leaves no room for a reception in between. -/
theorem ensures_sendNoBreak : Ensures (Rests base) (sendNoBreak line.taped frame)
    (fun _ => Delivers base frame) fun _ => Transmits base frame := by
  intro p hp
  have hrests := (receiving_rests line base).interrupted hp
  rw [exec_sendNoBreak]
  dsimp only
  generalize Port.interrupted line.taped p = q at hrests ⊢
  have hwritten : Rests base { q with
      engine := { q.engine with front := (q.engine.front.writeAt 0 frame).2 } } :=
    ⟨hrests.idle, hrests.accepted⟩
  rw [hrests.idle, if_neg Bool.false_ne_true]
  split_ifs with hcount
  · exact hwritten.transmits
  · have hcount' := not_not.mp hcount
    have hprefix := FrameBuffer.prefix_writeAt (List.nil_prefix (l := q.engine.front.slots)) hcount'
    refine hwritten.beginSend (fun _ => ?_) rfl
    rw [hcount']
    exact (List.prefix_iff_eq_take.mp hprefix).symm

/-! ## Waiting for the whole frame -/

/-- Who is told of no error has changed nothing by asking. -/
theorem takeDriverFault_of_none {p : Port σ ε} (h : p.driverFault = none) :
    p.takeDriverFault.2 = p := by
  unfold takeDriverFault
  rw [← h]

theorem ensures_sendProgress {R : PortError ε → Port (Tape σ) ε → Prop} :
    Ensures (Delivers base frame) (sendProgress line.taped)
      (fun seen p => p.Transmits base frame ∧ (seen.2 = none → p.Delivers base frame) ∧
        (seen = (false, none) → p.Rests (base ++ frame))) R := by
  refine .step' (fun _ => (kept_delivers line base frame).interrupted) fun p hp => ?_
  have htransmits : p.takeDriverFault.2.Transmits base frame :=
    hp.toTransmits.of_same rfl (fun _ => rfl) id rfl
  refine ⟨htransmits, fun hfault => ?_, fun hseen => ?_⟩
  · have hsame := takeDriverFault_of_none hfault
    change p.takeDriverFault.2.Delivers base frame
    rw [hsame]
    exact hp
  · -- not sending alone does not say so: the driver may have failed, or the frame been given up
    obtain ⟨hidle, hfault⟩ := Prod.mk.inj hseen
    have hsame := takeDriverFault_of_none hfault
    change p.takeDriverFault.2.Rests (base ++ frame)
    rw [hsame]
    exact hp.whole hfault hidle

theorem ensures_awaitSent (timeout : UInt32) (start : UInt64) (turns : ℕ) :
    Ensures (Delivers base frame) (awaitSent line.taped timeout start turns)
      (fun _ => Rests (base ++ frame)) fun _ => Transmits base frame := by
  have hkept := kept_delivers line base frame
  induction turns with
  | zero => exact .throw fun _ h => h.toTransmits
  | succ turns ih =>
    refine .bind hkept.ensures_poll fun _ => ?_
    refine .bind ensures_sendProgress fun seen => ?_
    split
    · exact .throw fun _ h => h.1
    · exact .pure fun _ h => h.2.2 rfl
    · refine .bind (Q := fun _ => Delivers base frame) (.now fun p hp => hkept.now (hp.2.1 rfl))
        fun now => ?_
      split_ifs
      · refine .bind (.abortSend (fun _ => hkept.interrupted) fun p hp => ?_) fun _ => ?_
        · exact hp.toTransmits.givenUp
        · exact .throw fun _ => id
      · exact ih

theorem ensures_waitSent (timeout : UInt32) :
    Ensures (Delivers base frame) (waitSent line.taped timeout)
      (fun _ => Rests (base ++ frame)) fun _ => Transmits base frame := by
  refine .bind (kept_delivers line base frame).ensures_now fun start => ?_
  refine .bind (Q := fun _ => Delivers base frame) (.get fun _ => id) fun p => ?_
  exact ensures_awaitSent timeout start p.patience

end Port

/-! ## Controllers -/

namespace Controller

variable {line : Transport σ ε} {base frame : Bytes} {c : Controller} {p : Port (Tape σ) ε}

open Port (Rests Filled Delivers Transmits)

/-- Giving up the lock does no harm to a frame. -/
theorem ensures_unlock {α : Type} (result : Except (RequestError ε) α) :
    Port.Ensures
      (fun p =>
        Port.Ends (fun _ => Rests (base ++ frame)) (fun _ => Transmits base frame) (result, p))
      (Port.unlock line.taped)
      (fun _ p =>
        Port.Ends (fun _ => Rests (base ++ frame)) (fun _ => Transmits base frame) (result, p))
      fun _ _ => False := by
  cases result with
  | ok => exact .step' (fun _ => (Port.receiving_rests line _).interrupted) fun _ hp => ⟨hp.1, hp.2⟩
  | error =>
    exact .step' (fun _ => (Port.kept_transmits line base frame).interrupted)
      fun _ hp => Transmits.of_same hp rfl (fun _ => rfl) id rfl

/-- A start code and a package are put into the frame buffer. -/
def fillPackage (line : Transport σ ε) (startCode : UInt8) (package : Bytes) : PortM σ ε ℕ := do
  let _ ← Port.write line [startCode]
  Port.writeAt line 1 package

/-- Once the lock is held, no reception completes behind the start code, until the package is
sent. -/
def SparesPackage (line : Transport σ ε) (startCode : UInt8) (package : Bytes) (c : Controller)
    (p : Port σ ε) : Prop :=
  ∀ s, runWith (enter line) (c, p) = (.ok (), s) →
    s.2.Spares line (Port.write line [startCode]) ∧
      s.2.Spares line (fillPackage line startCode package)

/-- Nothing has been sent yet, and this package will not be disturbed. -/
structure Clear (line : Transport σ ε) (base : Bytes) (startCode : UInt8) (package : Bytes)
    (p : Port (Tape σ) ε) : Prop extends Rests base p where
  start : p.Spares line.taped (Port.write line.taped [startCode])
  whole : p.Spares line.taped (fillPackage line.taped startCode package)

/-- The start code is in the buffer, and what comes in before the next step does not move it. -/
theorem ensures_writeStart {startCode : UInt8} {package : Bytes}
    {R : PortError ε → Port (Tape σ) ε → Prop} :
    Port.Ensures (Clear line base startCode package) (Port.write line.taped [startCode])
      (fun _ p => (Filled base [startCode] p ∧ p.Spared line.taped) ∧
        p.Spares line.taped (Port.writeAt line.taped 1 package)) R := by
  have hstart : Port.Ensures (fun p => (Rests base p ∧
      p.Spares line.taped (Port.write line.taped [startCode])) ∧
      p.Spares line.taped (fillPackage line.taped startCode package))
      (Port.write line.taped [startCode])
      (fun _ p => (Filled base [startCode] p ∧ p.Spared line.taped) ∧
        p.Spares line.taped (Port.writeAt line.taped 1 package)) R :=
    Port.ensures_write.spared.observe fun _ _ _ hspares hexec => hspares.behind hexec
  exact hstart.mono (fun _ h => ⟨⟨h.toRests, h.start⟩, h.whole⟩) (fun _ _ => id) fun _ _ => id

theorem ends_sendPackage {startCode : UInt8} {package : Bytes} (hrests : p.Rests base)
    (hspares : SparesPackage line.taped startCode package c p) :
    Port.Ends (fun _ s => s.2.Rests (base ++ startCode :: package))
      (fun _ s => s.2.Transmits base (startCode :: package))
      (runWith (sendPackage line.taped startCode package) (c, p)) := by
  have henter : Port.Ends (fun _ s => Clear line base startCode package s.2)
      (fun _ s => s.2.Transmits base (startCode :: package))
      (runWith (enter line.taped) (c, p)) := by
    have henter := keeps_enter (Port.stable_rests line base) c p hrests
    unfold SparesPackage at hspares
    generalize runWith (enter line.taped) (c, p) = entered at henter hspares
    obtain ⟨_ | ⟨⟩, s⟩ := entered
    · exact Rests.transmits henter
    · exact ⟨henter, (hspares s rfl).1, (hspares s rfl).2⟩
  refine ends_withLock henter ?_ ensures_unlock
  refine .bind (Q := fun _ => Clear line base startCode package) (.onPort (.get fun _ => id))
    fun q => ?_
  dsimp only
  split_ifs
  · exact .throw fun _ h => h.transmits
  refine .bind (.onPort ensures_writeStart) fun _ => ?_
  have happend : Port.Ensures (fun p => p.Filled base [startCode] ∧ p.Spared line.taped)
      (Port.writeAt line.taped 1 package) (fun _ => Filled base (startCode :: package))
      fun _ => Transmits base (startCode :: package) :=
    Port.ensures_writeAt [startCode] fun _ h => h.1.interrupted h.2
  refine .bind (.onPort happend.spared) fun _ => ?_
  refine .bind (.onPort (Port.ensures_sendFrame true .none (List.length_cons ..).symm)) fun _ => ?_
  refine .bind (Q := fun _ => Delivers base (startCode :: package)) (.config fun _ => id)
    fun config => ?_
  exact .onPort (Port.ensures_waitSent config.transactionTimeout)

theorem ensures_sendMessage (message : Message) (turnaround : Turnaround) :
    Ensures (fun p => Rests base p ∧ p.Spares line.taped (Port.write line.taped message.encode))
      (sendMessage line.taped message turnaround)
      (fun _ => Rests (base ++ message.encode)) fun _ => Transmits base message.encode := by
  refine .bind (.onPort Port.ensures_write.spared) fun count => ?_
  split_ifs
  · exact .throw fun _ h => h.1.transmits
  refine .bind (.onPort (Port.ensures_sendFrame true turnaround rfl)) fun _ => ?_
  refine .bind (Q := fun _ => Delivers base message.encode) (.config fun _ => id) fun config => ?_
  exact .onPort (Port.ensures_waitSent config.transactionTimeout)

end Controller

/-! ## Receivers -/

/-- The bytes that an answer puts on the line. -/
def Answer.frame : Answer → Bytes
  | .response r => (Message.response r).encode
  | .discovery uid => DiscoveryReply.encode uid
  | .silent => []

namespace Receiver

variable {line : Transport σ ε} {base bytes : Bytes} {I : Port (Tape σ) ε → Prop}

open Port (Rests Filled Delivers Transmits)

/-- While the turnaround is waited for, only time passes. -/
theorem ensures_waitTurnaround {R : PortError ε → Port (Tape σ) ε → Prop} (receivedAt : UInt64)
    (hI : ∀ p t, I p → t.accepted = p.world.accepted → I { p with world := t }) :
    Port.Ensures I (waitTurnaround line.taped receivedAt) (fun _ => I) R := by
  refine .bind (Q := fun _ => I) (.now fun p hp => hI p _ hp rfl) fun now => ?_
  dsimp only
  split_ifs
  · exact .delay fun p hp => hI p _ hp rfl
  · exact .pure fun _ => id

theorem ensures_waitTurnaround_deaf (line : Transport σ ε) (receivedAt : UInt64) :
    Port.Ensures Port.Deaf (waitTurnaround line receivedAt) (fun _ => Port.Deaf)
      fun _ _ => True := by
  refine .bind (Q := fun _ => Port.Deaf) (.now fun p h => ⟨h.idle, h.holds⟩) fun now => ?_
  dsimp only
  split_ifs
  · exact .delay fun p h => ⟨h.idle, h.holds⟩
  · exact .pure fun _ => id

theorem ensures_sendDiscovery (receivedAt : UInt64) (uid : Uid) :
    Port.Ensures (Rests base) (sendAnswer line.taped receivedAt (.discovery uid))
      (fun _ => Rests (base ++ DiscoveryReply.encode uid))
      fun _ => Transmits base (DiscoveryReply.encode uid) := by
  refine .bind (Q := fun _ => Rests base) (.get fun _ => id) fun q => ?_
  refine .bind (ensures_waitTurnaround receivedAt fun p t hp ht => ⟨hp.idle, ht.trans hp.accepted⟩)
    fun _ => ?_
  exact .bind Port.ensures_sendNoBreak fun _ => Port.ensures_waitSent _

/-- A response is put into the frame buffer, and the turnaround is waited for. -/
def prepareResponse (line : Transport σ ε) (receivedAt : UInt64) (response : Response) :
    PortM σ ε Unit := do
  let _ ← Port.write line (Message.response response).encode
  waitTurnaround line receivedAt

/-- No reception completes between the response, if the answer is one, and the end of the
turnaround. -/
def SparesAnswer (line : Transport σ ε) (receivedAt : UInt64) (answer : Answer) (p : Port σ ε) :
    Prop :=
  ∀ response, answer = .response response →
    p.Spares line (prepareResponse line receivedAt response)

theorem ensures_sendAnswer (receivedAt : UInt64) (answer : Answer) :
    Port.Ensures (fun p => Rests base p ∧ SparesAnswer line.taped receivedAt answer p)
      (sendAnswer line.taped receivedAt answer)
      (fun _ => Rests (base ++ answer.frame)) fun _ => Transmits base answer.frame := by
  cases answer with
  | discovery uid =>
    exact (ensures_sendDiscovery receivedAt uid).mono (fun _ h => h.1) (fun _ _ => id)
      fun _ _ => id
  | silent =>
    refine .bind (Q := fun _ => Rests base) (.get fun _ h => h.1) fun q => ?_
    refine .pure fun p hp => ?_
    rw [Answer.frame, List.append_nil]
    exact hp
  | response response =>
    refine .bind (Q := fun _ p => Rests base p ∧
      p.Spares line.taped (prepareResponse line.taped receivedAt response))
      (.get fun p h => ⟨h.1, h.2 response rfl⟩) fun q => ?_
    have hwrite : Port.Ensures (fun p => Rests base p ∧
        p.Spares line.taped (prepareResponse line.taped receivedAt response))
        (Port.write line.taped (Message.response response).encode)
        (fun _ p => p.Filled base (Message.response response).encode ∧
          p.Spares line.taped (waitTurnaround line.taped receivedAt))
        fun _ => Transmits base (Message.response response).encode :=
      Port.ensures_write.observe fun _ _ _ hspares hexec => hspares.behind hexec
    refine .bind hwrite fun count => ?_
    split_ifs
    · exact .throw fun _ h => h.1.transmits
    have hwait : Port.Ensures (Filled base (Message.response response).encode)
        (waitTurnaround line.taped receivedAt)
        (fun _ => Filled base (Message.response response).encode)
        fun _ => Transmits base (Message.response response).encode :=
      ensures_waitTurnaround receivedAt fun p t hp ht =>
        ⟨⟨hp.idle, ht.trans hp.accepted⟩, hp.slots⟩
    refine .bind hwait.spared fun _ => ?_
    exact .bind (Port.ensures_sendFrame true .receive rfl) fun _ => Port.ensures_waitSent _

end Receiver

/-! ## All of them -/

namespace Port

variable {line : Transport σ ε} {frame : Bytes} {p q : Port (Tape σ) ε}

/-- What the line gets by a task that means to send this frame: a first part of it, and all of it if
the sending succeeded. The same stands for what is still being sent after the task, until the engine
finishes it. -/
structure Delivered {α E : Type} (line : Transport σ ε) (p : Port (Tape σ) ε) (frame : Bytes)
    (sending : Except E α) (q : Port (Tape σ) ε) : Prop where
  part {q' : Port (Tape σ) ε} : Underway line.taped q q' →
    ∃ sent, sent <+: frame ∧ q'.world.accepted = p.world.accepted ++ sent
  whole (a : α) : sending = .ok a → q.world.accepted = p.world.accepted ++ frame
  later {q' : Port (Tape σ) ε} {kind : Event} : Underway line.taped q q' →
    q'.Finishes line.taped kind →
    (q'.onEvent line.taped kind).world.accepted = p.world.accepted ++ frame

theorem Transmits.delivered {α E : Type} {sending : Except E α}
    (h : q.Transmits p.world.accepted frame)
    (hwhole : ∀ a, sending = .ok a → q.world.accepted = p.world.accepted ++ frame) :
    Delivered line p frame sending q where
  part hq := (hq.transmits h).accepted
  whole := hwhole
  later hq := (hq.transmits h).finish

theorem delivered_of_ends {α E S : Type} {out : Except E α × S} (port : S → Port (Tape σ) ε)
    (h : Ends (fun _ s => (port s).Rests (p.world.accepted ++ frame))
      (fun _ s => (port s).Transmits p.world.accepted frame) out) :
    Delivered line p frame out.1 (port out.2) := by
  obtain ⟨x | a, s⟩ := out
  · have htransmits : (port s).Transmits p.world.accepted frame := h
    exact htransmits.delivered nofun
  · have hrests : (port s).Rests (p.world.accepted ++ frame) := h
    exact (Transmits.of_rests hrests List.prefix_rfl).delivered fun _ _ => hrests.accepted

end Port

/-- What is sent stays sent while a response is waited for. -/
theorem Controller.Opens.delivered {α : Type} {line : Transport σ ε} {p : Port (Tape σ) ε}
    {frame : Bytes} {c : Controller} {opening : ControllerM (Tape σ) ε Unit}
    {out : Except (RequestError ε) α × Controller × Port (Tape σ) ε}
    (h : Opens opening (Port.Rests (p.world.accepted ++ frame)) (c, p) out)
    (hopening : Port.Ends (fun _ s => s.2.Rests (p.world.accepted ++ frame))
      (fun _ s => s.2.Transmits p.world.accepted frame) (runWith opening (c, p))) :
    Port.Delivered line p frame (runWith opening (c, p)).1 out.2.2 := by
  obtain ⟨hfailed, hkept⟩ := h
  generalize runWith opening (c, p) = sent at hopening hfailed hkept ⊢
  obtain ⟨e | _, s⟩ := sent
  · rw [hfailed rfl]
    exact Port.delivered_of_ends Prod.snd hopening
  · have hrests : out.2.2.Rests (p.world.accepted ++ frame) := hkept rfl hopening
    exact (Port.Transmits.of_rests hrests List.prefix_rfl).delivered fun _ _ => hrests.accepted

/-- Where nothing is received, no reception completes. -/
theorem Port.Deaf.sparesPackage {line : Transport σ ε} {p : Port σ ε} (h : p.Deaf)
    (c : Controller) (startCode : UInt8) (package : Bytes) :
    Controller.SparesPackage line startCode package c p := by
  intro s hs
  have henter := Controller.keeps_enter (Port.stable_deaf line) c p h
  rw [hs] at henter
  have hdeaf : s.2.Deaf := henter
  have hstart := Port.ensures_writeAt_deaf line 0 [startCode]
  exact ⟨hdeaf.spares hstart, hdeaf.spares (.bind hstart fun _ =>
    Port.ensures_writeAt_deaf line 1 package)⟩

theorem Port.Deaf.sparesAnswer {line : Transport σ ε} {p : Port σ ε} (h : p.Deaf)
    (receivedAt : UInt64) (answer : Answer) : Receiver.SparesAnswer line receivedAt answer p := by
  intro response _
  exact h.spares (.bind (Port.ensures_writeAt_deaf line 0 _) fun _ =>
    Receiver.ensures_waitTurnaround_deaf line receivedAt)

/-- From a port that is not sending, the line gets the frames that tasks mean, whole or cut short by
a failure, and nothing else: whatever interrupts them if the port keeps the line for sending, and
otherwise unless a reception completes after the frame buffer is filled and before the frame is
sent. The reply to a search needs no such condition. -/
theorem delivery (line : Transport σ ε) {p : Port (Tape σ) ε} (hidle : p.engine.isSending = false) :
    (∀ (c : Controller) startCode package,
      p.HoldsLine ∨ Controller.SparesPackage line.taped startCode package c p →
      let out := Controller.runWith (Controller.sendPackage line.taped startCode package) (c, p)
      Port.Delivered line p (startCode :: package) out.1 out.2.2) ∧
    (∀ (c : Controller) commandClass inquiry transaction,
      let message := c.message commandClass inquiry transaction
      p.HoldsLine ∨ p.Spares line.taped (Port.write line.taped message.encode) →
      let sent := Controller.runWith (Controller.sendMessage line.taped message
        (Controller.turnaroundFor inquiry)) (c, p)
      let out := Controller.runWith
        (Controller.exchange line.taped commandClass inquiry transaction) (c, p)
      Port.Delivered line p message.encode sent.1 out.2.2) ∧
    (∀ (c : Controller) lower upper transaction,
      let message := c.message .discovery (Controller.branchInquiry lower upper) transaction
      p.HoldsLine ∨ p.Spares line.taped (Port.write line.taped message.encode) →
      let sent := Controller.runWith
        (Controller.sendMessage line.taped message .receiveNoBreak) (c, p)
      let out := Controller.runWith
        (Controller.branchExchange line.taped lower upper transaction) (c, p)
      Port.Delivered line p message.encode sent.1 out.2.2) ∧
    (∀ receivedAt answer,
      p.HoldsLine ∨ Receiver.SparesAnswer line.taped receivedAt answer p →
      let out := Port.exec (Receiver.sendAnswer line.taped receivedAt answer) p
      Port.Delivered line p answer.frame out.1 out.2) ∧
    ∀ receivedAt uid,
      let out := Port.exec (Receiver.sendAnswer line.taped receivedAt (.discovery uid)) p
      Port.Delivered line p (DiscoveryReply.encode uid) out.1 out.2 := by
  have hrests : p.Rests p.world.accepted := ⟨hidle, rfl⟩
  have hdeaf (hholds : p.HoldsLine) : p.Deaf := ⟨hidle, hholds⟩
  have hwrites (bytes : Bytes) (hspares : p.HoldsLine ∨
      p.Spares line.taped (Port.write line.taped bytes)) :
      p.Spares line.taped (Port.write line.taped bytes) :=
    hspares.elim (fun h => (hdeaf h).spares (Port.ensures_writeAt_deaf _ _ _)) id
  refine ⟨fun c startCode package hspares => ?_,
    fun c commandClass inquiry transaction hspares => ?_,
    fun c lower upper transaction hspares => ?_, fun receivedAt answer hspares => ?_,
    fun receivedAt uid => ?_⟩
  · have hspares := hspares.elim (fun h => (hdeaf h).sparesPackage c startCode package) id
    exact Port.delivered_of_ends Prod.snd (Controller.ends_sendPackage hrests hspares)
  · exact (Controller.exchange_opens (Port.receiving_rests line _) c p commandClass inquiry
      transaction).delivered (Controller.ensures_sendMessage _ _ c p ⟨hrests, hwrites _ hspares⟩)
  · exact (Controller.branchExchange_opens (Port.receiving_rests line _) c p lower upper
      transaction).delivered (Controller.ensures_sendMessage _ _ c p ⟨hrests, hwrites _ hspares⟩)
  · have hspares := hspares.elim (fun h => (hdeaf h).sparesAnswer receivedAt answer) id
    exact Port.delivered_of_ends id
      (Receiver.ensures_sendAnswer receivedAt answer p ⟨hrests, hspares⟩)
  · exact Port.delivered_of_ends id (Receiver.ensures_sendDiscovery receivedAt uid p hrests)

/-- A simulated line whose items interrupt tasks, one at each step. -/
def interruptingLine : Transport Simulation.World Simulation.LineCall :=
  { Simulation.line with
    poll := fun w => (none, w)
    interrupts := fun w => ((Simulation.poll w).1.toList, (Simulation.poll w).2) }

/-- A controller that has done nothing. -/
def console : Controller :=
  .create Simulation.ScriptedResponse.spokesman 1

/-- A port that listens. These bytes come in behind a break while the frame buffer is filled. -/
def hearing (bytes : Bytes) : Port (Tape Simulation.World) Simulation.LineCall where
  config := {}
  engine := .create 4 {}
  world := ⟨{ Simulation.World.quiet with queue :=
    [.gap, .gap, .event .breakDetected, .data bytes, .event .txDone] }, []⟩
  driverFault := none
  waiting := false
  lockDepth := 0
  transaction := 0
  patience := 8

theorem sparesPackage_hearing :
    Controller.SparesPackage interruptingLine.taped 0 [7, 7] console (hearing [0xCC]) := by
  intro s hs
  have hentered : s = (Controller.runWith (Controller.enter interruptingLine.taped)
      (console, hearing [0xCC])).2 := congrArg Prod.snd hs.symm
  rw [hentered]
  exact ⟨Port.spares_of_spared (by unfold Port.Spared; decide +kernel),
    Port.spares_of_spared (by unfold Port.Spared; decide +kernel)⟩

theorem sendPackage_hearing :
    (Controller.runWith (Controller.sendPackage interruptingLine.taped 0 [7, 7])
      (console, hearing [0xCC])).1 = .ok () := by
  decide +kernel

/-- A port that hears the beginning of a frame in between sends its own frame nevertheless. -/
theorem delivery_hearing : (hearing [0xCC]).engine.isSending = false ∧
    ¬ (hearing [0xCC]).HoldsLine ∧
    Controller.SparesPackage interruptingLine.taped 0 [7, 7] console (hearing [0xCC]) ∧
    (Controller.runWith (Controller.sendPackage interruptingLine.taped 0 [7, 7])
      (console, hearing [0xCC])).1 = .ok () ∧
    let out := Controller.runWith (Controller.sendPackage interruptingLine.taped 0 [7, 7])
      (console, hearing [0xCC])
    Port.Delivered interruptingLine (hearing [0xCC]) [0, 7, 7] out.1 out.2.2 := by
  have hidle : (hearing [0xCC]).engine.isSending = false := rfl
  have hlistens : ¬ (hearing [0xCC]).HoldsLine := fun hholds => absurd hholds.1 (by decide)
  exact ⟨hidle, hlistens, sparesPackage_hearing, sendPackage_hearing,
    (delivery interruptingLine hidle).1 console 0 [7, 7] (.inr sparesPackage_hearing)⟩

/-- A port that hears a whole packet in between sends it instead of the frame, and reports
success. -/
theorem sendPackage_overtaken :
    let p := hearing [0xCC, 1, 1]
    let out := Controller.runWith (Controller.sendPackage interruptingLine.taped 0 [7, 7])
      (console, p)
    out.1 = .ok () ∧ out.2.2.world.accepted = [0xCC, 1, 1] ∧
      ¬ Port.Delivered interruptingLine p [0, 7, 7] out.1 out.2.2 := by
  intro p out
  have hrun : out.1 = .ok () ∧ out.2.2.world.accepted = [0xCC, 1, 1] := by decide +kernel
  refine ⟨hrun.1, hrun.2, fun hdelivered => ?_⟩
  have hwhole := hdelivered.whole () hrun.1
  rw [hrun.2] at hwhole
  cases hwhole

end LightingBus
