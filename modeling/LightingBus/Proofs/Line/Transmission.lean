import LightingBus.Proofs.Line.Receiving
import LightingBus.Proofs.Line.Tasks
import LightingBus.Simulation.Line

/-!
# A frame on its way

`Port.transmission`: whatever is done with a port once it has accepted a frame, in whatever order
and however few bytes the transport accepts at a time, the accepted bytes are the first ones of the
frame, each once, and all of them when the engine finishes the frame.

1. `Transport.taped` is a line that writes down what it accepts.
2. `Call` is what can be done with a port in one undisturbed step, interrupts among it.
3. `Engine.Carries` says how far a frame is that is being sent, `Port.Transmits` also what has
   become of one that is not sent any more; `Transmits.after` goes through the calls.
-/

namespace LightingBus

variable {σ ε : Type}

/-! ## What a line accepts -/

/-- A world and the bytes that its transport has accepted. -/
structure Tape (σ : Type) where
  world : σ
  accepted : Bytes

/-- An action on the world of a tape by which nothing is accepted. -/
def Tape.lift {α : Type} (f : σ → α × σ) (t : Tape σ) : α × Tape σ :=
  ((f t.world).1, { t with world := (f t.world).2 })

namespace Transport

/-- The same line, which writes down what it accepts. -/
def taped (line : Transport σ ε) : Transport (Tape σ) ε where
  autoBreak := line.autoBreak
  write bytes t :=
    match line.write bytes t.world with
    | (.error x, w) => (.error x, { t with world := w })
    | (.ok count, w) => (.ok count, ⟨w, t.accepted ++ bytes.take count⟩)
  read count := Tape.lift (line.read count)
  assertBreak := Tape.lift line.assertBreak
  releaseBreak := Tape.lift line.releaseBreak
  flushReceived := Tape.lift line.flushReceived
  flushQueued := Tape.lift line.flushQueued
  poll := Tape.lift line.poll
  interrupts := Tape.lift line.interrupts
  now := Tape.lift line.now
  delay micros t := { t with world := line.delay micros t.world }
  setAlarm micros := Tape.lift (line.setAlarm micros)

/-- The bytes that were accepted between two tapes. -/
def Accepted (bytes : Bytes) (t t' : Tape σ) : Prop :=
  t'.accepted = t.accepted ++ bytes

theorem accounts_taped (line : Transport σ ε) : line.taped.Accounts Accepted where
  refl t := (List.append_nil t.accepted).symm
  trans h₁ h₂ := by rw [Accepted, h₂, h₁, List.append_assoc]
  accepted h := by
    unfold taped at h
    dsimp only at h
    split at h <;> cases h
    rfl
  refused h := by
    unfold taped at h
    dsimp only at h
    split at h <;> cases h
    exact (List.append_nil _).symm
  read _ t := (List.append_nil t.accepted).symm
  assertBreak t := (List.append_nil t.accepted).symm
  releaseBreak t := (List.append_nil t.accepted).symm
  flushReceived t := (List.append_nil t.accepted).symm
  flushQueued t := (List.append_nil t.accepted).symm
  poll t := (List.append_nil t.accepted).symm
  now t := (List.append_nil t.accepted).symm
  delay _ t := (List.append_nil t.accepted).symm
  setAlarm _ t := (List.append_nil t.accepted).symm

/-- The same line, which does not interrupt. -/
def undisturbed (line : Transport σ ε) : Transport σ ε :=
  { line with interrupts := fun w => ([], w) }

theorem Accounts.undisturbed {line : Transport σ ε} {wrote : Bytes → σ → σ → Prop}
    (h : line.Accounts wrote) : line.undisturbed.Accounts wrote :=
  ⟨h.refl, h.trans, h.accepted, h.refused, h.read, h.assertBreak, h.releaseBreak, h.flushReceived,
    h.flushQueued, h.poll, h.now, h.delay, h.setAlarm⟩

end Transport

/-! ## Calls -/

namespace Port

theorem create_eq_ok {capacity patience : ℕ} {config : LineConfig} {world : σ} {p : Port σ ε}
    (h : create capacity config patience world = .ok p) :
    p = ⟨config, .create capacity config.engineTiming, world, none, false, 0, 0, patience⟩ := by
  unfold create at h
  cases hconfig : config.check with
  | error e =>
    rw [hconfig] at h
    cases h
  | ok =>
    rw [hconfig] at h
    cases h
    rfl

theorem interrupted_undisturbed (line : Transport σ ε) (p : Port σ ε) :
    interrupted line.undisturbed p = p := rfl

/-- What can be done with a port in one step. A poll may also be taken apart: it asks for events,
handles those it is told, and looks whether the line is idle. -/
inductive Call where
  /-- An interrupt, or an event that a poll was told. -/
  | event (kind : Event)
  | poll
  /-- The part of a poll that asks the transport for its next event. -/
  | ask
  /-- The part of a poll that looks whether the line is idle. -/
  | checkIdle
  | now
  | delay (micros : UInt32)
  | setMode (mode : Mode)
  | takeFault
  | nextTransaction
  /-- Uses the frame buffer: copies bytes into it, or puts an earlier one back. -/
  | edit (f : FrameBuffer → FrameBuffer)
  | frame
  | read (out : Bytes)
  | snapshot
  | sendFrame (size : ℕ) (withBreak : Bool) (turnaround : Turnaround)
  | sendNoBreak (bytes : Bytes)
  | sendProgress
  | abortSend
  | enterReceive
  | arrival
  | leaveReceive
  | tryLock
  | nest
  | unlock

/-- The call begins a frame. -/
def Call.begins : Call → Bool
  | .sendFrame .. | .sendNoBreak .. => true
  | _ => false

variable (line : Transport σ ε)

/-- The port after a call. Interrupts are calls of their own. -/
def Call.after (call : Call) (p : Port σ ε) : Port σ ε :=
  match call with
  | .event kind => p.onEvent line kind
  | .poll => polled line p
  | .ask => { p with world := (line.poll p.world).2 }
  | .checkIdle =>
    { p with engine := p.engine.checkIdle (line.now p.world).1, world := (line.now p.world).2 }
  | .now => (exec (Port.now line) p).2
  | .delay micros => (exec (Port.delay line micros) p).2
  | .setMode mode => (exec (Port.setMode line.undisturbed mode) p).2
  | .takeFault => (exec (Port.takeFault line.undisturbed) p).2
  | .nextTransaction => (exec (Port.nextTransaction line.undisturbed) p).2
  | .edit f => (exec (Port.withFront line.undisturbed fun front => ((), f front)) p).2
  | .frame => (exec (Port.frame line.undisturbed) p).2
  | .read out => (exec (Port.read line.undisturbed out) p).2
  | .snapshot => (exec (Port.snapshot line.undisturbed) p).2
  | .sendFrame size withBreak turnaround =>
    (exec (Port.sendFrame line.undisturbed size withBreak turnaround) p).2
  | .sendNoBreak bytes => (exec (Port.sendNoBreak line.undisturbed bytes) p).2
  | .sendProgress => (exec (Port.sendProgress line.undisturbed) p).2
  | .abortSend => (exec (Port.abortSend line.undisturbed) p).2
  | .enterReceive => (exec (Port.enterReceive line.undisturbed) p).2
  | .arrival => (exec (Port.arrival line.undisturbed) p).2
  | .leaveReceive => (exec (Port.leaveReceive line.undisturbed) p).2
  | .tryLock => (exec (Port.tryLock line.undisturbed) p).2
  | .nest => (exec (Port.nest line.undisturbed) p).2
  | .unlock => (exec (Port.unlock line.undisturbed) p).2

/-- What a port accepts for sending: the first slots of its front buffer, or the bytes of a frame
without a break. -/
inductive Begins (p : Port σ ε) : Bytes → Port σ ε → Prop where
  | frame {p₁ : Port σ ε} (size : ℕ) (withBreak : Bool) (turnaround : Turnaround) :
    exec (sendFrame line.undisturbed size withBreak turnaround) p = (.ok (), p₁) →
    Begins p (p.engine.front.slots.take size) p₁
  | noBreak {p₁ : Port σ ε} (bytes : Bytes) :
    exec (sendNoBreak line.undisturbed bytes) p = (.ok (), p₁) → Begins p bytes p₁

/-- What becomes of a port by calls, as long as no further frame is begun. -/
inductive Underway (p : Port σ ε) : Port σ ε → Prop where
  | begun : Underway p p
  | call {q : Port σ ε} (call : Call) : Underway p q →
    q.engine.isSending = true ∨ call.begins = false → Underway p (call.after line q)

/-- The event is the end of the frame that is being sent, and the driver did not fail. -/
structure Finishes (p : Port σ ε) (kind : Event) : Prop where
  sending : p.engine.isSending = true
  ok : (Engine.onEvent line kind p.engine p.world).1 = .ok ()
  done : (p.onEvent line kind).engine.isSending = false

end Port

/-! ## How far a frame is -/

/-- Bytes that are copied behind the first ones of a buffer follow them. -/
theorem FrameBuffer.prefix_writeAt {b : FrameBuffer} {bytes more : Bytes} (h : bytes <+: b.slots)
    (hcount : (b.writeAt bytes.length more).1 = more.length) :
    bytes ++ more <+: (b.writeAt bytes.length more).2.slots := by
  unfold writeAt at hcount ⊢
  split_ifs at hcount ⊢ with hcapacity
  · rw [List.length_eq_zero_iff.mp hcount.symm, List.append_nil]
    exact h
  · dsimp only at hcount ⊢
    have hfits : more.take (b.capacity - bytes.length) = more := by
      rw [List.length_take] at hcount
      exact List.take_of_length_le (by omega)
    rw [hfits, Bytes.overwrite, ← List.prefix_iff_eq_take.mp h]
    exact List.prefix_append _ _

/-- The engine sends this frame and has moved its cursor over what was accepted of it, behind the
bytes that were accepted before. -/
structure Engine.Carries (base frame : Bytes) (e : Engine) (t : Tape σ) : Prop where
  silent : e.isReceiving = false
  slots : e.front.slots.take e.front.sendSize = frame
  head_le : e.front.head ≤ e.front.sendSize
  accepted : t.accepted = base ++ frame.take e.front.head

namespace Engine.Carries

variable {base frame : Bytes} {e : Engine} {t : Tape σ}

theorem of_sends {out : Except ε Unit × Engine × Tape σ} (h : e.Carries base frame t)
    (hsends : Sends Transport.Accepted e t out) : out.2.1.Carries base frame out.2.2 := by
  have hfront := hsends.front
  have hpending : e.front.pending = frame.drop e.front.head := by
    rw [FrameBuffer.pending, h.slots]
  constructor
  · exact hsends.silent h.silent
  · rw [hfront]
    exact h.slots
  · rw [hfront]
    exact hsends.head_le h.head_le
  · have hwrote : out.2.2.accepted = t.accepted ++ _ := hsends.wrote
    have hcursor : e.front.head + (out.2.1.front.head - e.front.head) = out.2.1.front.head :=
      Nat.add_sub_cancel' hsends.le_head
    rw [hwrote, h.accepted, hpending, List.append_assoc, ← List.take_add, hcursor]

theorem sent (h : e.Carries base frame t) : ∃ sent, sent <+: frame ∧ t.accepted = base ++ sent :=
  ⟨frame.take e.front.head, List.take_prefix _ _, h.accepted⟩

theorem whole (h : e.Carries base frame t) (hend : e.front.sendSize ≤ e.front.head) :
    t.accepted = base ++ frame := by
  have hlength : frame.length ≤ e.front.sendSize := by
    rw [← h.slots, List.length_take]
    exact Nat.min_le_left _ _
  rw [h.accepted, List.take_of_length_le (Nat.le_trans hlength hend)]

theorem prepared (e : Engine) (size : ℕ) (turnaround : Turnaround) (t : Tape σ) :
    (e.prepared size turnaround).Carries t.accepted (e.front.slots.take size) t where
  silent := rfl
  slots := rfl
  head_le := Nat.zero_le _
  accepted := (List.append_nil t.accepted).symm

/-- Whoever accepts a frame is about to send all of it. -/
theorem of_beginSend {line : Transport (Tape σ) ε} (hline : line.Accounts Transport.Accepted)
    {size : ℕ} {withBreak : Bool} {turnaround : Turnaround}
    {out : Except (PortError ε) Unit × Engine × Tape σ}
    (hout : beginSend line e size withBreak turnaround t = out) (hok : out.1 = .ok ()) :
    out.2.1.Carries t.accepted (e.front.slots.take size) out.2.2 ∧
      (out.2.1.isSending = false → out.2.2.accepted = t.accepted ++ e.front.slots.take size) := by
  by_cases hsending : e.isSending = true
  · rw [beginSend_eq, if_pos hsending] at hout
    cases hout
    cases hok
  by_cases hsize : e.front.capacity < size
  · rw [beginSend_eq, if_neg hsending, if_pos hsize] at hout
    cases hout
    cases hok
  obtain ⟨e₁, t₁, hbegin, hsends⟩ | ⟨_, _, _, hbegin, -⟩ :=
    sends_beginSend hline withBreak turnaround (Bool.eq_false_iff.mpr hsending)
      (Nat.le_of_not_lt hsize) (w := t)
  · have hcarries := (prepared e size turnaround t).of_sends hsends
    rw [← hout, hbegin]
    refine ⟨hcarries, fun hidle => hcarries.whole ?_⟩
    rw [show e₁.front.sendSize = size by rw [hsends.front]; rfl]
    exact hsends.sent rfl hidle
  · rw [← hout, hbegin] at hok
    cases hok

end Engine.Carries

namespace Port

/-- No frame is being sent, and these bytes have been accepted. -/
structure Rests (accepted : Bytes) (p : Port (Tape σ) ε) : Prop where
  idle : p.engine.isSending = false
  accepted : p.world.accepted = accepted

/-- A frame is being sent, or as much of it was accepted as ever will be. -/
structure Transmits (base frame : Bytes) (p : Port (Tape σ) ε) : Prop where
  carries : p.engine.isSending = true → p.engine.Carries base frame p.world
  sent : p.engine.isSending = false → ∃ sent, sent <+: frame ∧ p.Rests (base ++ sent)

variable {line : Transport σ ε} {base frame : Bytes} {p q p₁ : Port (Tape σ) ε}

theorem Transmits.accepted (h : p.Transmits base frame) :
    ∃ sent, sent <+: frame ∧ p.world.accepted = base ++ sent := by
  cases hsending : p.engine.isSending with
  | true => exact (h.carries hsending).sent
  | false =>
    obtain ⟨sent, hsent, hrests⟩ := h.sent hsending
    exact ⟨sent, hsent, hrests.accepted⟩

theorem Transmits.of_carries (h : p.engine.Carries base frame p.world) :
    p.Transmits base frame := by
  obtain ⟨sent, hsent, haccepted⟩ := h.sent
  exact ⟨fun _ => h, fun hidle => ⟨sent, hsent, hidle, haccepted⟩⟩

theorem Transmits.of_rests {sent : Bytes} (h : p.Rests (base ++ sent)) (hsent : sent <+: frame) :
    p.Transmits base frame := by
  refine ⟨fun hsending => ?_, fun _ => ⟨sent, hsent, h⟩⟩
  rw [h.idle] at hsending
  cases hsending

/-- What neither moves the front buffer nor lets the transport accept anything does no harm. -/
theorem Transmits.of_same (h : p.Transmits base frame)
    (hsending : q.engine.isSending = p.engine.isSending)
    (hfront : p.engine.isSending = true → q.engine.front = p.engine.front)
    (hsilent : p.engine.isReceiving = false → q.engine.isReceiving = false)
    (haccepted : q.world.accepted = p.world.accepted) : q.Transmits base frame where
  carries := by
    rw [hsending]
    intro hs
    have hcarries := h.carries hs
    have hfront' := hfront hs
    constructor
    · exact hsilent hcarries.silent
    · rw [hfront']; exact hcarries.slots
    · rw [hfront']; exact hcarries.head_le
    · rw [hfront', haccepted]; exact hcarries.accepted
  sent := by
    intro hidle
    obtain ⟨sent, hsent, hrests⟩ := h.sent (hsending.symm.trans hidle)
    exact ⟨sent, hsent, hidle, haccepted.trans hrests.accepted⟩

/-! ## Events -/

theorem Rests.onEvent {accepted : Bytes} (h : p.Rests accepted) (kind : Event) :
    (p.onEvent line.taped kind).Rests accepted := by
  have hwrote : (Engine.onEvent line.taped kind p.engine p.world).2.2.accepted =
      p.world.accepted ++ [] := (Engine.hears_onEvent line.accounts_taped h.idle kind).wrote
  rw [onEvent_eq]
  refine ⟨Engine.isSending_onEvent line.taped kind p.world h.idle, ?_⟩
  rw [List.append_nil, h.accepted] at hwrote
  exact hwrote

theorem Transmits.onEvent (h : p.Transmits base frame) (kind : Event) :
    (p.onEvent line.taped kind).Transmits base frame := by
  cases hsending : p.engine.isSending with
  | true =>
    have hcarries := h.carries hsending
    rw [onEvent_eq]
    exact .of_carries (hcarries.of_sends
      (Engine.sends_onEvent line.accounts_taped hsending hcarries.silent kind))
  | false =>
    obtain ⟨sent, hsent, hrests⟩ := h.sent hsending
    exact .of_rests (hrests.onEvent kind) hsent

/-- When the engine finishes the frame, the transport has accepted all of it. -/
theorem Transmits.finish (h : p.Transmits base frame) {kind : Event}
    (hfinish : p.Finishes line.taped kind) :
    (p.onEvent line.taped kind).world.accepted = base ++ frame := by
  have hcarries := h.carries hfinish.sending
  have hsends : Engine.Sends Transport.Accepted p.engine p.world
      (Engine.onEvent line.taped kind p.engine p.world) :=
    Engine.sends_onEvent line.accounts_taped hfinish.sending hcarries.silent kind
  have hdone := hfinish.done
  rw [onEvent_eq] at hdone ⊢
  refine (hcarries.of_sends hsends).whole ?_
  rw [show (Engine.onEvent line.taped kind p.engine p.world).2.1.front.sendSize =
    p.engine.front.sendSize by rw [hsends.front]]
  exact hsends.sent hfinish.ok hdone

theorem Transmits.checkIdle (h : p.Transmits base frame) (now : UInt64) :
    Transmits base frame { p with engine := p.engine.checkIdle now } := by
  refine h.of_same ?_ (fun hs => ?_) (fun hsilent => ?_) rfl
  · exact Engine.isSending_congr (Engine.listens_checkIdle p.engine now).txState
  · dsimp only
    rw [Engine.checkIdle_of_silent (h.carries hs).silent]
  · dsimp only
    rw [Engine.checkIdle_of_silent hsilent]
    exact hsilent

/-- A frame on its way stands whatever the line does. -/
theorem kept_transmits (line : Transport σ ε) (base frame : Bytes) :
    Kept line.taped (Transmits base frame) where
  onEvent kind h := h.onEvent kind
  checkIdle now h := h.checkIdle now
  interrupts h := h.of_same rfl (fun _ => rfl) id rfl
  poll h := h.of_same rfl (fun _ => rfl) id rfl
  now h := h.of_same rfl (fun _ => rfl) id rfl

/-! ## Calls of tasks -/

theorem Transmits.popFault (h : p.Transmits base frame) : p.popFault.2.Transmits base frame := by
  obtain ⟨hengine, hworld, -⟩ := popFault_keeps p
  refine h.of_same ?_ (fun _ => ?_) (fun hsilent => ?_) (by rw [hworld])
  · rw [hengine]; rfl
  · rw [hengine]
  · rw [hengine]; exact hsilent

theorem Transmits.takeFrame (h : p.Transmits base frame) :
    Transmits base frame { p with engine := p.engine.takeFrame.2 } := by
  have hengine := takeFrame_keeps p.engine
  refine h.of_same ?_ (fun _ => ?_) (fun hsilent => ?_) rfl
  · dsimp only; rw [hengine]; rfl
  · dsimp only; rw [hengine]
  · dsimp only; rw [hengine]; exact hsilent

theorem Transmits.armReceive (h : p.Transmits base frame) (noBreak : Bool) :
    Transmits base frame { p with engine := p.engine.armReceive noBreak } :=
  h.of_same (Engine.isSending_armReceive p.engine noBreak) (fun _ => rfl) id rfl

theorem Transmits.setMode (h : p.Transmits base frame) (mode : Mode) :
    Transmits base frame { p with engine := p.engine.setMode mode } := by
  cases mode with
  | receive => exact h.of_same rfl (fun _ => rfl) id rfl
  | transmit => exact h.of_same rfl (fun _ => rfl) (fun _ => rfl) rfl

/-- A frame that is given up stays as far as it is. -/
theorem Transmits.givenUp (h : p.Transmits base frame) :
    (givenUp line.taped p).Transmits base frame := by
  have haccepted : (Port.givenUp line.taped p).world.accepted = p.world.accepted := by
    unfold Port.givenUp
    split <;> rfl
  obtain ⟨sent, hsent, hsofar⟩ := h.accepted
  exact .of_rests ⟨isSending_abortSend p.engine, haccepted.trans hsofar⟩ hsent

/-- No call does harm to a frame on its way. -/
theorem Transmits.after (h : p.Transmits base frame) (call : Call)
    (hcall : p.engine.isSending = true ∨ call.begins = false) :
    (call.after line.taped p).Transmits base frame := by
  cases call with
  | event kind => exact h.onEvent kind
  | poll => exact (kept_transmits line base frame).polled h
  | ask => exact (kept_transmits line base frame).poll h
  | checkIdle => exact (kept_transmits line base frame).now (h.checkIdle _)
  | now => exact (kept_transmits line base frame).now h
  | delay micros => exact h.of_same rfl (fun _ => rfl) id rfl
  | setMode mode => exact h.setMode mode
  | takeFault => exact h.popFault
  | edit f =>
    rw [Call.after, exec_withFront, interrupted_undisturbed]
    dsimp only
    split_ifs with hsending
    · exact h
    · exact h.of_same rfl (fun hs => absurd hs hsending) id rfl
  | sendFrame size withBreak turnaround =>
    have hsending : p.engine.isSending = true := hcall.resolve_right nofun
    rw [Call.after, exec_sendFrame, interrupted_undisturbed]
    dsimp only
    rw [Engine.beginSend_eq, if_pos hsending]
    exact h
  | sendNoBreak bytes =>
    have hsending : p.engine.isSending = true := hcall.resolve_right nofun
    rw [Call.after, exec_sendNoBreak, interrupted_undisturbed]
    dsimp only
    rw [if_pos hsending]
    exact h
  | abortSend =>
    rw [Call.after, exec_abortSend, interrupted_undisturbed]
    have hgiven : (Port.givenUp line.undisturbed.taped p).Transmits base frame := h.givenUp
    exact hgiven
  | enterReceive =>
    rw [Call.after, exec_enterReceive, interrupted_undisturbed]
    dsimp only
    split_ifs
    · exact h
    · exact h.of_same rfl (fun _ => rfl) id rfl
    · have harmed := h.popFault.armReceive false
      exact harmed.of_same rfl (fun _ => rfl) id rfl
  | arrival => exact h.takeFrame.popFault
  | tryLock =>
    rw [Call.after, exec_tryLock, interrupted_undisturbed]
    dsimp only
    split_ifs
    · exact h
    · exact h.of_same rfl (fun _ => rfl) id rfl
  | frame | read | snapshot | nextTransaction | sendProgress | leaveReceive | nest | unlock =>
    -- these touch neither the engine nor the tape
    exact h.of_same rfl (fun _ => rfl) id rfl

/-! ## The whole transmission -/

/-- An accepted frame is on its way, or was sent at once. -/
theorem Begins.transmits (h : Begins line.taped p frame p₁) :
    p₁.Transmits p.world.accepted frame ∧
      (p₁.engine.isSending = false → p₁.world.accepted = p.world.accepted ++ frame) := by
  have hline := line.accounts_taped.undisturbed
  cases h with
  | frame size withBreak turnaround h =>
    rw [exec_sendFrame, interrupted_undisturbed] at h
    obtain ⟨hok, rfl⟩ := Prod.mk.inj h
    obtain ⟨hcarries, hwhole⟩ := Engine.Carries.of_beginSend hline rfl hok
    exact ⟨.of_carries hcarries, hwhole⟩
  | noBreak bytes h =>
    rw [exec_sendNoBreak, interrupted_undisturbed] at h
    dsimp only at h
    split_ifs at h with hsending hlength
    · cases h
    · cases h
    · obtain ⟨hok, rfl⟩ := Prod.mk.inj h
      have hcount := not_not.mp hlength
      have hprefix :=
        FrameBuffer.prefix_writeAt (List.nil_prefix (l := p.engine.front.slots)) hcount
      have hbytes : (p.engine.front.writeAt 0 frame).2.slots.take
          (p.engine.front.writeAt 0 frame).1 = frame := by
        rw [hcount]
        exact (List.prefix_iff_eq_take.mp hprefix).symm
      obtain ⟨hcarries, hwhole⟩ := Engine.Carries.of_beginSend hline rfl hok
      rw [hbytes] at hcarries hwhole
      exact ⟨.of_carries hcarries, hwhole⟩

theorem Underway.transmits (h : Underway line.taped p q) (hp : p.Transmits base frame) :
    q.Transmits base frame := by
  induction h with
  | begun => exact hp
  | call call _ hcall ih => exact ih.after call hcall

/-- A frame stays underway during any calls that begin no further one. -/
theorem Underway.run (calls : List Call) (h : Underway line.taped p q)
    (hcalls : calls.all (!·.begins) = true) :
    Underway line.taped p (calls.foldl (fun p call => call.after line.taped p) q) := by
  induction calls generalizing q with
  | nil => exact h
  | cons call calls ih =>
    rw [List.all_cons, Bool.and_eq_true, Bool.not_eq_true'] at hcalls
    exact ih (h.call call (.inr hcalls.1)) hcalls.2

/-- From the moment a frame is accepted until the next one is, the transport has accepted a first
part of it; all of it when the engine finishes the frame, be it at once. -/
theorem transmission (hbegins : Begins line.taped p frame p₁) (hcalls : Underway line.taped p₁ q) :
    (∃ sent, sent <+: frame ∧ q.world.accepted = p.world.accepted ++ sent) ∧
      (p₁.engine.isSending = false → p₁.world.accepted = p.world.accepted ++ frame) ∧
      ∀ kind, q.Finishes line.taped kind →
        (q.onEvent line.taped kind).world.accepted = p.world.accepted ++ frame := by
  obtain ⟨hp₁, hwhole⟩ := hbegins.transmits
  have hq := hcalls.transmits hp₁
  exact ⟨hq.accepted, hwhole, fun _ => hq.finish⟩

/-- A port with three levels to send, over a line with alarms that takes two bytes at a time. -/
def laden : Port (Tape Simulation.World) Simulation.LineCall where
  config := {}
  engine := { Engine.create 4 {} with front := ⟨[1, 2, 3, 0], 0, 0, 0⟩ }
  world := ⟨{ Simulation.World.quiet with alarms := true, chunk := 2 }, [9]⟩
  driverFault := none
  waiting := false
  lockDepth := 0
  transaction := 0
  patience := 8

/-- The same port in the break in front of the frame. -/
def ladenBegun : Port (Tape Simulation.World) Simulation.LineCall :=
  Call.after Simulation.line.taped (.sendFrame 3 true .receive) laden

/-- The same port in the middle of the frame. -/
def ladenUnderway : Port (Tape Simulation.World) Simulation.LineCall :=
  [Call.event .alarm, .event .alarm, .setMode .receive, .poll, .event .txDone].foldl
    (fun p call => call.after Simulation.line.taped p) ladenBegun

theorem transmission_laden : Begins Simulation.line.taped laden [1, 2, 3] ladenBegun ∧
    Underway Simulation.line.taped ladenBegun ladenUnderway ∧
    ladenUnderway.Finishes Simulation.line.taped .txDone ∧
    (ladenUnderway.onEvent Simulation.line.taped .txDone).world.accepted = [9, 1, 2, 3] := by
  have hbegins : Begins Simulation.line.taped laden [1, 2, 3] ladenBegun :=
    .frame 3 true .receive (Prod.ext (by rfl) rfl)
  have hcalls : Underway Simulation.line.taped ladenBegun ladenUnderway :=
    Underway.begun.run _ rfl
  have hfinish : ladenUnderway.Finishes Simulation.line.taped .txDone :=
    ⟨by decide +kernel, by rfl, by decide +kernel⟩
  exact ⟨hbegins, hcalls, hfinish, (transmission hbegins hcalls).2.2 .txDone hfinish⟩

end Port

end LightingBus
