import LightingBus.Proofs.Line.Marks
import LightingBus.Proofs.Line.Tasks

/-!
# Faults that nobody has been told

A fault stays until a task takes it, whatever the line does. Who sends a frame takes an error of the
driver at most, and who begins to wait for a frame forgets faults only if the port did not listen
before. But the end of a frame that awaits a response turns the line around by itself, so the port
listens already and a fault from before the frame is told instead of the response.

1. `Pending` says that a fault is there to be told, and is kept by all that happens by itself.
2. `Turns` follows the turnaround along the calls of the source, as `Sends` does the bytes; so a
   port that has sent its frame listens (`ensures_waitSent_pending`).
3. `ensures_receive_pending`: the wait for the response ends with the fault.
-/

namespace LightingBus

variable {σ ε : Type}

/-- There is a fault among these that an owner is told. -/
def Faults.Reportable (f : Faults) : Prop :=
  f.bufferOverflow = true ∨ f.uartOverflow = true ∨ f.framingError = true

/-! ## The turnaround of a frame -/

namespace Engine

variable {line : Transport σ ε} {e e₁ : Engine} {w w₁ : σ} {r : Except ε Unit}
  {out : Except ε Unit × Engine × σ}

/-- The step of an engine from `e` to the outcome `out` at which the frame keeps its turnaround; if
it was the last step of a frame with a turnaround, the engine listens. -/
structure Turns (e : Engine) (out : Except ε Unit × Engine × σ) : Prop where
  turnaround : out.2.1.turnaround = e.turnaround
  mode : out.1 = .ok () → out.2.1.isSending = false → e.turnaround ≠ .none →
    out.2.1.mode = .receive

/-- Who still sends, or has failed, has not come to the turnaround. -/
theorem Turns.keep (hturnaround : e₁.turnaround = e.turnaround)
    (hsending : r = .ok () → e₁.isSending = true) : Turns e (r, e₁, w) := by
  refine ⟨hturnaround, fun hr hidle => ?_⟩
  rw [hsending hr] at hidle
  cases hidle

/-- A step may begin in another state with the same turnaround. -/
theorem Turns.after (h : Turns e₁ out) (hturnaround : e₁.turnaround = e.turnaround) :
    Turns e out := by
  constructor
  · exact h.turnaround.trans hturnaround
  · rw [← hturnaround]
    exact h.mode

theorem turns_finishSend (e : Engine) (w : σ) : Turns e (r, e.finishSend, w) := by
  refine ⟨?_, fun _ _ hturn => ?_⟩
  · unfold finishSend
    dsimp only
    split <;> rfl
  · unfold finishSend
    dsimp only
    split
    next hnone => exact absurd hnone hturn
    all_goals rfl

theorem turns_writeChunk (hsending : e.isSending = true) : Turns e (writeChunk line e w) := by
  unfold writeChunk
  split_ifs
  · rcases line.write e.front.pending w with ⟨_ | _, _⟩ <;> exact .keep rfl fun _ => hsending
  · exact .keep rfl fun _ => hsending

theorem turns_startData : Turns e (startData line e w) := by
  unfold startData
  have hchunk : Turns e (writeChunk line { e with txState := .sending } w) :=
    (turns_writeChunk rfl).after rfl
  have hstate := txState_writeChunk line { e with txState := .sending } w
  generalize writeChunk line { e with txState := .sending } w = out at hchunk hstate
  obtain ⟨_ | _, e₁, w₁⟩ := out
  · exact hchunk
  · dsimp only
    split_ifs
    · exact (turns_finishSend e₁ w₁).after hchunk.turnaround
    · exact .keep hchunk.turnaround fun _ => isSending_iff.mpr (.inr (.inr hstate))

theorem turns_endBreak : Turns e (endBreak line e w) := by
  unfold endBreak
  rcases line.releaseBreak w with ⟨_ | _, w₁⟩
  · exact .keep rfl nofun
  · dsimp only
    rcases line.setAlarm e.timing.markLength w₁ with ⟨_ | _, w₂⟩
    · exact turns_startData.after rfl
    · exact .keep rfl fun _ => rfl

theorem turns_startBreak (now : UInt64) : Turns e (startBreak line e now w) := by
  unfold startBreak
  dsimp only
  rcases line.assertBreak w with ⟨_ | _, w₁⟩
  · exact .keep rfl nofun
  · dsimp only
    rcases line.setAlarm e.timing.breakLength w₁ with ⟨_ | _, w₂⟩
    · exact turns_endBreak.after rfl
    · exact .keep rfl fun _ => rfl

theorem turns_startFrame (withBreak : Bool) : Turns e (startFrame line e withBreak w) := by
  rw [startFrame_eq]
  split_ifs
  · exact turns_startData.after rfl
  · exact (turns_startBreak _).after rfl
  · exact turns_startData

/-- Whatever event occurs while a frame is sent and none is received, the turnaround of the frame is
still to come, or the line has been turned around. -/
theorem turns_handle (hsending : e.isSending = true) (hsilent : e.isReceiving = false)
    (event : Event) : Turns e (handle line event e w) := by
  have hdeaf := acceptsRx_of_isSending hsending
  have hstay {w' : σ} : Turns e ((.ok () : Except ε Unit), e, w') := .keep rfl fun _ => hsending
  cases event with
  | breakDetected =>
    change Turns e (.ok (), e.onBreak (line.now w).1, (line.now w).2)
    rw [onBreak, hdeaf]
    exact hstay
  | mabElapsed =>
    rw [handle]
    split_ifs
    · exact .keep rfl fun _ => hsending
    · exact hstay
  | rxData =>
    change Turns e (onRxData line e (line.now w).1 (line.now w).2)
    rw [onRxData, hdeaf]
    unfold discard
    rcases line.flushReceived (line.now w).2 with ⟨_ | _, _⟩ <;> exact .keep rfl fun _ => hsending
  | rxTimeout =>
    rw [handle, onRxTimeout, hsilent]
    exact hstay
  | parityError =>
    rw [handle, onParityError, hsilent]
    exact hstay
  | overflow =>
    change Turns e (onOverflow line e w)
    unfold onOverflow
    rcases line.flushReceived w with ⟨_ | _, _⟩ <;> exact .keep rfl fun _ => hsending
  | txEmpty =>
    rw [handle]
    split_ifs
    · exact turns_writeChunk hsending
    · exact hstay
  | txDone =>
    change Turns e (onTxDone line e w)
    unfold onTxDone
    split_ifs
    · exact turns_writeChunk hsending
    · exact turns_finishSend e w
    · exact hstay
  | alarm =>
    change Turns e (onAlarm line e w)
    unfold onAlarm
    split
    · exact turns_endBreak
    · exact turns_startData
    all_goals exact hstay

theorem turns_onEvent (hsending : e.isSending = true) (hsilent : e.isReceiving = false)
    (event : Event) : Turns e (onEvent line event e w) := by
  unfold onEvent
  have hhandle : Turns e (handle line event e w) := turns_handle hsending hsilent event
  generalize handle line event e w = out at hhandle
  obtain ⟨_ | _, e₁, w₁⟩ := out
  · have hfail : e₁.fail.turnaround = e₁.turnaround := by
      unfold fail
      dsimp only
      split_ifs <;> rfl
    exact .keep (hfail.trans hhandle.turnaround) nofun
  · exact hhandle

/-- The engine listens and does not send. -/
def Listening (e : Engine) : Prop :=
  e.isSending = false ∧ e.mode = .receive

/-- The engine listens, or sends a frame after which it will. -/
def TurnsAround (e : Engine) : Prop :=
  e.Listening ∨ e.isSending = true ∧ e.isReceiving = false ∧ e.turnaround ≠ .none

theorem TurnsAround.of_step (hturns : Turns e ((.ok () : Except ε Unit), e₁, w₁))
    (hturn : e.turnaround ≠ .none) (hsilent : e₁.isReceiving = false) : e₁.TurnsAround := by
  by_cases hstill : e₁.isSending = true
  · right
    refine ⟨hstill, hsilent, fun hnone => hturn ?_⟩
    rw [← hturns.turnaround, hnone]
  · have hidle : e₁.isSending = false := Bool.eq_false_iff.mpr hstill
    exact .inl ⟨hidle, hturns.mode rfl hidle hturn⟩

theorem Listening.of_listens (h : e.Listening) (hlistens : Listens e e₁) : e₁.Listening :=
  ⟨(isSending_congr hlistens.txState).trans h.1, hlistens.mode.trans h.2⟩

theorem TurnsAround.onEvent {event : Event} (h : e.TurnsAround)
    (hout : onEvent line event e w = (.ok (), e₁, w₁)) : e₁.TurnsAround := by
  obtain hlistening | ⟨hsending, hsilent, hturn⟩ := h
  · have hears := hears_onEvent line.accounts_true hlistening.1 event (w := w)
    rw [hout] at hears
    exact .inl (hlistening.of_listens hears.listens)
  · have hturns : Turns e (Engine.onEvent line event e w) := turns_onEvent hsending hsilent event
    have hsends := sends_onEvent line.accounts_true hsending hsilent event (w := w)
    rw [hout] at hturns hsends
    exact .of_step hturns hturn (hsends.silent hsilent)

theorem TurnsAround.beginSend {size : ℕ} {withBreak : Bool} {turnaround : Turnaround}
    (hturn : turnaround ≠ .none)
    (hout : beginSend line e size withBreak turnaround w = (.ok (), e₁, w₁)) :
    e₁.TurnsAround := by
  have hturns : Turns (e.prepared size turnaround)
      (startFrame line (e.prepared size turnaround) withBreak w) := turns_startFrame withBreak
  have hsends := sends_startFrame line.accounts_true withBreak (w := w)
    (e := e.prepared size turnaround)
  rw [beginSend_eq] at hout
  split_ifs at hout
  · cases hout
  · cases hout
  · generalize startFrame line (e.prepared size turnaround) withBreak w = out at hout hturns hsends
    obtain ⟨_ | _, _, _⟩ := out
    · cases hout
    · cases hout
      exact .of_step hturns hturn (hsends.silent rfl)

/-! ## Faults and marks -/

/-- Faults are only added. -/
theorem noted_reportable : Marks.Noted fun m _ => m.faults.Reportable where
  clear := id
  complete := id
  driverError := id
  bufferOverflow _ := .inl rfl
  uartOverflow _ := .inr (.inl rfl)
  framingError _ := .inr (.inr rfl)

theorem alike_reportable (h : e.faults.Reportable) : Alike (fun m _ => m.faults.Reportable) e e :=
  ⟨rfl, h⟩

end Engine

namespace Port

variable {line : Transport σ ε} {p : Port σ ε}

/-! ## Pending faults -/

theorem faultError?_ne_none_iff {f : Faults} :
    (faultError? f : Option (PortError ε)) ≠ none ↔ f.Reportable := by
  unfold faultError? Faults.Reportable
  cases f.bufferOverflow <;> cases f.uartOverflow <;> cases f.framingError <;> simp

theorem faultError?_ne_driver (f : Faults) (x : ε) : faultError? f ≠ some (.driver x) := by
  unfold faultError?
  split_ifs <;> simp

/-- An error of the driver is told before the faults of the engine. -/
theorem popFault_eq (p : Port σ ε) : p.popFault.1 =
    match p.driverFault with
    | some x => some (.driver x)
    | none => faultError? p.engine.faults := by
  unfold popFault
  cases p.driverFault <;> rfl

/-- Whoever asks next for faults is told one. -/
def Pending (p : Port σ ε) : Prop :=
  p.driverFault ≠ none ∨ p.engine.faults.Reportable

theorem pending_iff : p.Pending ↔ p.popFault.1 ≠ none := by
  rw [popFault_eq, Pending]
  cases p.driverFault with
  | some x => simp
  | none =>
    rw [faultError?_ne_none_iff]
    simp

/-- Waiting too long is no fault. -/
theorem popFault_ne_timeout (p : Port σ ε) : p.popFault.1 ≠ some .timeout := by
  rw [popFault_eq]
  cases p.driverFault with
  | some x => simp
  | none =>
    unfold faultError?
    dsimp only
    split_ifs <;> simp

/-- The port with other faults that nobody has been told. -/
def withFaults (p : Port σ ε) (faults : Faults) (fault : Option ε) : Port σ ε :=
  { p with engine := { p.engine with faults := faults }, driverFault := fault }

/-- Two ports that tell the same have the same error of the driver, and without one they have the
same worst fault of the engine. -/
theorem of_popFault_withFaults {faults : Faults} {fault : Option ε}
    (h : (p.withFaults faults fault).popFault.1 = p.popFault.1) :
    fault = p.driverFault ∧ (p.driverFault ≠ none ∨
      (faultError? faults : Option (PortError ε)) = faultError? p.engine.faults) := by
  rw [popFault_eq, popFault_eq] at h
  change (match fault with
    | some x => some (PortError.driver x)
    | none => faultError? faults) = _ at h
  generalize p.driverFault = before at h ⊢
  rcases before with _ | y <;> rcases fault with _ | x
  · exact ⟨rfl, .inr h⟩
  · exact absurd h.symm (faultError?_ne_driver _ x)
  · exact absurd h (faultError?_ne_driver _ y)
  · cases h
    exact ⟨rfl, .inl (Option.some_ne_none _)⟩

theorem driverFault_onEvent_ne_none (event : Event) (h : p.driverFault ≠ none) :
    (p.onEvent line event).driverFault ≠ none := by
  unfold Port.onEvent
  split
  · exact Option.some_ne_none _
  · exact h

theorem kept_driverFault (line : Transport σ ε) : Kept line fun p => p.driverFault ≠ none where
  onEvent event h := driverFault_onEvent_ne_none event h
  checkIdle _ h := h
  interrupts h := h
  poll h := h
  now h := h

theorem kept_pending (line : Transport σ ε) : Kept line Pending where
  onEvent {p} event h := by
    obtain hfault | hreportable := h
    · exact .inl (driverFault_onEvent_ne_none event hfault)
    · right
      rw [onEvent_eq]
      exact (Engine.alike_onEvent Engine.noted_reportable.toKept
        (fun _ => Engine.noted_reportable) (Engine.alike_reportable hreportable) event).engine.rel
  checkIdle now h := h.imp id fun hreportable =>
    (Engine.alike_checkIdle Engine.noted_reportable (Engine.alike_reportable hreportable) now).rel
  interrupts h := h
  poll h := h
  now h := h

/-- What a task relies on that has nothing to do with what tasks share, the lock and the number of
the next request. -/
structure Unshared (line : Transport σ ε) (I : Port σ ε → Prop) : Prop extends Kept line I where
  congr {p : Port σ ε} (depth number : UInt8) : I p →
    I { p with lockDepth := depth, transaction := number }

theorem unshared_driverFault (line : Transport σ ε) :
    Unshared line fun p => p.driverFault ≠ none :=
  { kept_driverFault line with congr := fun _ _ => id }

theorem unshared_pending (line : Transport σ ε) : Unshared line Pending :=
  { kept_pending line with congr := fun _ _ => id }

theorem Unshared.stable {I : Port σ ε → Prop} (hI : Unshared line I) : Stable line I where
  interrupted h := hI.interrupted h
  now h := hI.now h
  lockDepth {p} depth h := hI.congr depth p.transaction h

theorem Unshared.ensures_nextTransaction {I : Port σ ε → Prop} (hI : Unshared line I)
    {R : PortError ε → Port σ ε → Prop} :
    Ensures I (nextTransaction line) (fun _ => I) R :=
  .step' (fun _ => hI.interrupted) fun p h => hI.congr p.lockDepth (p.transaction + 1) h

/-- Faults are not kept in the frame buffer. -/
theorem Kept.ensures_write {I : Port σ ε → Prop} (hI : Kept line I)
    (hfront : ∀ p front, I p → I { p with engine := { p.engine with front := front } })
    (bytes : Bytes) : Ensures I (write line bytes) (fun _ => I) fun _ _ => True :=
  .withFront (f := fun front => front.writeAt 0 bytes) (fun _ => hI.interrupted)
    (fun _ _ _ => trivial) fun p hp _ => hfront p _ hp

/-! ## From the frame to the response -/

/-- The port listens, or sends a frame after which it will, unless the driver has failed. -/
def TurnsAround (p : Port σ ε) : Prop :=
  p.driverFault ≠ none ∨ p.engine.TurnsAround

theorem kept_listening (line : Transport σ ε) : Kept line fun p => p.engine.Listening where
  onEvent {p} event h := by
    rw [onEvent_eq]
    exact h.of_listens (Engine.hears_onEvent line.accounts_true h.1 event).listens
  checkIdle {p} now h := h.of_listens (Engine.listens_checkIdle p.engine now)
  interrupts h := h
  poll h := h
  now h := h

theorem kept_turnsAround (line : Transport σ ε) : Kept line TurnsAround where
  onEvent {p} event h := by
    obtain hfault | haround := h
    · exact .inl (driverFault_onEvent_ne_none event hfault)
    · unfold Port.onEvent
      split
      next x e w hout => exact .inl (Option.some_ne_none x)
      next e w hout => exact .inr (haround.onEvent hout)
  checkIdle {p} now h := by
    refine h.imp id (Or.imp (fun hlistening => ?_) fun hsending => ?_)
    · exact hlistening.of_listens (Engine.listens_checkIdle p.engine now)
    · rw [Engine.checkIdle_of_silent hsending.2.1]
      exact hsending
  interrupts h := h
  poll h := h
  now h := h

theorem ensures_sendFrame_pending (size : ℕ) (withBreak : Bool) {turnaround : Turnaround}
    (hturn : turnaround ≠ .none) :
    Ensures Pending (sendFrame line size withBreak turnaround)
      (fun _ p => p.Pending ∧ p.TurnsAround) fun _ _ => True := by
  refine .step (fun _ => (kept_pending line).interrupted) fun p hp => ?_
  have haround {e : Engine} {w : σ} (hout : Engine.beginSend line p.engine size withBreak
      turnaround p.world = (.ok (), e, w)) : e.TurnsAround := .beginSend hturn hout
  have hreportable (h : p.engine.faults.Reportable) :
      (Engine.beginSend line p.engine size withBreak turnaround p.world).2.1.faults.Reportable :=
    (Engine.alike_beginSend Engine.noted_reportable.toKept (Engine.alike_reportable h) size
      withBreak turnaround).engine.rel
  dsimp only
  generalize Engine.beginSend line p.engine size withBreak turnaround p.world = out
    at haround hreportable
  obtain ⟨_ | _, e, w⟩ := out
  · trivial
  · exact ⟨hp.imp id hreportable, .inr (haround rfl)⟩

theorem ensures_sendProgress_pending {R : PortError ε → Port σ ε → Prop} :
    Ensures (fun p => p.Pending ∧ p.TurnsAround) (sendProgress line)
      (fun seen p => seen.2 = none →
        (p.Pending ∧ p.TurnsAround) ∧ (seen.1 = false → p.engine.Listening)) R := by
  have hkept := (kept_pending line).and (kept_turnsAround line)
  refine .step' (fun _ => hkept.interrupted) fun p hp (hnone : p.driverFault = none) => ?_
  have hreportable : p.engine.faults.Reportable := hp.1.resolve_left fun h => h hnone
  have haround : p.engine.TurnsAround := hp.2.resolve_left fun h => h hnone
  refine ⟨⟨.inr hreportable, .inr haround⟩, fun (hidle : p.engine.isSending = false) => ?_⟩
  refine haround.resolve_right fun hsending => ?_
  rw [hidle] at hsending
  exact Bool.false_ne_true hsending.1

theorem ensures_awaitSent_pending (timeout : UInt32) (start : UInt64) (turns : ℕ) :
    Ensures (fun p => p.Pending ∧ p.TurnsAround) (awaitSent line timeout start turns)
      (fun _ p => p.Pending ∧ p.engine.Listening) fun _ _ => True := by
  have hkept := (kept_pending line).and (kept_turnsAround line)
  induction turns with
  | zero => exact .throw fun _ _ => trivial
  | succ turns ih =>
    refine .bind hkept.ensures_poll fun _ => .bind ensures_sendProgress_pending fun seen => ?_
    split
    · exact .throw fun _ _ => trivial
    · exact .pure fun p h => ⟨(h rfl).1.1, (h rfl).2 rfl⟩
    · refine .bind (Q := fun _ p => p.Pending ∧ p.TurnsAround)
        (.now fun p h => hkept.now (h rfl).1) fun now => ?_
      split_ifs
      · refine .bind (Q := fun _ _ => True) ?_ fun _ => .throw fun _ _ => trivial
        exact .abortSend (fun _ => hkept.interrupted) fun _ _ => trivial
      · exact ih

/-- Who has sent its frame to the end still has a fault to be told, and listens. -/
theorem ensures_waitSent_pending (timeout : UInt32) :
    Ensures (fun p => p.Pending ∧ p.TurnsAround) (waitSent line timeout)
      (fun _ p => p.Pending ∧ p.engine.Listening) fun _ _ => True := by
  have hkept := (kept_pending line).and (kept_turnsAround line)
  refine .bind hkept.ensures_now fun start => ?_
  refine .bind (Q := fun _ p => p.Pending ∧ p.TurnsAround) (.get fun _ => id) fun p => ?_
  exact ensures_awaitSent_pending timeout start p.patience

theorem ensures_sendFrame_driverFault (size : ℕ) (withBreak : Bool) (turnaround : Turnaround) :
    Ensures (fun p => p.driverFault ≠ none) (sendFrame line size withBreak turnaround)
      (fun _ p => p.driverFault ≠ none) fun _ _ => True := by
  refine .step (fun _ => (kept_driverFault line).interrupted) fun p hp => ?_
  dsimp only
  generalize Engine.beginSend line p.engine size withBreak turnaround p.world = out
  obtain ⟨_ | _, _, _⟩ := out
  · trivial
  · exact hp

/-- An error of the driver is taken for one of the frame being sent. -/
theorem ensures_waitSent_driverFault (timeout : UInt32) :
    Ensures (fun p => p.driverFault ≠ none) (waitSent line timeout)
      (fun _ _ => False) fun _ _ => True := by
  have hkept := kept_driverFault line
  refine .bind hkept.ensures_now fun start => ?_
  refine .bind (Q := fun _ p => p.driverFault ≠ none) (.get fun _ => id) fun p => ?_
  cases p.patience with
  | zero => exact .throw fun _ _ => trivial
  | succ turns =>
    refine .bind hkept.ensures_poll fun _ => ?_
    refine .bind (Q := fun seen _ => seen.2 ≠ none)
      (.step' (fun _ => hkept.interrupted) fun _ => id) fun seen => ?_
    split
    · exact .throw fun _ _ => trivial
    · exact fun _ hsome => absurd rfl hsome
    · exact fun _ hsome => absurd rfl hsome

theorem ensures_awaitFrame_pending (timeout : UInt32) (limit start : UInt64) (turns : ℕ) :
    Ensures Pending (awaitFrame line timeout limit start turns)
      (fun _ _ => False) fun e _ => e ≠ .timeout := by
  have hkept := kept_pending line
  cases turns with
  | zero => exact .throw fun _ _ => nofun
  | succ turns =>
    refine .bind hkept.ensures_poll fun _ => ?_
    refine .bind (Q := fun seen _ => seen.fault ≠ none ∧ seen.fault ≠ some .timeout)
      (.step' (fun _ => hkept.interrupted) fun p hp => ?_) fun seen => ?_
    · refine ⟨pending_iff.mp (hp.imp id fun hreportable => ?_), popFault_ne_timeout _⟩
      dsimp only
      rw [takeFrame_keeps]
      exact hreportable
    · obtain ⟨frame, _ | fault, receiving⟩ := seen
      · exact fun _ hseen => absurd rfl hseen.1
      · exact .throw fun _ hseen htimeout => hseen.2 (congrArg some htimeout)

/-- A port that listens already does not forget the fault: who begins to wait for a frame is told
it. -/
theorem ensures_receive_pending (timeout : UInt32) :
    Ensures (fun p => p.Pending ∧ p.engine.Listening) (receive line timeout)
      (fun _ _ => False) fun e _ => e ≠ .timeout := by
  have hkept := (kept_pending line).and (kept_listening line)
  have hwait : Ensures Pending (waitForFrame line timeout)
      (fun _ _ => False) fun e _ => e ≠ .timeout := by
    refine .bind (kept_pending line).ensures_now fun start => ?_
    refine .bind (Q := fun _ => Pending) (.get fun _ => id) fun p => ?_
    exact ensures_awaitFrame_pending timeout _ start p.patience
  refine .bind (Q := fun _ => Pending) (.step (fun _ => hkept.interrupted) fun p hp => ?_)
    fun _ => .bind hwait.attempt fun result => ?_
  · dsimp only
    split_ifs with hwaiting hmode
    · exact nofun
    · exact hp.1
    · -- faults are forgotten here only, where a port that listens does not come
      exact absurd hp.2.2 hmode
  · cases result with
    | ok size => exact fun _ hnever => hnever.elim
    | error e =>
      exact .bind (Q := fun _ _ => e ≠ .timeout) (.step' (fun _ => id) fun _ => id)
        fun _ => .conclude fun _ => id

end Port

end LightingBus
