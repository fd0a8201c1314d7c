import LightingBus.Proofs.Line.Transmission

/-!
# Breaks

`Port.inBreak_iff`: whatever is done with a port, its line is in a break exactly while the engine is
in the break of a frame, with one exception. If the line fails to forget received bytes meanwhile,
the engine gives up the frame and nobody ends the break (`Port.break_stranded`).

1. `Transport.watched` is a line that writes down what it is told about breaks.
2. `Engine.InStep` compares the state of an engine with that record; it is `BreakRecord.Released`
   that stands when the driver fails, since the engine then gives up its frame.
3. `keeps_startFrame` and `keeps_handle` follow the calls of the engine, `InStep.after` those of a
   port.
-/

namespace LightingBus

variable {σ ε α : Type}

/-! ## What a line is told about breaks -/

/-- What was done to a line to begin and to end breaks. -/
structure BreakRecord where
  /-- The last of beginning and ending a break was beginning one. -/
  asserted : Bool := false
  /-- Since then the line has failed to forget received bytes. -/
  disturbed : Bool := false
  /-- A break could not be begun, or not be ended. -/
  refused : Bool := false
  deriving DecidableEq

namespace BreakRecord

/-- The line is in a break and has not failed since. -/
def held (b : BreakRecord) : Bool :=
  b.asserted && !b.disturbed

/-- The line is in no break, or in one that was disturbed. -/
def Released (b : BreakRecord) : Prop :=
  b.refused = false → b.held = false

end BreakRecord

/-- A world and the record of its breaks. -/
structure Watched (σ : Type) where
  world : σ
  breaks : BreakRecord

namespace Watched

/-- An action by which no break begins or ends. -/
def lift (f : σ → α × σ) (t : Watched σ) : α × Watched σ :=
  ((f t.world).1, { t with world := (f t.world).2 })

/-- An action that is written down as one thing if it succeeds, and as another if it fails. -/
def note (succeeds fails : BreakRecord → BreakRecord) (f : σ → Except ε Unit × σ) (t : Watched σ) :
    Except ε Unit × Watched σ :=
  match f t.world with
  | (.error x, w) => (.error x, ⟨w, fails t.breaks⟩)
  | (.ok _, w) => (.ok (), ⟨w, succeeds t.breaks⟩)

end Watched

/-- The same line, which writes down its breaks. -/
def Transport.watched (line : Transport σ ε) : Transport (Watched σ) ε where
  autoBreak := line.autoBreak
  write bytes := Watched.lift (line.write bytes)
  read count := Watched.lift (line.read count)
  assertBreak := Watched.note (fun b => { b with asserted := true, disturbed := false })
    (fun b => { b with refused := true }) line.assertBreak
  releaseBreak := Watched.note (fun b => { b with asserted := false, disturbed := false })
    (fun b => { b with refused := true }) line.releaseBreak
  flushReceived := Watched.note id (fun b => { b with disturbed := true }) line.flushReceived
  flushQueued := Watched.lift line.flushQueued
  poll := Watched.lift line.poll
  interrupts := Watched.lift line.interrupts
  now := Watched.lift line.now
  delay micros t := { t with world := line.delay micros t.world }
  setAlarm micros := Watched.lift (line.setAlarm micros)

theorem BreakRecord.held_disturbed (b : BreakRecord) : { b with disturbed := true }.held = false :=
  Bool.and_false b.asserted

/-! ## Engines -/

namespace Engine

/-- The engine is in the break of a frame exactly while the line is in a break. -/
def InStep (e : Engine) (b : BreakRecord) : Prop :=
  b.refused = false → (e.txState = .inBreak ↔ b.held = true)

/-- An outcome that is in step, or at which the driver has failed and the line is in no break that
the engine could know of. -/
def Keeps : Except ε Unit × Engine × Watched σ → Prop :=
  Port.Ends (fun _ s => s.1.InStep s.2.breaks) fun _ s => s.2.breaks.Released

variable {line : Transport σ ε} {e e₁ : Engine} {b : BreakRecord} {t t₁ : Watched σ}

theorem InStep.of_txState (h : e.InStep b) (hstate : e₁.txState = e.txState) : e₁.InStep b := by
  unfold InStep
  rw [hstate]
  exact h

theorem InStep.released (h : e.InStep b) (hstate : e.txState ≠ .inBreak) : b.Released :=
  fun hrefused => Bool.eq_false_iff.mpr fun hheld => hstate ((h hrefused).mpr hheld)

theorem InStep.of_released (h : b.Released) (hstate : e.txState ≠ .inBreak) : e.InStep b := by
  intro hrefused
  rw [h hrefused]
  exact iff_of_false hstate Bool.false_ne_true

theorem ne_inBreak_of_idle (hidle : e.isSending = false) : e.txState ≠ .inBreak := by
  intro hstate
  rw [isSending, hstate] at hidle
  cases hidle

/-! ### Sending -/

theorem keeps_writeChunk (h : t.breaks.Released) (hstate : e.txState ≠ .inBreak) :
    Keeps (writeChunk line.watched e t) := by
  unfold writeChunk
  split_ifs
  · have hsame : (line.watched.write e.front.pending t).2.breaks = t.breaks := rfl
    generalize line.watched.write e.front.pending t = written at hsame
    obtain ⟨_ | count, t₁⟩ := written
    · have hreleased : t₁.breaks.Released := hsame ▸ h
      exact hreleased
    · exact .of_released (hsame ▸ h) hstate
  · exact .of_released h hstate

theorem finishSend_ne_inBreak (e : Engine) : e.finishSend.txState ≠ .inBreak :=
  ne_inBreak_of_idle (finishSend_keeps e).2.2.2

theorem keeps_startData (h : t.breaks.Released) : Keeps (startData line.watched e t) := by
  have hchunk : Keeps (writeChunk line.watched { e with txState := .sending } t) :=
    keeps_writeChunk h nofun
  have hsending := txState_writeChunk line.watched { e with txState := .sending } t
  unfold startData
  generalize writeChunk line.watched { e with txState := .sending } t = out at hchunk hsending
  obtain ⟨_ | _, e₁, t₁⟩ := out
  · exact hchunk
  · have hstep : e₁.InStep t₁.breaks := hchunk
    have hstate : e₁.txState = .sending := hsending
    have hreleased : t₁.breaks.Released := hstep.released (by rw [hstate]; nofun)
    dsimp only
    split_ifs
    · exact .of_released hreleased (finishSend_ne_inBreak e₁)
    · exact hstep

/-- Ending a break leaves no break, unless that fails. -/
theorem released_releaseBreak (line : Transport σ ε) (t : Watched σ) :
    (line.watched.releaseBreak t).2.breaks.Released := by
  dsimp only [Transport.watched, Watched.note]
  split
  · nofun
  · exact fun _ => rfl

theorem keeps_endBreak : Keeps (endBreak line.watched e t) := by
  unfold endBreak
  have hreleased := released_releaseBreak line t
  generalize line.watched.releaseBreak t = out at hreleased
  obtain ⟨_ | _, t₁⟩ := out
  · exact hreleased
  · have halarm : (line.watched.setAlarm e.timing.markLength t₁).2.breaks.Released := hreleased
    dsimp only
    generalize line.watched.setAlarm e.timing.markLength t₁ = alarm at halarm
    obtain ⟨_ | _, t₂⟩ := alarm
    · exact keeps_startData halarm
    · exact .of_released halarm nofun

theorem keeps_startBreak (now : UInt64) : Keeps (startBreak line.watched e now t) := by
  unfold startBreak
  dsimp only [Transport.watched, Watched.note]
  generalize line.assertBreak t.world = asserted
  obtain ⟨_ | _, w₁⟩ := asserted
  · nofun
  · dsimp only [Watched.lift]
    generalize line.setAlarm e.timing.breakLength w₁ = alarm
    obtain ⟨_ | _, w₂⟩ := alarm
    · exact keeps_endBreak
    · exact fun _ => iff_of_true rfl rfl

theorem keeps_startFrame (h : t.breaks.Released) (withBreak : Bool) :
    Keeps (startFrame line.watched e withBreak t) := by
  have hnow : (line.watched.now t).2.breaks.Released := h
  rw [startFrame_eq]
  split_ifs
  · exact keeps_startData hnow
  · exact keeps_startBreak _
  · exact keeps_startData hnow

theorem inStep_beginSend (line : Transport σ ε) (h : e.InStep t.breaks) (size : ℕ)
    (withBreak : Bool) (turnaround : Turnaround)
    {out : Except (PortError ε) Unit × Engine × Watched σ}
    (hout : beginSend line.watched e size withBreak turnaround t = out) :
    out.2.1.InStep out.2.2.breaks := by
  rw [beginSend_eq] at hout
  split_ifs at hout with hsending
  · rw [← hout]
    exact h
  · rw [← hout]
    exact h
  · have hreleased := h.released (ne_inBreak_of_idle (Bool.eq_false_iff.mpr hsending))
    have hstart : Keeps (startFrame line.watched (e.prepared size turnaround) withBreak t) :=
      keeps_startFrame hreleased withBreak
    generalize startFrame line.watched (e.prepared size turnaround) withBreak t = started
      at hstart hout
    obtain ⟨_ | _, e₁, t₁⟩ := started
    · rw [← hout]
      exact .of_released hstart nofun
    · rw [← hout]
      exact hstart

/-! ### Events -/

/-- The line forgets received bytes. If it fails in a break, the break is disturbed. -/
theorem breaks_flushReceived (line : Transport σ ε) (t : Watched σ) :
    Port.Ends (fun _ t' => t'.breaks = t.breaks) (fun _ t' => t'.breaks.Released)
      (line.watched.flushReceived t) := by
  dsimp only [Transport.watched, Watched.note]
  split
  · exact fun _ => t.breaks.held_disturbed
  · rfl

theorem keeps_discard (h : e.InStep t.breaks) : Keeps (discard line.watched e t) := by
  unfold discard
  have hflush := breaks_flushReceived line t
  generalize line.watched.flushReceived t = flushed at hflush
  obtain ⟨_ | _, t₁⟩ := flushed
  · exact hflush
  · have hsame : t₁.breaks = t.breaks := hflush
    have hstep : e.InStep t₁.breaks := hsame ▸ h
    exact hstep

theorem keeps_onOverflow (h : e.InStep t.breaks) : Keeps (onOverflow line.watched e t) := by
  unfold onOverflow
  have hflush := breaks_flushReceived line t
  generalize line.watched.flushReceived t = flushed at hflush
  obtain ⟨_ | _, t₁⟩ := flushed
  · exact hflush
  · have hsame : t₁.breaks = t.breaks := hflush
    have hstep : e.InStep t₁.breaks := hsame ▸ h
    exact hstep.of_txState rfl

theorem txState_completeIfTold (e : Engine) : e.completeIfTold.txState = e.txState := by
  unfold completeIfTold
  split
  · split_ifs <;> rfl
  · rfl

theorem keeps_probeFull (h : t.breaks.Released) (hstate : e.txState ≠ .inBreak) :
    Keeps (probeFull line.watched e t) := by
  unfold probeFull
  have hread : (line.watched.read 1 t).2.breaks.Released := h
  generalize line.watched.read 1 t = probed at hread
  obtain ⟨_ | _ | _, t₁⟩ := probed
  · exact hread
  · exact .of_released hread (by rwa [txState_completeIfTold])
  · have hflush := breaks_flushReceived line t₁
    dsimp only
    generalize line.watched.flushReceived t₁ = flushed at hflush
    obtain ⟨_ | _, t₂⟩ := flushed
    · exact hflush
    · have hsame : t₂.breaks = t₁.breaks := hflush
      exact .of_released (hsame ▸ hread) hstate

theorem keeps_takeBytes (h : t.breaks.Released) (hstate : e.txState ≠ .inBreak) :
    Keeps (takeBytes line.watched e t) := by
  unfold takeBytes
  have hread : (line.watched.read (e.back.capacity - e.back.head) t).2.breaks.Released := h
  generalize line.watched.read (e.back.capacity - e.back.head) t = taken at hread
  obtain ⟨_ | bytes, t₁⟩ := taken
  · exact hread
  · dsimp only
    split_ifs
    · exact keeps_probeFull hread hstate
    · exact .of_released hread (by rwa [txState_completeIfTold])

theorem keeps_onRxData (h : e.InStep t.breaks) (now : UInt64) :
    Keeps (onRxData line.watched e now t) := by
  unfold onRxData
  split_ifs with haccepts
  · split
    · exact keeps_discard h
    next e₁ hbegin =>
      have hstate := ne_inBreak_of_idle (acceptsRx_iff.mp haccepts).2
      have hdata := (listens_beginData? (mode_of_acceptsRx haccepts) hbegin).txState
      exact keeps_takeBytes (h.released hstate) (by rwa [hdata])
  · exact keeps_discard h

theorem keeps_onTxDone (h : e.InStep t.breaks) : Keeps (onTxDone line.watched e t) := by
  unfold onTxDone
  split_ifs with hsending
  · have hstate : e.txState ≠ .inBreak := by rw [hsending]; nofun
    exact keeps_writeChunk (h.released hstate) hstate
  · have hstate : e.txState ≠ .inBreak := by rw [hsending]; nofun
    exact .of_released (h.released hstate) (finishSend_ne_inBreak e)
  · exact h

theorem keeps_onAlarm (h : e.InStep t.breaks) : Keeps (onAlarm line.watched e t) := by
  unfold onAlarm
  split
  · exact keeps_endBreak
  next hmark => exact keeps_startData (h.released (by rw [hmark]; nofun))
  all_goals exact h

/-- Only beginning a frame and the alarm at the end of a break touch the break, and whatever else
fails, nothing but forgetting received bytes can fail in a break. -/
theorem keeps_handle (h : e.InStep t.breaks) (event : Event) :
    Keeps (handle line.watched event e t) := by
  cases event with
  | breakDetected => exact h.of_txState (listens_onBreak e _).txState
  | mabElapsed =>
    refine h.of_txState ?_
    dsimp only
    split_ifs <;> rfl
  | rxData =>
    have hnow : e.InStep (line.watched.now t).2.breaks := h
    exact keeps_onRxData hnow (line.watched.now t).1
  | rxTimeout => exact h.of_txState (listens_onRxTimeout e).txState
  | parityError => exact h.of_txState (listens_onParityError e).txState
  | overflow => exact keeps_onOverflow h
  | txEmpty =>
    unfold handle
    dsimp only
    split_ifs with hsending
    · have hstate : e.txState ≠ .inBreak := by rw [hsending]; nofun
      exact keeps_writeChunk (h.released hstate) hstate
    · exact h
  | txDone => exact keeps_onTxDone h
  | alarm => exact keeps_onAlarm h

theorem inStep_onEvent (h : e.InStep t.breaks) (event : Event)
    {out : Except ε Unit × Engine × Watched σ} (hout : onEvent line.watched event e t = out) :
    out.2.1.InStep out.2.2.breaks := by
  have hhandle : Keeps (handle line.watched event e t) := keeps_handle h event
  unfold onEvent at hout
  generalize handle line.watched event e t = handled at hhandle hout
  obtain ⟨_ | _, e₁, t₁⟩ := handled
  · rw [← hout]
    exact .of_released hhandle (ne_inBreak_of_idle (fail_keeps e₁).2.2.2.2)
  · rw [← hout]
    exact hhandle

end Engine

/-! ## Ports -/

namespace Port

variable {line : Transport σ ε} {p : Port (Watched σ) ε}

/-- The engine of the port is in step with its line. -/
def InStep (p : Port (Watched σ) ε) : Prop :=
  p.engine.InStep p.world.breaks

theorem InStep.of_same {q : Port (Watched σ) ε} (h : p.InStep)
    (hstate : q.engine.txState = p.engine.txState) (hsame : q.world.breaks = p.world.breaks) :
    q.InStep := by
  unfold InStep
  rw [hsame]
  exact Engine.InStep.of_txState h hstate

theorem kept_inStep (line : Transport σ ε) : Kept line.watched InStep where
  onEvent {p} kind h := by
    rw [onEvent_eq]
    exact Engine.inStep_onEvent h kind rfl
  checkIdle {p} now h := h.of_same (Engine.listens_checkIdle p.engine now).txState rfl
  interrupts h := h.of_same rfl rfl
  poll h := h.of_same rfl rfl
  now h := h.of_same rfl rfl

theorem InStep.popFault (h : p.InStep) : p.popFault.2.InStep := by
  obtain ⟨hengine, hworld, -⟩ := popFault_keeps p
  exact h.of_same (by rw [hengine]) (by rw [hworld])

/-- Who begins to listen may forget that a frame is sent, but no break. -/
theorem InStep.armReceive (h : p.InStep) (noBreak : Bool) :
    InStep { p with engine := p.engine.armReceive noBreak } := by
  unfold InStep Engine.armReceive
  split_ifs with hdone
  · have hstate : p.engine.txState ≠ .inBreak := by rw [hdone]; nofun
    exact .of_released (Engine.InStep.released h hstate) nofun
  · exact h.of_same rfl rfl

/-- Who gives up a frame in its break ends the break. -/
theorem InStep.givenUp (h : p.InStep) : (givenUp line.watched p).InStep := by
  have hidle := Engine.ne_inBreak_of_idle (isSending_abortSend p.engine)
  refine .of_released ?_ hidle
  unfold Port.givenUp
  dsimp only
  split
  · exact Engine.released_releaseBreak line p.world
  all_goals
    next hstate => exact Engine.InStep.released h (by rw [hstate]; nofun)

/-- No call gets the engine out of step. -/
theorem InStep.after (h : p.InStep) (call : Call) : (call.after line.watched p).InStep := by
  cases call with
  | event kind => exact (kept_inStep line).onEvent kind h
  | poll => exact (kept_inStep line).polled h
  | ask => exact (kept_inStep line).poll h
  | checkIdle => exact (kept_inStep line).now ((kept_inStep line).checkIdle _ h)
  | now => exact (kept_inStep line).now h
  | delay micros => exact h.of_same rfl rfl
  | setMode mode => cases mode <;> exact h.of_same rfl rfl
  | takeFault => exact h.popFault
  | edit f =>
    rw [Call.after, exec_withFront, interrupted_undisturbed]
    dsimp only
    split_ifs
    · exact h
    · exact h.of_same rfl rfl
  | sendFrame size withBreak turnaround =>
    exact Engine.inStep_beginSend line.undisturbed h size withBreak turnaround rfl
  | sendNoBreak bytes =>
    rw [Call.after, exec_sendNoBreak, interrupted_undisturbed]
    dsimp only
    split_ifs
    · exact h
    · exact h.of_same rfl rfl
    · refine Engine.inStep_beginSend line.undisturbed ?_ _ false .none rfl
      exact Engine.InStep.of_txState h rfl
  | abortSend =>
    rw [Call.after, exec_abortSend, interrupted_undisturbed]
    have hgiven : (Port.givenUp line.undisturbed.watched p).InStep := h.givenUp
    exact hgiven
  | enterReceive =>
    rw [Call.after, exec_enterReceive, interrupted_undisturbed]
    dsimp only
    split_ifs
    · exact h
    · exact h.of_same rfl rfl
    · exact (h.popFault.armReceive false).of_same rfl rfl
  | arrival =>
    have htaken : InStep { p with engine := p.engine.takeFrame.2 } :=
      h.of_same (by rw [takeFrame_keeps]) rfl
    exact htaken.popFault
  | tryLock =>
    rw [Call.after, exec_tryLock, interrupted_undisturbed]
    dsimp only
    split_ifs
    · exact h
    · exact h.of_same rfl rfl
  | frame | read | snapshot | nextTransaction | sendProgress | leaveReceive | nest | unlock =>
    -- these touch neither the engine nor the line
    exact h.of_same rfl rfl

/-! ## Runs -/

/-- The port after one call and another. -/
def afterAll (line : Transport σ ε) (calls : List Call) (p : Port σ ε) : Port σ ε :=
  calls.foldl (fun p call => call.after line p) p

theorem InStep.afterAll (calls : List Call) (h : p.InStep) :
    (afterAll line.watched calls p).InStep := by
  induction calls generalizing p with
  | nil => exact h
  | cons call calls ih => exact ih (h.after call)

/-- A new port sends nothing over a line in no break. -/
theorem inStep_create {capacity patience : ℕ} {config : LineConfig} {w : σ}
    (h : create capacity config patience ⟨w, {}⟩ = .ok p) : p.InStep := by
  rw [create_eq_ok h]
  exact fun _ => iff_of_false nofun Bool.false_ne_true

/-- Whatever is done with a new port, and whatever fails but beginning and ending breaks: its line
is in a break exactly while the engine is in the break of a frame, unless the line has failed to
forget received bytes in that break. Then the engine is in no break. -/
theorem inBreak_iff (line : Transport σ ε) {capacity patience : ℕ} {config : LineConfig} {w : σ}
    {p : Port (Watched σ) ε} (hp : create capacity config patience ⟨w, {}⟩ = .ok p)
    (calls : List Call) (hline : (afterAll line.watched calls p).world.breaks.refused = false) :
    let q := afterAll line.watched calls p
    q.engine.txState = .inBreak ↔
      q.world.breaks.asserted = true ∧ q.world.breaks.disturbed = false := by
  have hstep : (afterAll line.watched calls p).InStep := (inStep_create hp).afterAll calls
  have hiff := hstep hline
  rwa [BreakRecord.held, Bool.and_eq_true, Bool.not_eq_true'] at hiff

/-- A new port of a line with alarms that does not forget what it has received. -/
def retentive : Port (Watched Simulation.World) Simulation.LineCall where
  config := {}
  engine := .create 8 {}
  world := ⟨{ Simulation.World.quiet with alarms := true, failing := [.flushReceived] }, {}⟩
  driverFault := none
  waiting := false
  lockDepth := 0
  transaction := 0
  patience := 8

/-- In the mark behind the break the failure does no harm; the next frame begins with a break. -/
theorem inBreak_retentive :
    let calls := [.sendFrame 3 true .receive, .event .alarm, .event .overflow,
      .sendFrame 2 true .none]
    let q := afterAll Simulation.line.watched calls retentive
    create 8 {} 8 retentive.world = .ok retentive ∧ q.world.breaks.refused = false ∧
      q.engine.txState = .inBreak ∧
      q.world.breaks.asserted = true ∧ q.world.breaks.disturbed = false := by
  have hcreate : create 8 {} 8 retentive.world = .ok retentive := rfl
  have hstate : (afterAll Simulation.line.watched [.sendFrame 3 true .receive, .event .alarm,
      .event .overflow, .sendFrame 2 true .none] retentive).engine.txState = .inBreak := by
    decide +kernel
  exact ⟨hcreate, rfl, hstate, (inBreak_iff Simulation.line hcreate _ rfl).mp hstate⟩

/-- In the break the failure lets the engine give up the frame. Nothing ends the break then, neither
the alarm nor who asks for the frame to be given up. -/
theorem break_stranded :
    let calls := [.sendFrame 3 true .receive, .event .overflow, .event .alarm, .abortSend]
    let q := afterAll Simulation.line.watched calls retentive
    create 8 {} 8 retentive.world = .ok retentive ∧ q.world.breaks.refused = false ∧
      q.world.breaks.asserted = true ∧ q.engine.txState = .idle := by
  refine ⟨rfl, ?_, ?_, ?_⟩ <;> decide +kernel

end Port

end LightingBus
