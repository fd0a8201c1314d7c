import LightingBus.Proofs.Controller.Preservation
import LightingBus.Proofs.Line.Delivery

/-!
# When the line is driven

A transport drives the line with a break or with bytes. A journal of these moments tells when a
frame began and whether a break announced it.

1. `Transport.journaled` is a line that keeps a journal, `Transport.KeepsTime` a clock that is never
   turned back.
2. Where no frame is being sent, no event drives the line (`still_onEvent`). Once one is begun, none
   begins another break (`begun_onEvent`). To see either, the line is compared with one that cannot
   be driven.
3. `begun_startFrame` is the beginning of a frame: its break comes first, if it has one.
4. `Port.Undriven` and `Port.Drives` say the same of a port, `ensures_sendFrame_drives` and others
   of the tasks that send.
-/

namespace LightingBus

variable {σ ε : Type}

/-! ## The journal -/

/-- A moment at which a transport was made to drive the line. -/
structure Start where
  /-- The line was driven with a break, not with bytes. -/
  isBreak : Bool
  time : ℕ
  deriving DecidableEq

/-- How the line is first driven for a frame: with a break, if the frame has one, unless the
transport makes it by itself. -/
def Start.Opens (autoBreak withBreak : Bool) (first : Start) : Prop :=
  first.isBreak = withBreak ∨ (autoBreak && withBreak) = true

/-- A world, and when its transport was made to drive the line. -/
structure Journal (σ : Type) where
  world : σ
  starts : List Start

namespace Journal

/-- An action on the world of a journal that does not drive the line. -/
def lift {α : Type} (f : σ → α × σ) (j : Journal σ) : α × Journal σ :=
  ((f j.world).1, { j with world := (f j.world).2 })

/-- An action on the world of a journal that drives the line. -/
def drive {α : Type} (time : σ → ℕ) (isBreak : Bool) (f : σ → α × σ) (j : Journal σ) :
    α × Journal σ :=
  ((f j.world).1, ⟨(f j.world).2, j.starts ++ [⟨isBreak, time j.world⟩]⟩)

end Journal

namespace Transport

/-- The same line, which keeps a journal. -/
def journaled (line : Transport σ ε) (time : σ → ℕ) : Transport (Journal σ) ε where
  autoBreak := line.autoBreak
  write bytes := Journal.drive time false (line.write bytes)
  read count := Journal.lift (line.read count)
  assertBreak := Journal.drive time true line.assertBreak
  releaseBreak := Journal.lift line.releaseBreak
  flushReceived := Journal.lift line.flushReceived
  flushQueued := Journal.lift line.flushQueued
  poll := Journal.lift line.poll
  interrupts := Journal.lift line.interrupts
  now := Journal.lift line.now
  delay micros j := { j with world := line.delay micros j.world }
  setAlarm micros := Journal.lift (line.setAlarm micros)

/-- A clock that keeps time: `time` is what it shows, in microseconds and before it wraps around.
Nothing that is done on the line turns it back, and whoever waits waits at least as long as asked
for. -/
structure KeepsTime (line : Transport σ ε) (time : σ → ℕ) : Prop where
  shows (w : σ) : (line.now w).1 = UInt64.ofNat (time (line.now w).2)
  now (w : σ) : time w ≤ time (line.now w).2
  write (bytes : Bytes) (w : σ) : time w ≤ time (line.write bytes w).2
  read (count : ℕ) (w : σ) : time w ≤ time (line.read count w).2
  assertBreak (w : σ) : time w ≤ time (line.assertBreak w).2
  releaseBreak (w : σ) : time w ≤ time (line.releaseBreak w).2
  flushReceived (w : σ) : time w ≤ time (line.flushReceived w).2
  flushQueued (w : σ) : time w ≤ time (line.flushQueued w).2
  poll (w : σ) : time w ≤ time (line.poll w).2
  interrupts (w : σ) : time w ≤ time (line.interrupts w).2
  delay (micros : UInt32) (w : σ) : time w + micros.toNat ≤ time (line.delay micros w)
  setAlarm (micros : UInt32) (w : σ) : time w ≤ time (line.setAlarm micros w).2

end Transport

/-- A world, when its transport drove the line, and which bytes it accepted. -/
abbrev Observed (σ : Type) : Type := Tape (Journal σ)

/-- The same line, which keeps a journal and writes down what it accepts. -/
abbrev Transport.observed (line : Transport σ ε) (time : σ → ℕ) : Transport (Observed σ) ε :=
  (line.journaled time).taped

namespace Observed

/-- When the line was driven. -/
def starts (t : Observed σ) : List Start :=
  t.world.starts

/-- What the clock shows. -/
def clock (time : σ → ℕ) (t : Observed σ) : ℕ :=
  time t.world.world

/-- It is no earlier than `start`, and the line has not been driven again. -/
structure Still (time : σ → ℕ) (start : ℕ) (before : List Start) (t : Observed σ) : Prop where
  late : start ≤ t.clock time
  starts : t.starts = before

/-- Since `start` the line has been driven for a frame: once with its `opening`, then with bytes
only. -/
structure Begun (time : σ → ℕ) (start : ℕ) (before : List Start) (opening : Start → Prop)
    (t : Observed σ) : Prop where
  late : start ≤ t.clock time
  starts : ∃ first more, t.starts = before ++ first :: more ∧ (opening first ∧ start ≤ first.time) ∧
    ∀ s ∈ more, s.isBreak = false ∧ start ≤ s.time

variable {time : σ → ℕ} {start : ℕ} {before : List Start} {opening : Start → Prop}
  {t t' : Observed σ}

theorem Still.later (h : t.Still time start before) (htime : t.clock time ≤ t'.clock time)
    (hstarts : t'.starts = t.starts) : t'.Still time start before :=
  ⟨le_trans h.late htime, hstarts.trans h.starts⟩

theorem Still.begun (h : t.Still time start before) (htime : t.clock time ≤ t'.clock time)
    {first : Start} (hstarts : t'.starts = t.starts ++ [first]) (hfirst : opening first)
    (hnow : first.time = t.clock time) : t'.Begun time start before opening := by
  refine ⟨le_trans h.late htime, first, [], ?_, ⟨hfirst, ?_⟩, nofun⟩
  · rw [hstarts, h.starts]
  · rw [hnow]
    exact h.late

theorem Begun.later (h : t.Begun time start before opening) (htime : t.clock time ≤ t'.clock time)
    (hstarts : t'.starts = t.starts) : t'.Begun time start before opening :=
  ⟨le_trans h.late htime, hstarts ▸ h.starts⟩

theorem Begun.wrote (h : t.Begun time start before opening) (htime : t.clock time ≤ t'.clock time)
    (hstarts : t'.starts = t.starts ++ [⟨false, t.clock time⟩]) :
    t'.Begun time start before opening := by
  obtain ⟨hlate, first, more, hmore, hfirst, hbytes⟩ := h
  refine ⟨le_trans hlate htime, first, more ++ [⟨false, t.clock time⟩], ?_, hfirst, ?_⟩
  · rw [hstarts, hmore, List.append_assoc, List.cons_append]
  · rw [List.forall_mem_append]
    exact ⟨hbytes, List.forall_mem_singleton.mpr ⟨rfl, hlate⟩⟩

end Observed

/-! ## Lines that cannot be driven -/

namespace Transport

/-- The same line, which cannot begin a break. -/
def breakless (line : Transport σ ε) : Transport σ ε :=
  { line with assertBreak := fun w => (.ok (), w) }

/-- The same line, which can neither begin a break nor accept bytes. -/
def undriven (line : Transport σ ε) : Transport σ ε :=
  { line.breakless with write := fun _ w => (.ok 0, w) }

variable {line : Transport σ ε} {time : σ → ℕ} {start : ℕ} {before : List Start}
  {opening : Start → Prop}

/-- What stands as time goes by, and after writes, is taken away by a break at most. -/
theorem KeepsTime.accounts (hline : line.KeepsTime time) {J : Observed σ → Prop}
    (hlater : ∀ {t t' : Observed σ}, J t → t.clock time ≤ t'.clock time →
      t'.starts = t.starts → J t')
    (write : Bytes → Observed σ → Except ε ℕ × Observed σ)
    (hwrite : ∀ bytes t, J t → J (write bytes t).2) :
    Transport.Accounts { (line.observed time).breakless with write := write }
      fun _ t t' => J t → J t' where
  refl _ := id
  trans h₁ h₂ h := h₂ (h₁ h)
  accepted {bytes t t' count} h hJ := by
    have hwritten := hwrite bytes t hJ
    rwa [show write bytes t = (.ok count, t') from h] at hwritten
  refused {bytes t t' x} h hJ := by
    have hwritten := hwrite bytes t hJ
    rwa [show write bytes t = (.error x, t') from h] at hwritten
  read count t h := hlater h (hline.read count _) rfl
  assertBreak _ := id
  releaseBreak t h := hlater h (hline.releaseBreak _) rfl
  flushReceived t h := hlater h (hline.flushReceived _) rfl
  flushQueued t h := hlater h (hline.flushQueued _) rfl
  poll t h := hlater h (hline.poll _) rfl
  now t h := hlater h (hline.now _) rfl
  delay micros t h := hlater h (le_trans (Nat.le_add_right _ _) (hline.delay micros _)) rfl
  setAlarm micros t h := hlater h (hline.setAlarm micros _) rfl

/-- A write is a moment at which the line is driven, whether the driver fails or not. -/
theorem write_observed (hline : line.KeepsTime time) (bytes : Bytes) (t : Observed σ) :
    t.clock time ≤ ((line.observed time).write bytes t).2.clock time ∧
      ((line.observed time).write bytes t).2.starts = t.starts ++ [⟨false, t.clock time⟩] := by
  have hworld : ((line.observed time).write bytes t).2.world =
      ⟨(line.write bytes t.world.world).2, t.starts ++ [⟨false, t.clock time⟩]⟩ := by
    unfold observed taped journaled Journal.drive
    dsimp only
    cases (line.write bytes t.world.world).1 <;> rfl
  unfold Observed.clock Observed.starts
  rw [hworld]
  exact ⟨hline.write bytes t.world.world, rfl⟩

theorem accounts_begun (hline : line.KeepsTime time) :
    (line.observed time).breakless.Accounts
      fun _ t t' => t.Begun time start before opening → t'.Begun time start before opening :=
  hline.accounts (fun h => h.later) (line.observed time).write fun bytes t h =>
    h.wrote (write_observed hline bytes t).1 (write_observed hline bytes t).2

theorem accounts_still (hline : line.KeepsTime time) :
    (line.observed time).undriven.Accounts
      fun _ t t' => t.Still time start before → t'.Still time start before :=
  hline.accounts (fun h => h.later) (fun _ t => (.ok 0, t)) fun _ _ => id

end Transport

/-! ## Events -/

namespace Engine

variable {line : Transport σ ε} {time : σ → ℕ} {start : ℕ} {before : List Start}
  {opening : Start → Prop} {e : Engine} {t : Observed σ}

theorem onEvent_breakless (line : Transport σ ε) (event : Event) (e : Engine) (w : σ) :
    onEvent line.breakless event e w = onEvent line event e w := by
  cases event <;> rfl

/-- Where no frame is being sent, nothing is written. -/
theorem onEvent_undriven (line : Transport σ ε) (event : Event) (w : σ)
    (hidle : e.isSending = false) :
    onEvent line.undriven event e w = onEvent line event e w := by
  have hhandle : handle line.undriven event e w = handle line event e w := by
    cases event with
    | txEmpty | txDone | alarm =>
      unfold isSending at hidle
      unfold handle
      dsimp only [onTxDone, onAlarm]
      split at hidle <;> simp_all
    | _ => rfl
  rw [onEvent, onEvent, hhandle]

/-- Where no frame is being sent, an event does not drive the line. -/
theorem still_onEvent (hline : line.KeepsTime time) (hidle : e.isSending = false) (event : Event)
    (h : t.Still time start before) :
    (onEvent (line.observed time) event e t).2.2.Still time start before := by
  have hacc : (line.observed time).undriven.Accounts
      fun _ t t' => t.Still time start before → t'.Still time start before :=
    Transport.accounts_still hline
  have hears := hears_onEvent hacc hidle event (w := t)
  rw [onEvent_undriven _ _ _ hidle] at hears
  exact hears.wrote h

/-- Once a frame is begun, events drive the line with bytes only. -/
theorem begun_onEvent (hline : line.KeepsTime time)
    (hsilent : e.isSending = true → e.isReceiving = false) (event : Event)
    (h : t.Begun time start before opening) :
    (onEvent (line.observed time) event e t).2.2.Begun time start before opening := by
  have hacc : (line.observed time).breakless.Accounts
      fun _ t t' => t.Begun time start before opening → t'.Begun time start before opening :=
    Transport.accounts_begun hline
  cases hsending : e.isSending with
  | true =>
    have hsends := sends_onEvent hacc hsending (hsilent hsending) event (w := t)
    rw [onEvent_breakless] at hsends
    exact hsends.wrote h
  | false =>
    have hears := hears_onEvent hacc hsending event (w := t)
    rw [onEvent_breakless] at hears
    exact hears.wrote h

/-! ## The beginning of a frame -/

theorem begun_startData (hline : line.KeepsTime time) (h : t.Still time start before)
    (hleft : e.front.head < e.front.sendSize) (hopening : opening ⟨false, t.clock time⟩) :
    (startData (line.observed time) e t).2.2.Begun time start before opening := by
  obtain ⟨htime, hstarts⟩ := Transport.write_observed hline e.front.pending t
  have hbegun := h.begun htime hstarts hopening rfl
  unfold startData writeChunk
  dsimp only
  rw [if_pos hleft]
  generalize (line.observed time).write e.front.pending t = out at hbegun ⊢
  obtain ⟨_ | _, _⟩ := out <;> exact hbegun

theorem begun_startBreak (hline : line.KeepsTime time) (h : t.Still time start before)
    (now : UInt64) (hopening : opening ⟨true, t.clock time⟩) :
    (startBreak (line.observed time) e now t).2.2.Begun time start before opening := by
  have hbegun : ((line.observed time).assertBreak t).2.Begun time start before opening :=
    h.begun (hline.assertBreak t.world.world) rfl hopening rfl
  cases hassert : (line.observed time).assertBreak t with
  | mk result t₁ =>
    rw [hassert] at hbegun
    cases result with
    | error x =>
      unfold startBreak
      dsimp only
      rw [hassert]
      exact hbegun
    | ok =>
      -- all that follows is done by a line that cannot begin another break
      have hrest : startBreak (line.observed time) e now t =
          startBreak (line.observed time).breakless e now t₁ := by
        unfold startBreak
        dsimp only
        rw [hassert]
        rfl
      rw [hrest]
      exact (sends_startBreak (Transport.accounts_begun hline) now).wrote hbegun

theorem begun_startFrame (hline : line.KeepsTime time) (h : t.Still time start before)
    (hleft : e.front.head < e.front.sendSize) (withBreak : Bool) :
    (startFrame (line.observed time) e withBreak t).2.2.Begun time start before
      (Start.Opens line.autoBreak withBreak) := by
  have hnow : ((line.observed time).now t).2.Still time start before :=
    h.later (hline.now t.world.world) rfl
  rw [startFrame_eq]
  split_ifs with hbreak hauto
  · refine begun_startData hline hnow hleft (.inr ?_)
    rw [Bool.and_eq_true] at hauto ⊢
    exact ⟨hauto.1, hbreak⟩
  · exact begun_startBreak hline hnow _ (.inl hbreak.symm)
  · exact begun_startData hline hnow hleft (.inl (Bool.eq_false_iff.mpr hbreak).symm)

end Engine

/-! ## Ports -/

namespace Port

/-- No frame is being sent, and since `start` the line has not been driven. -/
structure Undriven (time : σ → ℕ) (start : ℕ) (before : List Start) (p : Port (Observed σ) ε) :
    Prop where
  idle : p.engine.isSending = false
  still : p.world.Still time start before

/-- Since `start` the line has been driven for a frame. As long as it is being sent, nothing is
received. -/
structure Drives (time : σ → ℕ) (start : ℕ) (before : List Start) (opening : Start → Prop)
    (p : Port (Observed σ) ε) : Prop where
  silent : p.engine.isSending = true → p.engine.isReceiving = false
  begun : p.world.Begun time start before opening

variable {line : Transport σ ε} {time : σ → ℕ} {start : ℕ} {before : List Start}
  {opening : Start → Prop} {p : Port (Observed σ) ε}

/-- Who waits for a frame does not drive the line, nor does anything that happens meanwhile. -/
theorem receiving_undriven (hline : line.KeepsTime time) (start : ℕ) (before : List Start) :
    Kept.Receiving (line.observed time) (Undriven time start before) :=
  have hidle := receiving_idle (line.observed time)
  { onEvent := fun {p} event h => by
      refine ⟨hidle.onEvent event h.idle, ?_⟩
      rw [onEvent_eq]
      exact Engine.still_onEvent hline h.idle event h.still
    checkIdle := fun now h => ⟨hidle.checkIdle now h.idle, h.still⟩
    interrupts := fun h => ⟨h.idle, h.still.later (hline.interrupts _) rfl⟩
    poll := fun h => ⟨h.idle, h.still.later (hline.poll _) rfl⟩
    now := fun h => ⟨h.idle, h.still.later (hline.now _) rfl⟩
    waiting := fun b h => ⟨hidle.waiting b h.idle, h.still⟩
    popFault := fun {p} h => by
      refine ⟨hidle.popFault h.idle, ?_⟩
      rw [(popFault_keeps p).2.1]
      exact h.still
    armReceive := fun h => ⟨hidle.armReceive h.idle, h.still⟩
    takeFrame := fun h => ⟨hidle.takeFrame h.idle, h.still⟩ }

theorem Drives.onEvent (hline : line.KeepsTime time) (event : Event)
    (h : p.Drives time start before opening) :
    (p.onEvent (line.observed time) event).Drives time start before opening := by
  rw [onEvent_eq]
  refine ⟨?_, Engine.begun_onEvent hline h.silent event h.begun⟩
  cases hsending : p.engine.isSending with
  | true =>
    have hsends := Engine.sends_onEvent (Transport.accounts_true (line.observed time)) hsending
      (h.silent hsending) event (w := p.world)
    exact fun _ => hsends.silent (h.silent hsending)
  | false =>
    intro hafter
    have hidle := Engine.isSending_onEvent (line.observed time) event p.world hsending
    rw [hidle] at hafter
    cases hafter

theorem Drives.checkIdle (now : UInt64) (h : p.Drives time start before opening) :
    Drives time start before opening { p with engine := p.engine.checkIdle now } := by
  refine ⟨fun hsending => ?_, h.begun⟩
  have hbefore := (Engine.isSending_congr (Engine.listens_checkIdle p.engine now).txState).symm
  have hsilent := h.silent (hbefore.trans hsending)
  dsimp only
  rw [Engine.checkIdle_of_silent hsilent]
  exact hsilent

theorem kept_drives (hline : line.KeepsTime time) (start : ℕ) (before : List Start)
    (opening : Start → Prop) :
    Kept (line.observed time) (Drives time start before opening) where
  onEvent event h := h.onEvent hline event
  checkIdle now h := h.checkIdle now
  interrupts h := ⟨h.silent, h.begun.later (hline.interrupts _) rfl⟩
  poll h := ⟨h.silent, h.begun.later (hline.poll _) rfl⟩
  now h := ⟨h.silent, h.begun.later (hline.now _) rfl⟩

theorem Drives.givenUp (hline : line.KeepsTime time) (h : p.Drives time start before opening) :
    (givenUp (line.observed time) p).Drives time start before opening := by
  refine ⟨fun hsending => ?_, ?_⟩
  · rw [Port.givenUp, isSending_abortSend] at hsending
    cases hsending
  · unfold Port.givenUp
    dsimp only
    split
    · exact h.begun.later (hline.releaseBreak _) rfl
    · exact h.begun.later (hline.flushQueued _) rfl
    · exact h.begun.later (hline.flushQueued _) rfl
    · exact h.begun
    · exact h.begun

theorem sending_drives (hline : line.KeepsTime time) (start : ℕ) (before : List Start)
    (opening : Start → Prop) :
    Kept.Sending (line.observed time) (Drives time start before opening) where
  toKept := kept_drives hline start before opening
  takeDriverFault h := ⟨h.silent, h.begun⟩
  givenUp h := h.givenUp hline

/-! ## Tasks that begin a frame -/

/-- Since `start` the line has not been driven; if the port is `ready`, no frame is being sent and
there is room for one of this size. -/
structure Poised (time : σ → ℕ) (start : ℕ) (before : List Start) (ready : Prop) (size : ℕ)
    (p : Port (Observed σ) ε) : Prop where
  still : p.world.Still time start before
  idle : ready → p.engine.isSending = false
  room : ready → size ≤ p.engine.front.capacity

/-- A task that was to send a frame has driven the line for this frame only, or not at all if the
port was not `ready`. -/
def Tried (time : σ → ℕ) (start : ℕ) (before : List Start) (opening : Start → Prop) (ready : Prop)
    (p : Port (Observed σ) ε) : Prop :=
  (p.world.starts = before ∧ ¬ ready) ∨ p.world.Begun time start before opening

variable {ready : Prop} {size : ℕ}

/-- Where no event interrupts a task, an interrupt only takes time. -/
theorem Poised.interrupted (hline : line.KeepsTime time) (hpolled : line.Polled)
    (h : p.Poised time start before ready size) :
    (Port.interrupted (line.observed time) p).Poised time start before ready size := by
  have hpolled : (line.observed time).Polled := fun t => hpolled t.world.world
  rw [interrupted_of_polled hpolled]
  exact ⟨h.still.later (hline.interrupts _) rfl, h.idle, h.room⟩

/-- The line is driven for a frame that is begun, and not for one that is refused. -/
theorem Poised.beginSend (hline : line.KeepsTime time) (h : p.Poised time start before ready size)
    (hsize : 0 < size) (withBreak : Bool) (turnaround : Turnaround)
    {out : Except (PortError ε) Unit × Engine × Observed σ}
    (hout : Engine.beginSend (line.observed time) p.engine size withBreak turnaround p.world =
      out) :
    Ends (fun _ => Drives time start before (Start.Opens line.autoBreak withBreak))
      (fun _ => Tried time start before (Start.Opens line.autoBreak withBreak) ready)
      (out.1, { p with engine := out.2.1, world := out.2.2 }) := by
  have hbegun : (Engine.startFrame (line.observed time) (p.engine.prepared size turnaround)
      withBreak p.world).2.2.Begun time start before (Start.Opens line.autoBreak withBreak) :=
    Engine.begun_startFrame hline h.still hsize withBreak
  have hsilent := (Engine.sends_startFrame (Transport.accounts_true (line.observed time)) withBreak
    (e := p.engine.prepared size turnaround) (w := p.world)).silent rfl
  rw [Engine.beginSend_eq] at hout
  split_ifs at hout with hsending hfull
  · rw [← hout]
    refine .inl ⟨h.still.starts, fun hready => ?_⟩
    rw [h.idle hready] at hsending
    cases hsending
  · rw [← hout]
    exact .inl ⟨h.still.starts, fun hready => (h.room hready).not_gt hfull⟩
  · generalize Engine.startFrame (line.observed time) (p.engine.prepared size turnaround) withBreak
      p.world = started at hout hbegun hsilent
    obtain ⟨_ | _, e, t⟩ := started
    · rw [← hout]
      exact .inr hbegun
    · rw [← hout]
      exact ⟨fun _ => hsilent, hbegun⟩

theorem ensures_sendFrame_drives (hline : line.KeepsTime time) (hpolled : line.Polled)
    (hsize : 0 < size) (withBreak : Bool) (turnaround : Turnaround) :
    Ensures (fun p : Port (Observed σ) ε => p.Poised time start before ready size)
      (sendFrame (line.observed time) size withBreak turnaround)
      (fun _ => Drives time start before (Start.Opens line.autoBreak withBreak))
      fun _ => Tried time start before (Start.Opens line.autoBreak withBreak) ready := by
  intro p hp
  have hpoised := hp.interrupted hline hpolled
  rw [exec_sendFrame]
  exact hpoised.beginSend hline hsize withBreak turnaround rfl

theorem ensures_sendNoBreak_drives (hline : line.KeepsTime time) (hpolled : line.Polled)
    {bytes : Bytes} (hbytes : bytes ≠ []) :
    Ensures (fun p : Port (Observed σ) ε => p.Poised time start before ready bytes.length)
      (sendNoBreak (line.observed time) bytes)
      (fun _ => Drives time start before (Start.Opens line.autoBreak false))
      fun _ => Tried time start before (Start.Opens line.autoBreak false) ready := by
  intro p hp
  have hpoised := hp.interrupted hline hpolled
  rw [exec_sendNoBreak]
  generalize Port.interrupted (line.observed time) p = q at hpoised ⊢
  dsimp only
  split_ifs with hsending hcount
  · refine .inl ⟨hpoised.still.starts, fun hready => ?_⟩
    rw [hpoised.idle hready] at hsending
    cases hsending
  · refine .inl ⟨hpoised.still.starts, fun hready => ?_⟩
    exact hcount (FrameBuffer.length_writeAt (hpoised.room hready))
  · have hcount := not_not.mp hcount
    have hcopied : Poised time start before ready (q.engine.front.writeAt 0 bytes).1
        { q with engine := { q.engine with front := (q.engine.front.writeAt 0 bytes).2 } } := by
      refine ⟨hpoised.still, hpoised.idle, fun hready => ?_⟩
      rw [hcount, FrameBuffer.capacity_writeAt]
      exact hpoised.room hready
    refine hcopied.beginSend hline ?_ false .none rfl
    rw [hcount]
    exact List.length_pos_iff.mpr hbytes

/-- A frame that is begun is waited for. -/
theorem ensures_waitSent_drives (hline : line.KeepsTime time) (timeout : UInt32) :
    Ensures (Drives time start before opening (ε := ε)) (waitSent (line.observed time) timeout)
      (fun _ p => p.world.Begun time start before opening)
      fun _ => Tried time start before opening ready :=
  ((sending_drives hline start before opening).waitSent timeout).mono (fun _ => id)
    (fun _ _ h => h.begun) fun _ _ h => .inr h.begun

end Port

end LightingBus
