import Mathlib.Order.Basic
import LightingBus.Proofs.Line.PendingFaults

/-!
# Waits that end

The line may deliver events for ever, so nothing but the clock ends a wait. As long as each reading
of the clock shows a later time than the one before, and the clock does not wrap around, a task that
waits looks at most as often as it has microseconds, and once more.

1. `lookOut` is what all waits have in common, and `looks` counts how often a task looks.
2. `Transport.Timed` is a clock that moves. Nothing turns it back (`Timed.onEvent`, `Timed.kept`).
3. `Expires` is a look that is given up at a point of time; `Expires.looks_le` counts such looks.
4. `sentLook`, `frameLook` and `lockLook` are the looks of the three waits of a port. They expire.
-/

namespace LightingBus

variable {σ ε α S E : Type}

/-! ## Looking again and again -/

/-- Looks until a look gives a result or fails, at most a number of times. -/
def lookOut (look : S → Except E (Option α) × S) (stalled : E) : ℕ → S → Except E α × S
  | 0, s => (.error stalled, s)
  | turns + 1, s =>
    match look s with
    | (.error e, s) => (.error e, s)
    | (.ok (some a), s) => (.ok a, s)
    | (.ok none, s) => lookOut look stalled turns s

/-- How often `lookOut` looks. -/
def looks (look : S → Except E (Option α) × S) : ℕ → S → ℕ
  | 0, _ => 0
  | turns + 1, s =>
    match look s with
    | (.ok none, s) => looks look turns s + 1
    | _ => 1

/-- What the readings of a clock of 64 bits can tell apart. -/
def clockRange : ℕ := UInt64.size

/-- A look that is given up at the time `limit`: it keeps `I`, and a task that looks again has not
come to that time, while the clock has moved on. As long as the clock does not wrap around, a look
does not fail as stalled. -/
def Expires (look : S → Except E (Option α) × S) (stalled : E) (time : S → ℕ) (I : S → Prop)
    (limit : ℕ) : Prop :=
  ∀ s, I s → Port.Ends
    (fun result s' => (I s' ∧ time s ≤ time s') ∧
      (result = none → time s < time s' ∧ (time s' < clockRange → time s' < limit)))
    (fun e s' => (I s' ∧ time s ≤ time s') ∧ (e = stalled → clockRange ≤ time s')) (look s)

/-- What is known of a wait that is made of looks: they are few, and enough of them come to an
end. -/
structure LooksAtMost (most : ℕ) (look : S → Except E (Option α) × S) (stalled : E)
    (time : S → ℕ) (turns : ℕ) (s : S) (out : Except E α × S) : Prop where
  eq_lookOut : out = lookOut look stalled turns s
  looks_le : time out.2 < clockRange → looks look turns s ≤ most
  ends : time out.2 < clockRange → most ≤ turns → out.1 ≠ .error stalled

section Looks

variable {look : S → Except E (Option α) × S} {stalled : E} {time : S → ℕ} {I : S → Prop}
  {limit : ℕ} {s : S}

theorem Expires.keeps (h : Expires look stalled time I limit) (turns : ℕ) (hs : I s) :
    I (lookOut look stalled turns s).2 ∧ time s ≤ time (lookOut look stalled turns s).2 := by
  induction turns generalizing s with
  | zero => exact ⟨hs, le_rfl⟩
  | succ turns ih =>
    have hlook := h s hs
    unfold lookOut
    generalize look s = out at hlook ⊢
    obtain ⟨e | _ | a, s'⟩ := out
    · exact hlook.1
    · obtain ⟨⟨hs', hle⟩, -⟩ := hlook
      exact ⟨(ih hs').1, hle.trans (ih hs').2⟩
    · exact hlook.1

/-- Every look but the last takes a microsecond at least. -/
theorem Expires.looks_le (h : Expires look stalled time I limit) (turns : ℕ) (hs : I s)
    (hend : time (lookOut look stalled turns s).2 < clockRange) :
    looks look turns s ≤ limit - time s + 1 := by
  induction turns generalizing s with
  | zero => exact Nat.zero_le _
  | succ turns ih =>
    have hlook := h s hs
    unfold looks
    unfold lookOut at hend
    generalize look s = out at hlook hend ⊢
    obtain ⟨e | _ | a, s'⟩ := out
    · exact Nat.le_add_left 1 _
    · obtain ⟨⟨hs', -⟩, hagain⟩ := hlook
      obtain ⟨hmoved, hlimit⟩ := hagain rfl
      have hbefore := hlimit ((h.keeps turns hs').2.trans_lt hend)
      have hrest := ih hs' hend
      dsimp only
      omega
    · exact Nat.le_add_left 1 _

/-- Whoever looks often enough looks until the time is over, or until the clock wraps around. -/
theorem Expires.late_of_stalled (h : Expires look stalled time I limit) (turns : ℕ) (hs : I s)
    (hturns : limit - time s + 1 ≤ turns)
    (hstalled : (lookOut look stalled turns s).1 = .error stalled) :
    clockRange ≤ time (lookOut look stalled turns s).2 := by
  induction turns generalizing s with
  | zero => exact absurd hturns (Nat.not_succ_le_zero _)
  | succ turns ih =>
    have hlook := h s hs
    unfold lookOut at hstalled ⊢
    generalize look s = out at hlook hstalled ⊢
    obtain ⟨e | _ | a, s'⟩ := out
    · exact hlook.2 (Except.error.inj hstalled)
    · obtain ⟨⟨hs', -⟩, hagain⟩ := hlook
      obtain ⟨hmoved, hlimit⟩ := hagain rfl
      have hle := (h.keeps turns hs').2
      refine Nat.le_of_not_lt fun hearly => ?_
      have hbefore := hlimit (hle.trans_lt hearly)
      exact hearly.not_ge (ih hs' (by omega) hstalled)
    · cases hstalled

/-- Enough looks keep `I` and end as a look ends. -/
theorem Expires.ends (h : Expires look stalled time I limit) (turns : ℕ) (hs : I s)
    (hturns : limit - time s + 1 ≤ turns) :
    Port.Ends (fun _ => I) (fun e s' => I s' ∧ (e = stalled → clockRange ≤ time s'))
      (lookOut look stalled turns s) := by
  obtain ⟨hkept, -⟩ := h.keeps turns hs
  have hlate := h.late_of_stalled turns hs hturns
  generalize lookOut look stalled turns s = out at hkept hlate
  obtain ⟨e | a, s'⟩ := out
  · exact ⟨hkept, fun he => hlate (congrArg Except.error he)⟩
  · exact hkept

theorem Expires.looksAtMost {wait turns : ℕ} (h : Expires look stalled time I (time s + wait))
    (hs : I s) {out : Except E α × S} (hout : out = lookOut look stalled turns s) :
    LooksAtMost (wait + 1) look stalled time turns s out where
  eq_lookOut := hout
  looks_le hend := by
    rw [hout] at hend
    have hlooks := h.looks_le turns hs hend
    rwa [Nat.add_sub_cancel_left] at hlooks
  ends hend hturns := by
    rw [hout] at hend ⊢
    refine fun hstalled => hend.not_ge (h.late_of_stalled turns hs ?_ hstalled)
    rwa [Nat.add_sub_cancel_left]

end Looks

/-! ## A clock that moves -/

/-- A clock that moves: `time` says when it was read last, in microseconds, and every reading is a
microsecond later than the one before, or more. Nothing else that is done on the line turns the
clock back. -/
structure Transport.Timed (line : Transport σ ε) (time : σ → ℕ) : Prop where
  shows (w : σ) : (line.now w).1 = UInt64.ofNat (time (line.now w).2)
  moves (w : σ) : time w < time (line.now w).2
  write (bytes : Bytes) (w : σ) : time w ≤ time (line.write bytes w).2
  read (count : ℕ) (w : σ) : time w ≤ time (line.read count w).2
  assertBreak (w : σ) : time w ≤ time (line.assertBreak w).2
  releaseBreak (w : σ) : time w ≤ time (line.releaseBreak w).2
  flushReceived (w : σ) : time w ≤ time (line.flushReceived w).2
  flushQueued (w : σ) : time w ≤ time (line.flushQueued w).2
  poll (w : σ) : time w ≤ time (line.poll w).2
  interrupts (w : σ) : time w ≤ time (line.interrupts w).2
  delay (micros : UInt32) (w : σ) : time w ≤ time (line.delay micros w)
  setAlarm (micros : UInt32) (w : σ) : time w ≤ time (line.setAlarm micros w).2

/-- Readings tell how much time is over, also if the time is long. -/
theorem lt_of_not_elapsed {limit : UInt64} {start now : ℕ} (hstart : start ≤ now)
    (hnow : now < clockRange) (h : ¬ limit ≤ UInt64.ofNat now - UInt64.ofNat start) :
    now < start + limit.toNat := by
  have hreading {t : ℕ} (ht : t < clockRange) : (UInt64.ofNat t).toNat = t :=
    UInt64.toNat_ofNat_of_lt' ht
  have hle : UInt64.ofNat start ≤ UInt64.ofNat now := by
    rw [UInt64.le_iff_toNat_le, hreading hnow, hreading (hstart.trans_lt hnow)]
    exact hstart
  rw [UInt64.le_iff_toNat_le, UInt64.toNat_sub_of_le _ _ hle, hreading hnow,
    hreading (hstart.trans_lt hnow)] at h
  omega

namespace Transport.Timed

open Engine (writeChunk startData endBreak startBreak startFrame beginSend onOverflow probeFull
  takeBytes onRxData handle)

variable {line : Transport σ ε} {time : σ → ℕ} (h : line.Timed time) (e : Engine) (w : σ)
include h

theorem now_le : time w ≤ time (line.now w).2 :=
  Nat.le_of_lt (h.moves w)

theorem writeChunk_le : time w ≤ time (writeChunk line e w).2.2 := by
  unfold writeChunk
  have hwrite := h.write e.front.pending w
  split_ifs
  · generalize line.write e.front.pending w = out at hwrite ⊢
    obtain ⟨_ | _, _⟩ := out <;> exact hwrite
  · exact le_rfl

theorem startData_le : time w ≤ time (startData line e w).2.2 := by
  unfold startData
  have hchunk := h.writeChunk_le { e with txState := .sending } w
  generalize writeChunk line { e with txState := .sending } w = out at hchunk ⊢
  obtain ⟨_ | _, _, _⟩ := out <;> exact hchunk

theorem endBreak_le : time w ≤ time (endBreak line e w).2.2 := by
  unfold endBreak
  have hrelease := h.releaseBreak w
  generalize line.releaseBreak w = out at hrelease ⊢
  obtain ⟨_ | _, w₁⟩ := out
  · exact hrelease
  · dsimp only
    have halarm := h.setAlarm e.timing.markLength w₁
    generalize line.setAlarm e.timing.markLength w₁ = alarm at halarm ⊢
    obtain ⟨_ | _, w₂⟩ := alarm
    · calc time w ≤ time w₁ := hrelease
        _ ≤ time w₂ := halarm
        _ ≤ time (line.delay e.timing.markLength w₂) := h.delay _ w₂
        _ ≤ _ := h.startData_le _ _
    · exact hrelease.trans halarm

theorem startBreak_le (now : UInt64) : time w ≤ time (startBreak line e now w).2.2 := by
  unfold startBreak
  dsimp only
  have hassert := h.assertBreak w
  generalize line.assertBreak w = out at hassert ⊢
  obtain ⟨_ | _, w₁⟩ := out
  · exact hassert
  · dsimp only
    have halarm := h.setAlarm e.timing.breakLength w₁
    generalize line.setAlarm e.timing.breakLength w₁ = alarm at halarm ⊢
    obtain ⟨_ | _, w₂⟩ := alarm
    · calc time w ≤ time w₁ := hassert
        _ ≤ time w₂ := halarm
        _ ≤ time (line.delay e.timing.breakLength w₂) := h.delay _ w₂
        _ ≤ _ := h.endBreak_le _ _
    · exact hassert.trans halarm

theorem beginSend_le (size : ℕ) (withBreak : Bool) (turnaround : Turnaround) :
    time w ≤ time (beginSend line e size withBreak turnaround w).2.2 := by
  have hstart (e : Engine) : time w ≤ time (startFrame line e withBreak w).2.2 := by
    rw [Engine.startFrame_eq]
    split_ifs
    · exact (h.now_le w).trans (h.startData_le _ _)
    · exact (h.now_le w).trans (h.startBreak_le _ _ _)
    · exact (h.now_le w).trans (h.startData_le _ _)
  rw [Engine.beginSend_eq]
  split_ifs
  · exact le_rfl
  · exact le_rfl
  · have hstarted := hstart (e.prepared size turnaround)
    generalize startFrame line (e.prepared size turnaround) withBreak w = out at hstarted ⊢
    obtain ⟨_ | _, _, _⟩ := out <;> exact hstarted

theorem discard_le : time w ≤ time (Engine.discard line e w).2.2 := by
  unfold Engine.discard
  have hflush := h.flushReceived w
  generalize line.flushReceived w = out at hflush ⊢
  obtain ⟨_ | _, _⟩ := out <;> exact hflush

theorem onOverflow_le : time w ≤ time (onOverflow line e w).2.2 := by
  unfold onOverflow
  have hflush := h.flushReceived w
  generalize line.flushReceived w = out at hflush ⊢
  obtain ⟨_ | _, _⟩ := out <;> exact hflush

theorem probeFull_le : time w ≤ time (probeFull line e w).2.2 := by
  unfold probeFull
  have hread := h.read 1 w
  generalize line.read 1 w = out at hread ⊢
  obtain ⟨_ | _ | _, w₁⟩ := out
  · exact hread
  · exact hread
  · dsimp only
    have hflush := hread.trans (h.flushReceived w₁)
    generalize line.flushReceived w₁ = flushed at hflush ⊢
    obtain ⟨_ | _, _⟩ := flushed <;> exact hflush

theorem takeBytes_le : time w ≤ time (takeBytes line e w).2.2 := by
  unfold takeBytes
  have hread := h.read (e.back.capacity - e.back.head) w
  generalize line.read (e.back.capacity - e.back.head) w = out at hread ⊢
  obtain ⟨_ | bytes, w₁⟩ := out
  · exact hread
  · dsimp only
    split_ifs
    · exact hread.trans (h.probeFull_le _ w₁)
    · exact hread

theorem onRxData_le (now : UInt64) : time w ≤ time (onRxData line e now w).2.2 := by
  unfold onRxData
  split_ifs
  · split
    · exact h.discard_le e w
    · exact h.takeBytes_le _ w
  · exact h.discard_le e w

/-- No event turns the clock back, whatever the engine does with it. -/
theorem onEvent_le (event : Event) : time w ≤ time (Engine.onEvent line event e w).2.2 := by
  have hhandle : time w ≤ time (handle line event e w).2.2 := by
    cases event with
    | breakDetected => exact h.now_le w
    | mabElapsed | rxTimeout | parityError => exact le_rfl
    | rxData => exact (h.now_le w).trans (h.onRxData_le e _ _)
    | overflow => exact h.onOverflow_le e w
    | txEmpty =>
      rw [handle]
      split_ifs
      · exact h.writeChunk_le e w
      · exact le_rfl
    | txDone =>
      rw [handle, Engine.onTxDone]
      split_ifs
      · exact h.writeChunk_le e w
      · exact le_rfl
      · exact le_rfl
    | alarm =>
      rw [handle, Engine.onAlarm]
      split
      · exact h.endBreak_le e w
      · exact h.startData_le e w
      all_goals exact le_rfl
  unfold Engine.onEvent
  generalize handle line event e w = out at hhandle ⊢
  obtain ⟨_ | _, _, _⟩ := out <;> exact hhandle

end Transport.Timed

theorem Engine.beginSend_ne_stalled (line : Transport σ ε) (e : Engine) (size : ℕ)
    (withBreak : Bool) (turnaround : Turnaround) (w : σ) :
    (beginSend line e size withBreak turnaround w).1 ≠ .error .stalled := by
  rw [beginSend_eq]
  split_ifs
  · nofun
  · nofun
  · generalize startFrame line (e.prepared size turnaround) withBreak w = out
    obtain ⟨_ | _, _, _⟩ := out <;> nofun

namespace Port

/-! ## The looks of a port -/

section Looks

variable (line : Transport σ ε)

/-- A look whether a frame is sent: the port is polled once. -/
def sentLook (timeout : UInt32) (start : UInt64) : PortM σ ε (Option Unit) := do
  poll line
  match ← sendProgress line with
  | (_, some x) => throw (.driver x)
  | (false, none) => pure (some ())
  | (true, none) =>
    let now ← now line
    if timeout.toUInt64 ≤ now - start then do
      abortSend line
      throw .timeout
    else pure none

/-- A look for a frame: the port is polled once. -/
def frameLook (timeout : UInt32) (limit start : UInt64) : PortM σ ε (Option ℕ) := do
  poll line
  let seen ← arrival line
  match seen.fault, seen.frame with
  | some fault, _ => throw fault
  | none, some size => pure (some size)
  | none, none =>
    let now ← now line
    let elapsed := now - start
    if (timeout.toUInt64 ≤ elapsed ∧ ¬ seen.receiving) ∨ limit ≤ elapsed then throw .timeout
    else pure none

/-- A look whether the lock is free: the task tries once to take it. -/
def lockLook (timeout : UInt32) (start : UInt64) : PortM σ ε (Option Unit) := do
  if ← tryLock line then pure (some ())
  else
    let now ← now line
    if timeout.toUInt64 ≤ now - start then throw .busy else pure none

/-- A task that looks, and if there is no result goes on with one turn less, looks out. -/
theorem exec_eq_lookOut {wait : ℕ → PortM σ ε α} {look : PortM σ ε (Option α)}
    (hzero : wait 0 = throw .stalled)
    (hsucc : ∀ turns, wait (turns + 1) = look >>= fun result =>
      match result with
      | some a => pure a
      | none => wait turns) (turns : ℕ) (p : Port σ ε) :
    exec (wait turns) p = lookOut (exec look) .stalled turns p := by
  induction turns generalizing p with
  | zero =>
    rw [hzero]
    rfl
  | succ turns ih =>
    rw [hsucc, exec_bind, lookOut]
    generalize exec look p = out
    obtain ⟨_ | _ | _, q⟩ := out
    · rfl
    · exact ih q
    · rfl

theorem exec_awaitSent (timeout : UInt32) (start : UInt64) (turns : ℕ) (p : Port σ ε) :
    exec (awaitSent line timeout start turns) p =
      lookOut (exec (sentLook line timeout start)) .stalled turns p := by
  refine exec_eq_lookOut rfl (fun turns => ?_) turns p
  rw [awaitSent, sentLook, bind_assoc]
  congr 1
  funext _
  rw [bind_assoc]
  congr 1
  funext seen
  obtain ⟨_ | _, _ | _⟩ := seen
  · rfl
  · rfl
  · dsimp only
    rw [bind_assoc]
    congr 1
    funext now
    split_ifs
    · rw [bind_assoc]; rfl
    · rfl
  · rfl

theorem exec_awaitFrame (timeout : UInt32) (limit start : UInt64) (turns : ℕ) (p : Port σ ε) :
    exec (awaitFrame line timeout limit start turns) p =
      lookOut (exec (frameLook line timeout limit start)) .stalled turns p := by
  refine exec_eq_lookOut rfl (fun turns => ?_) turns p
  rw [awaitFrame, frameLook, bind_assoc]
  congr 1
  funext _
  rw [bind_assoc]
  congr 1
  funext seen
  obtain ⟨_ | _, _ | _, _⟩ := seen
  · dsimp only
    rw [bind_assoc]
    congr 1
    funext now
    split_ifs <;> rfl
  · rfl
  · rfl
  · rfl

theorem exec_awaitLock (timeout : UInt32) (start : UInt64) (turns : ℕ) (p : Port σ ε) :
    exec (awaitLock line timeout start turns) p =
      lookOut (exec (lockLook line timeout start)) .stalled turns p := by
  refine exec_eq_lookOut rfl (fun turns => ?_) turns p
  rw [awaitLock, lockLook, bind_assoc]
  congr 1
  funext taken
  cases taken with
  | true => rfl
  | false =>
    rw [if_neg Bool.false_ne_true, if_neg Bool.false_ne_true, bind_assoc]
    congr 1
    funext now
    split_ifs <;> rfl

end Looks

/-! ## Looks expire -/

variable {line : Transport σ ε} {time : σ → ℕ} {config : LineConfig} {patience start : ℕ}
  {p : Port σ ε}

/-- The port after its clock was read. -/
def ticked (line : Transport σ ε) (p : Port σ ε) : Port σ ε :=
  { p with world := (line.now p.world).2 }

/-- A port with this configuration and patience, at a time from `start` on. -/
structure Since (time : σ → ℕ) (config : LineConfig) (patience start : ℕ) (p : Port σ ε) :
    Prop where
  config : p.config = config
  patience : p.patience = patience
  start_le : start ≤ time p.world

theorem Since.now (time : σ → ℕ) (line : Transport σ ε) (p : Port σ ε) :
    (ticked line p).Since time p.config p.patience (time (ticked line p).world) :=
  ⟨rfl, rfl, le_rfl⟩

theorem Since.later (h : p.Since time config patience start) {world : σ}
    (hworld : time p.world ≤ time world) {q : Port σ ε} (hq : q.world = world)
    (hconfig : q.config = p.config) (hpatience : q.patience = p.patience) :
    q.Since time config patience start where
  config := hconfig.trans h.config
  patience := hpatience.trans h.patience
  start_le := by
    rw [hq]
    exact h.start_le.trans hworld

theorem Since.of_le (h : p.Since time config patience start) {before : ℕ} (hle : before ≤ start) :
    p.Since time config patience before :=
  ⟨h.config, h.patience, hle.trans h.start_le⟩

/-- What stands since the clock was read stands since before. -/
theorem Since.of_ticked (hline : line.Timed time) (h : p.Since time config patience start)
    {q : Port σ ε} (hq : q.Since time p.config p.patience (time (ticked line p).world)) :
    q.Since time config patience start :=
  ⟨hq.config.trans h.config, hq.patience.trans h.patience,
    (h.start_le.trans (hline.now_le p.world)).trans hq.start_le⟩

theorem receiving_since (hline : line.Timed time) (config : LineConfig)
    (patience start : ℕ) :
    Kept.Receiving line (fun p : Port σ ε => p.Since time config patience start) where
  onEvent {p} event h := by
    rw [onEvent_eq]
    exact h.later (hline.onEvent_le p.engine p.world event) rfl rfl rfl
  checkIdle _ h := ⟨h.config, h.patience, h.start_le⟩
  interrupts {p} h := h.later (hline.interrupts p.world) rfl rfl rfl
  poll {p} h := h.later (hline.poll p.world) rfl rfl rfl
  now {p} h := h.later (hline.now_le p.world) rfl rfl rfl
  waiting _ h := ⟨h.config, h.patience, h.start_le⟩
  popFault {p} h := by
    unfold popFault
    split <;> exact ⟨h.config, h.patience, h.start_le⟩
  armReceive h := ⟨h.config, h.patience, h.start_le⟩
  takeFrame h := ⟨h.config, h.patience, h.start_le⟩

/-- A port that may have `stalled`, which it has not unless its clock has wrapped around. -/
structure InTime (time : σ → ℕ) (config : LineConfig) (patience start : ℕ) (stalled : Prop)
    (p : Port σ ε) : Prop where
  since : p.Since time config patience start
  late : stalled → p.Since time config patience clockRange

/-- A task comes to its end, unless the clock wraps around. -/
def EndsInTime (time : σ → ℕ) (config : LineConfig) (patience start : ℕ) (task : PortM σ ε α) :
    Prop :=
  Ensures (fun p => p.Since time config patience start) task
    (fun _ p => p.Since time config patience start)
    fun e => InTime time config patience start (e = .stalled)

/-- What cannot fail, and does not turn back the clock, leaves it at that. -/
theorem ensures_inTime {task : PortM σ ε α} {stalled : Prop}
    {R : PortError ε → Port σ ε → Prop}
    (h : ∀ start, Ensures (fun p => p.Since time config patience start) task
      (fun _ p => p.Since time config patience start) fun _ _ => False) :
    Ensures (InTime time config patience start stalled) task
      (fun _ => InTime time config patience start stalled) R := by
  intro p hp
  have hsince := h start p hp.since
  have hlate := fun hs => h clockRange p (hp.late hs)
  generalize exec task p = out at hsince hlate
  obtain ⟨_ | _, _⟩ := out
  · exact hsince.elim
  · exact ⟨hsince, hlate⟩

/-- A look that is done at a time `before` and given up at `limit`. -/
theorem expires_of_ensures {look : PortM σ ε (Option α)} {limit : ℕ}
    (h : ∀ before, start ≤ before → Ensures (fun p => p.Since time config patience before) look
      (fun result p => p.Since time config patience before ∧ (result = none →
        before < time p.world ∧ (time p.world < clockRange → time p.world < limit)))
      fun e => InTime time config patience before (e = .stalled)) :
    Expires (exec look) .stalled (fun p => time p.world)
      (fun p => p.Since time config patience start) limit := by
  intro p hp
  refine (h (time p.world) hp.start_le p ⟨hp.config, hp.patience, le_rfl⟩).mono ?_ ?_
  · exact fun _ q hq => ⟨⟨hq.1.of_le hp.start_le, hq.1.start_le⟩, hq.2⟩
  · exact fun _ q hq => ⟨⟨hq.1.of_le hp.start_le, hq.1.start_le⟩, fun he => (hq.2 he).start_le⟩

theorem ensures_reading (hline : line.Timed time)
    {R : PortError ε → Port σ ε → Prop} :
    Ensures (fun p => p.Since time config patience start) (now line)
      (fun now p => now = UInt64.ofNat (time p.world) ∧
        p.Since time config patience (start + 1)) R :=
  .now fun p hp => ⟨hline.shows p.world, hp.config, hp.patience,
    Nat.succ_le_of_lt (hp.start_le.trans_lt (hline.moves p.world))⟩

/-- Who looks again has read the clock, and the time was not over. -/
theorem Since.again {before : ℕ} {limit : UInt64} (hstart : start ≤ before)
    (h : p.Since time config patience (before + 1))
    (hlimit : ¬ limit ≤ UInt64.ofNat (time p.world) - UInt64.ofNat start) :
    p.Since time config patience before ∧
      (before < time p.world ∧ (time p.world < clockRange → time p.world < start + limit.toNat)) :=
  have hle : start ≤ time p.world := hstart.trans (Nat.le_of_succ_le h.start_le)
  ⟨h.of_le before.le_succ, h.start_le, fun hrange => lt_of_not_elapsed hle hrange hlimit⟩

theorem ensures_abortSend (hline : line.Timed time) :
    Ensures (fun p => p.Since time config patience start) (abortSend line)
      (fun _ p => p.Since time config patience start)
      fun e p => p.Since time config patience start ∧ e ≠ .stalled := by
  refine .step (fun _ => (receiving_since hline config patience start).toKept.interrupted) ?_
  intro p hp
  have hrelease := hline.releaseBreak p.world
  have hflush := hline.flushQueued p.world
  dsimp only [Engine.abortSend]
  cases p.engine.txState with
  | inBreak =>
    dsimp only
    generalize line.releaseBreak p.world = out at hrelease ⊢
    obtain ⟨_ | _, _⟩ := out
    · exact ⟨hp.later hrelease rfl rfl rfl, nofun⟩
    · exact hp.later hrelease rfl rfl rfl
  | inMab | sending =>
    dsimp only
    generalize line.flushQueued p.world = out at hflush ⊢
    obtain ⟨_ | _, _⟩ := out
    · exact ⟨hp.later hflush rfl rfl rfl, nofun⟩
    · exact hp.later hflush rfl rfl rfl
  | idle | done => exact ⟨hp.config, hp.patience, hp.start_le⟩

theorem expires_sentLook (hline : line.Timed time) (timeout : UInt32) :
    Expires (exec (sentLook line timeout (UInt64.ofNat start))) .stalled
      (fun p => time p.world) (fun p => p.Since time config patience start)
      (start + timeout.toNat) := by
  refine expires_of_ensures fun before hstart => ?_
  have hkept := (receiving_since (ε := ε) hline config patience before).toKept
  refine .bind hkept.ensures_poll fun _ => ?_
  refine .bind (Q := fun _ p => p.Since time config patience before)
    (.step' (fun _ => hkept.interrupted) fun p hp => ⟨hp.config, hp.patience, hp.start_le⟩)
    fun seen => ?_
  split
  · exact .throw fun p hp => ⟨hp, nofun⟩
  · exact .pure fun p hp => ⟨hp, nofun⟩
  · refine .bind (ensures_reading hline) fun now => ?_
    split_ifs with hover
    · refine .bind (Q := fun _ p => p.Since time config patience before) ?_ fun _ => ?_
      · refine (ensures_abortSend hline).mono (fun p hp => hp.2.of_le before.le_succ)
          (fun _ _ => id) fun e p hp => ⟨hp.1, fun he => absurd he hp.2⟩
      · exact .throw fun p hp => ⟨hp, nofun⟩
    · refine .pure fun p hp => ?_
      obtain ⟨rfl, hp⟩ := hp
      have hagain := hp.again hstart hover
      rw [UInt32.toNat_toUInt64] at hagain
      exact ⟨hagain.1, fun _ => hagain.2⟩

theorem popFault_ne_stalled (p : Port σ ε) : p.popFault.1 ≠ some .stalled := by
  rw [popFault_eq]
  cases p.driverFault with
  | some x => nofun
  | none =>
    unfold faultError?
    dsimp only
    split_ifs <;> nofun

theorem expires_frameLook (hline : line.Timed time) (timeout : UInt32) (limit : UInt64) :
    Expires (exec (frameLook line timeout limit (UInt64.ofNat start))) .stalled
      (fun p => time p.world) (fun p => p.Since time config patience start)
      (start + limit.toNat) := by
  refine expires_of_ensures fun before hstart => ?_
  have hkept := receiving_since (ε := ε) hline config patience before
  refine .bind hkept.ensures_poll fun _ => ?_
  refine .bind (Q := fun seen p => seen.fault ≠ some .stalled ∧
    p.Since time config patience before) (.step' (fun _ => hkept.interrupted) fun p hp => ?_)
    fun seen => ?_
  · exact ⟨popFault_ne_stalled _, hkept.popFault (hkept.takeFrame hp)⟩
  · dsimp only
    split
    next fault _ hfault =>
      refine .throw fun p hp => ⟨hp.2, fun he => ?_⟩
      rw [hfault, he] at hp
      exact absurd rfl hp.1
    · exact .pure fun p hp => ⟨hp.2, nofun⟩
    · refine .bind ((ensures_reading hline).mono (fun p hp => hp.2) (fun _ _ => id)
        fun _ _ => id) fun now => ?_
      split_ifs with hover
      · exact .throw fun p hp => ⟨hp.2.of_le before.le_succ, nofun⟩
      · refine .pure fun p hp => ?_
        obtain ⟨rfl, hp⟩ := hp
        have hagain := hp.again hstart fun hlimit => hover (.inr hlimit)
        exact ⟨hagain.1, fun _ => hagain.2⟩

theorem expires_lockLook (hline : line.Timed time) (timeout : UInt32) :
    Expires (exec (lockLook line timeout (UInt64.ofNat start))) .stalled
      (fun p => time p.world) (fun p => p.Since time config patience start)
      (start + timeout.toNat) := by
  refine expires_of_ensures fun before hstart => ?_
  have hkept := (receiving_since (ε := ε) hline config patience before).toKept
  refine .bind (Q := fun _ p => p.Since time config patience before)
    (.step' (fun _ => hkept.interrupted) fun p hp => ?_) fun taken => ?_
  · split <;> exact ⟨hp.config, hp.patience, hp.start_le⟩
  · split_ifs
    · exact .pure fun p hp => ⟨hp, nofun⟩
    · refine .bind (ensures_reading hline) fun now => ?_
      split_ifs with hover
      · exact .throw fun p hp => ⟨hp.2.of_le before.le_succ, nofun⟩
      · refine .pure fun p hp => ?_
        obtain ⟨rfl, hp⟩ := hp
        have hagain := hp.again hstart hover
        rw [UInt32.toNat_toUInt64] at hagain
        exact ⟨hagain.1, fun _ => hagain.2⟩

/-! ## Waits end -/

/-- A task waits: it looks again and again from a reading of the clock on, and gives up at the
latest when `wait` microseconds have passed. -/
structure Waits (line : Transport σ ε) (time : σ → ℕ) (wait : ℕ) (look : PortM σ ε (Option α))
    (task : PortM σ ε α) (p : Port σ ε) : Prop where
  eq_lookOut : exec task p = lookOut (exec look) .stalled p.patience (ticked line p)
  expires : Expires (exec look) .stalled (fun p => time p.world)
    (fun q => q.Since time p.config p.patience (time (ticked line p).world))
    (time (ticked line p).world + wait)

section Waits

variable {wait : ℕ} {look : PortM σ ε (Option α)} {task : PortM σ ε α}

theorem Waits.looksAtMost (h : Waits line time wait look task p) :
    LooksAtMost (wait + 1) (exec look) .stalled (fun p => time p.world) p.patience
      (ticked line p) (exec task p) :=
  Expires.looksAtMost h.expires (Since.now time line p) h.eq_lookOut

theorem Waits.endsInTime (hline : line.Timed time) {look : Port σ ε → PortM σ ε (Option α)}
    (h : ∀ p : Port σ ε, p.config = config → Waits line time wait (look p) task p)
    (hpatience : wait + 1 ≤ patience) : EndsInTime time config patience start task := by
  intro p hp
  obtain ⟨heq, hexpires⟩ := h p hp.config
  have hturns : wait + 1 ≤ p.patience := hpatience.trans_eq hp.patience.symm
  have hends := hexpires.ends p.patience (Since.now time line p)
    (by rwa [Nat.add_sub_cancel_left])
  rw [← heq] at hends
  refine hends.mono (fun _ q hq => hp.of_ticked hline hq) fun e q hq => ?_
  have hsince := hp.of_ticked hline hq.1
  exact ⟨hsince, fun he => ⟨hsince.config, hsince.patience, hq.2 he⟩⟩

/-- The port is polled at most once in each microsecond that a frame may take to be sent. -/
theorem waits_waitSent (hline : line.Timed time) (timeout : UInt32) (p : Port σ ε) :
    Waits line time timeout.toNat (sentLook line timeout (line.now p.world).1)
      (waitSent line timeout) p := by
  refine ⟨exec_awaitSent line timeout _ _ _, ?_⟩
  rw [show (line.now p.world).1 = UInt64.ofNat (time (ticked line p).world) from hline.shows _]
  exact expires_sentLook hline timeout

/-- A frame that is coming in is waited for as long as a transaction may take, but not longer. -/
theorem waits_waitForFrame (hline : line.Timed time) (timeout : UInt32) (p : Port σ ε) :
    Waits line time (timeout.toNat + p.config.transactionTimeout.toNat)
      (frameLook line timeout (timeout.toUInt64 + p.config.transactionTimeout.toUInt64)
        (line.now p.world).1) (waitForFrame line timeout) p := by
  have hlimit : (timeout.toUInt64 + p.config.transactionTimeout.toUInt64).toNat =
      timeout.toNat + p.config.transactionTimeout.toNat := by
    rw [UInt64.toNat_add, UInt32.toNat_toUInt64, UInt32.toNat_toUInt64]
    have := timeout.toNat_lt
    have := p.config.transactionTimeout.toNat_lt
    omega
  refine ⟨exec_awaitFrame line timeout _ _ _ _, ?_⟩
  rw [show (line.now p.world).1 = UInt64.ofNat (time (ticked line p).world) from hline.shows _,
    ← hlimit]
  exact expires_frameLook hline timeout _

theorem waits_lock (hline : line.Timed time) (timeout : UInt32) (p : Port σ ε) :
    Waits line time timeout.toNat (lockLook line timeout (line.now p.world).1)
      (lock line timeout) p := by
  refine ⟨exec_awaitLock line timeout _ _ _, ?_⟩
  rw [show (line.now p.world).1 = UInt64.ofNat (time (ticked line p).world) from hline.shows _]
  exact expires_lockLook hline timeout

end Waits

/-! ## Tasks end -/

section Tasks

variable (hline : line.Timed time)
include hline

theorem endsInTime_waitSent {timeout : UInt32} (h : timeout.toNat + 1 ≤ patience) :
    EndsInTime time config patience start (waitSent line timeout) :=
  Waits.endsInTime hline (fun p _ => waits_waitSent hline timeout p) h

theorem endsInTime_lock {timeout : UInt32} (h : timeout.toNat + 1 ≤ patience) :
    EndsInTime time config patience start (lock line timeout) :=
  Waits.endsInTime hline (fun p _ => waits_lock hline timeout p) h

theorem endsInTime_receive {timeout : UInt32}
    (h : timeout.toNat + config.transactionTimeout.toNat + 1 ≤ patience) :
    EndsInTime time config patience start (receive line timeout) := by
  have hkept := receiving_since (ε := ε) hline config patience start
  have hwait : EndsInTime time config patience start (waitForFrame line timeout) :=
    Waits.endsInTime hline (fun p hp => hp ▸ waits_waitForFrame hline timeout p) h
  have henter : EndsInTime time config patience start (enterReceive line) := by
    refine .step (fun _ => hkept.interrupted) fun p hp => ?_
    dsimp only
    split_ifs
    · exact ⟨hp, nofun⟩
    · exact hkept.waiting true hp
    · have hpopped := hkept.popFault hp
      exact hkept.waiting true (hkept.armReceive hpopped)
  refine .bind henter fun _ => .bind hwait.attempt fun result => ?_
  have hleave (start : ℕ) : Ensures (fun p : Port σ ε => p.Since time config patience start)
      (leaveReceive line) (fun _ p => p.Since time config patience start) fun _ _ => False :=
    have hkept := receiving_since hline config patience start
    .step' (fun _ => hkept.interrupted) fun _ => hkept.waiting false
  cases result with
  | ok size =>
    exact .bind ((hleave start).mono (fun _ => id) (fun _ _ => id) fun _ _ h => h.elim) fun _ =>
      .conclude fun _ => id
  | error e => exact .bind (ensures_inTime hleave) fun _ => .conclude fun _ => id

theorem endsInTime_sendFrame (size : ℕ) (withBreak : Bool) (turnaround : Turnaround) :
    EndsInTime time config patience start
      (sendFrame line size withBreak turnaround : PortM σ ε Unit) := by
  intro p hp
  have hp := (receiving_since hline config patience start).toKept.interrupted hp
  rw [exec_sendFrame]
  generalize interrupted line p = p at hp
  have hle := hline.beginSend_le p.engine p.world size withBreak turnaround
  have hends := Engine.beginSend_ne_stalled line p.engine size withBreak turnaround p.world
  dsimp only
  generalize Engine.beginSend line p.engine size withBreak turnaround p.world = out at hle hends
  obtain ⟨e | _, _, _⟩ := out
  · exact ⟨hp.later hle rfl rfl rfl, fun he => absurd (congrArg Except.error he) hends⟩
  · exact hp.later hle rfl rfl rfl

theorem endsInTime_withFront (f : FrameBuffer → α × FrameBuffer) :
    EndsInTime time config patience start (withFront line f : PortM σ ε α) :=
  .withFront (fun _ => (receiving_since hline config patience start).toKept.interrupted)
    (fun _ hp _ => ⟨hp, nofun⟩) fun _ hp _ => ⟨hp.config, hp.patience, hp.start_le⟩

end Tasks

end Port

end LightingBus
