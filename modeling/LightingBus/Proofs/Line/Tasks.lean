import LightingBus.Controller.Search
import LightingBus.Proofs.Line.Receiving

/-!
# What tasks do

A task is taken apart at its steps. Between two of them events may interrupt it, so what it relies
on has to stand whatever the line does meanwhile.

1. `Port.exec` runs a task, `Port.Ensures` says what it makes of a port; `Ensures.bind`,
   `Ensures.step` and others follow the text of a task.
2. `Port.Kept` is a property that nothing takes away that happens by itself: events, polls and the
   clock. `Kept.Sending.waitSent`, `Kept.Receiving.receive` and `Stable.lock` are the waits, for the
   end of a frame, for a frame and for the lock.
3. `Controller.Ensures` says the same of what a controller does, `Ensures.withLock` of what it does
   with the lock held. `exchange_opens` splits an exchange into sending and waiting.
-/

namespace LightingBus

variable {σ ε α β : Type}

/-! ## Tasks of a port -/

namespace Port

/-- A task as a function of the port. -/
def exec (task : PortM σ ε α) (p : Port σ ε) : Except (PortError ε) α × Port σ ε :=
  task.run.run p

/-- The rest of a task goes on where its beginning has ended, unless that failed. -/
theorem exec_bind (task : PortM σ ε α) (next : α → PortM σ ε β) (p : Port σ ε) :
    exec (task >>= next) p =
      match exec task p with
      | (.ok a, p) => exec (next a) p
      | (.error e, p) => (.error e, p) := by
  unfold exec
  rw [ExceptT.run_bind, StateT.run_bind]
  generalize StateT.run (ExceptT.run task) p = out
  obtain ⟨_ | _, _⟩ := out <;> rfl

/-! ### Steps -/

section Steps

variable (line : Transport σ ε) (p : Port σ ε)

theorem exec_step (f : Port σ ε → Except (PortError ε) α × Port σ ε) :
    exec (step line f) p = f (interrupted line p) := rfl

theorem exec_withFront (f : FrameBuffer → α × FrameBuffer) : exec (withFront line f) p =
    let p := interrupted line p
    if p.engine.isSending then (.error .busy, p)
    else (.ok (f p.engine.front).1,
      { p with engine := { p.engine with front := (f p.engine.front).2 } }) := rfl

theorem exec_sendFrame (size : ℕ) (withBreak : Bool) (turnaround : Turnaround) :
    exec (sendFrame line size withBreak turnaround) p =
      let p := interrupted line p
      let out := Engine.beginSend line p.engine size withBreak turnaround p.world
      (out.1, { p with engine := out.2.1, world := out.2.2 }) := rfl

theorem exec_sendNoBreak (bytes : Bytes) : exec (sendNoBreak line bytes) p =
    let p := interrupted line p
    let written := p.engine.front.writeAt 0 bytes
    let engine := { p.engine with front := written.2 }
    if p.engine.isSending then (.error .busy, p)
    else if written.1 ≠ bytes.length then (.error .bufferOverflow, { p with engine := engine })
    else
      let out := Engine.beginSend line engine written.1 false .none p.world
      (out.1, { p with engine := out.2.1, world := out.2.2 }) := rfl

theorem isSending_abortSend (e : Engine) : e.abortSend.2.isSending = false := by
  unfold Engine.abortSend
  dsimp only
  split_ifs with hsending
  · rfl
  · exact Bool.eq_false_iff.mpr hsending

/-- The port after the frame being sent was given up: the line is released, or what waits to be sent
is forgotten, whether the driver fails or not. -/
def givenUp : Port σ ε :=
  { p with
    engine := p.engine.abortSend.2
    world := match p.engine.txState with
      | .inBreak => (line.releaseBreak p.world).2
      | .inMab | .sending => (line.flushQueued p.world).2
      | .idle | .done => p.world }

theorem exec_abortSend : (exec (abortSend line) p).2 = givenUp line (interrupted line p) := by
  unfold abortSend
  rw [exec_step]
  dsimp only [Engine.abortSend, givenUp]
  generalize interrupted line p = p
  cases p.engine.txState with
  | inBreak => dsimp only; rcases line.releaseBreak p.world with ⟨_ | _, _⟩ <;> rfl
  | inMab | sending => dsimp only; rcases line.flushQueued p.world with ⟨_ | _, _⟩ <;> rfl
  | idle | done => rfl

theorem exec_enterReceive : exec (enterReceive line) p =
    let p := interrupted line p
    if p.waiting then (.error .busy, p)
    else if p.engine.mode = .receive then (.ok (), { p with waiting := true })
    else (.ok (), { p.popFault.2 with
      waiting := true, engine := p.popFault.2.engine.armReceive false }) := rfl

theorem exec_tryLock : exec (tryLock line) p =
    let p := interrupted line p
    if p.isLocked then (.ok false, p) else (.ok true, { p with lockDepth := 1 }) := by
  unfold tryLock step'
  rw [exec_step]
  generalize interrupted line p = p
  dsimp only
  split_ifs <;> rfl

end Steps

/-! ### Triples -/

/-- How a task ends: with a result and `Q`, or with an error and `R`. -/
def Ends {E S : Type} (Q : α → S → Prop) (R : E → S → Prop) : Except E α × S → Prop
  | (.ok a, s) => Q a s
  | (.error e, s) => R e s

/-- From a port with `P` a task ends with a result and `Q`, or with an error and `R`. -/
def Ensures (P : Port σ ε → Prop) (task : PortM σ ε α) (Q : α → Port σ ε → Prop)
    (R : PortError ε → Port σ ε → Prop) : Prop :=
  ∀ p, P p → Ends Q R (exec task p)

variable {line : Transport σ ε} {P P' I : Port σ ε → Prop} {Q Q' : α → Port σ ε → Prop}
  {R R' : PortError ε → Port σ ε → Prop} {task : PortM σ ε α}

theorem Ends.mono {E S : Type} {Q Q' : α → S → Prop} {R R' : E → S → Prop} {out : Except E α × S}
    (h : Ends Q R out) (hQ : ∀ a s, Q a s → Q' a s) (hR : ∀ e s, R e s → R' e s) :
    Ends Q' R' out := by
  obtain ⟨_ | _, _⟩ := out
  · exact hR _ _ h
  · exact hQ _ _ h

/-- What stands however a task ends. -/
theorem Ends.both {E S : Type} {I : S → Prop} {out : Except E α × S}
    (h : Ends (fun _ => I) (fun _ => I) out) : I out.2 := by
  obtain ⟨_ | _, _⟩ := out <;> exact h

theorem Ensures.mono (h : Ensures P task Q R) (hP : ∀ p, P' p → P p)
    (hQ : ∀ a p, Q a p → Q' a p) (hR : ∀ e p, R e p → R' e p) : Ensures P' task Q' R' :=
  fun p hp => (h p (hP p hp)).mono hQ hR

theorem Ensures.bind {next : α → PortM σ ε β} {T : β → Port σ ε → Prop}
    (h : Ensures P task Q R) (hnext : ∀ a, Ensures (Q a) (next a) T R) :
    Ensures P (task >>= next) T R := by
  intro p hp
  have hend := h p hp
  rw [exec_bind]
  generalize exec task p = out at hend ⊢
  obtain ⟨_ | a, p₁⟩ := out
  · exact hend
  · exact hnext a p₁ hend

/-- What is known of a port says something of what a task makes of it, if the task ends well. -/
theorem Ensures.observe {U : Port σ ε → Prop} {V : α → Port σ ε → Prop} (h : Ensures P task Q R)
    (hV : ∀ p a q, U p → exec task p = (.ok a, q) → V a q) :
    Ensures (fun p => P p ∧ U p) task (fun a q => Q a q ∧ V a q) R := by
  rintro p ⟨hp, hU⟩
  have hend := h p hp
  have hV := hV p
  generalize exec task p = out at hend hV ⊢
  obtain ⟨_ | a, q⟩ := out
  · exact hend
  · exact ⟨hend, hV a q hU rfl⟩

theorem Ensures.pure {a : α} (h : ∀ p, P p → Q a p) : Ensures P (pure a) Q R :=
  fun p hp => h p hp

theorem Ensures.throw {e : PortError ε} (h : ∀ p, P p → R e p) :
    Ensures P (throw e : PortM σ ε α) Q R :=
  fun p hp => h p hp

theorem Ensures.get {Q : Port σ ε → Port σ ε → Prop} (h : ∀ p, P p → Q p p) :
    Ensures P (get : PortM σ ε (Port σ ε)) Q R :=
  fun p hp => h p hp

theorem Ensures.conclude {result : Except (PortError ε) α} (h : ∀ p, P p → Ends Q R (result, p)) :
    Ensures P (conclude result) Q R :=
  fun p hp => h p hp

theorem Ensures.attempt (h : Ensures P task Q R) :
    Ensures P (attempt task) (fun result p => Ends Q R (result, p)) R' := by
  intro p hp
  have hend : Ends Q R (exec task p) := h p hp
  change Ends _ R' (StateT.run (Except.ok <$> task.run) p)
  rw [StateT.run_map]
  exact hend

/-- Before a step of a task is taken, the events are handled that interrupt it: what the step relies
on has to stand then. -/
theorem Ensures.step {f : Port σ ε → Except (PortError ε) α × Port σ ε}
    (hrely : ∀ p, P p → P (interrupted line p)) (h : ∀ p, P p → Ends Q R (f p)) :
    Ensures P (step line f) Q R :=
  fun p hp => h _ (hrely p hp)

theorem Ensures.step' {f : Port σ ε → α × Port σ ε}
    (hrely : ∀ p, P p → P (interrupted line p)) (h : ∀ p, P p → Q (f p).1 (f p).2) :
    Ensures P (step' line f) Q R :=
  fun p hp => h _ (hrely p hp)

/-- The front buffer is used unless a frame is being sent from it. -/
theorem Ensures.withFront {f : FrameBuffer → α × FrameBuffer}
    (hrely : ∀ p, P p → P (interrupted line p))
    (hbusy : ∀ p, P p → p.engine.isSending = true → R .busy p)
    (h : ∀ p, P p → p.engine.isSending = false → Q (f p.engine.front).1
      { p with engine := { p.engine with front := (f p.engine.front).2 } }) :
    Ensures P (withFront line f) Q R := by
  intro p hp
  have hp := hrely p hp
  rw [exec_withFront]
  dsimp only
  split_ifs with hsending
  · exact hbusy _ hp hsending
  · exact h _ hp (Bool.eq_false_iff.mpr hsending)

/-- A frame is given up, whether the driver fails or not. -/
theorem Ensures.abortSend {Q : Port σ ε → Prop} (hrely : ∀ p, P p → P (interrupted line p))
    (h : ∀ p, P p → Q (givenUp line p)) :
    Ensures P (abortSend line) (fun _ => Q) fun _ => Q := by
  intro p hp
  have hgiven := h _ (hrely p hp)
  rw [← exec_abortSend] at hgiven
  generalize exec (Port.abortSend line) p = out at hgiven
  obtain ⟨_ | _, _⟩ := out <;> exact hgiven

theorem Ensures.now {Q : UInt64 → Port σ ε → Prop}
    (h : ∀ p, P p → Q (line.now p.world).1 { p with world := (line.now p.world).2 }) :
    Ensures P (now line) Q R :=
  fun p hp => h p hp

theorem Ensures.delay {Q : Unit → Port σ ε → Prop} {micros : UInt32}
    (h : ∀ p, P p → Q () { p with world := line.delay micros p.world }) :
    Ensures P (delay line micros) Q R :=
  fun p hp => h p hp

/-! ## What happens by itself -/

theorem onEvent_eq (line : Transport σ ε) (p : Port σ ε) (kind : Event) :
    p.onEvent line kind =
      { p with
        engine := (Engine.onEvent line kind p.engine p.world).2.1
        world := (Engine.onEvent line kind p.engine p.world).2.2
        driverFault := (p.onEvent line kind).driverFault } := by
  unfold Port.onEvent
  generalize Engine.onEvent line kind p.engine p.world = out
  obtain ⟨_ | _, _, _⟩ := out <;> rfl

/-- What is kept while a task waits, whatever the line does. -/
structure Kept (line : Transport σ ε) (I : Port σ ε → Prop) : Prop where
  onEvent {p : Port σ ε} (event : Event) : I p → I (p.onEvent line event)
  checkIdle {p : Port σ ε} (now : UInt64) : I p → I { p with engine := p.engine.checkIdle now }
  interrupts {p : Port σ ε} : I p → I { p with world := (line.interrupts p.world).2 }
  poll {p : Port σ ε} : I p → I { p with world := (line.poll p.world).2 }
  now {p : Port σ ε} : I p → I { p with world := (line.now p.world).2 }

theorem Kept.and {J : Port σ ε → Prop} (hI : Kept line I) (hJ : Kept line J) :
    Kept line fun p => I p ∧ J p where
  onEvent event h := ⟨hI.onEvent event h.1, hJ.onEvent event h.2⟩
  checkIdle now h := ⟨hI.checkIdle now h.1, hJ.checkIdle now h.2⟩
  interrupts h := ⟨hI.interrupts h.1, hJ.interrupts h.2⟩
  poll h := ⟨hI.poll h.1, hJ.poll h.2⟩
  now h := ⟨hI.now h.1, hJ.now h.2⟩

theorem Kept.foldEvents (hI : Kept line I) (events : List Event) {p : Port σ ε} (h : I p) :
    I (events.foldl (Port.onEvent line) p) := by
  induction events generalizing p with
  | nil => exact h
  | cons event events ih => exact ih (hI.onEvent event h)

theorem Kept.interrupted (hI : Kept line I) {p : Port σ ε} (h : I p) : I (interrupted line p) :=
  hI.foldEvents _ (hI.interrupts h)

theorem Kept.pollEvents (hI : Kept line I) (n : ℕ) {p : Port σ ε} (h : I p) :
    I (pollEvents line n p) := by
  induction n generalizing p with
  | zero => exact h
  | succ n ih =>
    have hpoll := hI.poll h
    unfold Port.pollEvents
    generalize line.poll p.world = asked at hpoll
    obtain ⟨_ | event, w⟩ := asked
    · exact hpoll
    · exact ih (hI.onEvent event hpoll)

theorem Kept.polled (hI : Kept line I) {p : Port σ ε} (h : I p) : I (polled line p) :=
  hI.checkIdle _ (hI.now (hI.pollEvents maxPolledEvents h))

theorem Kept.ensures_poll (hI : Kept line I) : Ensures I (Port.poll line) (fun _ => I) R :=
  .step' (fun _ => hI.interrupted) fun _ => hI.polled

theorem Kept.ensures_now (hI : Kept line I) : Ensures I (Port.now line) (fun _ => I) R :=
  .now fun _ => hI.now

theorem Kept.ensures_frame (hI : Kept line I) : Ensures I (Port.frame line) (fun _ => I) R :=
  .step' (fun _ => hI.interrupted) fun _ => id

/-! ## Waiting until a frame is sent -/

/-- What a task does that waits until a frame is sent: it takes the error of the driver, and gives
the frame up. -/
structure Kept.Sending (line : Transport σ ε) (I : Port σ ε → Prop) : Prop extends
    Kept line I where
  takeDriverFault {p : Port σ ε} : I p → I p.takeDriverFault.2
  givenUp {p : Port σ ε} : I p → I (givenUp line p)

theorem Kept.Sending.await (hI : Kept.Sending line I) (timeout : UInt32) (start : UInt64)
    (turns : ℕ) : Ensures I (awaitSent line timeout start turns) (fun _ => I) fun _ => I := by
  induction turns with
  | zero => exact .throw fun _ => id
  | succ turns ih =>
    refine .bind hI.ensures_poll fun _ => ?_
    refine .bind (Q := fun _ => I) (.step' (fun _ => hI.interrupted) fun p hp => ?_)
      fun seen => ?_
    · exact hI.takeDriverFault hp
    · split
      · exact .throw fun _ => id
      · exact .pure fun _ => id
      · refine .bind hI.ensures_now fun now => ?_
        split_ifs
        · refine .bind (.abortSend (fun _ => hI.interrupted) fun _ => hI.givenUp) fun _ => ?_
          exact .throw fun _ => id
        · exact ih

theorem Kept.Sending.waitSent (hI : Kept.Sending line I) (timeout : UInt32) :
    Ensures I (waitSent line timeout) (fun _ => I) fun _ => I := by
  refine .bind hI.ensures_now fun start => ?_
  refine .bind (Q := fun _ => I) (.get fun _ => id) fun p => ?_
  exact hI.await timeout start p.patience

/-! ## Waiting for a frame -/

/-- Taking faults changes nothing else. -/
theorem popFault_keeps (p : Port σ ε) :
    p.popFault.2.engine = { p.engine with faults := p.popFault.2.engine.faults } ∧
      p.popFault.2.world = p.world ∧ p.popFault.2.lockDepth = p.lockDepth := by
  unfold popFault
  split <;> exact ⟨rfl, rfl, rfl⟩

/-- Taking a frame only remembers that it is taken. -/
theorem takeFrame_keeps (e : Engine) :
    e.takeFrame.2 = { e with frameReady := e.takeFrame.2.frameReady } := by
  unfold Engine.takeFrame
  split_ifs <;> rfl

/-- What a task does that waits for a frame: it tells others that it waits, and takes faults and
frames. -/
structure Kept.Receiving (line : Transport σ ε) (I : Port σ ε → Prop) : Prop extends
    Kept line I where
  waiting {p : Port σ ε} (b : Bool) : I p → I { p with waiting := b }
  popFault {p : Port σ ε} : I p → I p.popFault.2
  armReceive {p : Port σ ε} : I p → I { p with engine := p.engine.armReceive false }
  takeFrame {p : Port σ ε} : I p → I { p with engine := p.engine.takeFrame.2 }

theorem Kept.Receiving.enter (hI : Kept.Receiving line I) :
    Ensures I (enterReceive line) (fun _ => I) fun _ => I := by
  refine .step (fun _ => hI.interrupted) fun p hp => ?_
  dsimp only
  split_ifs
  · exact hp
  · exact hI.waiting true hp
  · have hpopped : I p.popFault.2 := hI.popFault hp
    exact hI.waiting true (hI.armReceive hpopped)

theorem Kept.Receiving.await (hI : Kept.Receiving line I) (timeout : UInt32)
    (limit start : UInt64) (turns : ℕ) :
    Ensures I (awaitFrame line timeout limit start turns) (fun _ => I) fun _ => I := by
  induction turns with
  | zero => exact .throw fun _ => id
  | succ turns ih =>
    refine .bind hI.ensures_poll fun _ => ?_
    refine .bind (Q := fun _ => I) (.step' (fun _ => hI.interrupted) fun p hp => ?_)
      fun seen => ?_
    · exact hI.popFault (hI.takeFrame hp)
    · dsimp only
      split
      · exact .throw fun _ => id
      · exact .pure fun _ => id
      · refine .bind hI.ensures_now fun now => ?_
        split_ifs
        · exact .throw fun _ => id
        · exact ih

theorem Kept.Receiving.receive (hI : Kept.Receiving line I) (timeout : UInt32) :
    Ensures I (receive line timeout) (fun _ => I) fun _ => I := by
  refine .bind hI.enter fun _ => ?_
  have hwait : Ensures I (waitForFrame line timeout) (fun _ => I) fun _ => I := by
    refine .bind hI.ensures_now fun start => ?_
    refine .bind (Q := fun _ => I) (.get fun _ => id) fun p => ?_
    exact hI.await timeout _ start p.patience
  refine .bind hwait.attempt fun result => ?_
  have hleave : Ensures (fun p => Ends (fun _ => I) (fun _ => I) (result, p)) (leaveReceive line)
      (fun _ p => Ends (fun _ => I) (fun _ => I) (result, p)) fun _ => I := by
    cases result <;>
      exact .step' (fun _ => hI.interrupted) fun _ => hI.waiting false
  exact .bind hleave fun _ => .conclude fun _ => id

/-- No frame is begun by itself. -/
theorem receiving_idle (line : Transport σ ε) :
    Kept.Receiving line fun p => p.engine.isSending = false where
  onEvent {p} kind h := by
    have hidle := Engine.isSending_onEvent line kind p.world h
    rw [onEvent_eq]
    exact hidle
  checkIdle {p} now h :=
    (Engine.isSending_congr (Engine.listens_checkIdle p.engine now).txState).trans h
  interrupts h := h
  poll h := h
  now h := h
  waiting _ h := h
  popFault {p} h := by
    rw [(popFault_keeps p).1]
    exact h
  armReceive {p} h := (Engine.isSending_armReceive p.engine false).trans h
  takeFrame {p} h := by
    dsimp only
    rw [takeFrame_keeps]
    exact h

/-! ## Waiting for the lock -/

/-- What stands while a task takes a step, reads the clock or uses the transaction lock. -/
structure Stable (line : Transport σ ε) (I : Port σ ε → Prop) : Prop where
  interrupted {p : Port σ ε} : I p → I (interrupted line p)
  now {p : Port σ ε} : I p → I { p with world := (line.now p.world).2 }
  lockDepth {p : Port σ ε} (depth : UInt8) : I p → I { p with lockDepth := depth }

theorem lockDepth_onEvent (line : Transport σ ε) (p : Port σ ε) (event : Event) :
    (p.onEvent line event).lockDepth = p.lockDepth := by
  unfold Port.onEvent
  split <;> rfl

/-- Who waits for a frame does not use the lock, nor does anything that happens by itself. -/
theorem receiving_lockDepth (line : Transport σ ε) (depth : UInt8) :
    Kept.Receiving line fun p => p.lockDepth = depth where
  onEvent event h := (lockDepth_onEvent line _ event).trans h
  checkIdle _ h := h
  interrupts h := h
  poll h := h
  now h := h
  waiting _ h := h
  popFault {p} h := (popFault_keeps p).2.2.trans h
  armReceive h := h
  takeFrame h := h

/-- How many guards hold a lock that is entered once more; the count saturates. -/
def deeper (depth : UInt8) : UInt8 :=
  if depth = 255 then 255 else depth + 1

variable {depth : UInt8}

theorem Stable.interrupted_lockDepth (hI : Stable line I) {p : Port σ ε}
    (h : p.lockDepth = depth ∧ I p) :
    (Port.interrupted line p).lockDepth = depth ∧ I (Port.interrupted line p) :=
  ⟨(receiving_lockDepth line depth).interrupted h.1, hI.interrupted h.2⟩

/-- Whoever looks gets the lock exactly if nobody holds it. -/
theorem Stable.tryLock (hI : Stable line I) :
    Ensures (fun p => p.lockDepth = depth ∧ I p) (tryLock line)
      (fun taken p => (taken = true ↔ depth = 0) ∧
        p.lockDepth = (if taken then 1 else depth) ∧ I p) R := by
  refine .step' (fun _ => hI.interrupted_lockDepth) fun p hp => ?_
  have hlocked : p.isLocked = true ↔ depth ≠ 0 := by simp [isLocked, hp.1]
  by_cases h : p.isLocked = true
  · rw [if_pos h]
    exact ⟨iff_of_false Bool.false_ne_true (hlocked.mp h), hp⟩
  · rw [if_neg h]
    exact ⟨iff_of_true rfl (not_not.mp (mt hlocked.mpr h)), rfl, hI.lockDepth 1 hp.2⟩

/-- Nobody else takes a step while a task waits, so that it gets the lock at the first look or not
at all. -/
theorem Stable.awaitLock (hI : Stable line I) (timeout : UInt32) (start : UInt64) (turns : ℕ) :
    Ensures (fun p => p.lockDepth = depth ∧ I p) (awaitLock line timeout start turns)
      (fun _ p => (depth = 0 ∧ 0 < turns) ∧ p.lockDepth = 1 ∧ I p)
      fun _ p => ¬ (depth = 0 ∧ 0 < turns) ∧ p.lockDepth = depth ∧ I p := by
  induction turns with
  | zero => exact .throw fun p hp => ⟨fun h => Nat.lt_irrefl 0 h.2, hp⟩
  | succ turns ih =>
    refine .bind hI.tryLock fun taken => ?_
    cases taken with
    | true => exact .pure fun p hp => ⟨⟨hp.1.mp rfl, turns.succ_pos⟩, hp.2⟩
    | false =>
      refine .bind (Q := fun _ p => depth ≠ 0 ∧ p.lockDepth = depth ∧ I p) (.now fun p hp => ?_)
        fun now => ?_
      · exact ⟨fun hfree => Bool.false_ne_true (hp.1.mpr hfree), hp.2.1, hI.now hp.2.2⟩
      · split_ifs
        · exact .throw fun p hp => ⟨fun h => hp.1 h.1, hp.2⟩
        · intro p hp
          refine (ih p hp.2).mono (fun _ q hq => absurd hq.1.1 hp.1) fun _ q hq => ?_
          exact ⟨fun h => hp.1 h.1, hq.2⟩

theorem Stable.takes_lock (hI : Stable line I) (timeout : UInt32) (patience : ℕ) :
    Ensures (fun p => p.patience = patience ∧ p.lockDepth = depth ∧ I p) (Port.lock line timeout)
      (fun _ p => (depth = 0 ∧ 0 < patience) ∧ p.lockDepth = 1 ∧ I p)
      fun _ p => ¬ (depth = 0 ∧ 0 < patience) ∧ p.lockDepth = depth ∧ I p := by
  refine .bind (Q := fun _ p => p.patience = patience ∧ p.lockDepth = depth ∧ I p)
    (.now fun p hp => ?_) fun start => ?_
  · exact ⟨hp.1, hp.2.1, hI.now hp.2.2⟩
  · refine .bind (Q := fun p q => p.patience = patience ∧ q.lockDepth = depth ∧ I q)
      (.get fun _ => id) fun p => ?_
    intro q hq
    rw [← hq.1]
    exact hI.awaitLock timeout start p.patience q hq.2

theorem Stable.lock (hI : Stable line I) (timeout : UInt32) :
    Ensures (fun p => p.lockDepth = depth ∧ I p) (lock line timeout)
      (fun _ p => p.lockDepth = deeper depth ∧ I p) fun _ p => p.lockDepth = depth ∧ I p := by
  intro p hp
  refine (hI.takes_lock timeout p.patience p ⟨rfl, hp⟩).mono (fun _ q hq => ?_) fun _ q hq => hq.2
  refine ⟨?_, hq.2.2⟩
  rw [hq.2.1, hq.1.1]
  rfl

theorem Stable.nest (hI : Stable line I) : Ensures (fun p => p.lockDepth = depth ∧ I p) (nest line)
    (fun _ p => p.lockDepth = deeper depth ∧ I p) R := by
  refine .step' (fun _ => hI.interrupted_lockDepth) fun p hp => ?_
  refine ⟨?_, hI.lockDepth _ hp.2⟩
  dsimp only
  rw [hp.1, deeper]

/-- Unless the count has saturated, giving up the lock undoes entering it. -/
theorem Stable.unlock (hI : Stable line I) (hdepth : depth ≠ 255) :
    Ensures (fun p => p.lockDepth = deeper depth ∧ I p) (unlock line)
      (fun _ p => p.lockDepth = depth ∧ I p) R := by
  refine .step' (fun _ => hI.interrupted_lockDepth) fun p hp => ?_
  refine ⟨?_, hI.lockDepth _ hp.2⟩
  dsimp only
  have hheld : depth + 1 ≠ 0 := by
    intro h
    apply hdepth
    rw [← UInt8.add_sub_cancel depth 1, h]
    rfl
  rw [hp.1, deeper, if_neg hdepth, if_neg hheld, UInt8.add_sub_cancel]

end Port

/-! ## Controllers -/

namespace Controller

/-- From a port with `P`, what a controller does ends with a result and `Q`, or with an error and
`R`, whatever the controller was before. -/
def Ensures (P : Port σ ε → Prop) (task : ControllerM σ ε α) (Q : α → Port σ ε → Prop)
    (R : RequestError ε → Port σ ε → Prop) : Prop :=
  ∀ c p, P p → Port.Ends (fun a s => Q a s.2) (fun e s => R e s.2) (runWith task (c, p))

variable {line : Transport σ ε} {P P' : Port σ ε → Prop} {Q Q' : α → Port σ ε → Prop}
  {R R' : RequestError ε → Port σ ε → Prop} {task : ControllerM σ ε α}

theorem Ensures.mono (h : Ensures P task Q R) (hP : ∀ p, P' p → P p)
    (hQ : ∀ a p, Q a p → Q' a p) (hR : ∀ e p, R e p → R' e p) : Ensures P' task Q' R' :=
  fun c p hp => (h c p (hP p hp)).mono (fun a s => hQ a s.2) fun e s => hR e s.2

/-- The rest of a task goes on where its beginning has ended, unless that failed. -/
theorem runWith_bind (task : ControllerM σ ε α) (next : α → ControllerM σ ε β)
    (s : Controller × Port σ ε) : runWith (task >>= next) s =
      match runWith task s with
      | (.ok a, s) => runWith (next a) s
      | (.error e, s) => (.error e, s) := by
  unfold runWith
  rw [ExceptT.run_bind, StateT.run_bind, StateT.run_bind]
  generalize (task.run.run s.1).run s.2 = out
  obtain ⟨⟨_ | _, _⟩, _⟩ := out <;> rfl

theorem Ensures.bind {next : α → ControllerM σ ε β} {T : β → Port σ ε → Prop}
    (h : Ensures P task Q R) (hnext : ∀ a, Ensures (Q a) (next a) T R) :
    Ensures P (task >>= next) T R := by
  intro c p hp
  have hend := h c p hp
  rw [runWith_bind]
  generalize runWith task (c, p) = out at hend ⊢
  obtain ⟨_ | a, c₁, p₁⟩ := out
  · exact hend
  · exact hnext a c₁ p₁ hend

theorem Ensures.pure {a : α} (h : ∀ p, P p → Q a p) : Ensures P (pure a) Q R :=
  fun _ p hp => h p hp

theorem Ensures.throw {e : RequestError ε} (h : ∀ p, P p → R e p) :
    Ensures P (throw e : ControllerM σ ε α) Q R :=
  fun _ p hp => h p hp

theorem Ensures.conclude {result : Except (RequestError ε) α}
    (h : ∀ p, P p → Port.Ends Q R (result, p)) : Ensures P (conclude result) Q R := by
  intro c p hp
  have hend := h p hp
  cases result <;> exact hend

theorem Ensures.attempt (h : Ensures P task Q R) :
    Ensures P (attempt task) (fun result p => Port.Ends Q R (result, p)) R' := by
  intro c p hp
  have hend := h c p hp
  change Port.Ends Q R ((runWith task (c, p)).1, (runWith task (c, p)).2.2)
  generalize runWith task (c, p) = out at hend
  obtain ⟨_ | _, _, _⟩ := out <;> exact hend

theorem Ensures.onPort {task : PortM σ ε α}
    (h : Port.Ensures P task Q fun e => R (RequestError.ofPort e)) :
    Ensures P (onPort task) Q R := by
  intro c p hp
  have hend := h p hp
  change Port.Ends _ _ ((Port.exec task p).1.mapError RequestError.ofPort, c, (Port.exec task p).2)
  generalize Port.exec task p = out at hend
  obtain ⟨_ | _, _⟩ := out <;> exact hend

theorem Ensures.tryPort {task : PortM σ ε α} {R : PortError ε → Port σ ε → Prop}
    (h : Port.Ensures P task Q R) :
    Ensures P (tryPort task) (fun result p => Port.Ends Q R (result, p)) R' :=
  fun _ p hp => h p hp

/-- What stands of the port before a task may say something that is no matter of the port. -/
theorem Ensures.given {known : Prop} (h : known → Ensures P task Q R) :
    Ensures (fun p => known ∧ P p) task Q R :=
  fun c p hp => h hp.1 c p hp.2

theorem Ensures.config {Q : LineConfig → Port σ ε → Prop} (h : ∀ p, P p → Q p.config p) :
    Ensures P config Q R :=
  fun _ p hp => h p hp

theorem Ensures.read {Q : Controller → Port σ ε → Prop} (h : ∀ c p, P p → Q c p) :
    Ensures P (getThe Controller) Q R :=
  fun c p hp => h c p hp

theorem runWith_read {next : Controller → ControllerM σ ε β} (c : Controller) (p : Port σ ε) :
    runWith (getThe Controller >>= next) (c, p) = runWith (next c) (c, p) := rfl

theorem Ensures.change {Q : Unit → Port σ ε → Prop} {f : Controller → Controller}
    (h : ∀ p, P p → Q () p) : Ensures P (modifyThe Controller f) Q R :=
  fun _ p hp => h p hp

/-! ## The lock -/

variable {I : Port σ ε → Prop} {depth : UInt8}

theorem ensures_enter (hI : Port.Stable line I) :
    Ensures (fun p => p.lockDepth = depth ∧ I p) (enter line)
      (fun _ p => p.lockDepth = Port.deeper depth ∧ I p) fun _ p => p.lockDepth = depth ∧ I p := by
  refine .bind (Q := fun _ p => p.lockDepth = depth ∧ I p) (.read fun _ _ => id) fun c => ?_
  split_ifs
  · exact .onPort hI.nest
  · refine .bind (Q := fun _ p => p.lockDepth = depth ∧ I p) (.config fun _ => id) fun config => ?_
    refine .bind (.tryPort (hI.lock _)) fun result => ?_
    split
    · exact .pure fun _ => id
    · exact .throw fun _ => id
    · exact .throw fun _ => id

theorem keeps_enter (hI : Port.Stable line I) : Ensures I (enter line) (fun _ => I) fun _ => I :=
  fun c p hp => (ensures_enter hI c p ⟨rfl, hp⟩).mono (fun _ _ h => h.2) fun _ _ h => h.2

/-- However a task ends that is done with the lock held, the lock is given up. -/
theorem ends_withLock {P' : Port σ ε → Prop} {Q' : α → Port σ ε → Prop}
    {R' : RequestError ε → Port σ ε → Prop} {s : Controller × Port σ ε}
    (henter : Port.Ends (fun _ s => P' s.2) (fun e s => R e s.2) (runWith (enter line) s))
    (htask : Ensures P' task Q' R')
    (hunlock : ∀ result, Port.Ensures (fun p => Port.Ends Q' R' (result, p)) (Port.unlock line)
      (fun _ p => Port.Ends Q R (result, p)) fun _ _ => False) :
    Port.Ends (fun a s => Q a s.2) (fun e s => R e s.2) (runWith (withLock line task) s) := by
  unfold withLock
  rw [runWith_bind]
  generalize runWith (enter line) s = entered at henter ⊢
  obtain ⟨_ | _, c, p⟩ := entered
  · exact henter
  · have hrest : Ensures P' (do
        let result ← attempt task
        onPort (Port.unlock line)
        conclude result) Q R := by
      refine .bind htask.attempt fun result => ?_
      refine .bind (.onPort ((hunlock result).mono (fun _ => id) (fun _ _ => id)
        fun _ _ h => h.elim)) fun _ => ?_
      exact .conclude fun _ => id
    exact hrest c p henter

theorem Ensures.withLock {P' : Port σ ε → Prop} {Q' : α → Port σ ε → Prop}
    {R' : RequestError ε → Port σ ε → Prop} (henter : Ensures P (enter line) (fun _ => P') R)
    (htask : Ensures P' task Q' R')
    (hunlock : ∀ result, Port.Ensures (fun p => Port.Ends Q' R' (result, p)) (Port.unlock line)
      (fun _ p => Port.Ends Q R (result, p)) fun _ _ => False) :
    Ensures P (withLock line task) Q R :=
  fun c p hp => ends_withLock (henter c p hp) htask hunlock

/-! ## Waiting for a response -/

theorem ensures_awaitResponse (hI : Port.Kept.Receiving line I) (commandClass : CommandClass)
    (inquiry : Inquiry) (transaction : UInt8) (start : UInt64) (turns : ℕ) :
    Ensures I (awaitResponse line commandClass inquiry transaction start turns) (fun _ => I)
      fun _ => I := by
  induction turns with
  | zero => exact .throw fun _ => id
  | succ turns ih =>
    refine .bind (Q := fun _ => I) (.config fun _ => id) fun config => ?_
    refine .bind (.onPort (hI.receive config.responseTimeout)) fun _ => ?_
    refine .bind (Q := fun _ => I) (.onPort hI.ensures_frame) fun frame => ?_
    split
    · exact .throw fun _ => id
    · exact .throw fun _ => id
    · split_ifs
      · refine .bind (Q := fun _ => I) (.read fun _ _ => id) fun c => ?_
        refine .conclude fun p hp => ?_
        cases c.checkResponse commandClass inquiry _ <;> exact hp
      · refine .bind (.onPort hI.ensures_now) fun now => ?_
        refine .bind (Q := fun _ => I) (.config fun _ => id) fun config => ?_
        split_ifs
        · exact .throw fun _ => id
        · exact ih

/-- How a task ends that begins with another one: it fails if that fails, and otherwise the rest of
it keeps what stands then. -/
structure Opens (opening : ControllerM σ ε Unit) (I : Port σ ε → Prop) (s : Controller × Port σ ε)
    (out : Except (RequestError ε) α × Controller × Port σ ε) : Prop where
  failed {e : RequestError ε} : (runWith opening s).1 = .error e →
    out = (.error e, (runWith opening s).2)
  kept : (runWith opening s).1 = .ok () → I (runWith opening s).2.2 → I out.2.2

theorem opens_bind {opening : ControllerM σ ε Unit} {next : ControllerM σ ε α}
    (hnext : Ensures I next (fun _ => I) fun _ => I) (s : Controller × Port σ ε) :
    Opens opening I s (runWith (opening >>= fun _ => next) s) := by
  rw [runWith_bind]
  constructor <;> generalize runWith opening s = out <;> obtain ⟨_ | _, c, p⟩ := out
  · exact fun h => by cases h; rfl
  · nofun
  · nofun
  · exact fun _ hp => (hnext c p hp).both

theorem Opens.ends {opening : ControllerM σ ε Unit} {c : Controller} {p : Port σ ε}
    {out : Except (RequestError ε) α × Controller × Port σ ε} (h : Opens opening I (c, p) out)
    (hopening : Ensures P opening (fun _ => I) R) (hR : ∀ e p, I p → R e p) (hp : P p) :
    Port.Ends (fun _ s => I s.2) (fun e s => R e s.2) out := by
  have hend := hopening c p hp
  obtain ⟨hfailed, hkept⟩ := h
  generalize runWith opening (c, p) = sent at hend hfailed hkept
  obtain ⟨e | _, s⟩ := sent
  · rw [hfailed rfl]
    exact hend
  · have hI : I out.2.2 := hkept rfl hend
    obtain ⟨e | _, _, q⟩ := out
    · exact hR e q hI
    · exact hI

/-- The line is turned around for the response, unless the request is a broadcast. -/
def turnaroundFor (inquiry : Inquiry) : Turnaround :=
  if inquiry.destination.isBroadcast then .none else .receive

/-- Once the request is sent, an exchange only waits. -/
theorem exchange_opens (hI : Port.Kept.Receiving line I) (c : Controller) (p : Port σ ε)
    (commandClass : CommandClass) (inquiry : Inquiry) (transaction : UInt8) :
    Opens (sendMessage line (c.message commandClass inquiry transaction) (turnaroundFor inquiry)) I
      (c, p) (runWith (exchange line commandClass inquiry transaction) (c, p)) := by
  unfold exchange turnaroundFor
  rw [runWith_read]
  dsimp only
  split_ifs
  · exact opens_bind (.pure fun _ => id) _
  · refine opens_bind ?_ _
    refine .bind (.onPort hI.ensures_now) fun start => ?_
    refine .bind (Q := fun _ => I) (.onPort (.get fun _ => id)) fun q => ?_
    refine .bind (ensures_awaitResponse hI commandClass inquiry transaction start q.patience)
      fun response => ?_
    exact .pure fun _ => id

theorem branchExchange_opens (hI : Port.Kept.Receiving line I) (c : Controller) (p : Port σ ε)
    (lower upper : ℕ) (transaction : UInt8) :
    Opens (sendMessage line (c.message .discovery (branchInquiry lower upper) transaction)
      .receiveNoBreak) I (c, p) (runWith (branchExchange line lower upper transaction) (c, p)) := by
  unfold branchExchange
  rw [runWith_read]
  refine opens_bind ?_ _
  refine .bind (Q := fun _ => I) (.config fun _ => id) fun config => ?_
  refine .bind (.tryPort (hI.receive config.responseTimeout)) fun result => ?_
  split
  · exact .pure fun _ => id
  · exact .pure fun _ => id
  · exact .pure fun _ => id
  · exact .pure fun _ => id
  · exact .throw fun _ => id
  · refine .bind (Q := fun _ => I) (.onPort hI.ensures_frame) fun frame => ?_
    split <;> exact .pure fun _ => id

end Controller

end LightingBus
