import LightingBus.Proofs.Line.Marks
import LightingBus.Proofs.Line.Tasks

/-!
# Two runs of a task

A task cannot tell apart two ports whose engines differ in their marks only, until it takes these
marks to its owner. So two runs of it from such ports end with the same result.

1. `Port.Alike` relates two such ports, `Agree` two outcomes with one result. `Agrees.bind`,
   `Agrees.step` and others follow the text of a task, as their counterparts for one run do.
2. `Steady` is a relation that stands while a task reads the port or uses the lock.
3. Sending a frame takes no marks (`agrees_waitSent`). Waiting for one takes them, and asks that
   they tell the same, which is `Marks.Told` (`agrees_receive`).
-/

namespace LightingBus

variable {σ ε α β S ρ : Type}

/-- Two outcomes with the same result, whose states are related. -/
inductive Agree (Q : S → S → Prop) : ρ × S → ρ × S → Prop where
  | mk {r : ρ} {s s' : S} : Q s s' → Agree Q (r, s) (r, s')

theorem Agree.map {S' ρ' : Type} {Q : S → S → Prop} {T : S' → S' → Prop} {out out' : ρ × S}
    (h : Agree Q out out') (f : ρ → ρ') (g : S → S') (hg : ∀ s s', Q s s' → T (g s) (g s')) :
    Agree T (f out.1, g out.2) (f out'.1, g out'.2) := by
  obtain ⟨hs⟩ := h
  exact .mk (hg _ _ hs)

theorem Agree.result {Q : S → S → Prop} {out out' : ρ × S} (h : Agree Q out out') :
    out'.1 = out.1 := by
  obtain ⟨-⟩ := h
  rfl

theorem Agree.ite {Q : S → S → Prop} {a a' b b' : ρ × S} {c c' : Prop} [Decidable c]
    [Decidable c'] (hc : c ↔ c') (ha : c → Agree Q a a') (hb : ¬ c → Agree Q b b') :
    Agree Q (if c then a else b) (if c' then a' else b') := by
  by_cases h : c
  · rw [if_pos h, if_pos (hc.mp h)]
    exact ha h
  · rw [if_neg h, if_neg (mt hc.mpr h)]
    exact hb h

namespace Port

/-- Two ports that differ in the marks of their engines only, which are related. -/
structure Alike (R : Marks → Marks → Prop) (p q : Port σ ε) : Prop where
  eq_engine : q = { p with engine := q.engine }
  engine : p.engine.Alike R q.engine

/-- Two runs of a task from ports with `P` end with the same result and ports with `Q`. -/
def Agrees (P : Port σ ε → Port σ ε → Prop) (task : PortM σ ε α)
    (Q : Port σ ε → Port σ ε → Prop) : Prop :=
  ∀ p q, P p q → Agree Q (exec task p) (exec task q)

variable {line : Transport σ ε} {P Q T : Port σ ε → Port σ ε → Prop} {R : Marks → Marks → Prop}
  {p q : Port σ ε} {task : PortM σ ε α}

theorem Alike.exists_mark (h : Alike R p q) :
    ∃ m, q = { p with engine := p.engine.mark m } ∧ R p.engine.marks m := by
  obtain ⟨m, hmark, hm⟩ := h.engine.exists_mark
  refine ⟨m, ?_, hm⟩
  rw [h.eq_engine, hmark]

theorem Alike.mono {R' : Marks → Marks → Prop} (h : Alike R p q)
    (hR : ∀ m m', R m m' → R' m m') : Alike R' p q :=
  ⟨h.eq_engine, h.engine.eq_mark, hR _ _ h.engine.rel⟩

theorem Alike.world (h : Alike R p q) : q.world = p.world := by
  rw [h.eq_engine]

theorem Alike.config (h : Alike R p q) : q.config = p.config := by
  rw [h.eq_engine]

theorem Alike.patience (h : Alike R p q) : q.patience = p.patience := by
  rw [h.eq_engine]

/-! ## Tasks step by step -/

/-- The rest of a task goes on from related ports; a run that fails ends with them. -/
theorem Agrees.bind {next : α → PortM σ ε β} (h : Agrees P task Q)
    (hnext : ∀ a, Agrees Q (next a) Q) : Agrees P (task >>= next) Q := by
  intro p q hpq
  have hend := h p q hpq
  change Agree Q (StateT.run (ExceptT.run (task >>= next)) p)
    (StateT.run (ExceptT.run (task >>= next)) q)
  change Agree Q (StateT.run (ExceptT.run task) p) (StateT.run (ExceptT.run task) q) at hend
  rw [ExceptT.run_bind, StateT.run_bind, StateT.run_bind]
  generalize StateT.run (ExceptT.run task) p = out at hend ⊢
  generalize StateT.run (ExceptT.run task) q = out' at hend ⊢
  obtain ⟨hs⟩ := hend
  next r s s' =>
    cases r with
    | error e => exact .mk hs
    | ok a => exact hnext a s s' hs

theorem Agrees.pure {a : α} : Agrees P (pure a) P :=
  fun _ _ => .mk

theorem Agrees.throw {e : PortError ε} : Agrees P (throw e : PortM σ ε α) P :=
  fun _ _ => .mk

theorem Agrees.conclude {result : Except (PortError ε) α} : Agrees P (conclude result) P :=
  fun _ _ => .mk

theorem Agrees.ite {c : Prop} [Decidable c] {other : PortM σ ε α} (h : Agrees P task Q)
    (hother : Agrees P other Q) : Agrees P (if c then task else other) Q := by
  split_ifs
  · exact h
  · exact hother

theorem Agrees.attempt (h : Agrees P task Q) : Agrees P (attempt task) Q := by
  intro p q hpq
  change Agree Q (StateT.run (Except.ok <$> task.run) p) (StateT.run (Except.ok <$> task.run) q)
  rw [StateT.run_map, StateT.run_map]
  exact (h p q hpq).map Except.ok id fun _ _ => id

/-- Before a step of a task is taken, both ports handle the same interrupting events. -/
theorem Agrees.step {f : Port σ ε → Except (PortError ε) α × Port σ ε}
    (hrely : ∀ p q, P p q → P (interrupted line p) (interrupted line q))
    (h : ∀ p q, P p q → Agree Q (f p) (f q)) : Agrees P (step line f) Q :=
  fun p q hpq => h _ _ (hrely p q hpq)

theorem Agrees.step' {f : Port σ ε → α × Port σ ε}
    (hrely : ∀ p q, P p q → P (interrupted line p) (interrupted line q))
    (h : ∀ p q, P p q → Agree Q (f p) (f q)) : Agrees P (step' line f) Q :=
  .step hrely fun p q hpq => (h p q hpq).map Except.ok id fun _ _ => id

/-- What a task reads of its port has to be the same in both. -/
theorem Agrees.read {next : Port σ ε → PortM σ ε β} (hsame : ∀ p q, P p q → next q = next p)
    (h : ∀ p, Agrees P (next p) Q) : Agrees P (get >>= next) Q := by
  intro p q hpq
  change Agree Q (exec (next p) p) (exec (next q) q)
  rw [hsame p q hpq]
  exact h p p q hpq

/-! ## Reading the port and using the lock -/

/-- A relation between two ports that stands while a task reads its port or uses the lock. -/
structure Steady (line : Transport σ ε) (P : Port σ ε → Port σ ε → Prop) : Prop where
  alike {p q : Port σ ε} : P p q → Alike (fun _ _ => True) p q
  interrupted {p q : Port σ ε} : P p q → P (interrupted line p) (interrupted line q)
  congr {p q : Port σ ε} (w : σ) (depth number : UInt8) : P p q →
    P { p with world := w, lockDepth := depth, transaction := number }
      { q with world := w, lockDepth := depth, transaction := number }

namespace Steady

theorem exists_mark (hP : Steady line P) (h : P p q) :
    ∃ m, q = { p with engine := p.engine.mark m } := by
  obtain ⟨m, hq, -⟩ := (hP.alike h).exists_mark
  exact ⟨m, hq⟩

theorem agrees_now (hP : Steady line P) : Agrees P (now line) P := by
  intro p q h
  obtain ⟨m, rfl⟩ := hP.exists_mark h
  exact .mk (hP.congr (line.now p.world).2 p.lockDepth p.transaction h)

theorem agrees_frame (hP : Steady line P) : Agrees P (frame line) P := by
  refine .step' (fun _ _ => hP.interrupted) fun p q h => ?_
  obtain ⟨m, rfl⟩ := hP.exists_mark h
  exact .mk h

theorem agrees_snapshot (hP : Steady line P) : Agrees P (snapshot line) P := by
  refine .step' (fun _ _ => hP.interrupted) fun p q h => ?_
  obtain ⟨m, rfl⟩ := hP.exists_mark h
  exact .mk h

theorem agrees_nextTransaction (hP : Steady line P) : Agrees P (nextTransaction line) P := by
  refine .step' (fun _ _ => hP.interrupted) fun p q h => ?_
  obtain ⟨m, rfl⟩ := hP.exists_mark h
  exact .mk (hP.congr p.world p.lockDepth (p.transaction + 1) h)

theorem agrees_tryLock (hP : Steady line P) : Agrees P (tryLock line) P := by
  refine .step' (fun _ _ => hP.interrupted) fun p q h => ?_
  obtain ⟨m, rfl⟩ := hP.exists_mark h
  exact .ite Iff.rfl (fun _ => .mk h) fun _ => .mk (hP.congr p.world 1 p.transaction h)

theorem agrees_awaitLock (hP : Steady line P) (timeout : UInt32) (start : UInt64) (turns : ℕ) :
    Agrees P (awaitLock line timeout start turns) P := by
  induction turns with
  | zero => exact .throw
  | succ turns ih =>
    refine .bind hP.agrees_tryLock fun taken => .ite .pure ?_
    exact .bind hP.agrees_now fun now => .ite .throw ih

theorem agrees_lock (hP : Steady line P) (timeout : UInt32) :
    Agrees P (lock line timeout) P := by
  refine .bind hP.agrees_now fun start => ?_
  refine .read (fun p q h => ?_) fun p => hP.agrees_awaitLock timeout start p.patience
  rw [(hP.alike h).patience]

theorem agrees_nest (hP : Steady line P) : Agrees P (nest line) P := by
  refine .step' (fun _ _ => hP.interrupted) fun p q h => ?_
  obtain ⟨m, rfl⟩ := hP.exists_mark h
  exact .mk (hP.congr p.world _ p.transaction h)

theorem agrees_unlock (hP : Steady line P) : Agrees P (unlock line) P := by
  refine .step' (fun _ _ => hP.interrupted) fun p q h => ?_
  obtain ⟨m, rfl⟩ := hP.exists_mark h
  exact .mk (hP.congr p.world _ p.transaction h)

end Steady

/-! ## What happens by itself -/

theorem Alike.onEvent (hR : Marks.Noted R) (h : Alike R p q) (event : Event) :
    Alike R (p.onEvent line event) (q.onEvent line event) := by
  have hevent : Engine.AlikeOut R (Engine.onEvent line event p.engine p.world)
      (Engine.onEvent line event q.engine p.world) :=
    Engine.alike_onEvent hR.toKept (fun _ => hR) h.engine event
  obtain ⟨m, rfl, -⟩ := h.exists_mark
  unfold Port.onEvent
  generalize Engine.onEvent line event p.engine p.world = out at hevent ⊢
  generalize Engine.onEvent line event (p.engine.mark m) p.world = out' at hevent ⊢
  obtain ⟨hengine⟩ := hevent
  next r _ _ _ => cases r <;> exact ⟨rfl, hengine⟩

theorem Alike.foldEvents (hR : Marks.Noted R) (events : List Event) (h : Alike R p q) :
    Alike R (events.foldl (Port.onEvent line) p) (events.foldl (Port.onEvent line) q) := by
  induction events generalizing p q with
  | nil => exact h
  | cons event events ih => exact ih (h.onEvent hR event)

theorem Alike.withWorld (h : Alike R p q) (w : σ) :
    Alike R { p with world := w } { q with world := w } := by
  obtain ⟨m, rfl, hm⟩ := h.exists_mark
  exact ⟨rfl, rfl, hm⟩

theorem Alike.interrupted (hR : Marks.Noted R) (h : Alike R p q) :
    Alike R (interrupted line p) (interrupted line q) := by
  unfold Port.interrupted
  rw [h.world]
  exact (h.withWorld _).foldEvents hR _

theorem steady_alike (line : Transport σ ε) (hR : Marks.Noted R) : Steady line (Alike R) where
  alike h := h.mono fun _ _ _ => trivial
  interrupted h := h.interrupted hR
  congr w depth number h := by
    obtain ⟨m, rfl, hm⟩ := h.exists_mark
    exact ⟨rfl, rfl, hm⟩

theorem Alike.pollEvents (hR : Marks.Noted R) (n : ℕ) (h : Alike R p q) :
    Alike R (pollEvents line n p) (pollEvents line n q) := by
  induction n generalizing p q with
  | zero => exact h
  | succ n ih =>
    unfold Port.pollEvents
    rw [h.world]
    rcases line.poll p.world with ⟨_ | event, w⟩
    · exact h.withWorld w
    · exact ih ((h.withWorld w).onEvent hR event)

theorem Alike.polled (hR : Marks.Noted R) (h : Alike R p q) :
    Alike R (polled line p) (polled line q) := by
  have hpolled : Alike R (Port.pollEvents line maxPolledEvents p)
      (Port.pollEvents line maxPolledEvents q) := h.pollEvents hR maxPolledEvents
  unfold Port.polled
  generalize Port.pollEvents line maxPolledEvents p = p₁ at hpolled
  generalize Port.pollEvents line maxPolledEvents q = q₁ at hpolled
  have hidle : (p₁.engine.checkIdle (line.now p₁.world).1).Alike R
      (q₁.engine.checkIdle (line.now p₁.world).1) := Engine.alike_checkIdle hR hpolled.engine _
  obtain ⟨m, rfl, -⟩ := hpolled.exists_mark
  exact ⟨rfl, hidle⟩

theorem agrees_poll (hR : Marks.Noted R) : Agrees (Alike R) (poll line) (Alike R) :=
  .step' (fun _ _ h => h.interrupted hR) fun _ _ h => .mk (h.polled hR)

/-! ## Sending a frame -/

theorem agrees_withFront (hR : Marks.Noted R) (f : FrameBuffer → α × FrameBuffer) :
    Agrees (Alike R) (withFront line f) (Alike R) := by
  refine .step (fun _ _ h => h.interrupted hR) fun p q h => ?_
  obtain ⟨m, rfl, hm⟩ := h.exists_mark
  exact .ite Iff.rfl (fun _ => .mk ⟨rfl, rfl, hm⟩) fun _ => .mk ⟨rfl, rfl, hm⟩

theorem agrees_write (hR : Marks.Noted R) (bytes : Bytes) :
    Agrees (Alike R) (write line bytes) (Alike R) :=
  agrees_withFront hR fun front => front.writeAt 0 bytes

theorem agrees_restore (hR : Marks.Noted R) (before : FrameBuffer) :
    Agrees (Alike R) (restore line before) (Alike R) :=
  agrees_withFront hR fun _ => ((), before)

theorem agrees_sendFrame (hR : Marks.Noted R) (size : ℕ) (withBreak : Bool)
    (turnaround : Turnaround) :
    Agrees (Alike R) (sendFrame line size withBreak turnaround) (Alike R) := by
  refine .step (fun _ _ h => h.interrupted hR) fun p q h => ?_
  have hbegin : Engine.AlikeOut R
      (Engine.beginSend line p.engine size withBreak turnaround p.world)
      (Engine.beginSend line q.engine size withBreak turnaround p.world) :=
    Engine.alike_beginSend hR.toKept h.engine size withBreak turnaround
  obtain ⟨m, rfl, -⟩ := h.exists_mark
  dsimp only
  generalize Engine.beginSend line p.engine size withBreak turnaround p.world = out at hbegin ⊢
  generalize Engine.beginSend line (p.engine.mark m) size withBreak turnaround p.world = out'
    at hbegin ⊢
  obtain ⟨hengine⟩ := hbegin
  exact .mk ⟨rfl, hengine⟩

theorem agrees_abortSend (hR : Marks.Noted R) :
    Agrees (Alike R) (abortSend line) (Alike R) := by
  refine .step (fun _ _ h => h.interrupted hR) fun p q h => ?_
  have hgiven : p.engine.abortSend.2.Alike R q.engine.abortSend.2 :=
    Engine.alike_abortSend h.engine
  obtain ⟨m, rfl, -⟩ := h.exists_mark
  have htx : (p.engine.mark m).abortSend.1 = p.engine.abortSend.1 := rfl
  dsimp only
  rw [htx]
  cases p.engine.abortSend.1 with
  | inBreak =>
    dsimp only
    rcases line.releaseBreak p.world with ⟨_ | _, w⟩ <;> exact .mk ⟨rfl, hgiven⟩
  | inMab | sending =>
    dsimp only
    rcases line.flushQueued p.world with ⟨_ | _, w⟩ <;> exact .mk ⟨rfl, hgiven⟩
  | idle | done => exact .mk ⟨rfl, hgiven⟩

theorem agrees_sendProgress (hR : Marks.Noted R) :
    Agrees (Alike R) (sendProgress line) (Alike R) := by
  refine .step' (fun _ _ h => h.interrupted hR) fun p q h => ?_
  obtain ⟨m, rfl, hm⟩ := h.exists_mark
  exact .mk ⟨rfl, rfl, hm⟩

theorem agrees_awaitSent (hR : Marks.Noted R) (timeout : UInt32) (start : UInt64) (turns : ℕ) :
    Agrees (Alike R) (awaitSent line timeout start turns) (Alike R) := by
  induction turns with
  | zero => exact .throw
  | succ turns ih =>
    refine .bind (agrees_poll hR) fun _ => .bind (agrees_sendProgress hR) fun seen => ?_
    split
    · exact .throw
    · exact .pure
    · refine .bind (steady_alike line hR).agrees_now fun now => .ite ?_ ih
      exact .bind (agrees_abortSend hR) fun _ => .throw

theorem agrees_waitSent (hR : Marks.Noted R) (timeout : UInt32) :
    Agrees (Alike R) (waitSent line timeout) (Alike R) := by
  refine .bind (steady_alike line hR).agrees_now fun start => ?_
  refine .read (fun p q h => ?_) fun p => agrees_awaitSent hR timeout start p.patience
  rw [h.patience]

/-! ## Waiting for a frame -/

theorem faultError?_eq_iff {f g : Faults} :
    (faultError? g : Option (PortError ε)) = faultError? f ↔
      g.bufferOverflow = f.bufferOverflow ∧ (f.bufferOverflow = false →
        g.uartOverflow = f.uartOverflow ∧ (f.uartOverflow = false →
          g.framingError = f.framingError)) := by
  unfold faultError?
  cases f.bufferOverflow <;> cases g.bufferOverflow <;> cases f.uartOverflow <;>
    cases g.uartOverflow <;> cases f.framingError <;> cases g.framingError <;> simp

/-- Whoever is told a frame or a fault learns the same from both marks. -/
structure Told (ε : Type) (m m' : Marks) : Prop where
  ready : m'.ready = m.ready
  fault : (faultError? m'.faults : Option (PortError ε)) = faultError? m.faults

theorem noted_told (ε : Type) : Marks.Noted (Told ε) where
  clear h := ⟨rfl, h.fault⟩
  complete h := ⟨rfl, h.fault⟩
  driverError h := ⟨h.ready, h.fault⟩
  bufferOverflow h := ⟨h.ready, rfl⟩
  uartOverflow h := by
    have hfault := faultError?_eq_iff.mp h.fault
    refine ⟨h.ready, faultError?_eq_iff.mpr ⟨hfault.1, fun _ => ⟨rfl, nofun⟩⟩⟩
  framingError h := by
    have hfault := faultError?_eq_iff.mp h.fault
    exact ⟨h.ready, faultError?_eq_iff.mpr ⟨hfault.1, fun hbuffer =>
      ⟨(hfault.2 hbuffer).1, fun _ => rfl⟩⟩⟩

/-- Both ports tell the same fault, and both have told it then. -/
theorem Alike.popFault (h : Alike (Told ε) p q) :
    q.popFault.1 = p.popFault.1 ∧ Alike (Told ε) p.popFault.2 q.popFault.2 := by
  obtain ⟨m, rfl, hm⟩ := h.exists_mark
  unfold Port.popFault
  dsimp only
  cases p.driverFault with
  | some x => exact ⟨rfl, rfl, rfl, hm⟩
  | none => exact ⟨hm.fault, rfl, rfl, hm.ready, rfl⟩

theorem Alike.takeFrame (h : Alike (Told ε) p q) :
    q.engine.takeFrame.1 = p.engine.takeFrame.1 ∧
      Alike (Told ε) { p with engine := p.engine.takeFrame.2 }
        { q with engine := q.engine.takeFrame.2 } := by
  obtain ⟨m, rfl, hm⟩ := h.exists_mark
  have hready : (p.engine.mark m).frameReady = p.engine.frameReady := hm.ready
  unfold Engine.takeFrame
  rw [hready]
  split_ifs
  · exact ⟨rfl, rfl, rfl, rfl, hm.fault⟩
  · exact ⟨rfl, rfl, rfl, hm.ready, hm.fault⟩

/-- Both begin to listen. -/
theorem Alike.armReceive (hR : Marks.Kept R) (h : Alike R p q) :
    Alike R { p with waiting := true, engine := p.engine.armReceive false }
      { q with waiting := true, engine := q.engine.armReceive false } := by
  have harmed : (p.engine.armReceive false).Alike R (q.engine.armReceive false) :=
    Engine.alike_armReceive hR h.engine false
  obtain ⟨m, rfl, -⟩ := h.exists_mark
  exact ⟨rfl, harmed⟩

theorem agrees_enterReceive : Agrees (Alike (Told ε)) (enterReceive line) (Alike (Told ε)) := by
  refine .step (fun _ _ h => h.interrupted (noted_told ε)) fun p q h => ?_
  have harmed := h.popFault.2.armReceive (noted_told ε).toKept
  obtain ⟨m, rfl, hm⟩ := h.exists_mark
  refine .ite Iff.rfl (fun _ => .mk h) fun _ => ?_
  exact .ite Iff.rfl (fun _ => .mk ⟨rfl, rfl, hm⟩) fun _ => .mk harmed

theorem agrees_leaveReceive (hR : Marks.Noted R) :
    Agrees (Alike R) (leaveReceive line) (Alike R) := by
  refine .step' (fun _ _ h => h.interrupted hR) fun p q h => ?_
  obtain ⟨m, rfl, hm⟩ := h.exists_mark
  exact .mk ⟨rfl, rfl, hm⟩

theorem agrees_arrival : Agrees (Alike (Told ε)) (arrival line) (Alike (Told ε)) := by
  refine .step' (fun _ _ h => h.interrupted (noted_told ε)) fun p q h => ?_
  obtain ⟨hframe, htaken⟩ := h.takeFrame
  obtain ⟨hfault, hpopped⟩ := htaken.popFault
  have hreceiving : { q with engine := q.engine.takeFrame.2 }.popFault.2.engine.isReceiving =
      { p with engine := p.engine.takeFrame.2 }.popFault.2.engine.isReceiving := by
    rw [hpopped.engine.eq_mark]
    rfl
  dsimp only
  rw [hframe, hfault, hreceiving]
  exact .mk hpopped

theorem agrees_awaitFrame (timeout : UInt32) (limit start : UInt64) (turns : ℕ) :
    Agrees (Alike (Told ε)) (awaitFrame line timeout limit start turns) (Alike (Told ε)) := by
  induction turns with
  | zero => exact .throw
  | succ turns ih =>
    refine .bind (agrees_poll (noted_told ε)) fun _ => .bind agrees_arrival fun seen => ?_
    dsimp only
    split
    · exact .throw
    · exact .pure
    · refine .bind (steady_alike line (noted_told ε)).agrees_now fun now => .ite .throw ih

theorem agrees_receive (timeout : UInt32) :
    Agrees (Alike (Told ε)) (receive line timeout) (Alike (Told ε)) := by
  have hwait : Agrees (Alike (Told ε)) (waitForFrame line timeout) (Alike (Told ε)) := by
    refine .bind (steady_alike line (noted_told ε)).agrees_now fun start => ?_
    refine .read (fun p q h => ?_) fun p => agrees_awaitFrame timeout _ start p.patience
    rw [h.config, h.patience]
  refine .bind agrees_enterReceive fun _ => .bind hwait.attempt fun result => ?_
  exact .bind (agrees_leaveReceive (noted_told ε)) fun _ => .conclude

end Port

end LightingBus
