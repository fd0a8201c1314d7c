import LightingBus.Proofs.Line.Turnaround

/-!
# Waiting in the turnaround

A task that asks for something waits twice, for the request to be sent and for the answer. The polls
of both waits handle the events of both, so the answer may be complete before the second wait
begins. As long as no timeout runs out, the first wait ends when the request is sent, and the second
one with the answer.

1. `RequestUnderway` says that a request or its answer is underway at a port, `Late` that a timeout
   has run out, and `Cut` that it has after the request was sent. `underway_polled` is a poll: it
   leaves the port underway, or a gap in the answer was too long.
2. `ensures_waitSent_underway` and `ensures_receive_underway` are the two waits.
-/

namespace LightingBus

namespace Port

variable {σ ε : Type}

/-- A request or its answer is underway. The rest of the script is shorter than the patience of the
port, so the port does not give up before everything is delivered. -/
structure RequestUnderway (view : σ → Wire) (config : LineConfig) (n : ℕ) (packet : Bytes)
    (waiting : Bool) (p : Port σ ε) : Prop where
  engine : p.engine.Underway config n packet (view p.world)
  config : p.config = config
  driverFault : p.driverFault = none
  waiting : p.waiting = waiting
  patience : (view p.world).script.length < p.patience

/-- A timeout has run out. -/
def Late (view : σ → Wire) (config : LineConfig) (p : Port σ ε) : Prop :=
  ¬ (view p.world).OnTime config

/-- A timeout has run out, and no frame is being sent. -/
def Cut (view : σ → Wire) (config : LineConfig) (p : Port σ ε) : Prop :=
  p.Late view config ∧ p.engine.isSending = false

variable {line : Transport σ ε} {view : σ → Wire} {alarms : Bool} {config : LineConfig} {n : ℕ}
  {packet : Bytes} {waiting : Bool} {p q : Port σ ε}

/-! ## A timeout that has run out -/

theorem Cut.later (h : p.Cut view config)
    (hreadings : (view p.world).readings <+: (view q.world).readings)
    (hidle : q.engine.isSending = false) : q.Cut view config :=
  ⟨fun hontime => h.1 (hontime.of_prefix hreadings), hidle⟩

/-- Time that has run out does not come back. -/
theorem receiving_cut (hline : line.Conveys view alarms) (config : LineConfig) :
    Kept.Receiving line (Cut view config) where
  onEvent {p} event h := by
    have hears := Engine.hears_onEvent hline.accounts h.2 event (w := p.world)
    have hidle := Engine.isSending_onEvent line event p.world h.2
    rw [onEvent_eq]
    exact h.later hears.wrote hidle
  checkIdle {p} now h :=
    h.later List.prefix_rfl ((receiving_idle line).checkIdle now h.2)
  interrupts {p} h := by
    obtain ⟨w', hinterrupts, hview⟩ := hline.interrupts p.world
    refine h.later ?_ h.2
    rw [hinterrupts, hview]
  poll h := h.later (hline.accounts.poll _) h.2
  now h := h.later (hline.accounts.now _) h.2
  waiting _ h := h
  popFault {p} h := by
    refine h.later ?_ ((receiving_idle line).popFault h.2)
    rw [(popFault_keeps p).2.1]
  armReceive h := h.later List.prefix_rfl ((receiving_idle line).armReceive h.2)
  takeFrame h := h.later List.prefix_rfl ((receiving_idle line).takeFrame h.2)

/-! ## Polls -/

theorem RequestUnderway.of_view (h : p.RequestUnderway view config n packet waiting) {w : σ}
    (hview : view w = view p.world) :
    { p with world := w }.RequestUnderway view config n packet waiting where
  engine := hview ▸ h.engine
  config := h.config
  driverFault := h.driverFault
  waiting := h.waiting
  patience := by
    dsimp only
    rw [hview]
    exact h.patience

/-- A poll has found nothing. -/
theorem RequestUnderway.of_script (h : p.RequestUnderway view config n packet waiting)
    {script : List (Option (Event × Bytes))}
    (hscript : script.length < (view p.world).script.length)
    (hengine : p.engine.Underway config n packet { view p.world with script := script }) {w : σ}
    (hview : view w = { view p.world with script := script }) :
    { p with world := w }.RequestUnderway view config n packet waiting where
  engine := hview ▸ hengine
  config := h.config
  driverFault := h.driverFault
  waiting := h.waiting
  patience := by
    dsimp only
    rw [hview]
    exact Nat.lt_trans hscript h.patience

/-- The clock was read, which the waits rely on. -/
theorem RequestUnderway.now (h : p.RequestUnderway view config n packet waiting)
    (hline : line.Conveys view alarms) :
    { p with world := (line.now p.world).2 }.RequestUnderway view config n packet waiting := by
  have hview := hline.now p.world
  refine ⟨?_, h.config, h.driverFault, h.waiting, ?_⟩
  · dsimp only
    rw [hview]
    exact { h.engine with
      stage := h.engine.stage
      stamped := fun hreceiving => List.mem_append_left _ (h.engine.stamped hreceiving) }
  · dsimp only
    rw [hview]
    exact h.patience

theorem interrupted_conveyed (hline : line.Conveys view alarms) (p : Port σ ε) :
    ∃ w, interrupted line p = { p with world := w } ∧ view w = view p.world := by
  obtain ⟨w, hinterrupts, hview⟩ := hline.interrupts p.world
  refine ⟨w, ?_, hview⟩
  unfold interrupted
  rw [hinterrupts]
  rfl

section Poll

variable (hline : line.Conveys view alarms)
  (htold : Engine.sizeTold? false packet = some packet.length) (hfits : packet.length ≤ n)
include hline htold hfits

/-- The next event, with its bytes, is delivered. -/
theorem underway_onEvent (h : p.RequestUnderway view config n packet waiting) {event : Event}
    {bytes : Bytes} {script : List (Option (Event × Bytes))} {w : σ}
    (hscript : (view p.world).script = some (event, bytes) :: script) {alarm : Bool}
    (hview : view w =
      { view p.world with script := script, alarm := alarm, received := bytes }) :
    let q := onEvent line { p with world := w } event
    q.RequestUnderway view config n packet waiting ∧ (view q.world).script = script ∧
      (view p.world).readings <+: (view q.world).readings := by
  have hstage : Engine.Stage n packet (view p.world).alarm
      ((event, (view w).received) :: (view w).deliveries) p.engine := by
    have hstage := h.engine.stage
    rw [Wire.deliveries, hscript, List.reduceOption_cons_of_some] at hstage
    rw [hview]
    exact hstage
  have hpatience := h.patience
  rw [hscript, List.length_cons] at hpatience
  obtain ⟨hok, hunderway, hrest, hreadings⟩ :=
    hstage.handle hline htold hfits h.engine.sound (by rw [hview]; exact h.engine.opened)
  rw [hview] at hrest hreadings
  unfold onEvent Engine.onEvent
  dsimp only
  generalize Engine.handle line event p.engine w = out at hok hunderway hrest hreadings
  obtain ⟨result, e, w'⟩ := out
  cases hok
  refine ⟨⟨hunderway, h.config, h.driverFault, h.waiting, ?_⟩, hrest, hreadings⟩
  dsimp only at hrest ⊢
  rw [hrest]
  omega

/-- What a poll handles of the script, be it nothing or much, leaves the port underway. -/
theorem underway_pollEvents (turns : ℕ) (h : p.RequestUnderway view config n packet waiting) :
    let q := pollEvents line turns p
    q.RequestUnderway view config n packet waiting ∧
      (view q.world).script.length ≤ (view p.world).script.length - min turns 1 ∧
      (view p.world).readings <+: (view q.world).readings := by
  induction turns generalizing p with
  | zero => exact ⟨h, le_rfl, List.prefix_rfl⟩
  | succ turns ih =>
    obtain ⟨w, hpoll, hview⟩ := hline.poll p.world
    unfold pollEvents
    rw [hpoll]
    unfold Wire.polled at hview ⊢
    cases hscript : (view p.world).script with
    | nil =>
      rw [hscript] at hview
      exact ⟨h.of_view hview, by simp [hview, hscript], by simp [hview]⟩
    | cons item script =>
      rw [hscript] at hview
      have hshorter : script.length < (view p.world).script.length := by
        rw [hscript, List.length_cons]
        omega
      cases item with
      | none =>
        exact ⟨h.of_script hshorter (h.engine.gap hscript) hview, by simp [hview], by simp [hview]⟩
      | some delivery =>
        obtain ⟨event, bytes⟩ := delivery
        dsimp only at hview ⊢
        split_ifs at hview ⊢ with hunset
        · have hskipped := h.engine.skip (hunset.1 ▸ hscript) hunset.2
          exact ⟨h.of_script hshorter hskipped hview, by simp [hview], by simp [hview]⟩
        · dsimp only at hview ⊢
          rw [h.engine.received, List.nil_append] at hview
          obtain ⟨hunderway, hrest, hreadings⟩ :=
            underway_onEvent hline htold hfits h hscript hview
          obtain ⟨hend, hlength, hmore⟩ := ih hunderway
          refine ⟨hend, ?_, hreadings.trans hmore⟩
          rw [hrest] at hlength
          rw [List.length_cons]
          omega

/-- A poll leaves the port underway, unless a gap in the answer was too long. -/
theorem underway_polled (h : p.RequestUnderway view config n packet waiting) :
    let q := polled line p
    (q.RequestUnderway view config n packet waiting ∨ q.Cut view config) ∧
      (view q.world).script.length ≤ (view p.world).script.length - 1 ∧
      (view p.world).readings <+: (view q.world).readings := by
  obtain ⟨hunderway, hlength, hreadings⟩ :=
    underway_pollEvents hline htold hfits maxPolledEvents h
  unfold polled
  generalize pollEvents line maxPolledEvents p = q at hunderway hlength hreadings
  have hview := hline.now q.world
  have hnow := hunderway.now hline
  refine ⟨?_, ?_, ?_⟩
  · unfold Engine.checkIdle
    dsimp only
    split
    next hidle =>
      -- the frame is ended too early, and the clock tells it
      have hreceiving := Engine.isReceiving_of_inData hidle.1
      obtain ⟨hsilent, hbreak, hdata⟩ := hunderway.engine.stage.of_isReceiving hreceiving
      have hidle' := Engine.isSending_congr (Engine.listens_onRxTimeout q.engine).txState
      refine .inr ⟨fun hontime => ?_, hidle'.trans hsilent⟩
      dsimp only at hontime
      rw [hview] at hontime
      have htimely := hontime.timely (hunderway.engine.stamped hreceiving)
      have hearly := htimely.flowing hbreak hdata rfl
      rw [hunderway.engine.sound.receiveTimeout] at hidle
      exact absurd hidle.2 (UInt64.not_le.mpr hearly)
    next => exact .inl hnow
  · rw [hview]
    exact hlength
  · rw [hview]
    exact hreadings.trans (Wire.prefix_timed _ _)

end Poll

/-! ## Waits -/

/-- A request or its answer is underway, and so is a wait that began at the reading `first`. -/
structure Attends (view : σ → Wire) (config : LineConfig) (n : ℕ) (packet : Bytes)
    (waiting : Bool) (first : Reading) (p : Port σ ε) : Prop where
  underway : p.RequestUnderway view config n packet waiting
  first : first ∈ (view p.world).readings

/-- The wait has polled the port, and so many further turns are enough for what is still to come. -/
structure HasPolled (view : σ → Wire) (config : LineConfig) (n : ℕ) (packet : Bytes)
    (waiting : Bool) (first : Reading) (turns : ℕ) (p : Port σ ε) : Prop where
  attends : p.Attends view config n packet waiting first
  turns : 0 < (view p.world).script.length → (view p.world).script.length < turns

section Waits

variable {first : Reading} {R : PortError ε → Port σ ε → Prop}

/-- Where events are still to come, the script is not at its end. -/
theorem length_script_pos {v : Wire} {event : Event} (h : event ∈ v.left) :
    0 < v.script.length := by
  refine List.length_pos_iff.mpr fun hnil => ?_
  rw [Wire.left, Wire.deliveries, hnil] at h
  cases h

/-- To wait is to read the clock first. -/
theorem RequestUnderway.attends_now (h : p.RequestUnderway view config n packet waiting)
    (hline : line.Conveys view alarms) :
    { p with world := (line.now p.world).2 }.Attends view config n packet waiting
      ((view p.world).reading (line.now p.world).1) := by
  refine ⟨h.now hline, ?_⟩
  dsimp only
  rw [hline.now]
  exact Wire.mem_timed _ _

theorem Attends.now (h : p.Attends view config n packet waiting first)
    (hline : line.Conveys view alarms) :
    { p with world := (line.now p.world).2 }.Attends view config n packet waiting first := by
  refine ⟨h.underway.now hline, ?_⟩
  dsimp only
  rw [hline.now]
  exact List.mem_append_left _ h.first

theorem Attends.of_view (h : p.Attends view config n packet waiting first) {w : σ}
    (hview : view w = view p.world) :
    { p with world := w }.Attends view config n packet waiting first :=
  ⟨h.underway.of_view hview, hview ▸ h.first⟩

theorem HasPolled.of_view {turns : ℕ}
    (h : p.HasPolled view config n packet waiting first turns) {w : σ}
    (hview : view w = view p.world) :
    { p with world := w }.HasPolled view config n packet waiting first turns :=
  ⟨h.attends.of_view hview, by simpa only [hview] using h.turns⟩

theorem Late.of_view (h : p.Late view config) {w : σ} (hview : view w = view p.world) :
    { p with world := w }.Late view config := by
  unfold Late
  rwa [hview]

theorem Cut.of_view (h : p.Cut view config) {w : σ} (hview : view w = view p.world) :
    { p with world := w }.Cut view config :=
  ⟨h.1.of_view hview, h.2⟩

/-- Nothing interrupts a task on a line that has to be polled. -/
theorem rely_conveyed (hline : line.Conveys view alarms) {P : Port σ ε → Prop}
    (h : ∀ p w, view w = view p.world → P p → P { p with world := w }) (p : Port σ ε) (hp : P p) :
    P (Port.interrupted line p) := by
  obtain ⟨w, hinterrupted, hview⟩ := interrupted_conveyed hline p
  rw [hinterrupted]
  exact h p w hview hp

/-- Every turn of a wait polls the port, which shortens the script. -/
theorem ensures_poll_attends (hline : line.Conveys view alarms)
    (htold : Engine.sizeTold? false packet = some packet.length) (hfits : packet.length ≤ n)
    (turns : ℕ) :
    Ensures (fun p : Port σ ε => p.Attends view config n packet waiting first ∧
        (view p.world).script.length < turns + 1) (poll line)
      (fun _ p => p.HasPolled view config n packet waiting first turns ∨ p.Cut view config) R := by
  refine .step' (rely_conveyed hline fun p w hview hp => ?_) fun p hp => ?_
  · exact ⟨hp.1.of_view hview, by simpa only [hview] using hp.2⟩
  · obtain ⟨⟨hunderway, hfirst⟩, hturns⟩ := hp
    obtain ⟨hpolled, hlength, hreadings⟩ := underway_polled hline htold hfits hunderway
    refine hpolled.imp (fun hunderway => ⟨⟨hunderway, hreadings.subset hfirst⟩, fun hpos => ?_⟩) id
    dsimp only at hpos ⊢
    omega

/-! ### Until the request is sent -/

/-- After a poll it is seen whether the frame is sent. -/
theorem ensures_sendProgress_attends (hline : line.Conveys view alarms) (turns : ℕ) :
    Ensures (fun p : Port σ ε => p.HasPolled view config n packet waiting first turns ∨
        p.Cut view config) (sendProgress line)
      (fun seen p => (p.HasPolled view config n packet waiting first turns ∧ seen.2 = none ∨
        p.Cut view config) ∧ p.engine.isSending = seen.1) R := by
  refine .step' (rely_conveyed hline fun p w hview hp => ?_) fun p hp => ⟨?_, rfl⟩
  · exact hp.imp (fun h => h.of_view hview) fun h => h.of_view hview
  · refine hp.imp (fun h => ?_) id
    obtain ⟨⟨hunderway, hfirst⟩, hturns⟩ := h
    exact ⟨⟨⟨{ hunderway with driverFault := rfl }, hfirst⟩, hturns⟩, hunderway.driverFault⟩

/-- A frame that is still being sent although its time is over has been sent too slowly. -/
theorem ensures_now_sending (hline : line.Conveys view alarms) (hopened : first.opened = true)
    (turns : ℕ) :
    Ensures (fun p : Port σ ε => (p.HasPolled view config n packet waiting first turns ∨
        p.Cut view config) ∧ p.engine.isSending = true) (now line)
      (fun now p => (p.Attends view config n packet waiting first ∧
        (view p.world).script.length < turns) ∧
        (config.transactionTimeout.toUInt64 ≤ now - first.time → p.Late view config))
      R := by
  refine .now fun p hp => ?_
  obtain ⟨⟨hattends, hturns⟩ | hcut, hsending⟩ := hp
  · have hdone := hattends.underway.engine.stage.txDone_mem hsending
    refine ⟨⟨hattends.now hline, ?_⟩, fun hlate hontime => ?_⟩
    · dsimp only
      rw [hline.now]
      exact hturns (length_script_pos hdone)
    · dsimp only at hontime
      rw [hline.now] at hontime
      have htimely := hontime.timely hattends.first
      exact absurd hlate (UInt64.not_le.mpr (htimely.sent hopened hdone))
  · rw [hcut.2] at hsending
    cases hsending

theorem view_givenUp (hline : line.Conveys view alarms) (p : Port σ ε) :
    view (givenUp line p).world = view p.world := by
  obtain ⟨w₁, hrelease, hview₁⟩ := hline.releaseBreak p.world
  obtain ⟨w₂, hflush, hview₂⟩ := hline.flushQueued p.world
  unfold givenUp
  cases p.engine.txState with
  | inBreak =>
    dsimp only
    rw [hrelease, hview₁]
  | inMab | sending =>
    dsimp only
    rw [hflush, hview₂]
  | idle | done => rfl

/-- A frame that was sent too slowly is given up, which takes no further time. -/
theorem ensures_abortSend_late (hline : line.Conveys view alarms) :
    Ensures (Late view config : Port σ ε → Prop) (abortSend line)
      (fun _ => Late view config) fun _ => Late view config := by
  refine .abortSend (rely_conveyed hline fun p w hview hp => hp.of_view hview) fun p hp => ?_
  unfold Late
  rwa [view_givenUp hline]

/-- Turn after turn, the wait ends when the last byte has left. -/
theorem ensures_awaitSent_underway (hline : line.Conveys view alarms)
    (htold : Engine.sizeTold? false packet = some packet.length) (hfits : packet.length ≤ n)
    (hopened : first.opened = true) (turns : ℕ) :
    Ensures (fun p : Port σ ε => p.Attends view config n packet waiting first ∧
        (view p.world).script.length < turns)
      (awaitSent line config.transactionTimeout first.time turns)
      (fun _ p => p.RequestUnderway view config n packet waiting ∧ p.engine.isSending = false ∨
        p.Cut view config) fun _ => Late view config := by
  -- every turn polls, so the turns outlast what is still to come
  induction turns with
  | zero => exact .throw fun p hp => absurd hp.2 (Nat.not_lt_zero _)
  | succ turns ih =>
    refine .bind (ensures_poll_attends hline htold hfits turns) fun _ => ?_
    refine .bind (ensures_sendProgress_attends hline turns) fun seen => ?_
    split
    next x =>
      refine .throw fun p hp => ?_
      obtain ⟨⟨-, hnone⟩ | hcut, -⟩ := hp
      · cases hnone
      · exact hcut.1
    next => exact .pure fun p hp => hp.1.imp (fun h => ⟨h.1.attends.underway, hp.2⟩) id
    next =>
      refine .bind ((ensures_now_sending hline hopened turns).mono
        (fun p hp => ⟨hp.1.imp And.left id, hp.2⟩) (fun _ _ => id)
        fun _ _ => id) fun now => ?_
      split_ifs with hlate
      · exact .bind ((ensures_abortSend_late hline).mono (fun p hp => hp.2 hlate) (fun _ _ => id)
          fun _ _ => id) fun _ => .throw fun _ => id
      · exact ih.mono (fun p hp => hp.1) (fun _ _ => id) fun _ _ => id

/-- A request that is on its way out is sent. -/
theorem ensures_waitSent_underway (hline : line.Conveys view alarms)
    (htold : Engine.sizeTold? false packet = some packet.length) (hfits : packet.length ≤ n) :
    Ensures (fun p : Port σ ε => p.RequestUnderway view config n packet waiting)
      (waitSent line config.transactionTimeout)
      (fun _ p => p.RequestUnderway view config n packet waiting ∧ p.engine.isSending = false ∨
        p.Cut view config) fun _ => Late view config := by
  refine .bind (Q := fun start p => ∃ first : Reading, first.time = start ∧ first.opened = true ∧
    p.Attends view config n packet waiting first) (.now fun p hp => ?_) fun start => ?_
  · exact ⟨_, rfl, hp.engine.opened, hp.attends_now hline⟩
  · rintro p ⟨first, rfl, hopened, hattends⟩
    exact ensures_awaitSent_underway hline htold hfits hopened p.patience p
      ⟨hattends, hattends.underway.patience⟩

/-! ### Until the answer has come in -/

theorem Ensures.and {α : Type} {task : PortM σ ε α} {P P' : Port σ ε → Prop}
    {Q Q' : α → Port σ ε → Prop} (h : Ensures P task Q R) (h' : Ensures P' task Q' R) :
    Ensures (fun p => P p ∧ P' p) task (fun a p => Q a p ∧ Q' a p) R := by
  intro p hp
  have hend := h p hp.1
  have hend' := h' p hp.2
  generalize exec task p = out at hend hend'
  obtain ⟨_ | _, _⟩ := out
  · exact hend
  · exact ⟨hend, hend'⟩

/-- An answer is still to come, or to come in completely. -/
structure Expects (view : σ → Wire) (config : LineConfig) (n : ℕ) (packet : Bytes)
    (waiting : Bool) (first : Reading) (turns : ℕ) (receiving : Bool) (p : Port σ ε) : Prop where
  attends : p.Attends view config n packet waiting first
  idle : p.engine.isSending = false
  data : .rxData ∈ (view p.world).left
  begun : receiving = false → .breakDetected ∈ (view p.world).left
  turns : (view p.world).script.length < turns

/-- Where nothing has gone wrong there is no fault to take. -/
theorem popFault_of_faultless (hfault : p.driverFault = none) (hfaults : p.engine.faults = {}) :
    p.popFault = (none, p) := by
  have hsame : { p.engine with faults := {} } = p.engine := by rw [← hfaults]
  have hnone : faultError? (ε := ε) {} = none := rfl
  unfold popFault
  rw [hfault]
  dsimp only [Engine.takeFaults]
  rw [hsame, hfaults, hnone, ← hfault]

/-- What a task sees that waits for an answer: the answer, or neither a frame nor a fault. -/
theorem ensures_arrival_attends (hline : line.Conveys view alarms) (hnonempty : packet ≠ [])
    (turns : ℕ) :
    Ensures (fun p : Port σ ε => (p.HasPolled view config n packet waiting first turns ∨
        p.Cut view config) ∧ p.engine.isSending = false) (arrival line)
      (fun seen p => seen.fault = none ∧ seen.frame.isSome ∧ p.engine.front.received = packet ∨
        seen.fault = none ∧ seen.frame = none ∧
          p.Expects view config n packet waiting first turns seen.receiving ∨
        p.Cut view config) R := by
  refine .step' (rely_conveyed hline fun p w hview hp => ⟨?_, hp.2⟩) fun p hp => ?_
  · exact hp.1.imp (fun h => h.of_view hview) fun h => h.of_view hview
  · obtain ⟨⟨hattends, hturns⟩ | hcut, hidle⟩ := hp
    · have hfaults := hattends.underway.engine.sound.faults
      have htaken : ({ p with engine := p.engine.takeFrame.2 } : Port σ ε).popFault =
          (none, { p with engine := p.engine.takeFrame.2 }) := by
        refine popFault_of_faultless hattends.underway.driverFault ?_
        rw [takeFrame_keeps]
        exact hfaults
      dsimp only
      rw [htaken]
      obtain ⟨-, -, ⟨hframe, hreceived⟩ | ⟨hnone, hdata, hbreak⟩⟩ :=
        hattends.underway.engine.stage.of_idle hidle hnonempty
      · refine .inl ⟨rfl, ?_, ?_⟩
        · rw [hframe]
          rfl
        · rw [takeFrame_keeps]
          exact hreceived
      · rw [hnone]
        exact .inr (.inl ⟨rfl, rfl, hattends, hidle, hdata, hbreak,
          hturns (length_script_pos hdata)⟩)
    · have hkept := receiving_cut hline config
      exact .inr (.inr (hkept.popFault (hkept.takeFrame hcut)))

/-- The wait for an answer is only given up if a timeout has run out. -/
theorem ensures_now_expects (hline : line.Conveys view alarms) (hsent : .txDone ∉ first.left)
    (turns : ℕ) (receiving : Bool) :
    Ensures (fun p : Port σ ε => p.Expects view config n packet waiting first turns receiving)
      (now line)
      (fun now p => ((p.Attends view config n packet waiting first ∧
          (view p.world).script.length < turns) ∧ p.engine.isSending = false) ∧
        ((config.responseTimeout.toUInt64 ≤ now - first.time ∧ ¬ receiving = true) ∨
          config.responseTimeout.toUInt64 + config.transactionTimeout.toUInt64 ≤
            now - first.time → p.Late view config)) R := by
  refine .now fun p hp => ⟨⟨⟨hp.attends.now hline, ?_⟩, hp.idle⟩, fun hlate hontime => ?_⟩
  · dsimp only
    rw [hline.now]
    exact hp.turns
  · dsimp only at hontime
    rw [hline.now] at hontime
    have htimely := hontime.timely hp.attends.first
    obtain ⟨hlate, hsilent⟩ | hlate := hlate
    · have hcoming := hp.begun (Bool.eq_false_iff.mpr hsilent)
      exact absurd hlate (UInt64.not_le.mpr (htimely.begun hsent hcoming))
    · exact absurd hlate (UInt64.not_le.mpr (htimely.ended hsent hp.data))

/-- Turn after turn, the wait ends with the answer, or it goes on after a timeout has run out. -/
theorem ensures_awaitFrame_underway (hline : line.Conveys view alarms)
    (htold : Engine.sizeTold? false packet = some packet.length) (hfits : packet.length ≤ n)
    (hnonempty : packet ≠ []) (hsent : .txDone ∉ first.left) (turns : ℕ) :
    Ensures (fun p : Port σ ε => (p.Attends view config n packet waiting first ∧
        (view p.world).script.length < turns) ∧ p.engine.isSending = false)
      (awaitFrame line config.responseTimeout
        (config.responseTimeout.toUInt64 + config.transactionTimeout.toUInt64) first.time turns)
      (fun _ p => p.engine.front.received = packet ∨ p.Cut view config)
      fun _ => Late view config := by
  induction turns with
  | zero => exact .throw fun p hp => absurd hp.1.2 (Nat.not_lt_zero _)
  | succ turns ih =>
    have hcut := receiving_cut hline config
    refine .bind ((ensures_poll_attends hline htold hfits turns).and
      (receiving_idle line).ensures_poll) fun _ => ?_
    refine .bind (ensures_arrival_attends hline hnonempty turns) fun seen => ?_
    obtain ⟨frame, fault, receiving⟩ := seen
    dsimp only
    split
    next =>
      refine .throw fun p hp => ?_
      obtain ⟨hnone, -⟩ | ⟨hnone, -⟩ | hlate := hp
      · cases hnone
      · cases hnone
      · exact hlate.1
    next =>
      refine .pure fun p hp => ?_
      obtain ⟨-, -, hreceived⟩ | ⟨-, hnone, -⟩ | hlate := hp
      · exact .inl hreceived
      · cases hnone
      · exact .inr hlate
    next =>
      have hexpects : Ensures
          (fun p : Port σ ε => p.Expects view config n packet waiting first turns receiving)
          (now line) _ fun _ => Late view config :=
        ensures_now_expects hline hsent turns receiving
      rintro p (⟨-, hsome, -⟩ | ⟨-, -, hp⟩ | hp)
      · cases hsome
      · refine hexpects.bind (fun now => ?_) p hp
        split_ifs with hlate
        · exact .throw fun p hp => hp.2 hlate
        · exact ih.mono (fun p hp => hp.1) (fun _ _ => id) fun _ _ => id
      · refine Ensures.bind hcut.ensures_now (fun now => ?_) p hp
        split_ifs
        · exact .throw fun p hp => hp.1
        · exact (hcut.await _ _ _ turns).mono (fun _ => id) (fun _ _ => .inr) fun _ _ => And.left

/-- A task that listens already begins to wait. -/
theorem ensures_enterReceive_underway (hline : line.Conveys view alarms)
    (hnonempty : packet ≠ []) :
    Ensures (fun p : Port σ ε => p.RequestUnderway view config n packet false ∧
        p.engine.isSending = false) (enterReceive line)
      (fun _ p => p.RequestUnderway view config n packet true ∧ p.engine.isSending = false)
      R := by
  refine .step (rely_conveyed hline fun p w hview hp => ⟨hp.1.of_view hview, hp.2⟩) fun p hp => ?_
  obtain ⟨hunderway, hidle⟩ := hp
  obtain ⟨hmode, -⟩ := hunderway.engine.stage.of_idle hidle hnonempty
  rw [if_neg (Bool.eq_false_iff.mp hunderway.waiting), if_pos hmode]
  exact ⟨{ hunderway with waiting := rfl }, hidle⟩

theorem ensures_waitForFrame_underway (hline : line.Conveys view alarms)
    (htold : Engine.sizeTold? false packet = some packet.length) (hfits : packet.length ≤ n)
    (hnonempty : packet ≠ []) :
    Ensures (fun p : Port σ ε => p.RequestUnderway view config n packet waiting ∧
        p.engine.isSending = false) (waitForFrame line config.responseTimeout)
      (fun _ p => p.engine.front.received = packet ∨ p.Cut view config)
      fun _ => Late view config := by
  refine .bind (Q := fun start p => ∃ first : Reading, first.time = start ∧
    .txDone ∉ first.left ∧ p.Attends view config n packet waiting first ∧
    p.engine.isSending = false) (.now fun p hp => ?_) fun start => ?_
  · obtain ⟨-, hsent, -⟩ := hp.1.engine.stage.of_idle hp.2 hnonempty
    exact ⟨_, rfl, hsent, hp.1.attends_now hline, hp.2⟩
  · refine .bind (Q := fun read p => read = p ∧ ∃ first : Reading, first.time = start ∧
      .txDone ∉ first.left ∧ p.Attends view config n packet waiting first ∧
      p.engine.isSending = false) (.get fun p hp => ⟨rfl, hp⟩) fun read => ?_
    rintro p ⟨rfl, first, rfl, hsent, hattends, hidle⟩
    rw [hattends.underway.config]
    exact ensures_awaitFrame_underway hline htold hfits hnonempty hsent read.patience read
      ⟨⟨hattends, hattends.underway.patience⟩, hidle⟩

/-- The answer to a request that was sent is received. -/
theorem ensures_receive_underway (hline : line.Conveys view alarms)
    (htold : Engine.sizeTold? false packet = some packet.length) (hfits : packet.length ≤ n)
    (hnonempty : packet ≠ []) :
    Ensures (fun p : Port σ ε => p.RequestUnderway view config n packet false ∧
        p.engine.isSending = false) (receive line config.responseTimeout)
      (fun _ p => p.engine.front.received = packet ∨ p.Cut view config)
      fun _ => Late view config := by
  refine .bind (ensures_enterReceive_underway hline hnonempty) fun _ => ?_
  refine .bind (ensures_waitForFrame_underway hline htold hfits hnonempty).attempt fun result => ?_
  refine .bind (Q := fun _ p => Ends (fun _ p => p.engine.front.received = packet ∨
    p.Cut view config) (fun _ => Late view config) (result, p))
    (.step' (rely_conveyed hline fun p w hview hp => ?_) fun p hp => ?_)
    fun _ => .conclude fun _ => id
  · cases result with
    | error e =>
      have hlate : p.Late view config := hp
      exact hlate.of_view hview
    | ok size => exact hp.imp id fun h => h.of_view hview
  · cases result with
    | error e => exact hp
    | ok size => exact hp

end Waits

end Port

end LightingBus
