import LightingBus.Proofs.Line.Receiving
import LightingBus.Proofs.Line.Tasks
import LightingBus.Simulation.Line

/-!
# What a request leaves behind

`Controller.preservation`: however a request or a search ends, the transaction lock is held as often
as before, and on a line that is polled the frame buffer is as before. The one exception is a
request that begins while an error of the driver has not been told to anybody: the wait takes that
error for its own, the frame is still being sent when the buffer should be put back, and the request
fails because the port is busy (`request_spoiled`).

1. `Port.Settled` says that an error of the driver has ended the sending. It holds from the
   beginning of a frame on unless an error was there before.
2. `Port.Held` keeps the depth of the lock apart from what is known on polled lines only.
3. `ensures_sendMessage_held` follows the sending, `ensures_preserving` what is done around it with
   the buffer, `ensures_withLock_held` what is done with the lock.
-/

namespace LightingBus

variable {σ ε : Type}

/-- No event interrupts a task: the line is polled. -/
def Transport.Polled (line : Transport σ ε) : Prop :=
  ∀ w, (line.interrupts w).1 = []

namespace Port

variable {line : Transport σ ε} {p : Port σ ε}

theorem interrupted_of_polled (hline : line.Polled) (p : Port σ ε) :
    interrupted line p = { p with world := (line.interrupts p.world).2 } := by
  have hnone := hline p.world
  unfold interrupted
  generalize line.interrupts p.world = asked at hnone ⊢
  obtain ⟨events, w⟩ := asked
  subst hnone
  rfl

/-- An error of the driver that nobody has been told has ended the sending. -/
def Settled (p : Port σ ε) : Prop :=
  p.driverFault ≠ none → p.engine.isSending = false

theorem kept_settled (line : Transport σ ε) : Kept line Settled where
  onEvent {p} kind h := by
    unfold Settled at h ⊢
    unfold Port.onEvent
    split
    next x e w hout => exact fun _ => Engine.isSending_of_onEvent_error hout
    next e w hout =>
      intro hfault
      have hidle := Engine.isSending_onEvent line kind p.world (h hfault)
      rw [hout] at hidle
      exact hidle
  checkIdle {p} now h hfault :=
    (Engine.isSending_congr (Engine.listens_checkIdle p.engine now).txState).trans (h hfault)
  interrupts h := h
  poll h := h
  now h := h

/-! ## What a task knows of its port -/

/-- The lock is held so many times, and something else if it is known. -/
def Held (depth : UInt8) (known : Prop) (S : Port σ ε → Prop) (p : Port σ ε) : Prop :=
  p.lockDepth = depth ∧ (known → S p)

/-- The frame buffer has not been touched; the driver has no error to tell, unless it had before. -/
def Untouched (stale : Prop) (before : FrameBuffer) (p : Port σ ε) : Prop :=
  p.engine.front = before ∧ (stale ∨ p.driverFault = none)

/-- The frame buffer may be filled. -/
def Fillable (stale : Prop) (p : Port σ ε) : Prop :=
  p.engine.isSending = false ∧ (stale ∨ p.driverFault = none)

/-- The frame buffer can be put back, or need not be, unless there was an error before. -/
def Restorable (stale : Prop) (before : FrameBuffer) (p : Port σ ε) : Prop :=
  stale ∨ p.engine.isSending = false ∨ p.engine.front = before

variable {depth : UInt8} {known known' stale : Prop} {S S' : Port σ ε → Prop}
  {before : FrameBuffer}

theorem Held.mono (h : p.Held depth known S) (hknown : known' → known) (hS : S p → S' p) :
    p.Held depth known' S' :=
  ⟨h.1, fun hk => hS (h.2 (hknown hk))⟩

theorem kept_held (hS : Kept line S) : Kept line (Held depth known S) :=
  have hdepth := receiving_lockDepth line depth
  { onEvent := fun kind h => ⟨hdepth.onEvent kind h.1, fun hk => hS.onEvent kind (h.2 hk)⟩
    checkIdle := fun now h => ⟨h.1, fun hk => hS.checkIdle now (h.2 hk)⟩
    interrupts := fun h => ⟨h.1, fun hk => hS.interrupts (h.2 hk)⟩
    poll := fun h => ⟨h.1, fun hk => hS.poll (h.2 hk)⟩
    now := fun h => ⟨h.1, fun hk => hS.now (h.2 hk)⟩ }

theorem receiving_held (hS : Kept.Receiving line S) : Kept.Receiving line (Held depth known S) :=
  { kept_held hS.toKept with
    waiting := fun b h => ⟨h.1, fun hk => hS.waiting b (h.2 hk)⟩
    popFault := fun h =>
      ⟨(receiving_lockDepth line depth).popFault h.1, fun hk => hS.popFault (h.2 hk)⟩
    armReceive := fun h => ⟨h.1, fun hk => hS.armReceive (h.2 hk)⟩
    takeFrame := fun h => ⟨h.1, fun hk => hS.takeFrame (h.2 hk)⟩ }

/-- On a line that is polled, nothing that is known gets lost between two steps of a task. -/
theorem stable_known (hline : known → line.Polled)
    (hS : ∀ p w depth, S p → S { p with world := w, lockDepth := depth }) :
    Stable line fun p => known → S p where
  interrupted {p} h hk := by
    rw [interrupted_of_polled (hline hk)]
    exact hS p _ p.lockDepth (h hk)
  now {p} h hk := hS p _ p.lockDepth (h hk)
  lockDepth {p} depth h hk := hS p p.world depth (h hk)

theorem interrupted_held (hline : known → line.Polled)
    (hS : ∀ p w depth, S p → S { p with world := w, lockDepth := depth }) (p : Port σ ε)
    (h : p.Held depth known S) : (interrupted line p).Held depth known S :=
  (stable_known hline hS).interrupted_lockDepth h

/-! ## Sending a message -/

theorem ensures_writeAt_held (hline : known → line.Polled) (offset : ℕ) (bytes : Bytes) :
    Ensures (Held depth known (Untouched stale before)) (writeAt line offset bytes)
      (fun _ => Held depth known (Fillable stale))
      fun _ => Held depth known (Restorable stale before) := by
  refine .withFront (interrupted_held hline fun _ _ _ => id) (fun p hp _ => ?_)
    fun p hp hidle => ?_
  · exact hp.mono id fun h => .inr (.inr h.1)
  · exact ⟨hp.1, fun hk => ⟨hidle, (hp.2 hk).2⟩⟩

theorem isSending_of_beginSend_error {e : Engine} {size : ℕ} {withBreak : Bool}
    {turnaround : Turnaround} {w : σ} {x : PortError ε} (hidle : e.isSending = false)
    (h : (Engine.beginSend line e size withBreak turnaround w).1 = .error x) :
    (Engine.beginSend line e size withBreak turnaround w).2.1.isSending = false := by
  rw [Engine.beginSend_eq] at h ⊢
  split_ifs at h ⊢
  · exact hidle
  · exact hidle
  · generalize Engine.startFrame line (e.prepared size turnaround) withBreak w = out at h ⊢
    obtain ⟨_ | _, _, _⟩ := out
    · rfl
    · cases h

theorem ensures_sendFrame_held (hline : known → line.Polled) (size : ℕ) (withBreak : Bool)
    (turnaround : Turnaround) :
    Ensures (Held depth known (Fillable stale)) (sendFrame line size withBreak turnaround)
      (fun _ => Held depth known fun p => stale ∨ p.Settled)
      fun _ => Held depth known fun p => p.engine.isSending = false := by
  intro p hp
  have hfillable := interrupted_held hline (fun _ _ _ => id) p hp
  rw [exec_sendFrame]
  dsimp only
  generalize interrupted line p = q at hfillable ⊢
  cases hout : (Engine.beginSend line q.engine size withBreak turnaround q.world).1 with
  | ok _ =>
    refine ⟨hfillable.1, fun hk => (hfillable.2 hk).2.imp id fun hfault hfault' => ?_⟩
    exact absurd hfault hfault'
  | error x =>
    exact ⟨hfillable.1, fun hk => isSending_of_beginSend_error (hfillable.2 hk).1 hout⟩

theorem kept_settled_unless (line : Transport σ ε) (stale : Prop) :
    Kept line fun p => stale ∨ p.Settled :=
  have hkept := kept_settled line
  { onEvent := fun kind h => h.imp id (hkept.onEvent kind)
    checkIdle := fun now h => h.imp id (hkept.checkIdle now)
    interrupts := fun h => h.imp id hkept.interrupts
    poll := fun h => h.imp id hkept.poll
    now := fun h => h.imp id hkept.now }

theorem ensures_awaitSent_held (timeout : UInt32) (start : UInt64) (turns : ℕ) :
    Ensures (Held depth known fun p => stale ∨ p.Settled) (awaitSent line timeout start turns)
      (fun _ => Held depth known fun p => p.engine.isSending = false)
      fun e => Held depth (known ∧ e ≠ .stalled) fun p => stale ∨ p.engine.isSending = false := by
  have hkept : Kept line (Held depth known fun p => stale ∨ p.Settled) :=
    kept_held (kept_settled_unless line stale)
  induction turns with
  | zero => exact .throw fun p h => ⟨h.1, fun hk => absurd rfl hk.2⟩
  | succ turns ih =>
    refine .bind hkept.ensures_poll fun _ => ?_
    refine .bind (Q := fun seen => Held depth known fun p => (stale ∨ p.Settled) ∧
        p.engine.isSending = seen.1 ∧ (seen.2 ≠ none → stale ∨ p.engine.isSending = false))
      (.step' (fun _ => hkept.interrupted) fun p hp => ?_) fun seen => ?_
    · refine ⟨hp.1, fun hk => ⟨.inr (fun h => absurd rfl h), rfl, fun hfault => ?_⟩⟩
      exact (hp.2 hk).imp id fun hsettled => hsettled hfault
    · split
      · -- the error has ended the sending, unless it is one from before
        refine .throw fun p h => h.mono And.left fun hseen => ?_
        exact hseen.2.2 nofun
      · exact .pure fun p h => h.mono id fun hseen => hseen.2.1
      · refine .bind (Q := fun _ => Held depth known fun p => stale ∨ p.Settled)
          (.now fun p hp => hkept.now (hp.mono id And.left)) fun now => ?_
        split_ifs
        · have habort : Ensures (Held depth known fun p => stale ∨ p.Settled) (abortSend line)
              (fun _ => Held depth known fun p => p.engine.isSending = false)
              fun _ => Held depth known fun p => p.engine.isSending = false :=
            .abortSend (fun _ => hkept.interrupted)
              fun p hp => ⟨hp.1, fun _ => isSending_abortSend p.engine⟩
          exact .bind (habort.mono (fun _ => id) (fun _ _ => id)
            fun _ p h => h.mono And.left .inr) fun _ => .throw fun p h => h.mono And.left .inr
        · exact ih

theorem ensures_waitSent_held (timeout : UInt32) :
    Ensures (Held depth known fun p => stale ∨ p.Settled) (waitSent line timeout)
      (fun _ => Held depth known fun p => p.engine.isSending = false)
      fun e => Held depth (known ∧ e ≠ .stalled) fun p => stale ∨ p.engine.isSending = false := by
  refine .bind (kept_held (kept_settled_unless line stale)).ensures_now fun start => ?_
  refine .bind (Q := fun _ => Held depth known fun p => stale ∨ p.Settled) (.get fun _ => id)
    fun p => ?_
  exact ensures_awaitSent_held timeout start p.patience

end Port

namespace Controller

open Port (Held Untouched Fillable Restorable)

variable {line : Transport σ ε} {depth : UInt8} {known stale : Prop} {before : FrameBuffer}
  {α : Type}

theorem ensures_sendMessage_held (hline : known → line.Polled) (message : Message)
    (turnaround : Turnaround) :
    Ensures (Held depth known (Untouched stale before)) (sendMessage line message turnaround)
      (fun _ => Held depth known fun p => p.engine.isSending = false)
      fun e => Held depth (known ∧ e ≠ .port .stalled) (Restorable stale before) := by
  refine .bind (Q := fun _ => Held depth known (Fillable stale)) (.onPort ?_) fun count => ?_
  · exact (Port.ensures_writeAt_held hline 0 message.encode).mono (fun _ => id) (fun _ _ => id)
      fun _ _ h => h.mono And.left id
  split_ifs
  · exact .throw fun p h => h.mono And.left fun hfillable => .inr (.inl hfillable.1)
  refine .bind (Q := fun _ => Held depth known fun p => stale ∨ p.Settled) (.onPort ?_) fun _ => ?_
  · exact (Port.ensures_sendFrame_held hline _ true turnaround).mono (fun _ => id) (fun _ _ => id)
      fun _ _ h => h.mono And.left fun hidle => .inr (.inl hidle)
  refine .bind (Q := fun _ => Held depth known fun p => stale ∨ p.Settled) (.config fun _ => id)
    fun config => ?_
  refine .onPort ((Port.ensures_waitSent_held config.transactionTimeout).mono (fun _ => id)
    (fun _ _ => id) fun e p h => ?_)
  have hstalled : RequestError.ofPort e ≠ .port .stalled → e ≠ .stalled := by
    intro hne he
    rw [he] at hne
    exact hne rfl
  exact h.mono (fun hk => ⟨hk.1, hstalled hk.2⟩) fun hunsent => hunsent.imp id .inl

/-! ## Putting the buffer back -/

/-- The frame buffer is as it was, or an error from before has kept the port busy. -/
def Restored (stale : Prop) (before : FrameBuffer) (e : RequestError ε) (p : Port σ ε) : Prop :=
  p.engine.front = before ∨ stale ∧ e = .busy ∧ p.engine.isSending = true

theorem ensures_restore (hline : known → line.Polled) {buffer : FrameBuffer}
    (hbuffer : known → buffer = before) :
    Port.Ensures (Held depth known (Restorable stale before)) (Port.restore line buffer)
      (fun _ => Held depth known fun p => p.engine.front = before)
      fun e => Held depth known (Restored stale before (.ofPort e)) := by
  refine .withFront (Port.interrupted_held hline fun _ _ _ => id) (fun p hp hsending => ?_)
    fun p hp hidle => ?_
  · refine hp.mono id fun h => ?_
    obtain hstale | hidle | hfront := h
    · exact .inr ⟨hstale, rfl, hsending⟩
    · rw [hidle] at hsending
      cases hsending
    · exact .inl hfront
  · exact ⟨hp.1, hbuffer⟩

theorem ensures_preserving (hline : known → line.Polled) {task : ControllerM σ ε α}
    (htask : Ensures (Held depth known (Untouched stale before)) task
      (fun _ => Held depth known fun p => p.engine.isSending = false)
      fun e => Held depth (known ∧ e ≠ .port .stalled) (Restorable stale before)) :
    Ensures (Held depth known (Untouched stale before)) (preserving line task)
      (fun _ => Held depth known fun p => p.engine.front = before)
      fun e => Held depth (known ∧ e ≠ .port .stalled) (Restored stale before e) := by
  refine .bind (Q := fun buffer p => (known → buffer = before) ∧
    Held depth known (Untouched stale before) p) (.onPort ?_) fun buffer => .given fun hbuffer => ?_
  · refine .step' (Port.interrupted_held (S := Untouched stale before) hline fun _ _ _ => id)
      fun p hp => ?_
    exact ⟨fun hk => And.left (hp.2 hk), hp⟩
  refine .bind htask.attempt fun result => ?_
  split
  · -- a wait that stalls does not come to putting the buffer back
    exact .throw fun p h => ⟨h.1, fun hk => absurd rfl hk.2⟩
  next hended =>
    have hrestorable : Ensures (fun p => Port.Ends
        (fun _ => Held depth known fun p => p.engine.isSending = false)
        (fun e => Held depth (known ∧ e ≠ .port .stalled) (Restorable stale before)) (result, p))
        (onPort (Port.restore line buffer))
        (fun _ => Held depth known fun p => p.engine.front = before)
        fun e => Held depth (known ∧ e ≠ .port .stalled) (Restored stale before e) := by
      refine .onPort ((ensures_restore hline hbuffer).mono (fun p hp => ?_) (fun _ _ => id)
        fun _ _ h => h.mono And.left id)
      cases result with
      | ok a =>
        have hidle : Held depth known (fun p => p.engine.isSending = false) p := hp
        exact hidle.mono id fun h => .inr (.inl h)
      | error e =>
        have hknown : Held depth (known ∧ e ≠ .port .stalled) (Restorable stale before) p := hp
        exact hknown.mono (fun hk => ⟨hk, fun he => hended (by rw [he])⟩) id
    refine .bind hrestorable fun _ => .conclude fun p hp => ?_
    cases result with
    | ok a => exact hp
    | error e => exact hp.mono And.left .inl

/-! ## Requests and searches -/

/-- What is done with the lock held gives the lock back. -/
theorem ensures_withLock_held (hline : known → line.Polled) (hdepth : depth ≠ 255)
    {task : ControllerM σ ε α}
    (htask : Ensures (Held (Port.deeper depth) known (Untouched stale before)) task
      (fun _ => Held (Port.deeper depth) known fun p => p.engine.front = before)
      fun e => Held (Port.deeper depth) (known ∧ e ≠ .port .stalled) (Restored stale before e)) :
    Ensures (Held depth known (Untouched stale before)) (withLock line task)
      (fun _ => Held depth known fun p => p.engine.front = before)
      fun e => Held depth (known ∧ e ≠ .port .stalled) (Restored stale before e) := by
  have huntouched : Port.Stable line fun p => known → Untouched stale before p :=
    Port.stable_known hline fun _ _ _ => id
  refine .withLock ?_ htask fun result => ?_
  · exact (ensures_enter huntouched).mono (fun _ => id) (fun _ _ => id)
      fun _ _ h => ⟨h.1, fun hk => .inl (h.2 hk.1).1⟩
  · cases result with
    | ok a =>
      have hfront : Port.Stable line fun p => known → p.engine.front = before :=
        Port.stable_known (S := fun p => p.engine.front = before) hline fun _ _ _ => id
      exact hfront.unlock hdepth
    | error e =>
      have hrestored : Port.Stable line
          fun p => known ∧ e ≠ .port .stalled → Restored stale before e p :=
        Port.stable_known (fun hk => hline hk.1) fun _ _ _ => id
      exact hrestored.unlock hdepth

theorem ensures_nextTransaction (hline : known → line.Polled) {R : PortError ε → Port σ ε → Prop} :
    Port.Ensures (Held depth known (Untouched stale before)) (Port.nextTransaction line)
      (fun _ => Held depth known (Untouched stale before)) R :=
  .step' (Port.interrupted_held (S := Untouched stale before) hline fun _ _ _ => id) fun _ => id

theorem ensures_request (hline : known → line.Polled) (hdepth : depth ≠ 255)
    (commandClass : CommandClass) (inquiry : Inquiry) :
    Ensures (Held depth known (Untouched stale before)) (request line commandClass inquiry)
      (fun _ => Held depth known fun p => p.engine.front = before)
      fun e => Held depth (known ∧ e ≠ .port .stalled) (Restored stale before e) := by
  refine .bind (.onPort (ensures_nextTransaction hline)) fun transaction => ?_
  refine ensures_withLock_held hline hdepth ?_
  have hexchange : Ensures (Held (Port.deeper depth) known (Untouched stale before))
      (exchange line commandClass inquiry transaction)
      (fun _ => Held (Port.deeper depth) known fun p => p.engine.isSending = false)
      fun e => Held (Port.deeper depth) (known ∧ e ≠ .port .stalled) (Restorable stale before) :=
    fun c p => (exchange_opens (Port.receiving_held (Port.receiving_idle line)) c p commandClass
      inquiry transaction).ends (ensures_sendMessage_held hline _ _)
      fun _ _ h => h.mono And.left fun hidle => .inr (.inl hidle)
  refine .bind (ensures_preserving hline hexchange) fun response => ?_
  cases response with
  | none => exact .pure fun _ => id
  | some response =>
    refine .bind (Q := fun _ => Held (Port.deeper depth) known fun p => p.engine.front = before)
      (.change fun _ => id) fun _ => .conclude fun p hp => ?_
    cases evaluate response with
    | ok reply => exact hp
    | error e => exact hp.mono And.left .inl

theorem ensures_discover (hline : known → line.Polled) (hdepth : depth ≠ 255) (lower upper : ℕ) :
    Ensures (Held depth known (Untouched stale before)) (discover line lower upper)
      (fun _ => Held depth known fun p => p.engine.front = before)
      fun e => Held depth (known ∧ e ≠ .port .stalled) (Restored stale before e) := by
  refine .bind (.onPort (ensures_nextTransaction hline)) fun transaction => ?_
  refine ensures_withLock_held hline hdepth (ensures_preserving hline fun c p => ?_)
  exact (branchExchange_opens (Port.receiving_held (Port.receiving_idle line)) c p lower upper
    transaction).ends (ensures_sendMessage_held hline _ _)
    fun _ _ h => h.mono And.left fun hidle => .inr (.inl hidle)

/-- What a request of a controller leaves behind at its port. -/
structure Preserves (line : Transport σ ε) (p : Port σ ε) (result : Except (RequestError ε) α)
    (q : Port σ ε) : Prop where
  lockDepth : q.lockDepth = p.lockDepth
  /-- On a line that is polled, unless a wait took more turns than the port has patience for. -/
  front : line.Polled → result ≠ .error (.port .stalled) → q.engine.front = p.engine.front ∨
    p.driverFault ≠ none ∧ result = .error .busy ∧ q.engine.isSending = true

theorem preserves_of_ends {p : Port σ ε} {out : Except (RequestError ε) α × Controller × Port σ ε}
    (h : Port.Ends
      (fun _ s => s.2.Held p.lockDepth line.Polled fun q => q.engine.front = p.engine.front)
      (fun e s => s.2.Held p.lockDepth (line.Polled ∧ e ≠ .port .stalled)
        (Restored (p.driverFault ≠ none) p.engine.front e)) out) :
    Preserves line p out.1 out.2.2 := by
  obtain ⟨e | a, c, q⟩ := out
  · refine ⟨h.1, fun hline hresult => ?_⟩
    have hrestored : Restored (p.driverFault ≠ none) p.engine.front e q :=
      h.2 ⟨hline, fun he => hresult (by rw [he])⟩
    exact hrestored.imp id fun ⟨hstale, hbusy, hsending⟩ => ⟨hstale, by rw [hbusy], hsending⟩
  · exact ⟨h.1, fun hline _ => .inl (h.2 hline)⟩

/-- However a request or a search ends, the lock is held as often as before, and the frame buffer of
a port on a polled line is as before, unless an error of the driver had not been told. -/
theorem preservation (line : Transport σ ε) {p : Port σ ε} (hdepth : p.lockDepth ≠ 255)
    (c : Controller) :
    (∀ commandClass inquiry,
      let out := runWith (request line commandClass inquiry) (c, p)
      Preserves line p out.1 out.2.2) ∧
    ∀ lower upper,
      let out := runWith (discover line lower upper) (c, p)
      Preserves line p out.1 out.2.2 := by
  have hp : p.Held p.lockDepth line.Polled (Untouched (p.driverFault ≠ none) p.engine.front) :=
    ⟨rfl, fun _ => ⟨rfl, (Classical.em _).symm⟩⟩
  exact ⟨fun commandClass inquiry =>
      preserves_of_ends (ensures_request id hdepth commandClass inquiry c p hp),
    fun lower upper => preserves_of_ends (ensures_discover id hdepth lower upper c p hp)⟩

/-- A port with levels in its frame buffer, over a line with alarms. -/
def lit : Port Simulation.World Simulation.LineCall where
  config := {}
  engine := { Engine.create 40 {} with front := { FrameBuffer.empty 40 with
    slots := [0, 7, 7, 7] ++ List.replicate 36 0 } }
  world := { Simulation.World.quiet with alarms := true, step := 200000 }
  driverFault := none
  waiting := false
  lockDepth := 0
  transaction := 0
  patience := 8

/-- The same port with an error of the driver that nobody has been told. -/
def litFaulty : Port Simulation.World Simulation.LineCall :=
  { lit with driverFault := some .flushReceived }

/-- A controller that has sent nothing, and what it asks for. -/
def asker : Controller :=
  .create Simulation.ScriptedResponse.spokesman 1

def question : Inquiry :=
  .bare (.device Simulation.ScriptedResponse.spokesman) Pid.deviceInfo

theorem preservation_lit : lit.lockDepth ≠ 255 ∧ Simulation.line.Polled ∧
    let out := runWith (request Simulation.line .get question) (asker, lit)
    out.1 = .error (.port .timeout) ∧ Preserves Simulation.line lit out.1 out.2.2 ∧
      out.2.2.engine.front = lit.engine.front := by
  have hdepth : lit.lockDepth ≠ 255 := by decide
  have hpolled : Simulation.line.Polled := fun _ => rfl
  have htimeout : (runWith (request Simulation.line .get question) (asker, lit)).1 =
      .error (.port .timeout) := by decide +kernel
  have hpreserves := (preservation Simulation.line hdepth asker).1 .get question
  refine ⟨hdepth, hpolled, htimeout, hpreserves, ?_⟩
  refine (hpreserves.front hpolled ?_).resolve_right fun h => h.1 rfl
  rw [htimeout]
  nofun

/-- The error from before ends the wait while the request is still being sent, and the levels are
lost. -/
theorem request_spoiled :
    let out := runWith (request Simulation.line .get question) (asker, litFaulty)
    out.1 = .error .busy ∧ out.2.2.engine.front.slots ≠ litFaulty.engine.front.slots := by
  decide +kernel

end Controller

end LightingBus
