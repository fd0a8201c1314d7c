import LightingBus.Proofs.Line.Deadlines

/-!
# Requests return

Three waits are nested in a request: for the lock, for the frame to be sent and for the response,
and the last one waits for a frame at every look. Each of them gives up in time, so a request and a
search come to an end whatever the line does, unless the clock wraps around meanwhile.

1. `answerLook` is the look of the wait for a response. `waits_awaitResponse` bounds the frames it
   receives.
2. `EndsInTime` follows the text of a request: `endsInTime_exchange`, `endsInTime_request`.
3. `every_wait_ends` states the bounds of all waits.
-/

namespace LightingBus

variable {σ ε α β : Type}

namespace Controller

variable (line : Transport σ ε)

/-! ## Looking for a response -/

/-- Receives a frame that may be the response to a request. -/
def readAnswer : ControllerM σ ε Bytes := do
  let _ ← onPort (Port.receive line (← config).responseTimeout)
  onPort (Port.frame line)

/-- Says whether a frame is the response to a request. -/
def judge (commandClass : CommandClass) (inquiry : Inquiry) (transaction : UInt8)
    (start : UInt64) (frame : Bytes) : ControllerM σ ε (Option Response) :=
  match Message.decode frame with
  | .error e => throw (.ofDecodeError e)
  | .ok (.request _) => throw .notMatching
  | .ok (.response response) =>
    if response.transaction = transaction then do
      let c ← getThe Controller
      conclude ((c.checkResponse commandClass inquiry response).map some)
    else do
      let now ← onPort (Port.now line)
      if (← config).transactionTimeout.toUInt64 ≤ now - start then throw (.port .timeout)
      else pure none

/-- A look for the response to a request: one frame is received. -/
def answerLook (commandClass : CommandClass) (inquiry : Inquiry) (transaction : UInt8)
    (start : UInt64) : ControllerM σ ε (Option Response) := do
  judge line commandClass inquiry transaction start (← readAnswer line)

theorem awaitResponse_succ (commandClass : CommandClass) (inquiry : Inquiry)
    (transaction : UInt8) (start : UInt64) (turns : ℕ) :
    awaitResponse line commandClass inquiry transaction start (turns + 1) =
      answerLook line commandClass inquiry transaction start >>= fun result =>
        match result with
        | some response => pure response
        | none => awaitResponse line commandClass inquiry transaction start turns := by
  rw [awaitResponse, answerLook, readAnswer]
  simp only [bind_assoc]
  congr 1
  funext config
  congr 1
  funext _
  congr 1
  funext frame
  unfold judge
  cases Message.decode frame with
  | error e => rfl
  | ok message =>
    cases message with
    | request => rfl
    | response response =>
      dsimp only
      split_ifs
      · rw [bind_assoc]
        congr 1
        funext c
        cases c.checkResponse commandClass inquiry response <;> rfl
      · rw [bind_assoc]
        congr 1
        funext now
        rw [bind_assoc]
        congr 1
        funext config
        split_ifs <;> rfl

theorem runWith_awaitResponse (commandClass : CommandClass) (inquiry : Inquiry)
    (transaction : UInt8) (start : UInt64) (turns : ℕ) (s : Controller × Port σ ε) :
    runWith (awaitResponse line commandClass inquiry transaction start turns) s =
      lookOut (runWith (answerLook line commandClass inquiry transaction start)) (.port .stalled)
        turns s := by
  induction turns generalizing s with
  | zero => rfl
  | succ turns ih =>
    rw [awaitResponse_succ, runWith_bind, lookOut]
    generalize runWith (answerLook line commandClass inquiry transaction start) s = out
    obtain ⟨_ | _ | _, s⟩ := out
    · rfl
    · exact ih s
    · rfl

/-- Waits for the response to a request that has just been sent. -/
def awaitAnswer (commandClass : CommandClass) (inquiry : Inquiry) (transaction : UInt8) :
    ControllerM σ ε Response := do
  let start ← onPort (Port.now line)
  let patience := (← onPort get).patience
  awaitResponse line commandClass inquiry transaction start patience

theorem runWith_awaitAnswer (commandClass : CommandClass) (inquiry : Inquiry)
    (transaction : UInt8) (c : Controller) (p : Port σ ε) :
    runWith (awaitAnswer line commandClass inquiry transaction) (c, p) =
      lookOut (runWith (answerLook line commandClass inquiry transaction (line.now p.world).1))
        (.port .stalled) p.patience (c, Port.ticked line p) := by
  rw [← runWith_awaitResponse]
  rfl

/-- After the request is sent, the response is waited for unless nobody responds. -/
theorem exchange_eq (commandClass : CommandClass) (inquiry : Inquiry) (transaction : UInt8) :
    exchange line commandClass inquiry transaction = (do
      let c ← getThe Controller
      if inquiry.destination.isBroadcast then do
        sendMessage line (c.message commandClass inquiry transaction) .none
        pure none
      else do
        sendMessage line (c.message commandClass inquiry transaction) .receive
        some <$> awaitAnswer line commandClass inquiry transaction) := by
  unfold exchange awaitAnswer
  simp only [map_bind]

/-! ## What controllers do comes to an end -/

variable {line} {time : σ → ℕ} {config : LineConfig} {patience start : ℕ}

/-- What a controller does comes to its end, unless the clock wraps around. -/
def EndsInTime (time : σ → ℕ) (config : LineConfig) (patience start : ℕ)
    (task : ControllerM σ ε α) : Prop :=
  Ensures (fun p => p.Since time config patience start) task
    (fun _ p => p.Since time config patience start)
    fun e => Port.InTime time config patience start (e = .port .stalled)

theorem ofPort_eq_stalled_iff {e : PortError ε} :
    RequestError.ofPort e = .port .stalled ↔ e = .stalled := by
  cases e <;> simp [RequestError.ofPort]

theorem ofDecodeError_ne_stalled (e : Packet.DecodeError) :
    (.ofDecodeError e : RequestError ε) ≠ .port .stalled := by
  cases e <;> nofun

theorem checkResponse_ne_stalled (c : Controller) (commandClass : CommandClass)
    (inquiry : Inquiry) (response : Response) :
    (c.checkResponse commandClass inquiry response : Except (RequestError ε) Response) ≠
      .error (.port .stalled) := by
  unfold checkResponse
  split_ifs <;> nofun

theorem evaluate_ne_stalled (response : Response) :
    (evaluate response : Except (RequestError ε) Reply) ≠ .error (.port .stalled) := by
  unfold evaluate
  dsimp only
  split
  case h_4 => split <;> nofun
  all_goals nofun

theorem EndsInTime.of_port {task : PortM σ ε α}
    (h : Port.EndsInTime time config patience start task) :
    EndsInTime time config patience start (onPort task) :=
  .onPort (h.mono (fun _ => id) (fun _ _ => id) fun _ _ hp =>
    ⟨hp.since, fun he => hp.late (ofPort_eq_stalled_iff.mp he)⟩)

/-- A task that does not fail as stalled, and keeps the port as it was set up, ends in time. -/
theorem EndsInTime.conclude {result : Except (RequestError ε) α}
    (h : result ≠ .error (.port .stalled)) :
    EndsInTime time config patience start (conclude result) := by
  refine Ensures.conclude fun p hp => ?_
  cases result with
  | error e => exact ⟨hp, fun he => absurd (congrArg Except.error he) h⟩
  | ok a => exact hp

theorem EndsInTime.throw {e : RequestError ε} (h : e ≠ .port .stalled) :
    EndsInTime time config patience start (throw e : ControllerM σ ε α) :=
  Ensures.throw fun _ hp => ⟨hp, fun he => absurd he h⟩

theorem EndsInTime.pure {a : α} :
    EndsInTime time config patience start (pure a : ControllerM σ ε α) :=
  Ensures.pure fun _ => id

theorem EndsInTime.bind {task : ControllerM σ ε α} {next : α → ControllerM σ ε β}
    (h : EndsInTime time config patience start task)
    (hnext : ∀ a, EndsInTime time config patience start (next a)) :
    EndsInTime time config patience start (task >>= next) :=
  Ensures.bind h hnext

theorem EndsInTime.bind_read {next : Controller → ControllerM σ ε α}
    (h : ∀ c, EndsInTime time config patience start (next c)) :
    EndsInTime time config patience start (getThe Controller >>= next) :=
  Ensures.bind (Q := fun _ p => p.Since time config patience start) (.read fun _ _ => id) h

theorem EndsInTime.bind_config {next : LineConfig → ControllerM σ ε α}
    (h : EndsInTime time config patience start (next config)) :
    EndsInTime time config patience start (Controller.config >>= next) := by
  refine Ensures.bind (Q := fun c p => c = config ∧ p.Since time config patience start)
    (.config fun p hp => ⟨hp.config, hp⟩) fun c => .given ?_
  rintro rfl
  exact h

section Timed

variable (hline : line.Timed time)
include hline

theorem endsInTime_step' {f : Port σ ε → α × Port σ ε}
    (h : ∀ p : Port σ ε, p.Since time config patience start →
      (f p).2.Since time config patience start) :
    EndsInTime time config patience start (onPort (Port.step' line f)) :=
  Ensures.onPort (.step' (fun _ => (Port.receiving_since hline _ _ _).toKept.interrupted) h)

/-! ### The wait for a response -/

theorem endsInTime_readAnswer
    (hpatience : config.responseTimeout.toNat + config.transactionTimeout.toNat + 1 ≤ patience) :
    EndsInTime time config patience start (readAnswer line : ControllerM σ ε Bytes) :=
  .bind_config <| .bind (.of_port (Port.endsInTime_receive hline hpatience)) fun _ =>
    endsInTime_step' hline fun _ => id

/-- Who judges a frame and looks for another has read the clock. -/
theorem ensures_judge (commandClass : CommandClass) (inquiry : Inquiry) (transaction : UInt8)
    (frame : Bytes) {before : ℕ} (hstart : start ≤ before) :
    Ensures (fun p : Port σ ε => p.Since time config patience before)
      (judge line commandClass inquiry transaction (UInt64.ofNat start) frame)
      (fun result p => p.Since time config patience before ∧ (result = none →
        before < time p.world ∧ (time p.world < clockRange →
          time p.world < start + config.transactionTimeout.toNat)))
      fun e => Port.InTime time config patience before (e = .port .stalled) := by
  unfold judge
  split
  · exact .throw fun p hp => ⟨hp, fun he => absurd he (ofDecodeError_ne_stalled _)⟩
  · exact .throw fun p hp => ⟨hp, nofun⟩
  · split_ifs
    next response _ _ =>
      refine .bind (Q := fun _ p => p.Since time config patience before) (.read fun _ _ => id)
        fun c => .conclude fun p hp => ?_
      have hchecked := c.checkResponse_ne_stalled (ε := ε) commandClass inquiry response
      generalize c.checkResponse commandClass inquiry response = checked at hchecked
      cases checked with
      | error e => exact ⟨hp, fun he => absurd (congrArg Except.error he) hchecked⟩
      | ok response => exact ⟨hp, nofun⟩
    · refine .bind (.onPort (Port.ensures_reading hline)) fun now => ?_
      refine .bind (Q := fun c p => c = config ∧ now = UInt64.ofNat (time p.world) ∧
        p.Since time config patience (before + 1)) (.config fun p hp => ⟨hp.2.config, hp⟩)
        fun c => .given ?_
      rintro rfl
      split_ifs with hover
      · exact .throw fun p hp => ⟨hp.2.of_le before.le_succ, nofun⟩
      · refine .pure fun p hp => ?_
        obtain ⟨rfl, hp⟩ := hp
        have hagain := hp.again hstart hover
        rw [UInt32.toNat_toUInt64] at hagain
        exact ⟨hagain.1, fun _ => hagain.2⟩

/-- Frames are received as long as a transaction may take, one in each microsecond at most. -/
theorem expires_answerLook (commandClass : CommandClass) (inquiry : Inquiry) (transaction : UInt8)
    (hpatience : config.responseTimeout.toNat + config.transactionTimeout.toNat + 1 ≤ patience) :
    Expires (runWith (answerLook line commandClass inquiry transaction (UInt64.ofNat start)))
      (.port .stalled : RequestError ε) (fun s => time s.2.world)
      (fun s => s.2.Since time config patience start)
      (start + config.transactionTimeout.toNat) := by
  intro s hs
  have hlook : Ensures (fun p : Port σ ε => p.Since time config patience (time s.2.world))
      (answerLook line commandClass inquiry transaction (UInt64.ofNat start)) _ _ :=
    .bind (endsInTime_readAnswer hline hpatience) fun frame =>
      ensures_judge hline commandClass inquiry transaction frame hs.start_le
  refine (hlook s.1 s.2 ⟨hs.config, hs.patience, le_rfl⟩).mono ?_ ?_
  · exact fun _ q hq => ⟨⟨hq.1.of_le hs.start_le, hq.1.start_le⟩, hq.2⟩
  · exact fun _ q hq =>
      ⟨⟨hq.since.of_le hs.start_le, hq.since.start_le⟩, fun he => (hq.late he).start_le⟩

theorem awaitAnswer_looksAtMost (commandClass : CommandClass) (inquiry : Inquiry)
    (transaction : UInt8) (c : Controller) (p : Port σ ε)
    (hpatience : p.config.responseTimeout.toNat + p.config.transactionTimeout.toNat + 1 ≤
      p.patience) :
    LooksAtMost (p.config.transactionTimeout.toNat + 1)
      (runWith (answerLook line commandClass inquiry transaction (line.now p.world).1))
      (.port .stalled) (fun s => time s.2.world) p.patience (c, Port.ticked line p)
      (runWith (awaitAnswer line commandClass inquiry transaction) (c, p)) := by
  have hstart : (line.now p.world).1 = UInt64.ofNat (time (Port.ticked line p).world) :=
    hline.shows _
  refine Expires.looksAtMost (I := fun s => s.2.Since time p.config p.patience
    (time (Port.ticked line p).world)) ?_ (Port.Since.now time line p)
    (runWith_awaitAnswer line commandClass inquiry transaction c p)
  rw [hstart]
  exact expires_answerLook hline commandClass inquiry transaction hpatience

theorem endsInTime_awaitAnswer (commandClass : CommandClass) (inquiry : Inquiry)
    (transaction : UInt8)
    (hpatience : config.responseTimeout.toNat + config.transactionTimeout.toNat + 1 ≤ patience) :
    EndsInTime time config patience start
      (awaitAnswer line commandClass inquiry transaction : ControllerM σ ε Response) := by
  intro c p hp
  obtain ⟨rfl, rfl, -⟩ := id hp
  have hstart : (line.now p.world).1 = UInt64.ofNat (time (Port.ticked line p).world) :=
    hline.shows _
  have hbegin : (c, Port.ticked line p).2.Since time p.config p.patience
      (time (Port.ticked line p).world) := Port.Since.now time line p
  have hends := (expires_answerLook (ε := ε) hline commandClass inquiry transaction hpatience).ends
    p.patience hbegin (by rw [Nat.add_sub_cancel_left]; omega)
  rw [← hstart, ← runWith_awaitAnswer] at hends
  refine hends.mono (fun _ s hs => hp.of_ticked hline hs) fun e s hs => ?_
  have hsince := hp.of_ticked hline hs.1
  exact ⟨hsince, fun he => ⟨hsince.config, hsince.patience, hs.2 he⟩⟩

/-! ### Exchanges -/

theorem endsInTime_sendMessage (message : Message) (turnaround : Turnaround)
    (hpatience : config.transactionTimeout.toNat + 1 ≤ patience) :
    EndsInTime time config patience start
      (sendMessage line message turnaround : ControllerM σ ε Unit) := by
  have hwrite : Port.EndsInTime time config patience start
      (Port.write line message.encode : PortM σ ε ℕ) :=
    Port.endsInTime_withFront hline fun front => front.writeAt 0 message.encode
  refine .bind (.of_port hwrite) fun written => ?_
  split_ifs
  · exact .throw nofun
  · exact .bind (.of_port (Port.endsInTime_sendFrame hline _ _ _)) fun _ =>
      .bind_config (.of_port (Port.endsInTime_waitSent hline hpatience))

theorem endsInTime_exchange (commandClass : CommandClass) (inquiry : Inquiry)
    (transaction : UInt8)
    (hpatience : config.responseTimeout.toNat + config.transactionTimeout.toNat + 1 ≤ patience) :
    EndsInTime time config patience start
      (exchange line commandClass inquiry transaction : ControllerM σ ε (Option Response)) := by
  have hsend : config.transactionTimeout.toNat + 1 ≤ patience := by omega
  rw [exchange_eq]
  refine .bind_read fun c => ?_
  split_ifs
  · exact .bind (endsInTime_sendMessage hline _ _ hsend) fun _ => .pure
  · refine .bind (endsInTime_sendMessage hline _ _ hsend) fun _ => ?_
    rw [map_eq_pure_bind]
    exact .bind (endsInTime_awaitAnswer hline _ _ _ hpatience) fun _ => .pure

theorem endsInTime_branchExchange (lower upper : ℕ) (transaction : UInt8)
    (hpatience : config.responseTimeout.toNat + config.transactionTimeout.toNat + 1 ≤ patience) :
    EndsInTime time config patience start
      (branchExchange line lower upper transaction : ControllerM σ ε Discovery.Branch) := by
  have hsend : config.transactionTimeout.toNat + 1 ≤ patience := by omega
  refine .bind_read fun c => ?_
  refine .bind (endsInTime_sendMessage hline _ _ hsend) fun _ => .bind_config ?_
  refine Ensures.bind (.tryPort (Port.endsInTime_receive hline hpatience)) fun result => ?_
  split
  · exact .pure fun p hp => hp.since
  · exact .pure fun p hp => hp.since
  · exact .pure fun p hp => hp.since
  · exact .pure fun p hp => hp.since
  · exact .throw fun p hp => ⟨hp.since, fun he => hp.late (ofPort_eq_stalled_iff.mp he)⟩
  · refine EndsInTime.bind (endsInTime_step' hline fun _ => id) fun frame => ?_
    split <;> exact .pure

/-! ### The lock and the frame buffer -/

theorem endsInTime_enter (hpatience : config.transactionTimeout.toNat + 1 ≤ patience) :
    EndsInTime time config patience start (enter line : ControllerM σ ε Unit) := by
  refine .bind_read fun c => ?_
  split_ifs
  · exact endsInTime_step' hline fun p hp => ⟨hp.config, hp.patience, hp.start_le⟩
  · refine .bind_config ?_
    refine Ensures.bind (.tryPort (Port.endsInTime_lock hline hpatience)) fun result => ?_
    split
    · exact .pure fun _ => id
    · exact .throw fun p hp => ⟨hp.since, fun _ => hp.late rfl⟩
    · exact .throw fun p hp => ⟨hp.since, nofun⟩

theorem endsInTime_withLock {task : ControllerM σ ε α}
    (hpatience : config.transactionTimeout.toNat + 1 ≤ patience)
    (htask : EndsInTime time config patience start task) :
    EndsInTime time config patience start (withLock line task) := by
  have hunlock (start : ℕ) : Port.Ensures (fun p : Port σ ε => p.Since time config patience start)
      (Port.unlock line) (fun _ p => p.Since time config patience start) fun _ _ => False :=
    .step' (fun _ => (Port.receiving_since hline config patience start).toKept.interrupted)
      fun p hp => ⟨hp.config, hp.patience, hp.start_le⟩
  refine .bind (endsInTime_enter hline hpatience) fun _ => ?_
  refine Ensures.bind htask.attempt fun result => ?_
  cases result with
  | ok a =>
    exact .bind (.onPort ((hunlock start).mono (fun _ => id) (fun _ _ => id)
      fun _ _ h => h.elim)) fun _ => .conclude fun _ => id
  | error e => exact .bind (.onPort (Port.ensures_inTime hunlock)) fun _ => .conclude fun _ => id

theorem endsInTime_preserving {task : ControllerM σ ε α}
    (htask : EndsInTime time config patience start task) :
    EndsInTime time config patience start (preserving line task) := by
  refine .bind (endsInTime_step' hline fun _ => id) fun before => ?_
  refine Ensures.bind htask.attempt fun result => ?_
  have hrestore : Port.EndsInTime time config patience start
      (Port.restore line before : PortM σ ε Unit) := Port.endsInTime_withFront hline _
  split
  · exact .throw fun p hp => hp
  · next hended =>
    refine Ensures.mono (P := fun p => p.Since time config patience start)
      (EndsInTime.bind (.of_port hrestore) fun _ => .conclude ?_) ?_ (fun _ _ => id) fun _ _ => id
    · exact fun he => hended he
    · cases result with
      | ok a => exact fun p => id
      | error e => exact fun p hp => hp.since

theorem endsInTime_request (commandClass : CommandClass) (inquiry : Inquiry)
    (hpatience : config.responseTimeout.toNat + config.transactionTimeout.toNat + 1 ≤ patience) :
    EndsInTime time config patience start
      (request line commandClass inquiry : ControllerM σ ε Reply) := by
  have hlock : config.transactionTimeout.toNat + 1 ≤ patience := by omega
  refine .bind (endsInTime_step' hline fun p hp => ⟨hp.config, hp.patience, hp.start_le⟩)
    fun transaction => endsInTime_withLock hline hlock ?_
  refine .bind (endsInTime_preserving hline (endsInTime_exchange hline _ _ _ hpatience))
    fun response => ?_
  split
  · exact .pure
  · exact .bind (Ensures.change fun _ => id) fun _ => .conclude (evaluate_ne_stalled _)

theorem endsInTime_discover (lower upper : ℕ)
    (hpatience : config.responseTimeout.toNat + config.transactionTimeout.toNat + 1 ≤ patience) :
    EndsInTime time config patience start
      (discover line lower upper : ControllerM σ ε Discovery.Branch) := by
  have hlock : config.transactionTimeout.toNat + 1 ≤ patience := by omega
  refine .bind (endsInTime_step' hline fun p hp => ⟨hp.config, hp.patience, hp.start_le⟩)
    fun transaction => endsInTime_withLock hline hlock ?_
  exact endsInTime_preserving hline (endsInTime_branchExchange hline _ _ _ hpatience)

end Timed

/-- A task that ends in time has a result or an error of its own, as long as the clock does not wrap
around. -/
theorem EndsInTime.returns {task : ControllerM σ ε α} (c : Controller) (p : Port σ ε)
    (h : EndsInTime time p.config p.patience (time p.world) task)
    (hend : time (runWith task (c, p)).2.2.world < clockRange) :
    (runWith task (c, p)).1 ≠ .error (.port .stalled) := by
  have hends := h c p ⟨rfl, rfl, le_rfl⟩
  generalize runWith task (c, p) = out at hends hend
  obtain ⟨e | _, _, _⟩ := out
  · exact fun he => hend.not_ge (hends.late (Except.error.inj he)).start_le
  · nofun

/-- On a line whose clock moves, every wait of a port looks at most as often as it has microseconds
and once more; so does a controller that waits for a response, and so requests and searches return.
A port that is patient enough only counts as stalled if its clock wraps around. -/
theorem every_wait_ends (hline : line.Timed time) (c : Controller) (p : Port σ ε) :
    (∀ timeout, LooksAtMost (timeout.toNat + 1)
      (Port.exec (Port.sentLook line timeout (line.now p.world).1)) .stalled
      (fun p => time p.world) p.patience (Port.ticked line p)
      (Port.exec (Port.waitSent line timeout) p)) ∧
    (∀ timeout, LooksAtMost (timeout.toNat + p.config.transactionTimeout.toNat + 1)
      (Port.exec (Port.frameLook line timeout
        (timeout.toUInt64 + p.config.transactionTimeout.toUInt64) (line.now p.world).1)) .stalled
      (fun p => time p.world) p.patience (Port.ticked line p)
      (Port.exec (Port.waitForFrame line timeout) p)) ∧
    (∀ timeout, LooksAtMost (timeout.toNat + 1)
      (Port.exec (Port.lockLook line timeout (line.now p.world).1)) .stalled
      (fun p => time p.world) p.patience (Port.ticked line p)
      (Port.exec (Port.lock line timeout) p)) ∧
    (p.config.responseTimeout.toNat + p.config.transactionTimeout.toNat + 1 ≤ p.patience →
      (∀ commandClass inquiry transaction, LooksAtMost (p.config.transactionTimeout.toNat + 1)
        (runWith (answerLook line commandClass inquiry transaction (line.now p.world).1))
        (.port .stalled) (fun s => time s.2.world) p.patience (c, Port.ticked line p)
        (runWith (awaitAnswer line commandClass inquiry transaction) (c, p))) ∧
      (∀ commandClass inquiry,
        let out := runWith (request line commandClass inquiry) (c, p)
        time out.2.2.world < clockRange → out.1 ≠ .error (.port .stalled)) ∧
      ∀ lower upper,
        let out := runWith (discover line lower upper) (c, p)
        time out.2.2.world < clockRange → out.1 ≠ .error (.port .stalled)) := by
  refine ⟨fun timeout => ?_, fun timeout => ?_, fun timeout => ?_, fun hpatience =>
    ⟨fun commandClass inquiry transaction => ?_, fun commandClass inquiry => ?_,
      fun lower upper => ?_⟩⟩
  · exact (Port.waits_waitSent hline timeout p).looksAtMost
  · exact (Port.waits_waitForFrame hline timeout p).looksAtMost
  · exact (Port.waits_lock hline timeout p).looksAtMost
  · exact awaitAnswer_looksAtMost hline commandClass inquiry transaction c p hpatience
  · exact EndsInTime.returns c p (endsInTime_request hline commandClass inquiry hpatience)
  · exact EndsInTime.returns c p (endsInTime_discover hline lower upper hpatience)

/-- A line on which events never cease: a device repeats the same answer for ever. -/
structure Chatter where
  /-- The time in microseconds. -/
  time : ℕ
  /-- How many events there were. -/
  events : ℕ

/-- The events of a response, over and over. -/
def Chatter.poll (w : Chatter) : Option Event × Chatter :=
  let event : Event := match w.events % 4 with
    | 0 => .txDone
    | 1 => .breakDetected
    | 2 => .rxData
    | _ => .rxTimeout
  (some event, { w with events := w.events + 1 })

/-- A line on which the same frame is received all the time. Each reading of the clock takes a
tenth of a millisecond. -/
def chatter (frame : Bytes) : Transport Chatter Empty where
  autoBreak := true
  write bytes w := (.ok bytes.length, w)
  read count w := (.ok (frame.take count), w)
  assertBreak w := (.ok (), w)
  releaseBreak w := (.ok (), w)
  flushReceived w := (.ok (), w)
  flushQueued w := (.ok (), w)
  poll := Chatter.poll
  interrupts w := ([], w)
  now w := (UInt64.ofNat (w.time + 100), { w with time := w.time + 100 })
  delay _ w := w
  setAlarm _ w := (false, w)

theorem timed_chatter (frame : Bytes) : (chatter frame).Timed Chatter.time where
  shows _ := rfl
  moves w := Nat.lt_add_of_pos_right (by decide)
  write _ _ := le_rfl
  read _ _ := le_rfl
  assertBreak _ := le_rfl
  releaseBreak _ := le_rfl
  flushReceived _ := le_rfl
  flushQueued _ := le_rfl
  poll _ := le_rfl
  interrupts _ := le_rfl
  delay _ _ := le_rfl
  setAlarm _ _ := le_rfl

/-- A port that is more patient than its timeouts are long. -/
def patientPort : Port Chatter Empty where
  config := {}
  engine := Engine.create 40 {}
  world := ⟨0, 0⟩
  driverFault := none
  waiting := false
  lockDepth := 0
  transaction := 7
  patience := 30000

/-- A controller, and the late response of a device to an earlier request. -/
def listener : Controller := .create ⟨0x7FF0, 21, by decide⟩ 1

def lateResponse : Response where
  destination := .device listener.uid
  source := ⟨0x7FF0, 22, by decide⟩
  transaction := 6
  type := .ack
  messageCount := 0
  subDevice := SubDevice.root
  commandClass := .get
  pid := Pid.deviceInfo
  data := .empty

/-- Every look of the request receives the late response again, until the time of a transaction is
over. -/
theorem every_wait_ends_chatter :
    let line := chatter (Message.response lateResponse).encode
    let out := runWith (request line .get (.bare (.device lateResponse.source) Pid.deviceInfo))
      (listener, patientPort)
    line.Timed Chatter.time ∧
    patientPort.config.responseTimeout.toNat + patientPort.config.transactionTimeout.toNat + 1 ≤
      patientPort.patience ∧
    out.2.2.world.time < clockRange ∧ out.1 ≠ .error (.port .stalled) ∧
    out.1 = .error (.port .timeout) := by
  have hline := timed_chatter (Message.response lateResponse).encode
  have hpatience : patientPort.config.responseTimeout.toNat +
    patientPort.config.transactionTimeout.toNat + 1 ≤ patientPort.patience := by decide
  have hend : (runWith (request (chatter (Message.response lateResponse).encode) .get
      (.bare (.device lateResponse.source) Pid.deviceInfo))
      (listener, patientPort)).2.2.world.time < clockRange := by decide +kernel
  have hreturns := ((every_wait_ends hline listener patientPort).2.2.2 hpatience).2.1 .get _ hend
  exact ⟨hline, hpatience, hend, hreturns, by decide +kernel⟩

end Controller

end LightingBus
