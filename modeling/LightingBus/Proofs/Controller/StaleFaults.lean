import LightingBus.Proofs.Controller.Preservation
import LightingBus.Proofs.Line.Agreement
import LightingBus.Proofs.Line.PendingFaults

/-!
# Faults from before a request

`Controller.stale_faults`: a fault that was recorded before a request and that nobody has been told
does influence the request. The port listens already when the request waits for its response, so
the fault is told then: no request is answered, and every search reports a collision or fails. An
error of the driver even fails the sending. That is all the influence there is: two ports that tell
the same fault give the same results, and a broadcast, which waits for nothing, is not concerned by
faults of the engine (`request_misled` shows the difference that a fault makes).

1. `Agrees` compares two runs of what a controller does, step by step.
2. `agrees_request` and `agrees_discover` lead the comparison through the lock and the putting back
   of the frame buffer, for any relation that stands meanwhile (`Port.Steady`).
3. `fails_exchange_pending` and `ensures_branchExchange_pending` follow one run with a fault.
-/

namespace LightingBus

variable {σ ε α β : Type}

namespace Controller

open Port (Alike Steady Told noted_told Pending)

variable {line : Transport σ ε} {P Q T : Port σ ε → Port σ ε → Prop} {R : Marks → Marks → Prop}
  {task : ControllerM σ ε α}

/-! ## Two runs -/

/-- Two runs of what a controller does, from ports with `P`, end with the same result, the same
controller and ports with `Q`. -/
def Agrees (P : Port σ ε → Port σ ε → Prop) (task : ControllerM σ ε α)
    (Q : Port σ ε → Port σ ε → Prop) : Prop :=
  ∀ c p q, P p q →
    Agree (fun s s' => s'.1 = s.1 ∧ Q s.2 s'.2) (runWith task (c, p)) (runWith task (c, q))

/-- The rest of a task goes on from related ports; a run that fails ends with them. -/
theorem Agrees.then {next : α → ControllerM σ ε β} (h : Agrees P task Q)
    (hnext : ∀ a, Agrees Q (next a) T) (hQ : ∀ p q, Q p q → T p q) :
    Agrees P (task >>= next) T := by
  intro c p q hpq
  have hend := h c p q hpq
  rw [runWith_bind, runWith_bind]
  generalize runWith task (c, p) = out at hend ⊢
  generalize runWith task (c, q) = out' at hend ⊢
  obtain ⟨hs⟩ := hend
  next r s s' =>
    obtain ⟨c₁, p₁⟩ := s
    obtain ⟨c₂, p₂⟩ := s'
    obtain ⟨hc, hports⟩ := hs
    cases hc
    cases r with
    | error e => exact .mk ⟨rfl, hQ p₁ p₂ hports⟩
    | ok a => exact hnext a c₁ p₁ p₂ hports

theorem Agrees.bind {next : α → ControllerM σ ε β} (h : Agrees P task Q)
    (hnext : ∀ a, Agrees Q (next a) Q) : Agrees P (task >>= next) Q :=
  h.then hnext fun _ _ => id

/-- From a port with `I`, what a controller does ends with an error. -/
def Fails (I : Port σ ε → Prop) (task : ControllerM σ ε α) : Prop :=
  Ensures I task (fun _ _ => False) fun _ _ => True

theorem Fails.bind {next : α → ControllerM σ ε β} {I : Port σ ε → Prop} {J : α → Port σ ε → Prop}
    (h : Ensures I task J fun _ _ => True) (hnext : ∀ a, Fails (J a) (next a)) :
    Fails I (task >>= next) :=
  Ensures.bind h hnext

/-- After a beginning that fails the rest is not run. -/
theorem Fails.first {next : α → ControllerM σ ε β} {I : Port σ ε → Prop} (h : Fails I task) :
    Fails I (task >>= next) :=
  Ensures.bind h fun _ _ _ hnever => hnever.elim

theorem Fails.throw {e : RequestError ε} {I : Port σ ε → Prop} :
    Fails I (throw e : ControllerM σ ε α) :=
  Ensures.throw fun _ _ => trivial

theorem Fails.onPort {task : PortM σ ε α} {I : Port σ ε → Prop} {R : PortError ε → Port σ ε → Prop}
    (h : Port.Ensures I task (fun _ _ => False) R) : Fails I (onPort task) :=
  Ensures.onPort (h.mono (fun _ => id) (fun _ _ => id) fun _ _ _ => trivial)

/-- If the beginning of a task fails from one of two ports, it does from the other, and the rest is
not run. -/
theorem Agrees.of_fails {next : α → ControllerM σ ε β} {I : Port σ ε → Prop}
    (h : Agrees P task Q) (hfails : Fails I task) :
    Agrees (fun p q => P p q ∧ I p) (task >>= next) Q := by
  intro c p q ⟨hpq, hp⟩
  have hend := h c p q hpq
  have hfailed := hfails c p hp
  rw [runWith_bind, runWith_bind]
  generalize runWith task (c, p) = out at hend hfailed ⊢
  generalize runWith task (c, q) = out' at hend ⊢
  obtain ⟨hs⟩ := hend
  next r s s' =>
    cases r with
    | error e => exact .mk hs
    | ok a => exact hfailed.elim

theorem Agrees.pure {a : α} : Agrees P (pure a) P :=
  fun _ _ _ h => .mk ⟨rfl, h⟩

theorem Agrees.throw {e : RequestError ε} : Agrees P (throw e : ControllerM σ ε α) P :=
  fun _ _ _ h => .mk ⟨rfl, h⟩

theorem Agrees.conclude {result : Except (RequestError ε) α} : Agrees P (conclude result) P :=
  fun _ _ _ h => .mk ⟨rfl, h⟩

theorem Agrees.read : Agrees P (getThe Controller) P :=
  fun _ _ _ h => .mk ⟨rfl, h⟩

/-- What a controller reads of its port has to be the same in both. -/
theorem Agrees.readPort {next : Port σ ε → ControllerM σ ε β}
    (hsame : ∀ p q, P p q → next q = next p) (h : ∀ p, Agrees P (next p) Q) :
    Agrees P (Controller.onPort get >>= next) Q := by
  intro c p q hpq
  change Agree _ (runWith (next p) (c, p)) (runWith (next q) (c, q))
  rw [hsame p q hpq]
  exact h p c p q hpq

theorem Agrees.change {f : Controller → Controller} : Agrees P (modifyThe Controller f) P :=
  fun _ _ _ h => .mk ⟨rfl, h⟩

theorem Agrees.ite {c : Prop} [Decidable c] {other : ControllerM σ ε α} (h : Agrees P task Q)
    (hother : Agrees P other Q) : Agrees P (if c then task else other) Q := by
  split_ifs
  · exact h
  · exact hother

theorem Agrees.attempt (h : Agrees P task Q) : Agrees P (attempt task) Q :=
  fun c p q hpq => (h c p q hpq).map Except.ok id fun _ _ => id

theorem Agrees.tryPort {task : PortM σ ε α} (h : Port.Agrees P task Q) :
    Agrees P (tryPort task) Q :=
  fun c p q hpq => (h p q hpq).map Except.ok (c, ·) fun _ _ hs => ⟨rfl, hs⟩

theorem Agrees.onPort {task : PortM σ ε α} (h : Port.Agrees P task Q) :
    Agrees P (onPort task) Q :=
  fun c p q hpq => (h p q hpq).map (Except.mapError RequestError.ofPort) (c, ·)
    fun _ _ hs => ⟨rfl, hs⟩

theorem agrees_config (hP : Steady line P) : Agrees P config P := by
  intro c p q h
  obtain ⟨m, rfl⟩ := hP.exists_mark h
  exact .mk ⟨rfl, h⟩

/-! ## The lock and the frame buffer -/

theorem agrees_enter (hP : Steady line P) : Agrees P (enter line) P := by
  refine .bind .read fun c => .ite (.onPort hP.agrees_nest) ?_
  refine .bind (agrees_config hP) fun config => ?_
  refine .bind (.tryPort (hP.agrees_lock _)) fun result => ?_
  split
  · exact .pure
  · exact .throw
  · exact .throw

theorem agrees_withLock (hP : Steady line P) (hR : Marks.Noted R)
    (hPR : ∀ p q, P p q → Alike R p q) (htask : Agrees P task (Alike R)) :
    Agrees P (withLock line task) (Alike R) := by
  refine .then (agrees_enter hP) (fun _ => ?_) hPR
  refine .bind htask.attempt fun result => ?_
  exact .bind (.onPort (Port.steady_alike line hR).agrees_unlock) fun _ => .conclude

theorem agrees_preserving (hP : Steady line P) (hR : Marks.Noted R)
    (hPR : ∀ p q, P p q → Alike R p q) (htask : Agrees P task (Alike R)) :
    Agrees P (preserving line task) (Alike R) := by
  refine .then (.onPort hP.agrees_snapshot) (fun before => ?_) hPR
  refine .bind htask.attempt fun result => ?_
  split
  · exact .throw
  · exact .bind (.onPort (Port.agrees_restore hR before)) fun _ => .conclude

theorem agrees_request (hP : Steady line P) (hR : Marks.Noted R)
    (hPR : ∀ p q, P p q → Alike R p q) {commandClass : CommandClass} {inquiry : Inquiry}
    (hexchange : ∀ transaction,
      Agrees P (exchange line commandClass inquiry transaction) (Alike R)) :
    Agrees P (request line commandClass inquiry) (Alike R) := by
  refine .then (.onPort hP.agrees_nextTransaction) (fun transaction => ?_) hPR
  refine agrees_withLock hP hR hPR ?_
  refine .bind (agrees_preserving hP hR hPR (hexchange transaction)) fun response => ?_
  cases response with
  | none => exact .pure
  | some response => exact .bind .change fun _ => .conclude

theorem agrees_discover (hP : Steady line P) (hR : Marks.Noted R)
    (hPR : ∀ p q, P p q → Alike R p q) {lower upper : ℕ}
    (hexchange : ∀ transaction,
      Agrees P (branchExchange line lower upper transaction) (Alike R)) :
    Agrees P (discover line lower upper) (Alike R) := by
  refine .then (.onPort hP.agrees_nextTransaction) (fun transaction => ?_) hPR
  exact agrees_withLock hP hR hPR (agrees_preserving hP hR hPR (hexchange transaction))

/-! ## Sending and receiving -/

theorem agrees_sendMessage (hR : Marks.Noted R) (message : Message) (turnaround : Turnaround) :
    Agrees (Alike R) (sendMessage line message turnaround) (Alike R) := by
  refine .bind (.onPort (Port.agrees_write hR _)) fun count => .ite .throw ?_
  refine .bind (.onPort (Port.agrees_sendFrame hR _ true turnaround)) fun _ => ?_
  refine .bind (agrees_config (Port.steady_alike line hR)) fun config => ?_
  exact .onPort (Port.agrees_waitSent hR _)

theorem agrees_awaitResponse (commandClass : CommandClass) (inquiry : Inquiry)
    (transaction : UInt8) (start : UInt64) (turns : ℕ) :
    Agrees (Alike (Told ε)) (awaitResponse line commandClass inquiry transaction start turns)
      (Alike (Told ε)) := by
  have hsteady := Port.steady_alike line (noted_told ε)
  induction turns with
  | zero => exact .throw
  | succ turns ih =>
    refine .bind (agrees_config hsteady) fun config => ?_
    refine .bind (.onPort (Port.agrees_receive _)) fun _ => ?_
    refine .bind (.onPort hsteady.agrees_frame) fun frame => ?_
    split
    · exact .throw
    · exact .throw
    · refine .ite (.bind .read fun c => .conclude) ?_
      refine .bind (.onPort hsteady.agrees_now) fun now => ?_
      exact .bind (agrees_config hsteady) fun config => .ite .throw ih

theorem agrees_exchange (commandClass : CommandClass) (inquiry : Inquiry) (transaction : UInt8) :
    Agrees (Alike (Told ε)) (exchange line commandClass inquiry transaction)
      (Alike (Told ε)) := by
  refine .bind .read fun c => .ite ?_ ?_
  · exact .bind (agrees_sendMessage (noted_told ε) _ _) fun _ => .pure
  · refine .bind (agrees_sendMessage (noted_told ε) _ _) fun _ => ?_
    refine .bind (.onPort (Port.steady_alike line (noted_told ε)).agrees_now) fun start => ?_
    refine .readPort (fun p q h => ?_) fun p => ?_
    · rw [h.patience]
    · refine .bind (agrees_awaitResponse commandClass inquiry transaction start p.patience)
        fun response => .pure

/-- A broadcast waits for nothing, so it takes no faults of the engine. -/
theorem agrees_exchange_broadcast (hR : Marks.Noted R) (commandClass : CommandClass)
    {inquiry : Inquiry} (hbroadcast : inquiry.destination.isBroadcast = true)
    (transaction : UInt8) :
    Agrees (Alike R) (exchange line commandClass inquiry transaction) (Alike R) := by
  refine .bind .read fun c => ?_
  rw [if_pos hbroadcast]
  exact .bind (agrees_sendMessage hR _ _) fun _ => .pure

theorem agrees_branchExchange (lower upper : ℕ) (transaction : UInt8) :
    Agrees (Alike (Told ε)) (branchExchange line lower upper transaction) (Alike (Told ε)) := by
  have hsteady := Port.steady_alike line (noted_told ε)
  refine .bind .read fun c => .bind (agrees_sendMessage (noted_told ε) _ _) fun _ => ?_
  refine .bind (agrees_config hsteady) fun config => ?_
  refine .bind (.tryPort (Port.agrees_receive _)) fun result => ?_
  split
  · exact .pure
  · exact .pure
  · exact .pure
  · exact .pure
  · exact .throw
  · refine .bind (.onPort hsteady.agrees_frame) fun frame => ?_
    split <;> exact .pure

/-! ## An error of the driver -/

/-- Two ports that may tell other faults of the engine, but have the same error of the driver. -/
def Failed (p q : Port σ ε) : Prop :=
  Alike (fun _ _ => True) p q ∧ p.driverFault ≠ none

theorem steady_failed (line : Transport σ ε) : Steady line Failed where
  alike h := h.1
  interrupted h := ⟨h.1.interrupted Marks.noted_true, (Port.kept_driverFault line).interrupted h.2⟩
  congr w depth number h :=
    ⟨(Port.steady_alike line Marks.noted_true).congr w depth number h.1, h.2⟩

/-- The error of the driver is taken for one of the frame being sent. -/
theorem fails_sendMessage (message : Message) (turnaround : Turnaround) :
    Fails (fun p => p.driverFault ≠ none) (sendMessage line message turnaround) := by
  have hkept := Port.kept_driverFault line
  refine .bind (.onPort (hkept.ensures_write (fun _ _ => id) message.encode)) fun count => ?_
  split_ifs
  · exact .throw
  refine .bind (.onPort (Port.ensures_sendFrame_driverFault _ true turnaround)) fun _ => ?_
  refine .bind (J := fun _ p => p.driverFault ≠ none) (.config fun _ => id) fun config => ?_
  exact .onPort (Port.ensures_waitSent_driverFault _)

theorem fails_exchange (commandClass : CommandClass) (inquiry : Inquiry) (transaction : UInt8) :
    Fails (fun p => p.driverFault ≠ none)
      (exchange line commandClass inquiry transaction) := by
  refine .bind (J := fun _ p => p.driverFault ≠ none) (.read fun _ _ => id) fun c => ?_
  split_ifs
  · exact (fails_sendMessage _ _).first
  · exact (fails_sendMessage _ _).first

theorem fails_branchExchange (lower upper : ℕ) (transaction : UInt8) :
    Fails (fun p => p.driverFault ≠ none) (branchExchange line lower upper transaction) := by
  refine .bind (J := fun _ p => p.driverFault ≠ none) (.read fun _ _ => id) fun c => ?_
  exact (fails_sendMessage _ _).first

theorem agrees_exchange_failed (commandClass : CommandClass) (inquiry : Inquiry)
    (transaction : UInt8) :
    Agrees Failed (exchange line commandClass inquiry transaction) (Alike fun _ _ => True) := by
  have hsend (message : Message) (turnaround : Turnaround)
      {next : Unit → ControllerM σ ε (Option Response)} :
      Agrees Failed (sendMessage line message turnaround >>= next) (Alike fun _ _ => True) :=
    .of_fails (agrees_sendMessage Marks.noted_true message turnaround)
      (fails_sendMessage message turnaround)
  refine .then .read (fun c => ?_) fun _ _ h => h.1
  exact .ite (hsend _ _) (hsend _ _)

theorem agrees_branchExchange_failed (lower upper : ℕ) (transaction : UInt8) :
    Agrees Failed (branchExchange line lower upper transaction) (Alike fun _ _ => True) := by
  refine .then .read (fun c => ?_) fun _ _ h => h.1
  exact .of_fails (agrees_sendMessage Marks.noted_true _ _) (fails_sendMessage _ _)

/-! ## Any fault -/

theorem ensures_sendMessage_pending (message : Message) {turnaround : Turnaround}
    (hturn : turnaround ≠ .none) :
    Ensures Pending (sendMessage line message turnaround)
      (fun _ p => p.Pending ∧ p.engine.Listening) fun _ _ => True := by
  refine .bind (.onPort ((Port.kept_pending line).ensures_write (fun _ _ => id) message.encode))
    fun count => ?_
  split_ifs
  · exact .throw fun _ _ => trivial
  refine .bind (.onPort (Port.ensures_sendFrame_pending _ true hturn)) fun _ => ?_
  refine .bind (Q := fun _ p => p.Pending ∧ p.TurnsAround) (.config fun _ => id) fun config => ?_
  exact .onPort (Port.ensures_waitSent_pending _)

/-- The fault is told instead of the response. -/
theorem fails_exchange_pending (commandClass : CommandClass) {inquiry : Inquiry}
    (hunicast : inquiry.destination.isBroadcast = false) (transaction : UInt8) :
    Fails Pending (exchange line commandClass inquiry transaction) := by
  have hkept := (Port.kept_pending line).and (Port.kept_listening line)
  refine .bind (J := fun _ => Pending) (.read fun _ _ => id) fun c => ?_
  rw [if_neg (by rw [hunicast]; exact Bool.false_ne_true)]
  refine .bind (ensures_sendMessage_pending _ nofun) fun _ => ?_
  refine .bind (.onPort hkept.ensures_now) fun start => ?_
  refine .bind (J := fun _ p => p.Pending ∧ p.engine.Listening) (.onPort (.get fun _ => id))
    fun p => ?_
  have hawait : Fails (fun p => p.Pending ∧ p.engine.Listening)
      (awaitResponse line commandClass inquiry transaction start p.patience) := by
    cases p.patience with
    | zero => exact .throw
    | succ turns =>
      refine .bind (J := fun _ p => p.Pending ∧ p.engine.Listening) (.config fun _ => id)
        fun config => ?_
      exact (Fails.onPort (Port.ensures_receive_pending _)).first
  exact hawait.first

/-- The fault is taken for a collision of answers. -/
theorem ensures_branchExchange_pending (lower upper : ℕ) (transaction : UInt8) :
    Ensures Pending (branchExchange line lower upper transaction)
      (fun branch _ => branch = .collision) fun _ _ => True := by
  refine .bind (Q := fun _ => Pending) (.read fun _ _ => id) fun c => ?_
  refine .bind (ensures_sendMessage_pending _ nofun) fun _ => ?_
  refine .bind (Q := fun _ p => p.Pending ∧ p.engine.Listening) (.config fun _ => id)
    fun config => ?_
  refine .bind (.tryPort (Port.ensures_receive_pending _)) fun result => ?_
  split
  · exact fun _ _ htimeout => absurd rfl htimeout
  · exact .pure fun _ _ => rfl
  · exact .pure fun _ _ => rfl
  · exact .pure fun _ _ => rfl
  · exact .throw fun _ _ => trivial
  · exact fun _ _ hnever => hnever.elim

/-! ## From an exchange to its result -/

variable {I : Port σ ε → Prop} {S : α → Prop}

/-- What is known of a result stands after the frame buffer has been put back. -/
theorem ensures_preserving_of_result (hI : Port.Kept line I)
    (htask : Ensures I task (fun a _ => S a) fun _ _ => True) :
    Ensures I (preserving line task) (fun a _ => S a) fun _ _ => True := by
  refine .bind (Q := fun _ => I) (.onPort (.step' (fun _ => hI.interrupted) fun _ => id))
    fun before => .bind htask.attempt fun result => ?_
  have hrestore (known : Prop) : Ensures (fun _ => known) (onPort (Port.restore line before))
      (fun _ _ => known) fun _ _ => True :=
    .onPort (.withFront (f := fun _ => ((), before)) (fun _ => id) (fun _ _ _ => trivial)
      fun _ h _ => h)
  split
  · exact .throw fun _ _ => trivial
  · cases result with
    | ok a => exact .bind (hrestore (S a)) fun _ => .conclude fun _ => id
    | error e => exact .bind (hrestore True) fun _ => .conclude fun _ => id

/-- The same of the lock that has been given up. -/
theorem ensures_withLock_of_result (hI : Port.Stable line I)
    (htask : Ensures I task (fun a _ => S a) fun _ _ => True) :
    Ensures I (withLock line task) (fun a _ => S a) fun _ _ => True := by
  refine .withLock ((keeps_enter hI).mono (fun _ => id) (fun _ _ => id) fun _ _ _ => trivial)
    htask fun result => ?_
  cases result <;> exact .step' (fun _ => id) fun _ => id

theorem fails_request_of_exchange (hI : Port.Unshared line I) {commandClass : CommandClass}
    {inquiry : Inquiry}
    (hexchange : ∀ transaction, Fails I (exchange line commandClass inquiry transaction)) :
    Fails I (request line commandClass inquiry) := by
  refine .bind (.onPort hI.ensures_nextTransaction) fun transaction => ?_
  refine ensures_withLock_of_result hI.stable ?_
  exact Fails.first (ensures_preserving_of_result hI.toKept (hexchange transaction))

theorem ensures_discover_of_exchange (hI : Port.Unshared line I) {lower upper : ℕ}
    {S : Discovery.Branch → Prop} (hexchange : ∀ transaction,
      Ensures I (branchExchange line lower upper transaction) (fun branch _ => S branch)
        fun _ _ => True) :
    Ensures I (discover line lower upper) (fun branch _ => S branch) fun _ _ => True := by
  refine .bind (.onPort hI.ensures_nextTransaction) fun transaction => ?_
  exact ensures_withLock_of_result hI.stable
    (ensures_preserving_of_result hI.toKept (hexchange transaction))

theorem Ensures.of_ok (h : Ensures I task (fun a _ => S a) fun _ _ => True) {c : Controller}
    {p : Port σ ε} (hp : I p) {a : α} (hok : (runWith task (c, p)).1 = .ok a) : S a := by
  have hend := h c p hp
  generalize runWith task (c, p) = out at hend hok
  obtain ⟨_ | _, _⟩ := out
  · cases hok
  · cases hok
    exact hend

/-! ## Faults from before -/

/-- The result of what a controller does. -/
def resultOf (task : ControllerM σ ε α) (c : Controller) (p : Port σ ε) :
    Except (RequestError ε) α :=
  (runWith task (c, p)).1

theorem alike_withFaults (p : Port σ ε) {faults : Faults}
    (hR : R p.engine.marks { p.engine.marks with faults := faults }) :
    Alike R p (p.withFaults faults p.driverFault) :=
  ⟨rfl, rfl, hR⟩

/-- Two ports that tell the same give the same results. -/
theorem resultOf_withFaults (line : Transport σ ε) (c : Controller) {p : Port σ ε}
    {faults : Faults} {fault : Option ε}
    (hsame : (p.withFaults faults fault).popFault.1 = p.popFault.1) :
    (∀ commandClass inquiry,
      resultOf (request line commandClass inquiry) c (p.withFaults faults fault) =
        resultOf (request line commandClass inquiry) c p) ∧
    ∀ lower upper,
      resultOf (discover line lower upper) c (p.withFaults faults fault) =
        resultOf (discover line lower upper) c p := by
  -- an error of the driver hides the faults of the engine, which may differ then
  obtain ⟨rfl, hfailed | htold⟩ := Port.of_popFault_withFaults hsame
  · have hports : Failed p (p.withFaults faults p.driverFault) :=
      ⟨alike_withFaults p trivial, hfailed⟩
    have hsteady := steady_failed line
    refine ⟨fun commandClass inquiry => ?_, fun lower upper => ?_⟩
    · exact (agrees_request hsteady Marks.noted_true (fun _ _ h => h.1)
        (agrees_exchange_failed commandClass inquiry) c p _ hports).result
    · exact (agrees_discover hsteady Marks.noted_true (fun _ _ h => h.1)
        (agrees_branchExchange_failed lower upper) c p _ hports).result
  · have hports : Alike (Told ε) p (p.withFaults faults p.driverFault) :=
      alike_withFaults p ⟨rfl, htold⟩
    have hsteady := Port.steady_alike line (noted_told ε)
    refine ⟨fun commandClass inquiry => ?_, fun lower upper => ?_⟩
    · exact (agrees_request hsteady (noted_told ε) (fun _ _ => id)
        (agrees_exchange commandClass inquiry) c p _ hports).result
    · exact (agrees_discover hsteady (noted_told ε) (fun _ _ => id)
        (agrees_branchExchange lower upper) c p _ hports).result

/-- What a fault from before does to a request: nothing, unless it is told. If it is told, no
request is answered and no search ends with anything but a collision, and an error of the driver
does not even let the request be sent. -/
theorem stale_faults (line : Transport σ ε) (c : Controller) (p : Port σ ε) :
    (∀ faults fault, (p.withFaults faults fault).popFault.1 = p.popFault.1 →
      (∀ commandClass inquiry,
        resultOf (request line commandClass inquiry) c (p.withFaults faults fault) =
          resultOf (request line commandClass inquiry) c p) ∧
      ∀ lower upper,
        resultOf (discover line lower upper) c (p.withFaults faults fault) =
          resultOf (discover line lower upper) c p) ∧
    (∀ faults commandClass inquiry, inquiry.destination.isBroadcast = true →
      resultOf (request line commandClass inquiry) c (p.withFaults faults p.driverFault) =
        resultOf (request line commandClass inquiry) c p) ∧
    (p.popFault.1 ≠ none →
      (∀ commandClass inquiry, inquiry.destination.isBroadcast = false → ∀ reply,
        resultOf (request line commandClass inquiry) c p ≠ .ok reply) ∧
      ∀ lower upper branch,
        resultOf (discover line lower upper) c p = .ok branch → branch = .collision) ∧
    (p.driverFault ≠ none →
      (∀ commandClass inquiry reply,
        resultOf (request line commandClass inquiry) c p ≠ .ok reply) ∧
      ∀ lower upper branch, resultOf (discover line lower upper) c p ≠ .ok branch) := by
  refine ⟨fun faults fault hsame => resultOf_withFaults line c hsame,
    fun faults commandClass inquiry hbroadcast => ?_, fun hpending => ?_, fun hfault => ?_⟩
  · exact (agrees_request (Port.steady_alike line Marks.noted_true) Marks.noted_true (fun _ _ => id)
      (agrees_exchange_broadcast Marks.noted_true commandClass hbroadcast) c p _
      (alike_withFaults p trivial)).result
  · have hp : p.Pending := Port.pending_iff.mpr hpending
    refine ⟨fun commandClass inquiry hunicast reply hok => ?_, fun lower upper branch hok => ?_⟩
    · exact (fails_request_of_exchange (Port.unshared_pending line)
        (fails_exchange_pending commandClass hunicast)).of_ok hp hok
    · exact (ensures_discover_of_exchange (Port.unshared_pending line)
        (ensures_branchExchange_pending lower upper)).of_ok hp hok
  · refine ⟨fun commandClass inquiry reply hok => ?_, fun lower upper branch hok => ?_⟩
    · exact (fails_request_of_exchange (Port.unshared_driverFault line)
        (fails_exchange commandClass inquiry)).of_ok hfault hok
    · exact (ensures_discover_of_exchange (Port.unshared_driverFault line)
        (fails_branchExchange lower upper)).of_ok hfault hok

/-- The world of a device that answers the next request. -/
def answering : Simulation.World :=
  { Simulation.World.quiet with
    step := 200000
    autoDone := true
    replies := [[.respond {
      type := .ack
      data := .empty
      messageCount := 0
      transactionOffset := 0
      source := none
      destination := none
      pid := none
      patches := []
      fixChecksum := false }]] }

/-- The same world without the device. -/
def unanswering : Simulation.World :=
  { answering with replies := [] }

/-- A new port. -/
def fresh (world : Simulation.World) : Port Simulation.World Simulation.LineCall where
  config := {}
  engine := Engine.create 64 {}
  world := world
  driverFault := none
  waiting := false
  lockDepth := 0
  transaction := 0
  patience := 8

/-- The port after a break and a damaged byte, of which nobody has been told. -/
def disturbed (world : Simulation.World) : Port Simulation.World Simulation.LineCall :=
  ((fresh world).onEvent Simulation.line .breakDetected).onEvent Simulation.line .parityError

theorem stale_faults_disturbed :
    let p := disturbed answering
    let noisy := p.withFaults { framingError := true, driverError := true } none
    let calm := p.withFaults {} p.driverFault
    let failed := p.withFaults {} (some .read)
    let ask := request Simulation.line .get question
    let tell := request Simulation.line .get (.bare .broadcast Pid.deviceInfo)
    (noisy.popFault.1 = p.popFault.1 ∧ resultOf ask asker noisy = resultOf ask asker p) ∧
    resultOf tell asker calm = resultOf tell asker p ∧
    (p.popFault.1 ≠ none ∧ ∀ reply, resultOf ask asker p ≠ .ok reply) ∧
    (failed.driverFault ≠ none ∧ ∀ reply, resultOf ask asker failed ≠ .ok reply) := by
  have hsame : ((disturbed answering).withFaults { framingError := true, driverError := true }
      none).popFault.1 = (disturbed answering).popFault.1 := by decide +kernel
  have hpending : (disturbed answering).popFault.1 ≠ none := by decide +kernel
  have hfailed : ((disturbed answering).withFaults {} (some .read)).driverFault ≠ none :=
    Option.some_ne_none _
  obtain ⟨hsteady, hbroadcast, hstale, -⟩ :=
    stale_faults Simulation.line asker (disturbed answering)
  obtain ⟨-, -, -, hdriver⟩ :=
    stale_faults Simulation.line asker ((disturbed answering).withFaults {} (some .read))
  exact ⟨⟨hsame, (hsteady _ _ hsame).1 .get question⟩, hbroadcast {} .get _ rfl,
    ⟨hpending, (hstale hpending).1 .get question rfl⟩, hfailed, (hdriver hfailed).1 .get question⟩

/-- The port is as it was opened and has met a break and a damaged byte. Whether its owner has asked
for the fault since decides on a request that is answered, and on a search that nobody answers. -/
theorem request_misled :
    let told := (disturbed answering).popFault.2
    let toldAlone := (disturbed unanswering).popFault.2
    Port.create 64 {} 8 answering = .ok (fresh answering) ∧
    Port.create 64 {} 8 unanswering = .ok (fresh unanswering) ∧
    told.engine.isSending = false ∧ toldAlone.engine.isSending = false ∧
    disturbed answering = told.withFaults { framingError := true } none ∧
    disturbed unanswering = toldAlone.withFaults { framingError := true } none ∧
    resultOf (request Simulation.line .get question) asker told =
      .ok (.complete ⟨Pid.deviceInfo, 0, .empty⟩) ∧
    resultOf (request Simulation.line .get question) asker (disturbed answering) =
      .error (.port .framing) ∧
    resultOf (discover Simulation.line 0 0xFFFFFFFFFFFF) asker toldAlone = .ok .nobody ∧
    resultOf (discover Simulation.line 0 0xFFFFFFFFFFFF) asker (disturbed unanswering) =
      .ok .collision := by
  refine ⟨rfl, rfl, rfl, rfl, rfl, rfl, ?_, ?_, ?_, ?_⟩ <;> decide +kernel

end Controller

end LightingBus
