import LightingBus.Proofs.Controller.Returns
import LightingBus.Proofs.Controller.StaleFaults

/-!
# What the reply to a request says

A controller that waits for a response reads frames until one of them ends the wait, or no further
one comes. Its result is what the last frame says: a reply, if that frame is the response to the
request.

1. `opening` is what a request does before it waits, `framesRead` are the frames it reads then.
2. `IsResponse` is what a packet has to be to count as the response. `awaitResponse_eq_ok_iff`: a
   wait ends with a response exactly if the last frame is one.
3. `resultOf_request` leads the wait through the lock and the putting back of the frame buffer.
4. `reply_iff_response` says what is returned: the sub-device and the parameter of a response are
   not compared with those of the request (`request_misattributed`).
-/

namespace LightingBus

variable {σ ε α β : Type}

/-- The error is what a device has answered; all others say that nothing was answered. -/
def RequestError.Answered : RequestError ε → Prop
  | .dataMalformed | .refusalMalformed | .notReady _ | .notAcknowledged _ => True
  | .busy | .notMatching | .responseInvalid | .port _ => False

theorem RequestError.not_answered_ofPort (e : PortError ε) : ¬ (ofPort e).Answered := by
  cases e <;> exact id

theorem RequestError.not_answered_ofDecodeError (e : Packet.DecodeError) :
    ¬ (ofDecodeError e : RequestError ε).Answered := by
  cases e <;> exact id

namespace Controller

/-! ## The controller itself -/

/-- A task that does not change the controller. -/
def Inert (task : ControllerM σ ε α) : Prop :=
  ∀ s, (runWith task s).2.1 = s.1

section Inert

variable {task : ControllerM σ ε α}

theorem Inert.bind {next : α → ControllerM σ ε β} (h : Inert task) (hnext : ∀ a, Inert (next a)) :
    Inert (task >>= next) := by
  intro s
  have hs := h s
  rw [runWith_bind]
  generalize runWith task s = out at hs
  obtain ⟨_ | a, s'⟩ := out
  · exact hs
  · exact (hnext a s').trans hs

theorem Inert.pure {a : α} : Inert (pure a : ControllerM σ ε α) := fun _ => rfl

theorem Inert.throw {e : RequestError ε} : Inert (throw e : ControllerM σ ε α) := fun _ => rfl

theorem Inert.conclude {result : Except (RequestError ε) α} :
    Inert (conclude result : ControllerM σ ε α) := fun _ => rfl

theorem Inert.onPort {task : PortM σ ε α} : Inert (onPort task) := fun _ => rfl

theorem Inert.tryPort {task : PortM σ ε α} : Inert (tryPort task) := fun _ => rfl

theorem Inert.read : Inert (getThe Controller : ControllerM σ ε Controller) := fun _ => rfl

theorem Inert.config : Inert (config : ControllerM σ ε LineConfig) := fun _ => rfl

end Inert

variable (line : Transport σ ε)

theorem inert_readAnswer : Inert (readAnswer line) :=
  .bind .config fun _ => .bind .onPort fun _ => .onPort

theorem inert_judge (commandClass : CommandClass) (inquiry : Inquiry) (transaction : UInt8)
    (start : UInt64) (frame : Bytes) :
    Inert (judge line commandClass inquiry transaction start frame) := by
  unfold judge
  split
  · exact .throw
  · exact .throw
  · split_ifs
    · exact .bind .read fun _ => .conclude
    · refine .bind .onPort fun _ => .bind .config fun _ => ?_
      split_ifs
      · exact .throw
      · exact .pure

theorem inert_enter : Inert (enter line) := by
  refine .bind .read fun c => ?_
  split_ifs
  · exact .onPort
  · refine .bind .config fun _ => .bind .tryPort fun result => ?_
    split
    · exact .pure
    · exact .throw
    · exact .throw

theorem inert_sendMessage (message : Message) (turnaround : Turnaround) :
    Inert (sendMessage line message turnaround) := by
  refine .bind .onPort fun count => ?_
  split_ifs
  · exact .throw
  · exact .bind .onPort fun _ => .bind .config fun _ => .onPort

/-! ## Responses -/

/-- A response counts as the response to a request: it has the number and the class of the request,
is for this controller and comes from the device that was asked. -/
structure IsResponse (c : Controller) (commandClass : CommandClass) (inquiry : Inquiry)
    (transaction : UInt8) (response : Response) : Prop where
  transaction : response.transaction = transaction
  destination : response.destination = .device c.uid
  source : ∀ uid, inquiry.destination = .device uid → response.source = uid
  commandClass : response.commandClass = commandClass

theorem checkResponse_eq_ok_iff (c : Controller) (commandClass : CommandClass) (inquiry : Inquiry)
    (response checked : Response) :
    (c.checkResponse commandClass inquiry response : Except (RequestError ε) Response) =
        .ok checked ↔
      response = checked ∧ response.destination = .device c.uid ∧
        (∀ uid, inquiry.destination = .device uid → response.source = uid) ∧
        response.commandClass = commandClass := by
  have hsource : (inquiry.destination.uid?.any fun uid => uid != response.source) = true ↔
      ¬ ∀ uid, inquiry.destination = .device uid → response.source = uid := by
    simp only [← Address.uid?_eq_some_iff]
    cases inquiry.destination.uid? with
    | none => exact iff_of_false Bool.false_ne_true fun h => h nofun
    | some uid =>
      rw [Option.any_some, bne_iff_ne, not_iff_not]
      exact ⟨fun h _ hsome => h ▸ Option.some.inj hsome, fun h => (h uid rfl).symm⟩
  unfold checkResponse
  split_ifs with hdestination hother hclass
  · exact iff_of_false nofun fun h => hdestination h.2.1
  · exact iff_of_false nofun fun h => hsource.mp hother h.2.2.1
  · exact iff_of_false nofun fun h => hclass h.2.2.2
  · constructor
    · rintro ⟨⟩
      exact ⟨rfl, not_not.mp hdestination, not_not.mp (mt hsource.mpr hother), not_not.mp hclass⟩
    · rintro ⟨rfl, -⟩
      rfl

/-- A frame ends the wait with a response exactly if it is the response. -/
theorem judge_eq_some_iff (c : Controller) (p : Port σ ε) (commandClass : CommandClass)
    (inquiry : Inquiry) (transaction : UInt8) (start : UInt64) (frame : Bytes)
    (response : Response) :
    (runWith (judge line commandClass inquiry transaction start frame) (c, p)).1 =
        .ok (some response) ↔
      Message.decode frame = .ok (.response response) ∧
        c.IsResponse commandClass inquiry transaction response := by
  unfold judge
  split
  next e hframe =>
    rw [hframe]
    exact iff_of_false nofun nofun
  next request hframe =>
    rw [hframe]
    exact iff_of_false nofun fun h => by cases h.1
  next received hframe =>
    rw [hframe]
    split_ifs with htransaction
    · have hchecked := c.checkResponse_eq_ok_iff (ε := ε) commandClass inquiry received response
      change (c.checkResponse commandClass inquiry received).map some = .ok (some response) ↔ _
      generalize c.checkResponse commandClass inquiry received = checked at hchecked
      have hmap : checked.map some = .ok (some response) ↔ checked = .ok response := by
        cases checked <;> simp [Except.map]
      rw [hmap, hchecked]
      constructor
      · rintro ⟨rfl, hdestination, hsource, hclass⟩
        exact ⟨rfl, htransaction, hdestination, hsource, hclass⟩
      · rintro ⟨⟨⟩, h⟩
        exact ⟨rfl, h.destination, h.source, h.commandClass⟩
    · refine iff_of_false ?_ ?_
      · change (runWith (if p.config.transactionTimeout.toUInt64 ≤ (line.now p.world).1 - start then
          throw (.port .timeout) else pure none) (c, Port.ticked line p)).1 ≠ _
        split_ifs <;> nofun
      · rintro ⟨⟨⟩, h⟩
        exact htransaction h.transaction

/-! ## The frames that are read -/

/-- The frames that are read while the response to a request is waited for. -/
def awaitedFrames (commandClass : CommandClass) (inquiry : Inquiry) (transaction : UInt8)
    (start : UInt64) : ℕ → Controller × Port σ ε → List Bytes
  | 0, _ => []
  | turns + 1, s =>
    match runWith (readAnswer line) s with
    | (.error _, _) => []
    | (.ok frame, s) =>
      frame :: match runWith (judge line commandClass inquiry transaction start frame) s with
        | (.ok none, s) => awaitedFrames commandClass inquiry transaction start turns s
        | _ => []

section Await

variable {line} {commandClass : CommandClass} {inquiry : Inquiry} {transaction : UInt8}
  {start : UInt64}

/-- A wait ends with a response exactly if the last frame that was read is the response. -/
theorem awaitResponse_eq_ok_iff (turns : ℕ) (s : Controller × Port σ ε) (response : Response) :
    (runWith (awaitResponse line commandClass inquiry transaction start turns) s).1 =
        .ok response ↔
      ∃ frame, (awaitedFrames line commandClass inquiry transaction start turns s).getLast? =
          some frame ∧
        Message.decode frame = .ok (.response response) ∧
        s.1.IsResponse commandClass inquiry transaction response := by
  induction turns generalizing s with
  | zero => exact iff_of_false (by rintro ⟨⟩) (by rintro ⟨_, ⟨⟩, -⟩)
  | succ turns ih =>
    rw [awaitResponse_succ, answerLook, bind_assoc, runWith_bind, awaitedFrames]
    have hreader := inert_readAnswer line s
    generalize runWith (readAnswer line) s = read at hreader
    obtain ⟨e | frame, c, p⟩ := read
    · exact iff_of_false (by rintro ⟨⟩) (by rintro ⟨_, ⟨⟩, -⟩)
    dsimp only at hreader ⊢
    subst hreader
    rw [runWith_bind]
    have hjudge := judge_eq_some_iff line s.1 p commandClass inquiry transaction start frame
      response
    have hjudger := inert_judge line commandClass inquiry transaction start frame (s.1, p)
    generalize runWith (judge line commandClass inquiry transaction start frame) (s.1, p) = judged
      at hjudge hjudger
    obtain ⟨e | _ | accepted, c, q⟩ := judged
    · -- the frame is no response
      refine iff_of_false (by rintro ⟨⟩) ?_
      rintro ⟨last, hlast, hresponse⟩
      cases hlast
      cases hjudge.mpr hresponse
    · dsimp only at hjudger ⊢
      subst hjudger
      have hskipped := mt hjudge.mpr (by rintro ⟨⟩)
      rw [ih, List.getLast?_cons]
      cases (awaitedFrames line commandClass inquiry transaction start turns (s.1, q)).getLast? with
      | none =>
        refine iff_of_false (by rintro ⟨_, ⟨⟩, -⟩) ?_
        rintro ⟨last, hlast, hresponse⟩
        cases hlast
        exact hskipped hresponse
      | some last => rfl
    · have haccepted : (Except.ok accepted : Except (RequestError ε) Response) = .ok response ↔
          (Except.ok (some accepted) : Except (RequestError ε) _) = .ok (some response) := by
        simp
      refine (haccepted.trans hjudge).trans ?_
      constructor
      · exact fun hresponse => ⟨frame, rfl, hresponse⟩
      · rintro ⟨last, hlast, hresponse⟩
        cases hlast
        exact hresponse

end Await

/-! ## Errors that nobody has answered -/

/-- Whatever a task does, it does not fail with what a device has answered. -/
def Unanswered (task : ControllerM σ ε α) : Prop :=
  Ensures (fun _ => True) task (fun _ _ => True) fun e _ => ¬ e.Answered

section Unanswered

variable {line} {task : ControllerM σ ε α}

theorem Unanswered.bind {next : α → ControllerM σ ε β} (h : Unanswered task)
    (hnext : ∀ a, Unanswered (next a)) : Unanswered (task >>= next) :=
  Ensures.bind h hnext

theorem Unanswered.pure {a : α} : Unanswered (pure a : ControllerM σ ε α) :=
  Ensures.pure fun _ => id

theorem Unanswered.throw {e : RequestError ε} (h : ¬ e.Answered) :
    Unanswered (throw e : ControllerM σ ε α) :=
  Ensures.throw fun _ _ => h

theorem Unanswered.read : Unanswered (getThe Controller : ControllerM σ ε Controller) :=
  Ensures.read fun _ _ => id

theorem Unanswered.config : Unanswered (config : ControllerM σ ε LineConfig) :=
  Ensures.config fun _ => id

theorem Unanswered.onPort {task : PortM σ ε α} : Unanswered (onPort task) := by
  refine Ensures.onPort fun p _ => ?_
  generalize Port.exec task p = out
  obtain ⟨e | _, _⟩ := out
  · exact RequestError.not_answered_ofPort e
  · trivial

theorem Unanswered.tryPort {task : PortM σ ε α} : Unanswered (tryPort task) :=
  fun _ _ _ => trivial

theorem Unanswered.ends (h : Unanswered task) (s : Controller × Port σ ε) {e : RequestError ε}
    (he : (runWith task s).1 = .error e) : ¬ e.Answered := by
  have hend := h s.1 s.2 trivial
  generalize runWith task s = out at hend he
  obtain ⟨_ | _, _⟩ := out
  · cases he
    exact hend
  · cases he

theorem unanswered_enter : Unanswered (enter line) := by
  refine .bind .read fun c => ?_
  split_ifs
  · exact .onPort
  · refine .bind .config fun config => .bind .tryPort fun result => ?_
    split
    · exact .pure
    · exact .throw id
    · exact .throw id

theorem unanswered_sendMessage (message : Message) (turnaround : Turnaround) :
    Unanswered (sendMessage line message turnaround) := by
  refine .bind .onPort fun count => ?_
  split_ifs
  · exact .throw id
  · exact .bind .onPort fun _ => .bind .config fun _ => .onPort

theorem unanswered_judge (commandClass : CommandClass) (inquiry : Inquiry) (transaction : UInt8)
    (start : UInt64) (frame : Bytes) :
    Unanswered (judge line commandClass inquiry transaction start frame) := by
  unfold judge
  split
  · exact .throw (RequestError.not_answered_ofDecodeError _)
  · exact .throw id
  · split_ifs
    · refine .bind .read fun c => Ensures.conclude fun p hp => ?_
      unfold checkResponse
      split_ifs
      · exact id
      · exact id
      · exact id
      · exact hp
    · refine .bind .onPort fun _ => .bind .config fun _ => ?_
      split_ifs
      · exact .throw id
      · exact .pure

theorem unanswered_awaitResponse (commandClass : CommandClass) (inquiry : Inquiry)
    (transaction : UInt8) (start : UInt64) (turns : ℕ) :
    Unanswered (awaitResponse line commandClass inquiry transaction start turns) := by
  induction turns with
  | zero => exact .throw id
  | succ turns ih =>
    rw [awaitResponse_succ]
    refine .bind (.bind (.bind .config fun _ => .bind .onPort fun _ => .onPort) fun frame =>
      unanswered_judge commandClass inquiry transaction start frame) fun response => ?_
    cases response with
    | none => exact ih
    | some response => exact .pure

theorem unanswered_awaitAnswer (commandClass : CommandClass) (inquiry : Inquiry)
    (transaction : UInt8) : Unanswered (awaitAnswer line commandClass inquiry transaction) :=
  .bind .onPort fun _ => .bind .onPort fun _ => unanswered_awaitResponse _ _ _ _ _

end Unanswered

/-! ## The lock and the frame buffer -/

section Result

variable {line} {task : ControllerM σ ε α}

theorem runWith_onPort (task : PortM σ ε α) (c : Controller) (p : Port σ ε) :
    runWith (onPort task) (c, p) =
      ((Port.exec task p).1.mapError .ofPort, c, (Port.exec task p).2) := rfl

theorem runWith_attempt (task : ControllerM σ ε α) (s : Controller × Port σ ε) :
    runWith (attempt task) s = (.ok (runWith task s).1, (runWith task s).2) := rfl

/-- The result of what is done with the lock held. -/
theorem result_withLock (s : Controller × Port σ ε) :
    (runWith (withLock line task) s).1 =
      match runWith (enter line) s with
      | (.error e, _) => .error e
      | (.ok _, s) => (runWith task s).1 := by
  unfold withLock
  rw [runWith_bind]
  generalize runWith (enter line) s = entered
  obtain ⟨e | _, s⟩ := entered
  · rfl
  · rfl

theorem runWith_preserving (line : Transport σ ε) (task : ControllerM σ ε α) (c : Controller)
    (p : Port σ ε) : ∃ before, runWith (preserving line task) (c, p) =
      let out := runWith task (c, Port.interrupted line p)
      runWith (match out.1 with
        | .error (.port .stalled) => throw (.port .stalled)
        | result => do
          onPort (Port.restore line before)
          conclude result) out.2 :=
  ⟨(Port.interrupted line p).engine.front, rfl⟩

/-- If no frame is being sent, the frame buffer can be put back, and the result stays. -/
theorem result_preserving_of_idle {c : Controller} {p : Port σ ε}
    (hidle : (Port.interrupted line
      (runWith task (c, Port.interrupted line p)).2.2).engine.isSending = false) :
    (runWith (preserving line task) (c, p)).1 =
      (runWith task (c, Port.interrupted line p)).1 := by
  obtain ⟨before, hrun⟩ := runWith_preserving line task c p
  rw [hrun]
  generalize runWith task (c, Port.interrupted line p) = out at hidle
  obtain ⟨result, c, q⟩ := out
  have hrestore : (Port.exec (Port.restore line before) q).1 = .ok () := by
    rw [Port.restore, Port.exec_withFront]
    dsimp only
    rw [if_neg (by rw [hidle]; exact Bool.false_ne_true)]
  dsimp only
  split
  · rfl
  · rw [runWith_bind]
    rw [runWith_onPort, hrestore]
    rfl

theorem preserving_fails {c : Controller} {p : Port σ ε} {e : RequestError ε}
    (h : (runWith task (c, Port.interrupted line p)).1 = .error e) (he : ¬ e.Answered) :
    ∃ e, (runWith (preserving line task) (c, p)).1 = .error e ∧ ¬ e.Answered := by
  obtain ⟨before, hrun⟩ := runWith_preserving line task c p
  rw [hrun]
  dsimp only
  rw [h]
  split
  · exact ⟨_, rfl, id⟩
  · rw [runWith_bind]
    have hrestore : Unanswered (onPort (Port.restore line before)) := .onPort
    cases hout : runWith (onPort (Port.restore line before))
      (runWith task (c, Port.interrupted line p)).2 with | mk result s
    cases result with
    | error e => exact ⟨e, rfl, hrestore.ends _ (congrArg Prod.fst hout)⟩
    | ok => exact ⟨e, rfl, he⟩

end Result

/-! ## Requests -/

/-- What a request does before it waits for the response. -/
def opening (commandClass : CommandClass) (inquiry : Inquiry) : ControllerM σ ε UInt8 := do
  let transaction ← onPort (Port.nextTransaction line)
  enter line
  let _ ← onPort (Port.snapshot line)
  let c ← getThe Controller
  sendMessage line (c.message commandClass inquiry transaction) .receive
  pure transaction

/-- What a request does until the wait for the response is over. -/
def converse (commandClass : CommandClass) (inquiry : Inquiry) : ControllerM σ ε Response := do
  let transaction ← opening line commandClass inquiry
  awaitAnswer line commandClass inquiry transaction

/-- What a request does with the lock held. -/
def answered (commandClass : CommandClass) (inquiry : Inquiry) (transaction : UInt8) :
    ControllerM σ ε Reply := do
  match ← preserving line (exchange line commandClass inquiry transaction) with
  | none => pure .broadcast
  | some response =>
    modifyThe Controller fun c => { c with lastMessageCount := response.messageCount }
    conclude (evaluate response)

/-- The frames that a request reads. -/
def framesRead (commandClass : CommandClass) (inquiry : Inquiry) (c : Controller)
    (p : Port σ ε) : List Bytes :=
  match runWith (opening line commandClass inquiry) (c, p) with
  | (.error _, _) => []
  | (.ok transaction, c, p) =>
    awaitedFrames line commandClass inquiry transaction (line.now p.world).1 p.patience
      (c, Port.ticked line p)

section Request

variable (commandClass : CommandClass) {inquiry : Inquiry}

theorem inert_opening (inquiry : Inquiry) : Inert (opening line commandClass inquiry) :=
  .bind .onPort fun _ => .bind (inert_enter line) fun _ => .bind .onPort fun _ =>
    .bind .read fun _ => .bind (inert_sendMessage line _ _) fun _ => .pure

/-- Once a message is sent, no frame is being sent any more. -/
theorem sendMessage_idle (message : Message) (turnaround : Turnaround) :
    Ensures (fun _ => True) (sendMessage line message turnaround)
      (fun _ p => p.engine.isSending = false) fun _ _ => True := by
  have htrivial {α : Type} (task : PortM σ ε α) : Ensures (fun _ => True) (onPort task)
      (fun _ _ => True) fun _ _ => True :=
    Unanswered.onPort.mono (fun _ => id) (fun _ _ => id) fun _ _ _ => trivial
  refine .bind (htrivial _) fun count => ?_
  split_ifs
  · exact .throw fun _ => id
  refine .bind (htrivial _) fun _ => .bind (Q := fun _ _ => True) (.config fun _ => id)
    fun config => .onPort fun p _ => ?_
  have hsent : Port.Ensures (Port.Held p.lockDepth True fun p => True ∨ p.Settled)
      (Port.waitSent line config.transactionTimeout)
      (fun _ => Port.Held p.lockDepth True fun p => p.engine.isSending = false)
      fun e => Port.Held p.lockDepth (True ∧ e ≠ .stalled)
        fun p => True ∨ p.engine.isSending = false := Port.ensures_waitSent_held _
  exact (hsent p ⟨rfl, fun _ => .inl trivial⟩).mono (fun _ _ h => h.2 trivial) fun _ _ _ => trivial

variable {line} in
/-- To wait for an answer is to receive frames. -/
theorem ensures_awaitAnswer {I : Port σ ε → Prop} (hI : Port.Kept.Receiving line I)
    (inquiry : Inquiry) (transaction : UInt8) :
    Ensures I (awaitAnswer line commandClass inquiry transaction) (fun _ => I) fun _ => I := by
  refine .bind (.onPort hI.ensures_now) fun start => ?_
  refine .bind (Q := fun _ => I) (.onPort (.get fun _ => id)) fun p => ?_
  exact ensures_awaitResponse hI commandClass inquiry transaction start p.patience

theorem runWith_exchange (hunicast : inquiry.destination.isBroadcast = false)
    (transaction : UInt8) (c : Controller) (p : Port σ ε) :
    runWith (exchange line commandClass inquiry transaction) (c, p) =
      match runWith (sendMessage line (c.message commandClass inquiry transaction) .receive)
        (c, p) with
      | (.error e, s) => (.error e, s)
      | (.ok _, s) =>
        let answered := runWith (awaitAnswer line commandClass inquiry transaction) s
        (answered.1.map some, answered.2) := by
  rw [exchange_eq, runWith_read, if_neg (by rw [hunicast]; exact Bool.false_ne_true), runWith_bind]
  generalize runWith (sendMessage line (c.message commandClass inquiry transaction) .receive)
    (c, p) = sent
  obtain ⟨_ | _, s⟩ := sent
  · rfl
  · dsimp only
    rw [map_eq_pure_bind, runWith_bind]
    generalize runWith (awaitAnswer line commandClass inquiry transaction) s = answered
    obtain ⟨_ | _, _⟩ := answered <;> rfl

/-- The frame buffer can be put back after the wait, so the result of the wait stays. -/
theorem result_preserving_exchange (hunicast : inquiry.destination.isBroadcast = false)
    (transaction : UInt8) (c : Controller) (p : Port σ ε) :
    match runWith (sendMessage line (c.message commandClass inquiry transaction) .receive)
        (c, Port.interrupted line p) with
    | (.error _, _) => ∃ e, (runWith (preserving line
        (exchange line commandClass inquiry transaction)) (c, p)).1 = .error e ∧ ¬ e.Answered
    | (.ok _, s) => (runWith (preserving line
        (exchange line commandClass inquiry transaction)) (c, p)).1 =
        (runWith (awaitAnswer line commandClass inquiry transaction) s).1.map some := by
  have hexchange := runWith_exchange line commandClass hunicast transaction c
    (Port.interrupted line p)
  have hsend := sendMessage_idle line (c.message commandClass inquiry transaction) .receive c
    (Port.interrupted line p) trivial
  have hunanswered : Unanswered (sendMessage line (c.message commandClass inquiry transaction)
    .receive) := unanswered_sendMessage _ _
  have hfails := fun e => hunanswered.ends (c, Port.interrupted line p) (e := e)
  dsimp only at hexchange
  generalize runWith (sendMessage line (c.message commandClass inquiry transaction) .receive)
    (c, Port.interrupted line p) = sent at hexchange hsend hfails ⊢
  obtain ⟨e | _, s⟩ := sent
  · exact preserving_fails (congrArg Prod.fst hexchange) (hfails e rfl)
  · have hidle : (runWith (awaitAnswer line commandClass inquiry
        transaction) s).2.2.engine.isSending = false :=
      (ensures_awaitAnswer commandClass (Port.receiving_idle line) inquiry transaction s.1 s.2
        hsend).both
    dsimp only at hexchange ⊢
    rw [result_preserving_of_idle, hexchange]
    rw [hexchange]
    exact (Port.receiving_idle line).toKept.interrupted hidle

theorem result_answered (hunicast : inquiry.destination.isBroadcast = false) (transaction : UInt8)
    (c : Controller) (p : Port σ ε) :
    match runWith (sendMessage line (c.message commandClass inquiry transaction) .receive)
        (c, Port.interrupted line p) with
    | (.error _, _) => ∃ e, (runWith (answered line commandClass inquiry
        transaction) (c, p)).1 = .error e ∧ ¬ e.Answered
    | (.ok _, s) => (runWith (answered line commandClass inquiry transaction) (c, p)).1 =
        (runWith (awaitAnswer line commandClass inquiry transaction) s).1.bind evaluate := by
  have hpreserved := result_preserving_exchange line commandClass hunicast transaction c p
  unfold answered
  rw [runWith_bind]
  generalize runWith (preserving line (exchange line commandClass inquiry transaction)) (c, p) =
    preserved at hpreserved ⊢
  obtain ⟨result, s₁⟩ := preserved
  generalize runWith (sendMessage line (c.message commandClass inquiry transaction) .receive)
    (c, Port.interrupted line p) = sent at hpreserved ⊢
  obtain ⟨e | _, s⟩ := sent
  · obtain ⟨e, rfl, he⟩ := hpreserved
    exact ⟨e, rfl, he⟩
  · dsimp only at hpreserved ⊢
    subst hpreserved
    cases (runWith (awaitAnswer line commandClass inquiry transaction) s).1 <;> rfl

/-- The port once the number of the next request is taken. -/
def numbered (p : Port σ ε) : Port σ ε :=
  { Port.interrupted line p with transaction := (Port.interrupted line p).transaction + 1 }

theorem runWith_request (inquiry : Inquiry) (c : Controller) (p : Port σ ε) :
    runWith (request line commandClass inquiry) (c, p) =
      runWith (withLock line (answered line commandClass inquiry
        (Port.interrupted line p).transaction)) (c, numbered line p) := by
  rw [request, runWith_bind]
  rfl

theorem runWith_opening (inquiry : Inquiry) (c : Controller) (p : Port σ ε) :
    runWith (opening line commandClass inquiry) (c, p) =
      let transaction := (Port.interrupted line p).transaction
      match runWith (enter line) (c, numbered line p) with
      | (.error e, s) => (.error e, s)
      | (.ok _, s) =>
        match runWith (sendMessage line (s.1.message commandClass inquiry transaction) .receive)
          (s.1, Port.interrupted line s.2) with
        | (.error e, s) => (.error e, s)
        | (.ok _, s) => (.ok transaction, s) := by
  change runWith (enter line >>= _) (c, numbered line p) = _
  rw [runWith_bind]
  generalize runWith (enter line) (c, numbered line p) = entered
  obtain ⟨_ | _, s⟩ := entered
  · rfl
  · change runWith (sendMessage line (s.1.message commandClass inquiry
      (Port.interrupted line p).transaction) .receive >>=
        fun _ => pure (Port.interrupted line p).transaction) (s.1, Port.interrupted line s.2) = _
    rw [runWith_bind]
    dsimp only
    generalize runWith (sendMessage line (s.1.message commandClass inquiry
      (Port.interrupted line p).transaction) .receive) (s.1, Port.interrupted line s.2) = sent
    obtain ⟨_ | _, _⟩ := sent <;> rfl

/-- A request whose message is sent gives what its wait gives, and means what the response means;
another one fails without an answer. -/
theorem resultOf_request (hunicast : inquiry.destination.isBroadcast = false) (c : Controller)
    (p : Port σ ε) :
    match runWith (opening line commandClass inquiry) (c, p) with
    | (.error _, _) => ∃ e, resultOf (request line commandClass inquiry) c p = .error e ∧
        ¬ e.Answered
    | (.ok transaction, s) => resultOf (request line commandClass inquiry) c p =
        (runWith (awaitAnswer line commandClass inquiry transaction) s).1.bind evaluate := by
  have hlocked : Unanswered (enter line) := unanswered_enter
  rw [resultOf, runWith_request, result_withLock, runWith_opening]
  cases hout : runWith (enter line) (c, numbered line p) with | mk entered s
  cases entered with
  | error e => exact ⟨e, rfl, hlocked.ends _ (congrArg Prod.fst hout)⟩
  | ok =>
    have hresult := result_answered line commandClass hunicast
      (Port.interrupted line p).transaction s.1 s.2
    dsimp only
    generalize runWith (sendMessage line (s.1.message commandClass inquiry
      (Port.interrupted line p).transaction) .receive) (s.1, Port.interrupted line s.2) = sent
      at hresult ⊢
    obtain ⟨_ | _, _⟩ := sent <;> exact hresult

end Request

/-! ## The last frame decides -/

theorem transaction_interrupted (p : Port σ ε) :
    (Port.interrupted line p).transaction = p.transaction := by
  have hkept : Port.Kept line fun q => q.transaction = p.transaction :=
    { onEvent := fun {q} event h => by
        rw [Port.onEvent_eq]
        exact h
      checkIdle := fun _ => id
      interrupts := id
      poll := id
      now := id }
  exact hkept.interrupted rfl

/-- The number of a request is the one that the port gives next. -/
theorem transaction_of_opening {commandClass : CommandClass} {inquiry : Inquiry} {c : Controller}
    {p : Port σ ε} {transaction : UInt8} {s : Controller × Port σ ε}
    (h : runWith (opening line commandClass inquiry) (c, p) = (.ok transaction, s)) :
    transaction = p.transaction := by
  have hnumber : Ensures (fun q => q.transaction = p.transaction)
      (opening line commandClass inquiry) (fun transaction _ => transaction = p.transaction)
      fun e _ => ¬ e.Answered := by
    refine .bind (Q := fun transaction _ => transaction = p.transaction ∧ True) (.onPort ?_)
      fun transaction => .given fun htransaction => ?_
    · exact .step' (fun q hq => (transaction_interrupted line q).trans hq)
        fun q hq => ⟨hq, trivial⟩
    · exact .bind unanswered_enter fun _ => .bind Unanswered.onPort fun _ =>
        .bind Unanswered.read fun c => .bind (unanswered_sendMessage _ _) fun _ =>
          .pure fun _ _ => htransaction
  have hend := hnumber c p rfl
  rw [h] at hend
  exact hend

/-- The last frame that a request reads is the response to it. -/
def Responds (commandClass : CommandClass) (inquiry : Inquiry) (c : Controller) (p : Port σ ε)
    (response : Response) : Prop :=
  ∃ frame, (framesRead line commandClass inquiry c p).getLast? = some frame ∧
    Message.decode frame = .ok (.response response) ∧
    c.IsResponse commandClass inquiry p.transaction response

variable {line} {commandClass : CommandClass} {inquiry : Inquiry} {c : Controller} {p : Port σ ε}
  {response : Response}

theorem Responds.unique {other : Response}
    (h : Responds line commandClass inquiry c p response)
    (hother : Responds line commandClass inquiry c p other) : other = response := by
  obtain ⟨frame, hlast, hframe, -⟩ := h
  obtain ⟨frame', hlast', hframe', -⟩ := hother
  cases hlast.symm.trans hlast'
  cases hframe.symm.trans hframe'
  rfl

/-- The wait of a request ends with a response exactly if the last frame it reads is that. -/
theorem converse_eq_ok_iff (line : Transport σ ε) (commandClass : CommandClass) (inquiry : Inquiry)
    (c : Controller) (p : Port σ ε) (response : Response) :
    (runWith (converse line commandClass inquiry) (c, p)).1 = .ok response ↔
      Responds line commandClass inquiry c p response := by
  have hinert := inert_opening line commandClass inquiry (c, p)
  rw [converse, runWith_bind, Responds, framesRead]
  cases hopening : runWith (opening line commandClass inquiry) (c, p) with | mk opened s
  cases opened with
  | error e =>
    refine iff_of_false nofun ?_
    rintro ⟨frame, hlast, -⟩
    cases hlast
  | ok transaction =>
    rw [hopening] at hinert
    have hnumber := transaction_of_opening line hopening
    obtain ⟨c₁, q⟩ := s
    dsimp only at hinert ⊢
    subst hinert hnumber
    rw [runWith_awaitAnswer, ← runWith_awaitResponse, awaitResponse_eq_ok_iff]

/-- A request gives what the response means, or fails without an answer if the last frame is no
response. -/
theorem resultOf_request_cases (line : Transport σ ε) (commandClass : CommandClass)
    (hunicast : inquiry.destination.isBroadcast = false) (c : Controller) (p : Port σ ε) :
    (∃ response, Responds line commandClass inquiry c p response ∧
      resultOf (request line commandClass inquiry) c p = evaluate response) ∨
    (¬ ∃ response, Responds line commandClass inquiry c p response) ∧
      ∃ e, resultOf (request line commandClass inquiry) c p = .error e ∧ ¬ e.Answered := by
  have hresult := resultOf_request line commandClass hunicast c p
  simp only [← converse_eq_ok_iff]
  rw [converse, runWith_bind]
  generalize runWith (opening line commandClass inquiry) (c, p) = opened at hresult ⊢
  obtain ⟨_ | transaction, s⟩ := opened
  · exact .inr ⟨nofun, hresult⟩
  · have hunanswered : Unanswered (awaitAnswer line commandClass inquiry transaction) :=
      unanswered_awaitAnswer _ _ _
    dsimp only at hresult ⊢
    cases hout : (runWith (awaitAnswer line commandClass inquiry transaction) s).1 with
    | ok response =>
      rw [hout] at hresult
      exact .inl ⟨response, rfl, hresult⟩
    | error e =>
      rw [hout] at hresult
      exact .inr ⟨nofun, e, hresult, hunanswered.ends s hout⟩

theorem Responds.resultOf_request (hunicast : inquiry.destination.isBroadcast = false)
    (h : Responds line commandClass inquiry c p response) :
    resultOf (request line commandClass inquiry) c p = evaluate response := by
  obtain ⟨other, hother, hresult⟩ | ⟨hnone, -⟩ :=
    resultOf_request_cases line commandClass hunicast c p
  · rw [hresult, h.unique hother]
  · exact absurd ⟨response, h⟩ hnone

/-- A request is replied to exactly if the last frame it reads is the response and means that
reply. -/
theorem request_eq_ok_iff (hunicast : inquiry.destination.isBroadcast = false) (reply : Reply) :
    resultOf (request line commandClass inquiry) c p = .ok reply ↔
      ∃ response, Responds line commandClass inquiry c p response ∧
        (evaluate response : Except (RequestError ε) Reply) = .ok reply := by
  obtain ⟨response, hresponds, hresult⟩ | ⟨hnone, e, hresult, -⟩ :=
    resultOf_request_cases line commandClass hunicast c p
  · rw [hresult]
    constructor
    · exact fun h => ⟨response, hresponds, h⟩
    · rintro ⟨other, hother, h⟩
      rwa [hresponds.unique hother] at h
  · rw [hresult]
    refine iff_of_false nofun ?_
    rintro ⟨response, hresponds, -⟩
    exact hnone ⟨response, hresponds⟩

/-! ## Replies -/

theorem evaluate_eq_ok_iff (response : Response) (reply : Reply) :
    (evaluate response : Except (RequestError ε) Reply) = .ok reply ↔
      (response.type = .ack ∧
        reply = .complete ⟨response.pid, response.messageCount, response.data⟩) ∨
      response.type = .ackOverflow ∧
        reply = .incomplete ⟨response.pid, response.messageCount, response.data⟩ := by
  unfold evaluate
  dsimp only
  split
  case h_1 htype => simp [htype, eq_comm]
  case h_2 htype => simp [htype, eq_comm]
  case h_3 htype hdata => simp [htype]
  case h_4 htype hdata => split <;> simp [htype]
  case h_5 htype _ => simp [htype]
  case h_6 htype _ => simp [htype]

theorem isResponse_iff {uid : Uid} (hdevice : inquiry.destination = .device uid)
    (transaction : UInt8) (response : Response) :
    c.IsResponse commandClass inquiry transaction response ↔
      response.transaction = transaction ∧ response.destination = .device c.uid ∧
        response.source = uid ∧ response.commandClass = commandClass := by
  constructor
  · exact fun h => ⟨h.transaction, h.destination, h.source uid hdevice, h.commandClass⟩
  · rintro ⟨htransaction, hdestination, hsource, hclass⟩
    refine ⟨htransaction, hdestination, fun other hother => ?_, hclass⟩
    rw [hsource]
    exact Address.device.inj (hdevice.symm.trans hother)

/-- A request to a device returns the data of the last frame it read, exactly if that frame is a
response with the number of this request, to this controller, from that device and of the class of
the request. Nothing is asked of the sub-device and the parameter of the response. -/
theorem reply_iff_response (line : Transport σ ε) (c : Controller) (p : Port σ ε)
    (commandClass : CommandClass) {inquiry : Inquiry} {uid : Uid}
    (hdevice : inquiry.destination = .device uid) (content : ParameterContent) :
    let result := resultOf (request line commandClass inquiry) c p
    let Says (type : ResponseType) : Prop :=
      ∃ frame response, (framesRead line commandClass inquiry c p).getLast? = some frame ∧
        Message.decode frame = .ok (.response response) ∧
        (response.transaction = p.transaction ∧ response.destination = .device c.uid ∧
          response.source = uid ∧ response.commandClass = commandClass) ∧
        response.type = type ∧ content = ⟨response.pid, response.messageCount, response.data⟩
    (result = .ok (.complete content) ↔ Says .ack) ∧
      (result = .ok (.incomplete content) ↔ Says .ackOverflow) := by
  have hunicast : inquiry.destination.isBroadcast = false := by
    rw [hdevice]
    rfl
  simp only [request_eq_ok_iff hunicast, Responds, isResponse_iff hdevice, evaluate_eq_ok_iff]
  constructor <;> constructor
  · rintro ⟨response, ⟨frame, hlast, hframe, hmatch⟩, ⟨htype, hcontent⟩ | ⟨-, hother⟩⟩
    · exact ⟨frame, response, hlast, hframe, hmatch, htype, Reply.complete.inj hcontent⟩
    · cases hother
  · rintro ⟨frame, response, hlast, hframe, hmatch, htype, hcontent⟩
    exact ⟨response, ⟨frame, hlast, hframe, hmatch⟩, .inl ⟨htype, congrArg _ hcontent⟩⟩
  · rintro ⟨response, ⟨frame, hlast, hframe, hmatch⟩, ⟨-, hother⟩ | ⟨htype, hcontent⟩⟩
    · cases hother
    · exact ⟨frame, response, hlast, hframe, hmatch, htype, Reply.incomplete.inj hcontent⟩
  · rintro ⟨frame, response, hlast, hframe, hmatch, htype, hcontent⟩
    exact ⟨response, ⟨frame, hlast, hframe, hmatch⟩, .inr ⟨htype, congrArg _ hcontent⟩⟩

theorem reply_iff_response_answering :
    question.destination = .device Simulation.ScriptedResponse.spokesman ∧
    resultOf (request Simulation.line .get question) asker (fresh answering) =
      .ok (.complete ⟨Pid.deviceInfo, 0, .empty⟩) ∧
    ∃ frame response,
      (framesRead Simulation.line .get question asker (fresh answering)).getLast? = some frame ∧
      Message.decode frame = .ok (.response response) ∧
      (response.transaction = 0 ∧ response.destination = .device asker.uid ∧
        response.source = Simulation.ScriptedResponse.spokesman ∧ response.commandClass = .get) ∧
      response.type = .ack ∧
      ParameterContent.mk Pid.deviceInfo 0 .empty =
        ⟨response.pid, response.messageCount, response.data⟩ := by
  have hresult : resultOf (request Simulation.line .get question) asker (fresh answering) =
      .ok (.complete ⟨Pid.deviceInfo, 0, .empty⟩) := by decide +kernel
  exact ⟨rfl, hresult, (reply_iff_response Simulation.line asker (fresh answering) .get rfl _).1.mp
    hresult⟩

/-- The response of a device that was asked about itself and speaks of something else, for a
sub-device that was not asked. -/
def strayResponse : Response where
  destination := .device asker.uid
  source := Simulation.ScriptedResponse.spokesman
  transaction := 0
  type := .ack
  messageCount := 0
  subDevice := 5
  commandClass := .get
  pid := Pid.softwareVersionLabel
  data := .empty

/-- The world of a device that sends a packet to whoever asks next. -/
def sending (packet : Bytes) : Simulation.World :=
  { answering with replies := [[.items (Simulation.frameItems packet)]] }

/-- The answer to another question is taken for the answer. -/
theorem request_misattributed :
    let p := fresh (sending (Message.response strayResponse).encode)
    Port.create 64 {} 8 p.world = .ok p ∧
    (framesRead Simulation.line .get question asker p).getLast? =
      some (Message.response strayResponse).encode ∧
    Message.decode (Message.response strayResponse).encode = .ok (.response strayResponse) ∧
    resultOf (request Simulation.line .get question) asker p =
      .ok (.complete ⟨strayResponse.pid, 0, .empty⟩) ∧
    strayResponse.pid ≠ question.pid ∧ strayResponse.subDevice ≠ question.subDevice := by
  refine ⟨rfl, ?_, ?_, ?_, ?_, ?_⟩ <;> decide +kernel

end Controller

end LightingBus
