import LightingBus.Proofs.Controller.Replies
import LightingBus.Proofs.Line.TurnaroundWaits
import LightingBus.Proofs.Packet.RoundTrip

/-!
# Answers are not lost

`Controller.answer_in_turnaround`: a device that answers a request while no timeout runs out has its
answer read and returned, wherever the polls of the request fall between the events of the line. The
answer may come in while the controller still waits for its request to be sent, or later.

1. `Port.Ready` is a port before a request. `ends_converse` leads it through sending and waiting:
   the wait ends with the answer, or a timeout has run out.
2. `late_request`: a timeout that has run out by then has run out at the end of the request.
-/

namespace LightingBus

variable {σ ε α : Type}

/-- A port that is ready for a request, of a line that is going to deliver this. -/
structure Port.Ready (view : σ → Wire) (config : LineConfig) (n : ℕ)
    (deliveries : List (Event × Bytes)) (p : Port σ ε) : Prop where
  sound : p.engine.Sound config n
  idle : p.engine.isSending = false
  config : p.config = config
  driverFault : p.driverFault = none
  waiting : p.waiting = false
  received : (view p.world).received = []
  deliveries : (view p.world).deliveries = deliveries
  patience : (view p.world).script.length < p.patience

namespace Controller

open Port (Late Cut RequestUnderway Ready rely_conveyed receiving_cut)

variable {line : Transport σ ε} {view : σ → Wire} {alarms : Bool} {config : LineConfig} {n : ℕ}
  {packet : Bytes} {chunks : List Bytes} {deliveries : List (Event × Bytes)} {c : Controller}
  {p : Port σ ε} {commandClass : CommandClass} {inquiry : Inquiry} {transaction : UInt8}
  {response : Response}

/-! ## Before the request -/

theorem Ready.of_view (h : p.Ready view config n deliveries) {w : σ}
    (hview : view w = view p.world) : { p with world := w }.Ready view config n deliveries :=
  { h with
    received := by rw [← h.received, ← hview]
    deliveries := by rw [← h.deliveries, ← hview]
    patience := by simpa only [hview] using h.patience }

theorem stable_ready (hline : line.Conveys view alarms) :
    Port.Stable line (Ready view config n deliveries) where
  interrupted {p} h := rely_conveyed hline (fun p w hview hp => Ready.of_view hp hview) p h
  now {p} h := by
    have hview := hline.now p.world
    refine ⟨h.sound, h.idle, h.config, h.driverFault, h.waiting, ?_, ?_, ?_⟩
    · rw [hview]
      exact h.received
    · rw [hview]
      exact h.deliveries
    · rw [hview]
      exact h.patience
  lockDepth depth h := { h with }

/-- A lock that is free, or held by the controller itself, is entered. -/
theorem ends_enter_ready (hline : line.Conveys view alarms)
    (h : p.Ready view config n deliveries) (hfree : c.inTransaction = false → p.lockDepth = 0) :
    Port.Ends (fun _ s => s.2.Ready view config n deliveries) (fun _ _ => False)
      (runWith (enter line) (c, p)) := by
  have hstable : Port.Stable line (Ready view config n deliveries) := stable_ready hline
  rw [enter, runWith_read]
  split_ifs with hinside
  · have hnest : Ensures (fun q => q.lockDepth = p.lockDepth ∧ q.Ready view config n deliveries)
        (onPort (Port.nest line)) (fun _ q => q.lockDepth = Port.deeper p.lockDepth ∧
          q.Ready view config n deliveries) fun _ _ => False := .onPort hstable.nest
    exact (hnest c p ⟨rfl, h⟩).mono (fun _ _ hq => hq.2) fun _ _ => id
  · have hpatience : 0 < p.patience := Nat.zero_lt_of_lt h.patience
    refine (?_ : Ensures (fun q => q.patience = p.patience ∧ q.lockDepth = 0 ∧
      q.Ready view config n deliveries) _ (fun _ q => q.Ready view config n deliveries)
      fun _ _ => False) c p ⟨rfl, hfree (Bool.eq_false_iff.mpr hinside), h⟩
    refine .bind (Q := fun _ q => q.patience = p.patience ∧ q.lockDepth = 0 ∧
      q.Ready view config n deliveries) (.config fun _ => id) fun config => ?_
    refine .bind (.tryPort (hstable.takes_lock config.transactionTimeout p.patience))
      fun result => ?_
    split
    · exact .pure fun q hq => hq.2.2
    · exact .throw fun q hq => hq.1 ⟨rfl, hpatience⟩
    · exact .throw fun q hq => hq.1 ⟨rfl, hpatience⟩

/-! ## The request and its answer -/

/-- A packet that fits into the buffer is written as a whole. -/
theorem ensures_write_ready {R : PortError ε → Port σ ε → Prop} (hline : line.Conveys view alarms)
    {bytes : Bytes} (hlength : bytes.length ≤ n) :
    Port.Ensures (Ready view config n deliveries) (Port.write line bytes)
      (fun count p => count = bytes.length ∧ p.Ready view config n deliveries) R := by
  unfold Port.write Port.writeAt
  refine .withFront (fun p hp => (stable_ready hline).interrupted hp) (fun p hp hsending => ?_)
    fun p hp _ => ?_
  · rw [hp.idle] at hsending
    cases hsending
  · have hfront := hp.sound.bounded.front
    refine ⟨FrameBuffer.length_writeAt (by rwa [hfront.slots]), { hp with sound := ?_ }⟩
    exact hp.sound.of_eq (hfront.writeAt 0 _) hp.sound.bounded.back rfl rfl

/-- With a frame that begins the request is underway. -/
theorem ensures_sendFrame_ready {R : PortError ε → Port σ ε → Prop}
    (hline : line.Conveys view alarms) (hflatten : chunks.flatten = packet) {size : ℕ}
    (hpos : 0 < size) (hsize : size ≤ n) :
    Port.Ensures (Ready view config n (conversation (if alarms then 2 else 0) chunks))
      (Port.sendFrame line size true .receive)
      (fun _ p => p.RequestUnderway view config n packet false) R := by
  intro p hp
  have hp := (stable_ready hline).interrupted hp
  rw [Port.exec_sendFrame]
  generalize Port.interrupted line p = p at hp
  obtain ⟨e, w, alarm, hbegin, hasks, hsound, hview⟩ :=
    Engine.beginSend_conveyed hline hp.sound hp.idle hpos hsize p.world
  have hstage : Engine.Stage n packet alarm (view p.world).deliveries e := by
    rw [hp.deliveries]
    exact .asking hasks hflatten
  dsimp only
  rw [hbegin]
  refine ⟨?_, hp.config, hp.driverFault, hp.waiting, ?_⟩
  · dsimp only
    rw [hview]
    refine ⟨hstage, hsound, hp.received, rfl, Engine.stamped_of_silent ?_⟩
    rw [Engine.isReceiving, hasks.silent]
  · dsimp only
    rw [hview]
    exact hp.patience

/-- A message that fits into the buffer is sent. -/
theorem ensures_sendMessage_ready (hline : line.Conveys view alarms)
    (htold : Engine.sizeTold? false packet = some packet.length) (hfits : packet.length ≤ n)
    (hflatten : chunks.flatten = packet) (message : Message) (hlength : message.encode.length ≤ n) :
    Ensures (Ready view config n (conversation (if alarms then 2 else 0) chunks))
      (sendMessage line message .receive)
      (fun _ p => p.RequestUnderway view config n packet false ∧ p.engine.isSending = false ∨
        p.Cut view config) fun _ => Late view config := by
  have hpos : 0 < message.encode.length := by
    rw [Message.length_encode, Message.encodedLength]
    omega
  refine .bind (.onPort (ensures_write_ready hline hlength)) fun count => .given fun hcount => ?_
  rw [if_neg (not_not.mpr hcount)]
  refine .bind (.onPort (ensures_sendFrame_ready hline hflatten hpos hlength)) fun _ => ?_
  refine .bind (Q := fun read p => read = config ∧ p.RequestUnderway view config n packet false)
    (.config fun p hp => ⟨hp.config, hp⟩) fun read => .given fun hread => ?_
  rw [hread]
  exact .onPort (Port.ensures_waitSent_underway hline htold hfits)

/-- The first frame that is read after the request is the answer. -/
theorem ensures_readAnswer_underway (hline : line.Conveys view alarms)
    (htold : Engine.sizeTold? false packet = some packet.length) (hfits : packet.length ≤ n) :
    Ensures (fun p : Port σ ε => p.RequestUnderway view config n packet false ∧
        p.engine.isSending = false) (readAnswer line)
      (fun frame p => frame = packet ∨ p.Cut view config) fun _ => Late view config := by
  have hnonempty : packet ≠ [] := by
    rintro rfl
    cases htold
  refine .bind (Q := fun read p => read = config ∧ p.RequestUnderway view config n packet false ∧
    p.engine.isSending = false) (.config fun p hp => ⟨hp.1.config, hp⟩)
    fun read => .given fun hread => ?_
  rw [hread]
  refine .bind (.onPort (Port.ensures_receive_underway hline htold hfits hnonempty)) fun _ => ?_
  refine .onPort (.step' (rely_conveyed hline fun p w hview hp => ?_) fun p hp => hp)
  exact hp.imp id fun hcut => hcut.of_view hview

/-- To judge a frame the clock may be read. -/
theorem keeps_judge {I : Port σ ε → Prop} (hI : Port.Kept line I) (start : UInt64)
    (frame : Bytes) : Ensures I (judge line commandClass inquiry transaction start frame)
      (fun _ => I) fun _ => I := by
  unfold judge
  split
  · exact .throw fun _ => id
  · exact .throw fun _ => id
  · split_ifs
    · refine .bind (Q := fun _ => I) (.read fun _ _ => id) fun c => .conclude fun p hp => ?_
      cases c.checkResponse commandClass inquiry _ <;> exact hp
    · refine .bind (.onPort hI.ensures_now) fun now => ?_
      refine .bind (Q := fun _ => I) (.config fun _ => id) fun config => ?_
      split_ifs
      · exact .throw fun _ => id
      · exact .pure fun _ => id

theorem ends_awaitAnswer_underway (hline : line.Conveys view alarms)
    (htold : Engine.sizeTold? false packet = some packet.length) (hfits : packet.length ≤ n)
    (hdecode : Message.decode packet = .ok (.response response))
    (hresponse : c.IsResponse commandClass inquiry transaction response)
    (h : p.RequestUnderway view config n packet false) (hidle : p.engine.isSending = false) :
    Port.Ends (fun answer s => answer = response ∨ s.2.Cut view config)
      (fun _ s => s.2.Late view config)
      (runWith (awaitAnswer line commandClass inquiry transaction) (c, p)) := by
  obtain ⟨turns, hturns⟩ := Nat.exists_eq_succ_of_ne_zero (Nat.ne_zero_of_lt h.patience)
  rw [runWith_awaitAnswer, ← runWith_awaitResponse, hturns, awaitResponse_succ, answerLook,
    bind_assoc, runWith_bind]
  have hread := ensures_readAnswer_underway (ε := ε) hline htold hfits c (Port.ticked line p)
    ⟨h.now hline, hidle⟩
  have hinert := inert_readAnswer line (c, Port.ticked line p)
  generalize runWith (readAnswer line) (c, Port.ticked line p) = out at hread hinert ⊢
  obtain ⟨e | frame, c', q⟩ := out
  · exact hread
  · dsimp only at hinert
    subst hinert
    obtain rfl | hcut := hread
    · have hjudged := (judge_eq_some_iff line c' q commandClass inquiry transaction
        (line.now p.world).1 frame response).mpr ⟨hdecode, hresponse⟩
      dsimp only
      rw [runWith_bind]
      generalize runWith (judge line commandClass inquiry transaction (line.now p.world).1 frame)
        (c', q) = judged at hjudged ⊢
      obtain ⟨result, s⟩ := judged
      cases hjudged
      exact .inl rfl
    · -- the answer was cut off: whatever is read instead, the time stays over
      have hkept := receiving_cut hline config
      refine Port.Ends.mono ((?_ : Ensures (Cut view config) _ (fun _ => Cut view config)
        fun _ => Cut view config) c' q hcut) (fun _ _ => .inr) fun _ _ hs => hs.1
      refine .bind (keeps_judge hkept.toKept _ frame) fun result => ?_
      cases result with
      | none => exact ensures_awaitResponse hkept _ _ _ _ turns
      | some answer => exact .pure fun _ => id

/-- Sending and waiting, one after the other. -/
theorem runWith_converse (line : Transport σ ε) (commandClass : CommandClass) (inquiry : Inquiry)
    (c : Controller) (p : Port σ ε) :
    runWith (converse line commandClass inquiry) (c, p) =
      let transaction := (Port.interrupted line p).transaction
      match runWith (enter line) (c, numbered line p) with
      | (.error e, s) => (.error e, s)
      | (.ok _, s) =>
        match runWith (sendMessage line (s.1.message commandClass inquiry transaction) .receive)
          (s.1, Port.interrupted line s.2) with
        | (.error e, s) => (.error e, s)
        | (.ok _, s) => runWith (awaitAnswer line commandClass inquiry transaction) s := by
  rw [converse, runWith_bind, runWith_opening]
  generalize runWith (enter line) (c, numbered line p) = entered
  obtain ⟨_ | _, s⟩ := entered
  · rfl
  · dsimp only
    generalize runWith (sendMessage line (s.1.message commandClass inquiry
      (Port.interrupted line p).transaction) .receive) (s.1, Port.interrupted line s.2) = sent
    obtain ⟨_ | _, _⟩ := sent <;> rfl

theorem length_encode_le (message : Message) : message.encode.length ≤ Packet.maxLength := by
  have hle := message.data.length_le
  rw [Message.length_encode, Message.encodedLength, Packet.headerLength, Packet.maxLength]
  unfold maxParameterLength at hle
  omega

/-- The third byte of a packet tells its size. -/
theorem sizeTold?_encode (message : Message) :
    Engine.sizeTold? false message.encode = some message.encode.length := by
  have hle := message.data.length_le
  unfold maxParameterLength at hle
  have htold : Engine.sizeTold? false message.encode =
      some (message.header.messageLength.toNat + 2) := by
    cases message <;> rfl
  rw [htold, Message.header_messageLength, Message.length_encode, Message.encodedLength,
    Packet.headerLength, UInt8.toNat_ofNat', Nat.mod_eq_of_lt (by omega)]

/-- A request that is answered in time ends with the answer. -/
theorem ends_converse (hline : line.Conveys view alarms) (hn : Packet.maxLength ≤ n)
    (hready : p.Ready view config n (conversation (if alarms then 2 else 0) chunks))
    (hfree : c.inTransaction = false → p.lockDepth = 0)
    (hresponse : c.IsResponse commandClass inquiry p.transaction response)
    (hchunks : chunks.flatten = (Message.response response).encode) :
    Port.Ends (fun answer s => answer = response ∨ s.2.Cut view config)
      (fun _ s => s.2.Late view config) (runWith (converse line commandClass inquiry) (c, p)) := by
  have hlength (message : Message) : message.encode.length ≤ n :=
    (length_encode_le message).trans hn
  have htold := sizeTold?_encode (.response response)
  have hfits := hlength (.response response)
  have hdecode : Message.decode (Message.response response).encode = .ok (.response response) := by
    refine Message.decode_encode ?_
    rw [Message.destination, hresponse.destination]
    rintro ⟨⟩
  have hstable : Port.Stable line
    (Ready view config n (conversation (if alarms then 2 else 0) chunks)) := stable_ready hline
  have hdepth : (numbered line p).lockDepth = p.lockDepth := by
    obtain ⟨w, hinterrupted, -⟩ := Port.interrupted_conveyed hline p
    rw [numbered, hinterrupted]
  have hnumbered : (numbered line p).Ready view config n
    (conversation (if alarms then 2 else 0) chunks) := { hstable.interrupted hready with }
  have henter := ends_enter_ready hline hnumbered fun hinside => hdepth.trans (hfree hinside)
  have hinert := inert_enter line (c, numbered line p)
  rw [runWith_converse, transaction_interrupted line p]
  generalize runWith (enter line) (c, numbered line p) = entered at henter hinert ⊢
  obtain ⟨_ | _, c', q⟩ := entered
  · exact henter.elim
  dsimp only at hinert ⊢
  subst hinert
  have hsend := ensures_sendMessage_ready hline htold hfits hchunks
    (c'.message commandClass inquiry p.transaction) (hlength _) c' (Port.interrupted line q)
    (hstable.interrupted henter)
  have hinert := inert_sendMessage line (c'.message commandClass inquiry p.transaction) .receive
    (c', Port.interrupted line q)
  generalize runWith (sendMessage line (c'.message commandClass inquiry p.transaction) .receive)
    (c', Port.interrupted line q) = sent at hsend hinert ⊢
  obtain ⟨_ | _, c, q⟩ := sent
  · exact hsend
  dsimp only at hinert ⊢
  subst hinert
  obtain ⟨hunderway, hidle⟩ | hcut := hsend
  · exact ends_awaitAnswer_underway hline htold hfits hdecode hresponse hunderway hidle
  · have hawait := ensures_awaitAnswer commandClass (receiving_cut hline config) inquiry
      p.transaction c q hcut
    exact hawait.mono (fun _ _ => .inr) fun _ _ hs => hs.1

/-! ## After the wait -/

theorem stable_late (hline : line.Conveys view alarms) : Port.Stable line (Late view config) where
  interrupted {p} h := rely_conveyed hline (fun _ _ hview hp => hp.of_view hview) p h
  now h hontime := h (hontime.of_prefix (hline.accounts.now _))
  lockDepth _ := id

theorem Ensures.keeps {I : Port σ ε → Prop} {task : ControllerM σ ε α}
    (h : Ensures I task (fun _ => I) fun _ => I) {s : Controller × Port σ ε} (hs : I s.2) :
    I (runWith task s).2.2 :=
  (h s.1 s.2 hs).both

theorem keeps_either {I : Port σ ε → Prop} (result : Except (RequestError ε) α) (h : I p) :
    Port.Ends (fun _ => I) (fun _ => I) (result, p) := by
  cases result <;> exact h

section Late

variable (hline : line.Conveys view alarms) {task : ControllerM σ ε α}
include hline

theorem late_preserving
    (h : (runWith task (c, Port.interrupted line p)).2.2.Late view config) :
    (runWith (preserving line task) (c, p)).2.2.Late view config := by
  obtain ⟨before, hrun⟩ := runWith_preserving line task c p
  rw [hrun]
  dsimp only
  split
  · exact h
  · refine Ensures.keeps (.bind (Q := fun _ => Late view config) (.onPort ?_) fun _ => ?_) h
    · exact .withFront (fun q hq => (stable_late hline).interrupted hq) (fun _ hq _ => hq)
        fun _ hq _ => hq
    · exact .conclude fun _ => keeps_either _

theorem late_withLock {s : Controller × Port σ ε}
    (h : (match runWith (enter line) s with
      | (.error _, s) => s
      | (.ok _, s) => (runWith task s).2).2.Late view config) :
    (runWith (withLock line task) s).2.2.Late view config := by
  unfold withLock
  rw [runWith_bind]
  generalize runWith (enter line) s = entered at h
  obtain ⟨_ | _, s⟩ := entered
  · exact h
  · dsimp only at h ⊢
    rw [runWith_bind, runWith_attempt]
    refine Ensures.keeps (.bind (Q := fun _ => Late view config) (.onPort ?_) fun _ => ?_) h
    · exact .step' (fun q hq => (stable_late hline).interrupted hq) fun _ => id
    · exact .conclude fun _ => keeps_either _

/-- A timeout that has run out when the wait of a request is over has run out at its end. -/
theorem late_request (hunicast : inquiry.destination.isBroadcast = false)
    (h : (runWith (converse line commandClass inquiry) (c, p)).2.2.Late view config) :
    (runWith (request line commandClass inquiry) (c, p)).2.2.Late view config := by
  rw [runWith_request]
  refine late_withLock hline ?_
  rw [runWith_converse] at h
  generalize runWith (enter line) (c, numbered line p) = entered at h
  obtain ⟨_ | _, c', q⟩ := entered
  · exact h
  · dsimp only at h ⊢
    unfold answered
    have hexchange := runWith_exchange line commandClass hunicast
      (Port.interrupted line p).transaction c' (Port.interrupted line q)
    have hpreserved : (runWith (preserving line (exchange line commandClass inquiry
        (Port.interrupted line p).transaction)) (c', q)).2.2.Late view config := by
      refine late_preserving hline ?_
      rw [hexchange]
      dsimp only
      generalize runWith (sendMessage line (c'.message commandClass inquiry
        (Port.interrupted line p).transaction) .receive) (c', Port.interrupted line q) = sent at h
      obtain ⟨_ | _, s⟩ := sent <;> exact h
    rw [runWith_bind]
    generalize runWith (preserving line (exchange line commandClass inquiry
      (Port.interrupted line p).transaction)) (c', q) = preserved at hpreserved
    obtain ⟨_ | _ | response, s⟩ := preserved
    · exact hpreserved
    · exact hpreserved
    · exact Ensures.keeps (.bind (Q := fun _ => Late view config) (.change fun _ => id)
        fun _ => .conclude fun _ => keeps_either _) hpreserved

end Late

/-- No answer is lost in the turnaround. A device is asked and its response comes in, in any pieces
and at any polls. Unless a timeout runs out, the response is what the request reads last, and the
request gives what it means. -/
theorem answer_in_turnaround (hline : line.Conveys view alarms) (hn : 257 ≤ n)
    (c : Controller) (p : Port σ ε) (commandClass : CommandClass) {inquiry : Inquiry} {uid : Uid}
    (hdevice : inquiry.destination = .device uid) {response : Response}
    (hresponse : c.IsResponse commandClass inquiry p.transaction response)
    (hchunks : chunks.flatten = (Message.response response).encode)
    (hready : p.Ready view p.config n (conversation (if alarms then 2 else 0) chunks))
    (hfree : c.inTransaction = false → p.lockDepth = 0)
    (hontime : (view (runWith (request line commandClass inquiry) (c, p)).2.2.world).OnTime
      p.config) :
    Responds line commandClass inquiry c p response ∧
      resultOf (request line commandClass inquiry) c p = evaluate response := by
  have hunicast : inquiry.destination.isBroadcast = false := by
    rw [hdevice]
    rfl
  have hends := ends_converse hline hn hready hfree hresponse hchunks
  have hlate : ¬ (runWith (converse line commandClass inquiry) (c, p)).2.2.Late view p.config :=
    fun h => late_request hline hunicast h hontime
  have hanswered : (runWith (converse line commandClass inquiry) (c, p)).1 = .ok response := by
    generalize runWith (converse line commandClass inquiry) (c, p) = out at hends hlate
    obtain ⟨_ | answer, s⟩ := out
    · exact absurd hends hlate
    · obtain rfl | hcut := hends
      · rfl
      · exact absurd hcut.1 hlate
  have hresponds := (converse_eq_ok_iff line commandClass inquiry c p response).mp hanswered
  exact ⟨hresponds, hresponds.resultOf_request hunicast⟩

/-! ## An answer in pieces -/

/-- A line that is nothing but its record. Each reading of its clock takes fifty microseconds. -/
def recorded : Transport Wire Empty where
  autoBreak := false
  write bytes v := (.ok bytes.length, { v with opened := true })
  read count v := (.ok (v.received.take count), { v with received := v.received.drop count })
  assertBreak v := (.ok (), { v with opened := true })
  releaseBreak v := (.ok (), v)
  flushReceived v := (.ok (), { v with received := [] })
  flushQueued v := (.ok (), v)
  poll := Wire.polled
  interrupts v := ([], v)
  now v :=
    let time := UInt64.ofNat (50 * v.readings.length)
    (time, v.timed time)
  delay _ v := v
  setAlarm _ v := (true, { v with alarm := true })

theorem conveys_recorded : recorded.Conveys id true where
  write _ _ := ⟨_, rfl, rfl⟩
  read _ _ := ⟨_, rfl, rfl⟩
  assertBreak _ := ⟨_, rfl, rfl⟩
  releaseBreak _ := ⟨_, rfl, rfl⟩
  flushReceived _ := ⟨_, rfl, rfl⟩
  flushQueued _ := ⟨_, rfl, rfl⟩
  poll _ := ⟨_, rfl, rfl⟩
  interrupts _ := ⟨_, rfl, rfl⟩
  now _ := rfl
  delay _ _ := rfl
  setAlarm _ v := ⟨_, rfl, by rw [id, Bool.or_true]; rfl⟩

/-- The response of a device that was asked about itself. -/
def promptResponse : Response :=
  { strayResponse with subDevice := SubDevice.root, pid := question.pid }

/-- Its packet, in three chunks of which one is empty. -/
def promptChunks : List Bytes :=
  [(Message.response promptResponse).encode.take 10, [],
    (Message.response promptResponse).encode.drop 10]

/-- What a request finds when it polls: the answer has begun before the first wait is over. -/
def promptWire : Wire where
  script :=
    match promptChunks with
    | [first, second, third] =>
      [none, some (.alarm, []), none, some (.alarm, []), none, some (.txDone, []),
        some (.breakDetected, []), some (.rxData, first), none, none, some (.rxData, second),
        some (.rxData, third), none, some (.rxTimeout, [])]
    | _ => []
  alarm := false
  received := []
  opened := false
  readings := []

/-- A port of such a line. -/
def promptPort : Port Wire Empty where
  config := {}
  engine := Engine.create 257 {}
  world := promptWire
  driverFault := none
  waiting := false
  lockDepth := 0
  transaction := 0
  patience := 15

theorem promptPort_ready : promptPort.Ready id {} 257 (conversation 2 promptChunks) where
  sound := ⟨⟨.empty 257, .empty 257⟩, rfl, rfl⟩
  idle := rfl
  config := rfl
  driverFault := rfl
  waiting := rfl
  received := rfl
  deliveries := by decide +kernel
  patience := by decide +kernel

theorem answer_in_turnaround_chunks :
    let out := runWith (request recorded .get question) (asker, promptPort)
    recorded.Conveys id true ∧ 257 ≤ 257 ∧
    question.destination = .device Simulation.ScriptedResponse.spokesman ∧
    asker.IsResponse .get question promptPort.transaction promptResponse ∧
    promptChunks.flatten = (Message.response promptResponse).encode ∧
    promptPort.Ready id promptPort.config 257 (conversation 2 promptChunks) ∧
    (asker.inTransaction = false → promptPort.lockDepth = 0) ∧
    out.2.2.world.OnTime promptPort.config ∧
    Responds recorded .get question asker promptPort promptResponse ∧
    out.1 = .ok (.complete ⟨Pid.deviceInfo, 0, .empty⟩) := by
  have hresponse : asker.IsResponse .get question promptPort.transaction promptResponse :=
    (isResponse_iff rfl _ _).mpr ⟨rfl, rfl, rfl, rfl⟩
  have hchunks : promptChunks.flatten = (Message.response promptResponse).encode := by
    decide +kernel
  have hontime : (runWith (request recorded .get question)
      (asker, promptPort)).2.2.world.OnTime promptPort.config := by
    decide +kernel
  have hanswer := answer_in_turnaround conveys_recorded le_rfl asker promptPort .get rfl hresponse
    hchunks promptPort_ready (fun _ => rfl) hontime
  exact ⟨conveys_recorded, le_rfl, rfl, hresponse, hchunks, promptPort_ready, fun _ => rfl,
    hontime, hanswer.1, hanswer.2⟩

end Controller

end LightingBus
