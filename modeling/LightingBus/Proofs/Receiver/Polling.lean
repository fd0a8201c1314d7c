import LightingBus.Proofs.Line.Deadlines
import LightingBus.Proofs.Line.Starts
import LightingBus.Proofs.Packet.DiscoveryReply
import LightingBus.Proofs.Packet.RoundTrip
import LightingBus.Proofs.Responder.FanOut

/-!
# Polling a receiver

`Receiver.poll_answers`: on a line that is polled, a receiver that polls puts one frame on the line
at most, the answer of its responder to the request that it has received, and it does not drive the
line before the turnaround is over, however long a handler takes.

1. `Reception.KeepsOff` says that handlers take their time and leave the line alone;
   `KeepsOff.handle` says the same of a responder.
2. `Reception.answerTo` is what a received frame is answered with.
3. `ensures_waitTurnaround_late` is the wait, `ensures_sendAnswer_drives` what is sent behind it.
4. `handleFrame_sends`: to handle a frame is to send the answer, after some time.
-/

namespace LightingBus

variable {κ γ σ ω ε η α β : Type}

/-! ## Handlers -/

/-- Between two worlds only time has passed: the line was not driven, and nothing was accepted. -/
structure Observed.Passes (time : σ → ℕ) (t t' : Observed σ) : Prop where
  clock_le : t.clock time ≤ t'.clock time
  starts : t'.starts = t.starts
  accepted : t'.accepted = t.accepted

namespace Observed.Passes

variable {time : σ → ℕ} {t t₁ t₂ : Observed σ}

theorem refl (time : σ → ℕ) (t : Observed σ) : t.Passes time t :=
  ⟨le_rfl, rfl, rfl⟩

theorem trans (h₁ : t.Passes time t₁) (h₂ : t₁.Passes time t₂) : t.Passes time t₂ :=
  ⟨le_trans h₁.clock_le h₂.clock_le, h₂.starts.trans h₁.starts, h₂.accepted.trans h₁.accepted⟩

theorem still {start : ℕ} {before : List Start} (h : t.Passes time t₁)
    (hstill : t.Still time start before) : t₁.Still time start before :=
  hstill.later h.clock_le h.starts

end Observed.Passes

/-- Handlers may take as long as they like, but neither drive the line nor turn back the clock. -/
structure Reception.KeepsOff (time : σ → ℕ) (reception : Reception κ γ (Observed σ) η) : Prop where
  custom (name : κ) (request : Request) (r : Responder κ γ) (t : Observed σ) :
    t.Passes time (reception.custom name request r t).2.2
  fallback (request : Request) (r : Responder κ γ) (t : Observed σ) :
    t.Passes time (reception.fallback request r t).2.2
  frame (frame : Bytes) (r : Responder κ γ) (t : Observed σ) :
    t.Passes time (reception.frame frame r t).2.2

namespace Responder

/-- A handler that keeps a property of the world. -/
def KeepsWorld (J : ω → Prop) (handler : Handler κ γ ω) : Prop :=
  ∀ request r w, J w → J (handler request r w).2.2

variable {J : ω → Prop} {custom : κ → Handler κ γ ω}

/-- Built-in handlers do not touch the world. -/
theorem keepsWorld_interpret (hcustom : ∀ name, KeepsWorld J (custom name)) (name : HandlerName κ) :
    KeepsWorld J (interpret custom name) := by
  intro request r w h
  cases name with
  | builtin handler => exact h
  | custom name => exact hcustom name request r w h

theorem keepsWorld_applyEach {handler : Handler κ γ ω} (hhandler : KeepsWorld J handler)
    (request : Request) (devices applied : List (UInt16 × Option ParameterData))
    (r : Responder κ γ) (w : ω) (h : J w) :
    J (applyEach handler request devices applied r w).2.2 := by
  induction devices generalizing applied r w with
  | nil => exact h
  | cons device devices ih =>
    have hstep := hhandler { request with subDevice := device.1 } r w h
    rw [applyEach]
    generalize handler { request with subDevice := device.1 } r w = outcome at hstep ⊢
    obtain ⟨_ | _ | _, r', w'⟩ := outcome
    · exact ih _ r' w' hstep
    · exact hstep
    · exact hstep

theorem keepsWorld_dispatch (hcustom : ∀ name, KeepsWorld J (custom name))
    (d : ParameterDefinition (HandlerName κ)) (request : Request) (r : Responder κ γ) (w : ω)
    (h : J w) : J (dispatch custom d request r w).2.2 := by
  unfold dispatch
  split
  next => exact h
  next name _ =>
    have hhandler := keepsWorld_interpret hcustom name
    dsimp only
    split
    next => exact hhandler request r w h
    next =>
      split
      next => exact h
      next =>
        split_ifs
        · unfold applyToAll
          split_ifs
          · exact h
          · split
            · exact h
            · exact keepsWorld_applyEach hhandler request _ [] r w h
        · unfold applyToOne
          split_ifs
          · exact hhandler request r w h
          · exact h

/-- A responder does to the world what its handlers do to it. -/
theorem keepsWorld_handle (hcustom : ∀ name, KeepsWorld J (custom name))
    {fallback : Fallback κ γ ω η} (hfallback : ∀ request r w, J w → J (fallback request r w).2.2)
    (request : Request) (r : Responder κ γ) (w : ω) (h : J w) :
    J (handle custom fallback request r w).2.2 := by
  unfold handle
  split_ifs
  · exact h
  · split
    next =>
      have hnext := hfallback request r w h
      generalize fallback request r w = outcome at hnext ⊢
      obtain ⟨_ | _, _, _⟩ := outcome <;> exact hnext
    next => exact keepsWorld_dispatch hcustom _ request r w h

end Responder

/-- While a responder handles a request, only time passes. -/
theorem Reception.KeepsOff.handle {time : σ → ℕ} {reception : Reception κ γ (Observed σ) η}
    (h : reception.KeepsOff time) (request : Request) (r : Responder κ γ) (t : Observed σ) :
    t.Passes time (Responder.handle reception.custom reception.fallback request r t).2.2 :=
  Responder.keepsWorld_handle (J := fun t' => t.Passes time t')
    (fun name request r t' ht => ht.trans (h.custom name request r t'))
    (fun request r t' ht => ht.trans (h.fallback request r t')) request r t (.refl time t)

/-! ## Receivers -/

/-- What a received frame is answered with: only requests are answered. -/
def Reception.answerTo (reception : Reception κ γ ω η) (frame : Bytes) (r : Responder κ γ) (w : ω) :
    Answer :=
  match Message.decode frame with
  | .ok (.request request) =>
    match (Responder.handle reception.custom reception.fallback request r w).1 with
    | .answered answer => answer
    | .fallbackFailed _ | .broken _ _ => .silent
  | .ok (.response _) | .error _ => .silent

/-- A frame without the start code of packets is not answered. -/
theorem Reception.answerTo_of_head (reception : Reception κ γ ω η) {frame : Bytes}
    (h : frame.head? ≠ some Packet.startCode) (r : Responder κ γ) (w : ω) :
    reception.answerTo frame r w = .silent := by
  cases hdecode : Message.decode frame with
  | error e =>
    unfold answerTo
    rw [hdecode]
  | ok message =>
    rw [(Message.eq_encode_of_decode hdecode).1] at h
    exact absurd (by cases message <;> rfl) h

/-! ## Answers on the line -/

/-- Responses have a break, replies to a search have none. -/
def Answer.hasBreak : Answer → Bool
  | .response _ => true
  | .discovery _ | .silent => false

/-- When a line was driven for an answer: never before `start`, with its break first and with bytes
from then on; and not at all if nothing is answered. -/
structure Answer.DrivenAt (autoBreak : Bool) (start : ℕ) (answer : Answer) (starts : List Start) :
    Prop where
  late : ∀ s ∈ starts, start ≤ s.time
  opening : ∀ first ∈ starts.head?, first.Opens autoBreak answer.hasBreak
  bytes : ∀ s ∈ starts.tail, s.isBreak = false
  silent : answer = .silent → starts = []

namespace Answer.DrivenAt

variable {autoBreak : Bool} {start : ℕ} {answer : Answer} {before : List Start} {time : σ → ℕ}

theorem nil : answer.DrivenAt autoBreak start [] :=
  ⟨nofun, nofun, nofun, fun _ => rfl⟩

theorem of_begun {t : Observed σ} (hanswer : answer ≠ .silent)
    (h : t.Begun time start before (Start.Opens autoBreak answer.hasBreak)) :
    ∃ starts, t.starts = before ++ starts ∧ answer.DrivenAt autoBreak start starts ∧
      starts ≠ [] := by
  obtain ⟨-, first, more, hstarts, ⟨hfirst, hlate⟩, hmore⟩ := h
  refine ⟨first :: more, hstarts, ⟨?_, ?_, fun s hs => (hmore s hs).1, fun h => absurd h hanswer⟩,
    List.cons_ne_nil _ _⟩
  · rw [List.forall_mem_cons]
    exact ⟨hlate, fun s hs => (hmore s hs).2⟩
  · rintro _ ⟨⟩
    exact hfirst

end Answer.DrivenAt

namespace Receiver

/-- What a receiver does, as a function of the receiver and its port. -/
def runWith (task : ReceiverM κ γ σ ε η α) (s : Receiver κ γ × Port σ ε) :
    Except (ReceiveError ε η) α × Receiver κ γ × Port σ ε :=
  let ((result, receiver), p) := (task.run.run s.1).run s.2
  (result, receiver, p)

/-- The rest of a task goes on where its beginning has ended, unless that failed. -/
theorem runWith_bind (task : ReceiverM κ γ σ ε η α) (next : α → ReceiverM κ γ σ ε η β)
    (s : Receiver κ γ × Port σ ε) : runWith (task >>= next) s =
      match runWith task s with
      | (.ok a, s) => runWith (next a) s
      | (.error e, s) => (.error e, s) := by
  unfold runWith
  rw [ExceptT.run_bind, StateT.run_bind, StateT.run_bind]
  generalize (task.run.run s.1).run s.2 = out
  obtain ⟨⟨_ | _, _⟩, _⟩ := out <;> rfl

theorem runWith_onPort (task : PortM σ ε α) (receiver : Receiver κ γ) (p : Port σ ε) :
    runWith (onPort task : ReceiverM κ γ σ ε η α) (receiver, p) =
      ((Port.exec task p).1.mapError .port, receiver, (Port.exec task p).2) := rfl

theorem runWith_tryPort (task : PortM σ ε α) (receiver : Receiver κ γ) (p : Port σ ε) :
    runWith (tryPort task : ReceiverM κ γ σ ε η _) (receiver, p) =
      (.ok (Port.exec task p).1, receiver, (Port.exec task p).2) := rfl

/-! ## The turnaround -/

section Answers

variable {line : Transport σ ε} {time : σ → ℕ} {start : ℕ} {before : List Start} {base : Bytes}

/-- The time that is over is told by readings of 64 bits and waited for in 32 bits. However long it
is, the wait is long enough. -/
theorem turnaround_le {now : ℕ} (h : start ≤ now) :
    let elapsed := UInt64.ofNat now - UInt64.ofNat start
    start + 176 ≤ now + if elapsed < Timing.responderTurnaround.toUInt64 then
      (Timing.responderTurnaround - elapsed.toUInt32).toNat else 0 := by
  intro elapsed
  have helapsed : elapsed.toNat ≤ now - start := by
    have hsub : elapsed = UInt64.ofNat (now - start) := by
      rw [eq_comm, UInt64.ofNat_sub h]
    rw [hsub, UInt64.toNat_ofNat']
    exact Nat.mod_le _ _
  split_ifs with hshort
  · have hlt : elapsed.toNat < 176 := UInt64.lt_iff_toNat_lt.mp hshort
    have hnarrow : elapsed.toUInt32.toNat = elapsed.toNat := by
      rw [UInt64.toNat_toUInt32]
      exact Nat.mod_eq_of_lt (by omega)
    have hle : elapsed.toUInt32 ≤ Timing.responderTurnaround := by
      rw [UInt32.le_iff_toNat_le, hnarrow]
      exact hlt.le
    have hwait : (Timing.responderTurnaround - elapsed.toUInt32).toNat = 176 - elapsed.toNat := by
      rw [UInt32.toNat_sub_of_le _ _ hle, hnarrow]
      rfl
    omega
  · have hle : 176 ≤ elapsed.toNat := Nat.le_of_not_lt fun hlt => hshort hlt
    omega

/-- Behind the turnaround it is late enough. -/
theorem ensures_waitTurnaround_late (hline : line.KeepsTime time) {ready : Prop} {size : ℕ}
    {R : PortError ε → Port (Observed σ) ε → Prop} :
    Port.Ensures (Port.Poised time start before ready size)
      (waitTurnaround (line.observed time) (UInt64.ofNat start))
      (fun _ => Port.Poised time (start + 176) before ready size) R := by
  refine .bind (Q := fun now p => now = UInt64.ofNat (p.world.clock time) ∧
    p.Poised time start before ready size) (.now fun p hp => ?_) fun now => ?_
  · exact ⟨hline.shows _, hp.still.later (hline.now _) rfl, hp.idle, hp.room⟩
  · intro p hp
    obtain ⟨rfl, hpoised⟩ := hp
    have hlate := turnaround_le hpoised.still.late
    dsimp only at hlate ⊢
    split_ifs at hlate ⊢
    · exact ⟨⟨le_trans hlate (hline.delay _ _), hpoised.still.starts⟩, hpoised.idle, hpoised.room⟩
    · exact ⟨⟨hlate, hpoised.still.starts⟩, hpoised.idle, hpoised.room⟩

/-! ## Sending an answer -/

/-- The line has been driven for this answer only, and at least once if the answer was `begun`. -/
def Answered (line : Transport σ ε) (start : ℕ) (before : List Start) (answer : Answer)
    (begun : Prop) (p : Port (Observed σ) ε) : Prop :=
  ∃ starts, p.world.starts = before ++ starts ∧ answer.DrivenAt line.autoBreak start starts ∧
    (begun → answer ≠ .silent → starts ≠ [])

variable {answer : Answer} {ready : Prop}

theorem Answered.imp {begun begun' : Prop} {p : Port (Observed σ) ε}
    (h : Answered line start before answer begun p) (hbegun : begun' → begun) :
    Answered line start before answer begun' p := by
  obtain ⟨starts, hstarts, hdriven, hsome⟩ := h
  exact ⟨starts, hstarts, hdriven, fun hb => hsome (hbegun hb)⟩

theorem Answered.of_begun (hanswer : answer ≠ .silent) {begun : Prop} {p : Port (Observed σ) ε}
    (h : p.world.Begun time start before (Start.Opens line.autoBreak answer.hasBreak)) :
    Answered line start before answer begun p := by
  obtain ⟨starts, hstarts, hdriven, hsome⟩ := Answer.DrivenAt.of_begun hanswer h
  exact ⟨starts, hstarts, hdriven, fun _ _ => hsome⟩

theorem answered_nil {begun : Prop} {p : Port (Observed σ) ε} (h : p.world.starts = before)
    (hbegun : ¬ begun) : Answered line start before answer begun p :=
  ⟨[], h.trans (List.append_nil before).symm, .nil, fun hb => absurd hb hbegun⟩

/-- What is sent behind the turnaround, and waited for, is an answer. -/
theorem ensures_behind_turnaround (hline : line.KeepsTime time) (hanswer : answer ≠ .silent)
    {send : PortM (Observed σ) ε Unit} {size : ℕ} (timeout : UInt32)
    (hsend : Port.Ensures (Port.Poised time (start + 176) before ready size) send
      (fun _ => Port.Drives time (start + 176) before (Start.Opens line.autoBreak answer.hasBreak))
      fun _ => Port.Tried time (start + 176) before
        (Start.Opens line.autoBreak answer.hasBreak) ready) :
    Port.Ensures (Port.Poised time start before ready size)
      (do
        waitTurnaround (line.observed time) (UInt64.ofNat start)
        send
        Port.waitSent (line.observed time) timeout)
      (fun _ => Answered line (start + 176) before answer True)
      fun _ => Answered line (start + 176) before answer ready := by
  refine .bind (ensures_waitTurnaround_late hline) fun _ => ?_
  refine (Port.Ensures.bind hsend fun _ => Port.ensures_waitSent_drives hline timeout).mono
    (fun _ => id) (fun _ p hp => .of_begun hanswer hp) fun _ p hp => ?_
  obtain ⟨hstarts, hready⟩ | hbegun := hp
  · exact answered_nil hstarts hready
  · exact .of_begun hanswer hbegun

/-- The packet of a response is put into the frame buffer if there is room. -/
theorem ensures_write_poised (hline : line.KeepsTime time) (hpolled : line.Polled)
    (packet : Bytes) : Port.Ensures (Port.Poised time start before ready packet.length)
      (Port.write (line.observed time) packet)
      (fun count p => p.Poised time start before ready packet.length ∧
        (ready → count = packet.length))
      fun _ p => p.world.starts = before ∧ ¬ ready := by
  unfold Port.write Port.writeAt
  refine .withFront (fun _ hp => hp.interrupted hline hpolled) (fun p hp hsending => ?_)
    fun p hp _ => ?_
  · refine ⟨hp.still.starts, fun hready => ?_⟩
    rw [hp.idle hready] at hsending
    cases hsending
  · refine ⟨⟨hp.still, hp.idle, fun hready => ?_⟩, fun hready => ?_⟩
    · rw [FrameBuffer.capacity_writeAt]
      exact hp.room hready
    · exact FrameBuffer.length_writeAt (hp.room hready)

/-- The line is driven for an answer that is sent, and not before the turnaround is over. -/
theorem ensures_sendAnswer_drives (hline : line.KeepsTime time) (hpolled : line.Polled)
    (answer : Answer) :
    Port.Ensures (Port.Poised time start before ready answer.frame.length)
      (sendAnswer (line.observed time) (UInt64.ofNat start) answer)
      (fun _ => Answered line (start + 176) before answer True)
      fun _ => Answered line (start + 176) before answer ready := by
  refine .bind (Q := fun _ => Port.Poised time start before ready answer.frame.length)
    (.get fun _ => id) fun q => ?_
  cases answer with
  | silent =>
    refine .pure fun p hp => ⟨[], ?_, .nil, fun _ h => absurd rfl h⟩
    rw [hp.still.starts, List.append_nil]
  | discovery uid =>
    have hanswer : Answer.discovery uid ≠ .silent := by rintro ⟨⟩
    have hreply : DiscoveryReply.encode uid ≠ [] := List.cons_ne_nil _ _
    exact ensures_behind_turnaround hline hanswer _
      (Port.ensures_sendNoBreak_drives hline hpolled hreply)
  | response response =>
    have hpacket : 0 < (Message.response response).encode.length := by
      rw [Message.length_encode, Message.encodedLength]
      omega
    have hanswer : Answer.response response ≠ .silent := by rintro ⟨⟩
    refine .bind ((ensures_write_poised hline hpolled (Message.response response).encode).mono
      (fun _ => id) (fun _ _ => id) fun _ p hp => answered_nil hp.1 hp.2) fun count => ?_
    split_ifs with hcount
    · exact .throw fun p hp => answered_nil hp.1.still.starts fun hready => hcount (hp.2 hready)
    · exact (ensures_behind_turnaround hline hanswer _
        (Port.ensures_sendFrame_drives hline hpolled hpacket true .receive)).mono
        (fun _ hp => hp.1) (fun _ _ => id) fun _ _ => id

/-- A port that is still sending an earlier frame. -/
structure Busy (before : List Start) (base : Bytes) (p : Port (Observed σ) ε) : Prop where
  sending : p.engine.isSending = true
  starts : p.world.starts = before
  accepted : p.world.accepted = base

/-- Such a port sends nothing else. -/
theorem ensures_sendAnswer_busy (hpolled : line.Polled) (receivedAt : UInt64) (answer : Answer) :
    Port.Ensures (Busy before base) (sendAnswer (line.observed time) receivedAt answer)
      (fun _ => Busy before base) fun _ => Busy before base := by
  have hpolled : (line.observed time).Polled := fun t => hpolled t.world.world
  have hrely (p : Port (Observed σ) ε) (hp : Busy before base p) :
      Busy before base (Port.interrupted (line.observed time) p) := by
    rw [Port.interrupted_of_polled hpolled]
    exact ⟨hp.sending, hp.starts, hp.accepted⟩
  refine .bind (Q := fun _ => Busy before base) (.get fun _ => id) fun q => ?_
  cases answer with
  | silent => exact .pure fun _ => id
  | discovery uid =>
    refine .bind (Q := fun _ => Busy before base) (.bind (Q := fun _ => Busy before base)
      (.now fun p hp => ⟨hp.sending, hp.starts, hp.accepted⟩) fun now => ?_) fun _ => ?_
    · dsimp only
      split_ifs
      · exact .delay fun p hp => ⟨hp.sending, hp.starts, hp.accepted⟩
      · exact .pure fun _ => id
    · refine .bind (Q := fun _ _ => False) (fun p hp => ?_) fun _ _ hfalse => hfalse.elim
      have hp := hrely p hp
      rw [Port.exec_sendNoBreak]
      dsimp only
      rw [if_pos hp.sending]
      exact hp
  | response response =>
    have hwrite : Port.Ensures (Busy before base)
        (Port.write (line.observed time) (Message.response response).encode) (fun _ _ => False)
        fun _ => Busy before base := by
      unfold Port.write Port.writeAt
      refine .withFront hrely (fun _ hp _ => hp) fun p hp hidle => ?_
      rw [hp.sending] at hidle
      cases hidle
    exact .bind hwrite fun _ _ hfalse => hfalse.elim

end Answers

/-! ## Handling a frame -/

theorem runWith_onResponder (f : Responder κ γ → σ → α × Responder κ γ × σ)
    (receiver : Receiver κ γ) (p : Port σ ε) :
    runWith (onResponder f : ReceiverM κ γ σ ε η α) (receiver, p) =
      (.ok (f receiver.responder p.world).1,
        { receiver with responder := (f receiver.responder p.world).2.1 },
        { p with world := (f receiver.responder p.world).2.2 }) := rfl

/-- After some time, the port is left as this task leaves it. -/
def SendsLater (time : σ → ℕ) (task : PortM (Observed σ) ε Unit) (q : Port (Observed σ) ε)
    (out : Except (ReceiveError ε η) Unit × Receiver κ γ × Port (Observed σ) ε) : Prop :=
  ∃ t, q.world.Passes time t ∧ out.2.2 = (Port.exec task { q with world := t }).2 ∧
    (out.1 = .ok () → (Port.exec task { q with world := t }).1 = .ok ())

variable {time : σ → ℕ} {reception : Reception κ γ (Observed σ) η} {q : Port (Observed σ) ε}

/-- Handling a packet is to wait for the handlers and to send the answer. -/
theorem handlePacket_sends (hhandlers : reception.KeepsOff time)
    (line : Transport (Observed σ) ε) (packet : Bytes) (receivedAt : UInt64)
    (receiver : Receiver κ γ) :
    SendsLater time
      (sendAnswer line receivedAt (reception.answerTo packet receiver.responder q.world)) q
      (runWith (handlePacket line reception packet receivedAt) (receiver, q)) := by
  have hhere : q.world.Passes time q.world := .refl time q.world
  unfold handlePacket Reception.answerTo
  cases Message.decode packet with
  | error e => exact ⟨q.world, hhere, rfl, fun _ => rfl⟩
  | ok message =>
    cases message with
    | response => exact ⟨q.world, hhere, rfl, fun _ => rfl⟩
    | request request =>
      have hpasses := hhandlers.handle request receiver.responder q.world
      dsimp only
      rw [runWith_bind, runWith_onResponder]
      generalize Responder.handle reception.custom reception.fallback request receiver.responder
        q.world = handled at hpasses ⊢
      obtain ⟨answer | _ | _, _, t⟩ := handled
      · refine ⟨t, hpasses, rfl, fun h => ?_⟩
        dsimp only at h ⊢
        rw [runWith_onPort] at h
        generalize Port.exec (sendAnswer line receivedAt answer) { q with world := t } = sent at h ⊢
        obtain ⟨_ | _, _⟩ := sent
        · cases h
        · rfl
      · exact ⟨t, hpasses, rfl, fun _ => rfl⟩
      · exact ⟨t, hpasses, rfl, fun _ => rfl⟩

theorem handleFrame_sends (hhandlers : reception.KeepsOff time)
    (line : Transport (Observed σ) ε) (frame : Bytes) (receivedAt : UInt64)
    (receiver : Receiver κ γ) :
    SendsLater time
      (sendAnswer line receivedAt (reception.answerTo frame receiver.responder q.world)) q
      (runWith (handleFrame line reception frame receivedAt) (receiver, q)) := by
  unfold handleFrame
  cases frame with
  | nil =>
    have hhead : ([] : Bytes).head? ≠ some Packet.startCode := nofun
    rw [reception.answerTo_of_head hhead]
    exact ⟨q.world, .refl time q.world, rfl, fun _ => rfl⟩
  | cons first rest =>
    dsimp only
    split_ifs with hstart
    · exact handlePacket_sends hhandlers line (first :: rest) receivedAt receiver
    · have hhead : (first :: rest).head? ≠ some Packet.startCode := mt Option.some.inj hstart
      have hpasses := hhandlers.frame (first :: rest) receiver.responder q.world
      rw [reception.answerTo_of_head hhead, runWith_bind, runWith_onResponder]
      generalize reception.frame (first :: rest) receiver.responder q.world = handled at hpasses ⊢
      obtain ⟨_ | _, _, t⟩ := handled <;> exact ⟨t, hpasses, rfl, fun _ => rfl⟩

/-! ## Polling -/

theorem exec_now (line : Transport σ ε) (p : Port σ ε) :
    Port.exec (Port.now line) p = (.ok (line.now p.world).1, Port.ticked line p) := rfl

theorem exec_frame (line : Transport σ ε) (p : Port σ ε) : Port.exec (Port.frame line) p =
    (.ok (Port.interrupted line p).engine.front.received, Port.interrupted line p) := rfl

theorem runWith_read {next : Receiver κ γ → ReceiverM κ γ σ ε η β} (receiver : Receiver κ γ)
    (p : Port σ ε) : runWith (getThe (Receiver κ γ) >>= next) (receiver, p) =
      runWith (next receiver) (receiver, p) := rfl

/-- A receiver waits for a frame, reads the clock and the frame, and handles it. -/
theorem runWith_poll (line : Transport σ ε) (reception : Reception κ γ σ η)
    (receiver : Receiver κ γ) (p : Port σ ε) :
    runWith (poll line reception) (receiver, p) =
      let received := Port.exec (Port.receive line receiver.pollTimeout) p
      match received.1 with
      | .error .timeout => (.ok false, receiver, received.2)
      | .error e => (.error (.port e), receiver, received.2)
      | .ok _ =>
        let q := Port.interrupted line (Port.ticked line received.2)
        let handled := runWith (handleFrame line reception q.engine.front.received
          (line.now received.2.world).1) (receiver, q)
        (handled.1.map fun _ => true, handled.2) := by
  unfold poll
  rw [runWith_read, runWith_bind, runWith_tryPort]
  generalize Port.exec (Port.receive line receiver.pollTimeout) p = received
  obtain ⟨e | size, p₁⟩ := received
  · cases e <;> rfl
  · dsimp only
    rw [runWith_bind, runWith_onPort, exec_now]
    dsimp only [Except.mapError]
    rw [runWith_bind, runWith_onPort, exec_frame]
    dsimp only [Except.mapError]
    rw [runWith_bind]
    generalize runWith (handleFrame _ _ _ _) _ = handled
    obtain ⟨_ | _, _⟩ := handled <;> rfl

theorem runWith_poll_of_error {line : Transport σ ε} {reception : Reception κ γ σ η}
    {receiver : Receiver κ γ} {p : Port σ ε} {e : PortError ε}
    (h : (Port.exec (Port.receive line receiver.pollTimeout) p).1 = .error e) :
    (runWith (poll line reception) (receiver, p)).2 =
      (receiver, (Port.exec (Port.receive line receiver.pollTimeout) p).2) := by
  rw [runWith_poll]
  dsimp only
  rw [h]
  cases e <;> rfl

theorem runWith_poll_of_ok {line : Transport σ ε} {reception : Reception κ γ σ η}
    {receiver : Receiver κ γ} {p : Port σ ε} {size : ℕ} {receivedAt : UInt64}
    (h : (Port.exec (Port.receive line receiver.pollTimeout) p).1 = .ok size)
    (hnow : (line.now (Port.exec (Port.receive line receiver.pollTimeout) p).2.world).1 =
      receivedAt) :
    let received := (Port.exec (Port.receive line receiver.pollTimeout) p).2
    let q := Port.interrupted line (Port.ticked line received)
    let handled := runWith (handleFrame line reception q.engine.front.received receivedAt)
      (receiver, q)
    let out := runWith (poll line reception) (receiver, p)
    out.2 = handled.2 ∧ ∀ b, out.1 = .ok b → handled.1 = .ok () := by
  rw [runWith_poll]
  dsimp only
  rw [h, hnow]
  dsimp only
  generalize runWith (handleFrame _ _ _ _) _ = handled
  obtain ⟨_ | _, _⟩ := handled
  · exact ⟨rfl, nofun⟩
  · exact ⟨rfl, fun _ _ => rfl⟩

/-- A frame that is being sent is sent on while another one is waited for. -/
theorem receiving_transmits (line : Transport σ ε) (base frame : Bytes) :
    Port.Kept.Receiving line.taped (Port.Transmits base frame) where
  toKept := Port.kept_transmits line base frame
  waiting _ h := h.of_same rfl (fun _ => rfl) id rfl
  popFault h := h.popFault
  armReceive h := h.armReceive false
  takeFrame h := h.takeFrame

/-- What is done with a port from `q` to `q'` to answer a frame that was received when the clock
showed `start`. -/
structure Replies {E : Type} (line : Transport σ ε) (time : σ → ℕ) (start : ℕ) (answer : Answer)
    (q : Port (Observed σ) ε) (result : Except E α) (q' : Port (Observed σ) ε) : Prop where
  /-- The line gets the answer, and all of it if nothing fails. -/
  delivered : q.engine.isSending = false →
    Port.Delivered (line.journaled time) q answer.frame result q'
  /-- As long as an earlier frame is being sent, there is no answer. -/
  busy : q.engine.isSending = true → Busy q.world.starts q.world.accepted q'
  /-- The line is driven for the answer only, and behind the turnaround only. Whatever the driver
  does, the answer is begun if no frame is being sent and there is room for it. -/
  driven : Answered line (start + 176) q.world.starts answer
    ((∃ a, result = .ok a) ∨
      (q.engine.isSending = false ∧ answer.frame.length ≤ q.engine.front.capacity)) q'

variable {line : Transport σ ε} {start : ℕ} {answer : Answer}

/-- What stands of a result stands of one that succeeds less often. -/
theorem Replies.of_ok {E E' : Type} {result : Except E α} {result' : Except E' β}
    {q' : Port (Observed σ) ε} (h : Replies line time start answer q result q')
    (hok : ∀ b, result' = .ok b → ∃ a, result = .ok a) :
    Replies line time start answer q result' q' where
  delivered hidle := by
    obtain ⟨hpart, hwhole, hlater⟩ := h.delivered hidle
    refine ⟨hpart, fun b hb => ?_, hlater⟩
    obtain ⟨a, ha⟩ := hok b hb
    exact hwhole a ha
  busy := h.busy
  driven := h.driven.imp (Or.imp_left fun ⟨b, hb⟩ => hok b hb)

theorem replies_sendAnswer (hline : line.KeepsTime time) (hpolled : line.Polled)
    (hstart : start ≤ q.world.clock time) {t : Observed σ} (hpasses : q.world.Passes time t)
    (answer : Answer) :
    let sent := Port.exec (sendAnswer (line.observed time) (UInt64.ofNat start) answer)
      { q with world := t }
    Replies line time start answer q sent.1 sent.2 := by
  intro sent
  refine ⟨fun hidle => ?_, fun hsending => ?_, ?_⟩
  · have hrests : Port.Rests q.world.accepted { q with world := t } := ⟨hidle, hpasses.accepted⟩
    have hspares : SparesAnswer (line.observed time) (UInt64.ofNat start) answer
        { q with world := t } := by
      intro response _ a q' _
      rw [Port.Spared, Port.interrupted_of_polled fun t => hpolled t.world.world]
    exact Port.delivered_of_ends id
      (ensures_sendAnswer (UInt64.ofNat start) answer _ ⟨hrests, hspares⟩)
  · have hbusy : Busy q.world.starts q.world.accepted { q with world := t } :=
      ⟨hsending, hpasses.starts, hpasses.accepted⟩
    have hend : Port.Ends (fun _ => Busy q.world.starts q.world.accepted)
        (fun _ => Busy q.world.starts q.world.accepted) sent :=
      ensures_sendAnswer_busy hpolled (UInt64.ofNat start) answer _ hbusy
    exact hend.both
  · have hpoised : Port.Poised time start q.world.starts (q.engine.isSending = false ∧
        answer.frame.length ≤ q.engine.front.capacity) answer.frame.length
        { q with world := t } := ⟨hpasses.still ⟨hstart, rfl⟩, And.left, And.right⟩
    have hend : Port.Ends _ _ sent := ensures_sendAnswer_drives hline hpolled answer _ hpoised
    clear_value sent
    obtain ⟨_ | _, q'⟩ := sent
    · exact Answered.imp hend fun h => h.resolve_left nofun
    · exact Answered.imp hend fun _ => trivial

/-- Whoever handles a frame answers it. -/
theorem replies_handleFrame (hline : line.KeepsTime time) (hpolled : line.Polled)
    (hhandlers : reception.KeepsOff time) (hstart : start ≤ q.world.clock time) (frame : Bytes)
    (receiver : Receiver κ γ) :
    let handled := runWith (handleFrame (line.observed time) reception frame (UInt64.ofNat start))
      (receiver, q)
    Replies line time start (reception.answerTo frame receiver.responder q.world) q handled.1
      handled.2.2 := by
  intro handled
  obtain ⟨t, hpasses, hport, hok⟩ :=
    handleFrame_sends hhandlers (line.observed time) frame (UInt64.ofNat start) receiver (q := q)
  have hreplies := replies_sendAnswer hline hpolled hstart hpasses
    (reception.answerTo frame receiver.responder q.world)
  dsimp only at hreplies
  rw [← hport] at hreplies
  exact hreplies.of_ok fun _ hhandled => ⟨(), hok hhandled⟩

/-- On a line that is polled a receiver that polls sends one frame at most, the answer of its
responder to the request that it has received. It drives the line for nothing else, and not before
the turnaround is over that begins when the clock is read. Frames without the start code of packets,
frames that are no packets and responses have no answer. -/
theorem poll_answers (hline : line.KeepsTime time) (hpolled : line.Polled)
    (hhandlers : reception.KeepsOff time) (receiver : Receiver κ γ) (p : Port (Observed σ) ε) :
    let received := Port.exec (Port.receive (line.observed time) receiver.pollTimeout) p
    let read := Port.ticked (line.observed time) received.2
    let q := Port.interrupted (line.observed time) read
    let frame := q.engine.front.received
    let answer := reception.answerTo frame receiver.responder q.world
    let out := runWith (poll (line.observed time) reception) (receiver, p)
    (p.engine.isSending = false →
      received.2.Rests p.world.accepted ∧ received.2.world.starts = p.world.starts) ∧
    (∀ base earlier, p.Transmits base earlier → received.2.Transmits base earlier) ∧
    (∀ e, received.1 = .error e → out.2 = (receiver, received.2)) ∧
    (∀ size, received.1 = .ok size → q.engine = received.2.engine ∧
      received.2.world.Passes time q.world ∧
      Replies line time (read.world.clock time) answer q out.1 out.2.2) ∧
    (frame.head? ≠ some Packet.startCode → answer = .silent) ∧
    ∀ uid, answer = .discovery uid → answer.frame.length = 24 := by
  intro received read q frame answer out
  have hshown : ((line.observed time).now received.2.world).1 =
      UInt64.ofNat (read.world.clock time) := hline.shows _
  have hq : q = { read with world := ((line.observed time).interrupts read.world).2 } :=
    Port.interrupted_of_polled (fun t => hpolled t.world.world) read
  have hread : received.2.world.Passes time read.world := ⟨hline.now _, rfl, rfl⟩
  have hpasses : read.world.Passes time q.world := by
    rw [hq]
    exact ⟨hline.interrupts _, rfl, rfl⟩
  refine ⟨fun hidle => ?_, fun base earlier hp => ?_, fun e he => ?_, fun size hsize => ?_,
    fun hhead => ?_, fun uid huid => ?_⟩
  · have hundriven : p.Undriven time (p.world.clock time) p.world.starts := ⟨hidle, le_rfl, rfl⟩
    have hrests : p.Rests p.world.accepted := ⟨hidle, rfl⟩
    have hkept := Port.receiving_rests (line.journaled time) p.world.accepted
    have hkept₂ := Port.receiving_undriven hline (p.world.clock time) p.world.starts
    exact ⟨(hkept.receive receiver.pollTimeout p hrests).both,
      (hkept₂.receive receiver.pollTimeout p hundriven).both.still.starts⟩
  · exact ((receiving_transmits (line.journaled time) base earlier).receive receiver.pollTimeout p
      hp).both
  · exact runWith_poll_of_error he
  · refine ⟨by rw [hq]; rfl, hread.trans hpasses, ?_⟩
    have hreplies := replies_handleFrame hline hpolled hhandlers hpasses.clock_le frame receiver
    obtain ⟨hsame, hok⟩ := runWith_poll_of_ok hsize hshown
    rw [show out.2.2 = _ from congrArg Prod.snd hsame]
    exact hreplies.of_ok fun b hb => ⟨(), hok b hb⟩
  · exact reception.answerTo_of_head hhead receiver.responder q.world
  · rw [huid]
    exact DiscoveryReply.length_encode uid

/-! ## A slow device -/

open Responder (exampleConfig exampleDevice exampleSetAll)

/-- The request for a parameter that the device does not define. -/
def unknownRequest : Request :=
  { exampleSetAll with
    destination := .device exampleConfig.uid
    subDevice := SubDevice.root
    commandClass := .get
    pid := 0x8000
    data := .empty }

/-- A line on which the request comes in. -/
structure Inbox where
  /-- The time in microseconds. -/
  time : ℕ
  /-- The events of the request. -/
  events : List Event

/-- The next event of the request, or that the last byte has left. -/
def Inbox.poll (w : Inbox) : Option Event × Inbox :=
  match w.events with
  | [] => (some .txDone, w)
  | event :: events => (some event, { w with events := events })

/-- Each reading of the clock takes ten microseconds. -/
def inboxLine : Transport Inbox Empty where
  autoBreak := false
  write bytes w := (.ok bytes.length, w)
  read count w := (.ok ((Message.request unknownRequest).encode.take count), w)
  assertBreak w := (.ok (), w)
  releaseBreak w := (.ok (), w)
  flushReceived w := (.ok (), w)
  flushQueued w := (.ok (), w)
  poll := Inbox.poll
  interrupts w := ([], w)
  now w := (UInt64.ofNat (w.time + 10), { w with time := w.time + 10 })
  delay micros w := { w with time := w.time + micros.toNat }
  setAlarm _ w := (false, w)

theorem keepsTime_inboxLine : inboxLine.KeepsTime Inbox.time where
  shows _ := rfl
  now _ := Nat.le_add_right _ _
  write _ _ := le_rfl
  read _ _ := le_rfl
  assertBreak _ := le_rfl
  releaseBreak _ := le_rfl
  flushReceived _ := le_rfl
  flushQueued _ := le_rfl
  poll w := by
    change w.time ≤ w.poll.2.time
    unfold Inbox.poll
    split <;> exact le_rfl
  interrupts _ := le_rfl
  delay _ _ := le_rfl
  setAlarm _ _ := le_rfl

/-- What is not defined is refused, after fifty microseconds. -/
def slowReception : Reception Empty Empty (Observed Inbox) Empty where
  custom := Empty.elim
  fallback _ r t := (.ok (.notAcknowledged NackReason.unknownPid.code), r,
    { t with world := { t.world with world.time := t.world.world.time + 50 } })
  frame _ r t := (.ok (), r, t)

theorem keepsOff_slowReception : slowReception.KeepsOff Inbox.time where
  custom := nofun
  fallback _ _ _ := ⟨Nat.le_add_right _ _, rfl, rfl⟩
  frame _ _ t := .refl Inbox.time t

def slowReceiver : Receiver Empty Empty :=
  ⟨exampleDevice [], 1000⟩

/-- A port at which the request is about to be received. -/
def inboxPort : Port (Observed Inbox) Empty where
  config := {}
  engine := .create 64 {}
  world := ⟨⟨⟨1000, [.breakDetected, .rxData, .rxTimeout]⟩, []⟩, []⟩
  driverFault := none
  waiting := false
  lockDepth := 0
  transaction := 0
  patience := 8

/-- The clock shows 1050 when the request is received. Fifty of the 176 microseconds are over when
the handler ends; the others are waited for. -/
theorem poll_answers_slow :
    let line := inboxLine.observed Inbox.time
    let received := Port.exec (Port.receive line slowReceiver.pollTimeout) inboxPort
    let read := Port.ticked line received.2
    let q := Port.interrupted line read
    let answer := slowReception.answerTo q.engine.front.received slowReceiver.responder q.world
    let out := runWith (poll line slowReception) (slowReceiver, inboxPort)
    inboxLine.KeepsTime Inbox.time ∧ inboxLine.Polled ∧ slowReception.KeepsOff Inbox.time ∧
      received.1 = .ok 26 ∧
      Replies inboxLine Inbox.time (read.world.clock Inbox.time) answer q out.1 out.2.2 ∧
      read.world.clock Inbox.time = 1050 ∧ answer.hasBreak = true ∧ out.1 = .ok true ∧
      out.2.2.world.starts = [⟨true, 1236⟩, ⟨false, 1424⟩] := by
  have hpolled : inboxLine.Polled := fun _ => rfl
  have hreceived : (Port.exec (Port.receive (inboxLine.observed Inbox.time)
      slowReceiver.pollTimeout) inboxPort).1 = .ok 26 := by decide +kernel
  have hanswers := poll_answers keepsTime_inboxLine hpolled keepsOff_slowReception slowReceiver
    inboxPort
  dsimp only at hanswers ⊢
  refine ⟨keepsTime_inboxLine, hpolled, keepsOff_slowReception, hreceived,
    (hanswers.2.2.2.1 26 hreceived).2.2, ?_, ?_, ?_, ?_⟩
  all_goals decide +kernel

end Receiver

end LightingBus
