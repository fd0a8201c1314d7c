import LightingBus.Proofs.Line.Invariant
import LightingBus.Proofs.Line.Marks

/-!
# Received frames

`Engine.reception`: an engine that expects no frames without a break shows nothing but whole frames.
What it shows when it completes one is what the driver delivered since the last break it accepted,
in order, and since then nothing has gone wrong that could have damaged it. And whatever came
before, an engine that listens receives the next frame: a break, its bytes and an idle line.

1. `Transport.recorded` is a line that writes down what it delivers; `Operation.observed` is what an
   operation tells of the frame on the line, `heard` the bytes of that frame.
2. `Follows` is the invariant: while a frame is coming in, the back buffer holds what was heard of
   it. `Shows` is what a step does to the front buffer.
3. `takes_handle` goes through the events, `step_follows` through the operations.
4. Whether the owner has taken the frame before does not steer the engine, so `Run.shows` may look
   at an engine whose frame was taken: there, a frame is completed when there is one to take.
5. `received_next` takes an engine through a break, the bytes behind it and an idle line.
-/

namespace LightingBus

variable {σ ε : Type}

/-! ## What a line delivers -/

/-- A world and the bytes that its transport has delivered. -/
structure Recording (σ : Type) where
  world : σ
  delivered : Bytes

/-- An action on the world of a recording by which nothing is delivered. -/
def Recording.lift {α : Type} (f : σ → α × σ) (r : Recording σ) : α × Recording σ :=
  ((f r.world).1, { r with world := (f r.world).2 })

/-- The same line, which writes down what it delivers. -/
def Transport.recorded (line : Transport σ ε) : Transport (Recording σ) ε where
  autoBreak := line.autoBreak
  write bytes := Recording.lift (line.write bytes)
  read count r :=
    match line.read count r.world with
    | (.error x, w) => (.error x, { r with world := w })
    | (.ok bytes, w) => (.ok bytes, ⟨w, r.delivered ++ bytes.take count⟩)
  assertBreak := Recording.lift line.assertBreak
  releaseBreak := Recording.lift line.releaseBreak
  flushReceived := Recording.lift line.flushReceived
  flushQueued := Recording.lift line.flushQueued
  poll := Recording.lift line.poll
  interrupts := Recording.lift line.interrupts
  now := Recording.lift line.now
  delay micros r := { r with world := line.delay micros r.world }
  setAlarm micros := Recording.lift (line.setAlarm micros)

/-! ## What is heard of a frame -/

/-- What an operation tells of the frame on the line. -/
inductive Observation where
  /-- A break was accepted. -/
  | opened
  /-- The driver delivered bytes. -/
  | delivered (bytes : Bytes)
  /-- A byte was damaged or lost, the driver failed, or the line was taken for sending. -/
  | disturbed
  deriving DecidableEq

/-- The bytes of the frame on the line after a further observation. A frame that is disturbed, or
does not fit into a buffer, is lost as a whole. -/
def Observation.listen (capacity : ℕ) (frame : Option Bytes) : Observation → Option Bytes
  | .opened => some []
  | .delivered bytes => (frame.map (· ++ bytes)).filter fun frame => frame.length ≤ capacity
  | .disturbed => none

/-- What the driver delivered since the last break, if nothing went wrong since then. -/
def heard (capacity : ℕ) (seen : List Observation) : Option Bytes :=
  seen.foldl (Observation.listen capacity) none

/-- A packet ends behind its checksum, two bytes behind those that its third byte counts. -/
def cutPacket : Bytes → Bytes
  | start :: second :: length :: rest =>
    if start = 0xCC then (start :: second :: length :: rest).take (length.toNat + 2)
    else start :: second :: length :: rest
  | frame => frame

theorem heard_append (n : ℕ) (seen observed : List Observation) :
    heard n (seen ++ observed) = observed.foldl (Observation.listen n) (heard n seen) :=
  List.foldl_append

theorem heard_delivered {n : ℕ} {seen : List Observation} {frame bytes : Bytes}
    (h : heard n seen = some frame) (hfits : (frame ++ bytes).length ≤ n) :
    heard n (seen ++ [.delivered bytes]) = some (frame ++ bytes) := by
  rw [heard_append, h]
  exact if_pos (decide_eq_true hfits)

/-- An event by which a frame loses bytes. -/
def Event.damages : Event → Bool
  | .parityError | .overflow => true
  | _ => false

namespace FrameBuffer

variable {b : FrameBuffer}

theorem received_complete (b : FrameBuffer) (size : ℕ) :
    (b.complete size).received = b.filled.take size := by
  rw [received, complete, filled, List.take_take]

theorem Bounded.head_le_capacity {n : ℕ} (h : b.Bounded n) : b.head ≤ b.capacity := by
  rw [h.slots]
  exact h.head

theorem Bounded.length_filled {n : ℕ} (h : b.Bounded n) : b.filled.length = b.head :=
  List.length_take_of_le h.head_le_capacity

theorem filled_append (h : b.head ≤ b.capacity) (bytes : Bytes) :
    (b.append bytes).filled = b.filled ++ bytes.take (b.capacity - b.head) := by
  have hfront : (b.slots.take b.head ++ bytes.take (b.capacity - b.head)).length =
      b.head + (bytes.take (b.capacity - b.head)).length := by
    rw [List.length_append, List.length_take_of_le h]
  rw [filled, filled, append, Bytes.overwrite, List.take_left' hfront]

/-- A buffer that was rewound takes a whole frame. -/
theorem append_of_head_eq_zero {bytes : Bytes} (h : b.head = 0)
    (hfits : bytes.length ≤ b.capacity) :
    (b.append bytes).filled = bytes ∧ (b.append bytes).head = bytes.length := by
  constructor
  · rw [filled_append (h ▸ Nat.zero_le _), filled, h]
    exact List.take_of_length_le hfits
  · simp only [append, h, List.length_take]
    omega

end FrameBuffer

namespace Engine

/-- What the driver delivers while an event is handled. -/
def delivery (line : Transport σ ε) (kind : Event) (e : Engine) (w : σ) : Bytes :=
  (onEvent line.recorded kind e ⟨w, []⟩).2.2.delivered

/-- What an event tells of the frame on the line. A break is accepted by an engine that listens and
does not send. -/
def told (line : Transport σ ε) (kind : Event) (e : Engine) (w : σ) : List Observation :=
  (if kind = .breakDetected ∧ e.mode = .receive ∧ e.isSending = false then [.opened] else []) ++
    .delivered (delivery line kind e w) ::
      if kind.damages || !(onEvent line kind e w).1.isOk then [.disturbed] else []

/-- What an operation tells of the frame on the line. -/
def Operation.observed (line : Transport σ ε) (w : σ) (e : Engine) : Operation → List Observation
  | .event kind => told line kind e w
  | .beginSend size withBreak turnaround =>
    match (Engine.beginSend line e size withBreak turnaround w).1 with
    | .error .busy | .error .bufferOverflow => []
    | _ => [.disturbed]
  | .setMode .transmit => [.disturbed]
  | _ => []

/-- The operation copies bytes into the front buffer. -/
def Operation.edits : Operation → Bool
  | .writeAt .. => true
  | _ => false

/-- The operation completes a frame: if the frame before is taken, there is another one to take. -/
def Operation.completes (line : Transport σ ε) (w : σ) (e : Engine) (op : Operation) : Bool :=
  (op.run line w e.takeFrame.2).frameReady

/-- A new engine and what becomes of it by operations, with what they tell of the frames on the
line, as long as no frame without a break is expected. The line may be another one each time. -/
inductive Run (capacity : ℕ) (timing : EngineTiming) : List Observation → Engine → Prop where
  | create : Run capacity timing [] (.create capacity timing)
  | operate {σ ε : Type} (line : Transport σ ε) (w : σ) (op : Operation) {seen : List Observation}
    {e : Engine} : Run capacity timing seen e → (op.run line w e).expectNoBreak = false →
    Run capacity timing (seen ++ op.observed line w e) (op.run line w e)

variable {line : Transport σ ε} {n size : ℕ} {timing : EngineTiming} {e e₁ : Engine} {w : σ}
  {seen : List Observation} {bytes : Bytes} {out : Except ε Unit × Engine × σ}

/-! ## What a step shows -/

/-- Readers see what they saw before, and no frame was completed. -/
structure Same (e e' : Engine) : Prop where
  received : e'.front.received = e.front.received
  ready : e'.frameReady = true → e.frameReady = true

/-- Readers see what they saw before, or the frame that was heard. -/
def Shows (n : ℕ) (seen : List Observation) (e e' : Engine) : Prop :=
  Same e e' ∨ e'.frameReady = true ∧
    ∃ frame, heard n seen = some frame ∧ e'.front.received = cutPacket frame

theorem Same.of_eq (hfront : e₁.front = e.front) (hready : e₁.frameReady = e.frameReady) :
    Same e e₁ :=
  ⟨by rw [hfront], by rw [hready]; exact id⟩

theorem Same.trans {e₂ : Engine} (h₁ : Same e e₁) (h₂ : Same e₁ e₂) : Same e e₂ :=
  ⟨h₂.received.trans h₁.received, fun h => h₁.ready (h₂.ready h)⟩

theorem Shows.of_front {e₂ : Engine} (h : Shows n seen e e₁) (hfront : e₂.front = e₁.front)
    (hready : e₂.frameReady = e₁.frameReady) : Shows n seen e e₂ := by
  obtain hsame | ⟨hframe, frame, hheard, hreceived⟩ := h
  · exact .inl (hsame.trans (.of_eq hfront hready))
  · exact .inr ⟨hready.trans hframe, frame, hheard, by rw [hfront, hreceived]⟩

theorem Shows.after {e₂ : Engine} (h₂ : Shows n seen e₁ e₂) (h₁ : Same e e₁) : Shows n seen e e₂ :=
  h₂.imp h₁.trans id

/-! ## What an engine knows of the frame on the line -/

/-- While a frame is coming in, the back buffer holds what was heard of it, and the end of the frame
is not reached. -/
structure Follows (n : ℕ) (seen : List Observation) (e : Engine) : Prop where
  hears : e.isReceiving = true → heard n seen = some e.back.filled
  withBreak : e.isReceiving = true → e.rxWithoutBreak = false
  empty : e.rxState = .inBreak ∨ e.rxState = .inMab → e.back.head = 0
  untold {size : ℕ} : e.rxState = .inData → sizeTold? false e.back.filled = some size →
    e.back.head < size

theorem isReceiving_of_inData (h : e.rxState = .inData) : e.isReceiving = true := by
  rw [isReceiving, h]

theorem Follows.of_silent (h : e.isReceiving = false) : Follows n seen e where
  hears hr := by rw [h] at hr; cases hr
  withBreak hr := by rw [h] at hr; cases hr
  empty hrx := by
    rw [isReceiving] at h
    rcases hrx with hrx | hrx <;> rw [hrx] at h <;> cases h
  untold hrx := by
    rw [isReceiving_of_inData hrx] at h
    cases h

/-- Only the receiving side matters. -/
theorem Follows.of_eq (h : Follows n seen e) (hrx : e₁.rxState = e.rxState)
    (hback : e₁.back = e.back) (hwith : e₁.rxWithoutBreak = e.rxWithoutBreak) :
    Follows n seen e₁ where
  hears hr := by rw [hback]; exact h.hears (isReceiving_congr hrx ▸ hr)
  withBreak hr := by rw [hwith]; exact h.withBreak (isReceiving_congr hrx ▸ hr)
  empty hrx' := by rw [hback]; exact h.empty (hrx ▸ hrx')
  untold hrx' hsize := by
    rw [hback] at hsize ⊢
    exact h.untold (hrx ▸ hrx') hsize

/-- To be delivered nothing is to be told nothing. -/
theorem Follows.delivered_nil (h : Follows n seen e) (hback : e.back.Bounded n) :
    Follows n (seen ++ [.delivered []]) e where
  hears hr := by
    have hfits : (e.back.filled ++ []).length ≤ n := by
      rw [List.append_nil, hback.length_filled]
      exact hback.head
    rw [heard_delivered (h.hears hr) hfits, List.append_nil]
  withBreak := h.withBreak
  empty := h.empty
  untold := h.untold

theorem cutPacket_eq (frame : Bytes) :
    cutPacket frame = match sizeTold? false frame with
      | some size => frame.take size
      | none => frame := by
  rcases frame with _ | ⟨start, _ | ⟨second, _ | ⟨length, rest⟩⟩⟩
  iterate 3 rfl
  by_cases hstart : start = 0xCC <;> simp [cutPacket, sizeTold?, Packet.startCode, hstart]

/-- A frame whose end is not reached is whole. -/
theorem cutPacket_of_untold (h : ∀ size, sizeTold? false bytes = some size → bytes.length < size) :
    cutPacket bytes = bytes := by
  rw [cutPacket_eq]
  split
  next size hsize => exact List.take_of_length_le (Nat.le_of_lt (h size hsize))
  next => rfl

theorem received_completeFrame (e : Engine) (size : ℕ) :
    (e.completeFrame size).front.received = e.back.filled.take size :=
  FrameBuffer.received_complete e.back size

/-- The frame that has come in may be completed as it is. -/
theorem Follows.shows_completeFrame (h : Follows n seen e) (hback : e.back.Bounded n)
    (hdata : e.rxState = .inData) : Shows n seen e (e.completeFrame e.back.head) := by
  refine .inr ⟨rfl, e.back.filled, h.hears (isReceiving_of_inData hdata), ?_⟩
  rw [received_completeFrame, List.take_of_length_le (Nat.le_of_eq hback.length_filled),
    cutPacket_of_untold]
  intro size hsize
  rw [hback.length_filled]
  exact h.untold hdata hsize

/-- An idle line ends a frame that has bytes. -/
theorem Follows.onRxTimeout (h : Follows n seen e) (hback : e.back.Bounded n) :
    Follows n seen e.onRxTimeout ∧ Shows n seen e e.onRxTimeout := by
  unfold Engine.onRxTimeout
  split_ifs with hreceiving hdata
  · exact ⟨.of_silent rfl, h.shows_completeFrame hback hdata.1⟩
  · exact ⟨.of_silent rfl, .inl ⟨rfl, id⟩⟩
  · exact ⟨h, .inl ⟨rfl, id⟩⟩

theorem Follows.checkIdle (h : Follows n seen e) (hback : e.back.Bounded n) (now : UInt64) :
    Follows n seen (e.checkIdle now) ∧ Shows n seen e (e.checkIdle now) := by
  unfold Engine.checkIdle
  split_ifs
  · exact h.onRxTimeout hback
  · exact ⟨h, .inl ⟨rfl, id⟩⟩

/-- A break that is accepted ends the frame before it and opens another one. -/
theorem Follows.onBreak (h : Follows n seen e) (hback : e.back.Bounded n)
    (haccepts : e.acceptsRx = true) (now : UInt64) :
    Follows n (seen ++ [.opened]) (e.onBreak now) ∧ Shows n seen e (e.onBreak now) := by
  have hopened : heard n (seen ++ [.opened]) = some [] := by
    rw [heard_append]
    rfl
  unfold Engine.onBreak
  rw [if_pos haccepts]
  split_ifs with hdata
  · exact ⟨⟨fun _ => hopened, fun _ => rfl, fun _ => rfl, nofun⟩,
      (h.shows_completeFrame hback hdata.1).of_front rfl rfl⟩
  · exact ⟨⟨fun _ => hopened, fun _ => rfl, fun _ => rfl, nofun⟩, .inl ⟨rfl, id⟩⟩

/-! ## Bytes -/

/-- What becomes of an engine, and of what it shows, when the driver has delivered bytes to it. -/
structure Takes (n : ℕ) (seen : List Observation) (e : Engine) (bytes : Bytes)
    (out : Except ε Unit × Engine × σ) : Prop where
  follows : out.1 = .ok () → Follows n (seen ++ [.delivered bytes]) out.2.1
  shows : Shows n (seen ++ [.delivered bytes]) e out.2.1
  failed {x : ε} : out.1 = .error x → Same e out.2.1

/-- The driver has failed. -/
theorem Takes.of_error {x : ε} (h : Same e e₁) : Takes n seen e bytes (.error x, e₁, w) :=
  ⟨nofun, .inl h, fun _ => h⟩

/-- Nothing is taken. -/
theorem Takes.of_same (hfollows : Follows n (seen ++ [.delivered bytes]) e₁) (h : Same e e₁) :
    Takes n seen e bytes ((.ok () : Except ε Unit), e₁, w) :=
  ⟨fun _ => hfollows, .inl h, fun _ => h⟩

theorem Takes.after (h : Takes n seen e₁ bytes out) (hsame : Same e e₁) :
    Takes n seen e bytes out :=
  ⟨h.follows, h.shows.after hsame, fun hx => hsame.trans (h.failed hx)⟩

/-- A frame whose bytes tell its end is cut there. -/
theorem takes_completeIfTold (hheard : heard n (seen ++ [.delivered bytes]) = some e.back.filled)
    (hwith : e.rxWithoutBreak = false) (hdata : e.rxState = .inData) :
    Takes n seen e bytes ((.ok () : Except ε Unit), e.completeIfTold, w) := by
  suffices h : Follows n (seen ++ [.delivered bytes]) e.completeIfTold ∧
      Shows n (seen ++ [.delivered bytes]) e e.completeIfTold from
    ⟨fun _ => h.1, h.2, nofun⟩
  unfold completeIfTold
  rw [hwith]
  have hempty : ¬(e.rxState = .inBreak ∨ e.rxState = .inMab) := by
    rw [hdata]
    simp
  split
  next size hsize =>
    split_ifs with hreached
    · refine ⟨.of_silent rfl, .inr ⟨rfl, e.back.filled, hheard, ?_⟩⟩
      rw [received_completeFrame, cutPacket_eq, hsize]
    · refine ⟨⟨fun _ => hheard, fun _ => hwith, fun h => absurd h hempty, fun _ hsize' => ?_⟩,
        .inl ⟨rfl, id⟩⟩
      obtain rfl := Option.some.inj (hsize.symm.trans hsize')
      omega
  next hnone =>
    refine ⟨⟨fun _ => hheard, fun _ => hwith, fun h => absurd h hempty, fun _ hsize => ?_⟩,
      .inl ⟨rfl, id⟩⟩
    rw [hnone] at hsize
    cases hsize

/-- If there is a byte behind the last slot, the frame is lost. -/
theorem takes_probeFull (hheard : heard n (seen ++ [.delivered bytes]) = some e.back.filled)
    (hwith : e.rxWithoutBreak = false) (hdata : e.rxState = .inData) :
    Takes n seen e (probeFull line.recorded e ⟨w, bytes⟩).2.2.delivered (probeFull line e w) := by
  unfold probeFull
  simp only [Transport.recorded]
  rcases line.read 1 w with ⟨x | _ | ⟨byte, more⟩, w₁⟩
  · exact .of_error (.of_eq rfl rfl)
  · dsimp only
    rw [List.take_nil, List.append_nil]
    exact takes_completeIfTold hheard hwith hdata
  · dsimp only [Recording.lift]
    rcases line.flushReceived w₁ with ⟨x | _, w₂⟩
    · exact .of_error (.of_eq rfl rfl)
    · exact .of_same (.of_silent rfl) (.of_eq rfl rfl)

/-- Bytes are taken for the frame that is coming in. -/
theorem takes_takeBytes (h : Follows n seen e) (hdata : e.rxState = .inData)
    (hback : e.back.Bounded n) :
    Takes n seen e (takeBytes line.recorded e ⟨w, []⟩).2.2.delivered (takeBytes line e w) := by
  have hreceiving := isReceiving_of_inData hdata
  unfold takeBytes
  simp only [Transport.recorded]
  rcases line.read (e.back.capacity - e.back.head) w with ⟨x | bytes, w₁⟩
  · exact .of_error (.of_eq rfl rfl)
  dsimp only
  rw [List.nil_append]
  have hfilled := FrameBuffer.filled_append hback.head_le_capacity bytes
  have hbounded : (e.back.append bytes).Bounded n := hback.append bytes
  have hheard : heard n (seen ++ [.delivered (bytes.take (e.back.capacity - e.back.head))]) =
      some (e.back.append bytes).filled := by
    rw [hfilled]
    refine heard_delivered (h.hears hreceiving) ?_
    rw [← hfilled, hbounded.length_filled]
    exact hbounded.head
  have happended : Same e { e with back := e.back.append bytes } := .of_eq rfl rfl
  refine Takes.after ?_ happended
  split_ifs
  · exact takes_probeFull hheard (h.withBreak hreceiving) hdata
  · exact takes_completeIfTold hheard (h.withBreak hreceiving) hdata

theorem takes_discard (h : Follows n seen e) (hback : e.back.Bounded n) :
    Takes n seen e (discard line.recorded e ⟨w, []⟩).2.2.delivered (discard line e w) := by
  unfold discard
  simp only [Transport.recorded, Recording.lift]
  rcases line.flushReceived w with ⟨x | _, w₁⟩
  · exact .of_error (.of_eq rfl rfl)
  · exact .of_same (h.delivered_nil hback) (.of_eq rfl rfl)

/-- Without a break in front of them, bytes belong to no frame. -/
theorem Follows.beginData? (h : Follows n seen e) (hexpect : e.expectNoBreak = false)
    (hbegin : e.beginData? = some e₁) :
    Follows n seen e₁ ∧ e₁.rxState = .inData ∧ e₁.back = e.back ∧ Same e e₁ := by
  have hdata (hrx : e.isReceiving = true) (hempty : e.rxState ≠ .inData → e.back.head = 0) :
      Follows n seen { e with rxState := .inData } := by
    refine ⟨fun _ => h.hears hrx, fun _ => h.withBreak hrx, by simp, fun _ hsize => ?_⟩
    by_cases hin : e.rxState = .inData
    · exact h.untold hin hsize
    · rw [FrameBuffer.filled, hempty hin] at hsize
      cases hsize
  unfold Engine.beginData? at hbegin
  cases hrx : e.rxState with
  | idle | frameComplete =>
    rw [hrx] at hbegin
    simp [hexpect] at hbegin
  | error =>
    rw [hrx] at hbegin
    cases hbegin
  | inBreak | inMab =>
    rw [hrx] at hbegin
    cases hbegin
    refine ⟨hdata (by rw [isReceiving, hrx]) fun _ => h.empty (by simp [hrx]), rfl, rfl, rfl, id⟩
  | inData =>
    rw [hrx] at hbegin
    cases hbegin
    exact ⟨hdata (isReceiving_of_inData hrx) fun hne => absurd hrx hne, rfl, rfl, rfl, id⟩

theorem takes_onRxData (h : Follows n seen e) (hexpect : e.expectNoBreak = false)
    (hback : e.back.Bounded n) (now : UInt64) :
    Takes n seen e (onRxData line.recorded e now ⟨w, []⟩).2.2.delivered
      (onRxData line e now w) := by
  unfold onRxData
  split_ifs
  · cases hbegin : e.beginData? with
    | none => exact takes_discard h hback
    | some e₁ =>
      obtain ⟨hfollows, hdata, hback₁, hsame⟩ := h.beginData? hexpect hbegin
      have hnow : Follows n seen { e₁ with lastReceived := now } := hfollows.of_eq rfl rfl rfl
      exact (takes_takeBytes hnow hdata (hback₁ ▸ hback)).after ⟨hsame.received, hsame.ready⟩
  · exact takes_discard h hback

/-! ## Events -/

theorem delivery_eq (line : Transport σ ε) (kind : Event) (e : Engine) (w : σ) :
    delivery line kind e w = (handle line.recorded kind e ⟨w, []⟩).2.2.delivered := by
  unfold delivery onEvent
  generalize handle line.recorded kind e ⟨w, []⟩ = out
  obtain ⟨_ | _, _, _⟩ := out <;> rfl

/-- Whatever event occurs while no frame is sent, a break apart, the frame that is coming in is
followed. -/
theorem takes_handle (h : Follows n seen e) (hexpect : e.expectNoBreak = false)
    (hback : e.back.Bounded n) (hidle : e.isSending = false) {kind : Event}
    (hkind : kind ≠ .breakDetected) :
    Takes n seen e (delivery line kind e w) (handle line kind e w) := by
  have hnil := h.delivered_nil hback
  have hsilent : e.txState ≠ .inBreak ∧ e.txState ≠ .inMab ∧ e.txState ≠ .sending := by
    rw [← not_or, ← not_or, ← isSending_iff, hidle]
    exact Bool.false_ne_true
  rw [delivery_eq]
  cases kind with
  | breakDetected => exact absurd rfl hkind
  | mabElapsed =>
    refine .of_same ?_ ?_
    · split_ifs with hrx
      · refine ⟨fun _ => hnil.hears ?_, fun _ => hnil.withBreak ?_, fun _ => hnil.empty (.inl hrx),
          nofun⟩
        all_goals rw [isReceiving, hrx]
      · exact hnil
    · split_ifs <;> exact .of_eq rfl rfl
  | rxData => exact takes_onRxData h hexpect hback (line.now w).1
  | rxTimeout =>
    obtain ⟨hfollows, hshows⟩ := hnil.onRxTimeout hback
    refine ⟨fun _ => hfollows, hshows, ?_⟩
    intro x herror
    cases herror
  | parityError =>
    refine .of_same ?_ ?_
    · unfold onParityError
      split_ifs
      · exact .of_silent rfl
      · exact hnil
    · unfold onParityError
      split_ifs <;> exact .of_eq rfl rfl
  | overflow =>
    unfold handle onOverflow
    simp only [Transport.recorded, Recording.lift]
    rcases line.flushReceived w with ⟨_ | _, _⟩
    · exact .of_error (.of_eq rfl rfl)
    · exact .of_same (.of_silent rfl) (.of_eq rfl rfl)
  | txEmpty =>
    simp only [handle, if_neg hsilent.2.2]
    exact .of_same hnil (.of_eq rfl rfl)
  | txDone =>
    simp only [handle, onTxDone, if_neg hsilent.2.2]
    exact .of_same hnil (.of_eq rfl rfl)
  | alarm =>
    have halarm {σ : Type} (line : Transport σ ε) (w : σ) : onAlarm line e w = (.ok (), e, w) := by
      unfold onAlarm
      split
      next htx => exact absurd htx hsilent.1
      next htx => exact absurd htx hsilent.2.1
      all_goals rfl
    simp only [handle, halarm]
    exact .of_same hnil (.of_eq rfl rfl)

theorem same_fail (e : Engine) : Same e e.fail := by
  unfold fail
  dsimp only
  split_ifs <;> exact .of_eq rfl rfl

/-- A frame that loses bytes is given up as a whole. -/
theorem lost_handle (line : Transport σ ε) (e : Engine) (w : σ) {kind : Event}
    (hkind : kind.damages = true)
    (hok : (handle line kind e w).1 = .ok ()) :
    (handle line kind e w).2.1.isReceiving = false ∧ Same e (handle line kind e w).2.1 := by
  cases kind with
  | parityError =>
    unfold handle onParityError
    dsimp only
    split_ifs with hreceiving
    · exact ⟨rfl, .of_eq rfl rfl⟩
    · exact ⟨Bool.eq_false_iff.mpr hreceiving, .of_eq rfl rfl⟩
  | overflow =>
    unfold handle onOverflow at hok ⊢
    dsimp only at hok ⊢
    split at hok
    next => cases hok
    next => exact ⟨rfl, .of_eq rfl rfl⟩
  | _ => cases hkind

/-- The engine follows the frame on the line through a break while no frame is sent. -/
theorem follows_breakDetected (h : Follows n seen e) (hbounded : e.Bounded n) :
    Follows n (seen ++ told line .breakDetected e w) (onEvent line .breakDetected e w).2.1 ∧
      Shows n (seen ++ (told line .breakDetected e w).takeWhile (· ≠ .opened)) e
        (onEvent line .breakDetected e w).2.1 := by
  change Follows n _ (e.onBreak (line.now w).1) ∧ Shows n _ e (e.onBreak (line.now w).1)
  unfold told
  by_cases haccepts : e.acceptsRx = true
  · obtain ⟨hfollows, hshows⟩ := h.onBreak hbounded.back haccepts (line.now w).1
    have hbounded₁ : (e.onBreak (line.now w).1).Bounded n := (listens_onBreak e _).bounded hbounded
    rw [if_pos ⟨rfl, acceptsRx_iff.mp haccepts⟩, ← List.append_assoc]
    refine ⟨?_, ?_⟩
    · exact (hfollows.delivered_nil hbounded₁.back)
    · exact (List.append_nil seen).symm ▸ hshows
  · rw [if_neg fun hopens => haccepts (acceptsRx_iff.mpr hopens.2), Engine.onBreak,
      if_neg haccepts]
    exact ⟨h.delivered_nil hbounded.back, .inl (.of_eq rfl rfl)⟩

/-- The engine follows the frame on the line through any event while no frame is sent. -/
theorem follows_onEvent (line : Transport σ ε) (w : σ) (h : Follows n seen e)
    (hexpect : e.expectNoBreak = false)
    (hbounded : e.Bounded n) (hidle : e.isSending = false) (kind : Event) :
    Follows n (seen ++ told line kind e w) (onEvent line kind e w).2.1 ∧
      Shows n (seen ++ (told line kind e w).takeWhile (· ≠ .opened)) e
        (onEvent line kind e w).2.1 := by
  by_cases hkind : kind = .breakDetected
  · subst hkind
    exact follows_breakDetected h hbounded
  have htakes : Takes n seen e (delivery line kind e w) (handle line kind e w) :=
    takes_handle h hexpect hbounded.back hidle hkind
  have hlost (hdamages : kind.damages = true) := lost_handle line e w hdamages
  unfold told
  rw [if_neg fun hopens => hkind hopens.1, List.nil_append]
  unfold onEvent
  generalize handle line kind e w = out at htakes hlost
  obtain ⟨x | ⟨⟩, e₁, w₁⟩ := out
  · exact ⟨.of_silent (fail_keeps e₁).2.2.2.1, .inl ((htakes.failed rfl).trans (same_fail e₁))⟩
  · cases hdamages : kind.damages with
    | true =>
      obtain ⟨hsilent, hsame⟩ := hlost hdamages rfl
      exact ⟨.of_silent hsilent, .inl hsame⟩
    | false => exact ⟨htakes.follows rfl, htakes.shows⟩

/-! ## Operations -/

theorem kept_unready : Marks.Kept fun m _ => m.ready = false :=
  ⟨fun _ => rfl, id, id, id, id⟩

/-- Whoever keeps the marks of an engine without a completed frame completes none. -/
theorem ready_of_alike (h : e.frameReady = false → Alike (fun m _ => m.ready = false) e₁ e₁) :
    e₁.frameReady = true → e.frameReady = true := by
  intro hready
  by_contra hnot
  have hunready : e₁.frameReady = false := (h (Bool.eq_false_iff.mpr hnot)).rel
  rw [hready] at hunready
  cases hunready

theorem received_of_head {b b₁ : FrameBuffer} (h : b₁ = { b with head := b₁.head }) :
    b₁.received = b.received := by
  rw [h]
  rfl

/-- While a frame is sent, no event completes one. -/
theorem same_onEvent (hwell : e.WellFormed n) (hsending : e.isSending = true) (kind : Event) :
    Same e (onEvent line kind e w).2.1 := by
  obtain ⟨hsilent, -⟩ := hwell.sending hsending
  have hsends := sends_onEvent line.accounts_true hsending hsilent kind (w := w)
  refine ⟨received_of_head hsends.front, ready_of_alike fun hunready => ?_⟩
  refine (alike_onEvent kept_unready (fun h => ?_) ⟨rfl, hunready⟩ kind).engine
  rw [acceptsRx_of_isSending hsending, hsilent] at h
  simp at h

/-- Whoever begins to send gives up receiving. -/
theorem follows_beginSend (line : Transport σ ε) (w : σ) (h : Follows n seen e) (size : ℕ)
    (withBreak : Bool) (turnaround : Turnaround) :
    Follows n (seen ++ (Operation.beginSend size withBreak turnaround).observed line w e)
        (beginSend line e size withBreak turnaround w).2.1 ∧
      Same e (beginSend line e size withBreak turnaround w).2.1 := by
  have hready : (beginSend line e size withBreak turnaround w).2.1.frameReady = true →
      e.frameReady = true :=
    ready_of_alike fun hunready =>
      (alike_beginSend kept_unready ⟨rfl, hunready⟩ size withBreak turnaround).engine
  have hrefused {x : PortError ε} (hout : beginSend line e size withBreak turnaround w =
      (.error x, e, w)) (hx : x = .busy ∨ x = .bufferOverflow) :
      (Operation.beginSend size withBreak turnaround).observed line w e = [] := by
    simp only [Operation.observed, hout]
    rcases hx with rfl | rfl <;> rfl
  by_cases hsending : e.isSending = true
  · have hout := beginSend_eq line e size withBreak turnaround w
    rw [if_pos hsending] at hout
    rw [hrefused hout (.inl rfl), hout, List.append_nil]
    exact ⟨h, .of_eq rfl rfl⟩
  by_cases hsize : e.front.capacity < size
  · have hout := beginSend_eq line e size withBreak turnaround w
    rw [if_neg hsending, if_pos hsize] at hout
    rw [hrefused hout (.inr rfl), hout, List.append_nil]
    exact ⟨h, .of_eq rfl rfl⟩
  obtain ⟨e₁, w₁, hout, hsends⟩ | ⟨x, e₁, w₁, hout, hsends⟩ :=
    sends_beginSend line.accounts_true withBreak turnaround (Bool.eq_false_iff.mpr hsending)
      (Nat.le_of_not_lt hsize) (w := w)
  all_goals
    rw [hout] at hready ⊢
    have hsilent : e₁.isReceiving = false := hsends.silent rfl
    have hreceived : e₁.front.received = (e.prepared size turnaround).front.received :=
      received_of_head hsends.front
    exact ⟨.of_silent hsilent, hreceived, hready⟩

/-- The engine follows the frame on the line through any operation, and shows nothing but it. -/
theorem step_follows (hwell : e.WellFormed n) (hexpect : e.expectNoBreak = false)
    (h : Follows n seen e) (op : Operation) :
    Follows n (seen ++ op.observed line w e) (op.run line w e) ∧
      (op.edits = false →
        Shows n (seen ++ (op.observed line w e).takeWhile (· ≠ .opened)) e (op.run line w e)) := by
  have quiet {e₁ : Engine} (hrx : e₁.rxState = e.rxState) (hback : e₁.back = e.back)
      (hwith : e₁.rxWithoutBreak = e.rxWithoutBreak) : Follows n (seen ++ []) e₁ := by
    rw [List.append_nil]
    exact h.of_eq hrx hback hwith
  cases op with
  | beginSend size withBreak turnaround =>
    obtain ⟨hfollows, hsame⟩ := follows_beginSend line w h size withBreak turnaround
    exact ⟨hfollows, fun _ => .inl hsame⟩
  | event kind =>
    cases hsending : e.isSending with
    | true =>
      have hsilent := (sends_onEvent line.accounts_true hsending (hwell.sending hsending).1 kind
        (w := w)).silent (hwell.sending hsending).1
      exact ⟨.of_silent hsilent, fun _ => .inl (same_onEvent hwell hsending kind)⟩
    | false =>
      obtain ⟨hfollows, hshows⟩ := follows_onEvent line w h hexpect hwell.bounded hsending kind
      exact ⟨hfollows, fun _ => hshows⟩
  | checkIdle now =>
    obtain ⟨hfollows, hshows⟩ := h.checkIdle hwell.bounded.back now
    rw [show seen = seen ++ [] from (List.append_nil seen).symm] at hfollows hshows
    exact ⟨hfollows, fun _ => hshows⟩
  | setMode mode =>
    cases mode with
    | receive => exact ⟨quiet rfl rfl rfl, fun _ => .inl (.of_eq rfl rfl)⟩
    | transmit => exact ⟨.of_silent rfl, fun _ => .inl (.of_eq rfl rfl)⟩
  | armReceive noBreak => exact ⟨quiet rfl rfl rfl, fun _ => .inl ⟨rfl, nofun⟩⟩
  | abortSend =>
    have haborted : e.abortSend.2.rxState = e.rxState ∧ e.abortSend.2.back = e.back ∧
        e.abortSend.2.rxWithoutBreak = e.rxWithoutBreak ∧ Same e e.abortSend.2 := by
      unfold Engine.abortSend
      dsimp only
      split_ifs <;> exact ⟨rfl, rfl, rfl, rfl, id⟩
    obtain ⟨hrx, hback, hwith, hsame⟩ := haborted
    exact ⟨quiet hrx hback hwith, fun _ => .inl hsame⟩
  | takeFrame =>
    have htaken : e.takeFrame.2.rxState = e.rxState ∧ e.takeFrame.2.back = e.back ∧
        e.takeFrame.2.rxWithoutBreak = e.rxWithoutBreak ∧ Same e e.takeFrame.2 := by
      unfold Engine.takeFrame
      split_ifs
      · exact ⟨rfl, rfl, rfl, rfl, nofun⟩
      · exact ⟨rfl, rfl, rfl, rfl, id⟩
    obtain ⟨hrx, hback, hwith, hsame⟩ := htaken
    exact ⟨quiet hrx hback hwith, fun _ => .inl hsame⟩
  | takeFaults => exact ⟨quiet rfl rfl rfl, fun _ => .inl (.of_eq rfl rfl)⟩
  | writeAt offset bytes => exact ⟨quiet rfl rfl rfl, nofun⟩

theorem Run.follows (h : Run n timing seen e) :
    e.WellFormed n ∧ e.expectNoBreak = false ∧ Follows n seen e := by
  induction h with
  | create => exact ⟨.create n timing, rfl, .of_silent rfl⟩
  | operate line w op _ hexpect ih =>
    obtain ⟨hwell, hexpect₀, hfollows⟩ := ih
    exact ⟨hwell.run line w op, hexpect, (step_follows hwell hexpect₀ hfollows op).1⟩

/-! ## Completed frames -/

/-- Whether a frame was taken does not steer the engine. -/
theorem alike_takeFrame (e : Engine) : Alike (fun _ _ => True) e e.takeFrame.2 := by
  refine ⟨?_, trivial⟩
  unfold Engine.takeFrame
  split_ifs <;> rfl

theorem alike_run (line : Transport σ ε) (w : σ) {a b : Engine} (h : Alike (fun _ _ => True) a b)
    (op : Operation) :
    Alike (fun _ _ => True) (op.run line w a) (op.run line w b) := by
  cases op with
  | beginSend size withBreak turnaround =>
    exact (alike_beginSend Marks.noted_true.toKept h size withBreak turnaround).engine
  | event kind =>
    exact (alike_onEvent Marks.noted_true.toKept (fun _ => Marks.noted_true) h kind).engine
  | checkIdle now => exact alike_checkIdle Marks.noted_true h now
  | setMode mode => exact alike_setMode h mode
  | armReceive noBreak => exact alike_armReceive Marks.noted_true.toKept h noBreak
  | abortSend => exact alike_abortSend h
  | takeFrame =>
    obtain ⟨m, rfl, -⟩ := h.exists_mark
    obtain ⟨ma, ha, -⟩ := (alike_takeFrame a).exists_mark
    obtain ⟨mb, hb, -⟩ := (alike_takeFrame (a.mark m)).exists_mark
    change Alike _ a.takeFrame.2 (a.mark m).takeFrame.2
    rw [ha, hb]
    exact ⟨rfl, trivial⟩
  | takeFaults | writeAt offset bytes =>
    obtain ⟨m, rfl, -⟩ := h.exists_mark
    exact ⟨rfl, trivial⟩

theorem observed_takeFrame (op : Operation) :
    op.observed line w e.takeFrame.2 = op.observed line w e := by
  have halike := alike_takeFrame e
  obtain ⟨m, htaken, -⟩ := halike.exists_mark
  cases op with
  | beginSend size withBreak turnaround =>
    have hout : (beginSend line e.takeFrame.2 size withBreak turnaround w).1 =
        (beginSend line e size withBreak turnaround w).1 :=
      (alike_beginSend Marks.noted_true.toKept halike size withBreak turnaround).result
    simp only [Operation.observed, hout]
  | event kind =>
    have hevent {σ : Type} (line : Transport σ ε) (w : σ) :
        AlikeOut _ (onEvent line kind e w) (onEvent line kind e.takeFrame.2 w) :=
      alike_onEvent Marks.noted_true.toKept (fun _ => Marks.noted_true) halike kind
    have hout : (onEvent line kind e.takeFrame.2 w).1 = (onEvent line kind e w).1 :=
      (hevent line w).result
    have hdelivery : delivery line kind e.takeFrame.2 w = delivery line kind e w := by
      unfold delivery
      rw [(hevent line.recorded ⟨w, []⟩).world]
    simp only [Operation.observed, told, hout, hdelivery]
    rw [htaken]
    rfl
  | setMode mode => cases mode <;> rfl
  | _ => rfl

theorem frameReady_takeFrame (e : Engine) : e.takeFrame.2.frameReady = false := by
  unfold takeFrame
  split_ifs with hready
  · rfl
  · exact Bool.eq_false_iff.mpr hready

/-- What an operation shows when it completes a frame is what was heard of it, and otherwise what
was shown before. -/
theorem Run.shows (h : Run n timing seen e) (line : Transport σ ε) (w : σ) (op : Operation) :
    (op.completes line w e = true → ∃ frame,
      heard n (seen ++ (op.observed line w e).takeWhile (· ≠ .opened)) = some frame ∧
      (op.run line w e).front.received = cutPacket frame) ∧
    (op.completes line w e = false → op.edits = false →
      (op.run line w e).front.received = e.front.received) := by
  obtain ⟨hwell, hexpect, hfollows⟩ := h.follows
  obtain ⟨m, htaken, -⟩ := (alike_takeFrame e).exists_mark
  have hfront : e.takeFrame.2.front = e.front := by rw [htaken, mark]
  have hrun : (op.run line w e.takeFrame.2).front = (op.run line w e).front := by
    obtain ⟨m', hm', -⟩ := (alike_run line w (alike_takeFrame e) op).exists_mark
    rw [hm', mark]
  have hshows : op.edits = false → Shows n
      (seen ++ (op.observed line w e).takeWhile (· ≠ .opened)) e.takeFrame.2
      (op.run line w e.takeFrame.2) := by
    have htaken₁ : Follows n seen e.takeFrame.2 := by
      rw [htaken]
      exact hfollows.of_eq rfl rfl rfl
    have hexpect₁ : e.takeFrame.2.expectNoBreak = false := by rw [htaken, mark, hexpect]
    rw [← observed_takeFrame]
    exact (step_follows hwell.takeFrame hexpect₁ htaken₁ op).2
  refine ⟨fun hcompletes => ?_, fun hcompletes hedits => ?_⟩
  · have hedits : op.edits = false := by
      cases op with
      | writeAt => exact absurd hcompletes (Bool.eq_false_iff.mp (frameReady_takeFrame e))
      | _ => rfl
    obtain hsame | ⟨-, frame, hheard, hreceived⟩ := hshows hedits
    · exact absurd (hsame.ready hcompletes) (Bool.eq_false_iff.mp (frameReady_takeFrame e))
    · exact ⟨frame, hheard, hrun ▸ hreceived⟩
  · obtain hsame | ⟨hready, -⟩ := hshows hedits
    · rw [← hrun, hsame.received, hfront]
    · rw [Operation.completes, hready] at hcompletes
      cases hcompletes

/-! ## The next frame -/

theorem sizeTold?_of_head (h : bytes.head? ≠ some Packet.startCode) :
    sizeTold? false bytes = none := by
  rcases bytes with _ | ⟨start, _ | ⟨second, _ | ⟨length, rest⟩⟩⟩
  iterate 3 rfl
  have hstart : start ≠ Packet.startCode := by simpa using h
  simp [sizeTold?, hstart]

theorem completeIfTold_of_head (hwith : e.rxWithoutBreak = false)
    (hstart : e.back.filled.head? ≠ some Packet.startCode) : e.completeIfTold = e := by
  unfold completeIfTold
  rw [hwith, sizeTold?_of_head hstart]

/-- The engine after it took bytes for the frame that is coming in. -/
def took (e : Engine) (now : UInt64) (bytes : Bytes) : Engine :=
  { e with rxState := .inData, lastReceived := now, back := e.back.append bytes }

/-- An engine behind an accepted break takes all bytes of a frame that is no packet. -/
theorem onRxData_inBreak {w' : σ} (haccepts : e.acceptsRx = true) (hrx : e.rxState = .inBreak)
    (hwith : e.rxWithoutBreak = false) (hempty : e.back.head = 0)
    (hread : line.read e.back.capacity w = (.ok bytes, w')) (hfits : bytes.length ≤ e.back.capacity)
    (hstart : bytes.head? ≠ some Packet.startCode)
    (hnothing : bytes.length = e.back.capacity → (line.read 1 w').1 = .ok []) (now : UInt64) :
    ∃ w'', onRxData line e now w = (.ok (), e.took now bytes, w'') := by
  have hbegin : e.beginData? = some { e with rxState := .inData } := by
    unfold beginData?
    rw [hrx]
  obtain ⟨hfilled, hhead⟩ := FrameBuffer.append_of_head_eq_zero hempty hfits
  have htold : (e.took now bytes).completeIfTold = e.took now bytes :=
    completeIfTold_of_head hwith (by rwa [took, hfilled])
  have hslots : e.back.capacity - e.back.head = e.back.capacity := by rw [hempty, Nat.sub_zero]
  unfold onRxData
  rw [if_pos haccepts, hbegin]
  dsimp only [takeBytes]
  rw [hslots, hread]
  dsimp only
  rw [hhead, FrameBuffer.capacity_append, ← took]
  split_ifs with hfull
  · obtain ⟨w'', hprobe⟩ : ∃ w'', line.read 1 w' = (.ok [], w'') :=
      ⟨_, Prod.ext (hnothing hfull) rfl⟩
    rw [probeFull, hprobe]
    exact ⟨w'', by dsimp only; rw [htold]⟩
  · exact ⟨w', by rw [htold]⟩

theorem onRxTimeout_of_inData (hrx : e.rxState = .inData) (hhead : 0 < e.back.head) :
    e.onRxTimeout = e.completeFrame e.back.head := by
  rw [onRxTimeout, if_pos (isReceiving_of_inData hrx), if_pos ⟨hrx, hhead⟩]

/-- An idle line behind the bytes of a frame completes it. -/
theorem received_took (hempty : e.back.head = 0) (hpos : 0 < bytes.length)
    (hfits : bytes.length ≤ e.back.capacity) (now : UInt64) :
    (e.took now bytes).onRxTimeout.front.received = bytes ∧
      (e.took now bytes).onRxTimeout.takeFrame.1 = some bytes.length := by
  obtain ⟨hfilled, hhead⟩ := FrameBuffer.append_of_head_eq_zero hempty hfits
  have hended : (e.took now bytes).onRxTimeout = (e.took now bytes).completeFrame bytes.length := by
    rw [← hhead]
    exact onRxTimeout_of_inData rfl (hhead ▸ hpos)
  rw [hended, received_completeFrame, took, hfilled, List.take_length]
  refine ⟨rfl, ?_⟩
  change some (min bytes.length (e.back.append bytes).head) = _
  rw [hhead, Nat.min_self]

/-- An accepted break rewinds the back buffer for the next frame. -/
theorem onBreak_of_acceptsRx (haccepts : e.acceptsRx = true) (now : UInt64) :
    (e.onBreak now).acceptsRx = true ∧ (e.onBreak now).rxState = .inBreak ∧
      (e.onBreak now).rxWithoutBreak = false ∧ (e.onBreak now).back.head = 0 := by
  unfold onBreak
  rw [if_pos haccepts]
  split_ifs <;> exact ⟨haccepts, rfl, rfl, rfl⟩

/-- A break, the bytes of a frame that is no packet, and an idle line. -/
theorem received_next (hbounded : e.Bounded n) (haccepts : e.acceptsRx = true) (w₁ w₂ w₃ : σ)
    {w' : σ} (hread : line.read n (line.now w₂).2 = (.ok bytes, w')) (hpos : 0 < bytes.length)
    (hfits : bytes.length ≤ n) (hstart : bytes.head? ≠ some Packet.startCode)
    (hnothing : bytes.length = n → (line.read 1 w').1 = .ok []) :
    let opened := (onEvent line .breakDetected e w₁).2.1
    let filled := (onEvent line .rxData opened w₂).2.1
    let ended := (onEvent line .rxTimeout filled w₃).2.1
    ended.front.received = bytes ∧ ended.takeFrame.1 = some bytes.length := by
  change let opened := e.onBreak (line.now w₁).1
    let filled := (onEvent line .rxData opened w₂).2.1
    filled.onRxTimeout.front.received = bytes ∧
      filled.onRxTimeout.takeFrame.1 = some bytes.length
  intro opened
  obtain ⟨haccepts₁, hrx, hwith, hempty⟩ :
      opened.acceptsRx = true ∧ opened.rxState = .inBreak ∧ opened.rxWithoutBreak = false ∧
        opened.back.head = 0 := onBreak_of_acceptsRx haccepts _
  have hslots : opened.back.capacity = n := ((listens_onBreak e _).bounded hbounded).back.slots
  rw [← hslots] at hread hfits hnothing
  obtain ⟨w'', hdata⟩ := onRxData_inBreak haccepts₁ hrx hwith hempty hread hfits hstart hnothing
    (line.now w₂).1
  have hfilled : (onEvent line .rxData opened w₂).2.1 = opened.took (line.now w₂).1 bytes := by
    simp only [onEvent, handle, hdata]
  rw [hfilled]
  exact received_took hempty hpos hfits _

/-- An engine that expects no frames without a break shows whole frames only. When it completes one,
readers find what the driver delivered since the last break that was accepted, and nothing has
happened since then that could have damaged it; otherwise they find what they found before. Any
engine that listens and does not send receives the next frame, whatever came before. -/
theorem reception (n : ℕ) (timing : EngineTiming) :
    (∀ seen e, Run n timing seen e →
      ∀ {σ ε : Type} (line : Transport σ ε) (w : σ) (op : Operation),
        (op.completes line w e = true → ∃ frame,
          heard n (seen ++ (op.observed line w e).takeWhile (· ≠ .opened)) = some frame ∧
          (op.run line w e).front.received = cutPacket frame) ∧
        (op.completes line w e = false → op.edits = false →
          (op.run line w e).front.received = e.front.received)) ∧
    ∀ e, Reachable n timing e → e.mode = .receive → e.isSending = false →
      ∀ {σ ε : Type} (line : Transport σ ε) (w₁ w₂ w₃ w' : σ) (frame : Bytes),
        line.read n (line.now w₂).2 = (.ok frame, w') → 0 < frame.length → frame.length ≤ n →
        frame.head? ≠ some 0xCC → (frame.length = n → (line.read 1 w').1 = .ok []) →
        let opened := (onEvent line .breakDetected e w₁).2.1
        let filled := (onEvent line .rxData opened w₂).2.1
        let ended := (onEvent line .rxTimeout filled w₃).2.1
        ended.front.received = frame ∧ ended.takeFrame.1 = some frame.length := by
  refine ⟨fun seen e h σ ε line w op => h.shows line w op, ?_⟩
  intro e hreachable hmode hidle σ ε line w₁ w₂ w₃ w' frame hread hpos hfits hstart hnothing
  exact received_next hreachable.wellFormed.bounded (acceptsRx_iff.mpr ⟨hmode, hidle⟩) w₁ w₂ w₃
    hread hpos hfits hstart hnothing

/-- A line on which three bytes have arrived. -/
def threeBytes : Simulation.World :=
  { Simulation.World.quiet with received := [0, 7, 9] }

/-- An engine behind an accepted break. -/
def broken : Engine :=
  (Operation.event .breakDetected).run Simulation.line .quiet (create 8 {})

/-- An engine that has taken the bytes behind a break. -/
def filling : Engine :=
  (Operation.event .rxData).run Simulation.line threeBytes broken

theorem reception_threeBytes :
    (Operation.event .rxTimeout).completes Simulation.line .quiet filling = true ∧
    (∃ frame, heard 8 [.opened, .delivered [], .delivered [0, 7, 9], .delivered []] = some frame ∧
      ((Operation.event .rxTimeout).run Simulation.line .quiet filling).front.received =
        cutPacket frame) ∧
    ((Operation.event .mabElapsed).run Simulation.line .quiet filling).front.received = [] ∧
    ((Operation.event .rxTimeout).run Simulation.line .quiet filling).takeFrame.1 = some 3 := by
  have hrun : Run 8 {} [.opened, .delivered [], .delivered [0, 7, 9]] filling :=
    .operate Simulation.line threeBytes (.event .rxData)
      (.operate Simulation.line .quiet (.event .breakDetected) .create rfl) rfl
  obtain ⟨hshows, hnext⟩ := reception 8 {}
  have hcompletes : (Operation.event .rxTimeout).completes Simulation.line .quiet filling = true :=
    rfl
  refine ⟨hcompletes, (hshows _ _ hrun Simulation.line .quiet (.event .rxTimeout)).1 hcompletes,
    (hshows _ _ hrun Simulation.line .quiet (.event .mabElapsed)).2 rfl rfl, ?_⟩
  exact (hnext _ .create rfl rfl Simulation.line .quiet threeBytes .quiet .quiet [0, 7, 9] rfl
    (by decide) (by decide) (by decide) (by decide)).2

end Engine

end LightingBus
