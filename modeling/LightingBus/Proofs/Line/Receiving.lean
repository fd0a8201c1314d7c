import LightingBus.Proofs.Line.Sending

/-!
# What receiving does

As long as no frame is being sent, events concern the receiving side alone: nothing is handed to the
transport, the line keeps its direction, and no buffer gets beyond its bounds (`Hears`). An engine
that holds the line for sending is deaf: its front buffer stays where it is.

1. `FrameBuffer.Bounded` is kept by everything done with a buffer.
2. `Listens` is a step of the receiving side, `listens_onBreak` and others are such steps.
3. `hears_onEvent` covers every event, `front_onEvent` those that complete no frame.
-/

namespace LightingBus

variable {σ ε : Type}

/-- The events that can complete a frame. -/
def Event.completesFrame : Event → Bool
  | .rxData | .rxTimeout | .breakDetected => true
  | .txEmpty | .txDone | .mabElapsed | .parityError | .overflow | .alarm => false

/-! ## Bounds of a buffer -/

/-- All bytes are copied if there is room for them. -/
theorem FrameBuffer.length_writeAt {b : FrameBuffer} {bytes : Bytes} {offset : ℕ}
    (h : bytes.length + offset ≤ b.capacity) : (b.writeAt offset bytes).1 = bytes.length := by
  unfold writeAt
  split_ifs with hnone
  · dsimp only
    omega
  · rw [List.take_of_length_le (Nat.le_sub_of_add_le h)]

/-- A buffer with this many slots whose cursor and sizes do not exceed them. -/
structure FrameBuffer.Bounded (capacity : ℕ) (b : FrameBuffer) : Prop where
  slots : b.capacity = capacity
  head : b.head ≤ capacity
  sendSize : b.sendSize ≤ capacity
  frameSize : b.frameSize ≤ capacity

namespace FrameBuffer.Bounded

variable {n size : ℕ} {b : FrameBuffer}

theorem empty (n : ℕ) : Bounded n (.empty n) :=
  ⟨capacity_empty n, Nat.zero_le n, Nat.zero_le n, Nat.zero_le n⟩

theorem rewind (h : b.Bounded n) : b.rewind.Bounded n :=
  { h with head := Nat.zero_le n }

theorem prepare (h : b.Bounded n) (hsize : size ≤ n) : (b.prepare size).Bounded n :=
  { h with head := Nat.zero_le n, sendSize := hsize }

theorem complete (h : b.Bounded n) (size : ℕ) : (b.complete size).Bounded n :=
  { h with frameSize := Nat.le_trans (Nat.min_le_right size b.head) h.head }

theorem append (h : b.Bounded n) (bytes : Bytes) : (b.append bytes).Bounded n where
  slots := by rw [capacity_append, h.slots]
  head := by
    have hhead := h.head
    have hslots := h.slots
    simp only [FrameBuffer.append, List.length_take]
    omega
  sendSize := h.sendSize
  frameSize := h.frameSize

theorem writeAt (h : b.Bounded n) (offset : ℕ) (bytes : Bytes) :
    (b.writeAt offset bytes).2.Bounded n := by
  have hslots := h.slots
  rw [← FrameBuffer.capacity_writeAt b offset bytes] at hslots
  unfold FrameBuffer.writeAt at hslots ⊢
  split_ifs at hslots ⊢
  · exact h
  · exact { h with slots := hslots }

/-- The cursor may move within the bounds. -/
theorem of_head {b' : FrameBuffer} (h : b.Bounded n) (hb : b' = { b with head := b'.head })
    (hhead : b'.head ≤ n) : b'.Bounded n := by
  rw [hb]
  exact { h with head := hhead }

end FrameBuffer.Bounded

namespace Engine

/-- Both buffers have this many slots and stay within them. -/
structure Bounded (capacity : ℕ) (e : Engine) : Prop where
  front : e.front.Bounded capacity
  back : e.back.Bounded capacity

variable {line : Transport σ ε} {wrote : Bytes → σ → σ → Prop} {e e₁ e₂ : Engine} {w w₁ : σ}
  {out : Except ε Unit × Engine × σ}

/-! ## Steps of the receiving side -/

/-- A step of the receiving side from `e` to `e'`. -/
structure Listens (e e' : Engine) : Prop where
  txState : e'.txState = e.txState
  mode : e'.mode = e.mode
  bounded {n : ℕ} : e.Bounded n → e'.Bounded n
  deaf : e.mode = .transmit → e.isReceiving = false →
    e'.front = e.front ∧ e'.isReceiving = false

theorem Listens.refl (e : Engine) : Listens e e :=
  ⟨rfl, rfl, id, fun _ hrx => ⟨rfl, hrx⟩⟩

theorem Listens.trans (h₁ : Listens e e₁) (h₂ : Listens e₁ e₂) : Listens e e₂ where
  txState := h₂.txState.trans h₁.txState
  mode := h₂.mode.trans h₁.mode
  bounded := fun h => h₂.bounded (h₁.bounded h)
  deaf := by
    intro hmode hrx
    obtain ⟨hfront₁, hrx₁⟩ := h₁.deaf hmode hrx
    obtain ⟨hfront₂, hrx₂⟩ := h₂.deaf (h₁.mode.trans hmode) hrx₁
    exact ⟨hfront₂.trans hfront₁, hrx₂⟩

/-- While the engine listens, anything within the bounds may happen to the buffers. -/
theorem Listens.of_mode (hmode : e.mode = .receive) (htx : e₁.txState = e.txState)
    (hmode₁ : e₁.mode = e.mode) (hbounded : ∀ {n}, e.Bounded n → e₁.Bounded n) :
    Listens e e₁ where
  txState := htx
  mode := hmode₁
  bounded := hbounded
  deaf := by
    intro h
    rw [hmode] at h
    cases h

/-- A frame that is being received may be given up. -/
theorem Listens.of_rewind (hfront : e₁.front = e.front) (hback : e₁.back = e.back.rewind)
    (htx : e₁.txState = e.txState) (hmode : e₁.mode = e.mode) (hrx : e₁.isReceiving = false) :
    Listens e e₁ where
  txState := htx
  mode := hmode
  bounded := by
    intro n h
    refine ⟨?_, ?_⟩
    · rw [hfront]
      exact h.front
    · rw [hback]
      exact h.back.rewind
  deaf := fun _ _ => ⟨hfront, hrx⟩

theorem acceptsRx_iff : e.acceptsRx = true ↔ e.mode = .receive ∧ e.isSending = false := by
  rw [acceptsRx, Bool.and_eq_true, beq_iff_eq, Bool.not_eq_true']

theorem mode_of_acceptsRx (h : e.acceptsRx = true) : e.mode = .receive :=
  (acceptsRx_iff.mp h).1

theorem Bounded.completeFrame {n : ℕ} (h : e.Bounded n) (size : ℕ) :
    (e.completeFrame size).Bounded n :=
  ⟨h.back.complete size, h.front.rewind⟩

theorem listens_completeFrame (hmode : e.mode = .receive) (size : ℕ) :
    Listens e (e.completeFrame size) :=
  .of_mode hmode rfl rfl fun h => h.completeFrame size

theorem listens_onBreak (e : Engine) (now : UInt64) : Listens e (e.onBreak now) := by
  unfold onBreak
  split_ifs with haccepts
  · have hmode := mode_of_acceptsRx haccepts
    exact .of_mode hmode rfl rfl fun h => ⟨h.back.complete _, h.front.rewind.rewind⟩
  · have hmode := mode_of_acceptsRx haccepts
    exact .of_mode hmode rfl rfl fun h => ⟨h.front, h.back.rewind⟩
  · exact .refl e

theorem listens_completeIfTold (hmode : e.mode = .receive) : Listens e e.completeIfTold := by
  unfold completeIfTold
  split
  · split_ifs
    · exact listens_completeFrame hmode _
    · exact .refl e
  · exact .refl e

theorem listens_onRxTimeout (e : Engine) : Listens e e.onRxTimeout := by
  unfold onRxTimeout
  split_ifs with hrx
  · refine ⟨rfl, rfl, fun h => h.completeFrame _, fun _ hsilent => ?_⟩
    rw [hrx] at hsilent
    cases hsilent
  · exact .of_rewind rfl rfl rfl rfl rfl
  · exact .refl e

theorem listens_checkIdle (e : Engine) (now : UInt64) : Listens e (e.checkIdle now) := by
  unfold checkIdle
  split_ifs
  · exact listens_onRxTimeout e
  · exact .refl e

theorem checkIdle_of_silent (h : e.isReceiving = false) (now : UInt64) : e.checkIdle now = e := by
  unfold checkIdle
  split_ifs
  · rw [onRxTimeout, h]
    rfl
  · rfl

theorem listens_onParityError (e : Engine) : Listens e e.onParityError := by
  unfold onParityError
  split_ifs
  · exact .of_rewind rfl rfl rfl rfl rfl
  · exact .refl e

theorem listens_fail (hidle : e.isSending = false) : Listens e e.fail := by
  obtain ⟨hfront, hback, hmode, hrx, -⟩ := fail_keeps e
  refine .of_rewind hfront hback ?_ hmode hrx
  unfold fail
  dsimp only
  split_ifs with hsending
  · have hfalse : e.isSending = true := hsending
    rw [hidle] at hfalse
    cases hfalse
  · rfl

theorem isSending_armReceive (e : Engine) (noBreak : Bool) :
    (e.armReceive noBreak).isSending = e.isSending := by
  unfold armReceive isSending
  dsimp only
  split_ifs with hdone
  · rw [hdone]
  · rfl

/-! ## Steps that use the transport -/

/-- A step of the receiving side that hands nothing to the transport. -/
structure Hears (wrote : Bytes → σ → σ → Prop) (e : Engine) (w : σ)
    (out : Except ε Unit × Engine × σ) : Prop where
  listens : Listens e out.2.1
  wrote : wrote [] w out.2.2

theorem hears_discard (hline : line.Accounts wrote) : Hears wrote e w (discard line e w) := by
  unfold discard
  have hflush := hline.flushReceived w
  generalize line.flushReceived w = flushed at hflush
  obtain ⟨_ | _, w₁⟩ := flushed
  · exact ⟨.refl e, hflush⟩
  · exact ⟨.refl e, hflush⟩

theorem hears_onOverflow (hline : line.Accounts wrote) :
    Hears wrote e w (onOverflow line e w) := by
  unfold onOverflow
  have hflush := hline.flushReceived w
  generalize line.flushReceived w = flushed at hflush
  obtain ⟨_ | _, w₁⟩ := flushed
  · exact ⟨.refl e, hflush⟩
  · exact ⟨.of_rewind rfl rfl rfl rfl rfl, hflush⟩

theorem hears_probeFull (hline : line.Accounts wrote) (hmode : e.mode = .receive) :
    Hears wrote e w (probeFull line e w) := by
  unfold probeFull
  have hread := hline.read 1 w
  generalize line.read 1 w = probed at hread
  obtain ⟨_ | _ | _, w₁⟩ := probed
  · exact ⟨.refl e, hread⟩
  · exact ⟨listens_completeIfTold hmode, hread⟩
  · have hflush := hline.trans hread (hline.flushReceived w₁)
    dsimp only
    generalize line.flushReceived w₁ = flushed at hflush
    obtain ⟨_ | _, w₂⟩ := flushed
    · exact ⟨.refl e, hflush⟩
    · exact ⟨.of_rewind rfl rfl rfl rfl rfl, hflush⟩

theorem hears_takeBytes (hline : line.Accounts wrote) (hmode : e.mode = .receive) :
    Hears wrote e w (takeBytes line e w) := by
  unfold takeBytes
  have hread := hline.read (e.back.capacity - e.back.head) w
  generalize line.read (e.back.capacity - e.back.head) w = taken at hread
  obtain ⟨_ | bytes, w₁⟩ := taken
  · exact ⟨.refl e, hread⟩
  · have hstep : Listens e { e with back := e.back.append bytes } :=
      .of_mode hmode rfl rfl fun h => ⟨h.front, h.back.append bytes⟩
    dsimp only
    split_ifs
    · obtain ⟨hprobe, hwrote⟩ :
          Hears wrote _ w₁ (probeFull line { e with back := e.back.append bytes } w₁) :=
        hears_probeFull hline hmode
      exact ⟨hstep.trans hprobe, hline.trans hread hwrote⟩
    · exact ⟨hstep.trans (listens_completeIfTold hmode), hread⟩

theorem listens_beginData? (hmode : e.mode = .receive) (hbegin : e.beginData? = some e₁) :
    Listens e e₁ := by
  unfold beginData? at hbegin
  split at hbegin
  · split_ifs at hbegin
    cases hbegin
    exact .of_mode hmode rfl rfl fun h => ⟨h.front, h.back.rewind⟩
  · split_ifs at hbegin
    cases hbegin
    exact .of_mode hmode rfl rfl fun h => ⟨h.front, h.back.rewind⟩
  · cases hbegin
  all_goals
    cases hbegin
    exact .of_mode hmode rfl rfl fun h => ⟨h.front, h.back⟩

theorem hears_onRxData (hline : line.Accounts wrote) (now : UInt64) :
    Hears wrote e w (onRxData line e now w) := by
  unfold onRxData
  split_ifs with haccepts
  · have hmode := mode_of_acceptsRx haccepts
    split
    · exact hears_discard hline
    next e₁ hbegin =>
      have hdata := listens_beginData? hmode hbegin
      have hmode₁ : e₁.mode = .receive := hdata.mode.trans hmode
      have hnow : Listens e₁ { e₁ with lastReceived := now } :=
        .of_mode hmode₁ rfl rfl fun h => ⟨h.front, h.back⟩
      obtain ⟨htake, hwrote⟩ :
          Hears wrote _ w (takeBytes line { e₁ with lastReceived := now } w) :=
        hears_takeBytes hline hmode₁
      exact ⟨(hdata.trans hnow).trans htake, hwrote⟩
  · exact hears_discard hline

/-- Whatever event occurs while no frame is sent, it concerns the receiving side. -/
theorem hears_handle (hline : line.Accounts wrote) (hidle : e.isSending = false) (event : Event) :
    Hears wrote e w (handle line event e w) := by
  have htx : e.txState ≠ .sending := by
    intro h
    rw [isSending, h] at hidle
    cases hidle
  cases event with
  | breakDetected => exact ⟨listens_onBreak e _, hline.now w⟩
  | mabElapsed =>
    refine ⟨?_, hline.refl w⟩
    change Listens e (if e.rxState = .inBreak then { e with rxState := .inMab } else e)
    split_ifs with hrx
    · refine ⟨rfl, rfl, fun h => ⟨h.front, h.back⟩, fun _ hsilent => ?_⟩
      rw [isReceiving, hrx] at hsilent
      cases hsilent
    · exact .refl e
  | rxData =>
    obtain ⟨hlistens, hwrote⟩ : Hears wrote e (line.now w).2
      (onRxData line e (line.now w).1 (line.now w).2) := hears_onRxData hline _
    exact ⟨hlistens, hline.trans (hline.now w) hwrote⟩
  | rxTimeout => exact ⟨listens_onRxTimeout e, hline.refl w⟩
  | parityError => exact ⟨listens_onParityError e, hline.refl w⟩
  | overflow => exact hears_onOverflow hline
  | txEmpty =>
    rw [handle, if_neg htx]
    exact ⟨.refl e, hline.refl w⟩
  | txDone =>
    rw [handle, onTxDone, if_neg htx]
    exact ⟨.refl e, hline.refl w⟩
  | alarm =>
    have halarm : onAlarm line e w = (.ok (), e, w) := by
      unfold onAlarm
      unfold isSending at hidle
      split <;> simp_all
    rw [handle, halarm]
    exact ⟨.refl e, hline.refl w⟩

theorem hears_onEvent (hline : line.Accounts wrote) (hidle : e.isSending = false) (event : Event) :
    Hears wrote e w (onEvent line event e w) := by
  unfold onEvent
  have hhandle : Hears wrote e w (handle line event e w) := hears_handle hline hidle event
  generalize handle line event e w = out at hhandle
  obtain ⟨_ | _, e₁, w₁⟩ := out
  · have hidle₁ : e₁.isSending = false := (isSending_congr hhandle.listens.txState).trans hidle
    exact ⟨hhandle.listens.trans (listens_fail hidle₁), hhandle.wrote⟩
  · exact hhandle

/-! ## What an event leaves alone -/

theorem isSending_onEvent (line : Transport σ ε) (event : Event) (w : σ)
    (hidle : e.isSending = false) : (onEvent line event e w).2.1.isSending = false := by
  have hears := hears_onEvent line.accounts_true hidle event (w := w)
  exact (isSending_congr hears.listens.txState).trans hidle

/-- Whoever was sending when the driver failed is not sending any more. -/
theorem isSending_of_onEvent_error {x : ε} {event : Event}
    (h : onEvent line event e w = (.error x, e₁, w₁)) : e₁.isSending = false := by
  unfold onEvent at h
  split at h
  · cases h
    exact (fail_keeps _).2.2.2.2
  · cases h

theorem front_handle (line : Transport σ ε) (w : σ) {event : Event}
    (hidle : e.isSending = false) (hevent : event.completesFrame = false) :
    (handle line event e w).2.1.front = e.front := by
  have htx : e.txState ≠ .inBreak ∧ e.txState ≠ .inMab ∧ e.txState ≠ .sending := by
    unfold isSending at hidle
    refine ⟨?_, ?_, ?_⟩ <;>
      · intro h
        rw [h] at hidle
        cases hidle
  cases event with
  | breakDetected | rxData | rxTimeout => cases hevent
  | mabElapsed =>
    unfold handle
    dsimp only
    split_ifs <;> rfl
  | parityError =>
    unfold handle onParityError
    dsimp only
    split_ifs <;> rfl
  | overflow =>
    unfold handle onOverflow
    dsimp only
    split <;> rfl
  | txEmpty => rw [handle, if_neg htx.2.2]
  | txDone => rw [handle, onTxDone, if_neg htx.2.2]
  | alarm =>
    unfold handle onAlarm
    dsimp only
    split
    next h => exact absurd h htx.1
    next h => exact absurd h htx.2.1
    all_goals rfl

/-- While nothing is sent, an event that completes no frame leaves the front buffer alone. -/
theorem front_onEvent (line : Transport σ ε) (w : σ) {event : Event}
    (hidle : e.isSending = false) (hevent : event.completesFrame = false) :
    (onEvent line event e w).2.1.front = e.front := by
  have hhandle := front_handle line w hidle hevent
  unfold onEvent
  generalize handle line event e w = out at hhandle
  obtain ⟨_ | _, e₁, w₁⟩ := out
  · exact (fail_keeps e₁).1.trans hhandle
  · exact hhandle

end Engine

end LightingBus
