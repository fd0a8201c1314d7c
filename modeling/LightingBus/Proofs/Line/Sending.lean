import Mathlib.Data.Nat.Basic
import LightingBus.Line.Engine.Events

/-!
# What sending does

While a frame is on its way out, whatever the engine does, the transport only accepts the next bytes
of the front buffer, and the cursor moves over exactly those. `Sends` says so for one step of the
engine; every function of the sending side is such a step, whether the driver fails or not.

1. `Transport.Accounts` is a view of the worlds of a transport that sees the accepted bytes.
2. `Sends.trans` chains steps, `Sends.stay` is the step that does nothing.
3. `sends_writeChunk` moves the cursor; all else follows along the calls of the source.
4. `sends_beginSend` is the beginning of a frame, `sends_onEvent` all that happens to it later.
-/

namespace LightingBus

variable {σ ε : Type}

/-- `wrote bytes w w'` holds if these are the bytes that the transport accepted between two worlds:
only a write accepts bytes. -/
structure Transport.Accounts (line : Transport σ ε) (wrote : Bytes → σ → σ → Prop) : Prop where
  refl (w : σ) : wrote [] w w
  trans {a b : Bytes} {w₁ w₂ w₃ : σ} : wrote a w₁ w₂ → wrote b w₂ w₃ → wrote (a ++ b) w₁ w₃
  accepted {bytes : Bytes} {w w' : σ} {count : ℕ} :
    line.write bytes w = (.ok count, w') → wrote (bytes.take count) w w'
  refused {bytes : Bytes} {w w' : σ} {x : ε} : line.write bytes w = (.error x, w') → wrote [] w w'
  read (count : ℕ) (w : σ) : wrote [] w (line.read count w).2
  assertBreak (w : σ) : wrote [] w (line.assertBreak w).2
  releaseBreak (w : σ) : wrote [] w (line.releaseBreak w).2
  flushReceived (w : σ) : wrote [] w (line.flushReceived w).2
  flushQueued (w : σ) : wrote [] w (line.flushQueued w).2
  poll (w : σ) : wrote [] w (line.poll w).2
  now (w : σ) : wrote [] w (line.now w).2
  delay (micros : UInt32) (w : σ) : wrote [] w (line.delay micros w)
  setAlarm (micros : UInt32) (w : σ) : wrote [] w (line.setAlarm micros w).2

/-- The view that sees nothing. -/
theorem Transport.accounts_true (line : Transport σ ε) : line.Accounts fun _ _ _ => True := by
  constructor <;> intros <;> trivial

namespace Engine

variable {line : Transport σ ε} {wrote : Bytes → σ → σ → Prop} {e e₁ : Engine} {w w₁ w' : σ}
  {r : Except ε Unit} {out : Except ε Unit × Engine × σ}

theorem isSending_iff : e.isSending = true ↔
    e.txState = .inBreak ∨ e.txState = .inMab ∨ e.txState = .sending := by
  unfold isSending
  cases e.txState <;> simp

theorem isSending_congr (h : e₁.txState = e.txState) : e₁.isSending = e.isSending := by
  unfold isSending
  rw [h]

theorem isReceiving_congr (h : e₁.rxState = e.rxState) : e₁.isReceiving = e.isReceiving := by
  unfold isReceiving
  rw [h]

/-! ## One step -/

/-- A step of the engine from `e` to the outcome `out` at which the transport accepted the next
bytes of the front buffer, and both buffers stayed in their places. -/
structure Sends (wrote : Bytes → σ → σ → Prop) (e : Engine) (w : σ)
    (out : Except ε Unit × Engine × σ) : Prop where
  front : out.2.1.front = { e.front with head := out.2.1.front.head }
  le_head : e.front.head ≤ out.2.1.front.head
  head_le : e.front.head ≤ e.front.sendSize → out.2.1.front.head ≤ e.front.sendSize
  back : out.2.1.back = { e.back with head := out.2.1.back.head }
  back_le : out.2.1.back.head ≤ e.back.head
  silent : e.isReceiving = false → out.2.1.isReceiving = false
  wrote : wrote (e.front.pending.take (out.2.1.front.head - e.front.head)) w out.2.2
  /-- Who stops sending without an error has sent everything. -/
  sent : out.1 = .ok () → out.2.1.isSending = false → e.front.sendSize ≤ out.2.1.front.head

theorem take_pending_add (b : FrameBuffer) {i j : ℕ} (hi : b.head ≤ i) (hj : i ≤ j) :
    b.pending.take (i - b.head) ++ ({ b with head := i } : FrameBuffer).pending.take (j - i) =
      b.pending.take (j - b.head) := by
  have hsplit : j - b.head = (i - b.head) + (j - i) := by omega
  have hdrop : ({ b with head := i } : FrameBuffer).pending = b.pending.drop (i - b.head) := by
    simp only [FrameBuffer.pending, List.drop_drop]
    congr 1
    omega
  rw [hsplit, List.take_add, hdrop]

/-- Nothing is accepted, and the front buffer is as it was. -/
theorem Sends.stay (hwrote : wrote [] w w') (hfront : e₁.front = e.front)
    (hback : e₁.back = { e.back with head := e₁.back.head }) (hle : e₁.back.head ≤ e.back.head)
    (hsilent : e.isReceiving = false → e₁.isReceiving = false)
    (hsent : r = .ok () → e₁.isSending = false → e.front.sendSize ≤ e.front.head) :
    Sends wrote e w (r, e₁, w') where
  front := by rw [hfront]
  le_head := by rw [hfront]
  head_le := by rw [hfront]; exact id
  back := hback
  back_le := hle
  silent := hsilent
  wrote := by
    rw [hfront, Nat.sub_self, List.take_zero]
    exact hwrote
  sent := by rw [hfront]; exact hsent

/-- Who still sends, or has failed, may leave the buffers as they were. -/
theorem Sends.keep (hwrote : wrote [] w w') (hfront : e₁.front = e.front)
    (hback : e₁.back = e.back) (hrx : e₁.rxState = e.rxState)
    (hsent : r = .ok () → e₁.isSending = true) : Sends wrote e w (r, e₁, w') := by
  refine .stay hwrote hfront ?_ ?_ ?_ fun hr hidle => ?_
  · rw [hback]
  · rw [hback]
  · rw [isReceiving_congr hrx]
    exact id
  · rw [hsent hr] at hidle
    cases hidle

theorem Sends.trans (hline : line.Accounts wrote) (h₁ : Sends wrote e w (r, e₁, w₁))
    (h₂ : Sends wrote e₁ w₁ out) : Sends wrote e w out := by
  have hfront : e₁.front = { e.front with head := e₁.front.head } := h₁.front
  have hback : e₁.back = { e.back with head := e₁.back.head } := h₁.back
  have hsize : e₁.front.sendSize = e.front.sendSize := by rw [hfront]
  have hmid : e.front.head ≤ e₁.front.head := h₁.le_head
  constructor
  · rw [h₂.front, hfront]
  · exact Nat.le_trans hmid h₂.le_head
  · intro h
    have hnext := h₂.head_le (hsize ▸ h₁.head_le h)
    rwa [hsize] at hnext
  · rw [h₂.back, hback]
  · exact Nat.le_trans h₂.back_le h₁.back_le
  · exact fun h => h₂.silent (h₁.silent h)
  · have hwrote := hline.trans h₁.wrote h₂.wrote
    rwa [hfront, take_pending_add e.front hmid h₂.le_head] at hwrote
  · rw [← hsize]
    exact h₂.sent

/-- A step may begin in another world and another state, as long as nothing is accepted and the
buffers stay. -/
theorem Sends.after (hline : line.Accounts wrote) (h : Sends wrote e₁ w₁ out)
    (hwrote : wrote [] w w₁) (hfront : e₁.front = e.front) (hback : e₁.back = e.back)
    (hrx : e₁.rxState = e.rxState) : Sends wrote e w out := by
  constructor
  · rw [← hfront]; exact h.front
  · rw [← hfront]; exact h.le_head
  · rw [← hfront]; exact h.head_le
  · rw [← hback]; exact h.back
  · rw [← hback]; exact h.back_le
  · rw [← isReceiving_congr hrx]; exact h.silent
  · rw [← hfront]; exact hline.trans hwrote h.wrote
  · rw [← hfront]; exact h.sent

/-! ## The sending side -/

theorem sends_writeChunk (hline : line.Accounts wrote) (hsending : e.isSending = true) :
    Sends wrote e w (writeChunk line e w) := by
  unfold writeChunk
  split_ifs with hleft
  · split
    next x w₁ hwrite => exact .keep (hline.refused hwrite) rfl rfl rfl nofun
    next count w₁ hwrite =>
      have hmoved : (e.front.advance count).head - e.front.head =
          min count (e.front.sendSize - e.front.head) := by
        change min (e.front.head + count) e.front.sendSize - e.front.head = _
        omega
      have hlength : e.front.pending.length ≤ e.front.sendSize - e.front.head := by
        simp only [FrameBuffer.pending, List.length_drop, List.length_take]
        omega
      have hbound : e.front.head ≤ (e.front.advance count).head := by
        change _ ≤ min (e.front.head + count) e.front.sendSize
        omega
      refine ⟨rfl, hbound, fun _ => Nat.min_le_right _ _, rfl, Nat.le_refl _, id, ?_, ?_⟩
      · change wrote (e.front.pending.take ((e.front.advance count).head - e.front.head)) w w₁
        rw [hmoved, ← List.take_take, List.take_of_length_le (i := e.front.sendSize - _) hlength]
        exact hline.accepted hwrite
      · intro _ (hidle : e.isSending = false)
        rw [hsending] at hidle
        cases hidle
  · exact .keep (hline.refl w) rfl rfl rfl fun _ => hsending

theorem txState_writeChunk (line : Transport σ ε) (e : Engine) (w : σ) :
    (writeChunk line e w).2.1.txState = e.txState := by
  unfold writeChunk
  split_ifs
  · split <;> rfl
  · rfl

/-- The end of a frame changes neither buffer, and the line is not sent on any more. -/
theorem finishSend_keeps (e : Engine) :
    e.finishSend.front = e.front ∧ e.finishSend.back = e.back ∧
      e.finishSend.rxState = e.rxState ∧ e.finishSend.isSending = false := by
  unfold finishSend
  dsimp only
  cases e.turnaround <;> exact ⟨rfl, rfl, rfl, rfl⟩

/-- A frame may end once the cursor is behind its last byte. -/
theorem sends_finishSend (hwrote : wrote [] w w') (hend : e.front.sendSize ≤ e.front.head) :
    Sends wrote e w (r, e.finishSend, w') := by
  obtain ⟨hfront, hback, hrx, -⟩ := finishSend_keeps e
  refine .stay hwrote hfront ?_ ?_ ?_ fun _ _ => hend
  · rw [hback]
  · rw [hback]
  · rw [isReceiving_congr hrx]
    exact id

theorem sends_startData (hline : line.Accounts wrote) : Sends wrote e w (startData line e w) := by
  unfold startData
  have hchunk : Sends wrote e w (writeChunk line { e with txState := .sending } w) :=
    (sends_writeChunk hline rfl).after hline (hline.refl w) rfl rfl rfl
  have hstate := txState_writeChunk line { e with txState := .sending } w
  generalize writeChunk line { e with txState := .sending } w = out at hchunk hstate
  obtain ⟨_ | _, e₁, w₁⟩ := out
  · exact hchunk
  · dsimp only
    split_ifs with hempty
    · refine hchunk.trans hline (sends_finishSend (hline.refl w₁) ?_)
      omega
    · refine hchunk.trans hline (.keep (hline.refl w₁) rfl rfl rfl fun _ => ?_)
      exact isSending_iff.mpr (.inr (.inr hstate))

theorem sends_endBreak (hline : line.Accounts wrote) : Sends wrote e w (endBreak line e w) := by
  unfold endBreak
  have hrelease := hline.releaseBreak w
  generalize line.releaseBreak w = released at hrelease
  obtain ⟨_ | _, w₁⟩ := released
  · exact .keep hrelease rfl rfl rfl nofun
  · have halarm := hline.trans hrelease (hline.setAlarm e.timing.markLength w₁)
    dsimp only
    generalize line.setAlarm e.timing.markLength w₁ = alarm at halarm
    obtain ⟨_ | _, w₂⟩ := alarm
    · -- without an alarm the mark is waited for, and the bytes follow in the same step
      have hdelay := hline.trans halarm (hline.delay e.timing.markLength w₂)
      exact (sends_startData hline).after hline hdelay rfl rfl rfl
    · exact .keep halarm rfl rfl rfl fun _ => rfl

theorem sends_startBreak (hline : line.Accounts wrote) (now : UInt64) :
    Sends wrote e w (startBreak line e now w) := by
  unfold startBreak
  dsimp only
  have hassert := hline.assertBreak w
  generalize line.assertBreak w = asserted at hassert
  obtain ⟨_ | _, w₁⟩ := asserted
  · exact .keep hassert rfl rfl rfl nofun
  · have halarm := hline.trans hassert (hline.setAlarm e.timing.breakLength w₁)
    dsimp only
    generalize line.setAlarm e.timing.breakLength w₁ = alarm at halarm
    obtain ⟨_ | _, w₂⟩ := alarm
    · have hdelay := hline.trans halarm (hline.delay e.timing.breakLength w₂)
      exact (sends_endBreak hline).after hline hdelay rfl rfl rfl
    · exact .keep halarm rfl rfl rfl fun _ => rfl

theorem startFrame_eq (line : Transport σ ε) (e : Engine) (withBreak : Bool) (w : σ) :
    startFrame line e withBreak w =
      if withBreak then
        if line.autoBreak && e.breakRecent (line.now w).1 then
          startData line { e with lastBreak := some (line.now w).1 } (line.now w).2
        else startBreak line e (line.now w).1 (line.now w).2
      else startData line e (line.now w).2 := rfl

theorem sends_startFrame (hline : line.Accounts wrote) (withBreak : Bool) :
    Sends wrote e w (startFrame line e withBreak w) := by
  have hnow := hline.now w
  rw [startFrame_eq]
  split_ifs
  · exact (sends_startData hline).after hline hnow rfl rfl rfl
  · exact (sends_startBreak hline _).after hline hnow rfl rfl rfl
  · exact (sends_startData hline).after hline hnow rfl rfl rfl

/-! ## Beginning a frame -/

/-- The engine that is about to send the first `size` bytes of its front buffer. -/
def prepared (e : Engine) (size : ℕ) (turnaround : Turnaround) : Engine :=
  { e.setMode .transmit with turnaround := turnaround, front := e.front.prepare size }

theorem beginSend_eq (line : Transport σ ε) (e : Engine) (size : ℕ) (withBreak : Bool)
    (turnaround : Turnaround) (w : σ) : beginSend line e size withBreak turnaround w =
      if e.isSending then (.error .busy, e, w)
      else if e.front.capacity < size then (.error .bufferOverflow, e, w)
      else match startFrame line (e.prepared size turnaround) withBreak w with
        | (.error x, e, w) => (.error (.driver x), { e with txState := .idle }, w)
        | (.ok _, e, w) => (.ok (), e, w) := rfl

/-- What a frame that is begun, or fails to begin, does first. -/
theorem sends_beginSend (hline : line.Accounts wrote) {size : ℕ} (withBreak : Bool)
    (turnaround : Turnaround) (hidle : e.isSending = false) (hsize : size ≤ e.front.capacity) :
    (∃ e₁ w₁, beginSend line e size withBreak turnaround w = (.ok (), e₁, w₁) ∧
      Sends wrote (e.prepared size turnaround) w ((.ok () : Except ε Unit), e₁, w₁)) ∨
    ∃ x e₁ w₁, beginSend line e size withBreak turnaround w =
        (.error (.driver x), { e₁ with txState := .idle }, w₁) ∧
      Sends wrote (e.prepared size turnaround) w (.error x, e₁, w₁) := by
  have hstart : Sends wrote (e.prepared size turnaround) w
      (startFrame line (e.prepared size turnaround) withBreak w) := sends_startFrame hline withBreak
  rw [beginSend_eq, if_neg (by rw [hidle]; exact Bool.false_ne_true), if_neg (by omega)]
  generalize startFrame line (e.prepared size turnaround) withBreak w = out at hstart ⊢
  obtain ⟨x | _, e₁, w₁⟩ := out
  · exact .inr ⟨x, e₁, w₁, rfl, hstart⟩
  · exact .inl ⟨e₁, w₁, rfl, hstart⟩

/-! ## Events while a frame is sent -/

theorem acceptsRx_of_isSending (h : e.isSending = true) : e.acceptsRx = false := by
  rw [acceptsRx, h, Bool.not_true, Bool.and_false]

theorem sends_discard (hline : line.Accounts wrote) (hsending : e.isSending = true) :
    Sends wrote e w (discard line e w) := by
  unfold discard
  have hflush := hline.flushReceived w
  generalize line.flushReceived w = flushed at hflush
  obtain ⟨_ | _, w₁⟩ := flushed
  · exact .keep hflush rfl rfl rfl nofun
  · exact .keep hflush rfl rfl rfl fun _ => hsending

theorem sends_onOverflow (hline : line.Accounts wrote) (hsending : e.isSending = true) :
    Sends wrote e w (onOverflow line e w) := by
  unfold onOverflow
  have hflush := hline.flushReceived w
  generalize line.flushReceived w = flushed at hflush
  obtain ⟨_ | _, w₁⟩ := flushed
  · exact .keep hflush rfl rfl rfl nofun
  · refine .stay hflush rfl rfl (Nat.zero_le _) (fun _ => rfl) ?_
    intro _ (hidle : e.isSending = false)
    rw [hsending] at hidle
    cases hidle

theorem sends_onTxDone (hline : line.Accounts wrote) (hsending : e.isSending = true) :
    Sends wrote e w (onTxDone line e w) := by
  unfold onTxDone
  split_ifs with hstate hleft
  · exact sends_writeChunk hline hsending
  · exact sends_finishSend (hline.refl w) (Nat.le_of_not_lt hleft)
  · exact .keep (hline.refl w) rfl rfl rfl fun _ => hsending

theorem sends_onAlarm (hline : line.Accounts wrote) (hsending : e.isSending = true) :
    Sends wrote e w (onAlarm line e w) := by
  unfold onAlarm
  split
  · exact sends_endBreak hline
  · exact sends_startData hline
  all_goals exact .keep (hline.refl w) rfl rfl rfl fun _ => hsending

/-- Whatever event occurs while a frame is sent and none is received, the frame goes on. -/
theorem sends_handle (hline : line.Accounts wrote) (hsending : e.isSending = true)
    (hsilent : e.isReceiving = false) (event : Event) :
    Sends wrote e w (handle line event e w) := by
  have hdeaf := acceptsRx_of_isSending hsending
  have hstay {w' : σ} (hwrote : wrote [] w w') :
      Sends wrote e w ((.ok () : Except ε Unit), e, w') :=
    .keep hwrote rfl rfl rfl fun _ => hsending
  cases event with
  | breakDetected =>
    have hbreak : e.onBreak (line.now w).1 = e := by
      rw [onBreak, hdeaf]
      rfl
    change Sends wrote e w (.ok (), e.onBreak (line.now w).1, (line.now w).2)
    rw [hbreak]
    exact hstay (hline.now w)
  | mabElapsed =>
    have hrx : e.rxState ≠ .inBreak := by
      intro h
      rw [isReceiving, h] at hsilent
      cases hsilent
    rw [handle, if_neg hrx]
    exact hstay (hline.refl w)
  | rxData =>
    change Sends wrote e w (onRxData line e (line.now w).1 (line.now w).2)
    rw [onRxData, hdeaf]
    exact (sends_discard hline hsending).after hline (hline.now w) rfl rfl rfl
  | rxTimeout =>
    rw [handle, onRxTimeout, hsilent]
    exact hstay (hline.refl w)
  | parityError =>
    rw [handle, onParityError, hsilent]
    exact hstay (hline.refl w)
  | overflow => exact sends_onOverflow hline hsending
  | txEmpty =>
    rw [handle]
    split_ifs
    · exact sends_writeChunk hline hsending
    · exact hstay (hline.refl w)
  | txDone => exact sends_onTxDone hline hsending
  | alarm => exact sends_onAlarm hline hsending

/-- After an error of the driver nothing is sent or received, and the buffers are in their
places. -/
theorem fail_keeps (e : Engine) :
    e.fail.front = e.front ∧ e.fail.back = e.back.rewind ∧ e.fail.mode = e.mode ∧
      e.fail.isReceiving = false ∧ e.fail.isSending = false := by
  unfold fail
  dsimp only
  split_ifs with hsending
  · exact ⟨rfl, rfl, rfl, rfl, rfl⟩
  · exact ⟨rfl, rfl, rfl, rfl, Bool.eq_false_iff.mpr hsending⟩

theorem Sends.fail {x : ε} (h : Sends wrote e w (.error x, e₁, w₁)) :
    Sends wrote e w (.error x, e₁.fail, w₁) := by
  obtain ⟨hfront, hback, -, hrx, -⟩ := fail_keeps e₁
  constructor
  · rw [hfront]; exact h.front
  · rw [hfront]; exact h.le_head
  · rw [hfront]; exact h.head_le
  · rw [hback, show e₁.back = _ from h.back]; rfl
  · rw [hback]; exact Nat.zero_le _
  · exact fun _ => hrx
  · rw [hfront]; exact h.wrote
  · exact nofun

theorem sends_onEvent (hline : line.Accounts wrote) (hsending : e.isSending = true)
    (hsilent : e.isReceiving = false) (event : Event) :
    Sends wrote e w (onEvent line event e w) := by
  unfold onEvent
  have hhandle : Sends wrote e w (handle line event e w) :=
    sends_handle hline hsending hsilent event
  generalize handle line event e w = out at hhandle
  obtain ⟨_ | _, e₁, w₁⟩ := out
  · exact hhandle.fail
  · exact hhandle

end Engine

end LightingBus
