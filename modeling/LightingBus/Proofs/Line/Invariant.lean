import LightingBus.Proofs.Line.Receiving
import LightingBus.Simulation.Line

/-!
# The invariant of an engine

`Reachable.invariant`: whatever is done with an engine, over whatever line, its buffers stay within
their bounds, it does not receive while it sends or holds the line, and the buffer that a frame is
sent from is not exchanged before the frame is over. The last part needs the others: a reception
that ends by a timeout does not ask whether a frame is being sent.

1. `Operation` is what an engine can be told to do, `Reachable` what comes of it.
2. `WellFormed.of_sends` and `WellFormed.of_listens` turn the steps of the two sides into the
   invariant, `WellFormed.run` covers the operations.
-/

namespace LightingBus

namespace Engine

variable {σ ε : Type} {n : ℕ} {e e₁ : Engine} {timing : EngineTiming}

/-! ## Operations -/

/-- What the owner of an engine does with it. -/
inductive Operation where
  | beginSend (size : ℕ) (withBreak : Bool) (turnaround : Turnaround)
  | event (event : Event)
  | checkIdle (now : UInt64)
  | setMode (mode : Mode)
  | armReceive (noBreak : Bool)
  | abortSend
  | takeFrame
  | takeFaults
  /-- Copies bytes into the front buffer. -/
  | writeAt (offset : ℕ) (bytes : Bytes)

/-- The engine after an operation over a line. -/
def Operation.run (line : Transport σ ε) (w : σ) (e : Engine) : Operation → Engine
  | .beginSend size withBreak turnaround =>
    (Engine.beginSend line e size withBreak turnaround w).2.1
  | .event kind => (onEvent line kind e w).2.1
  | .checkIdle now => e.checkIdle now
  | .setMode mode => e.setMode mode
  | .armReceive noBreak => e.armReceive noBreak
  | .abortSend => e.abortSend.2
  | .takeFrame => e.takeFrame.2
  | .takeFaults => e.takeFaults.2
  | .writeAt offset bytes => { e with front := (e.front.writeAt offset bytes).2 }

/-- A new engine, and what becomes of it by operations. The line may be another one each time, and
do what it likes in between. -/
inductive Reachable (capacity : ℕ) (timing : EngineTiming) : Engine → Prop where
  | create : Reachable capacity timing (.create capacity timing)
  | operate {σ ε : Type} (line : Transport σ ε) (w : σ) (op : Operation) {e : Engine} :
    Reachable capacity timing e → Reachable capacity timing (op.run line w e)

/-! ## The invariant -/

/-- The invariant of an engine with buffers of this many slots. -/
structure WellFormed (capacity : ℕ) (e : Engine) : Prop where
  bounded : e.Bounded capacity
  sending : e.isSending = true →
    e.isReceiving = false ∧ e.front.head ≤ e.front.sendSize
  transmit : e.mode = .transmit → e.isReceiving = false

/-- Both buffers stay in their places: at most their cursors move. -/
def InPlace (e e' : Engine) : Prop :=
  e'.front = { e.front with head := e'.front.head } ∧
    e'.back = { e.back with head := e'.back.head }

theorem Sends.inPlace {wrote : Bytes → σ → σ → Prop} {w : σ}
    {out : Except ε Unit × Engine × σ} (h : Sends wrote e w out) : InPlace e out.2.1 :=
  ⟨h.front, h.back⟩

theorem WellFormed.of_sends {wrote : Bytes → σ → σ → Prop} {w : σ}
    {out : Except ε Unit × Engine × σ} (h : Sends wrote e w out) (hbounded : e.Bounded n)
    (hsilent : e.isReceiving = false) (hhead : e.front.head ≤ e.front.sendSize) :
    out.2.1.WellFormed n where
  bounded :=
    ⟨hbounded.front.of_head h.front (Nat.le_trans (h.head_le hhead) hbounded.front.sendSize),
      hbounded.back.of_head h.back (Nat.le_trans h.back_le hbounded.back.head)⟩
  sending := by
    intro _
    rw [show out.2.1.front.sendSize = e.front.sendSize by rw [h.front]]
    exact ⟨h.silent hsilent, h.head_le hhead⟩
  transmit := fun _ => h.silent hsilent

/-- While no frame is sent only the bounds and the deafness of a transmitter matter. -/
theorem WellFormed.of_listens (h : e.WellFormed n) (hidle : e.isSending = false)
    (hstep : Listens e e₁) : e₁.WellFormed n where
  bounded := hstep.bounded h.bounded
  sending := by
    intro hsending
    rw [isSending_congr hstep.txState, hidle] at hsending
    cases hsending
  transmit := by
    intro hmode
    have hmode' : e.mode = .transmit := hstep.mode.symm.trans hmode
    exact (hstep.deaf hmode' (h.transmit hmode')).2

theorem WellFormed.create (n : ℕ) (timing : EngineTiming) : (create n timing).WellFormed n where
  bounded := ⟨.empty n, .empty n⟩
  sending := nofun
  transmit := nofun

theorem WellFormed.onEvent (h : e.WellFormed n) (line : Transport σ ε) (event : Event) (w : σ) :
    (onEvent line event e w).2.1.WellFormed n := by
  cases hsending : e.isSending with
  | true =>
    obtain ⟨hsilent, hhead⟩ := h.sending hsending
    exact .of_sends (sends_onEvent line.accounts_true hsending hsilent event) h.bounded hsilent
      hhead
  | false => exact h.of_listens hsending (hears_onEvent line.accounts_true hsending event).listens

theorem WellFormed.checkIdle (h : e.WellFormed n) (now : UInt64) :
    (e.checkIdle now).WellFormed n := by
  cases hsending : e.isSending with
  | true =>
    -- the timeout itself does not ask whether a frame is sent; there is no reception it could end
    rw [checkIdle_of_silent (h.sending hsending).1]
    exact h
  | false => exact h.of_listens hsending (listens_checkIdle e now)

theorem WellFormed.beginSend (h : e.WellFormed n) (line : Transport σ ε) (size : ℕ)
    (withBreak : Bool) (turnaround : Turnaround) (w : σ) :
    (beginSend line e size withBreak turnaround w).2.1.WellFormed n := by
  by_cases hsending : e.isSending = true
  · rw [beginSend_eq, if_pos hsending]
    exact h
  by_cases hsize : e.front.capacity < size
  · rw [beginSend_eq, if_neg hsending, if_pos hsize]
    exact h
  have hfits : size ≤ n := by
    rw [← h.bounded.front.slots]
    omega
  have hprepared : (e.prepared size turnaround).Bounded n :=
    ⟨h.bounded.front.prepare hfits, h.bounded.back.rewind⟩
  obtain ⟨e₁, w₁, hbegin, hsends⟩ | ⟨x, e₁, w₁, hbegin, hsends⟩ :=
    sends_beginSend line.accounts_true withBreak turnaround (Bool.eq_false_iff.mpr hsending)
      (Nat.le_of_not_lt hsize) (w := w)
  · have hbegun : e₁.WellFormed n := .of_sends hsends hprepared rfl (Nat.zero_le _)
    rw [hbegin]
    exact hbegun
  · have hfailed : e₁.WellFormed n := .of_sends hsends hprepared rfl (Nat.zero_le _)
    rw [hbegin]
    exact ⟨⟨hfailed.bounded.front, hfailed.bounded.back⟩, nofun, hfailed.transmit⟩

theorem WellFormed.setMode (h : e.WellFormed n) (mode : Mode) : (e.setMode mode).WellFormed n := by
  cases mode with
  | receive => exact ⟨⟨h.bounded.front, h.bounded.back⟩, h.sending, nofun⟩
  | transmit =>
    have hhead : e.isSending = true → e.front.head ≤ e.front.sendSize := fun hs => (h.sending hs).2
    exact ⟨⟨h.bounded.front, h.bounded.back.rewind⟩, fun hs => ⟨rfl, hhead hs⟩, fun _ => rfl⟩

theorem WellFormed.armReceive (h : e.WellFormed n) (noBreak : Bool) :
    (e.armReceive noBreak).WellFormed n where
  bounded := ⟨h.bounded.front, h.bounded.back⟩
  sending := by
    rw [isSending_armReceive]
    exact h.sending
  transmit := nofun

theorem WellFormed.abortSend (h : e.WellFormed n) : e.abortSend.2.WellFormed n := by
  unfold Engine.abortSend
  dsimp only
  split_ifs
  · exact ⟨⟨h.bounded.front.rewind, h.bounded.back⟩, nofun, h.transmit⟩
  · exact h

theorem WellFormed.takeFrame (h : e.WellFormed n) : e.takeFrame.2.WellFormed n := by
  unfold Engine.takeFrame
  split_ifs
  · exact ⟨⟨h.bounded.front, h.bounded.back⟩, h.sending, h.transmit⟩
  · exact h

theorem WellFormed.writeAt (h : e.WellFormed n) (offset : ℕ) (bytes : Bytes) :
    ({ e with front := (e.front.writeAt offset bytes).2 } : Engine).WellFormed n where
  bounded := ⟨h.bounded.front.writeAt offset bytes, h.bounded.back⟩
  sending := by
    intro hsending
    obtain ⟨hsilent, hhead⟩ := h.sending hsending
    refine ⟨hsilent, ?_⟩
    dsimp only
    unfold FrameBuffer.writeAt
    split_ifs
    · exact hhead
    · exact hhead
  transmit := h.transmit

/-- No operation breaks the invariant. -/
theorem WellFormed.run (h : e.WellFormed n) (line : Transport σ ε) (w : σ) (op : Operation) :
    (op.run line w e).WellFormed n := by
  cases op with
  | beginSend size withBreak turnaround => exact h.beginSend line size withBreak turnaround w
  | event event => exact h.onEvent line event w
  | checkIdle now => exact h.checkIdle now
  | setMode mode => exact h.setMode mode
  | armReceive noBreak => exact h.armReceive noBreak
  | abortSend => exact h.abortSend
  | takeFrame => exact h.takeFrame
  | takeFaults => exact ⟨⟨h.bounded.front, h.bounded.back⟩, h.sending, h.transmit⟩
  | writeAt offset bytes => exact h.writeAt offset bytes

theorem Reachable.wellFormed (h : Reachable n timing e) : e.WellFormed n := by
  induction h with
  | create => exact .create n timing
  | operate line w op _ ih => exact ih.run line w op

/-- Every engine satisfies the invariant, and while it sends a frame, neither an event nor an idle
line moves a buffer from its place. -/
theorem Reachable.invariant (h : Reachable n timing e) : e.WellFormed n ∧
    (e.isSending = true → (∀ now, InPlace e (e.checkIdle now)) ∧
      ∀ {σ ε : Type} (line : Transport σ ε) (event : Event) (w : σ),
        InPlace e (Engine.onEvent line event e w).2.1) := by
  refine ⟨h.wellFormed, fun hsending => ?_⟩
  obtain ⟨hsilent, -⟩ := h.wellFormed.sending hsending
  refine ⟨fun now => ?_, fun line event w => ?_⟩
  · rw [checkIdle_of_silent hsilent]
    exact ⟨rfl, rfl⟩
  · exact (sends_onEvent line.accounts_true hsending hsilent event).inPlace

/-- An engine in the break in front of a frame of three bytes. -/
def announced : Engine :=
  (Engine.beginSend Simulation.line (create 8 {}) 3 true .receive
    { Simulation.World.quiet with alarms := true }).2.1

theorem invariant_announced : announced.isSending = true ∧ announced.WellFormed 8 ∧
    InPlace announced (Engine.onEvent Simulation.line .rxTimeout announced .quiet).2.1 := by
  have hreachable : Reachable 8 {} announced :=
    .operate Simulation.line _ (.beginSend 3 true .receive) .create
  have hsending : announced.isSending = true := rfl
  obtain ⟨hwell, hplace⟩ := hreachable.invariant
  exact ⟨hsending, hwell, (hplace hsending).2 Simulation.line .rxTimeout .quiet⟩

end Engine

end LightingBus
