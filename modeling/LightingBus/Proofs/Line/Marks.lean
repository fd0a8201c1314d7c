import LightingBus.Proofs.Line.Sending

/-!
# Marks

An engine puts down for its owner what went wrong and that a frame was completed. These marks steer
nothing: two engines that differ in their marks only do the same, accept and read the same bytes and
end with the same results (`alike_onEvent`, `alike_beginSend`, `alike_checkIdle`).

1. `Alike` relates two such engines; `Marks.Kept` is what a relation between the marks has to stand
   while an engine sends, `Marks.Noted` what it has to stand while it receives.
2. There is one lemma for every function of the engine, in the order of the calls of the source.
-/

namespace LightingBus

variable {σ ε ρ : Type}

/-- What an engine puts down for its owner. -/
structure Marks where
  faults : Faults
  /-- A frame was completed and not taken yet. -/
  ready : Bool

/-- A relation between the marks of two engines that stands whatever goes wrong in both. -/
structure Marks.Kept (R : Marks → Marks → Prop) : Prop where
  clear {m m' : Marks} : R m m' → R { m with ready := false } { m' with ready := false }
  bufferOverflow {m m' : Marks} : R m m' →
    R { m with faults.bufferOverflow := true } { m' with faults.bufferOverflow := true }
  framingError {m m' : Marks} : R m m' →
    R { m with faults.framingError := true } { m' with faults.framingError := true }
  uartOverflow {m m' : Marks} : R m m' →
    R { m with faults.uartOverflow := true } { m' with faults.uartOverflow := true }
  driverError {m m' : Marks} : R m m' →
    R { m with faults.driverError := true } { m' with faults.driverError := true }

/-- A relation that stands as well when both complete a frame. -/
structure Marks.Noted (R : Marks → Marks → Prop) : Prop extends Marks.Kept R where
  complete {m m' : Marks} : R m m' → R { m with ready := true } { m' with ready := true }

theorem Marks.noted_true : Marks.Noted fun _ _ => True :=
  ⟨⟨fun _ => trivial, fun _ => trivial, fun _ => trivial, fun _ => trivial, fun _ => trivial⟩,
    fun _ => trivial⟩

namespace Engine

/-- The engine with other marks. -/
def mark (e : Engine) (m : Marks) : Engine :=
  { e with faults := m.faults, frameReady := m.ready }

def marks (e : Engine) : Marks :=
  ⟨e.faults, e.frameReady⟩

/-- Two engines that differ in their marks only, which are related. -/
structure Alike (R : Marks → Marks → Prop) (a b : Engine) : Prop where
  eq_mark : b = a.mark b.marks
  rel : R a.marks b.marks

/-- Two outcomes with the same result and the same world. -/
inductive AlikeOut (R : Marks → Marks → Prop) : ρ × Engine × σ → ρ × Engine × σ → Prop where
  | mk {r : ρ} {a b : Engine} {w : σ} : Alike R a b → AlikeOut R (r, a, w) (r, b, w)

variable {line : Transport σ ε} {R : Marks → Marks → Prop} {e a b a₁ b₁ a₂ b₂ : Engine} {w : σ}
  {out out' out₁ out₁' : ρ × Engine × σ}

theorem Alike.exists_mark (h : Alike R a b) : ∃ m, b = a.mark m ∧ R a.marks m :=
  ⟨b.marks, h.eq_mark, h.rel⟩

theorem Alike.ite {p q : Prop} [Decidable p] [Decidable q] (hpq : p ↔ q)
    (h₁ : p → Alike R a₁ b₁) (h₂ : Alike R a₂ b₂) :
    Alike R (if p then a₁ else a₂) (if q then b₁ else b₂) := by
  by_cases hp : p
  · rw [if_pos hp, if_pos (hpq.mp hp)]
    exact h₁ hp
  · rwa [if_neg hp, if_neg (mt hpq.mpr hp)]

theorem AlikeOut.ite {p q : Prop} [Decidable p] [Decidable q] (hpq : p ↔ q)
    (h₁ : p → AlikeOut R out out') (h₂ : AlikeOut R out₁ out₁') :
    AlikeOut R (if p then out else out₁) (if q then out' else out₁') := by
  by_cases hp : p
  · rw [if_pos hp, if_pos (hpq.mp hp)]
    exact h₁ hp
  · rwa [if_neg hp, if_neg (mt hpq.mpr hp)]

theorem AlikeOut.result (h : AlikeOut R out out') : out'.1 = out.1 := by
  cases h
  rfl

theorem AlikeOut.world (h : AlikeOut R out out') : out'.2.2 = out.2.2 := by
  cases h
  rfl

theorem AlikeOut.engine (h : AlikeOut R out out') : Alike R out.2.1 out'.2.1 := by
  cases h with
  | mk h => exact h

/-! ## Sending -/

theorem alike_setMode (h : Alike R a b) (mode : Mode) :
    Alike R (a.setMode mode) (b.setMode mode) := by
  obtain ⟨m, rfl, hm⟩ := h.exists_mark
  cases mode <;> exact ⟨rfl, hm⟩

theorem alike_armReceive (hR : Marks.Kept R) (h : Alike R a b) (noBreak : Bool) :
    Alike R (a.armReceive noBreak) (b.armReceive noBreak) := by
  obtain ⟨m, rfl, hm⟩ := h.exists_mark
  exact ⟨rfl, hR.clear hm⟩

theorem alike_abortSend (h : Alike R a b) : Alike R a.abortSend.2 b.abortSend.2 := by
  obtain ⟨m, rfl, hm⟩ := h.exists_mark
  exact .ite Iff.rfl (fun _ => ⟨rfl, hm⟩) ⟨rfl, hm⟩

theorem alike_writeChunk (h : Alike R a b) :
    AlikeOut R (writeChunk line a w) (writeChunk line b w) := by
  obtain ⟨m, rfl, hm⟩ := h.exists_mark
  refine .ite Iff.rfl (fun _ => ?_) (.mk ⟨rfl, hm⟩)
  dsimp only [mark]
  rcases line.write a.front.pending w with ⟨_ | _, _⟩ <;> exact .mk ⟨rfl, hm⟩

theorem alike_finishSend (hR : Marks.Kept R) (h : Alike R a b) :
    Alike R a.finishSend b.finishSend := by
  obtain ⟨m, rfl, hm⟩ := h.exists_mark
  unfold finishSend
  dsimp only [mark]
  cases a.turnaround with
  | none => exact ⟨rfl, hm⟩
  | receive | receiveNoBreak => exact ⟨rfl, hR.clear hm⟩

theorem alike_startData (hR : Marks.Kept R) (h : Alike R a b) :
    AlikeOut R (startData line a w) (startData line b w) := by
  obtain ⟨m, rfl, hm⟩ := h.exists_mark
  have hchunk : AlikeOut R (writeChunk line { a with txState := .sending } w)
      (writeChunk line { a.mark m with txState := .sending } w) := alike_writeChunk ⟨rfl, hm⟩
  unfold startData
  generalize writeChunk line { a with txState := .sending } w = sent at hchunk ⊢
  generalize writeChunk line { a.mark m with txState := .sending } w = sent' at hchunk ⊢
  obtain ⟨hsent⟩ := hchunk
  next r _ _ _ =>
    cases r with
    | error x => exact .mk hsent
    | ok =>
      obtain ⟨m₁, rfl, hm₁⟩ := hsent.exists_mark
      exact .mk (.ite Iff.rfl (fun _ => alike_finishSend hR ⟨rfl, hm₁⟩) ⟨rfl, hm₁⟩)

theorem alike_endBreak (hR : Marks.Kept R) (h : Alike R a b) :
    AlikeOut R (endBreak line a w) (endBreak line b w) := by
  obtain ⟨m, rfl, hm⟩ := h.exists_mark
  unfold endBreak
  rcases line.releaseBreak w with ⟨_ | _, w₁⟩
  · exact .mk ⟨rfl, hm⟩
  · dsimp only [mark]
    rcases line.setAlarm a.timing.markLength w₁ with ⟨_ | _, w₂⟩
    · exact alike_startData hR ⟨rfl, hm⟩
    · exact .mk ⟨rfl, hm⟩

theorem alike_startBreak (hR : Marks.Kept R) (h : Alike R a b) (now : UInt64) :
    AlikeOut R (startBreak line a now w) (startBreak line b now w) := by
  obtain ⟨m, rfl, hm⟩ := h.exists_mark
  unfold startBreak
  dsimp only [mark]
  rcases line.assertBreak w with ⟨_ | _, w₁⟩
  · exact .mk ⟨rfl, hm⟩
  · dsimp only
    rcases line.setAlarm a.timing.breakLength w₁ with ⟨_ | _, w₂⟩
    · exact alike_endBreak hR ⟨rfl, hm⟩
    · exact .mk ⟨rfl, hm⟩

theorem alike_startFrame (hR : Marks.Kept R) (h : Alike R a b) (withBreak : Bool) :
    AlikeOut R (startFrame line a withBreak w) (startFrame line b withBreak w) := by
  obtain ⟨m, rfl, hm⟩ := h.exists_mark
  rw [startFrame_eq, startFrame_eq]
  refine .ite Iff.rfl (fun _ => .ite Iff.rfl (fun _ => ?_) ?_) ?_
  · exact alike_startData hR ⟨rfl, hm⟩
  · exact alike_startBreak hR ⟨rfl, hm⟩ _
  · exact alike_startData hR ⟨rfl, hm⟩

theorem alike_beginSend (hR : Marks.Kept R) (h : Alike R a b) (size : ℕ) (withBreak : Bool)
    (turnaround : Turnaround) : AlikeOut R (beginSend line a size withBreak turnaround w)
      (beginSend line b size withBreak turnaround w) := by
  obtain ⟨m, rfl, hm⟩ := h.exists_mark
  rw [beginSend_eq, beginSend_eq]
  refine .ite Iff.rfl (fun _ => .mk ⟨rfl, hm⟩) (.ite Iff.rfl (fun _ => .mk ⟨rfl, hm⟩) ?_)
  have hstart : AlikeOut R (startFrame line (a.prepared size turnaround) withBreak w)
      (startFrame line ((a.mark m).prepared size turnaround) withBreak w) :=
    alike_startFrame hR ⟨rfl, hm⟩ withBreak
  generalize startFrame line (a.prepared size turnaround) withBreak w = sent at hstart ⊢
  generalize startFrame line ((a.mark m).prepared size turnaround) withBreak w = sent' at hstart ⊢
  obtain ⟨hsent⟩ := hstart
  next r _ _ _ =>
    obtain ⟨m₁, rfl, hm₁⟩ := hsent.exists_mark
    cases r <;> exact .mk ⟨rfl, hm₁⟩

theorem alike_onTxDone (hR : Marks.Kept R) (h : Alike R a b) :
    AlikeOut R (onTxDone line a w) (onTxDone line b w) := by
  obtain ⟨m, rfl, hm⟩ := h.exists_mark
  refine .ite Iff.rfl (fun _ => .ite Iff.rfl (fun _ => ?_) ?_) (.mk ⟨rfl, hm⟩)
  · exact alike_writeChunk ⟨rfl, hm⟩
  · exact .mk (alike_finishSend hR ⟨rfl, hm⟩)

theorem alike_onAlarm (hR : Marks.Kept R) (h : Alike R a b) :
    AlikeOut R (onAlarm line a w) (onAlarm line b w) := by
  obtain ⟨m, rfl, hm⟩ := h.exists_mark
  have htx : (a.mark m).txState = a.txState := rfl
  unfold onAlarm
  rw [htx]
  cases a.txState with
  | inBreak => exact alike_endBreak hR ⟨rfl, hm⟩
  | inMab => exact alike_startData hR ⟨rfl, hm⟩
  | idle | sending | done => exact .mk ⟨rfl, hm⟩

/-! ## Receiving -/

theorem alike_completeFrame (hR : Marks.Noted R) (h : Alike R a b) (size : ℕ) :
    Alike R (a.completeFrame size) (b.completeFrame size) := by
  obtain ⟨m, rfl, hm⟩ := h.exists_mark
  exact ⟨rfl, hR.complete hm⟩

theorem alike_onBreak (hR : a.acceptsRx = true → Marks.Noted R) (h : Alike R a b)
    (now : UInt64) : Alike R (a.onBreak now) (b.onBreak now) := by
  obtain ⟨m, rfl, hm⟩ := h.exists_mark
  refine .ite Iff.rfl (fun haccepts => ?_) ⟨rfl, hm⟩
  have hended : Alike R
      (if a.rxState = .inData ∧ 0 < a.back.head then a.completeFrame a.back.head else a)
      (if (a.mark m).rxState = .inData ∧ 0 < (a.mark m).back.head then
        (a.mark m).completeFrame (a.mark m).back.head else a.mark m) :=
    .ite Iff.rfl (fun _ => alike_completeFrame (hR haccepts) ⟨rfl, hm⟩ _) ⟨rfl, hm⟩
  obtain ⟨m₁, heq, hm₁⟩ := hended.exists_mark
  dsimp only
  rw [heq]
  exact ⟨rfl, hm₁⟩

theorem alike_completeIfTold (hR : Marks.Noted R) (h : Alike R a b) :
    Alike R a.completeIfTold b.completeIfTold := by
  obtain ⟨m, rfl, hm⟩ := h.exists_mark
  unfold completeIfTold
  dsimp only [mark]
  cases sizeTold? a.rxWithoutBreak a.back.filled with
  | none => exact ⟨rfl, hm⟩
  | some size =>
    exact .ite Iff.rfl (fun _ => alike_completeFrame hR ⟨rfl, hm⟩ size) ⟨rfl, hm⟩

theorem alike_discard (h : Alike R a b) : AlikeOut R (discard line a w) (discard line b w) := by
  unfold discard
  rcases line.flushReceived w with ⟨_ | _, _⟩ <;> exact .mk h

theorem alike_probeFull (hR : Marks.Noted R) (h : Alike R a b) :
    AlikeOut R (probeFull line a w) (probeFull line b w) := by
  obtain ⟨m, rfl, hm⟩ := h.exists_mark
  unfold probeFull
  rcases line.read 1 w with ⟨_ | _ | _, w₁⟩
  · exact .mk ⟨rfl, hm⟩
  · exact .mk (alike_completeIfTold hR ⟨rfl, hm⟩)
  · dsimp only
    rcases line.flushReceived w₁ with ⟨_ | _, _⟩
    · exact .mk ⟨rfl, hm⟩
    · exact .mk ⟨rfl, hR.bufferOverflow hm⟩

theorem alike_takeBytes (hR : Marks.Noted R) (h : Alike R a b) :
    AlikeOut R (takeBytes line a w) (takeBytes line b w) := by
  obtain ⟨m, rfl, hm⟩ := h.exists_mark
  unfold takeBytes
  dsimp only [mark]
  rcases line.read (a.back.capacity - a.back.head) w with ⟨_ | bytes, w₁⟩
  · exact .mk ⟨rfl, hm⟩
  · exact .ite Iff.rfl (fun _ => alike_probeFull hR ⟨rfl, hm⟩)
      (.mk (alike_completeIfTold hR ⟨rfl, hm⟩))

/-- Which bytes are taken does not depend on the marks. -/
theorem beginData?_mark (e : Engine) (m : Marks) :
    (e.mark m).beginData? = e.beginData?.map fun e => e.mark m := by
  unfold beginData?
  dsimp only [mark]
  cases e.rxState with
  | idle | frameComplete => by_cases hexpect : e.expectNoBreak = true <;> simp [hexpect]
  | inBreak | inMab | inData | error => rfl

theorem marks_of_beginData? (h : e.beginData? = some a) : a.marks = e.marks := by
  unfold beginData? at h
  split at h
  · split_ifs at h
    cases h
    rfl
  · split_ifs at h
    cases h
    rfl
  · cases h
  all_goals
    cases h
    rfl

theorem alike_onRxData (hR : a.acceptsRx = true → Marks.Noted R) (h : Alike R a b)
    (now : UInt64) : AlikeOut R (onRxData line a now w) (onRxData line b now w) := by
  obtain ⟨m, rfl, hm⟩ := h.exists_mark
  refine .ite Iff.rfl (fun haccepts => ?_) (alike_discard ⟨rfl, hm⟩)
  rw [beginData?_mark]
  cases hbegin : a.beginData? with
  | none => exact alike_discard ⟨rfl, hm⟩
  | some e =>
    rw [← marks_of_beginData? hbegin] at hm
    exact alike_takeBytes (hR haccepts) ⟨rfl, hm⟩

theorem alike_onRxTimeout (hR : a.isReceiving = true → Marks.Noted R) (h : Alike R a b) :
    Alike R a.onRxTimeout b.onRxTimeout := by
  obtain ⟨m, rfl, hm⟩ := h.exists_mark
  refine .ite Iff.rfl (fun hreceiving => .ite Iff.rfl (fun _ => ?_) ⟨rfl, hm⟩) ⟨rfl, hm⟩
  exact alike_completeFrame (hR hreceiving) ⟨rfl, hm⟩ a.back.head

theorem alike_checkIdle (hR : Marks.Noted R) (h : Alike R a b) (now : UInt64) :
    Alike R (a.checkIdle now) (b.checkIdle now) := by
  obtain ⟨m, rfl, hm⟩ := h.exists_mark
  exact .ite Iff.rfl (fun _ => alike_onRxTimeout (fun _ => hR) ⟨rfl, hm⟩) ⟨rfl, hm⟩

/-! ## Events -/

theorem alike_onParityError (hR : Marks.Kept R) (h : Alike R a b) :
    Alike R a.onParityError b.onParityError := by
  obtain ⟨m, rfl, hm⟩ := h.exists_mark
  exact .ite Iff.rfl (fun _ => ⟨rfl, hR.framingError hm⟩) ⟨rfl, hm⟩

theorem alike_onOverflow (hR : Marks.Kept R) (h : Alike R a b) :
    AlikeOut R (onOverflow line a w) (onOverflow line b w) := by
  obtain ⟨m, rfl, hm⟩ := h.exists_mark
  unfold onOverflow
  rcases line.flushReceived w with ⟨_ | _, _⟩
  · exact .mk ⟨rfl, hm⟩
  · exact .mk ⟨rfl, hR.uartOverflow hm⟩

/-- A frame is completed only by an engine that accepts bytes or is receiving. -/
theorem alike_handle (hR : Marks.Kept R)
    (hnoted : a.acceptsRx = true ∨ a.isReceiving = true → Marks.Noted R) (h : Alike R a b)
    (event : Event) : AlikeOut R (handle line event a w) (handle line event b w) := by
  obtain ⟨m, rfl, hm⟩ := h.exists_mark
  have hmark : Alike R a (a.mark m) := ⟨rfl, hm⟩
  cases event with
  | breakDetected => exact .mk (alike_onBreak (fun ha => hnoted (.inl ha)) hmark _)
  | mabElapsed => exact .mk (.ite Iff.rfl (fun _ => ⟨rfl, hm⟩) ⟨rfl, hm⟩)
  | rxData => exact alike_onRxData (fun ha => hnoted (.inl ha)) hmark _
  | rxTimeout => exact .mk (alike_onRxTimeout (fun hr => hnoted (.inr hr)) hmark)
  | parityError => exact .mk (alike_onParityError hR hmark)
  | overflow => exact alike_onOverflow hR hmark
  | txEmpty => exact .ite Iff.rfl (fun _ => alike_writeChunk hmark) (.mk hmark)
  | txDone => exact alike_onTxDone hR hmark
  | alarm => exact alike_onAlarm hR hmark

theorem alike_fail (hR : Marks.Kept R) (h : Alike R a b) : Alike R a.fail b.fail := by
  obtain ⟨m, rfl, hm⟩ := h.exists_mark
  exact .ite Iff.rfl (fun _ => ⟨rfl, hR.driverError hm⟩) ⟨rfl, hR.driverError hm⟩

theorem alike_onEvent (hR : Marks.Kept R)
    (hnoted : a.acceptsRx = true ∨ a.isReceiving = true → Marks.Noted R) (h : Alike R a b)
    (event : Event) : AlikeOut R (onEvent line event a w) (onEvent line event b w) := by
  have hhandle : AlikeOut R (handle line event a w) (handle line event b w) :=
    alike_handle hR hnoted h event
  unfold onEvent
  generalize handle line event a w = out at hhandle ⊢
  generalize handle line event b w = out' at hhandle ⊢
  obtain ⟨hout⟩ := hhandle
  next r _ _ _ =>
    cases r with
    | error x => exact .mk (alike_fail hR hout)
    | ok => exact .mk hout

end Engine

end LightingBus
