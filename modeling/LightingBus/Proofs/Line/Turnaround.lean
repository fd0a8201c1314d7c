import Mathlib.Data.List.Infix
import Mathlib.Data.List.ReduceOption
import LightingBus.Proofs.Line.EarlyEnds
import LightingBus.Proofs.Line.Tasks

/-!
# Answers in the turnaround

Once the last byte of a request has left, the line is turned around for the answer. How much of the
answer is handled by a poll depends on when the poll comes: the answer may be complete before the
task that has sent the request looks again, or come in piece by piece while that task waits for it.
Wherever the polls fall between the events, the answer is received, as long as no timeout runs out.

1. `Wire` is what a line delivers and when its clock was read, and `Transport.Conveys` a line that
   delivers this. `Timely` says of two readings of the clock that no timeout runs out between them.
2. `Engine.Stage` says how far an engine is with the request and its answer, by what is still to be
   delivered. `Stage.handle` is the step: each event leads to the next stage.
3. `Stage.txDone_mem`, `Stage.of_idle` and `Stage.of_isReceiving` tell from the stage what is still
   to come, so that the clock tells whether it comes in time.
-/

namespace LightingBus

variable {σ ε α β : Type}

/-! ## What a line delivers, and when -/

/-- A reading of the clock. -/
structure Reading where
  /-- Something had been sent before. -/
  opened : Bool
  /-- The events that were still to come. -/
  left : List Event
  time : UInt64

/-- What is known of a line. -/
structure Wire where
  /-- What is still to be delivered, events with the bytes that come with them. Where there is
  nothing, a poll finds nothing, and neither where there is an alarm that nobody has set. -/
  script : List (Option (Event × Bytes))
  /-- An alarm is set. -/
  alarm : Bool
  /-- The bytes that were received and not read. -/
  received : Bytes
  /-- A break was begun, or bytes were written. -/
  opened : Bool
  /-- The readings of the clock, oldest first. -/
  readings : List Reading

namespace Wire

/-- What is still to be delivered, whenever that is. -/
def deliveries (v : Wire) : List (Event × Bytes) :=
  v.script.reduceOption

/-- The events that are still to come. -/
def left (v : Wire) : List Event :=
  v.deliveries.map Prod.fst

/-- The reading of the clock that shows this time. -/
def reading (v : Wire) (time : UInt64) : Reading :=
  ⟨v.opened, v.left, time⟩

/-- The clock was read. -/
def timed (v : Wire) (time : UInt64) : Wire :=
  { v with readings := v.readings ++ [v.reading time] }

/-- The next event, unless nothing is delivered now. -/
def polled (v : Wire) : Option Event × Wire :=
  match v.script with
  | [] => (none, v)
  | none :: script => (none, { v with script := script })
  | some (event, bytes) :: script =>
    if event = .alarm ∧ v.alarm = false then (none, { v with script := script })
    else
      (some event, { v with
        script := script
        alarm := v.alarm && event != .alarm
        received := v.received ++ bytes })

end Wire

/-- A line of which `view` tells what it delivers and when its clock was read. Nothing interrupts
a task, the driver does not fail, and all that is written is accepted. If the clock has `alarms`,
they can be set. -/
structure Transport.Conveys (line : Transport σ ε) (view : σ → Wire) (alarms : Bool) : Prop where
  write (bytes : Bytes) (w : σ) : ∃ w', line.write bytes w = (.ok bytes.length, w') ∧
    view w' = { view w with opened := true }
  read (count : ℕ) (w : σ) : ∃ w', line.read count w = (.ok ((view w).received.take count), w') ∧
    view w' = { view w with received := (view w).received.drop count }
  assertBreak (w : σ) : ∃ w', line.assertBreak w = (.ok (), w') ∧
    view w' = { view w with opened := true }
  releaseBreak (w : σ) : ∃ w', line.releaseBreak w = (.ok (), w') ∧ view w' = view w
  flushReceived (w : σ) : ∃ w', line.flushReceived w = (.ok (), w') ∧
    view w' = { view w with received := [] }
  flushQueued (w : σ) : ∃ w', line.flushQueued w = (.ok (), w') ∧ view w' = view w
  poll (w : σ) : ∃ w', line.poll w = ((view w).polled.1, w') ∧ view w' = (view w).polled.2
  interrupts (w : σ) : ∃ w', line.interrupts w = ([], w') ∧ view w' = view w
  now (w : σ) : view (line.now w).2 = (view w).timed (line.now w).1
  delay (micros : UInt32) (w : σ) : view (line.delay micros w) = view w
  setAlarm (micros : UInt32) (w : σ) : ∃ w', line.setAlarm micros w = (alarms, w') ∧
    view w' = { view w with alarm := (view w).alarm || alarms }

/-- Between two readings of the clock no timeout runs out. -/
@[mk_iff]
structure Timely (config : LineConfig) (first second : Reading) : Prop where
  /-- What is being sent leaves within the time of a transaction. -/
  sent : first.opened = true → .txDone ∈ second.left →
    second.time - first.time < config.transactionTimeout.toUInt64
  /-- Then the answer begins within the time of a response, -/
  begun : .txDone ∉ first.left → .breakDetected ∈ second.left →
    second.time - first.time < config.responseTimeout.toUInt64
  /-- and it takes no longer than a transaction more. -/
  ended : .txDone ∉ first.left → .rxData ∈ second.left →
    second.time - first.time <
      config.responseTimeout.toUInt64 + config.transactionTimeout.toUInt64
  /-- There are no gaps in the answer. -/
  flowing : .breakDetected ∉ first.left → .rxData ∈ second.left → second.left = first.left →
    second.time - first.time < config.receiveTimeout.toUInt64

instance (config : LineConfig) (first second : Reading) :
    Decidable (Timely config first second) :=
  decidable_of_iff _ (timely_iff config first second).symm

/-- No timeout has run out. -/
def Wire.OnTime (config : LineConfig) (v : Wire) : Prop :=
  v.readings.Pairwise (Timely config)

instance (config : LineConfig) (v : Wire) : Decidable (v.OnTime config) :=
  inferInstanceAs (Decidable (v.readings.Pairwise (Timely config)))

section Wire

variable {config : LineConfig} {v v' : Wire} {line : Transport σ ε} {view : σ → Wire}
  {alarms : Bool} {w : σ}

theorem Wire.OnTime.timely {time : UInt64} {reading : Reading} (h : (v.timed time).OnTime config)
    (hreading : reading ∈ v.readings) : Timely config reading (v.reading time) :=
  (List.pairwise_append.mp h).2.2 reading hreading _ (List.mem_singleton_self _)

theorem Wire.OnTime.of_prefix (h : v'.OnTime config) (hreadings : v.readings <+: v'.readings) :
    v.OnTime config :=
  h.sublist hreadings.sublist

theorem Wire.mem_timed (v : Wire) (time : UInt64) : v.reading time ∈ (v.timed time).readings :=
  List.mem_append_right _ (List.mem_singleton_self _)

theorem Wire.prefix_timed (v : Wire) (time : UInt64) : v.readings <+: (v.timed time).readings :=
  List.prefix_append _ _

theorem Wire.readings_polled (v : Wire) : v.polled.2.readings = v.readings := by
  unfold polled
  split
  · rfl
  · rfl
  · split_ifs <;> rfl

/-- Whatever is done on the line, the readings of the clock are not forgotten. -/
theorem Transport.Conveys.accounts (hline : line.Conveys view alarms) :
    line.Accounts fun _ w w' => (view w).readings <+: (view w').readings where
  refl _ := List.prefix_rfl
  trans h₁ h₂ := h₁.trans h₂
  accepted {bytes w w' count} h := by
    obtain ⟨w₁, hwrite, hview⟩ := hline.write bytes w
    cases h.symm.trans hwrite
    rw [hview]
  refused {bytes w w' x} h := by
    obtain ⟨w₁, hwrite, -⟩ := hline.write bytes w
    cases h.symm.trans hwrite
  read count w := by
    obtain ⟨w', hread, hview⟩ := hline.read count w
    rw [hread, hview]
  assertBreak w := by
    obtain ⟨w', hassert, hview⟩ := hline.assertBreak w
    rw [hassert, hview]
  releaseBreak w := by
    obtain ⟨w', hrelease, hview⟩ := hline.releaseBreak w
    rw [hrelease, hview]
  flushReceived w := by
    obtain ⟨w', hflush, hview⟩ := hline.flushReceived w
    rw [hflush, hview]
  flushQueued w := by
    obtain ⟨w', hflush, hview⟩ := hline.flushQueued w
    rw [hflush, hview]
  poll w := by
    obtain ⟨w', hpoll, hview⟩ := hline.poll w
    rw [hpoll, hview, Wire.readings_polled]
  now w := by
    rw [hline.now]
    exact Wire.prefix_timed _ _
  delay micros w := by
    rw [hline.delay]
  setAlarm micros w := by
    obtain ⟨w', halarm, hview⟩ := hline.setAlarm micros w
    rw [halarm, hview]

end Wire

/-! ## How far an answer is -/

/-- What is delivered of an answer once it has begun: its bytes in some chunks, and an idle line. -/
def arriving (chunks : List Bytes) : List (Event × Bytes) :=
  chunks.map (fun chunk => (.rxData, chunk)) ++ [(.rxTimeout, [])]

/-- What is delivered from the beginning of a request on, with so many alarms. -/
def conversation (alarms : ℕ) (chunks : List Bytes) : List (Event × Bytes) :=
  List.replicate alarms (.alarm, []) ++ (.txDone, []) :: (.breakDetected, []) :: arriving chunks

namespace Engine

/-- How many alarms go off before the bytes of a frame are handed over. -/
def alarmsDue (e : Engine) : ℕ :=
  match e.txState with
  | .inBreak => 2
  | .inMab => 1
  | .idle | .sending | .done => 0

/-- The engine sends a request, and listens then. So many alarms may still come, if they are set. -/
structure Asks (alarms : ℕ) (alarm : Bool) (e : Engine) : Prop where
  sending : e.isSending = true
  due : e.alarmsDue ≤ alarms
  armed : e.alarmsDue ≠ 0 → alarm = true
  unsent : e.txState ≠ .sending → e.front.head < e.front.sendSize
  handed : e.txState = .sending → e.front.sendSize ≤ e.front.head
  turnaround : e.turnaround = .receive
  silent : e.rxState = .idle

/-- How far an engine is with a request and the answer to it, by what is still to be delivered. -/
inductive Stage (n : ℕ) (packet : Bytes) (alarm : Bool) :
    List (Event × Bytes) → Engine → Prop where
  /-- The request is on its way out. -/
  | asking {alarms : ℕ} {chunks : List Bytes} {e : Engine} : e.Asks alarms alarm →
    chunks.flatten = packet → Stage n packet alarm (conversation alarms chunks) e
  /-- The request is sent. -/
  | listening {chunks : List Bytes} {e : Engine} : e.acceptsRx = true → e.rxState = .idle →
    e.frameReady = false → e.expectNoBreak = false → chunks.flatten = packet →
    Stage n packet alarm ((.breakDetected, []) :: arriving chunks) e
  /-- The answer is coming in. -/
  | hearing {frame : Bytes} {chunks : List Bytes} {e : Engine} : Gathers n e frame e →
    e.frameReady = false → e.expectNoBreak = false → frame ++ chunks.flatten = packet →
    frame.length < packet.length → Stage n packet alarm (arriving chunks) e
  /-- The answer is complete. -/
  | answered {deliveries : List (Event × Bytes)} {e : Engine} : e.acceptsRx = true →
    e.expectNoBreak = false → Ended e packet e →
    (∀ delivery ∈ deliveries, delivery = (.rxData, []) ∨ delivery = (.rxTimeout, [])) →
    Stage n packet alarm deliveries e

/-- Nothing has gone wrong that the engine would tell. -/
structure Sound (config : LineConfig) (n : ℕ) (e : Engine) : Prop where
  bounded : e.Bounded n
  receiveTimeout : e.timing.receiveTimeout = config.receiveTimeout
  faults : e.faults = {}

/-- A request, or the answer to it, is underway. When something was received last is known from the
readings of the clock. -/
structure Underway (config : LineConfig) (n : ℕ) (packet : Bytes) (e : Engine) (v : Wire) :
    Prop where
  stage : Stage n packet v.alarm v.deliveries e
  sound : e.Sound config n
  received : v.received = []
  opened : v.opened = true
  stamped : e.isReceiving = true → v.reading e.lastReceived ∈ v.readings

variable {line : Transport σ ε} {view : σ → Wire} {alarms alarm : Bool} {config : LineConfig}
  {n count : ℕ} {packet : Bytes} {e e' : Engine} {v v' : Wire} {w : σ}

/-- While nothing is received, nothing is asked of the readings. -/
theorem stamped_of_silent (h : e.isReceiving = false) :
    e.isReceiving = true → v.reading e.lastReceived ∈ v.readings :=
  fun hreceiving => absurd (h.symm.trans hreceiving) Bool.false_ne_true

/-! ### Sending -/

/-- The engine has handed over the bytes of a frame. -/
def handedOver (e : Engine) : Engine :=
  { e with txState := .sending, front := { e.front with head := e.front.sendSize } }

theorem Sound.of_eq (h : e.Sound config n) (hfront : e'.front.Bounded n)
    (hback : e'.back.Bounded n) (htiming : e'.timing = e.timing) (hfaults : e'.faults = e.faults) :
    e'.Sound config n where
  bounded := ⟨hfront, hback⟩
  receiveTimeout := by rw [htiming, h.receiveTimeout]
  faults := hfaults.trans h.faults

theorem Sound.handedOver (h : e.Sound config n) : e.handedOver.Sound config n :=
  h.of_eq (h.bounded.front.of_head rfl h.bounded.front.sendSize) h.bounded.back rfl rfl

theorem asks_handedOver (hturnaround : e.turnaround = .receive) (hsilent : e.rxState = .idle) :
    e.handedOver.Asks count alarm where
  sending := rfl
  due := Nat.zero_le count
  armed h := absurd rfl h
  unsent h := absurd rfl h
  handed _ := le_rfl
  turnaround := hturnaround
  silent := hsilent

theorem startData_conveyed (hline : line.Conveys view alarms) (hfront : e.front.Bounded n)
    (hunsent : e.front.head < e.front.sendSize) (w : σ) :
    ∃ w', startData line e w = (.ok (), e.handedOver, w') ∧
      view w' = { view w with opened := true } := by
  obtain ⟨w', hwrite, hview⟩ := hline.write e.front.pending w
  have hlength : e.front.head + e.front.pending.length = e.front.sendSize := by
    have hsize := hfront.sendSize
    rw [← hfront.slots] at hsize
    simp only [FrameBuffer.pending, List.length_drop, List.length_take]
    unfold FrameBuffer.capacity at hsize
    omega
  have hchunk : writeChunk line { e with txState := .sending } w = (.ok (), e.handedOver, w') := by
    unfold writeChunk
    rw [if_pos hunsent, hwrite]
    dsimp only [FrameBuffer.advance]
    rw [hlength, Nat.min_self]
    rfl
  refine ⟨w', ?_, hview⟩
  unfold startData
  rw [hchunk]
  dsimp only
  rw [if_neg (show e.handedOver.front.sendSize ≠ 0 from Nat.ne_zero_of_lt hunsent)]

theorem endBreak_conveyed (hline : line.Conveys view alarms) (hfront : e.front.Bounded n)
    (hunsent : e.front.head < e.front.sendSize) (hopened : (view w).opened = true) :
    ∃ w', endBreak line e w =
        (.ok (), if alarms then { e with txState := .inMab } else e.handedOver, w') ∧
      view w' = { view w with alarm := (view w).alarm || alarms } := by
  obtain ⟨w₁, hrelease, hview₁⟩ := hline.releaseBreak w
  obtain ⟨w₂, halarm, hview₂⟩ := hline.setAlarm e.timing.markLength w₁
  unfold endBreak
  rw [hrelease]
  dsimp only
  rw [halarm]
  cases alarms with
  | true =>
    refine ⟨w₂, rfl, ?_⟩
    rw [hview₂, hview₁]
  | false =>
    obtain ⟨w₃, hdata, hview₃⟩ := startData_conveyed hline (e := { e with txState := .inMab })
      hfront hunsent (line.delay e.timing.markLength w₂)
    refine ⟨w₃, hdata, ?_⟩
    rw [hview₃, hline.delay, hview₂, hview₁, ← hopened]

/-- An alarm ends the break or the mark, or means nothing. -/
theorem Asks.onAlarm (hline : line.Conveys view alarms) (h : e.Asks (count + 1) alarm)
    (hsound : e.Sound config n) (hopened : (view w).opened = true) :
    ∃ e' w' alarm', onAlarm line e w = (.ok (), e', w') ∧ e'.Asks count alarm' ∧
      e'.Sound config n ∧ view w' = { view w with alarm := alarm' } := by
  have hfront := hsound.bounded.front
  have hdue := h.due
  have hunsent := h.unsent
  have hhanded {alarm' : Bool} : e.handedOver.Asks count alarm' :=
    asks_handedOver h.turnaround h.silent
  unfold Engine.onAlarm
  cases hstate : e.txState with
  | inBreak =>
    have hhead := hunsent (by rw [hstate]; nofun)
    obtain ⟨w', hend, hview⟩ := endBreak_conveyed hline hfront hhead hopened
    cases alarms with
    | true =>
      rw [Bool.or_true] at hview
      refine ⟨_, w', true, hend, ?_, hsound.of_eq hfront hsound.bounded.back rfl rfl, hview⟩
      rw [alarmsDue, hstate] at hdue
      exact ⟨rfl, Nat.le_of_succ_le_succ hdue, fun _ => rfl, fun _ => hhead, nofun, h.turnaround,
        h.silent⟩
    | false => exact ⟨_, w', _, hend, hhanded, hsound.handedOver, hview⟩
  | inMab =>
    obtain ⟨w', hdata, hview⟩ := startData_conveyed hline hfront (hunsent (by rw [hstate]; nofun)) w
    refine ⟨_, w', (view w).alarm, hdata, hhanded, hsound.handedOver, ?_⟩
    rw [hview, ← hopened]
  | sending =>
    refine ⟨e, w, (view w).alarm, rfl, ?_, hsound, rfl⟩
    have hnone : e.alarmsDue = 0 := by rw [alarmsDue, hstate]
    exact { h with
      due := by rw [hnone]; exact Nat.zero_le count
      armed := fun hdue => absurd hnone hdue }
  | idle | done =>
    have hsending := h.sending
    rw [isSending, hstate] at hsending
    cases hsending

/-- The last byte of a request leaves, and the engine listens. -/
theorem Asks.onTxDone (line : Transport σ ε) (h : e.Asks 0 alarm) (hsound : e.Sound config n)
    (w : σ) : ∃ e', onTxDone line e w = (.ok (), e', w) ∧ e'.acceptsRx = true ∧ e'.rxState = .idle ∧
      e'.frameReady = false ∧ e'.expectNoBreak = false ∧ e'.Sound config n := by
  have hstate : e.txState = .sending := by
    have hdue := h.due
    have hsending := h.sending
    unfold alarmsDue at hdue
    unfold isSending at hsending
    cases hstate : e.txState <;> simp_all
  refine ⟨e.finishSend, ?_, ?_⟩
  · rw [Engine.onTxDone, if_pos hstate, if_neg (Nat.not_lt_of_le (h.handed hstate))]
  · unfold finishSend
    dsimp only
    rw [h.turnaround]
    exact ⟨rfl, h.silent, rfl, rfl,
      hsound.of_eq hsound.bounded.front hsound.bounded.back rfl rfl⟩

theorem startBreak_conveyed (hline : line.Conveys view alarms) (hsound : e.Sound config n)
    (hturnaround : e.turnaround = .receive) (hsilent : e.rxState = .idle)
    (hunsent : e.front.head < e.front.sendSize) (now : UInt64) (w : σ) :
    ∃ e' w' alarm, startBreak line e now w = (.ok (), e', w') ∧
      e'.Asks (if alarms then 2 else 0) alarm ∧ e'.Sound config n ∧
      view w' = { view w with opened := true, alarm := alarm } := by
  let begun : Engine := { e with lastBreak := some now, txState := .inBreak }
  have hbegun : begun.Sound config n :=
    hsound.of_eq hsound.bounded.front hsound.bounded.back rfl rfl
  obtain ⟨w₁, hassert, hview₁⟩ := hline.assertBreak w
  obtain ⟨w₂, halarm, hview₂⟩ := hline.setAlarm e.timing.breakLength w₁
  unfold startBreak
  dsimp only
  rw [hassert]
  dsimp only
  rw [halarm]
  cases alarms with
  | true =>
    refine ⟨begun, w₂, true, rfl, ?_, hbegun, ?_⟩
    · exact ⟨rfl, le_rfl, fun _ => rfl, fun _ => hunsent, nofun, hturnaround, hsilent⟩
    · rw [hview₂, hview₁, Bool.or_true]
  | false =>
    have hview : view (line.delay e.timing.breakLength w₂) = { view w with opened := true } := by
      rw [hline.delay, hview₂, hview₁, Bool.or_false]
    obtain ⟨w₃, hend, hview₃⟩ := endBreak_conveyed (e := begun) hline hbegun.bounded.front hunsent
      (congrArg Wire.opened hview)
    rw [hview] at hview₃
    exact ⟨_, w₃, _, hend, asks_handedOver hturnaround hsilent, hbegun.handedOver, hview₃⟩

/-- A request that is begun is on its way out. -/
theorem beginSend_conveyed (hline : line.Conveys view alarms) (hsound : e.Sound config n)
    (hidle : e.isSending = false) {size : ℕ} (hpos : 0 < size) (hsize : size ≤ n) (w : σ) :
    ∃ e' w' alarm, beginSend line e size true .receive w = (.ok (), e', w') ∧
      e'.Asks (if alarms then 2 else 0) alarm ∧ e'.Sound config n ∧
      view w' = { (view w).timed (line.now w).1 with opened := true, alarm := alarm } := by
  have hprepared : (e.prepared size .receive).Sound config n :=
    hsound.of_eq (hsound.bounded.front.prepare hsize) hsound.bounded.back.rewind rfl rfl
  have hstart : ∃ e' w' alarm,
      startFrame line (e.prepared size .receive) true w = (.ok (), e', w') ∧
      e'.Asks (if alarms then 2 else 0) alarm ∧ e'.Sound config n ∧
      view w' = { (view w).timed (line.now w).1 with opened := true, alarm := alarm } := by
    rw [startFrame_eq, if_pos rfl, ← hline.now]
    split
    · let begun : Engine := { e.prepared size .receive with lastBreak := some (line.now w).1 }
      have hbegun : begun.Sound config n :=
        hprepared.of_eq hprepared.bounded.front hprepared.bounded.back rfl rfl
      obtain ⟨w', hdata, hview⟩ := startData_conveyed hline hbegun.bounded.front hpos (line.now w).2
      exact ⟨_, w', _, hdata, asks_handedOver rfl rfl, hbegun.handedOver, hview⟩
    · exact startBreak_conveyed hline hprepared rfl rfl hpos _ _
  obtain ⟨e', w', alarm, hstarted, hasks, hsound', hview⟩ := hstart
  refine ⟨e', w', alarm, ?_, hasks, hsound', hview⟩
  rw [beginSend_eq, hidle, if_neg Bool.false_ne_true, if_neg, hstarted]
  rw [hsound.bounded.front.slots]
  exact Nat.not_lt_of_le hsize

/-! ### Receiving -/

/-- What the first bytes of a frame tell of its size stays true. -/
theorem sizeTold?_of_isPrefix {frame : Bytes} {size : ℕ} (hbegins : frame <+: packet)
    (hsize : sizeTold? false frame = some size) : sizeTold? false packet = some size := by
  obtain ⟨rest, rfl⟩ := hbegins
  rcases frame with _ | ⟨start, _ | ⟨second, _ | ⟨length, behind⟩⟩⟩
  iterate 3 cases hsize
  exact hsize

/-- A line that listens hears the break in front of an answer. -/
theorem gathers_onBreak (hbounded : e.Bounded n) (haccepts : e.acceptsRx = true)
    (hidle : e.rxState = .idle) (now : UInt64) :
    Gathers n (e.onBreak now) [] (e.onBreak now) ∧
      e.onBreak now = { e with
        back := e.back.rewind
        rxState := .inBreak
        rxWithoutBreak := false
        lastReceived := now } := by
  have hbreak : e.onBreak now = { e with
      back := e.back.rewind
      rxState := .inBreak
      rxWithoutBreak := false
      lastReceived := now } := by
    unfold onBreak
    rw [if_pos haccepts, if_neg (by rw [hidle]; simp)]
  rw [hbreak]
  exact ⟨⟨haccepts, rfl, rfl, hbounded.back.rewind, rfl, rfl, rfl, rfl, rfl⟩, rfl⟩

theorem Gathers.self {start : Engine} {frame : Bytes} (h : Gathers n start frame e) :
    Gathers n e frame e :=
  { h with front := rfl, ready := rfl, faults := rfl, expects := rfl }

/-- All received bytes are taken if there are slots for them. -/
theorem takeBytes_conveyed (hline : line.Conveys view alarms) (hback : e.back.Bounded n)
    (hfits : e.back.head + (view w).received.length ≤ n) :
    ∃ w', takeBytes line e w =
        (.ok (), { e with back := e.back.append (view w).received }.completeIfTold, w') ∧
      view w' = { view w with received := [] } := by
  obtain ⟨w₁, hread, hview₁⟩ := hline.read (e.back.capacity - e.back.head) w
  have hroom : (view w).received.length ≤ e.back.capacity - e.back.head := by
    rw [hback.slots]
    omega
  rw [List.take_of_length_le hroom] at hread
  rw [List.drop_of_length_le hroom] at hview₁
  unfold takeBytes
  rw [hread]
  dsimp only
  split_ifs
  · obtain ⟨w₂, hprobe, hview₂⟩ := hline.read 1 w₁
    rw [hview₁] at hprobe hview₂
    rw [probeFull, hprobe]
    exact ⟨w₂, rfl, hview₂⟩
  · exact ⟨w₁, rfl, hview₁⟩

/-- Bytes of an answer leave it coming in, or complete it. -/
theorem Gathers.onRxData (hline : line.Conveys view alarms)
    (htold : sizeTold? false packet = some packet.length) (hfits : packet.length ≤ n)
    {frame : Bytes} {chunks : List Bytes} (h : Gathers n e frame e)
    (hready : e.frameReady = false) (hexpects : e.expectNoBreak = false)
    (hpacket : frame ++ ((view w).received :: chunks).flatten = packet)
    (hsound : e.Sound config n) (now : UInt64) :
    ∃ e' w', onRxData line e now w = (.ok (), e', w') ∧ Stage n packet alarm (arriving chunks) e' ∧
      e'.Sound config n ∧ (e'.isReceiving = true → e'.lastReceived = now) ∧
      view w' = { view w with received := [] } := by
  rw [List.flatten_cons, ← List.append_assoc] at hpacket
  have hbegins : frame ++ (view w).received <+: packet := ⟨_, hpacket⟩
  have hroom : (frame ++ (view w).received).length ≤ n := Nat.le_trans hbegins.length_le hfits
  have htook := (h.took hroom now).self
  have hsound' : (e.took now (view w).received).Sound config n :=
    hsound.of_eq hsound.bounded.front (hsound.bounded.back.append _) rfl rfl
  rw [List.length_append, ← h.head] at hroom
  obtain ⟨w', htake, hview⟩ := takeBytes_conveyed (w := w)
    (e := { e with rxState := .inData, lastReceived := now }) hline h.bounded hroom
  rw [onRxData_of_gathers h, htake]
  refine ⟨_, w', rfl, ?_⟩
  change Stage n packet alarm (arriving chunks) (e.took now (view w).received).completeIfTold ∧
    (e.took now (view w).received).completeIfTold.Sound config n ∧
    ((e.took now (view w).received).completeIfTold.isReceiving = true →
      (e.took now (view w).received).completeIfTold.lastReceived = now) ∧ _
  by_cases hwhole : frame ++ (view w).received = packet
  · -- the last byte completes the packet; what is left to be delivered has no bytes
    rw [hwhole] at htook hpacket
    have hempty : chunks.flatten = [] := List.append_right_eq_self.mp hpacket
    obtain ⟨hcomplete, hended⟩ := htook.ended htold le_rfl
    rw [List.take_length] at hended
    rw [hcomplete]
    refine ⟨.answered htook.accepts hexpects { hended with faults := rfl } ?_,
      hsound'.of_eq (hsound'.bounded.completeFrame _).front (hsound'.bounded.completeFrame _).back
        rfl rfl, nofun, hview⟩
    simp only [arriving, List.mem_append, List.mem_map, List.mem_singleton]
    rintro delivery (⟨chunk, hchunk, rfl⟩ | rfl)
    · exact .inl (congrArg _ (List.flatten_eq_nil_iff.mp hempty chunk hchunk))
    · exact .inr rfl
  · have hshort : (frame ++ (view w).received).length < packet.length :=
      Nat.lt_of_le_of_ne hbegins.length_le fun heq => hwhole (hbegins.eq_of_length heq)
    rw [htook.untold fun size hsize => ?_]
    · exact ⟨.hearing htook hready hexpects hpacket hshort, hsound', fun _ => rfl, hview⟩
    · rwa [Option.some.inj ((sizeTold?_of_isPrefix hbegins hsize).symm.trans htold)]

/-! ### Events -/

/-- What comes of an event of a request or its answer: the engine is underway afterwards, and the
rest of the script is still to be delivered. -/
structure Advances (view : σ → Wire) (config : LineConfig) (n : ℕ) (packet : Bytes) (w : σ)
    (out : Except ε Unit × Engine × σ) : Prop where
  ok : out.1 = .ok ()
  underway : out.2.1.Underway config n packet (view out.2.2)
  script : (view out.2.2).script = (view w).script
  readings : (view w).readings <+: (view out.2.2).readings

section Advances

variable {event : Event} {bytes : Bytes} {chunks : List Bytes}

theorem Advances.of_view {w' : σ} (hview : view w' = v')
    (hunderway : e'.Underway config n packet v') (hscript : v'.script = (view w).script)
    (hreadings : (view w).readings <+: v'.readings) :
    Advances view config n packet w ((.ok () : Except ε Unit), e', w') := by
  subst hview
  exact ⟨rfl, hunderway, hscript, hreadings⟩

theorem advances_alarm (hline : line.Conveys view alarms) (hasks : e.Asks (count + 1) alarm)
    (hsound : e.Sound config n) (hflatten : chunks.flatten = packet)
    (hdeliveries : (view w).deliveries = conversation count chunks)
    (hreceived : (view w).received = []) (hopened : (view w).opened = true) :
    Advances view config n packet w (onAlarm line e w) := by
  obtain ⟨e', w', alarm', halarm, hasks', hsound', hview⟩ := hasks.onAlarm hline hsound hopened
  have hstage : Stage n packet alarm' (view w).deliveries e' := by
    rw [hdeliveries]
    exact .asking hasks' hflatten
  have hsilent : e'.isReceiving = false := by rw [isReceiving, hasks'.silent]
  rw [halarm]
  exact .of_view hview ⟨hstage, hsound', hreceived, hopened, stamped_of_silent hsilent⟩ rfl
    List.prefix_rfl

theorem advances_txDone (line : Transport σ ε) (hasks : e.Asks 0 alarm) (hsound : e.Sound config n)
    (hflatten : chunks.flatten = packet)
    (hdeliveries : (view w).deliveries = (.breakDetected, []) :: arriving chunks)
    (hreceived : (view w).received = []) (hopened : (view w).opened = true) :
    Advances view config n packet w (onTxDone line e w) := by
  obtain ⟨e', hdone, haccepts, hidle, hready, hexpects, hsound'⟩ := hasks.onTxDone line hsound w
  have hstage : Stage n packet (view w).alarm (view w).deliveries e' := by
    rw [hdeliveries]
    exact .listening haccepts hidle hready hexpects hflatten
  have hsilent : e'.isReceiving = false := by rw [isReceiving, hidle]
  rw [hdone]
  exact .of_view rfl ⟨hstage, hsound', hreceived, hopened, stamped_of_silent hsilent⟩ rfl
    List.prefix_rfl

theorem advances_breakDetected (hline : line.Conveys view alarms)
    (htold : sizeTold? false packet = some packet.length) (hsound : e.Sound config n)
    (haccepts : e.acceptsRx = true) (hidle : e.rxState = .idle) (hready : e.frameReady = false)
    (hexpects : e.expectNoBreak = false) (hflatten : chunks.flatten = packet)
    (hdeliveries : (view w).deliveries = arriving chunks)
    (hreceived : (view w).received = []) (hopened : (view w).opened = true) :
    Advances view config n packet w (handle line .breakDetected e w) := by
  have hpos : 0 < packet.length := by
    cases packet with
    | nil => cases htold
    | cons => exact Nat.succ_pos _
  obtain ⟨hgathers, hbreak⟩ := gathers_onBreak hsound.bounded haccepts hidle (line.now w).1
  have hsound' : (e.onBreak (line.now w).1).Sound config n := by
    rw [hbreak]
    exact hsound.of_eq hsound.bounded.front hsound.bounded.back.rewind rfl rfl
  have hstage : Stage n packet (view w).alarm (view w).deliveries (e.onBreak (line.now w).1) := by
    rw [hdeliveries]
    refine .hearing hgathers ?_ ?_ hflatten hpos
    · rw [hbreak, hready]
    · rw [hbreak, hexpects]
  refine .of_view (hline.now w) ⟨hstage, hsound', hreceived, hopened, fun _ => ?_⟩ rfl
    (Wire.prefix_timed _ _)
  rw [hbreak]
  exact Wire.mem_timed _ _

theorem advances_rxData (hline : line.Conveys view alarms)
    (htold : sizeTold? false packet = some packet.length) (hfits : packet.length ≤ n)
    (hsound : e.Sound config n) {frame : Bytes} (hgathers : Gathers n e frame e)
    (hready : e.frameReady = false) (hexpects : e.expectNoBreak = false)
    (hpacket : frame ++ ((view w).received :: chunks).flatten = packet)
    (hdeliveries : (view w).deliveries = arriving chunks) (hopened : (view w).opened = true) :
    Advances view config n packet w (handle line .rxData e w) := by
  have hnow := hline.now w
  have hreceived : (view (line.now w).2).received = (view w).received := by
    rw [hnow]
    rfl
  rw [← hreceived] at hpacket
  obtain ⟨e', w', hdata, hstage, hsound', hstamp, hview⟩ :=
    hgathers.onRxData hline htold hfits hready hexpects hpacket hsound (line.now w).1
  rw [hnow] at hview
  rw [← hdeliveries] at hstage
  rw [handle]
  dsimp only
  rw [hdata]
  refine .of_view hview ⟨hstage, hsound', rfl, hopened, fun hreceiving => ?_⟩ rfl
    (Wire.prefix_timed _ _)
  rw [hstamp hreceiving]
  exact Wire.mem_timed _ _

/-- Once an answer is complete, nothing that is still delivered changes anything. -/
theorem advances_answered (hline : line.Conveys view alarms) (hsound : e.Sound config n)
    (haccepts : e.acceptsRx = true) (hexpects : e.expectNoBreak = false) (hended : Ended e packet e)
    (hdelivery : (event, bytes) = (.rxData, []) ∨ (event, bytes) = (.rxTimeout, []))
    (hrest : ∀ delivery ∈ (view w).deliveries,
      delivery = (.rxData, []) ∨ delivery = (.rxTimeout, []))
    (hreceived : (view w).received = []) (hopened : (view w).opened = true) :
    Advances view config n packet w (handle line event e w) := by
  have hsilent : e.isReceiving = false := by
    rw [isReceiving, hended.rxState]
  have hsettled : e.beginData? = none := by
    rw [beginData?, hended.rxState]
    exact if_neg (Bool.eq_false_iff.mp hexpects)
  have hstage : Stage n packet (view w).alarm (view w).deliveries e :=
    .answered haccepts hexpects hended hrest
  obtain hdata | htimeout := hdelivery
  · obtain ⟨rfl, -⟩ := Prod.mk.inj hdata
    obtain ⟨w', hflush, hview⟩ := hline.flushReceived (line.now w).2
    rw [hline.now] at hview
    rw [handle]
    dsimp only
    rw [onRxData, if_pos haccepts, hsettled]
    dsimp only [discard]
    rw [hflush]
    exact .of_view hview ⟨hstage, hsound, rfl, hopened, stamped_of_silent hsilent⟩ rfl
      (Wire.prefix_timed _ _)
  · obtain ⟨rfl, -⟩ := Prod.mk.inj htimeout
    rw [handle, onRxTimeout, if_neg (Bool.eq_false_iff.mp hsilent)]
    exact .of_view rfl ⟨hstage, hsound, hreceived, hopened, stamped_of_silent hsilent⟩ rfl
      List.prefix_rfl

/-- Each event of a request and its answer leads to the next stage. -/
theorem Stage.handle (hline : line.Conveys view alarms)
    (htold : sizeTold? false packet = some packet.length) (hfits : packet.length ≤ n)
    (h : Stage n packet alarm ((event, (view w).received) :: (view w).deliveries) e)
    (hsound : e.Sound config n) (hopened : (view w).opened = true) :
    Advances view config n packet w (Engine.handle line event e w) := by
  generalize hdelivered : (event, (view w).received) :: (view w).deliveries = delivered at h
  cases h with
  | @asking alarms chunks _ hasks hflatten =>
    cases alarms with
    | zero =>
      obtain ⟨hhead, hdeliveries⟩ := List.cons_eq_cons.mp hdelivered
      obtain ⟨rfl, hreceived⟩ := Prod.mk.inj hhead
      exact advances_txDone line hasks hsound hflatten hdeliveries hreceived hopened
    | succ alarms =>
      obtain ⟨hhead, hdeliveries⟩ := List.cons_eq_cons.mp hdelivered
      obtain ⟨rfl, hreceived⟩ := Prod.mk.inj hhead
      exact advances_alarm hline hasks hsound hflatten hdeliveries hreceived hopened
  | listening haccepts hidle hready hexpects hflatten =>
    obtain ⟨hhead, hdeliveries⟩ := List.cons_eq_cons.mp hdelivered
    obtain ⟨rfl, hreceived⟩ := Prod.mk.inj hhead
    exact advances_breakDetected hline htold hsound haccepts hidle hready hexpects hflatten
      hdeliveries hreceived hopened
  | @hearing frame chunks _ hgathers hready hexpects hpacket hshort =>
    cases chunks with
    | nil =>
      rw [← hpacket, List.flatten_nil, List.append_nil] at hshort
      exact absurd hshort (Nat.lt_irrefl _)
    | cons chunk chunks =>
      obtain ⟨hhead, hdeliveries⟩ := List.cons_eq_cons.mp hdelivered
      obtain ⟨rfl, rfl⟩ := Prod.mk.inj hhead
      exact advances_rxData hline htold hfits hsound hgathers hready hexpects hpacket hdeliveries
        hopened
  | answered haccepts hexpects hended hrest =>
    rw [← hdelivered, List.forall_mem_cons] at hrest
    have hreceived : (view w).received = [] := by
      obtain hhead | hhead := hrest.1 <;> exact (Prod.mk.inj hhead).2
    exact advances_answered hline hsound haccepts hexpects hended hrest.1 hrest.2 hreceived hopened

end Advances

/-- A poll that finds nothing changes nothing. -/
theorem Underway.gap (h : e.Underway config n packet v) {script : List (Option (Event × Bytes))}
    (hscript : v.script = none :: script) :
    e.Underway config n packet { v with script := script } := by
  have hsame : ({ v with script := script } : Wire).deliveries = v.deliveries := by
    rw [Wire.deliveries, Wire.deliveries, hscript, List.reduceOption_cons_of_none]
  refine ⟨hsame ▸ h.stage, h.sound, h.received, h.opened, fun hreceiving => ?_⟩
  have hstamped := h.stamped hreceiving
  rw [Wire.reading, Wire.left] at hstamped ⊢
  rwa [hsame]

/-- Alarms only come while a request is on its way out. -/
theorem Stage.of_alarm {bytes : Bytes} {deliveries : List (Event × Bytes)}
    (h : Stage n packet alarm ((.alarm, bytes) :: deliveries) e) :
    ∃ count chunks, e.Asks (count + 1) alarm ∧ chunks.flatten = packet ∧
      deliveries = conversation count chunks := by
  generalize hdelivered : (Event.alarm, bytes) :: deliveries = delivered at h
  cases h with
  | @asking count chunks _ hasks hflatten =>
    cases count with
    | zero => cases hdelivered
    | succ count => exact ⟨count, chunks, hasks, hflatten, (List.cons_eq_cons.mp hdelivered).2⟩
  | listening => cases hdelivered
  | @hearing _ chunks => cases chunks <;> cases hdelivered
  | answered _ _ _ hrest =>
    rw [← hdelivered, List.forall_mem_cons] at hrest
    obtain hhead | hhead := hrest.1 <;> cases hhead

/-- Nothing waits for an alarm that is not set. -/
theorem Underway.skip (h : e.Underway config n packet v) {bytes : Bytes}
    {script : List (Option (Event × Bytes))} (hscript : v.script = some (.alarm, bytes) :: script)
    (hunset : v.alarm = false) : e.Underway config n packet { v with script := script } := by
  have hdeliveries : v.deliveries = (.alarm, bytes) :: script.reduceOption := by
    rw [Wire.deliveries, hscript, List.reduceOption_cons_of_some]
  have hstage := h.stage
  rw [hdeliveries] at hstage
  obtain ⟨count, chunks, hasks, hflatten, hrest⟩ := hstage.of_alarm
  have hnone : e.alarmsDue = 0 := by
    by_contra hdue
    exact Bool.false_ne_true (hunset.symm.trans (hasks.armed hdue))
  have hasks' : e.Asks count v.alarm := { hasks with
    due := by rw [hnone]; exact Nat.zero_le count }
  refine ⟨?_, h.sound, h.received, h.opened, stamped_of_silent ?_⟩
  · rw [Wire.deliveries, hrest]
    exact .asking hasks' hflatten
  · rw [isReceiving, hasks.silent]

/-! ### What is still to come -/

section Left

variable {chunks : List Bytes} {deliveries : List (Event × Bytes)}

theorem mem_arriving_iff {event : Event} : event ∈ (arriving chunks).map Prod.fst ↔
    event = .rxTimeout ∨ event = .rxData ∧ chunks ≠ [] := by
  rw [arriving, List.map_append, List.mem_append, List.map_map, List.map_singleton,
    List.mem_singleton, or_comm]
  refine or_congr_right ?_
  change event ∈ chunks.map (fun _ => Event.rxData) ↔ _
  rw [List.map_const', List.mem_replicate, and_comm, Ne, List.length_eq_zero_iff]

/-- While an engine sends, the last byte has still to leave. -/
theorem Stage.txDone_mem (h : Stage n packet alarm deliveries e) (hsending : e.isSending = true) :
    .txDone ∈ deliveries.map Prod.fst := by
  cases h with
  | asking => simp [conversation]
  | listening haccepts | answered haccepts =>
    rw [(acceptsRx_iff.mp haccepts).2] at hsending
    cases hsending
  | hearing hgathers =>
    rw [(acceptsRx_iff.mp hgathers.accepts).2] at hsending
    cases hsending

/-- Once the last byte has left, the engine listens: the answer comes in, or it is complete. -/
theorem Stage.of_idle (h : Stage n packet alarm deliveries e) (hidle : e.isSending = false)
    (hnonempty : packet ≠ []) :
    e.mode = .receive ∧ .txDone ∉ deliveries.map Prod.fst ∧
      (e.takeFrame.1 = some packet.length ∧ e.front.received = packet ∨
        e.takeFrame = (none, e) ∧ .rxData ∈ deliveries.map Prod.fst ∧
          (e.isReceiving = false → .breakDetected ∈ deliveries.map Prod.fst)) := by
  have htaken (hready : e.frameReady = false) : e.takeFrame = (none, e) :=
    if_neg (Bool.eq_false_iff.mp hready)
  cases h with
  | asking hasks =>
    rw [hasks.sending] at hidle
    cases hidle
  | listening haccepts _ hready _ hflatten =>
    refine ⟨mode_of_acceptsRx haccepts, ?_, .inr ⟨htaken hready, ?_, fun _ => ?_⟩⟩
    · simp [mem_arriving_iff]
    · refine List.mem_cons_of_mem _ (mem_arriving_iff.mpr (.inr ⟨rfl, ?_⟩))
      rintro rfl
      exact hnonempty hflatten.symm
    · exact List.mem_cons_self
  | hearing hgathers hready _ hpacket hshort =>
    refine ⟨mode_of_acceptsRx hgathers.accepts, ?_, .inr ⟨htaken hready, ?_, fun hsilent => ?_⟩⟩
    · simp [mem_arriving_iff]
    · refine mem_arriving_iff.mpr (.inr ⟨rfl, ?_⟩)
      rintro rfl
      rw [← hpacket, List.flatten_nil, List.append_nil] at hshort
      exact Nat.lt_irrefl _ hshort
    · rw [hgathers.receiving] at hsilent
      cases hsilent
  | answered haccepts _ hended hrest =>
    refine ⟨mode_of_acceptsRx haccepts, ?_, .inl ⟨hended.taken, hended.received⟩⟩
    rw [List.mem_map]
    rintro ⟨delivery, hmem, hdone⟩
    obtain rfl | rfl := hrest delivery hmem <;> cases hdone

/-- While an answer is coming in, its break is over and bytes have still to come. -/
theorem Stage.of_isReceiving (h : Stage n packet alarm deliveries e)
    (hreceiving : e.isReceiving = true) :
    e.isSending = false ∧ .breakDetected ∉ deliveries.map Prod.fst ∧
      .rxData ∈ deliveries.map Prod.fst := by
  cases h with
  | asking hasks =>
    rw [isReceiving, hasks.silent] at hreceiving
    cases hreceiving
  | listening _ hidle =>
    rw [isReceiving, hidle] at hreceiving
    cases hreceiving
  | answered _ _ hended =>
    rw [isReceiving, hended.rxState] at hreceiving
    cases hreceiving
  | hearing hgathers _ _ hpacket hshort =>
    refine ⟨(acceptsRx_iff.mp hgathers.accepts).2, ?_, mem_arriving_iff.mpr (.inr ⟨rfl, ?_⟩)⟩
    · simp [mem_arriving_iff]
    · rintro rfl
      rw [← hpacket, List.flatten_nil, List.append_nil] at hshort
      exact Nat.lt_irrefl _ hshort

end Left

end Engine

end LightingBus
