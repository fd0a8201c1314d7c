import LightingBus.Proofs.Line.Reception

/-!
# Packets that tell their end

A packet says in its third byte how long it is, so an engine need not wait for an idle line to see
its end. `Engine.packet_ends`: however the bytes behind an accepted break are spread over
notifications, the notification with the last byte of the packet completes it, and readers find the
packet without what follows it. There is one exception. If that notification also brings bytes from
behind the packet, so many that all of them together do not fit into the buffer, the frame is given
up as too long, even though the packet itself would fit.

1. `Transport.Queues` is a line that keeps what has arrived until it is read; `feed` takes an engine
   through notifications.
2. `Gathers` is the invariant while a frame comes in: the back buffer holds the bytes so far, and
   readers see what they saw before. `Gathers.fits` and `Gathers.exceeds` are the two outcomes of a
   notification, `Gathers.feed` is the run up to the last one.
-/

namespace LightingBus

variable {σ ε : Type}

/-! ## Bytes that arrive -/

/-- What has arrived lies in a queue until it is read. `holds` says what lies there in a world, and
`arrive` puts bytes behind it. -/
structure Transport.Queues (line : Transport σ ε) (holds : Bytes → σ → Prop)
    (arrive : Bytes → σ → σ) : Prop where
  arrive {waiting : Bytes} {w : σ} (bytes : Bytes) : holds waiting w →
    holds (waiting ++ bytes) (arrive bytes w)
  now {waiting : Bytes} {w : σ} : holds waiting w → holds waiting (line.now w).2
  read {waiting : Bytes} {w : σ} (count : ℕ) : holds waiting w →
    ∃ w', line.read count w = (.ok (waiting.take count), w') ∧ holds (waiting.drop count) w'
  flush {waiting : Bytes} {w : σ} : holds waiting w →
    ∃ w', line.flushReceived w = (.ok (), w') ∧ holds [] w'

namespace Engine

/-- An engine and its line after notifications, each of which brings some bytes. -/
def feed (line : Transport σ ε) (arrive : Bytes → σ → σ) (start : Engine × σ)
    (chunks : List Bytes) : Engine × σ :=
  chunks.foldl (fun (e, w) chunk => (onEvent line .rxData e (arrive chunk w)).2) start

theorem feed_cons (line : Transport σ ε) (arrive : Bytes → σ → σ) (e : Engine) (w : σ)
    (chunk : Bytes) (chunks : List Bytes) : feed line arrive (e, w) (chunk :: chunks) =
      feed line arrive (onEvent line .rxData e (arrive chunk w)).2 chunks :=
  rfl

theorem feed_append (line : Transport σ ε) (arrive : Bytes → σ → σ) (start : Engine × σ)
    (chunks later : List Bytes) : feed line arrive start (chunks ++ later) =
      feed line arrive (feed line arrive start chunks) later :=
  List.foldl_append

variable {line : Transport σ ε} {holds : Bytes → σ → Prop} {arrive : Bytes → σ → σ} {n : ℕ}
  {timing : EngineTiming} {e start : Engine} {w : σ} {frame chunk : Bytes}

/-! ## One notification -/

/-- Bytes for which there are slots are all taken. -/
theorem takeBytes_fits (hline : line.Queues holds arrive) (hback : e.back.Bounded n)
    (hchunk : holds chunk w) (hfits : e.back.head + chunk.length ≤ n) :
    ∃ w', takeBytes line e w =
      (.ok (), { e with back := e.back.append chunk }.completeIfTold, w') ∧ holds [] w' := by
  obtain ⟨w₁, hread, hrest⟩ := hline.read (e.back.capacity - e.back.head) hchunk
  have hroom : chunk.length ≤ e.back.capacity - e.back.head := by
    rw [hback.slots]
    omega
  rw [List.take_of_length_le hroom] at hread
  rw [List.drop_of_length_le hroom] at hrest
  unfold takeBytes
  rw [hread]
  dsimp only
  split_ifs
  · obtain ⟨w₂, hprobe, hrest₂⟩ := hline.read 1 hrest
    rw [probeFull, hprobe]
    exact ⟨w₂, rfl, hrest₂⟩
  · exact ⟨w₁, rfl, hrest⟩

/-- The frame was too long and is lost. Readers see what they saw at the start. -/
structure Lost (start e : Engine) : Prop where
  rxState : e.rxState = .error
  front : e.front = start.front
  ready : e.frameReady = start.frameReady
  faults : e.faults = { start.faults with bufferOverflow := true }

/-- If there are more bytes than slots, the frame is lost, whatever its first bytes tell. -/
theorem takeBytes_exceeds (hline : line.Queues holds arrive) (hback : e.back.Bounded n)
    (hchunk : holds chunk w) (hexceeds : n < e.back.head + chunk.length) :
    ∃ e' w', takeBytes line e w = (.ok (), e', w') ∧ Lost e e' ∧ holds [] w' := by
  obtain ⟨w₁, hread, hrest⟩ := hline.read (e.back.capacity - e.back.head) hchunk
  obtain ⟨w₂, hprobe, hrest₂⟩ := hline.read 1 hrest
  obtain ⟨w₃, hflush, hnothing⟩ := hline.flush hrest₂
  have hslots : e.back.capacity = n := hback.slots
  have hhead := hback.head
  have hfull : (e.back.append (chunk.take (e.back.capacity - e.back.head))).head =
      (e.back.append (chunk.take (e.back.capacity - e.back.head))).capacity := by
    rw [FrameBuffer.capacity_append]
    simp only [FrameBuffer.append, List.length_take]
    omega
  obtain ⟨byte, more, hbehind⟩ : ∃ byte more,
      (chunk.drop (e.back.capacity - e.back.head)).take 1 = byte :: more := by
    refine List.exists_cons_of_ne_nil fun hnil => ?_
    have hlength := congrArg List.length hnil
    rw [List.length_take, List.length_drop, List.length_nil] at hlength
    omega
  unfold takeBytes
  rw [hread]
  dsimp only
  rw [if_pos hfull, probeFull, hprobe, hbehind]
  dsimp only
  rw [hflush]
  exact ⟨_, w₃, rfl, ⟨rfl, rfl, rfl, rfl⟩, hnothing⟩

/-- Of a frame behind a break these bytes have come in. Readers see what they saw at the start, and
nothing has gone wrong. -/
structure Gathers (n : ℕ) (start : Engine) (frame : Bytes) (e : Engine) : Prop where
  accepts : e.acceptsRx = true
  receiving : e.isReceiving = true
  withBreak : e.rxWithoutBreak = false
  bounded : e.back.Bounded n
  filled : e.back.filled = frame
  front : e.front = start.front
  ready : e.frameReady = start.frameReady
  faults : e.faults = start.faults
  expects : e.expectNoBreak = start.expectNoBreak

theorem Gathers.head (h : Gathers n start frame e) : e.back.head = frame.length := by
  rw [← h.bounded.length_filled, h.filled]

theorem Gathers.took (h : Gathers n start frame e) (hfits : (frame ++ chunk).length ≤ n)
    (now : UInt64) : Gathers n start (frame ++ chunk) (e.took now chunk) where
  accepts := h.accepts
  receiving := rfl
  withBreak := h.withBreak
  bounded := h.bounded.append chunk
  filled := by
    have hslots := h.bounded.slots
    have hhead := h.head
    rw [List.length_append] at hfits
    rw [Engine.took, FrameBuffer.filled_append h.bounded.head_le_capacity, h.filled,
      List.take_of_length_le (by omega)]
  front := h.front
  ready := h.ready
  faults := h.faults
  expects := h.expects

theorem beginData?_of_isReceiving (h : e.isReceiving = true) :
    e.beginData? = some { e with rxState := .inData } := by
  unfold isReceiving at h
  unfold beginData?
  cases hrx : e.rxState with
  | idle | frameComplete | error =>
    rw [hrx] at h
    cases h
  | inBreak | inMab | inData => rfl

theorem onRxData_of_gathers (h : Gathers n start frame e) (now : UInt64) (w : σ) :
    onRxData line e now w =
      takeBytes line { e with rxState := .inData, lastReceived := now } w := by
  rw [onRxData.eq_def, if_pos h.accepts, beginData?_of_isReceiving h.receiving]

/-- After a notification whose bytes fit into the buffer it matters whether they tell the end of the
frame. -/
theorem Gathers.fits (hline : line.Queues holds arrive) (h : Gathers n start frame e)
    (hempty : holds [] w) (hfits : (frame ++ chunk).length ≤ n) :
    ∃ e' w', (onEvent line .rxData e (arrive chunk w)).2 = (e'.completeIfTold, w') ∧
      Gathers n start (frame ++ chunk) e' ∧ holds [] w' := by
  have hchunk : holds chunk (arrive chunk w) := hline.arrive chunk hempty
  have hroom := hfits
  rw [List.length_append, ← h.head] at hroom
  obtain ⟨w', htake, hrest⟩ := takeBytes_fits hline
    (e := { e with rxState := .inData, lastReceived := (line.now (arrive chunk w)).1 }) h.bounded
    (hline.now hchunk) hroom
  refine ⟨e.took (line.now (arrive chunk w)).1 chunk, w', ?_, h.took hfits _, hrest⟩
  simp only [onEvent, handle, onRxData_of_gathers h, htake]
  rfl

/-- A notification whose bytes do not fit into the buffer costs the frame. -/
theorem Gathers.exceeds (hline : line.Queues holds arrive) (h : Gathers n start frame e)
    (hempty : holds [] w) (hexceeds : n < (frame ++ chunk).length) :
    ∃ e' w', (onEvent line .rxData e (arrive chunk w)).2 = (e', w') ∧ Lost start e' ∧
      holds [] w' := by
  have hchunk : holds chunk (arrive chunk w) := hline.arrive chunk hempty
  rw [List.length_append, ← h.head] at hexceeds
  obtain ⟨e', w', htake, hlost, hrest⟩ := takeBytes_exceeds hline
    (e := { e with rxState := .inData, lastReceived := (line.now (arrive chunk w)).1 }) h.bounded
    (hline.now hchunk) hexceeds
  refine ⟨e', w', ?_, ⟨hlost.rxState, hlost.front.trans h.front, hlost.ready.trans h.ready, ?_⟩,
    hrest⟩
  · simp only [onEvent, handle, onRxData_of_gathers h, htake]
  · rw [hlost.faults, ← h.faults]

/-! ## Packets -/

/-- A packet was completed: readers find it, and nothing has gone wrong since the start. -/
structure Ended (start : Engine) (packet : Bytes) (e : Engine) : Prop where
  rxState : e.rxState = .frameComplete
  received : e.front.received = packet
  taken : e.takeFrame.1 = some packet.length
  faults : e.faults = start.faults

/-- The end of a frame that is told by the bytes that have come in. -/
theorem Gathers.ended {size : ℕ} (h : Gathers n start frame e)
    (hsize : sizeTold? false frame = some size) (hreached : size ≤ frame.length) :
    e.completeIfTold = e.completeFrame size ∧
      Ended start (frame.take size) (e.completeFrame size) := by
  have hcomplete : e.completeIfTold = e.completeFrame size := by
    unfold completeIfTold
    rw [h.withBreak, h.filled, hsize]
    exact if_pos (h.head ▸ hreached)
  refine ⟨hcomplete, rfl, ?_, ?_, h.faults⟩
  · rw [received_completeFrame, h.filled]
  · change some (min size e.back.head) = _
    rw [h.head, List.length_take]

/-- A frame whose end is not reached keeps coming in. -/
theorem Gathers.untold (h : Gathers n start frame e)
    (huntold : ∀ size, sizeTold? false frame = some size → frame.length < size) :
    e.completeIfTold = e := by
  unfold completeIfTold
  rw [h.withBreak, h.filled, h.head]
  split
  next size hsize => exact if_neg (Nat.not_le_of_lt (huntold size hsize))
  next => rfl

/-- The notification that brings the end of a packet completes it or costs it. -/
theorem Gathers.last {size : ℕ} (hline : line.Queues holds arrive) (h : Gathers n start frame e)
    (hempty : holds [] w) (hsize : sizeTold? false (frame ++ chunk) = some size)
    (hreached : size ≤ (frame ++ chunk).length) :
    ∃ e' w', (onEvent line .rxData e (arrive chunk w)).2 = (e', w') ∧ holds [] w' ∧
      ((frame ++ chunk).length ≤ n → Ended start ((frame ++ chunk).take size) e') ∧
      (n < (frame ++ chunk).length → Lost start e') ∧
      (start.expectNoBreak = false → e'.beginData? = none) := by
  by_cases hfits : (frame ++ chunk).length ≤ n
  · obtain ⟨e', w', hout, hgathers, hrest⟩ := h.fits hline hempty hfits
    obtain ⟨hcomplete, hended⟩ := hgathers.ended hsize hreached
    rw [hcomplete] at hout
    refine ⟨_, w', hout, hrest, fun _ => hended, fun hexceeds => ?_, fun hexpect => ?_⟩
    · exact absurd hfits (Nat.not_le_of_lt hexceeds)
    · rw [beginData?, hended.rxState]
      exact if_neg (Bool.eq_false_iff.mp (hgathers.expects.trans hexpect))
  · obtain ⟨e', w', hout, hlost, hrest⟩ := h.exceeds hline hempty (Nat.lt_of_not_le hfits)
    refine ⟨e', w', hout, hrest, fun hle => absurd hle hfits, fun _ => hlost, fun _ => ?_⟩
    rw [beginData?, hlost.rxState]

/-- Of a packet the first three bytes tell the size. -/
theorem sizeTold?_packet (second length : UInt8) (rest : Bytes) :
    sizeTold? false (0xCC :: second :: length :: rest) = some (length.toNat + 2) :=
  rfl

/-- Until its third byte and its last one are there, the end of a packet is not told. -/
theorem untold_of_isPrefix {second length : UInt8} {rest : Bytes}
    (hbegins : frame <+: 0xCC :: second :: length :: rest)
    (hshort : frame.length < max 3 (length.toNat + 2)) :
    ∀ size, sizeTold? false frame = some size → frame.length < size := by
  intro size hsize
  rcases frame with _ | ⟨first, _ | ⟨second', _ | ⟨length', behind⟩⟩⟩
  iterate 3 cases hsize
  obtain ⟨rest', hrest⟩ := hbegins
  simp only [List.cons_append, List.cons.injEq] at hrest
  obtain ⟨rfl, rfl, rfl, -⟩ := hrest
  rw [sizeTold?_packet] at hsize
  obtain rfl := Option.some.inj hsize
  simp only [List.length_cons] at hshort ⊢
  omega

/-! ## Runs -/

/-- An engine and its line after a break, and after the mark behind it where the transport tells of
marks. -/
def heed (line : Transport σ ε) (marks : Bool) (e : Engine) (w : σ) : Engine × σ :=
  let opened := (onEvent line .breakDetected e w).2
  if marks then (onEvent line .mabElapsed opened.1 opened.2).2 else opened

/-- A break that is accepted begins a frame. -/
theorem gathers_heed (hline : line.Queues holds arrive) (hbounded : e.Bounded n)
    (haccepts : e.acceptsRx = true) (hempty : holds [] w) (marks : Bool) :
    Gathers n (heed line marks e w).1 [] (heed line marks e w).1 ∧
      (heed line marks e w).1.faults = e.faults ∧
      (heed line marks e w).1.expectNoBreak = e.expectNoBreak ∧
      holds [] (heed line marks e w).2 := by
  obtain ⟨haccepts₁, hrx, hwith, hhead⟩ := onBreak_of_acceptsRx haccepts (line.now w).1
  have hback := ((listens_onBreak e (line.now w).1).bounded hbounded).back
  have hfilled : (e.onBreak (line.now w).1).back.filled = [] := by
    rw [FrameBuffer.filled, hhead, List.take_zero]
  have hkept : (e.onBreak (line.now w).1).faults = e.faults ∧
      (e.onBreak (line.now w).1).expectNoBreak = e.expectNoBreak := by
    unfold onBreak
    split_ifs <;> exact ⟨rfl, rfl⟩
  have hreceiving : (e.onBreak (line.now w).1).isReceiving = true := by rw [isReceiving, hrx]
  cases marks with
  | false => exact ⟨⟨haccepts₁, hreceiving, hwith, hback, hfilled, rfl, rfl, rfl, rfl⟩, hkept.1,
      hkept.2, hline.now hempty⟩
  | true =>
    have hmark : heed line true e w =
        ({ e.onBreak (line.now w).1 with rxState := .inMab }, (line.now w).2) := by
      change ((if (e.onBreak (line.now w).1).rxState = .inBreak then _ else _), _) = _
      rw [if_pos hrx]
      rfl
    rw [hmark]
    exact ⟨⟨haccepts₁, rfl, hwith, hback, hfilled, rfl, rfl, rfl, rfl⟩, hkept.1, hkept.2,
      hline.now hempty⟩

/-- As long as the end of a packet is not told, its bytes gather in the back buffer. -/
theorem Gathers.feed {second length : UInt8} {rest : Bytes} {chunks : List Bytes}
    (hline : line.Queues holds arrive) (hn : 257 ≤ n) (h : Gathers n start frame e)
    (hempty : holds [] w)
    (hbegins : frame ++ chunks.flatten <+: 0xCC :: second :: length :: rest)
    (hshort : (frame ++ chunks.flatten).length < max 3 (length.toNat + 2)) :
    Gathers n start (frame ++ chunks.flatten) (feed line arrive (e, w) chunks).1 ∧
      holds [] (feed line arrive (e, w) chunks).2 := by
  induction chunks generalizing e w frame with
  | nil => exact ⟨by rwa [List.flatten_nil, List.append_nil], hempty⟩
  | cons chunk chunks ih =>
    rw [List.flatten_cons, ← List.append_assoc] at hbegins hshort ⊢
    have hlength := length.toNat_lt
    have hchunk : (frame ++ chunk).length < max 3 (length.toNat + 2) := by
      rw [List.length_append] at hshort
      omega
    have hfits : (frame ++ chunk).length ≤ n := by omega
    obtain ⟨e', w', hout, hgathers, hrest⟩ := h.fits hline hempty hfits
    have huntold := untold_of_isPrefix ((List.prefix_append _ _).trans hbegins) hchunk
    rw [hgathers.untold huntold] at hout
    rw [feed_cons, hout]
    exact ih hgathers hrest hbegins hshort

/-- Bytes that belong to no frame change nothing. -/
theorem feed_settled (hline : line.Queues holds arrive) (hsettled : e.beginData? = none)
    {waiting : Bytes} (hwaiting : holds waiting w) (chunks : List Bytes) :
    (feed line arrive (e, w) chunks).1 = e := by
  induction chunks generalizing w waiting with
  | nil => rfl
  | cons chunk chunks ih =>
    obtain ⟨w', hflush, hrest⟩ := hline.flush (hline.now (hline.arrive chunk hwaiting))
    have hdata : (onEvent line .rxData e (arrive chunk w)).2 = (e, w') := by
      simp only [onEvent, handle, onRxData, hsettled, discard, hflush, ite_self]
    rw [feed_cons, hdata]
    exact ih hrest

/-- A packet behind an accepted break ends with the notification that brings its last byte, and if
it counts no bytes behind the third one, with the one that brings its third byte. Until then nothing
ends. Readers find the packet without the bytes behind it, unless with that notification more bytes
have come in than there are slots: then the packet is lost. Notifications that follow change
nothing, as long as only frames with a break are expected. -/
theorem packet_ends (hline : line.Queues holds arrive) (hn : 257 ≤ n)
    (hreachable : Reachable n timing e) (hmode : e.mode = .receive) (hidle : e.isSending = false)
    (hempty : holds [] w) {second length : UInt8} {rest last : Bytes} {chunks : List Bytes}
    (hstream : chunks.flatten ++ last = 0xCC :: second :: length :: rest)
    (hbefore : chunks.flatten.length < max 3 (length.toNat + 2))
    (hreached : length.toNat + 2 ≤ (chunks.flatten ++ last).length) (marks : Bool) :
    let start := heed line marks e w
    let ended := (feed line arrive start (chunks ++ [last])).1
    Gathers n start.1 chunks.flatten (feed line arrive start chunks).1 ∧
    start.1.faults = e.faults ∧
    ((chunks.flatten ++ last).length ≤ n →
      Ended start.1 ((chunks.flatten ++ last).take (length.toNat + 2)) ended) ∧
    (n < (chunks.flatten ++ last).length → Lost start.1 ended) ∧
    (e.expectNoBreak = false → ∀ later,
      (feed line arrive start (chunks ++ [last] ++ later)).1 = ended) := by
  intro start ended
  obtain ⟨hstart, hfaults, hexpects, hholds⟩ := gathers_heed hline hreachable.wellFormed.bounded
    (acceptsRx_iff.mpr ⟨hmode, hidle⟩) hempty marks
  obtain ⟨hgathers, hrest⟩ := hstart.feed hline hn hholds
    (hstream ▸ List.prefix_append _ _) (by rwa [List.nil_append])
  rw [List.nil_append] at hgathers
  obtain ⟨e', w', hout, hrest', hended, hlost, hsettled⟩ :=
    hgathers.last hline hrest (hstream ▸ sizeTold?_packet second length rest) hreached
  have hfinal : feed line arrive start (chunks ++ [last]) = (e', w') :=
    (feed_append line arrive start chunks [last]).trans hout
  have hengine : ended = e' := congrArg Prod.fst hfinal
  refine ⟨hgathers, hfaults, hengine ▸ hended, hengine ▸ hlost, fun hexpect later => ?_⟩
  rw [feed_append, hfinal, hengine]
  exact feed_settled hline (hsettled (hexpects.trans hexpect)) hrest' later

end Engine

/-! ## A simulated line -/

namespace Simulation

/-- These bytes wait to be read, and no operation of the line fails. -/
def World.Holds (waiting : Bytes) (w : World) : Prop :=
  w.received = waiting ∧ w.failing = []

def World.arrive (bytes : Bytes) (w : World) : World :=
  { w with received := w.received ++ bytes }

theorem queues_line : line.Queues World.Holds World.arrive where
  arrive bytes h := ⟨congrArg (· ++ bytes) h.1, h.2⟩
  now h := h
  read {waiting w} count h := by
    have hread : line.read count w =
        (.ok (w.received.take count), { w with received := w.received.drop count }) := by
      simp only [line, unlessFailing, h.2, List.contains_nil, Bool.false_eq_true, if_false]
    rw [hread, ← h.1]
    exact ⟨_, rfl, rfl, h.2⟩
  flush {waiting w} h := by
    have hflush : line.flushReceived w =
        (.ok (), { w with received := [] }.record .flushReceived) := by
      simp only [line, unlessFailing, h.2, List.contains_nil, Bool.false_eq_true, if_false]
    refine ⟨_, hflush, ?_⟩
    unfold World.record
    split_ifs <;> exact ⟨rfl, h.2⟩

end Simulation

namespace Engine

open Simulation (World)

/-- A packet of six bytes comes in with three notifications, the last of which brings a byte of
something else. -/
theorem packet_ends_sixBytes :
    let start := heed Simulation.line true (create 257 {}) .quiet
    let chunks : List Bytes := [[0xCC, 1], [4, 9, 9]]
    Reachable 257 {} (create 257 {}) ∧ (create 257 {}).acceptsRx = true ∧
    World.Holds [] .quiet ∧
    Gathers 257 start.1 [0xCC, 1, 4, 9, 9] (feed Simulation.line .arrive start chunks).1 ∧
    Ended start.1 [0xCC, 1, 4, 9, 9, 8]
      (feed Simulation.line .arrive start (chunks ++ [[8, 7]])).1 := by
  intro start chunks
  have hreachable : Reachable 257 {} (create 257 {}) := .create
  have hempty : World.Holds [] .quiet := ⟨rfl, rfl⟩
  have hstream : chunks.flatten ++ [8, 7] = 0xCC :: 1 :: 4 :: [9, 9, 8, 7] := rfl
  obtain ⟨hgathers, -, hended, -⟩ := packet_ends Simulation.queues_line le_rfl hreachable rfl rfl
    hempty hstream (by decide) (by decide) true
  exact ⟨hreachable, rfl, hempty, hgathers, hended (by decide)⟩

/-- A packet of 26 bytes and 232 bytes behind it are lost if one notification brings them all. If
another one brings what is behind the packet, the packet is received. -/
theorem packet_lost_together :
    let start := heed Simulation.line false (create 257 {}) .quiet
    let packet : Bytes := 0xCC :: 1 :: 24 :: List.replicate 23 0
    let behind : Bytes := List.replicate 232 0
    Lost start.1 (feed Simulation.line .arrive start [packet ++ behind]).1 ∧
    (feed Simulation.line .arrive start [packet ++ behind]).1.takeFrame.1 = none ∧
    Ended start.1 packet (feed Simulation.line .arrive start [packet, behind]).1 := by
  intro start packet behind
  have hquiet : World.Holds [] .quiet := ⟨rfl, rfl⟩
  obtain ⟨hstart, -, -, hempty⟩ := gathers_heed Simulation.queues_line
    (WellFormed.create 257 {}).bounded rfl hquiet false
  have hexceeds : 257 < ([] ++ (packet ++ behind)).length := by
    rw [List.nil_append, List.length_append, List.length_replicate]
    decide
  have hsize : sizeTold? false packet = some 26 := sizeTold?_packet 1 24 _
  obtain ⟨e₁, w₁, hout₁, hlost, -⟩ := hstart.exceeds Simulation.queues_line hempty hexceeds
  obtain ⟨e₂, w₂, hout₂, hrest, hended, -, hsettled⟩ := hstart.last Simulation.queues_line hempty
    (hsize : sizeTold? false ([] ++ packet) = some 26) le_rfl
  have htogether : (feed Simulation.line .arrive start [packet ++ behind]).1 = e₁ := by
    rw [feed_cons, hout₁]
    rfl
  have hapart : (feed Simulation.line .arrive start [packet, behind]).1 = e₂ := by
    rw [feed_cons, hout₂]
    exact feed_settled Simulation.queues_line (hsettled rfl) hrest [behind]
  rw [htogether, hapart]
  refine ⟨hlost, ?_, hended (by decide)⟩
  have hready : e₁.frameReady = false := hlost.ready
  rw [takeFrame, hready]
  rfl

end Engine

end LightingBus
