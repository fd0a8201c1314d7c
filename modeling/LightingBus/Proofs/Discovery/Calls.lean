import LightingBus.Proofs.Discovery.Sweep

/-!
# The calls of a sweep

`sweep_records_confirmed`: whatever a bus answers and whenever it fails, the devices that confirmed
stand in the first slots, in the order in which they confirmed.

1. `Bus.recorded` writes down the calls that a bus gets and what came back.
2. `Course` says once what a sweep can do: which calls it makes and how it ends. Every sweep has a
   course (`exists_course`), and its calls are those that are written down (`Course.recorded`).
3. Slots and calls are compared along the course (`Course.fills`). The upper half of a range gets
   the slots that the lower half left, so the room for its calls is smaller by what was confirmed
   there (`Proper.append`).
-/

namespace LightingBus

namespace Discovery

variable {σ ε : Type}

/-! ## Calls -/

/-- A call of a bus and what came back. -/
inductive Call (ε : Type) where
  | branch (lower upper : ℕ) (answer : Except ε Branch)
  | mute (uid : Uid) (answer : Except ε Bool)

/-- The bus, which also writes down the calls it gets. -/
def Bus.recorded (bus : Bus σ ε) : Bus (σ × List (Call ε)) ε where
  branch lower upper s :=
    let (answer, state) := bus.branch lower upper s.1
    (answer, state, s.2 ++ [.branch lower upper answer])
  mute uid s :=
    let (answer, state) := bus.mute uid s.1
    (answer, state, s.2 ++ [.mute uid answer])

/-- A sweep together with the calls that were written down. -/
def Sweep.withCalls (run : Sweep σ ε) (calls : List (Call ε)) : Sweep (σ × List (Call ε)) ε :=
  ⟨run.result, run.slots, run.stats, run.bus, calls⟩

/-- The device that a call has muted. -/
def Call.confirmed? : Call ε → Option Uid
  | .mute uid (.ok true) => some uid
  | _ => none

/-- The devices that confirmed that they were muted, in the order of the calls. -/
def confirmed (calls : List (Call ε)) : List Uid :=
  calls.filterMap Call.confirmed?

theorem confirmed_append (first second : List (Call ε)) :
    confirmed (first ++ second) = confirmed first ++ confirmed second :=
  List.filterMap_append

theorem branch_recorded {bus : Bus σ ε} {lower upper : ℕ} {state state' : σ}
    {answer : Except ε Branch} (h : bus.branch lower upper state = (answer, state'))
    (calls : List (Call ε)) : bus.recorded.branch lower upper (state, calls) =
      (answer, state', calls ++ [.branch lower upper answer]) := by
  simp only [Bus.recorded, h]

theorem mute_recorded {bus : Bus σ ε} {uid : Uid} {state state' : σ} {answer : Except ε Bool}
    (h : bus.mute uid state = (answer, state')) (calls : List (Call ε)) :
    bus.recorded.mute uid (state, calls) = (answer, state', calls ++ [.mute uid answer]) := by
  simp only [Bus.recorded, h]

/-! ## What a sweep can do -/

/-- The last number of the lower half of a range. -/
def middle (lower upper : ℕ) : ℕ :=
  lower + (upper - lower) / 2

theorem le_middle (lower upper : ℕ) : lower ≤ middle lower upper :=
  Nat.le_add_right _ _

theorem middle_lt {lower upper : ℕ} (h : lower < upper) : middle lower upper < upper := by
  unfold middle
  omega

/-- The sweeps of two halves put together: the lower half has filled `n` slots, and the upper half
went on with the others. -/
def Sweep.join (low : Sweep σ ε) (n : ℕ) (high : Sweep σ ε) : Sweep σ ε :=
  { high with
    result := high.result.map (n + ·)
    slots := low.slots.take n ++ high.slots }

/-- The sweep of a range from a state makes these calls and ends like this. -/
inductive Course (bus : Bus σ ε) :
    ℕ → ℕ → List Uid → Stats → σ → List (Call ε) → Sweep σ ε → Prop where
  /-- There is no slot left, or the range is empty. -/
  | idle {lower upper slots stats state} : slots = [] ∨ upper < lower →
    Course bus lower upper slots stats state [] ⟨.ok 0, slots, stats, state⟩
  | branchFailed {lower upper slots stats state state' e} : slots ≠ [] → lower ≤ upper →
    bus.branch lower upper state = (.error e, state') →
    Course bus lower upper slots stats state [.branch lower upper (.error e)]
      ⟨.error e, slots, stats.asked, state'⟩
  | nobody {lower upper slots stats state state'} : slots ≠ [] → lower ≤ upper →
    bus.branch lower upper state = (.ok .nobody, state') →
    Course bus lower upper slots stats state [.branch lower upper (.ok .nobody)]
      ⟨.ok 0, slots, stats.asked, state'⟩
  | muteFailed {lower upper slots stats state state' state'' uid e} : slots ≠ [] → lower ≤ upper →
    bus.branch lower upper state = (.ok (.found uid), state') →
    bus.mute uid state' = (.error e, state'') →
    Course bus lower upper slots stats state
      [.branch lower upper (.ok (.found uid)), .mute uid (.error e)]
      ⟨.error e, slots, stats.asked, state''⟩
  | unconfirmed {lower upper slots stats state state' state'' uid} : slots ≠ [] → lower ≤ upper →
    bus.branch lower upper state = (.ok (.found uid), state') →
    bus.mute uid state' = (.ok false, state'') →
    Course bus lower upper slots stats state
      [.branch lower upper (.ok (.found uid)), .mute uid (.ok false)]
      ⟨.ok 0, slots, stats.unconfirmed, state''⟩
  | confirmed {lower upper slots stats state state' state'' uid} : slots ≠ [] → lower ≤ upper →
    bus.branch lower upper state = (.ok (.found uid), state') →
    bus.mute uid state' = (.ok true, state'') →
    Course bus lower upper slots stats state
      [.branch lower upper (.ok (.found uid)), .mute uid (.ok true)]
      ⟨.ok 1, slots.set 0 uid, stats.asked, state''⟩
  /-- Colliding answers for a single number are given up. -/
  | single {number slots stats state state'} : slots ≠ [] →
    bus.branch number number state = (.ok .collision, state') →
    Course bus number number slots stats state [.branch number number (.ok .collision)]
      ⟨.ok 0, slots, stats.collided, state'⟩
  /-- The bus fails in the lower half. -/
  | lowFailed {lower upper slots stats state state' calls low e} : slots ≠ [] → lower < upper →
    bus.branch lower upper state = (.ok .collision, state') →
    Course bus lower (middle lower upper) slots stats.collided state' calls low →
    low.result = .error e →
    Course bus lower upper slots stats state (.branch lower upper (.ok .collision) :: calls) low
  | split {lower upper slots stats state state' calls calls' low n high} : slots ≠ [] →
    lower < upper → bus.branch lower upper state = (.ok .collision, state') →
    Course bus lower (middle lower upper) slots stats.collided state' calls low →
    low.result = .ok n →
    Course bus (middle lower upper + 1) upper (low.slots.drop n) low.stats low.bus calls' high →
    Course bus lower upper slots stats state
      (.branch lower upper (.ok .collision) :: (calls ++ calls')) (low.join n high)

section Steps

variable {bus : Bus σ ε} {lower upper : ℕ} {slots : List Uid} {stats : Stats}
  {state state' state'' : σ} {uid : Uid} {e : ε}

theorem sweep_branchFailed (hslots : slots ≠ []) (hle : lower ≤ upper)
    (hbranch : bus.branch lower upper state = (.error e, state')) :
    sweep bus lower upper slots stats state = ⟨.error e, slots, stats.asked, state'⟩ := by
  rw [sweep, if_neg (not_idle hslots hle)]
  simp only [hbranch, Stats.asked]

theorem sweep_muteFailed (hslots : slots ≠ []) (hle : lower ≤ upper)
    (hbranch : bus.branch lower upper state = (.ok (.found uid), state'))
    (hmute : bus.mute uid state' = (.error e, state'')) :
    sweep bus lower upper slots stats state = ⟨.error e, slots, stats.asked, state''⟩ := by
  rw [sweep, if_neg (not_idle hslots hle)]
  simp only [hbranch, hmute, Stats.asked]

/-- If the bus fails in the lower half then the upper half is not searched. -/
theorem sweep_lowFailed (hslots : slots ≠ []) (hlt : lower < upper)
    (hbranch : bus.branch lower upper state = (.ok .collision, state')) {low : Sweep σ ε}
    (hlow : sweep bus lower (middle lower upper) slots stats.collided state' = low)
    (he : low.result = .error e) : sweep bus lower upper slots stats state = low := by
  rw [sweep, if_neg (not_idle hslots hlt.le)]
  simp only [middle, Stats.collided, Stats.asked] at hlow
  simp only [hbranch, if_neg hlt.ne, hlow, he]

theorem sweep_join (hslots : slots ≠ []) (hlt : lower < upper)
    (hbranch : bus.branch lower upper state = (.ok .collision, state')) {n : ℕ}
    {low high : Sweep σ ε}
    (hlow : sweep bus lower (middle lower upper) slots stats.collided state' = low)
    (hn : low.result = .ok n)
    (hhigh : sweep bus (middle lower upper + 1) upper (low.slots.drop n) low.stats low.bus = high) :
    sweep bus lower upper slots stats state = low.join n high := by
  subst hhigh
  exact sweep_split hslots hlt hbranch hlow hn

end Steps

/-- Every sweep has a course. -/
theorem exists_course (bus : Bus σ ε) (lower upper : ℕ) (slots : List Uid) (stats : Stats)
    (state : σ) : ∃ calls, Course bus lower upper slots stats state calls
      (sweep bus lower upper slots stats state) := by
  induction hwidth : upper - lower using Nat.strong_induction_on
    generalizing lower upper slots stats state with
  | _ width ih =>
  by_cases hidle : slots = [] ∨ upper < lower
  · rw [sweep_idle hidle]
    exact ⟨_, .idle hidle⟩
  obtain ⟨hslots, hle⟩ := not_or.mp hidle
  rw [Nat.not_lt] at hle
  rcases hbranch : bus.branch lower upper state with ⟨e | answer, state'⟩
  · rw [sweep_branchFailed hslots hle hbranch]
    exact ⟨_, .branchFailed hslots hle hbranch⟩
  cases answer with
  | nobody =>
    rw [sweep_nobody hslots hle hbranch]
    exact ⟨_, .nobody hslots hle hbranch⟩
  | found uid =>
    rcases hmute : bus.mute uid state' with ⟨e | _ | _, state''⟩
    · rw [sweep_muteFailed hslots hle hbranch hmute]
      exact ⟨_, .muteFailed hslots hle hbranch hmute⟩
    · rw [sweep_unconfirmed hslots hle hbranch hmute]
      exact ⟨_, .unconfirmed hslots hle hbranch hmute⟩
    · rw [sweep_confirmed hslots hle hbranch hmute]
      exact ⟨_, .confirmed hslots hle hbranch hmute⟩
  | collision =>
    rcases hle.eq_or_lt with rfl | hlt
    · rw [sweep_single hslots hbranch]
      exact ⟨_, .single hslots hbranch⟩
    have hmiddle := middle_lt hlt
    have hlower := le_middle lower upper
    obtain ⟨calls, hlow⟩ := ih (middle lower upper - lower) (by omega) lower (middle lower upper)
      slots stats.collided state' rfl
    cases hresult : (sweep bus lower (middle lower upper) slots stats.collided state').result with
    | error e =>
      rw [sweep_lowFailed hslots hlt hbranch rfl hresult]
      exact ⟨_, .lowFailed hslots hlt hbranch hlow hresult⟩
    | ok n =>
      obtain ⟨calls', hhigh⟩ := ih (upper - (middle lower upper + 1)) (by omega) _ upper
        (List.drop n _) _ _ rfl
      rw [sweep_join hslots hlt hbranch rfl hresult rfl]
      exact ⟨_, .split hslots hlt hbranch hlow hresult hhigh⟩

/-- The calls of a course are the calls that are written down, behind those that stand there, and
writing them down changes nothing else. -/
theorem Course.recorded {bus : Bus σ ε} {lower upper : ℕ} {slots : List Uid} {stats : Stats}
    {state : σ} {calls : List (Call ε)} {run : Sweep σ ε}
    (h : Course bus lower upper slots stats state calls run) (earlier : List (Call ε)) :
    sweep bus.recorded lower upper slots stats (state, earlier) =
      run.withCalls (earlier ++ calls) := by
  induction h generalizing earlier with
  | idle hidle =>
    rw [sweep_idle hidle, List.append_nil]
    rfl
  | branchFailed hslots hle hbranch =>
    exact sweep_branchFailed hslots hle (branch_recorded hbranch earlier)
  | nobody hslots hle hbranch => exact sweep_nobody hslots hle (branch_recorded hbranch earlier)
  | muteFailed hslots hle hbranch hmute =>
    rw [sweep_muteFailed hslots hle (branch_recorded hbranch earlier) (mute_recorded hmute _),
      List.append_assoc]
    rfl
  | unconfirmed hslots hle hbranch hmute =>
    rw [sweep_unconfirmed hslots hle (branch_recorded hbranch earlier) (mute_recorded hmute _),
      List.append_assoc]
    rfl
  | confirmed hslots hle hbranch hmute =>
    rw [sweep_confirmed hslots hle (branch_recorded hbranch earlier) (mute_recorded hmute _),
      List.append_assoc]
    rfl
  | single hslots hbranch => exact sweep_single hslots (branch_recorded hbranch earlier)
  | lowFailed hslots hlt hbranch _ hresult ih =>
    have hlow := sweep_lowFailed hslots hlt (branch_recorded hbranch earlier) (ih _) hresult
    rwa [List.append_assoc] at hlow
  | split hslots hlt hbranch _ hresult _ ih ih' =>
    have hjoin := sweep_join hslots hlt (branch_recorded hbranch earlier) (ih _) hresult (ih' _)
    rw [List.append_assoc, List.append_assoc] at hjoin
    exact hjoin

/-! ## Slots -/

/-- The call may be made after those before it: there is room for one more device, and a device is
muted right after it answered. -/
structure MayFollow (room : ℕ) (before : List (Call ε)) (call : Call ε) : Prop where
  room : (confirmed before).length < room
  mute : ∀ uid answer, call = .mute uid answer →
    ∃ front lower upper, before = front ++ [.branch lower upper (.ok (.found uid))]

theorem MayFollow.behind {room : ℕ} {first before : List (Call ε)} {call : Call ε}
    (h : MayFollow (room - (confirmed first).length) before call) :
    MayFollow room (first ++ before) call := by
  refine ⟨?_, fun uid answer hcall => ?_⟩
  · have hroom := h.room
    rw [confirmed_append, List.length_append]
    omega
  · obtain ⟨front, lower, upper, rfl⟩ := h.mute uid answer hcall
    exact ⟨first ++ front, lower, upper, (List.append_assoc _ _ _).symm⟩

/-- All calls may be made. -/
def Proper (room : ℕ) (calls : List (Call ε)) : Prop :=
  ∀ before call after, calls = before ++ call :: after → MayFollow room before call

theorem Proper.nil (room : ℕ) : Proper room ([] : List (Call ε)) := by
  intro before call after h
  simp at h

theorem Proper.branch {room : ℕ} (hroom : 0 < room) (lower upper : ℕ) (answer : Except ε Branch) :
    Proper room [.branch lower upper answer] := by
  intro before call after h
  obtain ⟨rfl, hcall⟩ | ⟨_, _, hnil⟩ := List.cons_eq_append_iff.mp h
  · cases hcall
    exact ⟨hroom, nofun⟩
  · simp at hnil

theorem Proper.mute {room : ℕ} (hroom : 0 < room) (lower upper : ℕ) (uid : Uid)
    (answer : Except ε Bool) :
    Proper room [.branch lower upper (.ok (.found uid)), .mute uid answer] := by
  intro before call after h
  obtain ⟨rfl, hcall⟩ | ⟨before, rfl, hrest⟩ := List.cons_eq_append_iff.mp h
  · cases hcall
    exact ⟨hroom, nofun⟩
  obtain ⟨rfl, hcall⟩ | ⟨_, _, hnil⟩ := List.cons_eq_append_iff.mp hrest
  · cases hcall
    refine ⟨hroom, fun uid answer hmute => ⟨[], lower, upper, ?_⟩⟩
    cases hmute
    rfl
  · simp at hnil

/-- More calls are proper if there is still room for them. -/
theorem Proper.append {room : ℕ} {first second : List (Call ε)} (hfirst : Proper room first)
    (hsecond : Proper (room - (confirmed first).length) second) :
    Proper room (first ++ second) := by
  intro before call after h
  obtain ⟨before', rfl, hrest⟩ | ⟨_ | ⟨call', rest⟩, hbefore, hrest⟩ :=
    List.append_eq_append_iff.mp h
  · exact (hsecond before' call after hrest).behind
  · obtain rfl : first = before := by rw [hbefore, List.append_nil]
    simpa only [List.append_nil] using (hsecond [] call after hrest.symm).behind
  · cases hrest
    exact hfirst before call rest hbefore

/-- What the calls of a sweep have to do with its slots. -/
structure Fills (slots : List Uid) (calls : List (Call ε)) (run : Sweep σ ε) : Prop where
  filled : run.slots = confirmed calls ++ slots.drop (confirmed calls).length
  room : (confirmed calls).length ≤ slots.length
  counted : ∀ n, run.result = .ok n → n = (confirmed calls).length
  proper : Proper slots.length calls

theorem Fills.length_slots {slots : List Uid} {calls : List (Call ε)} {run : Sweep σ ε}
    (h : Fills slots calls run) : run.slots.length = slots.length := by
  have hroom := h.room
  rw [h.filled, List.length_append, List.length_drop]
  omega

/-- The sweep of the upper half goes on where that of the lower half has stopped. -/
theorem Fills.join {slots : List Uid} {first second : List (Call ε)} {low high : Sweep σ ε}
    (hlow : Fills slots first low)
    (hhigh : Fills (low.slots.drop (confirmed first).length) second high) :
    Fills slots (first ++ second) (low.join (confirmed first).length high) := by
  have hroom := hlow.room
  have hfront : low.slots.take (confirmed first).length = confirmed first := by
    rw [hlow.filled, List.take_left]
  have hback : low.slots.drop (confirmed first).length = slots.drop (confirmed first).length := by
    rw [hlow.filled, List.drop_left]
  rw [hback] at hhigh
  obtain ⟨hfilled, hroom', hcounted, hproper⟩ := hhigh
  rw [List.length_drop] at hroom' hproper
  refine ⟨?_, ?_, fun n hn => ?_, hlow.proper.append hproper⟩
  · show low.slots.take _ ++ high.slots = _
    rw [hfront, hfilled, confirmed_append, List.length_append, List.drop_drop, List.append_assoc]
  · rw [confirmed_append, List.length_append]
    omega
  · change high.result.map _ = _ at hn
    cases hresult : high.result with
    | error e =>
      rw [hresult] at hn
      cases hn
    | ok m =>
      rw [hresult, hcounted m hresult] at hn
      cases hn
      rw [confirmed_append, List.length_append]

/-- A call that mutes nobody leaves the slots alone. -/
theorem Fills.cons_branch {slots : List Uid} {lower upper : ℕ} {answer : Except ε Branch}
    {calls : List (Call ε)} {run : Sweep σ ε} (hslots : slots ≠ []) (h : Fills slots calls run) :
    Fills slots (.branch lower upper answer :: calls) run :=
  ⟨h.filled, h.room, h.counted,
    (Proper.branch (List.length_pos_iff.mpr hslots) lower upper answer).append h.proper⟩

/-- Calls that muted nobody, and slots that are as they were. -/
theorem Fills.of_same {slots : List Uid} {calls : List (Call ε)} {result : Except ε ℕ}
    {stats : Stats} {state : σ} (hresult : ∀ n, result = .ok n → n = 0)
    (hnobody : confirmed calls = []) (hproper : Proper slots.length calls) :
    Fills slots calls ⟨result, slots, stats, state⟩ where
  filled := by rw [hnobody]; rfl
  room := by rw [hnobody]; exact Nat.zero_le _
  counted n hn := by rw [hnobody, hresult n hn]; rfl
  proper := hproper

theorem Course.fills {bus : Bus σ ε} {lower upper : ℕ} {slots : List Uid} {stats : Stats}
    {state : σ} {calls : List (Call ε)} {run : Sweep σ ε}
    (h : Course bus lower upper slots stats state calls run) : Fills slots calls run := by
  have hzero (n : ℕ) (hn : (.ok 0 : Except ε ℕ) = .ok n) : n = 0 := (Except.ok.inj hn).symm
  induction h with
  | idle _ => exact .of_same hzero rfl (.nil _)
  | branchFailed hslots =>
    exact .of_same (fun _ => nofun) rfl (.branch (List.length_pos_iff.mpr hslots) _ _ _)
  | nobody hslots | single hslots =>
    exact .of_same hzero rfl (.branch (List.length_pos_iff.mpr hslots) _ _ _)
  | muteFailed hslots =>
    exact .of_same (fun _ => nofun) rfl (.mute (List.length_pos_iff.mpr hslots) _ _ _ _)
  | unconfirmed hslots =>
    exact .of_same hzero rfl (.mute (List.length_pos_iff.mpr hslots) _ _ _ _)
  | @confirmed _ _ slots _ _ _ _ uid hslots =>
    cases slots with
    | nil => exact absurd rfl hslots
    | cons slot slots =>
      exact ⟨rfl, Nat.succ_le_succ (Nat.zero_le _), fun n hn => (Except.ok.inj hn).symm,
        .mute (Nat.succ_pos _) _ _ _ _⟩
  | lowFailed hslots _ _ _ _ ih => exact ih.cons_branch hslots
  | @split _ _ _ _ _ _ _ _ low n _ hslots _ _ _ hresult _ ih ih' =>
    obtain rfl := ih.counted n hresult
    exact (ih.join ih').cons_branch hslots

/-- Whatever the bus answers, and also if it fails: the devices that confirmed that they were muted
stand in the first slots, in the order in which they confirmed, and the other slots are as they
were; the result is the number of these devices. A device is muted only right after it answered,
and no call is made once all slots are filled. -/
theorem sweep_records_confirmed (bus : Bus σ ε) (lower upper : ℕ) (slots : List Uid)
    (stats : Stats) (state : σ) :
    ∃ calls : List (Call ε),
      let run := sweep bus lower upper slots stats state
      sweep bus.recorded lower upper slots stats (state, []) = run.withCalls calls ∧
      run.slots = confirmed calls ++ slots.drop (confirmed calls).length ∧
      (confirmed calls).length ≤ slots.length ∧
      (∀ n, run.result = .ok n → n = (confirmed calls).length) ∧
      (∀ before uid answer after, calls = before ++ .mute uid answer :: after →
        ∃ front lower upper, before = front ++ [.branch lower upper (.ok (.found uid))]) ∧
      ∀ before call after, calls = before ++ call :: after →
        (confirmed before).length < slots.length := by
  obtain ⟨calls, hcourse⟩ := exists_course bus lower upper slots stats state
  obtain ⟨hfilled, hroom, hcounted, hproper⟩ := hcourse.fills
  exact ⟨calls, hcourse.recorded [], hfilled, hroom, hcounted,
    fun before uid answer after h => (hproper before _ after h).mute uid answer rfl,
    fun before call after h => (hproper before call after h).room⟩

end Discovery

end LightingBus
