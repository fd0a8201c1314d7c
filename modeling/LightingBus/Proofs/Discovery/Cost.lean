import LightingBus.Proofs.Discovery.Calls
import LightingBus.Proofs.Discovery.SearchBus

/-!
# What a sweep costs

`sweep_cost`: how many ranges a sweep asks for, and how often the answers collide.

1. The ranges that a sweep asks for are a tree of halves (`Halving`, `Course.halving`), whatever
   the bus does. A tree over so many numbers has only so many nodes, its ranges are nested or
   disjoint, and a number lies in one range of every width at most (`Halving.countP_le`).
2. Where only devices answer and all of them can be muted (`Ideal`), answers collide where two
   devices are. The ranges of one width are disjoint, so at most half as many of them collide as
   there are devices, and there are `k` widths greater than one (`Course.frugal`).
3. Each collision brings two further questions, none of which is left out while slots are left.
4. A bus that does not fail (`Bus.Unfailing`) lets the sweep come to a result, and the counters stay
   below `2 ^ 32` (`Course.fits`).
-/

namespace LightingBus

namespace Discovery

variable {σ ε : Type}

/-! ## A tree of ranges -/

/-- The numbers that a call asks for. -/
def Call.range? : Call ε → Option (Finset ℕ)
  | .branch lower upper _ => some (Finset.Icc lower upper)
  | .mute _ _ => none

/-- The ranges that were asked for, in the order of the calls. -/
def asked (calls : List (Call ε)) : List (Finset ℕ) :=
  calls.filterMap Call.range?

theorem asked_append (first second : List (Call ε)) :
    asked (first ++ second) = asked first ++ asked second :=
  List.filterMap_append

/-- The halves of a range of two to `2 ^ k` numbers have at most `2 ^ (k - 1)` numbers. -/
theorem halves_of_width {lower upper k : ℕ} (hlt : lower < upper)
    (hwidth : upper - lower + 1 ≤ 2 ^ k) :
    ∃ n, k = n + 1 ∧ middle lower upper - lower + 1 ≤ 2 ^ n ∧
      upper - (middle lower upper + 1) + 1 ≤ 2 ^ n := by
  obtain ⟨n, rfl⟩ : ∃ n, k = n + 1 := by
    refine Nat.exists_eq_add_one_of_ne_zero ?_
    rintro rfl
    omega
  refine ⟨n, rfl, ?_⟩
  unfold middle
  rw [Nat.pow_succ] at hwidth
  omega

/-- The ranges that may be asked for in the search of a range, and how many of them collide: a range
that collides is asked for in halves. -/
inductive Halving : ℕ → ℕ → List (Finset ℕ) → ℕ → Prop where
  | idle {lower upper} : Halving lower upper [] 0
  | leaf {lower upper} : lower ≤ upper → Halving lower upper [Finset.Icc lower upper] 0
  | single (number) : Halving number number [Finset.Icc number number] 1
  | split {lower upper low high c d} : lower < upper → Halving lower (middle lower upper) low c →
    Halving (middle lower upper + 1) upper high d →
    Halving lower upper (Finset.Icc lower upper :: (low ++ high)) (c + d + 1)

namespace Halving

variable {lower upper collisions : ℕ} {ranges : List (Finset ℕ)}

/-- A tree over `W` numbers has at most `2 * W - 1` nodes. -/
theorem length_le (h : Halving lower upper ranges collisions) (hle : lower ≤ upper) :
    ranges.length ≤ 2 * (upper - lower + 1) - 1 := by
  induction h with
  | idle => exact Nat.zero_le _
  | leaf _ | single _ =>
    rw [List.length_singleton]
    omega
  | @split lower upper _ _ _ _ hlt _ _ ih ih' =>
    have hmiddle := middle_lt hlt
    have hlow := ih (le_middle lower upper)
    have hhigh := ih' hmiddle
    have hlower := le_middle lower upper
    rw [List.length_cons, List.length_append]
    omega

/-- Only collisions lead to further questions, and each leads to two. -/
theorem length_le_collisions (h : Halving lower upper ranges collisions) :
    ranges.length ≤ 1 + 2 * collisions := by
  induction h with
  | idle => exact Nat.zero_le _
  | leaf _ | single _ => exact Nat.le_add_right _ _
  | split _ _ _ ih ih' =>
    rw [List.length_cons, List.length_append]
    omega

theorem subset (h : Halving lower upper ranges collisions) :
    ∀ range ∈ ranges, range ⊆ Finset.Icc lower upper := by
  induction h with
  | idle => exact nofun
  | leaf _ | single _ => exact fun range hrange => (List.mem_singleton.mp hrange).subset
  | @split lower upper _ _ _ _ hlt _ _ ih ih' =>
    intro range hrange
    rcases List.mem_cons.mp hrange with rfl | hrange
    · exact Finset.Subset.refl _
    have hmiddle := middle_lt hlt
    rcases List.mem_append.mp hrange with hrange | hrange
    · exact (ih range hrange).trans (Finset.Icc_subset_Icc le_rfl hmiddle.le)
    · have hlower := le_middle lower upper
      exact (ih' range hrange).trans (Finset.Icc_subset_Icc (by omega) le_rfl)

/-- The halves of a range have no number in common. -/
theorem disjoint_halves (lower upper : ℕ) : Disjoint (Finset.Icc lower (middle lower upper))
    (Finset.Icc (middle lower upper + 1) upper) := by
  rw [Finset.disjoint_left]
  intro number hlow hhigh
  rw [Finset.mem_Icc] at hlow hhigh
  omega

/-- Of two ranges, the later one lies in the earlier one, or they have no number in common. -/
theorem pairwise (h : Halving lower upper ranges collisions) :
    ranges.Pairwise fun earlier later => later ⊆ earlier ∨ Disjoint earlier later := by
  induction h with
  | idle => exact List.Pairwise.nil
  | leaf _ | single _ => exact List.pairwise_singleton _ _
  | split hlt hlow hhigh ih ih' =>
    refine List.pairwise_cons.mpr ⟨fun range hrange => .inl ?_,
      List.pairwise_append.mpr ⟨ih, ih', fun low hl high hh => .inr ?_⟩⟩
    · exact (Halving.split hlt hlow hhigh).subset range (List.mem_cons_of_mem _ hrange)
    · exact (disjoint_halves _ _).mono (hlow.subset low hl) (hhigh.subset high hh)

/-- Ranges that lie elsewhere do not hold a number. -/
theorem countP_eq_zero (h : Halving lower upper ranges collisions) {number : ℕ}
    (hout : number ∉ Finset.Icc lower upper) : ranges.countP (number ∈ ·) = 0 := by
  rw [List.countP_eq_zero]
  intro range hrange
  rw [decide_eq_true_eq]
  exact fun hmem => hout (h.subset range hrange hmem)

/-- A number lies in at most one range of every width. -/
theorem countP_le (h : Halving lower upper ranges collisions) {k : ℕ}
    (hwidth : upper - lower + 1 ≤ 2 ^ k) (number : ℕ) :
    ranges.countP (number ∈ ·) ≤ k + 1 := by
  induction h generalizing k with
  | idle => exact Nat.zero_le _
  | leaf _ | single _ => exact List.countP_le_length.trans (Nat.le_add_left _ _)
  | @split lower upper low high _ _ hlt hlow hhigh ih ih' =>
    obtain ⟨k, rfl, hwidthLow, hwidthHigh⟩ := halves_of_width hlt hwidth
    -- the number lies in one half, and the ranges of the other half do not hold it
    have honly : (low ++ high).countP (number ∈ ·) ≤ k + 1 := by
      rw [List.countP_append]
      rcases Nat.lt_or_ge (middle lower upper) number with hgt | hle
      · have hout : number ∉ Finset.Icc lower (middle lower upper) := by
          rw [Finset.mem_Icc]
          omega
        rw [hlow.countP_eq_zero hout, Nat.zero_add]
        exact ih' hwidthHigh
      · have hout : number ∉ Finset.Icc (middle lower upper + 1) upper := by
          rw [Finset.mem_Icc]
          omega
        rw [hhigh.countP_eq_zero hout]
        exact ih hwidthLow
    rw [List.countP_cons]
    split_ifs <;> omega

end Halving

/-- The ranges of a sweep are a tree of halves, and the counters tell its size. -/
theorem Course.halving {bus : Bus σ ε} {lower upper : ℕ} {slots : List Uid} {stats : Stats}
    {state : σ} {calls : List (Call ε)} {run : Sweep σ ε}
    (h : Course bus lower upper slots stats state calls run) :
    ∃ collisions, Halving lower upper (asked calls) collisions ∧
      run.stats.branchRequests = stats.branchRequests + (asked calls).length ∧
      run.stats.collisions = stats.collisions + collisions := by
  induction h with
  | idle _ => exact ⟨0, .idle, rfl, rfl⟩
  | branchFailed _ hle | nobody _ hle | muteFailed _ hle | unconfirmed _ hle | confirmed _ hle =>
    exact ⟨0, .leaf hle, rfl, rfl⟩
  | single _ _ => exact ⟨1, .single _, rfl, rfl⟩
  | @lowFailed lower upper _ _ _ _ calls _ _ _ hlt _ _ _ ih =>
    obtain ⟨c, htree, hrequests, hcollisions⟩ := ih
    have hsplit := Halving.split hlt htree .idle
    rw [List.append_nil, Nat.add_zero] at hsplit
    refine ⟨c + 1, hsplit, ?_, ?_⟩
    · change _ = _ + (Finset.Icc lower upper :: asked calls).length
      rw [hrequests, List.length_cons, Stats.branchRequests_collided]
      omega
    · rw [hcollisions, Stats.collisions_collided]
      omega
  | @split lower upper _ _ _ _ calls calls' low n high _ hlt _ _ _ _ ih ih' =>
    obtain ⟨c, htree, hrequests, hcollisions⟩ := ih
    obtain ⟨d, htree', hrequests', hcollisions'⟩ := ih'
    have hasked : asked (.branch lower upper (.ok .collision) :: (calls ++ calls')) =
        Finset.Icc lower upper :: (asked calls ++ asked calls') :=
      congrArg _ (asked_append calls calls')
    refine ⟨c + d + 1, hasked ▸ .split hlt htree htree', ?_, ?_⟩
    · change high.stats.branchRequests = _
      rw [hasked, hrequests', hrequests, List.length_cons, List.length_append,
        Stats.branchRequests_collided]
      omega
    · change high.stats.collisions = _
      rw [hcollisions', hcollisions, Stats.collisions_collided]
      omega

/-- A question makes at most one of the other counters grow. -/
theorem Course.counters {bus : Bus σ ε} {lower upper : ℕ} {slots : List Uid} {stats : Stats}
    {state : σ} {calls : List (Call ε)} {run : Sweep σ ε}
    (h : Course bus lower upper slots stats state calls run) :
    run.stats.collisions + run.stats.muteFailures + stats.branchRequests ≤
      run.stats.branchRequests + stats.collisions + stats.muteFailures := by
  induction h with
  | idle _ => exact (Nat.add_comm _ _).trans_le (Nat.add_assoc _ _ _).ge
  | branchFailed | nobody | muteFailed | unconfirmed | confirmed | single =>
    simp only [Stats.branchRequests_asked, Stats.branchRequests_unconfirmed,
      Stats.branchRequests_collided, Stats.collisions_asked, Stats.collisions_unconfirmed,
      Stats.collisions_collided, Stats.muteFailures_asked, Stats.muteFailures_unconfirmed,
      Stats.muteFailures_collided]
    omega
  | lowFailed _ _ _ _ _ ih =>
    rw [Stats.branchRequests_collided, Stats.collisions_collided, Stats.muteFailures_collided] at ih
    omega
  | @split _ _ _ _ _ _ _ _ _ n high _ _ _ _ _ _ ih ih' =>
    change high.stats.collisions + high.stats.muteFailures + _ ≤ high.stats.branchRequests + _ + _
    rw [Stats.branchRequests_collided, Stats.collisions_collided, Stats.muteFailures_collided] at ih
    omega

/-! ## A bus that does not fail -/

/-- From good states, no call fails, and it leads to a good state. -/
structure Bus.Unfailing (bus : Bus σ ε) (good : σ → Prop) : Prop where
  branch {state : σ} (lower upper : ℕ) : good state →
    ∃ answer state', bus.branch lower upper state = (.ok answer, state') ∧ good state'
  mute {state : σ} (uid : Uid) : good state →
    ∃ answer state', bus.mute uid state = (.ok answer, state') ∧ good state'

section Unfailing

variable {bus : Bus σ ε} {good : σ → Prop} {state state' : σ}

theorem Bus.Unfailing.good_branch (hbus : bus.Unfailing good) (hgood : good state)
    {lower upper : ℕ} {answer : Except ε Branch}
    (h : bus.branch lower upper state = (answer, state')) :
    (∃ branch, answer = .ok branch) ∧ good state' := by
  obtain ⟨_, _, hanswer, hgood'⟩ := hbus.branch lower upper hgood
  cases h.symm.trans hanswer
  exact ⟨⟨_, rfl⟩, hgood'⟩

theorem Bus.Unfailing.good_mute (hbus : bus.Unfailing good) (hgood : good state) {uid : Uid}
    {answer : Except ε Bool} (h : bus.mute uid state = (answer, state')) :
    (∃ confirmed, answer = .ok confirmed) ∧ good state' := by
  obtain ⟨_, _, hanswer, hgood'⟩ := hbus.mute uid hgood
  cases h.symm.trans hanswer
  exact ⟨⟨_, rfl⟩, hgood'⟩

theorem Course.exists_result (hbus : bus.Unfailing good) {lower upper : ℕ} {slots : List Uid}
    {stats : Stats} {calls : List (Call ε)} {run : Sweep σ ε}
    (h : Course bus lower upper slots stats state calls run) (hgood : good state) :
    (∃ n, run.result = .ok n) ∧ good run.bus := by
  induction h with
  | idle => exact ⟨⟨_, rfl⟩, hgood⟩
  | branchFailed _ _ hbranch =>
    obtain ⟨⟨_, hok⟩, -⟩ := hbus.good_branch hgood hbranch
    cases hok
  | nobody _ _ hbranch | single _ hbranch => exact ⟨⟨_, rfl⟩, (hbus.good_branch hgood hbranch).2⟩
  | muteFailed _ _ hbranch hmute =>
    obtain ⟨⟨_, hok⟩, -⟩ := hbus.good_mute (hbus.good_branch hgood hbranch).2 hmute
    cases hok
  | unconfirmed _ _ hbranch hmute | confirmed _ _ hbranch hmute =>
    exact ⟨⟨_, rfl⟩, (hbus.good_mute (hbus.good_branch hgood hbranch).2 hmute).2⟩
  | lowFailed _ _ hbranch _ hresult ih =>
    obtain ⟨⟨n, hn⟩, -⟩ := ih (hbus.good_branch hgood hbranch).2
    cases hresult.symm.trans hn
  | @split _ _ _ _ _ _ _ _ _ n high _ _ hbranch _ _ _ ih ih' =>
    obtain ⟨-, hgood'⟩ := ih (hbus.good_branch hgood hbranch).2
    obtain ⟨⟨m, hm⟩, hgood''⟩ := ih' hgood'
    exact ⟨⟨n + m, congrArg (Except.map (n + ·)) hm⟩, hgood''⟩

end Unfailing

/-! ## An ideal bus -/

/-- The devices in a range. -/
def present (lower upper : ℕ) (uids : List Uid) : List Uid :=
  uids.filter fun uid => uid.toNat ∈ Finset.Icc lower upper

/-- What is heard of devices that answer at once. -/
def heard : List Uid → Branch
  | [] => .nobody
  | [uid] => .found uid
  | _ => .collision

/-- The bus answers for the devices that are not muted, and all of them can be muted: `holds uids`
are the states in which these are the devices `uids`. -/
structure Ideal (bus : Bus σ ε) (holds : List Uid → σ → Prop) : Prop where
  branch {uids : List Uid} {state : σ} {lower upper : ℕ} : holds uids state → lower ≤ upper →
    ∃ state', bus.branch lower upper state = (.ok (heard (present lower upper uids)), state') ∧
      holds uids state'
  mute {uids : List Uid} {state : σ} {uid : Uid} : holds uids state → uid ∈ uids →
    ∃ state', bus.mute uid state = (.ok true, state') ∧ holds (uids.filter (· ≠ uid)) state'

section Ideal

variable {uids uids' : List Uid} {uid : Uid} {lower upper : ℕ}

theorem Ideal.answer {bus : Bus σ ε} {holds : List Uid → σ → Prop} (hbus : Ideal bus holds)
    {state state' : σ} (hholds : holds uids state) (hle : lower ≤ upper)
    {answer : Except ε Branch} (h : bus.branch lower upper state = (answer, state')) :
    answer = .ok (heard (present lower upper uids)) ∧ holds uids state' := by
  obtain ⟨_, hanswer, hholds'⟩ := hbus.branch hholds hle
  cases h.symm.trans hanswer
  exact ⟨rfl, hholds'⟩

theorem Ideal.confirms {bus : Bus σ ε} {holds : List Uid → σ → Prop} (hbus : Ideal bus holds)
    {state state' : σ} (hholds : holds uids state) (huid : uid ∈ uids) {answer : Except ε Bool}
    (h : bus.mute uid state = (answer, state')) :
    answer = .ok true ∧ holds (uids.filter (· ≠ uid)) state' := by
  obtain ⟨_, hanswer, hholds'⟩ := hbus.mute hholds huid
  cases h.symm.trans hanswer
  exact ⟨rfl, hholds'⟩

theorem mem_present :
    uid ∈ present lower upper uids ↔ uid ∈ uids ∧ lower ≤ uid.toNat ∧ uid.toNat ≤ upper := by
  rw [present, List.mem_filter, decide_eq_true_eq, Finset.mem_Icc]

theorem mem_of_present_eq (h : present lower upper uids = [uid]) : uid ∈ uids :=
  (mem_present.mp (h ▸ List.mem_singleton_self uid)).1

/-- The devices in a wider range include those in a narrower one. -/
theorem present_sublist {lower' upper' : ℕ} (hlower : lower ≤ lower') (hupper : upper' ≤ upper) :
    (present lower' upper' uids).Sublist (present lower upper uids) := by
  refine List.monotone_filter_right uids fun uid huid => ?_
  rw [decide_eq_true_eq] at huid ⊢
  exact Finset.Icc_subset_Icc hlower hupper huid

/-- Every device of a range is in one of its halves. -/
theorem length_present_split (hlt : lower < upper) :
    (present lower upper uids).length = (present lower (middle lower upper) uids).length +
      (present (middle lower upper + 1) upper uids).length := by
  have hmiddle := middle_lt hlt
  have hlower := le_middle lower upper
  have hlow : present lower (middle lower upper) uids =
      (present lower upper uids).filter fun uid => uid.toNat ≤ middle lower upper := by
    rw [present, present, List.filter_filter]
    refine List.filter_congr fun uid _ => ?_
    rw [Bool.eq_iff_iff, Bool.and_eq_true, decide_eq_true_eq, decide_eq_true_eq, decide_eq_true_eq,
      Finset.mem_Icc, Finset.mem_Icc]
    omega
  have hhigh : present (middle lower upper + 1) upper uids =
      (present lower upper uids).filter fun uid => !decide (uid.toNat ≤ middle lower upper) := by
    rw [present, present, List.filter_filter]
    refine List.filter_congr fun uid _ => ?_
    rw [Bool.eq_iff_iff, Bool.and_eq_true, Bool.not_eq_true', decide_eq_true_eq,
      decide_eq_false_iff_not, decide_eq_true_eq, Finset.mem_Icc, Finset.mem_Icc]
    omega
  rw [hlow, hhigh]
  exact List.length_eq_length_filter_add _

/-- Muting a device changes nothing elsewhere. -/
theorem present_filter_ne (h : uid.toNat ∉ Finset.Icc lower upper) :
    present lower upper (uids.filter (· ≠ uid)) = present lower upper uids := by
  rw [present, present, List.filter_filter]
  refine List.filter_congr fun other _ => ?_
  rw [Bool.and_eq_left_iff_imp, decide_eq_true_eq, decide_eq_true_eq]
  rintro hother rfl
  exact h hother

theorem heard_eq_found {devices : List Uid} (h : heard devices = .found uid) :
    devices = [uid] := by
  unfold heard at h
  split at h
  · cases h
  · cases h
    rfl
  · cases h

theorem two_le_of_heard {devices : List Uid} (h : heard devices = .collision) :
    2 ≤ devices.length := by
  unfold heard at h
  split at h
  · cases h
  · cases h
  next hnil hsingle =>
    rcases devices with _ | ⟨first, _ | ⟨second, rest⟩⟩
    · exact absurd rfl hnil
    · exact absurd rfl (hsingle first)
    · simp

/-- Different devices have different numbers. -/
theorem length_present_single {number : ℕ} (h : (present number number uids).Nodup) :
    (present number number uids).length ≤ 1 := by
  have hsame : ∀ first ∈ present number number uids, ∀ second ∈ present number number uids,
      first = second := fun first hfirst second hsecond => by
    obtain ⟨-, hfirst⟩ := mem_present.mp hfirst
    obtain ⟨-, hsecond⟩ := mem_present.mp hsecond
    exact Uid.toNat_inj.mp (by omega)
  rcases hdevices : present number number uids with _ | ⟨first, _ | ⟨second, rest⟩⟩
  · exact Nat.zero_le _
  · exact le_rfl
  · rw [hdevices] at h hsame
    have heq := hsame first (by simp) second (by simp)
    simp [heq] at h

end Ideal

/-- What a sweep of a range of at most `2 ^ k` numbers costs where the devices `uids` are not muted.
Devices elsewhere are left alone. -/
structure Frugal (holds : List Uid → σ → Prop) (k lower upper : ℕ) (slots uids : List Uid)
    (stats : Stats) (run : Sweep σ ε) : Prop where
  rest : ∃ uids', holds uids' run.bus ∧ ∀ a b, b < lower ∨ upper < a →
    present a b uids' = present a b uids
  result : ∃ n, run.result = .ok n ∧ n ≤ (present lower upper uids).length
  collisions :
    run.stats.collisions ≤ stats.collisions + k * ((present lower upper uids).length / 2)
  requests : lower ≤ upper → (present lower upper uids).length < slots.length →
    run.stats.branchRequests + 2 * stats.collisions =
      stats.branchRequests + 1 + 2 * run.stats.collisions

section Frugal

variable {bus : Bus σ ε} {holds : List Uid → σ → Prop} {lower upper k : ℕ}
  {slots uids uids' : List Uid} {stats : Stats}

/-- A collision and the collisions of the two halves. -/
theorem Frugal.join {low high : Sweep σ ε} {n : ℕ} (hlt : lower < upper)
    (htwo : 2 ≤ (present lower upper uids).length) (hlength : low.slots.length = slots.length)
    (hlow : Frugal holds k lower (middle lower upper) slots uids stats.collided low)
    (hn : low.result = .ok n)
    (helsewhere : ∀ a b, b < lower ∨ middle lower upper < a →
      present a b uids' = present a b uids)
    (hhigh : Frugal holds k (middle lower upper + 1) upper (low.slots.drop n) uids' low.stats
      high) :
    Frugal holds (k + 1) lower upper slots uids stats (low.join n high) := by
  have hmiddle := middle_lt hlt
  have hlower := le_middle lower upper
  have hsplit : (present lower upper uids).length = _ := length_present_split hlt
  have hupper : present (middle lower upper + 1) upper uids' =
      present (middle lower upper + 1) upper uids := helsewhere _ _ (.inr (Nat.lt_succ_self _))
  have hfound : n ≤ (present lower (middle lower upper) uids).length := by
    obtain ⟨m, hm, hle⟩ := hlow.result
    cases hn.symm.trans hm
    exact hle
  have hcollisionsLow := hlow.collisions
  have hrequestsLow := hlow.requests hlower
  obtain ⟨⟨rest, hrest, hothers⟩, ⟨m, hm, hmle⟩, hcollisions, hrequests⟩ := hhigh
  rw [hupper] at hmle hcollisions hrequests
  rw [Stats.collisions_collided] at hcollisionsLow hrequestsLow
  rw [Stats.branchRequests_collided] at hrequestsLow
  rw [List.length_drop, hlength] at hrequests
  generalize (present lower (middle lower upper) uids).length = first at *
  generalize (present (middle lower upper + 1) upper uids).length = second at *
  refine ⟨⟨rest, hrest, fun a b hab => ?_⟩, ⟨n + m, congrArg (Except.map (n + ·)) hm, ?_⟩, ?_, ?_⟩
  · rw [hothers a b (by omega), helsewhere a b (by omega)]
  · omega
  · -- half the devices of either half, and one more collision for the range itself
    have hhalves : k * (first / 2) + k * (second / 2) ≤
        k * ((present lower upper uids).length / 2) := by
      rw [← Nat.mul_add]
      exact Nat.mul_le_mul_left k (by omega)
    have hone : 1 ≤ (present lower upper uids).length / 2 := by omega
    change high.stats.collisions ≤ _
    rw [Nat.succ_mul]
    omega
  · intro _ hroom
    have hfirst := hrequestsLow (by omega)
    have hsecond := hrequests hmiddle (by omega)
    change high.stats.branchRequests + _ = _ + 2 * high.stats.collisions
    omega

theorem Course.frugal (hbus : Ideal bus holds) {state : σ} {calls : List (Call ε)}
    {run : Sweep σ ε} (h : Course bus lower upper slots stats state calls run)
    (hholds : holds uids state) (hnodup : (present lower upper uids).Nodup)
    (hwidth : upper - lower + 1 ≤ 2 ^ k) : Frugal holds k lower upper slots uids stats run := by
  induction h generalizing uids k with
  | idle hidle =>
    refine ⟨⟨uids, hholds, fun _ _ _ => rfl⟩, ⟨0, rfl, Nat.zero_le _⟩, Nat.le_add_right _ _,
      fun hle hroom => ?_⟩
    rcases hidle with rfl | hlt
    · exact absurd hroom (Nat.not_lt_zero _)
    · exact absurd hle (Nat.not_le.mpr hlt)
  | branchFailed _ hle hbranch => cases (hbus.answer hholds hle hbranch).1
  | nobody _ hle hbranch =>
    obtain ⟨-, hholds'⟩ := hbus.answer hholds hle hbranch
    exact ⟨⟨uids, hholds', fun _ _ _ => rfl⟩, ⟨0, rfl, Nat.zero_le _⟩, Nat.le_add_right _ _,
      fun _ _ => by rw [Stats.branchRequests_asked, Stats.collisions_asked]⟩
  | muteFailed _ hle hbranch hmute =>
    obtain ⟨hanswer, hholds'⟩ := hbus.answer hholds hle hbranch
    have hone := heard_eq_found (Except.ok.inj hanswer).symm
    cases (hbus.confirms hholds' (mem_of_present_eq hone) hmute).1
  | unconfirmed _ hle hbranch hmute =>
    obtain ⟨hanswer, hholds'⟩ := hbus.answer hholds hle hbranch
    have hone := heard_eq_found (Except.ok.inj hanswer).symm
    cases (hbus.confirms hholds' (mem_of_present_eq hone) hmute).1
  | @confirmed lower upper _ _ _ _ _ uid _ hle hbranch hmute =>
    obtain ⟨hanswer, hholds'⟩ := hbus.answer hholds hle hbranch
    have hone := heard_eq_found (Except.ok.inj hanswer).symm
    obtain ⟨hmem, hlower, hupper⟩ := mem_present.mp (hone ▸ List.mem_singleton_self uid)
    obtain ⟨-, hholds''⟩ := hbus.confirms hholds' hmem hmute
    refine ⟨⟨_, hholds'', fun a b hab => present_filter_ne ?_⟩, ⟨1, rfl, by rw [hone]; rfl⟩,
      Nat.le_add_right _ _, fun _ _ => by rw [Stats.branchRequests_asked, Stats.collisions_asked]⟩
    rw [Finset.mem_Icc]
    omega
  | single _ hbranch =>
    obtain ⟨hanswer, -⟩ := hbus.answer hholds le_rfl hbranch
    have htwo := two_le_of_heard (Except.ok.inj hanswer).symm
    exact absurd (length_present_single hnodup) (Nat.not_le.mpr htwo)
  | @lowFailed lower upper _ _ _ _ _ _ _ _ hlt hbranch _ hresult ih =>
    obtain ⟨-, hholds'⟩ := hbus.answer hholds hlt.le hbranch
    have hmiddle := middle_lt hlt
    obtain ⟨n, hn, -⟩ := (ih (k := k) hholds'
      (hnodup.sublist (present_sublist le_rfl hmiddle.le)) (by omega)).result
    cases hresult.symm.trans hn
  | @split lower upper _ _ _ _ _ _ low n high _ hlt hbranch hlow hresult _ ih ih' =>
    obtain ⟨hanswer, hholds'⟩ := hbus.answer hholds hlt.le hbranch
    obtain ⟨k, rfl, hwidthLow, hwidthHigh⟩ := halves_of_width hlt hwidth
    have hmiddle := middle_lt hlt
    have hlower := le_middle lower upper
    have hfrugal := ih (k := k) hholds' (hnodup.sublist (present_sublist le_rfl hmiddle.le))
      hwidthLow
    obtain ⟨uids', hholds'', helsewhere⟩ := hfrugal.rest
    refine hfrugal.join hlt (two_le_of_heard (Except.ok.inj hanswer).symm)
      hlow.fills.length_slots hresult helsewhere (ih' hholds'' ?_ hwidthHigh)
    rw [helsewhere _ _ (.inr (Nat.lt_succ_self _))]
    exact hnodup.sublist (present_sublist (by omega) le_rfl)

end Frugal

/-! ## The counters -/

/-- The counters fit into 32 bits. -/
structure Stats.Fits (stats : Stats) : Prop where
  branchRequests : stats.branchRequests < 2 ^ 32
  collisions : stats.collisions < 2 ^ 32
  muteFailures : stats.muteFailures < 2 ^ 32

/-- Fewer than `2 ^ 32` questions are enough for the other counters too. -/
theorem Course.fits {bus : Bus σ ε} {lower upper : ℕ} {slots : List Uid} {state : σ}
    {calls : List (Call ε)} {run : Sweep σ ε} (h : Course bus lower upper slots {} state calls run)
    (hrequests : run.stats.branchRequests < 2 ^ 32) : run.stats.Fits := by
  have hcounters : run.stats.collisions + run.stats.muteFailures ≤ run.stats.branchRequests :=
    h.counters
  exact ⟨hrequests, by omega, by omega⟩

/-- The cost of a sweep of `W` numbers, at most `2 ^ k` of them, with the counters at zero. The
calls are those that the bus gets.

On a bus that does not fail, the sweep ends with at most `2 * W - 1` questions, and with at most one
and two for each collision. The ranges asked for lie in the range of the sweep and are nested or
disjoint, and no number lies in more than `k + 1` of them.

Where devices with different identifiers answer, all of which can be muted, the answers collide at
most `k` times for every two devices. If there are more slots than devices then each collision
brings exactly two further questions. -/
theorem sweep_cost (bus : Bus σ ε) {lower upper k : ℕ} (hrange : lower ≤ upper)
    (hwidth : upper - lower + 1 ≤ 2 ^ k) (slots : List Uid) (state : σ) :
    ∃ calls : List (Call ε),
      let run := sweep bus lower upper slots {} state
      sweep bus.recorded lower upper slots {} (state, []) = run.withCalls calls ∧
      run.stats.branchRequests = (asked calls).length ∧
      (∀ good : σ → Prop, bus.Unfailing good → good state → upper - lower + 1 ≤ 2 ^ 31 →
        (∃ n, run.result = .ok n) ∧ run.stats.Fits ∧
        run.stats.branchRequests ≤ 2 * (upper - lower + 1) - 1 ∧
        run.stats.branchRequests ≤ 1 + 2 * run.stats.collisions ∧
        (∀ range ∈ asked calls, range ⊆ Finset.Icc lower upper) ∧
        (asked calls).Pairwise (fun earlier later => later ⊆ earlier ∨ Disjoint earlier later) ∧
        ∀ number, (asked calls).countP (number ∈ ·) ≤ k + 1) ∧
      ∀ (holds : List Uid → σ → Prop) (uids : List Uid), Ideal bus holds → holds uids state →
        (present lower upper uids).Nodup → (present lower upper uids).length < 2 ^ 25 →
        upper - lower + 1 ≤ 2 ^ 48 →
          (∃ n, run.result = .ok n) ∧ run.stats.Fits ∧
          run.stats.collisions ≤ k * ((present lower upper uids).length / 2) ∧
          run.stats.branchRequests ≤ 1 + 2 * run.stats.collisions ∧
          ((present lower upper uids).length < slots.length →
            run.stats.branchRequests = 1 + 2 * run.stats.collisions) := by
  obtain ⟨calls, hcourse⟩ := exists_course bus lower upper slots {} state
  obtain ⟨collisions, htree, hrequests, hcollisions⟩ := hcourse.halving
  rw [Nat.zero_add] at hrequests hcollisions
  have htotal := htree.length_le hrange
  have htwo := htree.length_le_collisions
  rw [← hrequests] at htotal htwo
  rw [← hcollisions] at htwo
  refine ⟨calls, hcourse.recorded [], hrequests, fun good hbus hgood hsmall => ?_,
    fun holds uids hbus hholds hnodup hfew hwide => ?_⟩
  · exact ⟨(hcourse.exists_result hbus hgood).1, hcourse.fits (by omega), htotal, htwo,
      htree.subset, htree.pairwise, htree.countP_le hwidth⟩
  · obtain ⟨-, ⟨n, hn, -⟩, hbound, hexact⟩ := hcourse.frugal hbus hholds hnodup hwidth
    have hbound48 := (hcourse.frugal (k := 48) hbus hholds hnodup hwide).collisions
    rw [Nat.zero_add] at hbound hbound48
    exact ⟨⟨n, hn⟩, hcourse.fits (by omega), hbound, htwo, fun hroom =>
      by simpa using hexact hrange hroom⟩

end Discovery

namespace Simulation

namespace SearchBus

open Discovery

/-! ## A bus of devices that all confirm -/

/-- The devices that are not muted are `uids`, nothing disturbs them, and each confirms. -/
structure Waiting (uids : List Uid) (bus : SearchBus) : Prop where
  unmuted : (bus.devices.filter fun d => !d.2).map Prod.fst = uids
  deaf : bus.deaf = []
  mutes : bus.muteError = []
  noise : bus.noise = []
  answers : bus.failAfter = none

variable {bus : SearchBus} {uids : List Uid} {uid : Uid} {lower upper : ℕ}

theorem Waiting.answering (h : bus.Waiting uids) :
    bus.answering lower upper = present lower upper uids := by
  rw [← h.unmuted, present, List.filter_map, List.filter_filter, SearchBus.answering]
  refine congrArg _ (List.filter_congr fun d _ => ?_)
  simp [within]

theorem Waiting.answer (h : bus.Waiting uids) :
    bus.answer lower upper = heard (present lower upper uids) := by
  rw [SearchBus.answer, h.noise, h.answering]
  rfl

/-- A muted device waits no longer. -/
theorem Waiting.silence (h : bus.Waiting uids) (uid : Uid) :
    Waiting (uids.filter (· ≠ uid))
      { bus with devices := bus.devices.map fun (u, muted) => (u, muted || u == uid) } := by
  refine ⟨?_, h.deaf, h.mutes, h.noise, h.answers⟩
  rw [← h.unmuted, List.filter_map, List.filter_map, List.map_map, List.filter_filter]
  refine congrArg _ (List.filter_congr fun d _ => ?_)
  simp [Bool.and_comm, Bool.beq_eq_decide_eq]

theorem ideal : Ideal SearchBus.bus fun uids bus => bus.Waiting uids where
  branch {uids bus lower upper} h _ := by
    refine ⟨{ bus with branches := bus.branches ++ [(lower, upper, bus.answer lower upper)] }, ?_,
      ⟨h.unmuted, h.deaf, h.mutes, h.noise, h.answers⟩⟩
    simp [SearchBus.bus, h.answers, h.answer]
  mute {uids bus uid} h _ := by
    refine ⟨_, ?_, h.silence uid⟩
    simp [SearchBus.bus, h.deaf, h.mutes]

/-- A reliable bus stays reliable. -/
theorem unfailing : SearchBus.bus.Unfailing Reliable where
  branch lower upper h :=
    ⟨_, _, if_neg (by rw [h.answers]; exact nofun), h.mutes, h.answers⟩
  mute {bus} uid h := by
    simp only [SearchBus.bus, h.mutes, List.contains_nil, Bool.false_eq_true, if_false]
    split_ifs
    · exact ⟨_, _, rfl, h⟩
    · exact ⟨_, _, rfl, rfl, h.answers⟩

/-- A bus of two devices. -/
def pair (first second : Uid) : SearchBus where
  devices := [(first, false), (second, false)]
  deaf := []
  muteError := []
  noise := []
  failAfter := none
  branches := []

/-- Two devices in eight numbers that are told apart at the last digit: answers collide as often as
they may. -/
theorem sweep_cost_neighbours :
    let lower := (exampleUid 0).toNat
    let upper := (exampleUid 7).toNat
    let neighbours := pair (exampleUid 0) (exampleUid 1)
    let run := sweep SearchBus.bus lower upper (List.replicate 3 (exampleUid 0)) {} neighbours
    lower ≤ upper ∧ upper - lower + 1 ≤ 2 ^ 3 ∧
      neighbours.Reliable ∧ run.stats.branchRequests ≤ 15 ∧
      neighbours.Waiting [exampleUid 0, exampleUid 1] ∧ run.stats.collisions ≤ 3 ∧
      run.stats.branchRequests = 1 + 2 * run.stats.collisions ∧ run.stats.collisions = 3 := by
  have hrange : (exampleUid 0).toNat ≤ (exampleUid 7).toNat := by decide
  have hwidth : (exampleUid 7).toNat - (exampleUid 0).toNat + 1 ≤ 2 ^ 3 := by decide
  have hreliable : (pair (exampleUid 0) (exampleUid 1)).Reliable := ⟨rfl, rfl⟩
  have hwaiting : (pair (exampleUid 0) (exampleUid 1)).Waiting [exampleUid 0, exampleUid 1] :=
    ⟨rfl, rfl, rfl, rfl, rfl⟩
  obtain ⟨calls, -, -, hunfailing, hideal⟩ := sweep_cost SearchBus.bus hrange hwidth
    (List.replicate 3 (exampleUid 0)) (pair (exampleUid 0) (exampleUid 1))
  obtain ⟨-, -, htotal, -⟩ := hunfailing _ unfailing hreliable (by decide)
  obtain ⟨-, -, hcollisions, -, hrequests⟩ := hideal _ _ ideal hwaiting (by decide) (by decide)
    (by decide)
  refine ⟨hrange, hwidth, hreliable, htotal, hwaiting, hcollisions, hrequests (by decide), ?_⟩
  decide +kernel

end SearchBus

end Simulation

end LightingBus
