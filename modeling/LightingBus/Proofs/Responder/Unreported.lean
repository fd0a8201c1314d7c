import LightingBus.Proofs.Responder.Bookkeeping
import Mathlib.Data.List.DropRight

/-!
# Changes that have not been reported

What matters to the queue of changes is a log of changes and reports. `unreported` are the keys that
wait after a log, each once, in the order in which they have changed: a key waits if it changed and
was not reported since (`mem_unreported_iff`), behind those that waited when it changed
(`unreported_order`).

A store keeps no more than 16 of these keys. `queued` is what it keeps: all of them as long as there
is room (`queued_eq_unreported`), and the last ones if further keys come in (`foldl_enqueue`).
-/

namespace LightingBus

namespace Responder

variable {key : Key}

/-! ## What has not been reported -/

/-- What matters to the queue of changes. -/
inductive QueueEvent where
  /-- A value was accepted for the key. -/
  | changed (key : Key)
  /-- A report was sent. -/
  | reported (report : Response)

/-- The key that a report is about. -/
def reportedKey (report : Response) : Key :=
  ⟨report.subDevice, report.pid⟩

/-- A key waits behind all others, unless it waits already. -/
def joined (waiting : List Key) (key : Key) : List Key :=
  if key ∈ waiting then waiting else waiting ++ [key]

theorem mem_joined {waiting : List Key} {other : Key} :
    key ∈ joined waiting other ↔ key ∈ waiting ∨ key = other := by
  rw [joined]
  split_ifs with hwaiting
  · exact ⟨.inl, fun h => h.elim id fun heq => heq ▸ hwaiting⟩
  · rw [List.mem_append, List.mem_singleton]

/-- The keys that wait to be reported after one more event, if `put` adds a key that has changed. -/
def QueueEvent.apply (put : List Key → Key → List Key) (waiting : List Key) :
    QueueEvent → List Key
  | .changed key => put waiting key
  | .reported report => waiting.filter (· ≠ reportedKey report)

/-- The keys that changed since they were last reported, in the order in which they first did. -/
def unreported (log : List QueueEvent) : List Key :=
  log.foldl (QueueEvent.apply joined) []

variable {log : List QueueEvent}

theorem unreported_concat (log : List QueueEvent) (event : QueueEvent) :
    unreported (log ++ [event]) = event.apply joined (unreported log) :=
  List.foldl_append

/-- None of these events reports the key. -/
def Silent (key : Key) (events : List QueueEvent) : Prop :=
  ∀ report, .reported report ∈ events → reportedKey report ≠ key

/-- The key has changed, and it was not reported since. -/
def Outstanding (log : List QueueEvent) (key : Key) : Prop :=
  ∃ before after, log = before ++ .changed key :: after ∧ Silent key after

theorem silent_concat {events : List QueueEvent} {event : QueueEvent} :
    Silent key (events ++ [event]) ↔ Silent key events ∧ Silent key [event] := by
  simp only [Silent, List.mem_append, or_imp, forall_and]

theorem outstanding_concat {event : QueueEvent} : Outstanding (log ++ [event]) key ↔
    event = .changed key ∨ Outstanding log key ∧ Silent key [event] := by
  constructor
  · rintro ⟨before, after, hlog, hsilent⟩
    rcases List.eq_nil_or_concat after with rfl | ⟨after, last, rfl⟩
    · exact .inl (List.singleton_inj.mp (List.append_inj' hlog rfl).2)
    · rw [List.concat_eq_append, ← List.cons_append, ← List.append_assoc] at hlog
      obtain ⟨hlog, hlast⟩ := List.append_inj' hlog rfl
      rw [List.concat_eq_append, silent_concat, ← hlast] at hsilent
      exact .inr ⟨⟨before, after, hlog, hsilent.1⟩, hsilent.2⟩
  · rintro (rfl | ⟨⟨before, after, rfl, hsilent⟩, hevent⟩)
    · exact ⟨log, [], rfl, nofun⟩
    · exact ⟨before, after ++ [event], by rw [List.append_assoc]; rfl,
        silent_concat.mpr ⟨hsilent, hevent⟩⟩

theorem silent_changed (other : Key) : Silent key [.changed other] := by
  intro report hmem
  cases List.mem_singleton.mp hmem

theorem silent_reported {report : Response} :
    Silent key [.reported report] ↔ reportedKey report ≠ key := by
  refine ⟨fun h => h report (List.mem_singleton_self _), fun h other hother => ?_⟩
  cases List.mem_singleton.mp hother
  exact h

theorem mem_unreported_iff : key ∈ unreported log ↔ Outstanding log key := by
  induction log using List.reverseRecOn with
  | nil => exact ⟨nofun, fun ⟨before, after, h, _⟩ => by cases before <;> cases h⟩
  | append_singleton log event ih =>
    rw [unreported_concat, outstanding_concat, ← ih]
    cases event with
    | changed other =>
      rw [and_iff_left (silent_changed other), QueueEvent.apply, mem_joined,
        QueueEvent.changed.injEq, or_comm, eq_comm]
    | reported report =>
      rw [silent_reported, QueueEvent.apply, List.mem_filter, decide_eq_true_iff, ne_comm]
      exact ⟨.inr, fun h => h.elim nofun id⟩

/-- Whatever waits in front of a key waited already when the key first changed. -/
theorem unreported_order {front back : List Key} (h : unreported log = front ++ key :: back) :
    ∃ before after, log = before ++ .changed key :: after ∧ Silent key after ∧
      key ∉ unreported before ∧ front ⊆ unreported before := by
  induction log using List.reverseRecOn generalizing front back with
  | nil => cases front <;> cases h
  | append_singleton log event ih =>
    have extend {front' back' : List Key} (hlog : unreported log = front' ++ key :: back')
        (hevent : Silent key [event]) (hfront : front ⊆ front') :
        ∃ before after, log ++ [event] = before ++ .changed key :: after ∧ Silent key after ∧
          key ∉ unreported before ∧ front ⊆ unreported before := by
      obtain ⟨before, after, rfl, hsilent, hnew, hsubset⟩ := ih hlog
      exact ⟨before, after ++ [event], by rw [List.append_assoc]; rfl,
        silent_concat.mpr ⟨hsilent, hevent⟩, hnew,
        fun _ hmem => hsubset (hfront hmem)⟩
    rw [unreported_concat] at h
    cases event with
    | changed other =>
      rw [QueueEvent.apply, joined] at h
      split_ifs at h with hwaiting
      · exact extend h (silent_changed other) (List.Subset.refl front)
      · rcases List.eq_nil_or_concat back with rfl | ⟨back, last, rfl⟩
        · obtain ⟨hfront, hkey⟩ := List.append_inj' h rfl
          obtain rfl := List.singleton_inj.mp hkey
          exact ⟨log, [], rfl, nofun, hwaiting, hfront ▸ List.Subset.refl _⟩
        · rw [List.concat_eq_append, ← List.cons_append, ← List.append_assoc] at h
          exact extend (List.append_inj' h rfl).1 (silent_changed other) (List.Subset.refl front)
    | reported report =>
      obtain ⟨front', behind, hlog, rfl, hbehind⟩ := List.filter_eq_append_iff.mp h
      obtain ⟨skipped, back', rfl, -, hkey, -⟩ := List.filter_eq_cons_iff.mp hbehind
      rw [← List.append_assoc] at hlog
      refine extend hlog (silent_reported.mpr (of_decide_eq_true hkey).symm) fun other hother => ?_
      exact List.mem_append_left _ (List.mem_of_mem_filter hother)

/-! ## The queue -/

/-- The keys that a store keeps in its queue. -/
def queued (log : List QueueEvent) : List Key :=
  log.foldl (QueueEvent.apply Store.enqueue) []

theorem queued_concat (log : List QueueEvent) (event : QueueEvent) :
    queued (log ++ [event]) = event.apply Store.enqueue (queued log) :=
  List.foldl_append

/-- Changes to keys that are made one after the other, without a report in between. -/
theorem queued_changed (log : List QueueEvent) (keys : List Key) :
    queued (log ++ keys.map .changed) = keys.foldl Store.enqueue (queued log) := by
  rw [queued, List.foldl_append, List.foldl_map]
  rfl

theorem enqueue_of_mem {waiting : List Key} (h : key ∈ waiting) :
    Store.enqueue waiting key = waiting :=
  if_pos (List.contains_iff_mem.mpr h)

/-- At most fifteen keys stay in front of a new one. -/
theorem enqueue_of_not_mem {waiting : List Key} (hle : waiting.length ≤ 16)
    (hnew : key ∉ waiting) : Store.enqueue waiting key = waiting.rtake 15 ++ [key] := by
  rw [Store.enqueue, if_neg (mt List.contains_iff_mem.mp hnew), List.rtake, Store.changedCapacity]
  split_ifs with hfull
  · rw [show waiting.length - 15 = 1 by omega, List.drop_one]
  · rw [show waiting.length - 15 = 0 by omega, List.drop_zero]

theorem mem_enqueue {waiting : List Key} {other : Key} (h : key ∈ Store.enqueue waiting other) :
    key ∈ waiting ∨ key = other := by
  rw [Store.enqueue] at h
  split_ifs at h
  · exact .inl h
  · rw [List.mem_append, List.mem_singleton] at h
    exact h.imp_left List.mem_of_mem_tail
  · rw [List.mem_append, List.mem_singleton] at h
    exact h

theorem mem_foldl_enqueue {keys waiting : List Key}
    (h : key ∈ keys.foldl Store.enqueue waiting) : key ∈ waiting ∨ key ∈ keys := by
  induction keys generalizing waiting with
  | nil => exact .inl h
  | cons first keys ih =>
    rcases ih h with hmem | hmem
    · exact (mem_enqueue hmem).imp_right fun heq => List.mem_cons.mpr (.inl heq)
    · exact .inr (List.mem_cons_of_mem _ hmem)

/-- Of the keys that wait, and new ones behind them, the last sixteen are kept. -/
theorem foldl_enqueue (keys waiting : List Key) (hle : waiting.length ≤ 16)
    (hnew : (waiting ++ keys).Nodup) :
    keys.foldl Store.enqueue waiting = (waiting ++ keys).rtake 16 := by
  induction keys using List.reverseRecOn with
  | nil =>
    rw [List.append_nil, List.rtake, Nat.sub_eq_zero_of_le hle, List.drop_zero]
    rfl
  | append_singleton keys key ih =>
    rw [← List.append_assoc] at hnew ⊢
    obtain ⟨hbefore, -, hkey⟩ := List.nodup_append.mp hnew
    have hkept : (waiting ++ keys).rtake 16 <:+ waiting ++ keys := List.drop_suffix _ _
    have hkey : key ∉ (waiting ++ keys).rtake 16 := fun hmem =>
      hkey key (hkept.subset hmem) key (List.mem_singleton_self key) rfl
    have hlength : ((waiting ++ keys).rtake 16).length ≤ 16 := by
      rw [List.rtake, List.length_drop]
      omega
    rw [List.foldl_append, ih hbefore, List.foldl_cons, List.foldl_nil,
      enqueue_of_not_mem hlength hkey, List.rtake_concat_succ]
    simp only [List.rtake_eq_reverse_take_reverse, List.reverse_reverse, List.take_take,
      Nat.min_def, Nat.reduceLeDiff, if_true]

theorem enqueue_eq_joined {waiting : List Key} (hroom : (joined waiting key).length ≤ 16) :
    Store.enqueue waiting key = joined waiting key := by
  rw [joined] at hroom ⊢
  split_ifs at hroom ⊢ with hwaiting
  · exact enqueue_of_mem hwaiting
  · rw [List.length_append, List.length_singleton] at hroom
    rw [enqueue_of_not_mem (by omega) hwaiting, List.rtake, Nat.sub_eq_zero_of_le (by omega),
      List.drop_zero]

/-- As long as there is room for all keys, the queue loses none. -/
theorem queued_eq_unreported (hroom : ∀ early, early <+: log → (unreported early).length ≤ 16) :
    queued log = unreported log := by
  induction log using List.reverseRecOn with
  | nil => rfl
  | append_singleton log event ih =>
    have hlast := hroom (log ++ [event]) List.prefix_rfl
    have hbefore := ih fun early hearly => hroom early (hearly.trans (List.prefix_append _ _))
    rw [unreported_concat] at hlast ⊢
    rw [queued_concat, hbefore]
    cases event with
    | changed key => exact enqueue_eq_joined hlast
    | reported report => rfl

end Responder

end LightingBus
