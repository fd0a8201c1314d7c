import Mathlib.Data.List.Infix
import LightingBus.Proofs.Line.Transmission

/-!
# Guards of the transaction lock

Who holds the transaction lock has a guard. A guard can give out another one, and the lock is free
again when all are dropped. A port counts its guards in a byte that saturates, so guards beyond the
255th are alive without being counted, and when they are dropped others are taken off the count.

1. `Use` is what tasks do with a port: a task waits for the lock, or some task takes a step.
   `Guarded` is a port and how many guards are alive.
2. `Turns` is all that a use can do to both numbers, `Guarded.turns` the step lemma.
3. `Guarded.Tallied` says how far the count is behind: by as many guards as the largest number that
   ever was alive is beyond 255. It stands as long as a guard that is alive keeps the lock
   (`tallied_after`).
4. `locked_iff_guarded`: the lock tells whether a guard is alive at every moment, exactly if never
   255 guards fewer are alive than before, and yet some are. `guard_outlives_lock` is such a moment.
-/

namespace LightingBus

variable {σ ε : Type}

namespace Port

/-! ## Who gets the lock -/

/-- A task gets the lock just when nobody holds it, if it looks at all. -/
theorem ends_lock (line : Transport σ ε) (p : Port σ ε) (timeout : UInt32) :
    Ends (fun _ q => (p.lockDepth = 0 ∧ 0 < p.patience) ∧ q.lockDepth = 1)
      (fun _ q => ¬ (p.lockDepth = 0 ∧ 0 < p.patience) ∧ q.lockDepth = p.lockDepth)
      (exec (lock line timeout) p) := by
  have hstable : Stable line fun _ => True :=
    ⟨fun _ => trivial, fun _ => trivial, fun _ _ => trivial⟩
  exact (hstable.takes_lock timeout p.patience p ⟨rfl, rfl, trivial⟩).mono
    (fun _ _ h => ⟨h.1, h.2.1⟩) fun _ _ h => ⟨h.1, h.2.1⟩

theorem lock_ok_iff (line : Transport σ ε) (p : Port σ ε) (timeout : UInt32) :
    (exec (lock line timeout) p).1 = .ok () ↔ p.lockDepth = 0 ∧ 0 < p.patience := by
  have hend := ends_lock line p timeout
  generalize exec (lock line timeout) p = out at hend
  obtain ⟨_ | _, q⟩ := out
  · exact ⟨nofun, fun h => absurd h hend.1⟩
  · exact ⟨fun _ => hend.1, fun _ => rfl⟩

/-! ## What is done with a port -/

/-- What tasks do with a port. A task waits for the lock until it has it or gives up, and nobody
else takes a step meanwhile; or some task takes a step, which may be one look of a task that waits
for the lock. -/
inductive Use where
  | lock (timeout : UInt32)
  | call (call : Call)

/-- A port and how many guards of its lock are alive. -/
structure Guarded (σ ε : Type) where
  port : Port σ ε
  guards : ℕ

namespace Guarded

variable (line : Transport σ ε)

/-- What a use makes of a port and its guards. Nobody can nest or drop a guard when there is none.
It does not matter which guard is nested or dropped, since guards know nothing but their port. -/
def use (s : Guarded σ ε) : Use → Guarded σ ε
  | .lock timeout =>
    match exec (lock line timeout) s.port with
    | (.ok (), p) => ⟨p, s.guards + 1⟩
    | (.error _, p) => ⟨p, s.guards⟩
  | .call .tryLock =>
    match exec (tryLock line.undisturbed) s.port with
    | (.ok true, p) => ⟨p, s.guards + 1⟩
    | (_, p) => ⟨p, s.guards⟩
  | .call .nest => if s.guards = 0 then s else ⟨Call.nest.after line s.port, s.guards + 1⟩
  | .call .unlock => if s.guards = 0 then s else ⟨Call.unlock.after line s.port, s.guards - 1⟩
  | .call call => ⟨call.after line s.port, s.guards⟩

def after (s : Guarded σ ε) (uses : List Use) : Guarded σ ε :=
  uses.foldl (use line) s

/-- How many guards the port has counted. -/
def depth (s : Guarded σ ε) : ℕ :=
  s.port.lockDepth.toNat

/-- The lock tells whether a guard is alive, and who looks at all gets it just when none is. -/
structure Exact (s : Guarded σ ε) : Prop where
  isLocked : s.port.isLocked = true ↔ 0 < s.guards
  lock (timeout : UInt32) :
    (exec (Port.lock line timeout) s.port).1 = .ok () ↔ s.guards = 0 ∧ 0 < s.port.patience

end Guarded

/-! ## One use -/

/-- What a use does to the count of a port and to the number of its guards. -/
inductive Turns (depth guards : ℕ) : ℕ → ℕ → Prop where
  | none : Turns depth guards depth guards
  | taken : depth = 0 → Turns depth guards 1 (guards + 1)
  | nested : 0 < guards → Turns depth guards (min 255 (depth + 1)) (guards + 1)
  | dropped : 0 < guards → Turns depth guards (depth - 1) (guards - 1)

/-- Whatever is counted is alive. -/
theorem Turns.depth_le {depth guards depth' guards' : ℕ} (h : Turns depth guards depth' guards')
    (hle : depth ≤ guards) : depth' ≤ guards' := by
  cases h <;> omega

/-- If the count is behind by as many guards as were alive beyond 255, it is so after a use, unless
a guard is alive and the lock is free: then the lock may be taken once more, and the guard from
before is not missed when it is dropped. -/
theorem Turns.depth_add {depth guards depth' guards' most : ℕ}
    (h : Turns depth guards depth' guards') (hheld : 0 < guards → 0 < depth)
    (hmost : guards ≤ most) (hadd : depth + (most - 255) = guards) :
    depth' + (max most guards' - 255) = guards' := by
  cases h with
  | none =>
    rw [Nat.max_eq_left hmost]
    exact hadd
  | taken hfree => omega
  | nested halive => omega
  | dropped halive => omega

/-- The count goes up to 255 and stays there. -/
theorem toNat_deeper (depth : UInt8) : (deeper depth).toNat = min 255 (depth.toNat + 1) := by
  have hlt := depth.toNat_lt
  unfold deeper
  split_ifs with hfull
  · rw [hfull]
    rfl
  · have hne : depth.toNat ≠ 255 := fun h => hfull (UInt8.toNat_inj.mp h)
    show (depth.toNat + 1) % 2 ^ 8 = min 255 (depth.toNat + 1)
    omega

theorem toNat_shallower (depth : UInt8) :
    (if depth = 0 then 0 else depth - 1).toNat = depth.toNat - 1 := by
  split_ifs with hfree
  · rw [hfree]
    rfl
  · have hne : depth.toNat ≠ 0 := fun h => hfree (UInt8.toNat_inj.mp h)
    have hle : (1 : UInt8) ≤ depth := UInt8.le_iff_toNat_le.mpr (Nat.pos_of_ne_zero hne)
    exact UInt8.toNat_sub_of_le depth 1 hle

/-- Nothing but the lock's own steps changes how often it is held. -/
theorem Call.lockDepth_after (line : Transport σ ε) (call : Call) (p : Port σ ε)
    (htry : call ≠ .tryLock) (hnest : call ≠ .nest) (hunlock : call ≠ .unlock) :
    (call.after line p).lockDepth = p.lockDepth := by
  have hkept := receiving_lockDepth line p.lockDepth
  cases call with
  | event kind => exact hkept.onEvent kind rfl
  | poll => exact hkept.polled rfl
  | takeFault => exact hkept.popFault rfl
  | arrival => exact hkept.popFault (hkept.takeFrame rfl)
  | edit f =>
    show (exec (Port.withFront line.undisturbed fun front => ((), f front)) p).2.lockDepth = _
    rw [exec_withFront, interrupted_undisturbed]
    dsimp only
    split_ifs <;> rfl
  | sendNoBreak bytes =>
    show (exec (Port.sendNoBreak line.undisturbed bytes) p).2.lockDepth = _
    rw [exec_sendNoBreak, interrupted_undisturbed]
    dsimp only
    split_ifs <;> rfl
  | abortSend =>
    show (exec (Port.abortSend line.undisturbed) p).2.lockDepth = _
    rw [exec_abortSend]
    rfl
  | enterReceive =>
    show (exec (Port.enterReceive line.undisturbed) p).2.lockDepth = _
    rw [exec_enterReceive, interrupted_undisturbed]
    dsimp only
    split_ifs
    · rfl
    · rfl
    · exact hkept.popFault rfl
  | tryLock => exact absurd rfl htry
  | nest => exact absurd rfl hnest
  | unlock => exact absurd rfl hunlock
  | _ => rfl

namespace Guarded

variable {line : Transport σ ε} {s : Guarded σ ε}

theorem turns_lock (line : Transport σ ε) (s : Guarded σ ε) (timeout : UInt32) :
    Turns s.depth s.guards (s.use line (.lock timeout)).depth
      (s.use line (.lock timeout)).guards := by
  have hend := ends_lock line s.port timeout
  dsimp only [use, depth]
  generalize exec (lock line timeout) s.port = out at hend
  obtain ⟨_ | _, p⟩ := out
  · dsimp only
    rw [hend.2]
    exact .none
  · dsimp only
    rw [hend.2, hend.1.1]
    exact .taken rfl

theorem turns_tryLock (line : Transport σ ε) (s : Guarded σ ε) :
    Turns s.depth s.guards (s.use line (.call .tryLock)).depth
      (s.use line (.call .tryLock)).guards := by
  dsimp only [use, depth]
  rw [exec_tryLock, interrupted_undisturbed]
  by_cases hlocked : s.port.isLocked = true
  · simp only [hlocked, if_true]
    exact .none
  · have hfree : s.port.lockDepth = 0 := by simpa [isLocked] using hlocked
    simp only [hlocked, hfree]
    exact .taken rfl

theorem turns_nest (line : Transport σ ε) (s : Guarded σ ε) :
    Turns s.depth s.guards (s.use line (.call .nest)).depth
      (s.use line (.call .nest)).guards := by
  dsimp only [use]
  split_ifs with hnone
  · exact .none
  · have hdepth : depth ⟨Call.nest.after line s.port, s.guards + 1⟩ = min 255 (s.depth + 1) :=
      toNat_deeper s.port.lockDepth
    rw [hdepth]
    exact .nested (Nat.pos_of_ne_zero hnone)

theorem turns_unlock (line : Transport σ ε) (s : Guarded σ ε) :
    Turns s.depth s.guards (s.use line (.call .unlock)).depth
      (s.use line (.call .unlock)).guards := by
  dsimp only [use]
  split_ifs with hnone
  · exact .none
  · have hdepth : depth ⟨Call.unlock.after line s.port, s.guards - 1⟩ = s.depth - 1 :=
      toNat_shallower s.port.lockDepth
    rw [hdepth]
    exact .dropped (Nat.pos_of_ne_zero hnone)

theorem turns (line : Transport σ ε) (s : Guarded σ ε) (u : Use) :
    Turns s.depth s.guards (s.use line u).depth (s.use line u).guards := by
  have hother (call : Call) (htry : call ≠ .tryLock) (hnest : call ≠ .nest)
      (hunlock : call ≠ .unlock) :
      Turns s.depth s.guards (depth ⟨call.after line s.port, s.guards⟩) s.guards := by
    unfold depth
    rw [Call.lockDepth_after line call s.port htry hnest hunlock]
    exact .none
  cases u with
  | lock timeout => exact turns_lock line s timeout
  | call call =>
    cases call with
    | tryLock => exact turns_tryLock line s
    | nest => exact turns_nest line s
    | unlock => exact turns_unlock line s
    | _ => exact hother _ nofun nofun nofun

/-! ## Runs -/

theorem after_concat (line : Transport σ ε) (s : Guarded σ ε) (uses : List Use) (u : Use) :
    s.after line (uses ++ [u]) = (s.after line uses).use line u := by
  unfold after
  rw [List.foldl_append]
  rfl

/-- A port is locked by guards only, so it does not stay locked when all are dropped. -/
theorem depth_after_le (h : s.depth ≤ s.guards) (uses : List Use) :
    (s.after line uses).depth ≤ (s.after line uses).guards := by
  induction uses using List.reverseRecOn with
  | nil => exact h
  | append_singleton uses u ih =>
    rw [after_concat]
    exact (turns line (s.after line uses) u).depth_le ih

/-- How far the count is behind when at most so many guards were alive: by those beyond 255. -/
structure Tallied (line : Transport σ ε) (s : Guarded σ ε) (uses : List Use) (most : ℕ) :
    Prop where
  le_most {done : List Use} : done <+: uses → (s.after line done).guards ≤ most
  attained : ∃ done, done <+: uses ∧ (s.after line done).guards = most
  depth_add : (s.after line uses).depth + (most - 255) = (s.after line uses).guards

theorem Tallied.concat {uses : List Use} {most : ℕ} (h : s.Tallied line uses most)
    (hheld : 0 < (s.after line uses).guards → 0 < (s.after line uses).depth) (u : Use) :
    s.Tallied line (uses ++ [u]) (max most (s.after line (uses ++ [u])).guards) where
  le_most {done} hdone := by
    rcases List.prefix_concat_iff.mp hdone with rfl | hdone
    · exact Nat.le_max_right _ _
    · exact Nat.le_trans (h.le_most hdone) (Nat.le_max_left _ _)
  attained := by
    by_cases hmore : most ≤ (s.after line (uses ++ [u])).guards
    · exact ⟨uses ++ [u], List.prefix_rfl, (Nat.max_eq_right hmore).symm⟩
    · obtain ⟨done, hdone, hmost⟩ := h.attained
      refine ⟨done, hdone.trans (List.prefix_append uses [u]), ?_⟩
      rw [hmost, Nat.max_eq_left (Nat.le_of_not_le hmore)]
  depth_add := by
    rw [after_concat]
    exact (turns line (s.after line uses) u).depth_add hheld (h.le_most List.prefix_rfl) h.depth_add

theorem tallied_after {uses : List Use} (hdepth : s.depth = 0) (hguards : s.guards = 0)
    (hheld : ∀ done, done <+: uses → done ≠ uses →
      0 < (s.after line done).guards → 0 < (s.after line done).depth) :
    ∃ most, s.Tallied line uses most := by
  induction uses using List.reverseRecOn with
  | nil =>
    refine ⟨0, fun hdone => ?_, ⟨[], List.prefix_rfl, hguards⟩, hdepth.trans hguards.symm⟩
    rw [List.prefix_nil.mp hdone]
    exact Nat.le_of_eq hguards
  | append_singleton uses u ih =>
    have hshorter {done : List Use} (hdone : done <+: uses) :
        done <+: uses ++ [u] ∧ done ≠ uses ++ [u] := by
      refine ⟨hdone.trans (List.prefix_append uses [u]), fun h => ?_⟩
      have hlength := hdone.length_le
      rw [h, List.length_append] at hlength
      exact Nat.not_succ_le_self _ hlength
    obtain ⟨most, htallied⟩ := ih fun done hdone _ =>
      hheld done (hshorter hdone).1 (hshorter hdone).2
    have huses := hshorter (List.prefix_refl uses)
    exact ⟨_, htallied.concat (hheld uses huses.1 huses.2) u⟩

/-- As long as guards that are alive keep the lock, no moment has some guards and yet 255 fewer than
a moment before. -/
theorem Tallied.lt_add {uses : List Use} {most : ℕ} (h : s.Tallied line uses most)
    {before : List Use} (hbefore : before <+: uses) (hheld : 0 < (s.after line uses).depth) :
    (s.after line before).guards < (s.after line uses).guards + 255 := by
  have hmost := h.le_most hbefore
  have hadd := h.depth_add
  omega

theorem Tallied.depth_pos {uses : List Use} {most : ℕ} (h : s.Tallied line uses most)
    (hrise : ∀ before, before <+: uses →
      (s.after line before).guards < (s.after line uses).guards + 255)
    (halive : 0 < (s.after line uses).guards) : 0 < (s.after line uses).depth := by
  obtain ⟨before, hbefore, hmost⟩ := h.attained
  have hlt := hrise before hbefore
  have hadd := h.depth_add
  omega

/-- If no moment has some guards and yet 255 fewer than a moment before, guards that are alive keep
the lock all the time. -/
theorem depth_after_pos {uses : List Use} (hdepth : s.depth = 0) (hguards : s.guards = 0)
    (hrise : ∀ before done, before <+: done → done <+: uses → 0 < (s.after line done).guards →
      (s.after line before).guards < (s.after line done).guards + 255) :
    ∀ done, done <+: uses →
      0 < (s.after line done).guards → 0 < (s.after line done).depth := by
  induction uses using List.reverseRecOn with
  | nil =>
    intro done hdone halive
    rw [List.prefix_nil.mp hdone] at halive
    exact absurd hguards (Nat.ne_of_gt halive)
  | append_singleton uses u ih =>
    have hbefore := ih fun before done hbefore hdone =>
      hrise before done hbefore (hdone.trans (List.prefix_append uses [u]))
    intro done hdone halive
    rcases List.prefix_concat_iff.mp hdone with rfl | hshorter
    · obtain ⟨most, hmost⟩ := tallied_after hdepth hguards fun earlier hearlier hne =>
        hbefore earlier ((List.prefix_concat_iff.mp hearlier).resolve_left hne)
      exact hmost.depth_pos (fun before h => hrise before _ h hdone halive) halive
    · exact hbefore done hshorter halive

/-! ## What the lock tells -/

theorem isLocked_iff (s : Guarded σ ε) : s.port.isLocked = true ↔ s.depth ≠ 0 := by
  simp [isLocked, depth, ← UInt8.toNat_inj]

/-- What the lock tells is right unless all guards that are alive are not counted. -/
theorem exact_iff (hle : s.depth ≤ s.guards) :
    s.Exact line ↔ (0 < s.guards → 0 < s.depth) := by
  constructor
  · exact fun h halive => Nat.pos_of_ne_zero (s.isLocked_iff.mp (h.isLocked.mpr halive))
  · intro hheld
    have hfree : s.depth = 0 ↔ s.guards = 0 := by omega
    constructor
    · rw [isLocked_iff, Ne, hfree]
      exact Nat.pos_iff_ne_zero.symm
    · intro timeout
      rw [lock_ok_iff, ← hfree, ← UInt8.toNat_inj]
      rfl

end Guarded

/-- A port that is locked has a guard, so its lock is never lost. The lock tells at every moment
whether a guard is alive, and a task gets it just when none is, exactly if no moment has some guards
and yet 255 fewer than a moment before. -/
theorem locked_iff_guarded {capacity : ℕ} {config : LineConfig} {patience : ℕ} {world : σ}
    {p : Port σ ε} (hnew : create capacity config patience world = .ok p)
    (line : Transport σ ε) (uses : List Use) :
    let after := (Guarded.mk p 0).after line
    ((after uses).port.isLocked = true → 0 < (after uses).guards) ∧
    ((∀ done, done <+: uses → (after done).Exact line) ↔
      ∀ before done, before <+: done → done <+: uses → 0 < (after done).guards →
        (after before).guards < (after done).guards + 255) := by
  have hdepth : (Guarded.mk p 0).depth = 0 :=
    congrArg (fun p => p.lockDepth.toNat) (create_eq_ok hnew)
  have hle (done : List Use) : ((Guarded.mk p 0).after line done).depth ≤
      ((Guarded.mk p 0).after line done).guards :=
    Guarded.depth_after_le (Nat.le_of_eq hdepth) done
  dsimp only
  refine ⟨fun hlocked => ?_, fun hexact before done hbefore hdone halive => ?_,
    fun hrise done hdone => ?_⟩
  · have hheld := Nat.pos_of_ne_zero ((Guarded.isLocked_iff _).mp hlocked)
    exact Nat.lt_of_lt_of_le hheld (hle uses)
  · have hheld {earlier : List Use} (h : earlier <+: uses) :=
      (Guarded.exact_iff (hle earlier)).mp (hexact earlier h)
    obtain ⟨most, hmost⟩ := Guarded.tallied_after hdepth rfl fun earlier h _ =>
      hheld (h.trans hdone)
    exact hmost.lt_add hbefore (hheld hdone halive)
  · exact (Guarded.exact_iff (hle done)).mpr
      (Guarded.depth_after_pos hdepth rfl hrise done hdone)

/-- A port over a line as it was opened. -/
def opened : Port Simulation.World Simulation.LineCall where
  config := {}
  engine := Engine.create 64 {}
  world := Simulation.World.quiet
  driverFault := none
  waiting := false
  lockDepth := 0
  transaction := 0
  patience := 8

/-- A lock is entered again, and another task waits for it in vain. -/
def reentered : List Use :=
  [.lock 0, .call .nest, .call .poll, .call .unlock, .lock 0, .call .unlock]

theorem locked_iff_guarded_reentered : create 64 {} 8 Simulation.World.quiet = .ok opened ∧
    let after := (Guarded.mk opened 0).after Simulation.line
    ((after reentered).guards = 0 ∧ (after (reentered.take 5)).guards = 1) ∧
    ∀ done, done <+: reentered → (after done).Exact Simulation.line := by
  have hnew : create 64 {} 8 Simulation.World.quiet = .ok opened := rfl
  have hcounts : (∀ done ∈ reentered.inits,
        ((Guarded.mk opened 0).after Simulation.line done).guards ≤ 2) ∧
      ((Guarded.mk opened 0).after Simulation.line reentered).guards = 0 ∧
      ((Guarded.mk opened 0).after Simulation.line (reentered.take 5)).guards = 1 := by
    decide +kernel
  refine ⟨hnew, hcounts.2, ?_⟩
  refine (locked_iff_guarded hnew Simulation.line reentered).2.mpr
    fun before done hbefore hdone _ => ?_
  have hle := hcounts.1 before ((List.mem_inits before reentered).mpr (hbefore.trans hdone))
  omega

/-- The lock is taken, 255 further guards are given out and all but one are dropped. Then the port
is not locked, and another task gets the lock. -/
theorem guard_outlives_lock : create 64 {} 8 Simulation.World.quiet = .ok opened ∧
    let s := (Guarded.mk opened 0).after Simulation.line (.lock 0 ::
      (List.replicate 255 (.call .nest) ++ List.replicate 255 (.call .unlock)))
    s.guards = 1 ∧ s.port.isLocked = false ∧ (exec (lock Simulation.line 0) s.port).1 = .ok () := by
  refine ⟨rfl, ?_⟩
  decide +kernel

end Port

end LightingBus
