import Mathlib
import LightingBus.Parameter.Instance

/-!
# The table of instances

`find?_eq_some_iff`: in a table that is in order, halving finds an instance exactly if the table
has it, so that what a table holds does not depend on the order in which it was filled.

1. Keys are ordered by their `rank`, a number.
2. Halving ends at a position that `Splits` the table at the key; `lowerBound_splits` carries the
   two halves of that property from one round to the next.
3. Putting an instance in and replacing one keep the order (`Sorted.insert`, `Sorted.set`) and
   change the result of one key only (`find?_insert`, `find?_set`).
-/

namespace LightingBus

namespace Key

/-- The place of a key in the order of keys. -/
def rank (key : Key) : ℕ :=
  key.subDevice.toNat * 65536 + key.pid.toNat

theorem rank_inj {a b : Key} : a.rank = b.rank ↔ a = b := by
  have ha := a.pid.toNat_lt
  have hb := b.pid.toNat_lt
  constructor
  · intro h
    unfold rank at h
    obtain ⟨hdevice, hpid⟩ : a.subDevice.toNat = b.subDevice.toNat ∧ a.pid.toNat = b.pid.toNat := by
      omega
    cases a
    cases b
    rw [mk.injEq]
    exact ⟨UInt16.toNat_inj.mp hdevice, UInt16.toNat_inj.mp hpid⟩
  · rintro rfl
    rfl

theorem before_iff {a b : Key} : a.before b = true ↔ a.rank < b.rank := by
  have ha := a.pid.toNat_lt
  have hb := b.pid.toNat_lt
  simp only [before, rank, Bool.or_eq_true, Bool.and_eq_true, decide_eq_true_eq, beq_iff_eq,
    UInt16.lt_iff_toNat_lt, ← UInt16.toNat_inj]
  omega

end Key

namespace InstanceTable

variable {t : InstanceTable} {i j : Instance} {key : Key} {n m : ℕ}

/-- The keys of a table ascend. -/
def Sorted (t : InstanceTable) : Prop :=
  t.Pairwise fun i j => i.key.before j.key

/-! ## Positions in order -/

theorem Sorted.rank_lt (hsorted : t.Sorted) (hi : t[n]? = some i) (hj : t[m]? = some j)
    (hlt : n < m) : i.key.rank < j.key.rank := by
  obtain ⟨hn, rfl⟩ := List.getElem?_eq_some_iff.mp hi
  obtain ⟨hm, rfl⟩ := List.getElem?_eq_some_iff.mp hj
  exact Key.before_iff.mp (List.pairwise_iff_getElem.mp hsorted n m hn hm hlt)

/-- No two positions have the same key. -/
theorem Sorted.position_inj (hsorted : t.Sorted) (hi : t[n]? = some i) (hj : t[m]? = some j)
    (hkey : i.key = j.key) : n = m := by
  rcases Nat.lt_trichotomy n m with hlt | heq | hgt
  · have := hsorted.rank_lt hi hj hlt
    rw [hkey] at this
    omega
  · exact heq
  · have := hsorted.rank_lt hj hi hgt
    rw [hkey] at this
    omega

/-! ## Halving -/

/-- In front of the position are the keys before `key`, from it on the others. -/
structure Splits (t : InstanceTable) (key : Key) (position : ℕ) : Prop where
  le_length : position ≤ t.length
  front : ∀ n i, n < position → t[n]? = some i → i.key.rank < key.rank
  back : ∀ n i, position ≤ n → t[n]? = some i → key.rank ≤ i.key.rank

theorem lowerBound_splits (hsorted : t.Sorted) (low high : ℕ) (hle : low ≤ high)
    (hhigh : high ≤ t.length) (hfront : ∀ n i, n < low → t[n]? = some i → i.key.rank < key.rank)
    (hback : ∀ n i, high ≤ n → t[n]? = some i → key.rank ≤ i.key.rank) :
    t.Splits key (t.lowerBound key low high) := by
  fun_induction lowerBound t key low high with
  | case1 low high hlt middle hbefore ih =>
    -- the middle key comes before `key`, and with it all in front of it
    have hmiddle : middle < high := by omega
    obtain ⟨i, hi, hrank⟩ := (Option.any_eq_true _ _).mp hbefore
    refine ih (by omega) hhigh (fun n j hn hj => ?_) hback
    rcases Nat.lt_or_ge n middle with hlow | hhigh
    · have := hsorted.rank_lt hj hi hlow
      have := Key.before_iff.mp hrank
      omega
    · obtain rfl : n = middle := by omega
      rw [hi, Option.some.injEq] at hj
      exact hj ▸ Key.before_iff.mp hrank
  | case2 low high hlt middle hbefore ih =>
    have hmiddle : middle < high := by omega
    refine ih (by omega) (by omega) hfront (fun n j hn hj => ?_)
    obtain ⟨i, hi⟩ : ∃ i, t[middle]? = some i :=
      ⟨t[middle], List.getElem?_eq_getElem (by omega)⟩
    have hrank : key.rank ≤ i.key.rank := by
      by_contra hcontra
      rw [hi, Option.any_some, Key.before_iff] at hbefore
      omega
    rcases Nat.eq_or_lt_of_le hn with rfl | hlt
    · rw [hi, Option.some.injEq] at hj
      exact hj ▸ hrank
    · have := hsorted.rank_lt hi hj hlt
      omega
  | case3 low high hge =>
    obtain rfl : low = high := by omega
    exact ⟨hhigh, hfront, hback⟩

theorem position_splits (hsorted : t.Sorted) (key : Key) : t.Splits key (t.position key) := by
  refine lowerBound_splits hsorted 0 t.length (Nat.zero_le _) le_rfl ?_ ?_
  · intro n i hn
    omega
  · intro n i hn hi
    obtain ⟨hlt, -⟩ := List.getElem?_eq_some_iff.mp hi
    omega

/-! ## Finding -/

theorem index?_eq_some_iff (hsorted : t.Sorted) :
    t.index? key = some n ↔ ∃ i, t[n]? = some i ∧ i.key = key := by
  have hsplits := position_splits hsorted key
  constructor
  · intro h
    unfold index? at h
    split at h
    next hany =>
      obtain ⟨i, hi, hkey⟩ := (Option.any_eq_true _ _).mp hany
      cases h
      exact ⟨i, hi, eq_of_beq hkey⟩
    next => cases h
  · rintro ⟨i, hi, rfl⟩
    have hposition : t.position i.key = n := by
      rcases Nat.lt_trichotomy n (t.position i.key) with hlt | heq | hgt
      · exact absurd (hsplits.front n i hlt hi) (Nat.lt_irrefl _)
      · exact heq.symm
      · -- what stands at the position would come before `i` and not before its key
        obtain ⟨hn, -⟩ := List.getElem?_eq_some_iff.mp hi
        have hj := List.getElem?_eq_getElem (l := t) (hgt.trans hn)
        have hlt := hsorted.rank_lt hj hi hgt
        have hge := hsplits.back _ _ le_rfl hj
        omega
    rw [index?, hposition, hi, Option.any_some, beq_self_eq_true, if_pos rfl]

theorem find?_eq_some_iff (hsorted : t.Sorted) : t.find? key = some i ↔ i ∈ t ∧ i.key = key := by
  rw [find?, Option.bind_eq_some_iff]
  constructor
  · rintro ⟨n, hn, hi⟩
    obtain ⟨j, hj, hkey⟩ := (index?_eq_some_iff hsorted).mp hn
    rw [hi, Option.some.injEq] at hj
    exact ⟨List.mem_of_getElem? hi, hj ▸ hkey⟩
  · rintro ⟨hmem, hkey⟩
    obtain ⟨n, hn⟩ := List.mem_iff_getElem?.mp hmem
    exact ⟨n, (index?_eq_some_iff hsorted).mpr ⟨i, hn, hkey⟩, hn⟩

theorem find?_eq_none_iff (hsorted : t.Sorted) : t.find? key = none ↔ ∀ i ∈ t, i.key ≠ key := by
  rw [Option.eq_none_iff_forall_ne_some]
  constructor
  · intro h i hi hkey
    exact h i ((find?_eq_some_iff hsorted).mpr ⟨hi, hkey⟩)
  · intro h i hi
    obtain ⟨hmem, hkey⟩ := (find?_eq_some_iff hsorted).mp hi
    exact h i hmem hkey

theorem isSome_index? (hsorted : t.Sorted) :
    (t.index? key).isSome = (t.find? key).isSome := by
  rw [find?]
  cases hindex : t.index? key with
  | none => rfl
  | some n =>
    obtain ⟨i, hi, -⟩ := (index?_eq_some_iff hsorted).mp hindex
    simp [hi]

/-! ## Putting in -/

theorem insert_eq (hsorted : t.Sorted) (i : Instance) :
    t.insert i = t.take (t.position i.key) ++ i :: t.drop (t.position i.key) := by
  have hlength : (t.take (t.position i.key)).length = t.position i.key :=
    List.length_take_of_le (position_splits hsorted i.key).le_length
  calc t.insert i
      = (t.take (t.position i.key) ++ t.drop (t.position i.key)).insertIdx
          ((t.take (t.position i.key)).length + 0) i := by
        rw [hlength, List.take_append_drop]
        rfl
    _ = t.take (t.position i.key) ++ i :: t.drop (t.position i.key) :=
        List.modifyTailIdx_add _ _ _ _

theorem mem_insert_iff (hsorted : t.Sorted) : j ∈ t.insert i ↔ j = i ∨ j ∈ t :=
  List.mem_insertIdx (position_splits hsorted i.key).le_length

theorem length_insert (hsorted : t.Sorted) (i : Instance) :
    List.length (t.insert i) = t.length + 1 :=
  List.length_insertIdx_of_le_length (position_splits hsorted i.key).le_length i

/-- A new key keeps the order. -/
theorem Sorted.insert (hsorted : t.Sorted) (hnew : ∀ j ∈ t, j.key ≠ i.key) :
    (t.insert i).Sorted := by
  have hsplits := position_splits hsorted i.key
  rw [insert_eq hsorted, Sorted, List.pairwise_append, List.pairwise_cons]
  refine ⟨hsorted.take, ⟨fun j hj => ?_, hsorted.drop⟩, fun j hj k hk => ?_⟩
  · obtain ⟨n, hn⟩ := List.mem_iff_getElem?.mp hj
    rw [List.getElem?_drop] at hn
    have hle := hsplits.back _ j (Nat.le_add_right _ n) hn
    have hne := mt Key.rank_inj.mp (hnew j (List.mem_of_mem_drop hj))
    exact Key.before_iff.mpr (by omega)
  · obtain ⟨n, hlt, hn⟩ := List.mem_take_iff_getElem.mp hj
    have hfront := hsplits.front n j (by omega) (by rw [← hn]; exact List.getElem?_eq_getElem _)
    rcases List.mem_cons.mp hk with rfl | hk
    · exact Key.before_iff.mpr hfront
    · obtain ⟨m, hm⟩ := List.mem_iff_getElem?.mp hk
      rw [List.getElem?_drop] at hm
      have hback := hsplits.back _ k (Nat.le_add_right _ m) hm
      exact Key.before_iff.mpr (by omega)

theorem find?_insert (hsorted : t.Sorted) (hnew : ∀ j ∈ t, j.key ≠ i.key) (key : Key) :
    (t.insert i).find? key = if key = i.key then some i else t.find? key := by
  ext j
  rw [find?_eq_some_iff (hsorted.insert hnew), mem_insert_iff hsorted]
  split_ifs with hkey
  · constructor
    · rintro ⟨rfl | hj, hjkey⟩
      · rfl
      · exact absurd (hjkey.trans hkey) (hnew j hj)
    · rintro ⟨⟩
      exact ⟨.inl rfl, hkey.symm⟩
  · rw [find?_eq_some_iff hsorted]
    constructor
    · rintro ⟨rfl | hj, hjkey⟩
      · exact absurd hjkey.symm hkey
      · exact ⟨hj, hjkey⟩
    · rintro ⟨hj, hjkey⟩
      exact ⟨.inr hj, hjkey⟩

/-! ## Replacing -/

theorem mem_set_iff (hsorted : t.Sorted) (hi : t[n]? = some i) (hkey : j.key = i.key)
    {k : Instance} : k ∈ t.set n j ↔ k = j ∨ (k ∈ t ∧ k.key ≠ j.key) := by
  obtain ⟨hn, rfl⟩ := List.getElem?_eq_some_iff.mp hi
  constructor
  · intro hk
    obtain ⟨m, hm⟩ := List.mem_iff_getElem?.mp hk
    rw [List.getElem?_set] at hm
    split_ifs at hm with hnm
    · exact .inl (Option.some.inj hm).symm
    · refine .inr ⟨List.mem_of_getElem? hm, fun heq => hnm ?_⟩
      exact hsorted.position_inj hi hm (hkey.symm.trans heq.symm)
  · rintro (rfl | ⟨hk, hne⟩)
    · exact List.mem_set hn k
    · obtain ⟨m, hm⟩ := List.mem_iff_getElem?.mp hk
      have hnm : n ≠ m := by
        rintro rfl
        rw [hi, Option.some.injEq] at hm
        exact hne (hm ▸ hkey.symm)
      exact List.mem_of_getElem? (by rw [List.getElem?_set_ne hnm, hm])

/-- Replacing an instance by one with its key keeps the order. -/
theorem Sorted.set (hsorted : t.Sorted) (hi : t[n]? = some i) (hkey : j.key = i.key) :
    Sorted (t.set n j) := by
  have key_set : ∀ (m : ℕ) (k : Instance), (t.set n j)[m]? = some k →
      ∃ k' : Instance, t[m]? = some k' ∧ k'.key = k.key := by
    intro m k hk
    rw [List.getElem?_set] at hk
    split_ifs at hk with hnm
    · obtain rfl := Option.some.inj hk
      exact ⟨i, hnm ▸ hi, hkey.symm⟩
    · exact ⟨k, hk, rfl⟩
  rw [Sorted, List.pairwise_iff_getElem]
  intro a b ha hb hab
  obtain ⟨x, hx, hxkey⟩ := key_set a _ (List.getElem?_eq_getElem ha)
  obtain ⟨y, hy, hykey⟩ := key_set b _ (List.getElem?_eq_getElem hb)
  rw [← hxkey, ← hykey]
  exact Key.before_iff.mpr (hsorted.rank_lt hx hy hab)

theorem find?_set (hsorted : t.Sorted) (hi : t[n]? = some i) (j : Instance)
    (hkey : j.key = i.key) (key : Key) :
    find? (t.set n j) key = if key = j.key then some j else t.find? key := by
  ext k
  rw [find?_eq_some_iff (hsorted.set hi hkey), mem_set_iff hsorted hi hkey]
  split_ifs with hjkey
  · constructor
    · rintro ⟨rfl | ⟨-, hne⟩, hkkey⟩
      · rfl
      · exact absurd (hkkey.trans hjkey) hne
    · rintro ⟨⟩
      exact ⟨.inl rfl, hjkey.symm⟩
  · rw [find?_eq_some_iff hsorted]
    constructor
    · rintro ⟨rfl | ⟨hk, -⟩, hkkey⟩
      · exact absurd hkkey.symm hjkey
      · exact ⟨hk, hkkey⟩
    · rintro ⟨hk, hkkey⟩
      exact ⟨.inr ⟨hk, fun h => hjkey (hkkey.symm.trans h)⟩, hkkey⟩

end InstanceTable

end LightingBus
