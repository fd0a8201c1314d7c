import LightingBus.Proofs.Format.Records

/-!
# Packing and unpacking

Packing appends the bytes of records, unpacking reads records, and the two undo each other
(`pack_unpack_inverse`).

1. Writing in place is followed by its result and by what it leaves in front (`Ends`, `Extends`).
   One record is written exactly if its bytes fit (`ends_packRecord_iff`).
2. A written format leaves open how many records there are only if all its fields have a fixed size
   and one of them takes a value (`Proper`). So records can be told from each other both by their
   bytes and by their values, and both directions count the same number of them
   (`ends_packAll_iff`, `unpack_of_spells`, `spells_of_unpack`).
-/

namespace LightingBus

namespace ParameterData

variable {data out : ParameterData} {front back more : Bytes}

theorem eq_of_bytes (h : out.bytes = data.bytes) : out = data := by
  cases out
  cases data
  congr 1

/-- What was appended is taken back. -/
theorem truncate_length (h : data.bytes <+: out.bytes) :
    out.truncate data.bytes.length = data := by
  obtain ⟨more, hmore⟩ := h
  apply eq_of_bytes
  change out.bytes.take data.bytes.length = data.bytes
  rw [← hmore, List.take_left' rfl]

theorem append?_eq_some_iff : data.append? more = some out ↔ out.bytes = data.bytes ++ more := by
  constructor
  · exact bytes_of_ofBytes?
  · intro hbytes
    rw [append?, ← hbytes, ofBytes?_bytes]

/-- Where all bytes fit, the first of them do. -/
theorem exists_between (h : out.bytes = data.bytes ++ (front ++ back)) :
    ∃ mid : ParameterData, mid.bytes = data.bytes ++ front ∧ out.bytes = mid.bytes ++ back := by
  have hout := out.length_le
  rw [h, ← List.append_assoc, List.length_append] at hout
  exact ⟨⟨data.bytes ++ front, by omega⟩, rfl, by rw [h, List.append_assoc]⟩

end ParameterData

namespace Format

variable {text : String} {format : Format} {field : Field} {fields : List Field} {value : Value}
  {values rest : List Value} {data out : ParameterData} {bytes : Bytes} {n : ℕ}

/-! ## Writing in place -/

section Writing

variable {α β : Type} {x : Writing α} {f : α → Writing β}

/-- Writing succeeds with a result, and the data becomes `out`. -/
def Ends (x : Writing α) (data : ParameterData) (result : α) (out : ParameterData) : Prop :=
  Id.run (x.run.run data) = (.ok result, out)

/-- Whether it succeeds or fails, writing leaves what was there in front. -/
def Extends (x : Writing α) : Prop :=
  ∀ data : ParameterData, data.bytes <+: (Id.run (x.run.run data)).2.bytes

theorem run_bind (x : Writing α) (f : α → Writing β) (data : ParameterData) :
    Id.run ((x >>= f).run.run data) = match Id.run (x.run.run data) with
      | (.ok value, mid) => Id.run ((f value).run.run mid)
      | (.error e, mid) => (.error e, mid) := by
  change Id.run (ExceptT.bindCont f (Id.run (x.run.run data)).1 (Id.run (x.run.run data)).2) = _
  split
  next h => rw [h]; rfl
  next h => rw [h]; rfl

theorem ends_bind_iff {result : β} : Ends (x >>= f) data result out ↔
    ∃ value mid, Ends x data value mid ∧ Ends (f value) mid result out := by
  unfold Ends
  rw [run_bind]
  split
  next value mid h => simp [h]
  next e mid h => simp [h]

theorem ends_pure_iff {a b : α} : Ends (pure a) data b out ↔ a = b ∧ data = out := by
  change ((Except.ok a : Except Error α), data) = _ ↔ _
  simp

theorem not_ends_throw {e : Error} {result : α} : ¬ Ends (throw e) data result out := by
  change ¬ ((Except.error e : Except Error α), data) = _
  simp

theorem ends_lift_iff {e : Except Error α} {result : α} :
    Ends (liftM e : Writing α) data result out ↔ e = .ok result ∧ data = out := by
  change (e, data) = _ ↔ _
  simp

theorem run_append (bytes : Bytes) (data : ParameterData) :
    Id.run ((append bytes).run.run data) = match data.append? bytes with
      | none => (.error .bufferFull, data)
      | some out => (.ok (), out) := by
  change Id.run (StateT.run (ExceptT.run (match data.append? bytes with
    | none => throw Error.bufferFull
    | some out => set out)) data) = _
  cases data.append? bytes <;> rfl

theorem ends_append_iff {result : Unit} :
    Ends (append bytes) data result out ↔ out.bytes = data.bytes ++ bytes := by
  unfold Ends
  rw [run_append, ← ParameterData.append?_eq_some_iff]
  cases data.append? bytes <;> simp

theorem ends_appendEach_iff {result : Unit} :
    Ends (appendEach bytes) data result out ↔ out.bytes = data.bytes ++ bytes := by
  induction bytes generalizing data with
  | nil =>
    rw [appendEach, ends_pure_iff, List.append_nil]
    constructor
    · rintro ⟨-, rfl⟩
      rfl
    · intro hbytes
      exact ⟨rfl, (ParameterData.eq_of_bytes hbytes).symm⟩
  | cons byte bytes ih =>
    rw [appendEach, ends_bind_iff]
    simp only [ends_append_iff, ih]
    constructor
    · rintro ⟨-, mid, hmid, hout⟩
      rw [hout, hmid, List.append_assoc]
      rfl
    · intro hout
      have hsplit : out.bytes = data.bytes ++ ([byte] ++ bytes) := hout
      exact ⟨(), ParameterData.exists_between hsplit⟩

/-- One record is written exactly if its bytes fit. -/
theorem ends_packRecord_iff : Ends (packRecord fields values) data rest out ↔
    ∃ front bytes, values = front ++ rest ∧ Record fields front bytes ∧
      out.bytes = data.bytes ++ bytes := by
  fun_induction packRecord fields values generalizing data with
  | case1 values =>
    rw [ends_pure_iff]
    constructor
    · rintro ⟨rfl, rfl⟩
      exact ⟨[], [], rfl, .nil, (List.append_nil _).symm⟩
    · rintro ⟨front, bytes, rfl, hrecord, hout⟩
      obtain ⟨rfl, rfl⟩ := record_nil_iff.mp hrecord
      rw [List.append_nil] at hout
      exact ⟨rfl, (ParameterData.eq_of_bytes hout).symm⟩
  | case2 digits fields values ih =>
    simp only [ends_bind_iff, ends_appendEach_iff, ih]
    constructor
    · rintro ⟨-, mid, hmid, front, bytes, rfl, hrecord, hout⟩
      exact ⟨front, _, rfl, .literal hrecord, by rw [hout, hmid, List.append_assoc]⟩
    · rintro ⟨front, bytes, rfl, hrecord, hout⟩
      cases hrecord with
      | literal hrecord =>
        obtain ⟨mid, hmid, hout⟩ := ParameterData.exists_between hout
        exact ⟨(), mid, hmid, front, _, rfl, hrecord, hout⟩
      | value hpack => cases hpack
  | case3 field fields hfield =>
    constructor
    · intro h
      exact absurd h not_ends_throw
    · rintro ⟨front, bytes, hvalues, hrecord, -⟩
      obtain ⟨rfl, -⟩ := List.append_eq_nil_iff.mp hvalues.symm
      cases hrecord with
      | literal => exact absurd rfl (hfield _)
  | case4 field fields value values hfield ih =>
    simp only [ends_bind_iff, ends_lift_iff, ends_append_iff, ih]
    constructor
    · rintro ⟨bytes, mid, ⟨hpack, rfl⟩, -, mid, hmid, front, more, rfl, hrecord, hout⟩
      exact ⟨value :: front, _, rfl, .value hpack hrecord, by rw [hout, hmid, List.append_assoc]⟩
    · rintro ⟨front, bytes, hvalues, hrecord, hout⟩
      cases hrecord with
      | literal => exact absurd rfl (hfield _)
      | value hpack hrecord =>
        obtain ⟨rfl, rfl⟩ := List.cons_eq_cons.mp hvalues
        obtain ⟨mid, hmid, hout⟩ := ParameterData.exists_between hout
        exact ⟨_, data, ⟨hpack, rfl⟩, (), mid, hmid, _, _, rfl, hrecord, hout⟩

/-! ### What was there stays in front -/

theorem Extends.bind (hx : Extends x) (hf : ∀ value, Extends (f value)) : Extends (x >>= f) := by
  intro data
  rw [run_bind]
  have hfirst := hx data
  split
  next value mid h =>
    rw [h] at hfirst
    exact hfirst.trans (hf value mid)
  next e mid h =>
    rw [h] at hfirst
    exact hfirst

theorem extends_pure (a : α) : Extends (pure a) :=
  fun data => List.prefix_refl data.bytes

theorem extends_throw (e : Error) : Extends (throw e : Writing α) :=
  fun data => List.prefix_refl data.bytes

theorem extends_lift (e : Except Error α) : Extends (liftM e : Writing α) :=
  fun data => List.prefix_refl data.bytes

theorem extends_append (bytes : Bytes) : Extends (append bytes) := by
  intro data
  rw [run_append]
  cases happend : data.append? bytes with
  | none => exact List.prefix_refl data.bytes
  | some out => exact ⟨bytes, (ParameterData.append?_eq_some_iff.mp happend).symm⟩

theorem extends_appendEach (bytes : Bytes) : Extends (appendEach bytes) := by
  induction bytes with
  | nil => exact extends_pure ()
  | cons byte bytes ih => exact (extends_append [byte]).bind fun _ => ih

theorem extends_packRecord (fields : List Field) (values : List Value) :
    Extends (packRecord fields values) := by
  fun_induction packRecord fields values with
  | case1 values => exact extends_pure values
  | case2 digits fields values ih => exact (extends_appendEach _).bind fun _ => ih
  | case3 => exact extends_throw _
  | case4 field fields value values hfield ih =>
    exact (extends_lift _).bind fun bytes => (extends_append bytes).bind fun _ => ih

theorem extends_packRecords (fields : List Field) (values : List Value) :
    Extends (packRecords fields values) := by
  fun_induction packRecords fields values with
  | case1 values ih =>
    apply (extends_packRecord fields values).bind
    intro rest
    split_ifs with hempty hshort
    · exact extends_pure ()
    · exact ih rest hshort
    · exact extends_throw _

theorem extends_packAll (format : Format) (values : List Value) :
    Extends (format.packAll values) := by
  unfold packAll
  split_ifs with hsingleton
  · apply (extends_packRecord format.fields values).bind
    intro rest
    split_ifs
    · exact extends_pure ()
    · exact extends_throw _
  · exact extends_pure ()
  · exact extends_packRecords format.fields values

end Writing

/-! ## Written formats -/

/-- What holds of a written format: only its last field may be of variable length, and if its
records repeat, all fields have a fixed size and some field takes a value. -/
structure Proper (format : Format) : Prop where
  last : variableOnlyLast format.fields = true
  fixed : format.singleton = false → ∀ field ∈ format.fields, field.isVariable = false
  takes : format.singleton = false → ∃ field ∈ format.fields, field.takesValue = true

theorem fixed_of_last (hlast : variableOnlyLast fields = true)
    (hend : fields.getLast?.any Field.isVariable = false) :
    ∀ field ∈ fields, field.isVariable = false := by
  induction fields with
  | nil => exact fun _ hfield => absurd hfield List.not_mem_nil
  | cons field fields ih =>
    obtain ⟨hfield, hlast⟩ := variableOnlyLast_cons.mp hlast
    by_cases hne : fields = []
    · subst hne
      simpa using hend
    · rw [List.getLast?_cons_of_ne_nil hne] at hend
      exact List.forall_mem_cons.mpr ⟨hfield hne, ih hlast hend⟩

theorem proper_of_parse (hparse : parse text = .ok format) : Proper format := by
  unfold parse at hparse
  split at hparse
  · cases hparse
  next fields marked hread =>
    dsimp only at hparse
    split_ifs at hparse with hchecks
    cases hparse
    obtain ⟨hlast, -, -⟩ := hchecks
    have hrepeats : isSingleton fields marked = false →
        fields.getLast?.any Field.isVariable = false ∧ fields.any Field.takesValue = true := by
      intro hsingleton
      simp only [isSingleton, Bool.or_eq_false_iff, Bool.not_eq_false'] at hsingleton
      exact ⟨hsingleton.1.2, hsingleton.2⟩
    exact ⟨hlast, fun hsingleton => fixed_of_last hlast (hrepeats hsingleton).1,
      fun hsingleton => List.any_eq_true.mp (hrepeats hsingleton).2⟩

/-- The bytes stand for the values: they are the records of the format, one after the other. -/
def Spells (format : Format) (values : List Value) (bytes : Bytes) : Prop :=
  ∃ n, (format.singleton = true → n = 1) ∧
    Record (List.replicate n format.fields).flatten values bytes

theorem flatten_replicate_succ (n : ℕ) (fields : List Field) :
    (List.replicate (n + 1) fields).flatten = fields ++ (List.replicate n fields).flatten := by
  rw [List.replicate_succ, List.flatten_cons]

theorem mem_of_mem_flatten (h : field ∈ (List.replicate n fields).flatten) : field ∈ fields := by
  obtain ⟨copy, hcopy, hfield⟩ := List.mem_flatten.mp h
  rwa [← List.eq_of_mem_replicate hcopy]

/-- Where each record takes values, none stand for no records, and so do no bytes where each record
has a fixed size. -/
theorem Record.eq_nil_iff (h : Record (List.replicate n fields).flatten values bytes)
    (htakes : ∃ field ∈ fields, field.takesValue = true) :
    (values = [] ↔ n = 0) ∧
      ((∀ field ∈ fields, field.isVariable = false) → (bytes = [] ↔ n = 0)) := by
  cases n with
  | zero =>
    obtain ⟨hvalues, hbytes⟩ := record_nil_iff.mp h
    exact ⟨iff_of_true hvalues rfl, fun _ => iff_of_true hbytes rfl⟩
  | succ n =>
    have hflatten : ∃ field ∈ (List.replicate (n + 1) fields).flatten,
        field.takesValue = true := by
      obtain ⟨field, hfield, hvalue⟩ := htakes
      rw [flatten_replicate_succ]
      exact ⟨field, List.mem_append_left _ hfield, hvalue⟩
    obtain ⟨hvalues, hbytes⟩ := h.ne_nil hflatten
    refine ⟨iff_of_false hvalues n.succ_ne_zero, fun hfixed => ?_⟩
    refine iff_of_false (hbytes fun field hfield => ?_) n.succ_ne_zero
    exact hfixed field (mem_of_mem_flatten hfield)

/-! ### Writing records -/

/-- Records are written until the values are used up. Each of them takes a value, so the number of
records is told by the values. -/
theorem ends_packRecords_iff (htakes : ∃ field ∈ fields, field.takesValue = true)
    {result : Unit} : Ends (packRecords fields values) data result out ↔
      ∃ n bytes, Record (List.replicate (n + 1) fields).flatten values bytes ∧
        out.bytes = data.bytes ++ bytes := by
  constructor
  · intro h
    induction hlength : values.length using Nat.strong_induction_on generalizing values data with
    | _ length ih =>
      rw [packRecords, ends_bind_iff] at h
      obtain ⟨rest, mid, hfirst, hrest⟩ := h
      obtain ⟨front, bytes, rfl, hrecord, hmid⟩ := ends_packRecord_iff.mp hfirst
      split_ifs at hrest with hempty hshort
      · obtain ⟨-, rfl⟩ := ends_pure_iff.mp hrest
        obtain rfl := List.isEmpty_iff.mp hempty
        refine ⟨0, bytes, ?_, hmid⟩
        simpa using hrecord
      · obtain ⟨n, more, hmore, hout⟩ := ih _ (hlength ▸ hshort) hrest rfl
        refine ⟨n + 1, bytes ++ more, ?_, ?_⟩
        · rw [flatten_replicate_succ]
          exact hrecord.append hmore
        · rw [hout, hmid, List.append_assoc]
      · exact absurd hrest not_ends_throw
  · rintro ⟨n, bytes, hrecord, hout⟩
    induction n generalizing values data bytes with
    | zero =>
      rw [flatten_replicate_succ, List.replicate_zero, List.flatten_nil, List.append_nil] at hrecord
      rw [packRecords, ends_bind_iff]
      refine ⟨[], out, ends_packRecord_iff.mpr ⟨values, bytes, ?_, hrecord, hout⟩, ?_⟩
      · exact (List.append_nil _).symm
      · exact ends_pure_iff.mpr ⟨rfl, rfl⟩
    | succ n ih =>
      rw [flatten_replicate_succ] at hrecord
      obtain ⟨front, back, first, second, rfl, rfl, hfirst, hsecond⟩ := hrecord.split
      obtain ⟨mid, hmid, hout⟩ := ParameterData.exists_between hout
      have hfront : front ≠ [] := (hfirst.ne_nil htakes).1
      have hback : back ≠ [] :=
        mt (hsecond.eq_nil_iff htakes).1.mp n.succ_ne_zero
      have hshort : back.length < (front ++ back).length := by
        rw [List.length_append]
        have := List.length_pos_iff.mpr hfront
        omega
      rw [packRecords, ends_bind_iff]
      refine ⟨back, mid, ends_packRecord_iff.mpr ⟨front, first, rfl, hfirst, hmid⟩, ?_⟩
      rw [if_neg (by simpa using hback), if_pos hshort]
      exact ih second hsecond hout

/-- Values are written exactly if the bytes that stand for them fit. -/
theorem Proper.ends_packAll_iff (h : Proper format) {result : Unit} :
    Ends (format.packAll values) data result out ↔
      ∃ bytes, Spells format values bytes ∧ out.bytes = data.bytes ++ bytes := by
  rw [packAll]
  by_cases hsingleton : format.singleton = true
  · rw [if_pos hsingleton, ends_bind_iff]
    constructor
    · rintro ⟨rest, mid, hfirst, hrest⟩
      obtain ⟨front, bytes, rfl, hrecord, hmid⟩ := ends_packRecord_iff.mp hfirst
      split_ifs at hrest with hempty
      · obtain ⟨-, rfl⟩ := ends_pure_iff.mp hrest
        obtain rfl := List.isEmpty_iff.mp hempty
        refine ⟨bytes, ⟨1, fun _ => rfl, ?_⟩, hmid⟩
        simpa using hrecord
      · exact absurd hrest not_ends_throw
    · rintro ⟨bytes, ⟨n, hn, hrecord⟩, hout⟩
      obtain rfl := hn hsingleton
      rw [List.replicate_one, List.flatten_singleton] at hrecord
      refine ⟨[], out, ends_packRecord_iff.mpr ⟨values, bytes, ?_, hrecord, hout⟩, ?_⟩
      · exact (List.append_nil _).symm
      · exact ends_pure_iff.mpr ⟨rfl, rfl⟩
  · rw [if_neg hsingleton]
    rw [Bool.not_eq_true] at hsingleton
    have htakes := h.takes hsingleton
    split_ifs with hempty
    · obtain rfl := List.isEmpty_iff.mp hempty
      rw [ends_pure_iff]
      constructor
      · rintro ⟨-, rfl⟩
        refine ⟨[], ⟨0, ?_, .nil⟩, (List.append_nil _).symm⟩
        simp [hsingleton]
      · rintro ⟨bytes, ⟨n, -, hrecord⟩, hout⟩
        obtain rfl := (hrecord.eq_nil_iff htakes).1.mp rfl
        obtain ⟨-, rfl⟩ := record_nil_iff.mp hrecord
        rw [List.append_nil] at hout
        exact ⟨rfl, (ParameterData.eq_of_bytes hout).symm⟩
    · rw [ends_packRecords_iff htakes]
      constructor
      · rintro ⟨n, bytes, hrecord, hout⟩
        refine ⟨bytes, ⟨n + 1, ?_, hrecord⟩, hout⟩
        simp [hsingleton]
      · rintro ⟨bytes, ⟨n, -, hrecord⟩, hout⟩
        have hne : n ≠ 0 := by
          rw [List.isEmpty_iff] at hempty
          exact mt (hrecord.eq_nil_iff htakes).1.mpr hempty
        obtain ⟨n, rfl⟩ := Nat.exists_eq_succ_of_ne_zero hne
        exact ⟨n, bytes, hrecord, hout⟩

/-! ### Reading records -/

/-- Records are counted until the bytes are used up. Each of them has bytes, so the number of
records is told by the bytes. -/
theorem countRecords_of_record (hfixed : ∀ field ∈ fields, field.isVariable = false)
    (htakes : ∃ field ∈ fields, field.takesValue = true)
    (hvalues : ∀ value ∈ values, value.IsReadable)
    (h : Record (List.replicate (n + 1) fields).flatten values bytes) :
    countRecords fields bytes = .ok (n + 1) := by
  have hlast := variableOnlyLast_of_forall hfixed
  induction n generalizing values bytes with
  | zero =>
    rw [flatten_replicate_succ, List.replicate_zero, List.flatten_nil, List.append_nil] at h
    obtain ⟨hskip, -⟩ := h.read hlast hvalues fun _ => hfixed
    rw [List.append_nil] at hskip
    rw [countRecords, hskip]
    rfl
  | succ n ih =>
    rw [flatten_replicate_succ] at h
    obtain ⟨front, back, first, second, rfl, rfl, hfirst, hsecond⟩ := h.split
    obtain ⟨hfront, hback⟩ := List.forall_mem_append.mp hvalues
    obtain ⟨hskip, -⟩ := hfirst.read hlast hfront fun _ => hfixed
    have hmore : second ≠ [] := mt ((hsecond.eq_nil_iff htakes).2 hfixed).mp n.succ_ne_zero
    have hshort : second.length < (first ++ second).length := by
      have := List.length_pos_iff.mpr ((hfirst.ne_nil htakes).2 hfixed)
      rw [List.length_append]
      omega
    rw [countRecords, hskip]
    dsimp only
    rw [if_neg (by simpa using hmore), if_pos hshort, ih hback hsecond]
    rfl

theorem skipRecord_of_countRecords (h : countRecords fields bytes = .ok n) :
    n ≠ 0 ∧ skipRecord (List.replicate n fields).flatten bytes = .ok [] := by
  fun_induction countRecords fields bytes generalizing n with
  | case1 => cases h
  | case2 bytes rest hskip hempty =>
    cases h
    rw [List.replicate_one, List.flatten_singleton, hskip, List.isEmpty_iff.mp hempty]
    exact ⟨one_ne_zero, rfl⟩
  | case3 bytes rest hskip hempty hshort ih =>
    cases hcount : countRecords fields rest with
    | error e =>
      rw [hcount] at h
      cases h
    | ok m =>
      rw [hcount] at h
      cases h
      rw [flatten_replicate_succ, skipRecord_append, hskip]
      exact ⟨m.succ_ne_zero, (ih hcount).2⟩
  | case4 => cases h

/-- No field but the last of all records has variable length. -/
theorem Proper.last_flatten (h : Proper format) (hn : format.singleton = true → n ≤ 1) :
    variableOnlyLast (List.replicate n format.fields).flatten = true := by
  by_cases hsingleton : format.singleton = true
  · obtain rfl | rfl := Nat.le_one_iff_eq_zero_or_eq_one.mp (hn hsingleton)
    · rfl
    · rw [List.replicate_one, List.flatten_singleton]
      exact h.last
  · apply variableOnlyLast_of_forall
    intro field hfield
    exact h.fixed (by simpa using hsingleton) field (mem_of_mem_flatten hfield)

/-- Bytes that stand for values pass the check, which counts their records. -/
theorem Proper.validate_of_spells (h : Proper format) (hspells : Spells format values bytes)
    (hvalues : ∀ value ∈ values, value.IsReadable) :
    ∃ n, format.validate bytes = .ok n ∧ (format.singleton = true → n ≤ 1) ∧
      Record (List.replicate n format.fields).flatten values bytes := by
  obtain ⟨n, hn, hrecord⟩ := hspells
  rw [validate]
  by_cases hsingleton : format.singleton = true
  · obtain rfl := hn hsingleton
    rw [List.replicate_one, List.flatten_singleton] at hrecord
    by_cases hfields : format.fields = []
    · rw [hfields] at hrecord ⊢
      obtain ⟨rfl, rfl⟩ := record_nil_iff.mp hrecord
      exact ⟨0, by simp, fun _ => Nat.zero_le 1, .nil⟩
    · obtain ⟨hskip, -⟩ := hrecord.read h.last hvalues fun hne => absurd rfl hne
      rw [List.append_nil] at hskip
      rw [if_neg (by simp [hfields, hsingleton]), if_pos hsingleton, hskip]
      refine ⟨1, rfl, fun _ => le_rfl, ?_⟩
      rwa [List.replicate_one, List.flatten_singleton]
  · rw [Bool.not_eq_true] at hsingleton
    have hfixed := h.fixed hsingleton
    have htakes := h.takes hsingleton
    cases n with
    | zero =>
      obtain ⟨rfl, rfl⟩ := record_nil_iff.mp hrecord
      exact ⟨0, by simp [hsingleton], fun _ => Nat.zero_le 1, .nil⟩
    | succ n =>
      have hfields : format.fields ≠ [] := by
        obtain ⟨field, hfield, -⟩ := htakes
        exact List.ne_nil_of_mem hfield
      have hbytes : bytes ≠ [] := mt ((hrecord.eq_nil_iff htakes).2 hfixed).mp n.succ_ne_zero
      refine ⟨n + 1, ?_, by simp [hsingleton], hrecord⟩
      rw [if_neg (by simp [hfields, hbytes]), if_neg (by simp [hsingleton])]
      exact countRecords_of_record hfixed htakes hvalues hrecord

/-- Bytes that stand for values are read as these values. -/
theorem Proper.unpack_of_spells (h : Proper format) (hspells : Spells format values bytes)
    (hvalues : ∀ value ∈ values, value.IsReadable) : format.unpack bytes = .ok values := by
  obtain ⟨n, hvalidate, hn, hrecord⟩ := h.validate_of_spells hspells hvalues
  obtain ⟨-, hread⟩ := hrecord.read (h.last_flatten hn) hvalues fun hne => absurd rfl hne
  rw [List.append_nil] at hread
  rw [unpack, hvalidate]
  exact congrArg Except.ok hread

/-- The check skips as many records as it counts. -/
theorem skipRecord_of_validate (h : format.validate bytes = .ok n) :
    skipRecord (List.replicate n format.fields).flatten bytes = .ok [] ∧
      (format.singleton = true → n = 1 ∨ n = 0 ∧ format.fields = []) := by
  rw [validate] at h
  split_ifs at h with hnone hempty hsingleton
  · cases h
    rw [List.isEmpty_iff.mp hempty]
    refine ⟨rfl, fun hsingleton => .inr ⟨rfl, ?_⟩⟩
    simpa [hsingleton] using hnone
  · cases hskip : skipRecord format.fields bytes with
    | error e =>
      rw [hskip] at h
      cases h
    | ok rest =>
      rw [hskip] at h
      change (if rest.isEmpty then _ else _) = _ at h
      split_ifs at h with hrest
      cases h
      rw [List.replicate_one, List.flatten_singleton, hskip, List.isEmpty_iff.mp hrest]
      exact ⟨rfl, fun _ => .inl rfl⟩
  · obtain ⟨-, hskip⟩ := skipRecord_of_countRecords h
    exact ⟨hskip, fun hsingle => absurd hsingle hsingleton⟩

/-- Bytes that pass the check stand for the values they are read as. -/
theorem Proper.spells_of_unpack (h : Proper format) (hunpack : format.unpack bytes = .ok values)
    (hzero : Field.ascii ∈ format.fields → 0 ∉ bytes.drop format.fixedSize) :
    Spells format values bytes := by
  rw [unpack] at hunpack
  cases hvalidate : format.validate bytes with
  | error e =>
    rw [hvalidate] at hunpack
    cases hunpack
  | ok n =>
    rw [hvalidate] at hunpack
    cases hunpack
    obtain ⟨hskip, hn⟩ := skipRecord_of_validate hvalidate
    have hlast := h.last_flatten (n := n) fun hsingleton => by
      rcases hn hsingleton with rfl | ⟨rfl, -⟩ <;> decide
    -- A text has no fixed size, so a format with a text has one record.
    have hback : Field.ascii ∈ (List.replicate n format.fields).flatten →
        0 ∉ bytes.drop (leastSize (List.replicate n format.fields).flatten) := by
      intro hascii
      have hmem := mem_of_mem_flatten hascii
      have hsingleton : format.singleton = true := by
        by_contra hrepeats
        cases h.fixed (by simpa using hrepeats) _ hmem
      obtain rfl | ⟨rfl, -⟩ := hn hsingleton
      · rw [List.replicate_one, List.flatten_singleton]
        exact hzero hmem
      · cases hascii
    obtain ⟨all, hall, hrecord⟩ := record_of_skipRecord hskip hlast hback
    rw [List.append_nil] at hall
    subst hall
    by_cases hfields : format.fields = []
    · refine ⟨1, fun _ => rfl, ?_⟩
      simpa [hfields] using hrecord
    · refine ⟨n, fun hsingleton => ?_, hrecord⟩
      exact (hn hsingleton).resolve_right fun hnone => hfields hnone.2

/-! ## Both directions -/

/-- Packing succeeds if writing does, and returns the number of bytes in addition. -/
theorem packInto_eq_ok_iff : format.packInto values data = (.ok n, out) ↔
    Ends (format.packAll values) data () out ∧ out.bytes.length - data.bytes.length = n := by
  unfold packInto Ends
  cases Id.run ((format.packAll values).run.run data) with
  | mk result written =>
    cases result with
    | error e => simp
    | ok result =>
      simp only [Prod.mk.injEq, Except.ok.injEq]
      constructor
      · rintro ⟨rfl, rfl⟩
        exact ⟨⟨trivial, rfl⟩, rfl⟩
      · rintro ⟨⟨-, rfl⟩, rfl⟩
        exact ⟨rfl, rfl⟩

/-- If packing fails, all that was written is taken back. -/
theorem eq_of_packInto_eq_error {e : Error} (h : format.packInto values data = (.error e, out)) :
    out = data := by
  have hextends := extends_packAll format values data
  unfold packInto at h
  split at h
  next e written hrun =>
    rw [hrun] at hextends
    cases h
    exact ParameterData.truncate_length hextends
  next => cases h

theorem Proper.packInto_eq_ok_iff (h : Proper format) :
    format.packInto values data = (.ok n, out) ↔ ∃ bytes, Spells format values bytes ∧
      out.bytes = data.bytes ++ bytes ∧ bytes.length = n := by
  rw [Format.packInto_eq_ok_iff, h.ends_packAll_iff]
  constructor
  · rintro ⟨⟨bytes, hspells, hout⟩, hlength⟩
    refine ⟨bytes, hspells, hout, ?_⟩
    rw [← hlength, hout, List.length_append]
    omega
  · rintro ⟨bytes, hspells, hout, hlength⟩
    refine ⟨⟨bytes, hspells, hout⟩, ?_⟩
    rw [← hlength, hout, List.length_append]
    omega

/-- Packing and unpacking undo each other.

What was packed stands behind what was there, with the number of bytes that is returned, and it is
unpacked as the values that were packed. What is unpacked is packed as the data it came from. If
packing fails, the data is what it was. -/
theorem pack_unpack_inverse (hparse : parse text = .ok format) :
    (∀ values data n out, format.packInto values data = (.ok n, out) →
      ∃ bytes, out.bytes = data.bytes ++ bytes ∧ bytes.length = n ∧
        ((∀ value ∈ values, value.IsReadable) → format.unpack bytes = .ok values)) ∧
    (∀ bytes values, bytes.length ≤ maxParameterLength → format.unpack bytes = .ok values →
      (Field.ascii ∈ format.fields → 0 ∉ bytes.drop format.fixedSize) →
        ∃ out, format.packInto values .empty = (.ok bytes.length, out) ∧ out.bytes = bytes) ∧
    ∀ values data e out, format.packInto values data = (.error e, out) → out = data := by
  have hproper := proper_of_parse hparse
  refine ⟨?_, ?_, ?_⟩
  · intro values data n out hpack
    obtain ⟨bytes, hspells, hout, hlength⟩ := hproper.packInto_eq_ok_iff.mp hpack
    exact ⟨bytes, hout, hlength, hproper.unpack_of_spells hspells⟩
  · intro bytes values hfits hunpack hzero
    have hspells := hproper.spells_of_unpack hunpack hzero
    exact ⟨⟨bytes, hfits⟩, hproper.packInto_eq_ok_iff.mpr ⟨bytes, hspells, rfl, rfl⟩, rfl⟩
  · intro values data e out hpack
    exact eq_of_packInto_eq_error hpack

/-- A version number, a word and a text. -/
def versioned : Format :=
  ⟨[.literal ['0', '1'], .word, .ascii], true⟩

/-- A word and a text become five bytes behind a byte that was there; these bytes are unpacked as
the word and the text, and packed as themselves. A text in place of the word is noticed behind the
version number, which is taken back. -/
theorem pack_unpack_inverse_versioned :
    parse "#01hwa" = .ok versioned ∧
    (∃ out, versioned.packInto [.word 0x0203, .ascii "Hi"] ⟨[7], by decide⟩ = (.ok 5, out) ∧
      out.bytes = [7, 1, 2, 3, 72, 105]) ∧
    versioned.unpack [1, 2, 3, 72, 105] = .ok [.word 0x0203, .ascii "Hi"] ∧
    (∃ out, versioned.packInto [.word 0x0203, .ascii "Hi"] .empty = (.ok 5, out) ∧
      out.bytes = [1, 2, 3, 72, 105]) ∧
    ∃ out, versioned.packInto [.ascii "Hi"] ⟨[7], by decide⟩ = (.error .typeMismatch, out) ∧
      out.bytes = [7] := by
  have hparse : parse "#01hwa" = .ok versioned := by cbv
  obtain ⟨hpack, hunpack, hfails⟩ := pack_unpack_inverse hparse
  have hreadable : ∀ value ∈ [Value.word 0x0203, .ascii "Hi"], value.IsReadable := by
    decide
  obtain ⟨bytes, hout, -, hread⟩ :=
    hpack [.word 0x0203, .ascii "Hi"] ⟨[7], by decide⟩ 5 ⟨[7, 1, 2, 3, 72, 105], by decide⟩ rfl
  obtain rfl : bytes = [1, 2, 3, 72, 105] := (List.cons.inj hout).2.symm
  have hvalues := hread hreadable
  have hunchanged := hfails [.ascii "Hi"] ⟨[7], by decide⟩ .typeMismatch _ rfl
  exact ⟨hparse, ⟨_, rfl, hout⟩, hvalues, hunpack _ _ (by decide) hvalues (fun _ => by decide),
    ⟨_, rfl, congrArg ParameterData.bytes hunchanged⟩⟩

end Format

end LightingBus
