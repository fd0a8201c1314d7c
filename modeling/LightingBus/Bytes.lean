/-!
# Bytes in network order

Runs of bytes, the big endian words inside them, their 16 bit sum and the replacement of a region.
Each word has a writer and a reader, and the two undo each other.
-/

namespace LightingBus

/-- A run of bytes, first byte first. -/
abbrev Bytes := List UInt8

namespace Bytes

/-! ## Words -/

/-- The two bytes of a word, high byte first. -/
def ofWord (w : UInt16) : Bytes :=
  [UInt8.ofNat (w.toNat / 256), UInt8.ofNat w.toNat]

/-- The word whose high byte is the first argument. -/
def word (high low : UInt8) : UInt16 :=
  UInt16.ofNat (high.toNat * 256 + low.toNat)

/-- The four bytes of a double word, highest byte first. -/
def ofDword (d : UInt32) : Bytes :=
  [UInt8.ofNat (d.toNat / 16777216), UInt8.ofNat (d.toNat / 65536),
    UInt8.ofNat (d.toNat / 256), UInt8.ofNat d.toNat]

/-- The double word whose bytes are the arguments, highest byte first. -/
def dword (a b c d : UInt8) : UInt32 :=
  UInt32.ofNat (((a.toNat * 256 + b.toNat) * 256 + c.toNat) * 256 + d.toNat)

@[simp] theorem length_ofWord (w : UInt16) : (ofWord w).length = 2 := rfl

@[simp] theorem length_ofDword (d : UInt32) : (ofDword d).length = 4 := rfl

@[simp] theorem word_ofWord (w : UInt16) :
    word (UInt8.ofNat (w.toNat / 256)) w.toUInt8 = w := by
  apply UInt16.toNat_inj.mp
  have := w.toNat_lt
  simp [word]
  omega

theorem ofWord_inj {a b : UInt16} : ofWord a = ofWord b ↔ a = b := by
  refine ⟨fun h => ?_, congrArg ofWord⟩
  simp only [ofWord, List.cons.injEq, and_true] at h
  rw [← word_ofWord a, ← word_ofWord b, h.1]
  exact congrArg (word _) h.2

@[simp] theorem ofWord_word (high low : UInt8) : ofWord (word high low) = [high, low] := by
  have hh := high.toNat_lt
  have hl := low.toNat_lt
  simp only [ofWord, word, List.cons.injEq, and_true, ← UInt8.toNat_inj, UInt8.toNat_ofNat',
    UInt16.toNat_ofNat']
  omega

@[simp] theorem dword_ofDword (d : UInt32) :
    dword (UInt8.ofNat (d.toNat / 16777216)) (UInt8.ofNat (d.toNat / 65536))
      (UInt8.ofNat (d.toNat / 256)) d.toUInt8 = d := by
  apply UInt32.toNat_inj.mp
  have := d.toNat_lt
  simp [dword]
  omega

@[simp] theorem ofDword_dword (a b c d : UInt8) : ofDword (dword a b c d) = [a, b, c, d] := by
  have ha := a.toNat_lt
  have hb := b.toNat_lt
  have hc := c.toNat_lt
  have hd := d.toNat_lt
  simp only [ofDword, dword, List.cons.injEq, and_true, ← UInt8.toNat_inj, UInt8.toNat_ofNat',
    UInt32.toNat_ofNat']
  omega

/-! ## Sums -/

/-- The sum of all bytes modulo 65536. -/
def checksum (bytes : Bytes) : UInt16 :=
  bytes.foldl (fun sum byte => sum + byte.toUInt16) 0

/-! ## Regions -/

/-- Replaces the bytes of `target` from `offset` on by `source`; what lies around stays. -/
def overwrite (offset : Nat) (source target : Bytes) : Bytes :=
  target.take offset ++ source ++ target.drop (offset + source.length)

theorem length_overwrite {offset : Nat} {source target : Bytes}
    (h : offset + source.length ≤ target.length) :
    (overwrite offset source target).length = target.length := by
  simp only [overwrite, List.length_append, List.length_take, List.length_drop]
  omega

/-- Replaces the bytes of `target` from `offset` on by several runs, one behind the other. -/
def overwriteAll (offset : Nat) : List Bytes → Bytes → Bytes
  | [], target => target
  | source :: sources, target =>
    overwriteAll (offset + source.length) sources (overwrite offset source target)

/-- Replacing two neighbouring regions is replacing one. -/
theorem overwrite_overwrite {offset : Nat} {first second target : Bytes}
    (h : offset ≤ target.length) :
    overwrite (offset + first.length) second (overwrite offset first target) =
      overwrite offset (first ++ second) target := by
  have hfront : (target.take offset ++ first).length = offset + first.length := by
    rw [List.length_append, List.length_take]
    omega
  unfold overwrite
  rw [List.take_left' hfront, ← List.drop_drop, List.drop_left' hfront, List.drop_drop,
    List.length_append, List.append_assoc (target.take offset), Nat.add_assoc]

/-- Replacing region after region is replacing all of them at once. -/
theorem overwriteAll_eq {sources : List Bytes} : ∀ {offset : Nat} {target : Bytes},
    offset + sources.flatten.length ≤ target.length →
      overwriteAll offset sources target = overwrite offset sources.flatten target := by
  induction sources with
  | nil =>
    intro offset target _
    simp [overwriteAll, overwrite]
  | cons source sources ih =>
    intro offset target h
    rw [List.flatten_cons, List.length_append] at h
    have hlength : (overwrite offset source target).length = target.length :=
      length_overwrite (by omega)
    rw [overwriteAll, ih (by omega), overwrite_overwrite (by omega), List.flatten_cons]

/-- The `length` bytes from `offset` on, as far as there are any. -/
def slice (offset length : Nat) (bytes : Bytes) : Bytes :=
  (bytes.drop offset).take length

theorem getElem?_slice (offset length n : Nat) (bytes : Bytes) :
    (slice offset length bytes)[n]? = if n < length then bytes[offset + n]? else none := by
  rw [slice, List.getElem?_take, List.getElem?_drop]

/-- What was written is read back. -/
theorem slice_overwrite_self {offset : Nat} {source target : Bytes} (h : offset ≤ target.length) :
    slice offset source.length (overwrite offset source target) = source := by
  have hfront : (target.take offset).length = offset := by
    rw [List.length_take]
    omega
  rw [slice, overwrite, List.append_assoc, List.drop_left' hfront, List.take_left' rfl]

/-- A region apart from the one that was written keeps its bytes. -/
theorem slice_overwrite_of_apart {offset length start : Nat} {source target : Bytes}
    (hstart : start + source.length ≤ target.length)
    (h : offset + length ≤ start ∨ start + source.length ≤ offset) :
    slice offset length (overwrite start source target) = slice offset length target := by
  apply List.ext_getElem?
  intro n
  rw [getElem?_slice, getElem?_slice]
  split
  next hn =>
    simp only [overwrite, List.append_assoc, List.getElem?_append, List.length_take,
      List.getElem?_take, List.getElem?_drop]
    rcases h with h | h
    · rw [if_pos (by omega), if_pos (by omega)]
    · rw [if_neg (by omega), if_neg (by omega)]
      congr 1
      omega
  next => rfl

/-- More bytes behind a region do not change it. -/
theorem slice_append {offset length : Nat} {bytes : Bytes} (h : offset + length ≤ bytes.length)
    (more : Bytes) : slice offset length (bytes ++ more) = slice offset length bytes := by
  apply List.ext_getElem?
  intro n
  rw [getElem?_slice, getElem?_slice]
  split
  next hn => rw [List.getElem?_append_left (by omega)]
  next => rfl

/-- The bytes in front of the first zero byte. -/
def untilZero (bytes : Bytes) : Bytes :=
  bytes.takeWhile (· ≠ 0)

end Bytes

end LightingBus
