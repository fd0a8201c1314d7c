import LightingBus.Line.Timing
import Mathlib

/-!
# Lengths in bit times

A break, and the mark behind it, can be set to a number of bits at a baud rate.
`withBits_eq_ok_iff` says when that is accepted, and when the length is the time that the bits take.

1. Bits take a quotient of microseconds, rounded up (`bitTime`). A length is a word of 32 bits, so
   what is configured is that number modulo 2³² (`ofBits_eq`).
2. The rules of a configuration look at the length after that (`check_eq_ok_iff`). So bits that take
   longer than a word can say are not refused for it: if the remainder happens to be legal, it is
   configured (`mark_wraps`).
-/

namespace LightingBus

namespace Timing

variable {bits baudRate : UInt32}

/-- How many microseconds it takes to send bits at a baud rate, rounded up. -/
def bitTime (bits baudRate : UInt32) : ℕ :=
  ⌈((bits.toNat * 1000000 : ℕ) / baudRate.toNat : ℚ)⌉₊

/-- A quotient is rounded up by adding what is just too little for one more. -/
theorem ceil_div_eq (n : ℕ) {d : ℕ} (h : 0 < d) : ⌈(n / d : ℚ)⌉₊ = (n + (d - 1)) / d := by
  have hpos : (0 : ℚ) < d := Nat.cast_pos.mpr h
  apply eq_of_forall_ge_iff
  intro m
  rw [Nat.ceil_le, div_le_iff₀ hpos, Nat.div_le_iff_le_mul_add_pred h, mul_comm d]
  norm_cast
  omega

/-- The length is the time of the bits, as far as a word can say it. -/
theorem ofBits_eq (h : 0 < baudRate.toNat) :
    ofBits bits baudRate = UInt32.ofNat (bitTime bits baudRate) := by
  rw [ofBits, bitTime, ceil_div_eq _ h, Nat.max_eq_right h]

theorem isBreak_iff {length : UInt32} : isBreak length = true ↔ 92 ≤ length.toNat := by
  simp [isBreak, minBreak, UInt32.le_iff_toNat_le]

theorem isMark_iff {length : UInt32} :
    isMark length = true ↔ 12 ≤ length.toNat ∧ length.toNat ≤ 999999 := by
  simp [isMark, minMark, maxMark, UInt32.le_iff_toNat_le]

end Timing

namespace LineConfig

open Timing (bitTime isBreak_iff isMark_iff)

variable {config out : LineConfig} {baudRate bits : UInt32}

/-! ## Configurations that are accepted -/

/-- A configuration that breaks no rule: legal rates and lengths, and timeouts that can be kept. -/
structure Legal (config : LineConfig) : Prop where
  baudRate : 245000 ≤ config.baudRate.toNat ∧ config.baudRate.toNat ≤ 255000
  breakLength : 92 ≤ config.breakLength.toNat
  markLength : 12 ≤ config.markLength.toNat ∧ config.markLength.toNat ≤ 999999
  receiveTimeout : config.receiveTimeout ≠ 0
  responseTimeout : config.responseTimeout ≠ 0
  transactionTimeout : config.responseTimeout ≤ config.transactionTimeout

theorem check_eq_ok_iff : config.check = .ok () ↔ config.Legal := by
  have hrate : ¬ (config.baudRate < Timing.minBaudRate ∨ Timing.maxBaudRate < config.baudRate) ↔
      245000 ≤ config.baudRate.toNat ∧ config.baudRate.toNat ≤ 255000 := by
    simp [Timing.minBaudRate, Timing.maxBaudRate, UInt32.le_iff_toNat_le]
  have htimeouts : ¬ (config.receiveTimeout = 0 ∨ config.responseTimeout = 0 ∨
      config.transactionTimeout < config.responseTimeout) ↔ config.receiveTimeout ≠ 0 ∧
        config.responseTimeout ≠ 0 ∧ config.responseTimeout ≤ config.transactionTimeout := by
    simp only [not_or, UInt32.not_lt, ne_eq]
  unfold check
  constructor
  · intro h
    split_ifs at h with hbaud hbreak hmark htimeout
    obtain ⟨hreceive, hresponse, htransaction⟩ := htimeouts.mp htimeout
    exact ⟨hrate.mp hbaud, isBreak_iff.mp hbreak, isMark_iff.mp hmark, hreceive, hresponse,
      htransaction⟩
  · intro h
    rw [if_neg (hrate.mpr h.baudRate), if_neg (not_not.mpr (isBreak_iff.mpr h.breakLength)),
      if_neg (not_not.mpr (isMark_iff.mpr h.markLength)),
      if_neg (htimeouts.mpr ⟨h.receiveTimeout, h.responseTimeout, h.transactionTimeout⟩)]

theorem checked_eq_ok_iff : config.checked = .ok out ↔ out = config ∧ out.Legal := by
  rw [checked]
  constructor
  · intro h
    cases hcheck : config.check with
    | error e =>
      rw [hcheck] at h
      cases h
    | ok u =>
      rw [hcheck] at h
      cases h
      exact ⟨rfl, check_eq_ok_iff.mp hcheck⟩
  · rintro ⟨rfl, hlegal⟩
    rw [check_eq_ok_iff.mpr hlegal]
    rfl

/-! ## Lengths that are given in bits -/

/-- Whichever length is given in bits, the configuration is accepted if it is legal with the time of
the bits, as far as a word can say it. A baud rate of zero has no such time, and is not legal. -/
theorem checked_ofBits (set : UInt32 → LineConfig)
    (hrate : ∀ length, (set length).baudRate = baudRate) :
    (set (Timing.ofBits bits baudRate)).checked = .ok out ↔
      out = set (UInt32.ofNat (bitTime bits baudRate)) ∧ out.Legal := by
  rw [checked_eq_ok_iff]
  by_cases hpos : 0 < baudRate.toNat
  · rw [Timing.ofBits_eq hpos]
  · have hillegal (length : UInt32) : ¬ (set length).Legal := by
      intro hlegal
      have := hlegal.baudRate.1
      rw [hrate] at this
      omega
    constructor
    · rintro ⟨rfl, hlegal⟩
      exact absurd hlegal (hillegal _)
    · rintro ⟨rfl, hlegal⟩
      exact absurd hlegal (hillegal _)

/-- Of a time that is legal modulo 2³², both the time is legal and the word says it, unless it is
too long for a word. -/
theorem said_iff (legal : ℕ → Prop) {time : ℕ} (h : legal (UInt32.ofNat time).toNat) :
    legal time ∧ (UInt32.ofNat time).toNat = time ↔ time < 2 ^ 32 := by
  constructor
  · rintro ⟨-, hsaid⟩
    rw [UInt32.toNat_ofNat'] at hsaid
    omega
  · intro hshort
    have hsaid : (UInt32.ofNat time).toNat = time := by
      rw [UInt32.toNat_ofNat', Nat.mod_eq_of_lt hshort]
    exact ⟨hsaid ▸ h, hsaid⟩

/-- **Lengths in bits.** The break is set to a number of bits, and so is the mark, exactly if the
configuration is legal with their time modulo 2³² in its place; all else is refused. Whenever it is
accepted, the baud rate is legal, and the configured length is the time of the bits, and a legal
time, exactly if the time is below 2³². -/
theorem withBits_eq_ok_iff (config out : LineConfig) (baudRate bits : UInt32) :
    (config.withBreakBits baudRate bits = .ok out ↔ out =
      { config with baudRate := baudRate, breakLength := UInt32.ofNat (bitTime bits baudRate) } ∧
        out.Legal) ∧
    (config.withMarkBits baudRate bits = .ok out ↔ out =
      { config with baudRate := baudRate, markLength := UInt32.ofNat (bitTime bits baudRate) } ∧
        out.Legal) ∧
    (config.withBreakBits baudRate bits = .ok out →
      (245000 ≤ baudRate.toNat ∧ baudRate.toNat ≤ 255000) ∧
      (92 ≤ bitTime bits baudRate ∧ out.breakLength.toNat = bitTime bits baudRate ↔
        bitTime bits baudRate < 2 ^ 32)) ∧
    (config.withMarkBits baudRate bits = .ok out →
      (245000 ≤ baudRate.toNat ∧ baudRate.toNat ≤ 255000) ∧
      ((12 ≤ bitTime bits baudRate ∧ bitTime bits baudRate ≤ 999999) ∧
          out.markLength.toNat = bitTime bits baudRate ↔
        bitTime bits baudRate < 2 ^ 32)) := by
  have hbreak : config.withBreakBits baudRate bits = .ok out ↔ _ := checked_ofBits
    (fun length => { config with baudRate := baudRate, breakLength := length }) fun _ => rfl
  have hmark : config.withMarkBits baudRate bits = .ok out ↔ _ := checked_ofBits
    (fun length => { config with baudRate := baudRate, markLength := length }) fun _ => rfl
  refine ⟨hbreak, hmark, ?_, ?_⟩
  · intro haccepted
    obtain ⟨rfl, hlegal⟩ := hbreak.mp haccepted
    exact ⟨hlegal.baudRate, said_iff (92 ≤ ·) hlegal.breakLength⟩
  · intro haccepted
    obtain ⟨rfl, hlegal⟩ := hmark.mp haccepted
    exact ⟨hlegal.baudRate, said_iff (fun time => 12 ≤ time ∧ time ≤ 999999)
      hlegal.markLength⟩

/-- At 245000 baud 23 bits are a break of 94 microseconds and 3 bits a mark of 13. -/
theorem withBits_eq_ok_iff_slowest :
    let broken : LineConfig := { baudRate := 245000, breakLength := 94 }
    let marked : LineConfig := { baudRate := 245000, markLength := 13 }
    ({} : LineConfig).withBreakBits 245000 23 = .ok broken ∧
    ({} : LineConfig).withMarkBits 245000 3 = .ok marked ∧
    (92 ≤ bitTime 23 245000 ∧ broken.breakLength.toNat = bitTime 23 245000 ↔
      bitTime 23 245000 < 2 ^ 32) ∧
    ((12 ≤ bitTime 3 245000 ∧ bitTime 3 245000 ≤ 999999) ∧
      marked.markLength.toNat = bitTime 3 245000 ↔ bitTime 3 245000 < 2 ^ 32) := by
  intro broken marked
  have hbroken : ({} : LineConfig).withBreakBits 245000 23 = .ok broken := rfl
  have hmarked : ({} : LineConfig).withMarkBits 245000 3 = .ok marked := rfl
  exact ⟨hbroken, hmarked, ((withBits_eq_ok_iff {} broken 245000 23).2.2.1 hbroken).2,
    ((withBits_eq_ok_iff {} marked 245000 3).2.2.2 hmarked).2⟩

/-- Bits that take 71 minutes are accepted as a mark of 176 microseconds. -/
theorem mark_wraps :
    ({} : LineConfig).withMarkBits 250000 0x4000002C = .ok { markLength := 176 } ∧
    bitTime 0x4000002C 250000 = 4294967472 ∧ ¬ bitTime 0x4000002C 250000 ≤ 999999 := by
  have htime : bitTime 0x4000002C 250000 = 4294967472 := by
    rw [bitTime, Timing.ceil_div_eq _ (by decide)]
    rfl
  refine ⟨rfl, htime, ?_⟩
  rw [htime]
  decide

end LineConfig

end LightingBus
