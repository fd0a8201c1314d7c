import LightingBus.Bytes

/-!
# Hexadecimal

Numbers and bytes written in base sixteen. Digits are written in lower case and read in either.
-/

namespace LightingBus

namespace Hex

/-- The value of a digit. -/
def digit? (c : Char) : Option UInt8 :=
  if '0' ≤ c ∧ c ≤ '9' then some (UInt8.ofNat (c.toNat - 48))
  else if 'a' ≤ c ∧ c ≤ 'f' then some (UInt8.ofNat (c.toNat - 87))
  else if 'A' ≤ c ∧ c ≤ 'F' then some (UInt8.ofNat (c.toNat - 55))
  else none

/-- The bytes that pairs of digits stand for; what is no digit counts as zero. -/
def toBytes : List Char → Bytes
  | high :: low :: rest => ((digit? high).getD 0 * 16 + (digit? low).getD 0) :: toBytes rest
  | _ => []

/-- The number that digits stand for; what is no digit counts as zero. -/
def toNat (digits : List Char) : Nat :=
  digits.foldl (fun n c => n * 16 + ((digit? c).getD 0).toNat) 0

/-- The digits of a number, at least `width` of them. -/
def ofNat (width number : Nat) : List Char :=
  let digits := Nat.toDigits 16 number
  List.replicate (width - digits.length) '0' ++ digits

/-- Two digits for each byte. -/
def ofBytes (bytes : Bytes) : List Char :=
  bytes.flatMap fun byte => ofNat 2 byte.toNat

end Hex

end LightingBus
