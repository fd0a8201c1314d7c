import LightingBus.Bytes

/-!
# Types of parameter values

What a parameter's value means: its data type, its unit and the scale of the unit. Units and scales
only describe a value; the data type says how a number is read from its bytes.
-/

namespace LightingBus

/-- The data type of a parameter's value. -/
inductive DataType where
  | notDefined
  | bitField
  | ascii
  | unsignedByte
  | signedByte
  | unsignedWord
  | signedWord
  | unsignedDWord
  | signedDWord
  deriving DecidableEq, Repr

namespace DataType

def all : List DataType :=
  [.notDefined, .bitField, .ascii, .unsignedByte, .signedByte, .unsignedWord, .signedWord,
    .unsignedDWord, .signedDWord]

def code : DataType → UInt8
  | .notDefined => 0x00
  | .bitField => 0x01
  | .ascii => 0x02
  | .unsignedByte => 0x03
  | .signedByte => 0x04
  | .unsignedWord => 0x05
  | .signedWord => 0x06
  | .unsignedDWord => 0x07
  | .signedDWord => 0x08

/-- The width in bytes of a type that is a single number. -/
def numericWidth? : DataType → Option Nat
  | .unsignedByte | .signedByte => some 1
  | .unsignedWord | .signedWord => some 2
  | .unsignedDWord | .signedDWord => some 4
  | _ => none

/-- Reads a number in network order; its bytes must have exactly the width of the type. -/
def readNumber? : DataType → Bytes → Option Int
  | .unsignedByte, [a] => some a.toNat
  | .signedByte, [a] => some a.toInt8.toInt
  | .unsignedWord, [a, b] => some (Bytes.word a b).toNat
  | .signedWord, [a, b] => some (Bytes.word a b).toInt16.toInt
  | .unsignedDWord, [a, b, c, d] => some (Bytes.dword a b c d).toNat
  | .signedDWord, [a, b, c, d] => some (Bytes.dword a b c d).toInt32.toInt
  | _, _ => none

end DataType

/-- The unit of a parameter's value. -/
inductive MeasureUnit where
  | none
  | centigrade
  | voltsDc
  | voltsAcPeak
  | voltsAcRms
  | ampereDc
  | hertz
  | watt
  | seconds
  deriving DecidableEq, Repr

def MeasureUnit.code : MeasureUnit → UInt8
  | .none => 0x00
  | .centigrade => 0x01
  | .voltsDc => 0x02
  | .voltsAcPeak => 0x03
  | .voltsAcRms => 0x04
  | .ampereDc => 0x05
  | .hertz => 0x08
  | .watt => 0x0B
  | .seconds => 0x15

/-- The power of ten in front of a unit. -/
inductive UnitScale where
  | none
  | deci
  | centi
  | milli
  | micro
  | kilo
  | mega
  deriving DecidableEq, Repr

def UnitScale.code : UnitScale → UInt8
  | .none => 0x00
  | .deci => 0x01
  | .centi => 0x02
  | .milli => 0x03
  | .micro => 0x04
  | .kilo => 0x13
  | .mega => 0x14

end LightingBus
