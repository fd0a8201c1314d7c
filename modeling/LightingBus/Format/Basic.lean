import LightingBus.Hex
import LightingBus.Packet.Basic
import LightingBus.Payload.Label

/-!
# Formats of parameter data

A format lists the fields of a record. Numbers are in network order. A field of variable length
takes all that is left, so it can only come last. Unless a format describes exactly one record, its
records repeat until the parameter data is exhausted.
-/

namespace LightingBus

namespace Format

/-- One field of a record. -/
inductive Field where
  | byte
  | word
  | dword
  /-- The six bytes of an address. -/
  | uid
  /-- The six bytes of an address, or nothing. -/
  | optionalUid
  /-- A text of at most 32 ascii bytes, up to a zero byte or the end. -/
  | ascii
  /-- All bytes that are left. -/
  | rest
  /-- Fixed bytes, given by their hexadecimal digits. -/
  | literal (digits : List Char)
  deriving DecidableEq, Repr

namespace Field

/-- The least number of bytes of a field. -/
def fixedSize : Field → Nat
  | .byte => 1
  | .word => 2
  | .dword => 4
  | .uid => 6
  | .literal digits => digits.length / 2
  | .optionalUid | .ascii | .rest => 0

/-- The length of the field depends on the data. -/
def isVariable : Field → Bool
  | .optionalUid | .ascii | .rest => true
  | _ => false

/-- The field stands for a value; literals stand for none. -/
def takesValue : Field → Bool
  | .literal _ => false
  | _ => true

end Field

/-- Why a format is malformed, or data or values do not fit it. -/
inductive Error where
  /-- The text is no format. -/
  | invalidFormat
  /-- The data ends inside a record. -/
  | dataTooShort
  /-- Bytes are left behind the last record. -/
  | trailingData
  /-- The data differs from a literal. -/
  | literalMismatch
  /-- A text is longer than 32 bytes or not ascii. -/
  | invalidAscii
  /-- The kind of a value differs from its field. -/
  | typeMismatch
  /-- A field has no value. -/
  | missingValue
  /-- A value has no field. -/
  | tooManyValues
  /-- The bytes do not fit into one packet. -/
  | bufferFull
  deriving DecidableEq, Repr

/-- An error in words. -/
def Error.text : Error → String
  | .invalidFormat => "invalid format string"
  | .dataTooShort => "data is shorter than the format"
  | .trailingData => "data is longer than the format"
  | .literalMismatch => "literal doesn't match"
  | .invalidAscii => "invalid ascii field"
  | .typeMismatch => "value doesn't match its field"
  | .missingValue => "missing value"
  | .tooManyValues => "too many values"
  | .bufferFull => "parameter data is full"

/-- The value of a field. -/
inductive Value where
  | byte (value : UInt8)
  | word (value : UInt16)
  | dword (value : UInt32)
  | uid (address : Address)
  | optionalUid (address : Option Address)
  | ascii (text : String)
  | bytes (bytes : Bytes)
  deriving DecidableEq

end Format

/-- The fields of a record, and whether there is exactly one record. -/
structure Format where
  fields : List Format.Field
  singleton : Bool
  deriving DecidableEq

namespace Format

/-- A format has at most this many fields. -/
def maxFields : Nat := 16

/-- The least number of bytes of a run of fields. -/
def leastSize : List Field → Nat
  | [] => 0
  | field :: fields => field.fixedSize + leastSize fields

/-- The least number of bytes of a record. -/
def fixedSize (format : Format) : Nat :=
  leastSize format.fields

/-- The size of the data, where all data of the format has the same size. -/
def exactSize? (format : Format) : Option Nat :=
  if format.singleton && !format.fields.any Field.isVariable then some format.fixedSize else none

end Format

end LightingBus
