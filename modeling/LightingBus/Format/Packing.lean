import LightingBus.Format.Basic

/-!
# Writing records

Values are appended to parameter data in the order of a format's fields. Literals take no value. If
the values do not fit the format or the bytes do not fit into the packet, what was appended by then
is taken back.
-/

namespace LightingBus

namespace Format

/-- Writing in place: it may fail, and what was appended by then stays in the data. -/
abbrev Writing := ExceptT Error (StateM ParameterData)

/-- Appends bytes, all of them or none. -/
def append (bytes : Bytes) : Writing Unit := do
  match (← get).append? bytes with
  | none => throw .bufferFull
  | some data => set data

/-- Appends one byte after the other, as long as there is room. -/
def appendEach : Bytes → Writing Unit
  | [] => return ()
  | byte :: bytes => do
    append [byte]
    appendEach bytes

/-- The bytes of a value in a field. -/
def Field.pack (field : Field) (value : Value) : Except Error Bytes :=
  match field, value with
  | .byte, .byte v => .ok [v]
  | .word, .word v => .ok (Bytes.ofWord v)
  | .dword, .dword v => .ok (Bytes.ofDword v)
  | .uid, .uid address => .ok address.toBytes
  | .optionalUid, .optionalUid address => .ok ((address.map Address.toBytes).getD [])
  | .ascii, .ascii text =>
    if Label.maxLength < (Text.toBytes text).length ∨ ¬ Text.isAscii (Text.toBytes text) then
      .error .invalidAscii
    else .ok (Text.toBytes text)
  | .rest, .bytes bytes => .ok bytes
  | _, _ => .error .typeMismatch

/-- Appends one record and returns the values that it did not take. -/
def packRecord : List Field → List Value → Writing (List Value)
  | [], values => return values
  | .literal digits :: fields, values => do
    appendEach (Hex.toBytes digits)
    packRecord fields values
  | _ :: _, [] => throw .missingValue
  | field :: fields, value :: values => do
    append (← field.pack value)
    packRecord fields values

/-- Appends records until no values are left. A format whose records repeat has a field that takes
a value, so each record shortens the list of values. -/
def packRecords (fields : List Field) (values : List Value) : Writing Unit := do
  let rest ← packRecord fields values
  if rest.isEmpty then return ()
  else if rest.length < values.length then packRecords fields rest
  else throw .tooManyValues
termination_by values.length

/-- Appends values in the order of the format. -/
def packAll (format : Format) (values : List Value) : Writing Unit := do
  if format.singleton then
    let rest ← packRecord format.fields values
    unless rest.isEmpty do throw .tooManyValues
  else unless values.isEmpty do packRecords format.fields values

/-- Appends values in the order of the format and returns the number of bytes. If that fails, the
data is cut back to its former length. -/
def packInto (format : Format) (values : List Value) (data : ParameterData) :
    Except Error Nat × ParameterData :=
  match Id.run ((format.packAll values).run.run data) with
  | (.error e, written) => (.error e, written.truncate data.bytes.length)
  | (.ok (), written) => (.ok (written.bytes.length - data.bytes.length), written)

/-- The data with the values behind it, if they can be written. -/
def pack (format : Format) (values : List Value) (data : ParameterData) :
    Except Error ParameterData :=
  let (result, written) := format.packInto values data
  result.map fun _ => written

end Format

end LightingBus
