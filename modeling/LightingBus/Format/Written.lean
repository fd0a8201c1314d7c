import LightingBus.Format.Basic

/-!
# Written formats

A format is written with one letter per field, with a literal's digits between a hash sign and an
h, and with a dollar sign at the end if there is exactly one record:

* b, w, d: a byte, a word, a double word
* u, v: an address, an address or nothing
* a, r: a text, all bytes that are left
-/

namespace LightingBus

namespace Format

/-- The field a letter stands for. -/
def Field.ofLetter? : Char → Option Field
  | 'b' => some .byte
  | 'w' => some .word
  | 'd' => some .dword
  | 'u' => some .uid
  | 'v' => some .optionalUid
  | 'a' => some .ascii
  | 'r' => some .rest
  | _ => none

/-- Digits between the marks of a literal: pairs of hexadecimal digits, at least one. -/
def isLiteral (digits : List Char) : Bool :=
  !digits.isEmpty && digits.length % 2 == 0 && digits.all fun c => (Hex.digit? c).isSome

/-- Splits the digits of a literal from what follows its closing mark. -/
def splitLiteral? (cs : List Char) : Option (List Char × List Char) :=
  match cs.dropWhile (· ≠ 'h') with
  | [] => none
  | _ :: rest =>
    let digits := cs.takeWhile (· ≠ 'h')
    if isLiteral digits then some (digits, rest) else none

theorem splitLiteral?_length {cs digits rest : List Char}
    (h : splitLiteral? cs = some (digits, rest)) : rest.length < cs.length := by
  unfold splitLiteral? at h
  split at h
  · cases h
  next c tail eq =>
    dsimp only at h
    split at h
    · cases h
      have := (List.dropWhile_sublist (p := fun c => decide (c ≠ 'h')) (l := cs)).length_le
      rw [eq] at this
      simp at this
      omega
    · cases h

/-- Reads the fields and the mark of a single record. -/
def readFields? : List Char → Option (List Field × Bool)
  | [] => some ([], false)
  | c :: cs =>
    if c = '#' then
      match h : splitLiteral? cs with
      | none => none
      | some (digits, rest) =>
        have := splitLiteral?_length h
        (readFields? rest).map fun (fields, single) => (.literal digits :: fields, single)
    else if c = '$' then
      if cs.isEmpty then some ([], true) else none
    else
      match Field.ofLetter? c with
      | none => none
      | some field => (readFields? cs).map fun (fields, single) => (field :: fields, single)
termination_by cs => cs.length

/-- No field but the last has variable length. -/
def variableOnlyLast (fields : List Field) : Bool :=
  fields.dropLast.all fun field => !field.isVariable

/-- There is exactly one record if the format says so, if its last field takes all that is left, or
if no field takes a value. -/
def isSingleton (fields : List Field) (marked : Bool) : Bool :=
  marked || fields.getLast?.any Field.isVariable || !fields.any Field.takesValue

/-- Reads a written format. -/
def parse (text : String) : Except Error Format :=
  match readFields? text.toList with
  | none => .error .invalidFormat
  | some (fields, marked) =>
    let format : Format := ⟨fields, isSingleton fields marked⟩
    if variableOnlyLast fields ∧ fields.length ≤ maxFields ∧
        format.fixedSize ≤ maxParameterLength then .ok format
    else .error .invalidFormat

end Format

end LightingBus
