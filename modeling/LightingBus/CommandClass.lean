/-!
# Command classes

What a request asks for, the codes of requests and of responses, and which classes a parameter may
be requested with. The code of a response is the code of its request plus one.
-/

namespace LightingBus

/-- What a request asks for. -/
inductive CommandClass where
  /-- Find or silence devices. -/
  | discovery
  /-- Read a parameter. -/
  | get
  /-- Write a parameter. -/
  | set
  deriving DecidableEq, Repr

namespace CommandClass

/-- The code of a request of this class. -/
def requestCode : CommandClass → UInt8
  | .discovery => 0x10
  | .get => 0x20
  | .set => 0x30

/-- The class of a request with this code. -/
def ofRequestCode? (code : UInt8) : Option CommandClass :=
  if code = 0x10 then some .discovery
  else if code = 0x20 then some .get
  else if code = 0x30 then some .set
  else none

/-- The code of a response to a request of this class. -/
def responseCode : CommandClass → UInt8
  | .discovery => 0x11
  | .get => 0x21
  | .set => 0x31

/-- The class of the request that a response with this code answers. -/
def ofResponseCode? (code : UInt8) : Option CommandClass :=
  if code = 0x11 then some .discovery
  else if code = 0x21 then some .get
  else if code = 0x31 then some .set
  else none

theorem responseCode_eq (c : CommandClass) : c.responseCode = c.requestCode + 1 := by
  cases c <;> rfl

@[simp] theorem ofRequestCode?_requestCode (c : CommandClass) :
    ofRequestCode? c.requestCode = some c := by
  cases c <;> rfl

@[simp] theorem ofResponseCode?_responseCode (c : CommandClass) :
    ofResponseCode? c.responseCode = some c := by
  cases c <;> rfl

theorem requestCode_of_ofRequestCode? {code : UInt8} {c : CommandClass}
    (h : ofRequestCode? code = some c) : c.requestCode = code := by
  unfold ofRequestCode? at h
  repeat' split at h
  all_goals cases h
  all_goals simp [requestCode, *]

theorem responseCode_of_ofResponseCode? {code : UInt8} {c : CommandClass}
    (h : ofResponseCode? code = some c) : c.responseCode = code := by
  unfold ofResponseCode? at h
  repeat' split at h
  all_goals cases h
  all_goals simp [responseCode, *]

@[simp] theorem ofRequestCode?_responseCode (c : CommandClass) :
    ofRequestCode? c.responseCode = none := by
  cases c <;> rfl

end CommandClass

/-- The command classes a parameter may be requested with. -/
inductive Access where
  | discovery
  | get
  | set
  | getSet
  deriving DecidableEq, Repr

/-- A request of this class may be dispatched to a parameter with this access. -/
def Access.allows : Access → CommandClass → Bool
  | .discovery, .discovery => true
  | .get, .get => true
  | .set, .set => true
  | .getSet, .get => true
  | .getSet, .set => true
  | _, _ => false

end LightingBus
