/-!
# Registry of ports

A fixed number of places, each holding at most one installed value.
-/

namespace LightingBus

/-- Places numbered from zero, each empty or holding an installed value. -/
structure Registry (α : Type) where
  places : List (Option α)

namespace Registry

/-- Why a place has no value to give or takes none. -/
inductive Error where
  /-- There is no place with this number. -/
  | invalidPort
  /-- The place holds another value. -/
  | alreadyInstalled
  /-- The place is empty. -/
  | notInstalled
  deriving DecidableEq, Repr

/-- An error in words. -/
def Error.text : Error → String
  | .invalidPort => "port number out of range"
  | .alreadyInstalled => "port is already installed"
  | .notInstalled => "port is not installed"

/-- A registry with `capacity` empty places. -/
def empty (capacity : Nat) : Registry α :=
  ⟨List.replicate capacity none⟩

def capacity (r : Registry α) : Nat :=
  r.places.length

/-- The value at a place. -/
def get (r : Registry α) (port : Nat) : Except Error α :=
  match r.places[port]? with
  | none => .error .invalidPort
  | some none => .error .notInstalled
  | some (some value) => .ok value

/-- Puts a value into an empty place. -/
def install (r : Registry α) (port : Nat) (value : α) : Except Error (Registry α) :=
  match r.places[port]? with
  | none => .error .invalidPort
  | some (some _) => .error .alreadyInstalled
  | some none => .ok ⟨r.places.set port (some value)⟩

/-- Empties a place and hands out what it held. -/
def uninstall (r : Registry α) (port : Nat) : Option α × Registry α :=
  (r.places[port]?.join, ⟨r.places.set port none⟩)

/-- Changes the value at a place. -/
def modify (r : Registry α) (port : Nat) (f : α → α) : Except Error (Registry α) :=
  (r.get port).map fun value => ⟨r.places.set port (some (f value))⟩

def isInstalled (r : Registry α) (port : Nat) : Bool :=
  r.places[port]?.join.isSome

/-- The installed values with the numbers of their places, in that order. -/
def toList (r : Registry α) : List (Nat × α) :=
  r.places.zipIdx.filterMap fun (value, port) => value.map fun v => (port, v)

end Registry

end LightingBus
