import LightingBus.Bytes

/-!
# Frame buffers

A frame buffer holds the slots of one frame, the start code first. Its cursor tells how far a frame
was received or sent. The number of slots never changes.
-/

namespace LightingBus

/-- The slots of a frame and a cursor. -/
structure FrameBuffer where
  slots : Bytes
  /-- How many slots were received, while a frame is received, or sent, while one is sent. -/
  head : Nat
  /-- How many slots the frame to be sent has. -/
  sendSize : Nat
  /-- How many slots the last received frame has. -/
  frameSize : Nat
  deriving DecidableEq

namespace FrameBuffer

/-- A buffer with this many slots, all of them zero. -/
def empty (capacity : Nat) : FrameBuffer where
  slots := List.replicate capacity 0
  head := 0
  sendSize := 0
  frameSize := 0

def capacity (b : FrameBuffer) : Nat :=
  b.slots.length

/-- The last received frame. -/
def received (b : FrameBuffer) : Bytes :=
  b.slots.take b.frameSize

/-- What was received of a frame that is not complete. -/
def filled (b : FrameBuffer) : Bytes :=
  b.slots.take b.head

/-- What is left to be sent. -/
def pending (b : FrameBuffer) : Bytes :=
  (b.slots.take b.sendSize).drop b.head

/-! ## Access -/

/-- Copies bytes into the slots from `offset` on, as many as there are slots for, and says how
many. -/
def writeAt (b : FrameBuffer) (offset : Nat) (bytes : Bytes) : Nat × FrameBuffer :=
  if b.capacity ≤ offset then (0, b)
  else
    let fitting := bytes.take (b.capacity - offset)
    (fitting.length, { b with slots := Bytes.overwrite offset fitting b.slots })

/-- Copies the slots from `offset` on to the front of `out`, as far as there is room, and says how
many. -/
def readAt (b : FrameBuffer) (offset : Nat) (out : Bytes) : Nat × Bytes :=
  let copied := Bytes.slice offset out.length b.slots
  (copied.length, Bytes.overwrite 0 copied out)

@[simp] theorem capacity_empty (n : Nat) : (empty n).capacity = n := by
  simp [capacity, empty]

@[simp] theorem capacity_writeAt (b : FrameBuffer) (offset : Nat) (bytes : Bytes) :
    (b.writeAt offset bytes).2.capacity = b.capacity := by
  unfold writeAt
  split
  · rfl
  · apply Bytes.length_overwrite
    simp only [capacity, List.length_take] at *
    omega

/-! ## The cursor -/

/-- Back to the first slot. -/
def rewind (b : FrameBuffer) : FrameBuffer :=
  { b with head := 0 }

/-- Makes ready for sending the first `size` slots. -/
def prepare (b : FrameBuffer) (size : Nat) : FrameBuffer :=
  { b with sendSize := size, head := 0 }

/-- Moves the cursor over `count` sent slots, at most to the end of the frame. -/
def advance (b : FrameBuffer) (count : Nat) : FrameBuffer :=
  { b with head := min (b.head + count) b.sendSize }

/-- Appends received bytes to those received before, as far as there are slots. -/
def append (b : FrameBuffer) (bytes : Bytes) : FrameBuffer :=
  let fitting := bytes.take (b.capacity - b.head)
  { b with
    slots := Bytes.overwrite b.head fitting b.slots
    head := b.head + fitting.length }

/-- Takes the first `size` received bytes for a frame. -/
def complete (b : FrameBuffer) (size : Nat) : FrameBuffer :=
  { b with frameSize := min size b.head }

@[simp] theorem capacity_append (b : FrameBuffer) (bytes : Bytes) :
    (b.append bytes).capacity = b.capacity := by
  simp only [append, capacity, Bytes.overwrite, List.length_append, List.length_take,
    List.length_drop]
  omega

end FrameBuffer

end LightingBus
