import Mathlib.Data.List.Basic

namespace ByteBuffer

/-!
# Buffers read and written at offsets

A buffer is allocated with zeros and then written at offsets; it is read back
by offset and by slice.  Writing a buffer from front to back lays its fields
out one after the other, and consecutive slices of a buffer are its fields.
-/

/-- A buffer. -/
abbrev Buffer := List UInt8

/-- A new buffer of the given length, filled with zeros. -/
def zeroed (length : Nat) : Buffer :=
  List.replicate length 0

/-- Overwrite the buffer with a source, from an offset on. -/
def setBytes (buffer : Buffer) (source : Buffer) (offset : Nat) : Buffer :=
  buffer.take offset ++ source ++ buffer.drop (offset + source.length)

/-- Overwrite one byte of the buffer. -/
def setUint8 (buffer : Buffer) (offset : Nat) (byte : UInt8) : Buffer :=
  setBytes buffer [byte] offset

/-- The byte at an offset. -/
def getUint8 (buffer : Buffer) (offset : Nat) : UInt8 :=
  buffer.getD offset 0

/-- The bytes from `start` up to, and without, `stop`. -/
def slice (buffer : Buffer) (start stop : Nat) : Buffer :=
  (buffer.take stop).drop start

/-! ## Writing from front to back -/

/-- A write behind what is written already extends it. -/
theorem setBytes_front
    {front source : Buffer}
    {offset length : Nat}
    (isNext : offset = front.length) :
    setBytes (front ++ zeroed length) source offset =
      (front ++ source) ++ zeroed (length - source.length) := by
  subst isNext
  have behind :
      (front ++ zeroed length).drop (front.length + source.length) =
        zeroed (length - source.length) := by
    rw [← List.drop_drop, List.drop_left]
    exact List.drop_replicate
  rw [setBytes, List.take_left, behind]

/-- A one-byte write behind what is written already extends it. -/
theorem setUint8_front
    {front : Buffer}
    {byte : UInt8}
    {offset length : Nat}
    (isNext : offset = front.length) :
    setUint8 (front ++ zeroed length) offset byte =
      (front ++ [byte]) ++ zeroed (length - 1) :=
  setBytes_front isNext

/-- The first write to a new buffer. -/
theorem setUint8_zeroed (byte : UInt8) (length : Nat) :
    setUint8 (zeroed length) 0 byte = [byte] ++ zeroed (length - 1) :=
  (setUint8_front rfl : setUint8 ([] ++ zeroed length) 0 byte = _)

@[simp]
theorem zeroed_zero : zeroed 0 = [] :=
  rfl

/-! ## Reading fields -/

@[simp]
theorem length_slice (buffer : Buffer) (start stop : Nat) :
    (slice buffer start stop).length = min stop buffer.length - start := by
  simp [slice]

@[simp]
theorem getUint8_cons_zero (byte : UInt8) (rest : Buffer) :
    getUint8 (byte :: rest) 0 = byte :=
  rfl

/-- Two neighbouring slices. -/
theorem slice_append_slice
    {buffer : Buffer}
    {start middle stop : Nat}
    (first : start ≤ middle)
    (second : middle ≤ stop) :
    slice buffer start middle ++ slice buffer middle stop =
      slice buffer start stop := by
  have split : (buffer.take stop).take middle = buffer.take middle := by
    rw [List.take_take, Nat.min_eq_left second]
  have recombined :
      (buffer.take middle).drop start ++ (buffer.take stop).drop middle =
        ((buffer.take stop).take middle ++ (buffer.take stop).drop middle).drop start := by
    rw [split]
    by_cases reaches : start ≤ (buffer.take middle).length
    · exact (List.drop_append_of_le_length reaches).symm
    · have short : buffer.length ≤ middle := by
        rw [List.length_take] at reaches
        omega
      have rest : (buffer.take stop).drop middle = [] := by
        apply List.drop_eq_nil_of_le
        rw [List.length_take]
        omega
      rw [rest, List.append_nil, List.append_nil]
  rw [slice, slice, recombined, List.take_append_drop, slice]

/-- The slice over the whole buffer. -/
theorem slice_all
    {buffer : Buffer}
    {length : Nat}
    (isLength : buffer.length = length) :
    slice buffer 0 length = buffer := by
  rw [slice, List.drop_zero, ← isLength, List.take_length]

/-- A byte is a slice of length one. -/
theorem slice_one
    {buffer : Buffer}
    {offset : Nat}
    (inside : offset < buffer.length) :
    slice buffer offset (offset + 1) = [getUint8 buffer offset] := by
  apply List.ext_getElem
  · rw [length_slice]
    simp only [List.length_cons, List.length_nil]
    omega
  · intro index inSlice inByte
    obtain rfl : index = 0 := by simpa using inByte
    simp [slice, getUint8, List.getD_eq_getElem?_getD, inside]

/-- The slice that a field occupies behind a front. -/
theorem slice_field
    {front field rest : Buffer}
    {start stop : Nat}
    (isStart : front.length = start)
    (isStop : start + field.length = stop) :
    slice (front ++ field ++ rest) start stop = field := by
  subst isStart
  subst isStop
  have whole : front.length + field.length = (front ++ field).length := by
    rw [List.length_append]
  rw [slice, whole, List.take_left, List.drop_left]

/-- The byte behind a front. -/
theorem getUint8_field
    {front rest : Buffer}
    {byte : UInt8}
    {offset : Nat}
    (isOffset : front.length = offset) :
    getUint8 (front ++ byte :: rest) offset = byte := by
  subst isOffset
  simp [getUint8, List.getD_eq_getElem?_getD]

end ByteBuffer
