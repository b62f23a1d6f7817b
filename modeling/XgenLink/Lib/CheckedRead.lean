import XgenLink.Lib.Bytes

/-!
# `XgenLink.Lib.CheckedRead`: reads that notice the end of the memory

`byteAt` and `readBytes` return zero past the end of a buffer. This suits code that has checked
its bounds, and says nothing about code that has not. The reads here return nothing instead, so
that a function written over them is defined exactly where it stays inside the memory it was
given. Where they return something it is what the unchecked reads return.

* `checkedByte`, `checkedBytes`: the reads.
* `checkedByte_of_lt`, `checkedBytes_of_le`: inside the memory they are the unchecked reads.
* `checkedByte_of_le`, `checkedBytes_of_lt`: outside of it they return nothing.
-/

set_option autoImplicit false

namespace XgenLink

/-- The byte at `i`, if the memory has one. -/
def checkedByte (memory : Bytes) (i : Nat) : Option UInt8 :=
  if i < memory.length then some (byteAt memory i) else none

/-- The `len` bytes from `offset` on, if the memory has them. -/
def checkedBytes (memory : Bytes) (offset len : Nat) : Option Bytes :=
  if offset + len ≤ memory.length then some (readBytes memory offset len) else none

/-- Inside the memory the byte is there. -/
theorem checkedByte_of_lt {memory : Bytes} {i : Nat} (h : i < memory.length) :
    checkedByte memory i = some (byteAt memory i) := if_pos h

/-- Behind its end it is not. -/
theorem checkedByte_of_le {memory : Bytes} {i : Nat} (h : memory.length ≤ i) :
    checkedByte memory i = none := if_neg (by omega)

/-- A block inside the memory is there. -/
theorem checkedBytes_of_le {memory : Bytes} {offset len : Nat}
    (h : offset + len ≤ memory.length) :
    checkedBytes memory offset len = some (readBytes memory offset len) := if_pos h

/-- One that crosses its end is not. -/
theorem checkedBytes_of_lt {memory : Bytes} {offset len : Nat}
    (h : memory.length < offset + len) : checkedBytes memory offset len = none :=
  if_neg (by omega)

end XgenLink
