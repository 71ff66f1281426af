import StreamTransport.Octets

/-!
# First in, first out

A queue of bytes that shows its content in two chunks, oldest first. Bytes are
added at the end and removed from the front. How the content is cut in two is
left open: the front is empty only if the queue is, and nothing else is known.
-/

set_option autoImplicit false

namespace StreamTransport

class Fifo (Q : Type) where
  empty : Q
  front : Q → Bytes
  back : Q → Bytes
  push : Q → Bytes → Q
  /-- Removes bytes from the front, all of them if there are no more than asked for. -/
  drop : Q → Nat → Q
  clear : Q → Q
  back_eq_nil (q : Q) : front q = [] → back q = []
  chunks_empty : front empty ++ back empty = []
  chunks_push (q : Q) (more : Bytes) :
    front (push q more) ++ back (push q more) = front q ++ back q ++ more
  chunks_drop (q : Q) (n : Nat) : front (drop q n) ++ back (drop q n) = (front q ++ back q).drop n
  chunks_clear (q : Q) : front (clear q) ++ back (clear q) = []

namespace Fifo

variable {Q : Type} [Fifo Q]

def bytes (q : Q) : Bytes := front q ++ back q

def length (q : Q) : Nat := (front q).length + (back q).length

theorem length_bytes (q : Q) : (bytes q).length = length q := List.length_append

theorem front_eq_nil_iff (q : Q) : front q = [] ↔ bytes q = [] := by
  simpa [bytes] using back_eq_nil q

@[simp] theorem bytes_empty : bytes (empty : Q) = [] := chunks_empty

@[simp] theorem bytes_push (q : Q) (more : Bytes) : bytes (push q more) = bytes q ++ more :=
  chunks_push q more

@[simp] theorem bytes_drop (q : Q) (n : Nat) : bytes (drop q n) = (bytes q).drop n :=
  chunks_drop q n

@[simp] theorem bytes_clear (q : Q) : bytes (clear q) = [] := chunks_clear q

theorem length_bytes_pos {q : Q} (h : front q ≠ []) : 0 < (bytes q).length :=
  List.length_pos_iff.mpr (mt (front_eq_nil_iff q).mpr h)

/-- Removing a byte shortens a queue that has one. -/
theorem length_drop_lt {q : Q} {n : Nat} (h : front q ≠ []) :
    length (drop q (n + 1)) < length q := by
  have := length_bytes_pos h
  rw [← length_bytes, ← length_bytes, bytes_drop, List.length_drop]
  omega

end Fifo
end StreamTransport
