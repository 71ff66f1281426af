import StreamTransport.Stream.Fifo

/-!
# The queue of a buffered writer

A first-in first-out queue of bytes in a ring. The content lies in two
contiguous chunks: `front` from `head` on, and `back`, which is what wrapped
around. `bytes` is both joined, oldest first. The front is empty only if the
queue is. A queue that runs empty begins anew at the start of its ring, so what
is then added to it lies in one chunk.
-/

set_option autoImplicit false

namespace StreamTransport

structure ByteQueue where
  front : Bytes
  back : Bytes
  capacity : Nat
  head : Nat
  back_eq_nil : front = [] → back = []
  head_eq_zero : front = [] → head = 0
  length_le : front.length + back.length ≤ capacity
  head_lt : head < capacity

namespace ByteQueue

def leastCapacity : Nat := 65536

def empty : ByteQueue := ⟨[], [], leastCapacity, 0, fun _ => rfl, fun _ => rfl, by simp, by decide⟩

instance : Inhabited ByteQueue := ⟨empty⟩

def bytes (q : ByteQueue) : Bytes := q.front ++ q.back

def length (q : ByteQueue) : Nat := q.front.length + q.back.length

def isEmpty (q : ByteQueue) : Bool := q.front.isEmpty

theorem eq_nil_of_take {content : Bytes} {capacity head : Nat} (inside : head < capacity)
    (none : content.take (capacity - head) = []) : content = [] := by
  rcases List.take_eq_nil_iff.mp none with h | h
  · omega
  · exact h

/-- A content laid out in a ring from `head` on. -/
def ofBytes (content : Bytes) (capacity head : Nat) (fits : content.length ≤ capacity)
    (inside : head < capacity) (anew : content = [] → head = 0) : ByteQueue where
  front := content.take (capacity - head)
  back := content.drop (capacity - head)
  capacity := capacity
  head := head
  back_eq_nil none := by simp [eq_nil_of_take inside none]
  head_eq_zero none := anew (eq_nil_of_take inside none)
  length_le := by simp only [List.length_take, List.length_drop]; omega
  head_lt := inside

/-- Where the content begins once the ring has grown to `capacity`. What has wrapped around is
moved behind the front where it is the shorter part and there is room for it. Otherwise the front
is moved to the new end. -/
def grownHead (q : ByteQueue) (capacity : Nat) : Nat :=
  let wrapped := q.back.length
  if wrapped = 0 ∨ (wrapped < q.front.length ∧ wrapped ≤ capacity - q.capacity) then q.head
  else capacity - q.front.length

theorem length_front_ne_zero {q : ByteQueue} (h : q.back.length ≠ 0) : q.front.length ≠ 0 := by
  intro none
  simp [q.back_eq_nil (List.length_eq_zero_iff.mp none)] at h

theorem grownHead_lt (q : ByteQueue) {capacity : Nat} (h : q.capacity ≤ capacity) :
    q.grownHead capacity < capacity := by
  have inside := q.head_lt
  have filled := @length_front_ne_zero q
  unfold grownHead
  dsimp only
  split <;> omega

theorem head_eq_zero_of_bytes (q : ByteQueue) (none : q.bytes = []) : q.head = 0 :=
  q.head_eq_zero (List.append_eq_nil_iff.mp none).1

/-- Adds bytes at the end. A ring too small for them grows to at least twice its size. -/
def push (q : ByteQueue) (more : Bytes) : ByteQueue :=
  let content := q.bytes ++ more
  if fits : content.length ≤ q.capacity then
    ofBytes content q.capacity q.head fits q.head_lt fun none =>
      q.head_eq_zero_of_bytes (List.append_eq_nil_iff.mp none).1
  else
    let capacity := max (2 * q.capacity) content.length
    ofBytes content capacity (q.grownHead capacity) (by omega) (q.grownHead_lt (by omega))
      fun none => absurd (by simp [none]) fits

theorem headAfter_lt (q : ByteQueue) (isDone : Bool) (n : Nat) :
    (if isDone then 0 else (q.head + n) % q.capacity) < q.capacity := by
  have := q.head_lt
  split
  · omega
  · exact Nat.mod_lt _ (by omega)

/-- Removes bytes from the front, all of them if there are no more than `n`. Once the front is
used up, what wrapped around is the front. -/
def drop (q : ByteQueue) (n : Nat) : ByteQueue :=
  if used : q.front.drop n = [] then
    let left := q.back.drop (n - q.front.length)
    ⟨left, [], q.capacity, if left.isEmpty then 0 else (q.head + n) % q.capacity, fun _ => rfl,
      fun none => by rw [none]; rfl,
      by have := q.length_le; simp only [left, List.length_drop, List.length_nil]; omega,
      q.headAfter_lt _ n⟩
  else
    ⟨q.front.drop n, q.back, q.capacity, (q.head + n) % q.capacity,
      fun none => absurd none used, fun none => absurd none used,
      by have := q.length_le; rw [List.length_drop]; omega,
      q.headAfter_lt false n⟩

def clear (q : ByteQueue) : ByteQueue :=
  ⟨[], [], q.capacity, 0, fun _ => rfl, fun _ => rfl, by simp, by have := q.head_lt; omega⟩

theorem length_bytes (q : ByteQueue) : q.bytes.length = q.length := List.length_append

theorem front_eq_nil_iff (q : ByteQueue) : q.front = [] ↔ q.bytes = [] := by
  simpa [bytes] using q.back_eq_nil

theorem isEmpty_iff (q : ByteQueue) : q.isEmpty ↔ q.bytes = [] := by
  rw [← front_eq_nil_iff, isEmpty, List.isEmpty_iff]

@[simp] theorem bytes_empty : empty.bytes = [] := rfl

@[simp] theorem bytes_clear (q : ByteQueue) : q.clear.bytes = [] := rfl

@[simp] theorem bytes_ofBytes (content : Bytes) (capacity head : Nat)
    (fits : content.length ≤ capacity) (inside : head < capacity)
    (anew : content = [] → head = 0) :
    (ofBytes content capacity head fits inside anew).bytes = content :=
  List.take_append_drop (capacity - head) content

@[simp] theorem bytes_push (q : ByteQueue) (more : Bytes) :
    (q.push more).bytes = q.bytes ++ more := by
  unfold push
  dsimp only
  split <;> simp

@[simp] theorem bytes_drop (q : ByteQueue) (n : Nat) : (q.drop n).bytes = q.bytes.drop n := by
  unfold drop
  split
  · next used => simp [bytes, List.drop_append, used]
  · next left =>
    have : n - q.front.length = 0 := by
      have := List.length_pos_iff.mpr left
      rw [List.length_drop] at this
      omega
    simp [bytes, List.drop_append, this]

/-- What is added to an empty queue lies in its front. -/
theorem front_push {q : ByteQueue} (none : q.bytes = []) (more : Bytes) :
    (q.push more).front = more := by
  have start : q.head = 0 := q.head_eq_zero_of_bytes none
  have back : q.back = [] := (List.append_eq_nil_iff.mp none).2
  have grown (capacity : Nat) : q.grownHead capacity = 0 := by simp [grownHead, back, start]
  unfold push
  dsimp only
  split
  · next fits =>
    rw [none, List.nil_append] at fits
    simp [ofBytes, none, start, List.take_of_length_le fits]
  · have room : more.length ≤ max (2 * q.capacity) more.length := by omega
    simp [ofBytes, none, grown, List.take_of_length_le room]

/-- Adding nothing to an empty queue leaves it as it is. -/
theorem push_nil {q : ByteQueue} (none : q.bytes = []) : q.push [] = q := by
  obtain ⟨front, back⟩ := List.append_eq_nil_iff.mp none
  rw [push, dif_pos (by simp [none])]
  cases q
  simp_all [ofBytes, bytes]

end ByteQueue

instance : Fifo ByteQueue where
  empty := .empty
  front := ByteQueue.front
  back := ByteQueue.back
  push := ByteQueue.push
  drop := ByteQueue.drop
  clear := ByteQueue.clear
  back_eq_nil := ByteQueue.back_eq_nil
  chunks_empty := rfl
  chunks_push := ByteQueue.bytes_push
  chunks_drop := ByteQueue.bytes_drop
  chunks_clear := ByteQueue.bytes_clear

end StreamTransport
