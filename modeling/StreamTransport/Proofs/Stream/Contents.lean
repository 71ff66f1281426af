import Mathlib.Algebra.Ring.Nat
import Mathlib.Data.List.DropRight
import StreamTransport.Stream.Queue

/-!
# What a queue holds

A queue is pushed to, dropped from and cleared, in any order. A drop may ask for more
than there is, and then takes what there is. So since the last clear a queue has lost
as many bytes as its drops asked for, each counted up to the length it found, and they
are the first of those pushed since.

The laws of a queue are enough for this. In a ring they hold although its content may
be wrapped around, and through every change of its size.
-/

set_option autoImplicit false

namespace StreamTransport

namespace Fifo

inductive Operation where
  | push (data : Bytes)
  | drop (count : Nat)
  | clear
  deriving DecidableEq, Repr

namespace Operation

variable {Q : Type} [Fifo Q]

def isClear : Operation → Bool
  | clear => true
  | _ => false

def bytes : Operation → Bytes
  | push data => data
  | _ => []

def pushed (ops : List Operation) : Bytes := ops.flatMap bytes

/-- The operations from the last clear on, without it. -/
def sinceClear (ops : List Operation) : List Operation := ops.rtakeWhile fun op => !op.isClear

/-- The operations up to the last clear. -/
def untilClear (ops : List Operation) : List Operation := ops.rdropWhile fun op => !op.isClear

def apply (q : Q) : Operation → Q
  | push data => Fifo.push q data
  | drop count => Fifo.drop q count
  | clear => Fifo.clear q

def run (q : Q) : List Operation → Q
  | [] => q
  | op :: ops => run (op.apply q) ops

/-- The counts of the drops, each cut to the length that the queue has at that moment. -/
def cuts (q : Q) : List Operation → List Nat
  | [] => []
  | drop count :: ops => min count (length q) :: cuts (Fifo.drop q count) ops
  | op :: ops => cuts (op.apply q) ops

theorem run_append (q : Q) (ops rest : List Operation) :
    run q (ops ++ rest) = run (run q ops) rest := by
  induction ops generalizing q with
  | nil => rfl
  | cons op ops ih => exact ih _

theorem pushed_cons (op : Operation) (ops : List Operation) :
    pushed (op :: ops) = op.bytes ++ pushed ops := rfl

end Operation

open Operation

variable {Q : Type} [Fifo Q]

/-- A cut takes nothing of what comes after. -/
theorem drop_cut (held more : Bytes) (count : Nat) :
    (held ++ more).drop (min count held.length) = held.drop count ++ more := by
  rw [List.drop_append_of_le_length (Nat.min_le_right _ _)]
  congr 1
  by_cases h : count ≤ held.length
  · rw [Nat.min_eq_left h]
  · rw [Nat.min_eq_right (by omega), List.drop_length, List.drop_of_length_le (by omega)]

/-- Without a clear, what was held at first and then what was pushed leaves in that order. -/
theorem bytes_run (q : Q) (ops : List Operation) (kept : ∀ op ∈ ops, op.isClear = false) :
    bytes (run q ops) = (bytes q ++ pushed ops).drop (cuts q ops).sum := by
  induction ops generalizing q with
  | nil => simp [run, cuts, pushed]
  | cons op ops ih =>
    have rest := ih (op.apply q) fun op h => kept op (List.mem_cons_of_mem _ h)
    rw [run, rest, pushed_cons]
    cases op with
    | push data => simp [apply, cuts, Operation.bytes]
    | drop count =>
      rw [cuts, List.sum_cons, ← List.drop_drop, ← length_bytes]
      show _ = ((bytes q ++ pushed ops).drop _).drop _
      rw [drop_cut, apply, bytes_drop]
    | clear => exact absurd (kept .clear List.mem_cons_self) (by decide)

theorem bytes_run_untilClear {q : Q} (bare : bytes q = []) (ops : List Operation) :
    bytes (run q (untilClear ops)) = [] := by
  -- from the last operation backwards, until the first clear that is met
  induction ops using List.reverseRecOn with
  | nil => exact bare
  | append_singleton ops op ih =>
    rw [untilClear, List.rdropWhile_concat]
    cases op with
    | push data => exact ih
    | drop count => exact ih
    | clear =>
      show bytes (run q (ops ++ [.clear])) = []
      rw [run_append]
      exact bytes_clear _

/-- What a queue holds that held nothing at first. -/
theorem bytes_run_of_bare {q : Q} (bare : bytes q = []) (ops : List Operation) :
    bytes (run q ops) =
      (pushed (sinceClear ops)).drop (cuts (run q (untilClear ops)) (sinceClear ops)).sum := by
  have parted : untilClear ops ++ sinceClear ops = ops := List.rdropWhile_append_rtakeWhile
  have kept : ∀ op ∈ sinceClear ops, op.isClear = false := by
    intro op h
    have := List.mem_rtakeWhile_imp h
    simpa using this
  calc bytes (run q ops)
      = bytes (run (run q (untilClear ops)) (sinceClear ops)) := by rw [← run_append, parted]
    _ = _ := by rw [bytes_run _ _ kept, bytes_run_untilClear bare, List.nil_append]

end Fifo

namespace ByteQueue

open Fifo.Operation

/-- A new queue, which is also the default one, holds after any operations what was pushed to it
since the last clear, without as many of the first bytes as the drops since then asked for, each
counted up to the length that it found. So says its length, and it and its first chunk are empty
exactly if that is nothing. -/
theorem bytes_of_history (ops : List Fifo.Operation) :
    let q : ByteQueue := run .empty ops
    let cleared : ByteQueue := run .empty (untilClear ops)
    let content := (pushed (sinceClear ops)).drop (cuts cleared (sinceClear ops)).sum
    q = run default ops ∧ q.front ++ q.back = content ∧ q.length = content.length ∧
      (q.isEmpty = true ↔ content = []) ∧ (q.front = [] ↔ content = []) := by
  intro q cleared content
  have holds : q.bytes = content := Fifo.bytes_run_of_bare (q := ByteQueue.empty) rfl ops
  rw [← holds]
  exact ⟨rfl, rfl, (length_bytes q).symm, isEmpty_iff q, front_eq_nil_iff q⟩

end ByteQueue
end StreamTransport
