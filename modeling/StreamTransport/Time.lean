/-!
# Spans of time

A span is a number of nanoseconds. It is written in the largest of seconds,
milliseconds, microseconds and nanoseconds of which it holds at least one, with
an exact decimal fraction and no trailing zeros.
-/

set_option autoImplicit false

namespace StreamTransport

structure Duration where
  nanos : Nat
  deriving DecidableEq, Repr

namespace Duration

def zero : Duration := ⟨0⟩

def ofMillis (ms : Nat) : Duration := ⟨ms * 1000000⟩

def ofParts (secs nanos : Nat) : Duration := ⟨secs * 1000000000 + nanos⟩

/-- The longest span: the largest 64-bit number of seconds, and the fraction below the next. -/
def longest : Duration := ofParts 0xFFFFFFFFFFFFFFFF 999999999

/-- Milliseconds, a part of one counted as a whole. -/
def millisUp (d : Duration) : Nat := (d.nanos + 999999) / 1000000

/-- Digits behind the point for `rest` out of a unit with that many places. -/
def fraction (rest places : Nat) : String :=
  let digits := Nat.toDigits 10 rest
  let padded := List.replicate (places - digits.length) '0' ++ digits
  String.ofList (padded.reverse.dropWhile (· == '0')).reverse

def quantity (whole rest places : Nat) (unit : String) : String :=
  toString whole ++ (if rest = 0 then "" else "." ++ fraction rest places) ++ unit

def text (d : Duration) : String :=
  if 1000000000 ≤ d.nanos then quantity (d.nanos / 1000000000) (d.nanos % 1000000000) 9 "s"
  else if 1000000 ≤ d.nanos then quantity (d.nanos / 1000000) (d.nanos % 1000000) 6 "ms"
  else if 1000 ≤ d.nanos then quantity (d.nanos / 1000) (d.nanos % 1000) 3 "µs"
  else quantity d.nanos 0 0 "ns"

theorem le_millisUp (d : Duration) : d.nanos ≤ d.millisUp * 1000000 := by
  simp only [millisUp]; omega

theorem millisUp_lt (d : Duration) : d.millisUp * 1000000 < d.nanos + 1000000 := by
  simp only [millisUp]; omega

theorem millisUp_eq_zero_iff (d : Duration) : d.millisUp = 0 ↔ d.nanos = 0 := by
  simp only [millisUp]; omega

end Duration
end StreamTransport
