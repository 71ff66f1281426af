import StreamTransport.Octets

/-!
# Text

Bytes that spell UTF-8 are read as their characters. Where they do not, each
maximal part that begins a character and cannot be completed is read as one
replacement character, and so is each byte that begins none.

A numeral is digits in a base up to 16, in either case, most significant first.
It has at least one digit and nothing else.
-/

set_option autoImplicit false

namespace StreamTransport.Text

/-! ### Arbitrary bytes -/

/-- What a lead byte announces: how many bytes follow it, and the range of the first of those. -/
def announced (lead : UInt8) : Option (Nat × Nat × Nat) :=
  let n := lead.toNat
  if n ≤ 0x7F then some (0, 0x80, 0xBF)
  else if n < 0xC2 then none
  else if n ≤ 0xDF then some (1, 0x80, 0xBF)
  else if n = 0xE0 then some (2, 0xA0, 0xBF)
  else if n = 0xED then some (2, 0x80, 0x9F)
  else if n ≤ 0xEF then some (2, 0x80, 0xBF)
  else if n = 0xF0 then some (3, 0x90, 0xBF)
  else if n ≤ 0xF3 then some (3, 0x80, 0xBF)
  else if n = 0xF4 then some (3, 0x80, 0x8F)
  else none

/-- The continuation bytes in front, at most `owed`, the first of them between `low` and `high`;
and whether all that are owed were found. -/
def tails : Nat → Nat → Nat → Bytes → Bytes × Bool
  | 0, _, _, _ => ([], true)
  | _ + 1, _, _, [] => ([], false)
  | owed + 1, low, high, b :: rest =>
    if low ≤ b.toNat ∧ b.toNat ≤ high then
      let more := tails owed 0x80 0xBF rest
      (b :: more.1, more.2)
    else ([], false)

/-- The character that a lead byte and its continuation bytes spell. -/
def scalar (lead : UInt8) (found : Bytes) : Char :=
  let start :=
    match found.length with
    | 0 => lead.toNat
    | 1 => lead.toNat - 0xC0
    | 2 => lead.toNat - 0xE0
    | _ => lead.toNat - 0xF0
  Char.ofNat (found.foldl (fun value b => 64 * value + (b.toNat - 0x80)) start)

def replacement : Char := Char.ofNat 0xFFFD

def lossyChars : Bytes → List Char
  | [] => []
  | lead :: rest =>
    match announced lead with
    | none => replacement :: lossyChars rest
    | some (owed, low, high) =>
      let part := tails owed low high rest
      (if part.2 then scalar lead part.1 else replacement) ::
        lossyChars (rest.drop part.1.length)
termination_by bs => bs.length
decreasing_by
  · simp
  · simp only [List.length_drop, List.length_cons]; omega

def lossy (bs : Bytes) : String := String.ofList (lossyChars bs)

/-- The bytes of a text, in UTF-8. -/
def utf8 (s : String) : Bytes := s.toUTF8.toList

/-! ### Numerals -/

/-- The value of one character as a digit. -/
def digit? (base : Nat) (c : Char) : Option Nat :=
  let value :=
    if '0' ≤ c ∧ c ≤ '9' then some (c.toNat - '0'.toNat)
    else if 'a' ≤ c ∧ c ≤ 'f' then some (c.toNat - 'a'.toNat + 10)
    else if 'A' ≤ c ∧ c ≤ 'F' then some (c.toNat - 'A'.toNat + 10)
    else none
  value.filter (· < base)

def ofDigits (base : Nat) (digits : List Nat) : Nat :=
  digits.foldl (fun value d => base * value + d) 0

def numeral? (base : Nat) (cs : List Char) : Option Nat :=
  if cs.isEmpty then none else (cs.mapM (digit? base)).map (ofDigits base)

/-- A numeral whose value is below `limit`. -/
def numeralBelow? (base limit : Nat) (cs : List Char) : Option Nat :=
  (numeral? base cs).filter (· < limit)

end StreamTransport.Text
