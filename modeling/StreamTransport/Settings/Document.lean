/-!
# Documents

The tree that settings are read from and written to. A number is an integer or
a fraction, and only an integer is ever accepted. A structure may be spelled as
a record of named fields or as a list of its fields in order of declaration. A
record may not name a field of the structure twice, though it may repeat a name
that the structure does not know. A list may stop early and may not go on past
the last field.
-/

set_option autoImplicit false

namespace StreamTransport

inductive Document where
  | null
  | flag (value : Bool)
  | integer (value : Int)
  | fraction (digits : Int) (places : Nat)
  | text (value : String)
  | list (items : List Document)
  | record (fields : List (String × Document))
  deriving Inhabited

namespace Document

/-- None of the names stands more than once. -/
def Once (names : List String) (fields : List (String × Document)) : Prop :=
  ∀ name ∈ names, (fields.map Prod.fst).count name ≤ 1

instance (names : List String) (fields : List (String × Document)) :
    Decidable (Once names fields) :=
  inferInstanceAs (Decidable (∀ name ∈ names, (fields.map Prod.fst).count name ≤ 1))

/-- The fields of a structure, in either spelling. -/
def fields? (names : List String) : Document → Option (List (String × Document))
  | record fields => if Once names fields then some fields else none
  | list items => if items.length ≤ names.length then some (names.zip items) else none
  | _ => none

def field? (name : String) (fields : List (String × Document)) : Option Document :=
  fields.lookup name

/-- A field that may be absent. -/
def readField {α : Type} (fields : List (String × Document)) (name : String)
    (read : Document → Option α) (absent : α) : Option α :=
  match field? name fields with
  | none => some absent
  | some value => read value

def readFlag : Document → Option Bool
  | flag value => some value
  | _ => none

def readText : Document → Option String
  | text value => some value
  | _ => none

/-- An integer from 0 on and below `limit`. -/
def readBelow (limit : Nat) : Document → Option Nat
  | integer value => if 0 ≤ value ∧ value < limit then some value.toNat else none
  | _ => none

def readWord (value : Document) : Option UInt32 := (readBelow 0x100000000 value).map UInt32.ofNat

def readPort (value : Document) : Option UInt16 := (readBelow 0x10000 value).map UInt16.ofNat

/-- A value that may be given as nothing. -/
def readOptional {α : Type} (read : Document → Option α) : Document → Option (Option α)
  | null => some none
  | value => (read value).map some

def readList {α : Type} (read : Document → Option α) : Document → Option (List α)
  | list items => items.mapM read
  | _ => none

theorem readWord_integer (n : UInt32) : readWord (integer n.toNat) = some n := by
  have h := n.toNat_lt
  simp [readWord, readBelow]
  omega

theorem readPort_integer (n : UInt16) : readPort (integer n.toNat) = some n := by
  have h := n.toNat_lt
  simp [readPort, readBelow]
  omega

end Document
end StreamTransport
