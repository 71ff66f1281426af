import StreamTransport.Target

/-!
# The grammar of endpoints

How an endpoint begins decides what it may name: a slash, a bar, the scheme of
VSOCK, or none of these. Each form restricts the port or what follows, and an
endpoint that breaks the restriction of its form names nothing. A context id is
a decimal numeral of any length, behind at most one plus sign.
-/

set_option autoImplicit false

namespace StreamTransport

namespace Text

/-- Digits and nothing else, at least one of them, and the number they spell. -/
structure Decimal (cs : List Char) (value : Nat) : Prop where
  nonempty : cs ≠ []
  digits : ∀ c ∈ cs, c.isDigit = true
  spelled : Nat.ofDigitChars 10 cs 0 = value

theorem isDigit_iff {c : Char} : c.isDigit = true ↔ '0' ≤ c ∧ c ≤ '9' := by
  simp [Char.isDigit, Char.le_def]

/-- The digits of base ten are the decimal digits. -/
theorem digit?_ten (c : Char) :
    digit? 10 c = if c.isDigit then some (c.toNat - '0'.toNat) else none := by
  have letter : ∀ n, (some (n + 10)).filter (fun value => decide (value < 10)) = none := by simp
  unfold digit?
  by_cases digit : c.isDigit = true
  · have small : c.toNat - '0'.toNat < 10 := by
      have upper : c.toNat ≤ '9'.toNat := (isDigit_iff.mp digit).2
      have nine : '9'.toNat = '0'.toNat + 9 := rfl
      omega
    rw [if_pos digit, if_pos (isDigit_iff.mp digit)]
    exact if_pos (decide_eq_true small)
  · rw [if_neg digit, if_neg (mt isDigit_iff.mpr digit)]
    split
    · exact letter _
    · split
      · exact letter _
      · rfl

theorem mapM_digit?_ten (cs : List Char) :
    cs.mapM (digit? 10) =
      if cs.all Char.isDigit then some (cs.map fun c => c.toNat - '0'.toNat) else none := by
  induction cs with
  | nil => rfl
  | cons c cs ih =>
    rw [List.mapM_cons, digit?_ten, ih]
    cases first : c.isDigit <;> cases rest : cs.all Char.isDigit <;> simp [first, rest]

theorem numeral?_ten_eq_some_iff {cs : List Char} {value : Nat} :
    numeral? 10 cs = some value ↔ Decimal cs value := by
  have spelled : ofDigits 10 (cs.map fun c => c.toNat - '0'.toNat) =
      Nat.ofDigitChars 10 cs 0 := by
    rw [ofDigits, Nat.ofDigitChars_eq_foldl, List.foldl_map]
  simp only [numeral?, mapM_digit?_ten, Option.map_if, spelled, Option.ite_none_left_eq_some,
    Option.ite_none_right_eq_some, Option.some.injEq, List.all_eq_true, List.isEmpty_iff]
  constructor
  · rintro ⟨nonempty, digits, same⟩
    exact ⟨nonempty, digits, same⟩
  · rintro ⟨nonempty, digits, same⟩
    exact ⟨nonempty, digits, same⟩

theorem decimal_toDigits (n : Nat) : Decimal (Nat.toDigits 10 n) n where
  nonempty := Nat.toDigits_ne_nil
  digits := fun _ => Nat.isDigit_of_mem_toDigits (by decide) (by decide)
  spelled := Nat.ofDigitChars_ten_toDigits

end Text

namespace Target

open Text

/-- A decimal numeral, as it stands or behind one plus sign. -/
inductive SignedDecimal : List Char → Nat → Prop
  | plain {digits : List Char} {value : Nat} (decimal : Decimal digits value) :
      SignedDecimal digits value
  | plus {digits : List Char} {value : Nat} (decimal : Decimal digits value) :
      SignedDecimal ('+' :: digits) value

theorem contextId?_eq_some_iff {cs : List Char} {cid : UInt32} :
    contextId? cs = some cid ↔ SignedDecimal cs cid.toNat := by
  have numeral : ∀ digits : List Char,
      (numeralBelow? 10 0x100000000 digits).map UInt32.ofNat = some cid ↔
        Decimal digits cid.toNat := by
    intro digits
    simp only [numeralBelow?, Option.map_eq_some_iff, Option.filter_eq_some_iff,
      numeral?_ten_eq_some_iff, decide_eq_true_eq]
    constructor
    · rintro ⟨value, ⟨decimal, small⟩, rfl⟩
      rwa [UInt32.toNat_ofNat_of_lt' small]
    · intro decimal
      exact ⟨cid.toNat, ⟨decimal, cid.toNat_lt⟩, UInt32.ofNat_toNat⟩
  unfold contextId?
  split
  · rename_i digits
    rw [numeral]
    constructor
    · exact .plus
    · intro signed
      cases signed with
      | plus decimal => exact decimal
      | plain decimal => exact absurd (decimal.digits '+' List.mem_cons_self) (by decide)
  · rename_i unsigned
    rw [numeral]
    constructor
    · exact .plain
    · intro signed
      cases signed with
      | plus _ => exact absurd rfl (unsigned _)
      | plain decimal => exact decimal

/-- An endpoint that is a host name, if it is not empty. -/
structure IsHost (endpoint : String) : Prop where
  noSlash : endpoint.toList.head? ≠ some '/'
  noBar : endpoint.toList.head? ≠ some '|'
  noScheme : ∀ rest, endpoint ≠ "vsock://" ++ rest

/-- What an endpoint and its port name, and what is wrong where they name nothing. -/
inductive Classified (endpoint : String) (port : UInt32) : Except Fault Target → Prop
  | path (slash : endpoint.toList.head? = some '/') :
      Classified endpoint port (.ok (.unix ⟨utf8 endpoint⟩))
  | handedIn (bar : endpoint.toList.head? = some '|') (fits : port.toNat ≤ 0x7FFFFFFF) :
      Classified endpoint port (.ok (.external port.toNat))
  | noDescriptor (bar : endpoint.toList.head? = some '|') (large : 0x7FFFFFFF < port.toNat) :
      Classified endpoint port (.error (.descriptorOutOfRange port))
  | machine {rest : String} {cid : UInt32} (scheme : endpoint = "vsock://" ++ rest)
      (spelled : SignedDecimal rest.toList cid.toNat) :
      Classified endpoint port (.ok (.vsock ⟨cid, port⟩))
  | noMachine {rest : String} (scheme : endpoint = "vsock://" ++ rest)
      (unspelled : ∀ value, value < 0x100000000 → ¬ SignedDecimal rest.toList value) :
      Classified endpoint port (.error (.badContextId endpoint))
  | nothing (empty : endpoint = "") : Classified endpoint port (.error .emptyHost)
  | host (name : IsHost endpoint) (nonempty : endpoint ≠ "") (fits : port.toNat ≤ 65535) :
      Classified endpoint port (.ok (.host endpoint port.toUInt16))
  | noPort (name : IsHost endpoint) (nonempty : endpoint ≠ "") (large : 65535 < port.toNat) :
      Classified endpoint port (.error (.portOutOfRange port))

section

variable {endpoint : String} {port : UInt32} {outcome : Except Fault Target}

theorem afterScheme?_eq_some_iff {scheme cs rest : List Char} :
    afterScheme? scheme cs = some rest ↔ cs = scheme ++ rest := by
  unfold afterScheme?
  constructor
  · intro h
    split at h
    · rename_i begins
      obtain ⟨behind, rfl⟩ := List.isPrefixOf_iff_prefix.mp begins
      rw [List.drop_left] at h
      rw [Option.some.inj h]
    · contradiction
  · rintro rfl
    rw [if_pos (List.isPrefixOf_iff_prefix.mpr (List.prefix_append _ _)), List.drop_left]

theorem scheme_iff {rest : String} :
    endpoint = "vsock://" ++ rest ↔ endpoint.toList = vsockScheme ++ rest.toList := by
  rw [← String.toList_inj, String.toList_append]
  rfl

theorem ofEndpoint_of_slash (slash : endpoint.toList.head? = some '/') :
    ofEndpoint endpoint port = .ok (.unix ⟨utf8 endpoint⟩) := by
  obtain ⟨rest, chars⟩ := List.head?_eq_some_iff.mp slash
  simp only [ofEndpoint, chars]

theorem ofEndpoint_of_bar (bar : endpoint.toList.head? = some '|') :
    ofEndpoint endpoint port =
      if port.toNat < 0x80000000 then .ok (.external port.toNat)
      else .error (.descriptorOutOfRange port) := by
  obtain ⟨rest, chars⟩ := List.head?_eq_some_iff.mp bar
  simp only [ofEndpoint, chars]

theorem ofEndpoint_of_scheme {rest : String} (scheme : endpoint = "vsock://" ++ rest) :
    ofEndpoint endpoint port =
      match contextId? rest.toList with
      | some cid => .ok (.vsock ⟨cid, port⟩)
      | none => .error (.badContextId endpoint) := by
  have after : afterScheme? vsockScheme (vsockScheme ++ rest.toList) = some rest.toList :=
    afterScheme?_eq_some_iff.mpr rfl
  unfold ofEndpoint
  simp only [scheme_iff.mp scheme, after]
  rfl

theorem ofEndpoint_of_isHost (name : IsHost endpoint) (nonempty : endpoint ≠ "") :
    ofEndpoint endpoint port =
      if port.toNat < 0x10000 then .ok (.host endpoint (UInt16.ofNat port.toNat))
      else .error (.portOutOfRange port) := by
  have unschemed : afterScheme? vsockScheme endpoint.toList = none := by
    rw [Option.eq_none_iff_forall_ne_some]
    intro rest after
    have begins := afterScheme?_eq_some_iff.mp after
    exact name.noScheme (String.ofList rest) (scheme_iff.mpr (by rw [begins, String.toList_ofList]))
  have slash := name.noSlash
  have bar := name.noBar
  unfold ofEndpoint
  cases chars : endpoint.toList with
  | nil => exact absurd (String.toList_eq_nil_iff.mp chars) nonempty
  | cons c rest =>
    rw [chars] at unschemed slash bar
    simp only [List.head?_cons, ne_eq, Option.some.injEq] at slash bar
    simp [unschemed, slash, bar]

theorem Classified.ofEndpoint_eq (classified : Classified endpoint port outcome) :
    ofEndpoint endpoint port = outcome := by
  cases classified with
  | path slash => exact ofEndpoint_of_slash slash
  | handedIn bar fits => rw [ofEndpoint_of_bar bar, if_pos (by omega)]
  | noDescriptor bar large => rw [ofEndpoint_of_bar bar, if_neg (by omega)]
  | machine scheme spelled =>
    rw [ofEndpoint_of_scheme scheme, contextId?_eq_some_iff.mpr spelled]
  | @noMachine rest scheme unspelled =>
    have none : contextId? rest.toList = none := by
      rw [Option.eq_none_iff_forall_ne_some]
      intro cid found
      exact unspelled cid.toNat cid.toNat_lt (contextId?_eq_some_iff.mp found)
    rw [ofEndpoint_of_scheme scheme, none]
  | nothing empty => rw [empty]; rfl
  | host name nonempty fits =>
    rw [ofEndpoint_of_isHost name nonempty, if_pos (by omega)]
    rfl
  | noPort name nonempty large => rw [ofEndpoint_of_isHost name nonempty, if_neg (by omega)]

theorem classified_ofEndpoint (endpoint : String) (port : UInt32) :
    Classified endpoint port (ofEndpoint endpoint port) := by
  by_cases slash : endpoint.toList.head? = some '/'
  · rw [ofEndpoint_of_slash slash]
    exact .path slash
  by_cases bar : endpoint.toList.head? = some '|'
  · rw [ofEndpoint_of_bar bar]
    split
    · exact .handedIn bar (by omega)
    · exact .noDescriptor bar (by omega)
  by_cases scheme : ∃ rest, endpoint = "vsock://" ++ rest
  · obtain ⟨rest, scheme⟩ := scheme
    rw [ofEndpoint_of_scheme scheme]
    split
    · rename_i cid found
      exact .machine scheme (contextId?_eq_some_iff.mp found)
    · rename_i none
      refine .noMachine scheme fun value small spelled => ?_
      have found : contextId? rest.toList = some (UInt32.ofNat value) :=
        contextId?_eq_some_iff.mpr (by rwa [UInt32.toNat_ofNat_of_lt' small])
      rw [none] at found
      contradiction
  by_cases empty : endpoint = ""
  · rw [empty]
    exact .nothing rfl
  have name : IsHost endpoint := ⟨slash, bar, not_exists.mp scheme⟩
  rw [ofEndpoint_of_isHost name empty]
  split
  · exact .host name empty (by omega)
  · exact .noPort name empty (by omega)

/-- An endpoint and its port name what the grammar says, and nothing where it says why; a context
id that is written out in full names itself. -/
theorem endpoints_classified (endpoint : String) (port : UInt32) :
    (∀ outcome, ofEndpoint endpoint port = outcome ↔ Classified endpoint port outcome) ∧
    (∀ fault : Fault, fault.toError = .invalidTarget fault.message ∧
      fault.toError.code = .connectFailed) ∧
    ∀ cid : UInt32, ofEndpoint ("vsock://" ++ toString cid.toNat) port =
      .ok (.vsock ⟨cid, port⟩) := by
  refine ⟨fun outcome => ⟨?_, Classified.ofEndpoint_eq⟩, fun fault => ⟨rfl, rfl⟩, fun cid => ?_⟩
  · rintro rfl
    exact classified_ofEndpoint endpoint port
  · have spelled : SignedDecimal (toString cid.toNat).toList cid.toNat := by
      rw [Nat.toString_eq_ofList_toDigits, String.toList_ofList]
      exact .plain (decimal_toDigits cid.toNat)
    exact (Classified.machine rfl spelled).ofEndpoint_eq

example : ofEndpoint "vsock://+007" 9 = .ok (.vsock ⟨7, 9⟩) := rfl

end

end Target
end StreamTransport
