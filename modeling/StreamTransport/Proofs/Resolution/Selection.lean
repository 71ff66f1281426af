import StreamTransport.Resolution

/-!
# What a forced family finds

A search for a family is answered by the first candidate of that family, and by
nothing only where there is none. With a forced family the choice answers such a
search, but the search starts behind whatever a preference for version 6 has
passed over. So the requirement is met in full except where version 4 is forced,
version 6 preferred, and a version 4 candidate stands before the first of
version 6: that candidate is not found.
-/

set_option autoImplicit false

namespace StreamTransport.Resolution

def familyAt (r : Resolution) (i : Nat) : Option Family := r.candidates[i]?.map Candidate.family

/-- The first place from `start` on where a family is found. -/
structure IsFirst (r : Resolution) (start : Nat) (family : Family) (i : Nat) : Prop where
  start_le : start ≤ i
  found : r.familyAt i = some family
  least : ∀ j, start ≤ j → j < i → r.familyAt j ≠ some family

theorem IsFirst.unique {r : Resolution} {start : Nat} {family : Family} {i j : Nat}
    (h : r.IsFirst start family i) (h' : r.IsFirst start family j) : i = j := by
  rcases Nat.lt_trichotomy i j with before | same | behind
  · exact absurd h.found (h'.least i h.start_le before)
  · exact same
  · exact absurd h'.found (h.least j h'.start_le behind)

/-- A search from `start` on is answered by the first place, or by none if there is none. -/
def Answers (r : Resolution) (start : Nat) (family : Family) : Option Nat → Prop
  | some i => r.IsFirst start family i
  | none => ∀ i, start ≤ i → r.familyAt i ≠ some family

variable (r : Resolution) (start : Nat) (family : Family)

theorem familyAt_add (i : Nat) :
    r.familyAt (start + i) = (r.candidates.drop start)[i]?.map Candidate.family := by
  rw [familyAt, List.getElem?_drop]

def firstFrom (start : Nat) (family : Family) : Option Nat :=
  (firstOf family (r.candidates.drop start)).map fun i => start + i

theorem answers_firstFrom : r.Answers start family (r.firstFrom start family) := by
  unfold firstFrom
  cases found : firstOf family (r.candidates.drop start) with
  | none =>
    intro i later same
    obtain ⟨k, rfl⟩ := Nat.exists_eq_add_of_le later
    rw [familyAt_add, Option.map_eq_some_iff] at same
    obtain ⟨c, here, fits⟩ := same
    have other := List.findIdx?_eq_none_iff.mp found c (List.mem_of_getElem? here)
    simp [fits] at other
  | some k =>
    obtain ⟨bound, fits, before⟩ := List.findIdx?_eq_some_iff_getElem.mp found
    constructor
    · exact Nat.le_add_right start k
    · rw [familyAt_add, List.getElem?_eq_getElem bound]
      simpa using fits
    · intro j later earlier same
      obtain ⟨i, rfl⟩ := Nat.exists_eq_add_of_le later
      have here : i < k := Nat.lt_of_add_lt_add_left earlier
      rw [familyAt_add, List.getElem?_eq_getElem (Nat.lt_trans here bound)] at same
      exact before i here (by simpa using same)

/-- A search from further on answers the whole search where nothing was passed over, and only
there. -/
theorem answers_from_later {answer : Option Nat} {later : Nat} (behind : start ≤ later)
    (answered : r.Answers later family answer) :
    r.Answers start family answer ↔
      ∀ i, start ≤ i → i < later → r.familyAt i ≠ some family := by
  -- both answers settle what stands from `later` on, so only what is in front of it is open
  cases answer with
  | none =>
    constructor
    · intro lacking i after _
      exact lacking i after
    · intro passed i after
      by_cases before : i < later
      · exact passed i after before
      · exact answered i (Nat.not_lt.mp before)
  | some k =>
    obtain ⟨later_le, found, least⟩ := answered
    constructor
    · intro first i after before
      exact first.least i after (by omega)
    · intro passed
      constructor
      · omega
      · exact found
      · intro j after earlier
        by_cases before : j < later
        · exact passed j after before
        · exact least j (Nat.not_lt.mp before) earlier

/-- Where a requirement starts to look: at the preferred candidate, if there is one. -/
def searchStart (start : Nat) (preferIpv6 : Bool) : Nat :=
  if preferIpv6 then (r.firstFrom start .inet6).getD start else start

theorem le_searchStart (preferIpv6 : Bool) : start ≤ r.searchStart start preferIpv6 := by
  have preferred := r.answers_firstFrom start .inet6
  unfold searchStart
  cases found : r.firstFrom start .inet6 with
  | none => simp
  | some k =>
    rw [found] at preferred
    cases preferIpv6 with
    | false => exact Nat.le_refl start
    | true => exact preferred.start_le

theorem searchStart_eq (preferIpv6 : Bool) :
    r.searchStart start preferIpv6 =
      start + if preferIpv6 then (firstOf .inet6 (r.candidates.drop start)).getD 0 else 0 := by
  unfold searchStart firstFrom
  cases preferIpv6 with
  | false => rfl
  | true => cases firstOf .inet6 (r.candidates.drop start) <;> rfl

/-- A choice with a forced family is a search for that family. -/
theorem select_forced (preferIpv6 : Bool) (forced : IpVersion) :
    r.select start ⟨preferIpv6, some forced⟩ =
      r.firstFrom (r.searchStart start preferIpv6) forced.family := by
  unfold select
  by_cases past : (r.candidates.drop start).isEmpty
  · -- a search past the end finds nothing to prefer and nothing to force
    have nothing : r.candidates.drop (r.searchStart start preferIpv6) = [] := by
      rw [searchStart_eq, ← List.drop_drop, List.isEmpty_iff.mp past, List.drop_nil]
    simp only [past, if_true, firstFrom, nothing]
    rfl
  · simp only [past, firstFrom, searchStart_eq, List.drop_drop]
    rfl

/-- A version 4 candidate stands before the first of version 6. -/
def PassedOver : Prop :=
  ∃ k, r.IsFirst start .inet6 k ∧ ∃ i, start ≤ i ∧ i < k ∧ r.familyAt i = some .inet

/-- A preference leaves behind what is in front of the first version 6 candidate. -/
theorem passed_iff (preferIpv6 : Bool) (forced : IpVersion) :
    (∃ i, start ≤ i ∧ i < r.searchStart start preferIpv6 ∧ r.familyAt i = some forced.family) ↔
      preferIpv6 = true ∧ forced = .ipv4 ∧ r.PassedOver start := by
  have preferred := r.answers_firstFrom start .inet6
  unfold searchStart
  cases preferIpv6 with
  | false =>
    simp only [Bool.false_eq_true, if_false, false_and, iff_false]
    rintro ⟨i, after, before, -⟩
    omega
  | true =>
    cases found : r.firstFrom start .inet6 with
    | none =>
      rw [found] at preferred
      constructor
      · rintro ⟨i, after, before, -⟩
        exact absurd before (Nat.not_lt.mpr after)
      · rintro ⟨-, -, k, first, -⟩
        exact absurd first.found (preferred k first.start_le)
    | some k =>
      rw [found] at preferred
      constructor
      · rintro ⟨i, after, before, fits⟩
        cases forced with
        | ipv4 => exact ⟨rfl, rfl, k, preferred, i, after, before, fits⟩
        | ipv6 => exact absurd fits (preferred.least i after before)
      · rintro ⟨-, rfl, k', first, i, after, before, fits⟩
        obtain rfl := first.unique preferred
        exact ⟨i, after, before, fits⟩

/-- What is chosen under a forced family answers the search for it from where a preference for
version 6 leads, and the whole search unless it is for version 4 and a candidate was passed over. -/
theorem forced_family_found (preferIpv6 : Bool) (forced : IpVersion) :
    (r.Answers start forced.family (r.select start ⟨preferIpv6, some forced⟩) ↔
      ¬ (preferIpv6 = true ∧ forced = .ipv4 ∧ r.PassedOver start)) ∧
    r.Answers (r.searchStart start preferIpv6) forced.family
      (r.select start ⟨preferIpv6, some forced⟩) := by
  have answered : r.Answers (r.searchStart start preferIpv6) forced.family
      (r.select start ⟨preferIpv6, some forced⟩) := by
    rw [select_forced]
    exact r.answers_firstFrom _ _
  have whole := r.answers_from_later start _ (r.le_searchStart start preferIpv6) answered
  constructor
  · rw [whole, ← passed_iff]
    simp only [not_exists, not_and, ne_eq]
  · exact answered

/-- A version 4 candidate in front of one of version 6. -/
def mixedPair : Resolution :=
  ⟨[.stream (.inet ⟨.loopback, 1⟩), .stream (.inet6 ⟨.unspecified, 1, 0, 0⟩)]⟩

/-- The preference hides the candidate that is forced, which is found without it. -/
theorem forced_family_hidden :
    mixedPair.IsFirst 0 .inet 0 ∧ mixedPair.select 0 ⟨true, some .ipv4⟩ = none ∧
      mixedPair.select 0 ⟨false, some .ipv4⟩ = some 0 := by
  have first : mixedPair.IsFirst 0 .inet 0 := by
    constructor
    · exact Nat.le_refl 0
    · decide
    · intro j _ before
      exact absurd before (Nat.not_lt_zero j)
  exact ⟨first, by decide, by decide⟩

end StreamTransport.Resolution
