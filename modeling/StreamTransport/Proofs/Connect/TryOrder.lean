import StreamTransport.Proofs.Connect.Candidates

/-!
# The order in which candidates are tried

A search for a socket goes through the candidates from the front and tries none
of them twice, so it ends. It ends with the candidate that it has tried last:
with the socket that was granted for it, or with the refusal if the policy
finds nothing behind it. Every slice that a choice takes of the candidates
starts within what it is taken of.
-/

set_option autoImplicit false

namespace StreamTransport

namespace Resolution

/-- A slice that would start behind the end. -/
structure BeyondEnd where
  start : Nat
  length : Nat

/-- What stands in a list from a place on, if the place is not behind the end. -/
def sliceFrom (candidates : List Candidate) (start : Nat) : Except BeyondEnd (List Candidate) :=
  if start ≤ candidates.length then .ok (candidates.drop start)
  else .error ⟨start, candidates.length⟩

/-- Where in a list the preferred candidate stands. -/
def preferredIn (candidates : List Candidate) (preferIpv6 : Bool) : Nat :=
  if preferIpv6 then (firstOf .inet6 candidates).getD 0 else 0

/-- The choice of a policy where a slice behind the end would be noticed. -/
def selectChecked (r : Resolution) (start : Nat) (policy : AddressPolicy) :
    Except BeyondEnd (Option Nat) :=
  if r.candidates.length < start then pure none
  else do
    let rest ← sliceFrom r.candidates start
    if rest.isEmpty then return none
    let preferred := preferredIn rest policy.preferIpv6
    match policy.force with
    | none => return some (start + preferred)
    | some forced =>
      let behind ← sliceFrom rest preferred
      return (firstOf forced.family behind).map fun i => start + preferred + i

theorem preferredIn_le (candidates : List Candidate) (preferIpv6 : Bool) :
    preferredIn candidates preferIpv6 ≤ candidates.length := by
  unfold preferredIn
  split
  · cases found : firstOf .inet6 candidates with
    | none => exact Nat.zero_le _
    | some k => exact Nat.le_of_lt (firstOf_lt found)
  · exact Nat.zero_le _

/-- No slice starts behind the end. -/
theorem selectChecked_eq (r : Resolution) (start : Nat) (policy : AddressPolicy) :
    r.selectChecked start policy = .ok (r.select start policy) := by
  unfold selectChecked select
  split
  · rename_i past
    rw [List.drop_of_length_le (Nat.le_of_lt past)]
    rfl
  · rename_i within
    rw [sliceFrom, if_pos (Nat.not_lt.mp within)]
    dsimp only [bind, Except.bind]
    split
    · rfl
    · cases policy.force with
      | none => rfl
      | some forced =>
        dsimp only
        rw [sliceFrom, if_pos (preferredIn_le _ _)]
        rfl

end Resolution

namespace Search

variable {r : Resolution} {policy : AddressPolicy} {start : Nat} {e : ConnectError}
  {tries : List (Try r)} {result : Found r}

theorem length_le (search : Search r policy start e tries result) :
    tries.length ≤ r.candidates.length - start := by
  induction search with
  | ended _ => exact Nat.zero_le _
  | granted picked _ =>
    have bounds := Resolution.select_lt picked
    rw [List.length_singleton]
    omega
  | refused picked _ _ ih =>
    have bounds := Resolution.select_lt picked
    rw [List.length_cons]
    omega

theorem increasing (search : Search r policy start e tries result) :
    tries.Pairwise fun earlier later => earlier.index < later.index := by
  induction search with
  | ended _ => exact .nil
  | granted _ _ => exact List.pairwise_singleton _ _
  | refused _ _ rest ih => exact .cons (fun later tried => rest.start_le later tried) ih

/-- Where a family is forced, no other is tried. -/
theorem forced (search : Search r policy start e tries result) {version : IpVersion}
    (force : policy.force = some version) :
    ∀ t ∈ tries, (r.candidates.get t.index).family = version.family := by
  have chosen : ∀ {start : Nat} {i : Fin r.candidates.length},
      r.select start policy = some i.val → (r.candidates.get i).family = version.family := by
    intro start i picked
    have answered := r.answers_firstFrom (r.searchStart start policy.preferIpv6) version.family
    have same : policy = ⟨policy.preferIpv6, some version⟩ := by rw [← force]
    rw [same, Resolution.select_forced] at picked
    rw [picked] at answered
    have found := answered.found
    rw [Resolution.familyAt, List.getElem?_eq_getElem i.isLt] at found
    exact Option.some.inj found
  induction search with
  | ended _ => simp
  | granted picked _ => simpa using chosen picked
  | refused picked _ _ ih => exact List.forall_mem_cons.mpr ⟨chosen picked, ih⟩

/-- How a search ends is how its last try ended. One that tries nothing has nothing to try. -/
theorem ends (search : Search r policy start e tries result) :
    match result with
    | .ok (socket, i) => tries.getLast? = some ⟨i, .ok socket.descriptor⟩ ∧
        socket.family = (r.candidates.get i).family
    | .error e' => (tries = [] ∧ r.select start policy = none ∧ e' = e) ∨
        ∃ i errno, tries.getLast? = some ⟨i, .error errno⟩ ∧
          r.select (i + 1) policy = none ∧ e' = .socket (.socket (.create errno)) := by
  induction search with
  | ended nothing => exact .inl ⟨rfl, nothing, rfl⟩
  | granted _ _ => exact ⟨rfl, rfl⟩
  | @refused _ _ i _ errno tries result rest ih =>
    cases result with
    | ok found =>
      obtain ⟨last, family⟩ := ih
      exact ⟨by rw [List.getLast?_cons, last]; rfl, family⟩
    | error e' =>
      right
      rcases ih with ⟨rfl, nothing, rfl⟩ | ⟨k, errno', last, nothing, same⟩
      · exact ⟨i, errno, rfl, nothing, rfl⟩
      · exact ⟨k, errno', by rw [List.getLast?_cons, last]; rfl, nothing, same⟩

end Search

namespace Connector

open Program

variable {host : String} {r : Resolution} {policy : AddressPolicy} {tries : List (Try r)}
  {result : Found r}

/-- The tries of a search for a socket, and the result that they lead to. -/
structure Orderly (host : String) (r : Resolution) (policy : AddressPolicy)
    (tries : List (Try r)) (result : Found r) : Prop where
  few : tries.length ≤ r.candidates.length
  increasing : tries.Pairwise fun earlier later => earlier.index < later.index
  forced : ∀ version, policy.force = some version →
    ∀ t ∈ tries, (r.candidates.get t.index).family = version.family
  granted : ∀ socket i, result = .ok (socket, i) →
    tries.getLast? = some ⟨i, .ok socket.descriptor⟩ ∧
      socket.family = (r.candidates.get i).family
  refused : ∀ cause, result = .error (.socket cause) →
    ∃ i errno, tries.getLast? = some ⟨i, .error errno⟩ ∧ cause = .socket (.create errno) ∧
      r.select (i + 1) policy = none
  unmatched : result = .error (.noMatchingFamily host (wantedFamily policy)) ↔
    r.select 0 policy = none
  untried : r.select 0 policy = none → tries = []
  error : ∀ e, result = .error e →
    e = .noMatchingFamily host (wantedFamily policy) ∨ ∃ cause, e = .socket cause

theorem orderly_of_search
    (search : Search r policy 0 (.noMatchingFamily host (wantedFamily policy)) tries result) :
    Orderly host r policy tries result where
  few := search.length_le
  increasing := search.increasing
  forced := fun _ force => search.forced force
  granted := by
    rintro socket i rfl
    exact search.ends
  refused := by
    rintro cause rfl
    rcases search.ends with ⟨-, -, same⟩ | ⟨i, errno, last, nothing, same⟩
    · contradiction
    · exact ⟨i, errno, last, ConnectError.socket.inj same, nothing⟩
  unmatched := by
    constructor
    · rintro rfl
      rcases search.ends with ⟨-, nothing, -⟩ | ⟨i, errno, -, -, same⟩
      · exact nothing
      · contradiction
    · intro nothing
      exact (search.of_select_none nothing).2
  untried := fun nothing => (search.of_select_none nothing).1
  error := by
    rintro e rfl
    rcases search.ends with ⟨-, -, rfl⟩ | ⟨i, errno, -, -, rfl⟩
    · exact .inl rfl
    · exact .inr ⟨_, rfl⟩

/-- A search for a socket takes no slice behind an end and chooses existing candidates only. Each
of its runs tries candidates in their order and ends with the last of them, and whatever the
kernel refuses, there is such a run. -/
theorem tries_in_order (host : String) (r : Resolution) (policy : AddressPolicy) :
    (∀ start, r.selectChecked start policy = .ok (r.select start policy) ∧
      ∀ i, r.select start policy = some i → start ≤ i ∧ i < r.candidates.length) ∧
    (∀ events result, Runs (socketFor host r policy).run events result →
      ∃ tries, signs events = tries.map Try.sign ∧ Orderly host r policy tries result) ∧
    ∀ answers, ∃ tries result, Searches host r policy answers tries result := by
  refine ⟨fun start => ⟨r.selectChecked_eq start policy, fun i => Resolution.select_lt⟩, ?_,
    exists_searches host policy⟩
  intro events result runs
  obtain ⟨answers, tries, searches, shown⟩ := searches_of_runs runs
  exact ⟨tries, shown, orderly_of_search searches.search⟩

/-- The first candidate is refused and the second is granted. -/
theorem tries_in_order_second :
    ∃ events tries, Runs (socketFor "h" Resolution.mixedPair {}).run events
        (.ok (⟨4, .inet6⟩, ⟨1, by decide⟩)) ∧
      signs events = tries.map Try.sign ∧
      Orderly "h" Resolution.mixedPair {} tries (.ok (⟨4, .inet6⟩, ⟨1, by decide⟩)) := by
  have search : Search Resolution.mixedPair {} 0
      (.noMatchingFamily "h" (wantedFamily {}))
      [⟨⟨0, by decide⟩, .error ⟨24⟩⟩, ⟨⟨1, by decide⟩, .ok 4⟩]
      (.ok (⟨4, .inet6⟩, ⟨1, by decide⟩)) :=
    .refused (by decide) _ (.granted (by decide) 4)
  obtain ⟨events, runs, -⟩ := shows_socketFor search
  obtain ⟨-, orderly, -⟩ := tries_in_order "h" Resolution.mixedPair {}
  obtain ⟨tries, shown, ordered⟩ := orderly events _ runs
  exact ⟨events, tries, runs, shown, ordered⟩

end Connector
end StreamTransport
