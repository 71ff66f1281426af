import StreamTransport.Proofs.Resolution.Selection
import StreamTransport.Proofs.System.Signs

/-!
# The candidates that are tried

A socket is asked for one candidate after the other until the kernel grants
one, and each time the policy is asked anew for what comes behind the last. So
the candidates are tried in order, but what the preference for version 6 has
passed over once is out of reach for good: a candidate of another family in
front of one of version 6 gets no socket, whoever else is refused.
-/

set_option autoImplicit false

namespace StreamTransport

namespace Resolution

variable {r : Resolution} {preferIpv6 : Bool} {start i : Nat}

/-- With no forced family the preferred candidate is chosen, or the next if none is preferred. -/
theorem select_unforced (within : start < r.candidates.length) :
    r.select start ⟨preferIpv6, none⟩ = some (r.searchStart start preferIpv6) := by
  have more : (r.candidates.drop start).isEmpty = false := by
    simpa using within
  simp only [select, more, Bool.false_eq_true, if_false, searchStart_eq]

/-- A candidate that is not preferred, in front of one that is. -/
def LeftOut (r : Resolution) (preferIpv6 : Bool) (i : Nat) : Prop :=
  preferIpv6 = true ∧ r.familyAt i ≠ some .inet6 ∧ ∃ k, i < k ∧ r.familyAt k = some .inet6

theorem leftOut_of_passed (behind : start ≤ i) (passed : i < r.searchStart start preferIpv6) :
    r.LeftOut preferIpv6 i := by
  have preferred := r.answers_firstFrom start .inet6
  unfold searchStart at passed
  cases preferIpv6 with
  | false => exact absurd passed (Nat.not_lt.mpr behind)
  | true =>
    cases first : r.firstFrom start .inet6 with
    | none =>
      rw [first] at passed
      exact absurd passed (Nat.not_lt.mpr behind)
    | some k =>
      rw [first] at passed preferred
      exact ⟨rfl, preferred.least i behind passed, k, passed, preferred.found⟩

theorem not_leftOut_searchStart : ¬ r.LeftOut preferIpv6 (r.searchStart start preferIpv6) := by
  rintro ⟨rfl, other, k, later, sixth⟩
  have preferred := r.answers_firstFrom start .inet6
  have behind := r.le_searchStart start true
  unfold searchStart at other later behind
  cases first : r.firstFrom start .inet6 with
  | none =>
    rw [first] at later preferred
    exact preferred k (Nat.le_of_lt later) sixth
  | some j =>
    rw [first] at other preferred
    exact other preferred.found

end Resolution

/-- A candidate that a socket was asked for, and the kernel's answer. -/
structure Try (r : Resolution) where
  index : Fin r.candidates.length
  answer : Reply Descriptor

def Try.sign {r : Resolution} (t : Try r) : Sign := (r.candidates.get t.index).tried t.answer

/-- What comes of a search for a socket. -/
abbrev Found (r : Resolution) : Type := Except ConnectError (Socket × Fin r.candidates.length)

/-- The tries from `start` on, and how they end. The error is that of the last refusal. -/
inductive Search (r : Resolution) (policy : AddressPolicy) :
    Nat → ConnectError → List (Try r) → Found r → Prop
  | ended {start : Nat} {e : ConnectError} (nothing : r.select start policy = none) :
      Search r policy start e [] (.error e)
  | granted {start : Nat} {e : ConnectError} {i : Fin r.candidates.length}
      (picked : r.select start policy = some i.val) (d : Descriptor) :
      Search r policy start e [⟨i, .ok d⟩] (.ok (⟨d, (r.candidates.get i).family⟩, i))
  | refused {start : Nat} {e : ConnectError} {i : Fin r.candidates.length}
      (picked : r.select start policy = some i.val) (errno : Errno) {tries : List (Try r)}
      {result : Found r}
      (rest : Search r policy (i + 1) (.socket (.socket (.create errno))) tries result) :
      Search r policy start e (⟨i, .error errno⟩ :: tries) result

namespace Search

variable {r : Resolution} {policy : AddressPolicy} {start : Nat} {e : ConnectError}
  {tries : List (Try r)} {result : Found r}

theorem of_select_none (search : Search r policy start e tries result)
    (nothing : r.select start policy = none) : tries = [] ∧ result = .error e := by
  cases search with
  | ended _ => exact ⟨rfl, rfl⟩
  | granted picked _ => rw [nothing] at picked; contradiction
  | refused picked _ _ => rw [nothing] at picked; contradiction

theorem start_le (search : Search r policy start e tries result) :
    ∀ t ∈ tries, start ≤ t.index := by
  induction search with
  | ended _ => simp
  | granted picked _ => simpa using (Resolution.select_lt picked).1
  | refused picked _ _ ih =>
    have behind := (Resolution.select_lt picked).1
    intro t tried
    rcases List.mem_cons.mp tried with rfl | tried
    · exact behind
    · exact Nat.le_trans behind (Nat.le_of_lt (ih t tried))

/-- The answers of a search as a pattern over the candidates. -/
theorem exists_pattern (search : Search r policy start e tries result) :
    ∃ answers : Fin r.candidates.length → Reply Descriptor,
      ∀ t ∈ tries, t.answer = answers t.index := by
  induction search with
  | ended _ => exact ⟨fun _ => .ok 0, by simp⟩
  | granted _ d => exact ⟨fun _ => .ok d, by simp⟩
  | @refused _ _ i _ errno tries _ rest ih =>
    obtain ⟨answers, same⟩ := ih
    refine ⟨fun j => if j = i then .error errno else answers j, fun t tried => ?_⟩
    rcases List.mem_cons.mp tried with rfl | later
    · simp
    · have other : t.index ≠ i := by
        rintro rfl
        exact Nat.not_succ_le_self _ (rest.start_le t later)
      simp [other, same t later]

/-- Whatever the pattern, some search is answered by it. -/
theorem exists_answered (answers : Fin r.candidates.length → Reply Descriptor) (start : Nat)
    (e : ConnectError) :
    ∃ tries result, Search r policy start e tries result ∧
      ∀ t ∈ tries, t.answer = answers t.index := by
  generalize left : r.candidates.length - start = n
  induction n using Nat.strongRecOn generalizing start e with
  | ind n ih =>
    cases picked : r.select start policy with
    | none => exact ⟨[], .error e, .ended picked, by simp⟩
    | some next =>
      obtain ⟨behind, within⟩ := Resolution.select_lt picked
      cases answered : answers ⟨next, within⟩ with
      | ok d =>
        exact ⟨_, _, .granted (i := ⟨next, within⟩) picked d, by simpa using answered.symm⟩
      | error errno =>
        have shorter : r.candidates.length - (next + 1) < n := by omega
        obtain ⟨tries, result, rest, same⟩ :=
          ih _ shorter (next + 1) (.socket (.socket (.create errno))) rfl
        refine ⟨_, result, .refused (i := ⟨next, within⟩) picked errno rest, fun t tried => ?_⟩
        rcases List.mem_cons.mp tried with rfl | tried
        · exact answered.symm
        · exact same t tried

/-- With no forced family, a search tries what is not left out and nothing else: all of it, in
vain, where it fails, and up to the candidate that is granted where it succeeds. -/
theorem reaches {preferIpv6 : Bool}
    (search : Search r ⟨preferIpv6, none⟩ start e tries result) :
    match result with
    | .ok (socket, i) => ¬ r.LeftOut preferIpv6 i ∧ ⟨i, .ok socket.descriptor⟩ ∈ tries
    | .error _ => ∀ i : Fin r.candidates.length, start ≤ i → ¬ r.LeftOut preferIpv6 i →
        ∃ errno, ⟨i, .error errno⟩ ∈ tries := by
  have preferred : ∀ {start : Nat} {i : Fin r.candidates.length},
      r.select start ⟨preferIpv6, none⟩ = some i.val → i.val = r.searchStart start preferIpv6 := by
    intro start i picked
    have within := (Resolution.select_lt picked).1
    rw [Resolution.select_unforced (by omega)] at picked
    exact (Option.some.inj picked).symm
  induction search with
  | @ended start _ nothing =>
    intro i behind _
    by_cases within : start < r.candidates.length
    · rw [Resolution.select_unforced within] at nothing
      contradiction
    · exact absurd i.isLt (by omega)
  | granted picked d =>
    constructor
    · rw [preferred picked]
      exact Resolution.not_leftOut_searchStart
    · exact List.mem_singleton_self _
  | @refused start _ i picked errno tries result rest ih =>
    cases result with
    | ok found =>
      obtain ⟨socket, k⟩ := found
      exact ⟨ih.1, List.mem_cons_of_mem _ ih.2⟩
    | error e =>
      intro j behind reached
      -- what stands between the start and the candidate tried was passed over
      rcases Nat.lt_trichotomy j.val i.val with passed | same | later
      · rw [preferred picked] at passed
        exact absurd (Resolution.leftOut_of_passed behind passed) reached
      · exact ⟨errno, by simp [Fin.ext same]⟩
      · obtain ⟨errno', tried⟩ := ih j later reached
        exact ⟨errno', List.mem_cons_of_mem _ tried⟩

end Search

namespace Connector

open Program

variable {r : Resolution} {policy : AddressPolicy} {host : String}

theorem showing_socketFrom {start : Nat} (e : ConnectError) (index : Fin r.candidates.length)
    (picked : r.select start policy = some index.val) (shown : List Sign) :
    Program.Meets showing shown (socketFrom r policy index).run fun result s =>
      ∃ tries, s = shown ++ tries.map Try.sign ∧ Search r policy start e tries result := by
  generalize left : r.candidates.length - index.val = n
  induction n using Nat.strongRecOn generalizing start index e shown with
  | ind n ih =>
    rw [socketFrom]
    refine meets_bind.mpr (Attempt.meets_run_iff.mpr ?_)
    refine showing_ofCandidate (fun d => ?_) fun errno => ?_
    · exact ⟨[⟨index, .ok d⟩], rfl, .granted picked d⟩
    · refine meets_bind.mpr (showing_note.mpr ?_)
      split
      · rename_i nothing
        exact ⟨[⟨index, .error errno⟩], rfl, .refused picked errno (.ended nothing)⟩
      · rename_i next found
        have bounds := Resolution.select_lt found
        have shorter : r.candidates.length - next < n := by omega
        refine (ih _ shorter (.socket (.socket (.create errno))) ⟨next, bounds.2⟩ found _
          rfl).mono ?_
        rintro result _ ⟨tries, rfl, rest⟩
        exact ⟨⟨index, .error errno⟩ :: tries, by simp [Try.sign], .refused picked errno rest⟩

/-- What the search for a socket shows is its tries. -/
theorem showing_socketFor (host : String) (r : Resolution) (policy : AddressPolicy)
    (shown : List Sign) :
    Program.Meets showing shown (socketFor host r policy).run fun result s =>
      ∃ tries, s = shown ++ tries.map Try.sign ∧
        Search r policy 0 (.noMatchingFamily host (wantedFamily policy)) tries result := by
  unfold socketFor
  split
  · rename_i nothing
    exact ⟨[], by simp, .ended nothing⟩
  · rename_i index found
    exact showing_socketFrom _ ⟨index, (Resolution.select_lt found).2⟩ found shown

theorem shows_socketFrom {start : Nat} {e : ConnectError} {tries : List (Try r)}
    {result : Found r} (search : Search r policy start e tries result)
    (index : Fin r.candidates.length) (picked : r.select start policy = some index.val) :
    (socketFrom r policy index).run.Shows (tries.map Try.sign) result := by
  induction search generalizing index with
  | ended nothing =>
    rw [nothing] at picked
    contradiction
  | granted picked' d =>
    obtain rfl := Fin.ext (Option.some.inj (picked.symm.trans picked'))
    rw [socketFrom]
    exact Shows.map (Socket.shows_ofCandidate _ (.ok d)) (.pure _)
  | @refused start e i picked' errno tries result rest ih =>
    obtain rfl := Fin.ext (Option.some.inj (picked.symm.trans picked'))
    rw [socketFrom]
    refine Shows.bind (Socket.shows_ofCandidate _ (.error errno)) (Shows.bind (.note _) ?_)
    split
    · rename_i nothing
      obtain ⟨rfl, rfl⟩ := rest.of_select_none nothing
      exact .pure _
    · rename_i next found
      exact ih _ found

theorem shows_socketFor {tries : List (Try r)} {result : Found r}
    (search : Search r policy 0 (.noMatchingFamily host (wantedFamily policy)) tries result) :
    (socketFor host r policy).run.Shows (tries.map Try.sign) result := by
  unfold socketFor
  split
  · rename_i nothing
    obtain ⟨rfl, rfl⟩ := search.of_select_none nothing
    exact .pure _
  · rename_i index found
    exact shows_socketFrom search ⟨index, (Resolution.select_lt found).2⟩ found

/-- The search for a socket where the candidates are answered by a pattern. -/
structure Searches (host : String) (r : Resolution) (policy : AddressPolicy)
    (answers : Fin r.candidates.length → Reply Descriptor) (tries : List (Try r))
    (result : Found r) : Prop where
  shown : (socketFor host r policy).run.Shows (tries.map Try.sign) result
  search : Search r policy 0 (.noMatchingFamily host (wantedFamily policy)) tries result
  answered : ∀ t ∈ tries, t.answer = answers t.index

def Refused {r : Resolution} (answers : Fin r.candidates.length → Reply Descriptor)
    (i : Fin r.candidates.length) : Prop :=
  ∃ errno, answers i = .error errno

/-- No search fails while a candidate is left that would be granted. -/
def FailsLast (host : String) (r : Resolution) (preferIpv6 : Bool) : Prop :=
  ∀ answers tries e, Searches host r ⟨preferIpv6, none⟩ answers tries (.error e) →
    ∀ i, Refused answers i

theorem searches_of_runs {events : List Event} {result : Found r}
    (runs : Runs (socketFor host r policy).run events result) :
    ∃ answers tries, Searches host r policy answers tries result ∧
      signs events = tries.map Try.sign := by
  obtain ⟨tries, shown, search⟩ := (showing_socketFor host r policy []).of_shows runs.shows
  obtain ⟨answers, answered⟩ := search.exists_pattern
  exact ⟨answers, tries, ⟨shows_socketFor search, search, answered⟩, shown⟩

theorem exists_searches (host : String) (policy : AddressPolicy)
    (answers : Fin r.candidates.length → Reply Descriptor) :
    ∃ tries result, Searches host r policy answers tries result := by
  obtain ⟨tries, result, search, answered⟩ := Search.exists_answered answers 0
    (ConnectError.noMatchingFamily host (wantedFamily policy))
  exact ⟨tries, result, shows_socketFor search, search, answered⟩

namespace Searches

variable {preferIpv6 : Bool} {answers : Fin r.candidates.length → Reply Descriptor}
  {tries : List (Try r)}

theorem of_ok {socket : Socket} {i : Fin r.candidates.length}
    (searches : Searches host r ⟨preferIpv6, none⟩ answers tries (.ok (socket, i))) :
    ¬ r.LeftOut preferIpv6 i ∧ answers i = .ok socket.descriptor := by
  obtain ⟨reached, tried⟩ := searches.search.reaches
  exact ⟨reached, (searches.answered _ tried).symm⟩

theorem of_error {e : ConnectError}
    (searches : Searches host r ⟨preferIpv6, none⟩ answers tries (.error e))
    (i : Fin r.candidates.length) (reached : ¬ r.LeftOut preferIpv6 i) : Refused answers i := by
  obtain ⟨errno, tried⟩ := searches.search.reaches i (Nat.zero_le _) reached
  exact ⟨errno, (searches.answered _ tried).symm⟩

theorem fails_iff {result : Found r}
    (searches : Searches host r ⟨preferIpv6, none⟩ answers tries result) :
    (∃ e, result = .error e) ↔ ∀ i, ¬ r.LeftOut preferIpv6 i.val → Refused answers i := by
  constructor
  · rintro ⟨e, rfl⟩
    exact searches.of_error
  · intro refused
    cases result with
    | error e => exact ⟨e, rfl⟩
    | ok found =>
      obtain ⟨reached, granted⟩ := searches.of_ok
      obtain ⟨errno, answered⟩ := refused found.2 reached
      rw [granted] at answered
      contradiction

end Searches

theorem failsLast_iff (host : String) (r : Resolution) (preferIpv6 : Bool) :
    FailsLast host r preferIpv6 ↔ ∀ i : Fin r.candidates.length, ¬ r.LeftOut preferIpv6 i := by
  constructor
  · intro last i out
    -- the pattern that grants nothing but the candidate left out
    let answers : Fin r.candidates.length → Reply Descriptor := fun j =>
      if j = i then .ok 0 else .error ⟨0⟩
    obtain ⟨tries, result, searches⟩ := exists_searches host ⟨preferIpv6, none⟩ answers
    have others : ∀ j, ¬ r.LeftOut preferIpv6 j.val → Refused answers j := by
      intro j reached
      have other : j ≠ i := by
        rintro rfl
        exact reached out
      exact ⟨⟨0⟩, if_neg other⟩
    obtain ⟨e, rfl⟩ := searches.fails_iff.mpr others
    obtain ⟨errno, refused⟩ := last answers tries e searches i
    simp [answers] at refused
  · intro none answers tries e searches i
    exact searches.of_error i (none i)

/-- With no forced family, a search for a socket fails where all are refused that the preference
has not left out, so it fails with a candidate to be had if one is left out and only then. -/
theorem refusals_leave_out (host : String) (r : Resolution) (preferIpv6 : Bool) :
    (∀ events result, Runs (socketFor host r ⟨preferIpv6, none⟩).run events result →
      ∃ answers tries, Searches host r ⟨preferIpv6, none⟩ answers tries result ∧
        signs events = tries.map Try.sign) ∧
    (∀ answers, ∃ tries result, Searches host r ⟨preferIpv6, none⟩ answers tries result) ∧
    (∀ answers tries result, Searches host r ⟨preferIpv6, none⟩ answers tries result →
      ((∃ e, result = .error e) ↔ ∀ i, ¬ r.LeftOut preferIpv6 i.val → Refused answers i) ∧
      ∀ socket i, result = .ok (socket, i) →
        ¬ r.LeftOut preferIpv6 i ∧ answers i = .ok socket.descriptor) ∧
    (FailsLast host r preferIpv6 ↔ ∀ i : Fin r.candidates.length, ¬ r.LeftOut preferIpv6 i) := by
  refine ⟨fun events result => searches_of_runs, exists_searches host _, ?_, failsLast_iff host r _⟩
  intro answers tries result searches
  constructor
  · exact searches.fails_iff
  · rintro socket i rfl
    exact searches.of_ok

/-- The preferred candidate is refused, the one before it would be granted, and the search fails. -/
theorem refused_preference_fails :
    let answers : Fin Resolution.mixedPair.candidates.length → Reply Descriptor :=
      fun i => if i.val = 0 then .ok 3 else .error ⟨22⟩
    Searches "h" Resolution.mixedPair ⟨true, none⟩ answers [⟨⟨1, by decide⟩, .error ⟨22⟩⟩]
      (.error (.socket (.socket (.create ⟨22⟩)))) ∧
    ¬ Refused answers ⟨0, by decide⟩ := by
  intro answers
  have search : Search Resolution.mixedPair ⟨true, none⟩ 0
      (.noMatchingFamily "h" (wantedFamily ⟨true, none⟩)) [⟨⟨1, by decide⟩, .error ⟨22⟩⟩]
      (.error (.socket (.socket (.create ⟨22⟩)))) :=
    .refused (by decide) _ (.ended (by decide))
  constructor
  · exact ⟨shows_socketFor search, search, by simp [answers]⟩
  · rintro ⟨errno, refused⟩
    simp [answers] at refused

end Connector
end StreamTransport
