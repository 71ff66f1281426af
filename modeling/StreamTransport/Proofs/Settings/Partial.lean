import StreamTransport.Proofs.Settings.RoundTrip

/-!
# Settings that are given in part

What a document stands for is said here without a reader. A structure is
spelled as a record of named fields, none of which is named twice, or as a list
of its first fields in order of declaration, and a field that is not there has
the value it has in the settings that nobody changed. Readers accept exactly what
stands for something and read what it stands for, at all three levels.
-/

set_option autoImplicit false

namespace StreamTransport

open Document

namespace Document

/-- What a field holds: what the value under its name stands for, and the default where there is
none. -/
inductive Filled {α : Type} (Stands : Document → α → Prop) (default : α)
    (fields : List (String × Document)) (name : String) : α → Prop
  | present {d : Document} {a : α} (there : (name, d) ∈ fields) (stands : Stands d a) :
      Filled Stands default fields name a
  | absent (missing : ∀ d, (name, d) ∉ fields) : Filled Stands default fields name default

/-- Whatever is there under a name stands for something. -/
def Fits {α : Type} (Stands : Document → α → Prop) (fields : List (String × Document))
    (name : String) : Prop :=
  ∀ d, (name, d) ∈ fields → ∃ a, Stands d a

/-- No two fields have one of the names in common. -/
def Single (names : List String) (fields : List (String × Document)) : Prop :=
  fields.Pairwise fun first second => first.1 ∈ names → first.1 ≠ second.1

/-- A structure in either spelling, where `Given` says what its fields hold. -/
inductive Spelled {α : Type} (names : List String)
    (Given : List (String × Document) → α → Prop) : Document → α → Prop
  | record {fields : List (String × Document)} {a : α} (single : Single names fields)
      (given : Given fields a) : Spelled names Given (record fields) a
  | list {items : List Document} {a : α} (short : items.length ≤ names.length)
      (given : Given (names.zip items) a) : Spelled names Given (list items) a

/-- A value that may be null. -/
inductive OrNull {α : Type} (Stands : Document → α → Prop) : Document → Option α → Prop
  | null : OrNull Stands null none
  | value {d : Document} {a : α} (stands : Stands d a) : OrNull Stands d (some a)

/-- A list whose items stand for these values, one by one. -/
inductive Each {α : Type} (Stands : Document → α → Prop) : Document → List α → Prop
  | items {items : List Document} {values : List α} (stand : List.Forall₂ Stands items values) :
      Each Stands (list items) values

section

variable {α : Type} {Stands : Document → α → Prop} {read : Document → Option α}
  {fields gs : List (String × Document)} {names : List String} {name : String} {default a : α}

theorem single_cons_iff {field : String × Document} : Single names (field :: fields) ↔
    (field.1 ∈ names → field.1 ∉ fields.map Prod.fst) ∧ Single names fields := by
  rw [Single, List.pairwise_cons, Single, List.mem_map]
  apply and_congr_left'
  constructor
  · rintro other known ⟨field', there, same⟩
    exact other field' there known same.symm
  · rintro other field' there known same
    exact other known ⟨field', there, same.symm⟩

theorem single_filter_iff :
    Single names (fields.filter fun field => field.1 ∈ names) ↔ Single names fields := by
  unfold Single
  rw [List.pairwise_filter]
  apply List.Pairwise.iff
  intro first second
  simp only [decide_eq_true_eq]
  constructor
  · intro other known same
    exact other known (same ▸ known) known same
  · exact fun other _ _ => other

theorem once_iff_single : Once names fields ↔ Single names fields := by
  induction fields with
  | nil => exact iff_of_true (fun _ _ => Nat.zero_le 1) .nil
  | cons field fields ih =>
    rw [single_cons_iff, ← ih]
    unfold Once
    constructor
    · intro once
      constructor
      · intro known
        have least := once field.1 known
        rw [List.map_cons, List.count_cons_self] at least
        exact List.count_eq_zero.mp (by omega)
      · intro name known
        exact Nat.le_trans (List.count_le_count_cons) (once name known)
    · rintro ⟨new, once⟩ name known
      rw [List.map_cons, List.count_cons]
      by_cases same : field.1 = name
      · subst same
        rw [List.count_eq_zero.mpr (new known)]
        simp
      · simpa [same] using once name known

/-- Under a name that does not stand twice there is what is found under it. -/
theorem mem_iff_field? (single : Single names fields) (known : name ∈ names) {d : Document} :
    (name, d) ∈ fields ↔ field? name fields = some d := by
  induction fields with
  | nil => exact iff_of_false List.not_mem_nil nofun
  | cons field fields ih =>
    obtain ⟨new, single⟩ := single_cons_iff.mp single
    rw [List.mem_cons, ih single]
    unfold field?
    rw [List.lookup_cons]
    by_cases same : name = field.1
    · subst same
      have missing : fields.lookup field.1 = none := field?_eq_none_iff.mpr (new known)
      simp [missing, Prod.ext_iff, eq_comm]
    · have other : (name == field.1) = false := beq_eq_false_iff_ne.mpr same
      simp [other, Prod.ext_iff, same]

theorem Filled.known (h : Filled Stands default fields name a)
    (same : ∀ d, (name, d) ∈ fields ↔ (name, d) ∈ gs) : Filled Stands default gs name a := by
  cases h with
  | present there stands => exact .present ((same _).mp there) stands
  | absent missing => exact .absent fun d there => missing d ((same d).mpr there)

theorem Filled.fits (h : Filled Stands default fields name a) (single : Single names fields)
    (known : name ∈ names) : Fits Stands fields name := by
  intro d there
  cases h with
  | present there' stands =>
    rw [mem_iff_field? single known] at there there'
    obtain rfl := Option.some.inj (there.symm.trans there')
    exact ⟨a, stands⟩
  | absent missing => exact absurd there (missing d)

theorem Fits.exists_filled (h : Fits Stands fields name) (default : α) :
    ∃ a, Filled Stands default fields name a := by
  by_cases there : ∃ d, (name, d) ∈ fields
  · obtain ⟨d, there⟩ := there
    obtain ⟨a, stands⟩ := h d there
    exact ⟨a, .present there stands⟩
  · exact ⟨default, .absent (not_exists.mp there)⟩

theorem readField_eq_some_iff (reads : ∀ d a, read d = some a ↔ Stands d a)
    (single : Single names fields) (known : name ∈ names) :
    readField fields name read default = some a ↔ Filled Stands default fields name a := by
  have found := fun d => mem_iff_field? single known (d := d)
  unfold readField
  constructor
  · intro h
    split at h
    · rename_i missing
      cases h
      exact .absent fun d there => by simp [missing] at found; exact found d there
    · rename_i d there
      exact .present ((found d).mpr there) ((reads d a).mp h)
  · intro filled
    cases filled with
    | present there stands =>
      rw [(found _).mp there]
      exact (reads _ _).mpr stands
    | absent missing =>
      have none : field? name fields = none := by
        apply Option.eq_none_iff_forall_ne_some.mpr
        exact fun d there => missing d ((found d).mpr there)
      rw [none]

theorem readFlag_eq_some_iff (d : Document) (b : Bool) : readFlag d = some b ↔ d = flag b := by
  cases d <;> simp [readFlag]

theorem readText_eq_some_iff (d : Document) (s : String) : readText d = some s ↔ d = text s := by
  cases d <;> simp [readText]

theorem readBelow_eq_some_iff {limit : Nat} (d : Document) (n : Nat) :
    readBelow limit d = some n ↔ d = integer n ∧ n < limit := by
  cases d <;> simp [readBelow]
  omega

theorem readWord_eq_some_iff (d : Document) (n : UInt32) :
    readWord d = some n ↔ d = integer n.toNat := by
  constructor
  · intro h
    obtain ⟨m, below, rfl⟩ := Option.map_eq_some_iff.mp h
    obtain ⟨rfl, bound⟩ := (readBelow_eq_some_iff d m).mp below
    rw [UInt32.toNat_ofNat_of_lt' bound]
  · rintro rfl
    exact readWord_integer n

theorem readPort_eq_some_iff (d : Document) (n : UInt16) :
    readPort d = some n ↔ d = integer n.toNat := by
  constructor
  · intro h
    obtain ⟨m, below, rfl⟩ := Option.map_eq_some_iff.mp h
    obtain ⟨rfl, bound⟩ := (readBelow_eq_some_iff d m).mp below
    rw [UInt16.toNat_ofNat_of_lt' bound]
  · rintro rfl
    exact readPort_integer n

/-- Null is nothing, whatever else a reader makes of documents. -/
theorem readOptional_eq_some_iff (reads : ∀ d a, read d = some a ↔ Stands d a)
    (solid : read null = none) (d : Document) (o : Option α) :
    readOptional read d = some o ↔ OrNull Stands d o := by
  by_cases nothing : d = null
  · subst nothing
    constructor
    · rintro ⟨⟩
      exact .null
    · rintro (_ | stands)
      · rfl
      · rw [(reads _ _).mpr stands] at solid
        contradiction
  · have something : readOptional read d = (read d).map some := by
      cases d with
      | null => contradiction
      | _ => rfl
    rw [something, Option.map_eq_some_iff]
    constructor
    · rintro ⟨a, there, rfl⟩
      exact .value ((reads d a).mp there)
    · rintro (_ | stands)
      · contradiction
      · exact ⟨_, (reads _ _).mpr stands, rfl⟩

theorem mapM_eq_some_iff (reads : ∀ d a, read d = some a ↔ Stands d a) (items : List Document)
    (values : List α) : items.mapM read = some values ↔ List.Forall₂ Stands items values := by
  induction items generalizing values with
  | nil =>
    rw [List.mapM_nil, List.forall₂_nil_left_iff]
    exact ⟨fun h => (Option.some.inj h).symm, fun h => h ▸ rfl⟩
  | cons d items ih =>
    simp only [List.mapM_cons, Option.bind_eq_bind, Option.bind_eq_some_iff, reads, ih,
      List.forall₂_cons_left_iff]
    constructor
    · rintro ⟨a, stands, rest, others, same⟩
      exact ⟨a, rest, stands, others, (Option.some.inj same).symm⟩
    · rintro ⟨a, rest, stands, others, rfl⟩
      exact ⟨a, stands, rest, others, rfl⟩

theorem readList_eq_some_iff (reads : ∀ d a, read d = some a ↔ Stands d a) (d : Document)
    (values : List α) : readList read d = some values ↔ Each Stands d values := by
  constructor
  · intro h
    cases d with
    | list items => exact .items ((mapM_eq_some_iff reads items values).mp h)
    | _ => contradiction
  · rintro ⟨stand⟩
    exact (mapM_eq_some_iff reads _ _).mpr stand

theorem spelled_record_iff {Given : List (String × Document) → α → Prop} :
    Spelled names Given (record fields) a ↔ Single names fields ∧ Given fields a := by
  constructor
  · rintro (⟨single, given⟩ | _)
    exact ⟨single, given⟩
  · exact fun h => .record h.1 h.2

theorem spelled_list_iff {Given : List (String × Document) → α → Prop} {items : List Document} :
    Spelled names Given (list items) a ↔
      items.length ≤ names.length ∧ Given (names.zip items) a := by
  constructor
  · rintro (_ | ⟨short, given⟩)
    exact ⟨short, given⟩
  · exact fun h => .list h.1 h.2

/-- Items are given distinct names. -/
theorem single_zip {given : List String} (distinct : given.Nodup) (items : List Document) :
    Single names (given.zip items) := by
  induction given generalizing items with
  | nil => exact .nil
  | cons name given ih =>
    obtain ⟨new, distinct⟩ := List.nodup_cons.mp distinct
    cases items with
    | nil => exact .nil
    | cons d items =>
      rw [List.zip_cons_cons, single_cons_iff]
      constructor
      · rintro - there
        obtain ⟨⟨_, _⟩, inside, rfl⟩ := List.mem_map.mp there
        exact new (List.of_mem_zip inside).1
      · exact ih distinct items

/-- A structure is read in either spelling as what its fields hold. -/
theorem bind_fields?_eq_some_iff (distinct : names.Nodup)
    {readFields : List (String × Document) → Option α}
    {Given : List (String × Document) → α → Prop}
    (gives : ∀ fields a, Single names fields → (readFields fields = some a ↔ Given fields a))
    (d : Document) (a : α) :
    (d.fields? names).bind readFields = some a ↔ Spelled names Given d a := by
  rw [Option.bind_eq_some_iff]
  constructor
  · rintro ⟨fields, spelled, reads⟩
    cases d with
    | record fields' =>
      rw [fields?, Option.ite_none_right_eq_some] at spelled
      obtain ⟨once, same⟩ := spelled
      obtain rfl := Option.some.inj same
      have single := once_iff_single.mp once
      exact .record single ((gives _ a single).mp reads)
    | list items =>
      rw [fields?, Option.ite_none_right_eq_some] at spelled
      obtain ⟨short, same⟩ := spelled
      obtain rfl := Option.some.inj same
      exact .list short ((gives _ a (single_zip distinct items)).mp reads)
    | _ => contradiction
  · rintro (⟨single, given⟩ | ⟨short, given⟩)
    · exact ⟨_, if_pos (once_iff_single.mpr single), (gives _ a single).mpr given⟩
    · exact ⟨_, if_pos short, (gives _ a (single_zip distinct _)).mpr given⟩

end

end Document

/-! ### What the fields of each structure hold -/

def IsFlag (d : Document) (value : Bool) : Prop := d = flag value

def IsWord (d : Document) (value : UInt32) : Prop := d = integer value.toNat

def IsPort (d : Document) (value : UInt16) : Prop := d = integer value.toNat

/-- A version is its word, or a record with nothing but that word in it. -/
def IsVersion (d : Document) : IpVersion → Prop
  | .ipv4 => d = text "ipv4" ∨ d = record [("ipv4", null)]
  | .ipv6 => d = text "ipv6" ∨ d = record [("ipv6", null)]

structure KeepAlive.Given (fields : List (String × Document)) (k : KeepAlive) : Prop where
  enabled : Filled IsFlag ({} : KeepAlive).enabled fields "enabled" k.enabled
  idleSecs : Filled IsWord ({} : KeepAlive).idleSecs fields "idle_secs" k.idleSecs
  retries : Filled IsWord ({} : KeepAlive).retries fields "retries" k.retries
  intervalSecs : Filled IsWord ({} : KeepAlive).intervalSecs fields "interval_secs" k.intervalSecs

structure KeepAlive.Acceptable (fields : List (String × Document)) : Prop where
  enabled : Fits IsFlag fields "enabled"
  idleSecs : Fits IsWord fields "idle_secs"
  retries : Fits IsWord fields "retries"
  intervalSecs : Fits IsWord fields "interval_secs"

/-- The host has no default. -/
structure Alternate.Given (fields : List (String × Document)) (a : Alternate) : Prop where
  host : ("host", text a.host) ∈ fields
  port : Filled (OrNull IsPort) none fields "port" a.port

structure Alternate.Acceptable (fields : List (String × Document)) : Prop where
  host : ∃ host, ("host", text host) ∈ fields
  port : Fits (OrNull IsPort) fields "port"

def IsKeepAlive : Document → KeepAlive → Prop :=
  Spelled ["enabled", "idle_secs", "retries", "interval_secs"] KeepAlive.Given

def IsAlternate : Document → Alternate → Prop := Spelled ["host", "port"] Alternate.Given

structure Settings.Given (fields : List (String × Document)) (s : Settings) : Prop where
  keepAlive : Filled IsKeepAlive ({} : Settings).keepAlive fields "keepalive" s.keepAlive
  ackTimeoutMs : Filled IsWord ({} : Settings).ackTimeoutMs fields "ack_timeout_ms" s.ackTimeoutMs
  preferIpv6 : Filled IsFlag ({} : Settings).preferIpv6 fields "prefer_ipv6" s.preferIpv6
  forceFamily :
    Filled (OrNull IsVersion) ({} : Settings).forceFamily fields "force_family" s.forceFamily
  gatewayEnabled :
    Filled IsFlag ({} : Settings).gatewayEnabled fields "gateway_enabled" s.gatewayEnabled
  remoteAssistance :
    Filled IsFlag ({} : Settings).remoteAssistance fields "remote_assistance" s.remoteAssistance
  targets : Filled (Each IsAlternate) ({} : Settings).targets fields "targets" s.targets

structure Settings.Acceptable (fields : List (String × Document)) : Prop where
  keepAlive : Fits IsKeepAlive fields "keepalive"
  ackTimeoutMs : Fits IsWord fields "ack_timeout_ms"
  preferIpv6 : Fits IsFlag fields "prefer_ipv6"
  forceFamily : Fits (OrNull IsVersion) fields "force_family"
  gatewayEnabled : Fits IsFlag fields "gateway_enabled"
  remoteAssistance : Fits IsFlag fields "remote_assistance"
  targets : Fits (Each IsAlternate) fields "targets"

theorem IpVersion.ofWord?_eq_some_iff (word : String) (version : IpVersion) :
    ofWord? word = some version ↔ word = version.word := by
  constructor
  · intro h
    have found := List.find?_some h
    exact (beq_iff_eq.mp found).symm
  · rintro rfl
    cases version <;> decide

theorem IpVersion.isVersion_iff (d : Document) (version : IpVersion) :
    IsVersion d version ↔ d = text version.word ∨ d = record [(version.word, null)] := by
  cases version <;> rfl

theorem IpVersion.read_eq_some_iff (d : Document) (version : IpVersion) :
    read d = some version ↔ IsVersion d version := by
  rw [isVersion_iff]
  constructor
  · intro h
    unfold read at h
    split at h
    · exact .inl (congrArg text ((ofWord?_eq_some_iff _ _).mp h))
    · obtain rfl := (ofWord?_eq_some_iff _ _).mp h
      exact .inr rfl
    · contradiction
  · rintro (rfl | rfl)
    · exact (ofWord?_eq_some_iff _ _).mpr rfl
    · exact (ofWord?_eq_some_iff _ _).mpr rfl

theorem KeepAlive.read_eq_some_iff (d : Document) (k : KeepAlive) :
    read d = some k ↔ IsKeepAlive d k := by
  refine bind_fields?_eq_some_iff (by decide) (fun fields k single => ?_) d k
  simp (disch := decide) only [Option.bind_eq_bind, Option.bind_eq_some_iff,
    readField_eq_some_iff readFlag_eq_some_iff single,
    readField_eq_some_iff readWord_eq_some_iff single]
  constructor
  · rintro ⟨_, enabled, _, idleSecs, _, retries, _, intervalSecs, ⟨⟩⟩
    exact ⟨enabled, idleSecs, retries, intervalSecs⟩
  · rintro ⟨enabled, idleSecs, retries, intervalSecs⟩
    exact ⟨_, enabled, _, idleSecs, _, retries, _, intervalSecs, rfl⟩

theorem Alternate.read_eq_some_iff (d : Document) (a : Alternate) :
    read d = some a ↔ IsAlternate d a := by
  refine bind_fields?_eq_some_iff (by decide) (fun fields a single => ?_) d a
  have ports := readOptional_eq_some_iff readPort_eq_some_iff rfl
  simp (disch := decide) only [Option.bind_eq_bind, Option.bind_eq_some_iff, readText_eq_some_iff,
    ← mem_iff_field? single, readField_eq_some_iff ports single]
  constructor
  · rintro ⟨_, ⟨_, host, rfl⟩, _, port, ⟨⟩⟩
    exact ⟨host, port⟩
  · rintro ⟨host, port⟩
    exact ⟨_, ⟨_, host, rfl⟩, _, port, rfl⟩

theorem Settings.read_eq_some_iff (d : Document) (s : Settings) :
    read d = some s ↔ Spelled fieldNames Given d s := by
  refine bind_fields?_eq_some_iff (by decide) (fun fields s single => ?_) d s
  have versions := readOptional_eq_some_iff IpVersion.read_eq_some_iff rfl
  have alternates := readList_eq_some_iff Alternate.read_eq_some_iff
  simp (disch := decide) only [Option.bind_eq_bind, Option.bind_eq_some_iff,
    readField_eq_some_iff readFlag_eq_some_iff single,
    readField_eq_some_iff readWord_eq_some_iff single,
    readField_eq_some_iff KeepAlive.read_eq_some_iff single,
    readField_eq_some_iff versions single, readField_eq_some_iff alternates single]
  constructor
  · rintro ⟨_, keepAlive, _, ack, _, prefer, _, force, _, gateway, _, assistance, _, targets, ⟨⟩⟩
    exact ⟨keepAlive, ack, prefer, force, gateway, assistance, targets⟩
  · rintro ⟨keepAlive, ack, prefer, force, gateway, assistance, targets⟩
    exact ⟨_, keepAlive, _, ack, _, prefer, _, force, _, gateway, _, assistance, _, targets, rfl⟩

/-! ### Which fields are accepted, and which do not matter -/

section

variable {fields gs : List (String × Document)}

theorem KeepAlive.exists_given_iff (single : Single fieldNames fields) :
    (∃ k, Given fields k) ↔ Acceptable fields := by
  constructor
  · rintro ⟨k, h⟩
    exact ⟨h.enabled.fits single (by decide), h.idleSecs.fits single (by decide),
      h.retries.fits single (by decide), h.intervalSecs.fits single (by decide)⟩
  · intro h
    obtain ⟨_, enabled⟩ := h.enabled.exists_filled _
    obtain ⟨_, idleSecs⟩ := h.idleSecs.exists_filled _
    obtain ⟨_, retries⟩ := h.retries.exists_filled _
    obtain ⟨_, intervalSecs⟩ := h.intervalSecs.exists_filled _
    exact ⟨⟨_, _, _, _⟩, enabled, idleSecs, retries, intervalSecs⟩

theorem Alternate.exists_given_iff (single : Single fieldNames fields) :
    (∃ a, Given fields a) ↔ Acceptable fields := by
  constructor
  · rintro ⟨a, h⟩
    exact ⟨⟨_, h.host⟩, h.port.fits single (by decide)⟩
  · rintro ⟨⟨_, host⟩, fits⟩
    obtain ⟨_, port⟩ := fits.exists_filled _
    exact ⟨⟨_, _⟩, host, port⟩

theorem Settings.exists_given_iff (single : Single fieldNames fields) :
    (∃ s, Given fields s) ↔ Acceptable fields := by
  constructor
  · rintro ⟨s, h⟩
    exact ⟨h.keepAlive.fits single (by decide), h.ackTimeoutMs.fits single (by decide),
      h.preferIpv6.fits single (by decide), h.forceFamily.fits single (by decide),
      h.gatewayEnabled.fits single (by decide), h.remoteAssistance.fits single (by decide),
      h.targets.fits single (by decide)⟩
  · intro h
    obtain ⟨_, keepAlive⟩ := h.keepAlive.exists_filled _
    obtain ⟨_, ack⟩ := h.ackTimeoutMs.exists_filled _
    obtain ⟨_, prefer⟩ := h.preferIpv6.exists_filled _
    obtain ⟨_, force⟩ := h.forceFamily.exists_filled _
    obtain ⟨_, gateway⟩ := h.gatewayEnabled.exists_filled _
    obtain ⟨_, assistance⟩ := h.remoteAssistance.exists_filled _
    obtain ⟨_, targets⟩ := h.targets.exists_filled _
    exact ⟨⟨_, _, _, _, _, _, _⟩, keepAlive, ack, prefer, force, gateway, assistance, targets⟩

theorem KeepAlive.given_of_known {k : KeepAlive} (h : Given fields k)
    (same : ∀ name ∈ fieldNames, ∀ d, (name, d) ∈ fields ↔ (name, d) ∈ gs) : Given gs k where
  enabled := h.enabled.known (same "enabled" (by decide))
  idleSecs := h.idleSecs.known (same "idle_secs" (by decide))
  retries := h.retries.known (same "retries" (by decide))
  intervalSecs := h.intervalSecs.known (same "interval_secs" (by decide))

theorem Alternate.given_of_known {a : Alternate} (h : Given fields a)
    (same : ∀ name ∈ fieldNames, ∀ d, (name, d) ∈ fields ↔ (name, d) ∈ gs) : Given gs a where
  host := (same "host" (by decide) _).mp h.host
  port := h.port.known (same "port" (by decide))

theorem Settings.given_of_known {s : Settings} (h : Given fields s)
    (same : ∀ name ∈ fieldNames, ∀ d, (name, d) ∈ fields ↔ (name, d) ∈ gs) : Given gs s where
  keepAlive := h.keepAlive.known (same "keepalive" (by decide))
  ackTimeoutMs := h.ackTimeoutMs.known (same "ack_timeout_ms" (by decide))
  preferIpv6 := h.preferIpv6.known (same "prefer_ipv6" (by decide))
  forceFamily := h.forceFamily.known (same "force_family" (by decide))
  gatewayEnabled := h.gatewayEnabled.known (same "gateway_enabled" (by decide))
  remoteAssistance := h.remoteAssistance.known (same "remote_assistance" (by decide))
  targets := h.targets.known (same "targets" (by decide))

end

/-- How a structure is read of which some fields are given. A record is accepted where no field is
given twice and those that are given are acceptable, and no others matter, in any order. A list is
the record of the first fields in order of declaration, and one that goes on past the last is
refused. -/
structure ReadsPartially {α : Type} (names : List String) (read : Document → Option α)
    (Acceptable : List (String × Document) → Prop)
    (Given : List (String × Document) → α → Prop) : Prop where
  accepts : ∀ fields, (∃ a, read (record fields) = some a) ↔ Single names fields ∧ Acceptable fields
  gives : ∀ fields a, read (record fields) = some a ↔ Single names fields ∧ Given fields a
  unknown : ∀ fields, read (record (fields.filter fun field => field.1 ∈ names)) =
    read (record fields)
  reordered : Indifferent read
  listed : ∀ items, items.length ≤ names.length →
    read (list items) = read (record (names.zip items))
  tooLong : ∀ items, names.length < items.length → read (list items) = none

theorem readsPartially {α : Type} {names : List String} {read : Document → Option α}
    {Acceptable : List (String × Document) → Prop} {Given : List (String × Document) → α → Prop}
    (distinct : names.Nodup) (reads : ∀ d a, read d = some a ↔ Spelled names Given d a)
    (accepts : ∀ {fields}, Single names fields → ((∃ a, Given fields a) ↔ Acceptable fields))
    (known : ∀ {fs gs a}, Given fs a →
      (∀ name ∈ names, ∀ d, (name, d) ∈ fs ↔ (name, d) ∈ gs) → Given gs a)
    (reordered : Indifferent read) : ReadsPartially names read Acceptable Given := by
  have gives : ∀ fields a, read (record fields) = some a ↔ Single names fields ∧ Given fields a :=
    fun fields a => (reads _ _).trans spelled_record_iff
  refine ⟨fun fields => ?_, gives, fun fields => ?_, reordered, fun items short => ?_,
    fun items long => ?_⟩
  · simp only [gives, exists_and_left]
    exact and_congr_right accepts
  · have same : ∀ name ∈ names, ∀ d, (name, d) ∈ fields.filter (fun field => field.1 ∈ names) ↔
        (name, d) ∈ fields := by
      intro name there d
      simp [there]
    refine Option.ext fun a => ?_
    rw [gives, gives, single_filter_iff]
    apply and_congr_right'
    constructor
    · exact fun given => known given same
    · exact fun given => known given fun name there d => (same name there d).symm
  · refine Option.ext fun a => ?_
    rw [gives, reads, spelled_list_iff]
    constructor
    · exact fun h => ⟨single_zip distinct items, h.2⟩
    · exact fun h => ⟨short, h.2⟩
  · refine Option.eq_none_iff_forall_ne_some.mpr fun a accepted => ?_
    obtain ⟨short, -⟩ := spelled_list_iff.mp ((reads _ _).mp accepted)
    omega

/-- Settings, their keep-alive settings and their targets are each read in part as the defaults with
the fields replaced that are given. -/
theorem Settings.given_in_part :
    ReadsPartially ["keepalive", "ack_timeout_ms", "prefer_ipv6", "force_family", "gateway_enabled",
      "remote_assistance", "targets"] Settings.read Settings.Acceptable Settings.Given ∧
    ReadsPartially ["enabled", "idle_secs", "retries", "interval_secs"]
      KeepAlive.read KeepAlive.Acceptable KeepAlive.Given ∧
    ReadsPartially ["host", "port"] Alternate.read Alternate.Acceptable Alternate.Given := by
  refine ⟨?_, ?_, ?_⟩
  · exact readsPartially (by decide) Settings.read_eq_some_iff Settings.exists_given_iff
      Settings.given_of_known Settings.indifferent_read
  · exact readsPartially (by decide) KeepAlive.read_eq_some_iff KeepAlive.exists_given_iff
      KeepAlive.given_of_known KeepAlive.indifferent_read
  · exact readsPartially (by decide) Alternate.read_eq_some_iff Alternate.exists_given_iff
      Alternate.given_of_known Alternate.indifferent_read

/-- The first fields of two structures, one in the other, and the defaults for the rest. -/
example : Settings.read (list [list [flag false, integer 30], integer 0]) =
    some { keepAlive := { enabled := false, idleSecs := 30 }, ackTimeoutMs := 0 } := by
  rfl

/-- A port that is given twice is refused, and a name that no target has is not. -/
example :
    Alternate.read (record [("host", text "h"), ("port", null), ("port", null)]) = none ∧
    Alternate.read (record [("note", null), ("host", text "h"), ("note", null)]) =
      some ⟨"h", none⟩ := by
  constructor <;> rfl

end StreamTransport
