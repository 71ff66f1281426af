import StreamTransport.Proofs.Settings.Order

/-!
# Settings survive writing and reading

What is written of settings is read as the same settings, whatever order the
fields come in. A field is left out of the written form only where it holds
what an absent field stands for, and no name is written twice.
-/

set_option autoImplicit false

namespace StreamTransport

open Document

namespace Document

/-- No record in it has a name twice. -/
inductive Distinct : Document → Prop
  | null : Distinct null
  | flag (value : Bool) : Distinct (flag value)
  | integer (value : Int) : Distinct (integer value)
  | fraction (digits : Int) (places : Nat) : Distinct (fraction digits places)
  | text (value : String) : Distinct (text value)
  | list {items : List Document} (each : ∀ d ∈ items, Distinct d) : Distinct (list items)
  | record {fields : List (String × Document)} (names : (fields.map Prod.fst).Nodup)
      (each : ∀ field ∈ fields, Distinct field.2) : Distinct (record fields)

/-- A record without repeated names spells its fields, whatever the names of the structure are. -/
theorem fields?_of_distinct {names : List String} {fields : List (String × Document)}
    (h : Distinct (record fields)) : (record fields).fields? names = some fields := by
  cases h with
  | record once _ =>
    exact if_pos fun name _ => List.nodup_iff_count.mp once name

theorem readField_of_present {α : Type} {fields : List (String × Document)} {name : String}
    {read : Document → Option α} {d : Document} {value : α} (absent : α)
    (found : field? name fields = some d) (reads : read d = some value) :
    readField fields name read absent = some value := by
  rw [readField, found]
  exact reads

theorem readField_of_absent {α : Type} {fields : List (String × Document)} {name : String}
    (read : Document → Option α) (absent : α) (missing : field? name fields = none) :
    readField fields name read absent = some absent := by
  rw [readField, missing]

/-- A list is read item by item. -/
theorem readList_map {α : Type} {read : Document → Option α} {write : α → Document}
    (back : ∀ value, read (write value) = some value) (values : List α) :
    readList read (list (values.map write)) = some values := by
  change (values.map write).mapM read = some values
  induction values with
  | nil => rfl
  | cons value rest ih => rw [List.map_cons, List.mapM_cons, back, ih]; rfl

end Document

namespace KeepAlive

/-- What the fields of a record say of each part. -/
structure ReadFrom (fields : List (String × Document)) (k : KeepAlive) : Prop where
  enabled : readField fields "enabled" readFlag true = some k.enabled
  idleSecs : readField fields "idle_secs" readWord 5 = some k.idleSecs
  retries : readField fields "retries" readWord 3 = some k.retries
  intervalSecs : readField fields "interval_secs" readWord 2 = some k.intervalSecs

theorem read_of_readFrom {d : Document} {fields : List (String × Document)} {k : KeepAlive}
    (spelled : d.fields? fieldNames = some fields) (h : k.ReadFrom fields) : read d = some k := by
  simp only [read, spelled, Option.bind_eq_bind, Option.bind_some, h.enabled, h.idleSecs, h.retries,
    h.intervalSecs, pure]

theorem distinct_write (k : KeepAlive) : Distinct k.write := by
  apply Distinct.record
  · change fieldNames.Nodup
    decide
  · simp only [List.forall_mem_cons]
    exact ⟨.flag _, .integer _, .integer _, .integer _, nofun⟩

theorem read_write (k : KeepAlive) : read k.write = some k := by
  apply read_of_readFrom (fields?_of_distinct k.distinct_write)
  constructor
  · exact readField_of_present _ rfl rfl
  · exact readField_of_present _ rfl (readWord_integer _)
  · exact readField_of_present _ rfl (readWord_integer _)
  · exact readField_of_present _ rfl (readWord_integer _)

end KeepAlive

namespace Alternate

/-- What the fields of a record say of each part. -/
structure ReadFrom (fields : List (String × Document)) (a : Alternate) : Prop where
  host : (field? "host" fields).bind readText = some a.host
  port : readField fields "port" (readOptional readPort) none = some a.port

theorem read_of_readFrom {d : Document} {fields : List (String × Document)} {a : Alternate}
    (spelled : d.fields? fieldNames = some fields) (h : a.ReadFrom fields) : read d = some a := by
  simp only [read, spelled, Option.bind_eq_bind, Option.bind_some, h.host, h.port, pure]

theorem distinct_write (a : Alternate) : Distinct a.write := by
  rcases a with ⟨host, port⟩
  cases port with
  | none =>
    apply Distinct.record
    · change ["host"].Nodup
      decide
    · simp only [List.forall_mem_cons]
      exact ⟨.text _, nofun⟩
  | some port =>
    apply Distinct.record
    · change fieldNames.Nodup
      decide
    · simp only [List.forall_mem_cons]
      exact ⟨.text _, .integer _, nofun⟩

/-- A port that is left out is one that is not there. -/
theorem read_write (a : Alternate) : read a.write = some a := by
  apply read_of_readFrom (fields?_of_distinct a.distinct_write)
  rcases a with ⟨host, port⟩
  constructor
  · rfl
  · cases port with
    | none => exact readField_of_absent _ _ rfl
    | some port =>
      have back : readOptional readPort (integer port.toNat) = some (some port) := by
        rw [readOptional, readPort_integer]
        · rfl
        · nofun
      exact readField_of_present _ rfl back

end Alternate

theorem IpVersion.read_write (v : IpVersion) : read v.write = some v := by
  cases v <;> decide

namespace Settings

/-- What the fields of a record say of each part. -/
structure ReadFrom (fields : List (String × Document)) (s : Settings) : Prop where
  keepAlive : readField fields "keepalive" KeepAlive.read {} = some s.keepAlive
  ackTimeoutMs : readField fields "ack_timeout_ms" readWord 9000 = some s.ackTimeoutMs
  preferIpv6 : readField fields "prefer_ipv6" readFlag false = some s.preferIpv6
  forceFamily :
    readField fields "force_family" (readOptional IpVersion.read) none = some s.forceFamily
  gatewayEnabled : readField fields "gateway_enabled" readFlag false = some s.gatewayEnabled
  remoteAssistance : readField fields "remote_assistance" readFlag false = some s.remoteAssistance
  targets : readField fields "targets" (readList Alternate.read) [] = some s.targets

theorem read_of_readFrom {d : Document} {fields : List (String × Document)} {s : Settings}
    (spelled : d.fields? fieldNames = some fields) (h : s.ReadFrom fields) : read d = some s := by
  simp only [read, spelled, Option.bind_eq_bind, Option.bind_some, h.keepAlive, h.ackTimeoutMs,
    h.preferIpv6, h.forceFamily, h.gatewayEnabled, h.remoteAssistance, h.targets, pure]

theorem distinct_forceFamilyField (forced : Option IpVersion) :
    ∀ field ∈ forceFamilyField forced, Distinct field.2 := by
  cases forced with
  | none => exact nofun
  | some forced =>
    simp only [forceFamilyField, List.forall_mem_cons]
    exact ⟨.text _, nofun⟩

theorem distinct_targetsField (targets : List Alternate) :
    ∀ field ∈ targetsField targets, Distinct field.2 := by
  cases targets with
  | nil => exact nofun
  | cons first rest =>
    have each : ∀ d ∈ (first :: rest).map Alternate.write, Distinct d := by
      intro d member
      obtain ⟨target, -, rfl⟩ := List.mem_map.mp member
      exact target.distinct_write
    simp only [targetsField, List.forall_mem_cons]
    exact ⟨.list each, nofun⟩

theorem distinct_write (s : Settings) : Distinct s.write := by
  rcases s with ⟨keepAlive, ackTimeoutMs, preferIpv6, forced, gateway, assistance, targets⟩
  apply Distinct.record
  · cases forced <;> cases targets <;> simp [forceFamilyField, targetsField]
  · have forcedField := distinct_forceFamilyField forced
    have targetsField := distinct_targetsField targets
    simp only [List.forall_mem_append, List.forall_mem_cons]
    constructor
    · exact ⟨⟨⟨keepAlive.distinct_write, .integer _, .flag _, nofun⟩, forcedField⟩,
        .flag _, .flag _, nofun⟩
    · exact targetsField

theorem read_write (s : Settings) : read s.write = some s := by
  apply read_of_readFrom (fields?_of_distinct s.distinct_write)
  rcases s with ⟨keepAlive, ackTimeoutMs, preferIpv6, forced, gateway, assistance, targets⟩
  -- a look-up is settled once it is known whether the fields in front of it were left out
  constructor
  · exact readField_of_present _ rfl keepAlive.read_write
  · exact readField_of_present _ rfl (readWord_integer _)
  · exact readField_of_present _ rfl rfl
  · cases forced with
    | none => cases targets <;> exact readField_of_absent _ _ rfl
    | some forced =>
      have back := forced.read_write
      exact readField_of_present _ rfl (congrArg (Option.map some) back)
  · cases forced <;> exact readField_of_present _ rfl rfl
  · cases forced <;> exact readField_of_present _ rfl rfl
  · cases targets with
    | nil => cases forced <;> exact readField_of_absent _ _ rfl
    | cons first rest =>
      have back := readList_map Alternate.read_write (first :: rest)
      cases forced <;> exact readField_of_present _ rfl back

/-- The written form has no name twice and is read as what was written, in any order. -/
structure ReadsBack (s : Settings) : Prop where
  distinct : Distinct s.write
  back : read s.write = some s
  reordered : ∀ d, Reordered s.write d → read d = some s

theorem readsBack (s : Settings) : s.ReadsBack where
  distinct := s.distinct_write
  back := s.read_write
  reordered := by
    intro d h
    rw [← indifferent_read _ _ h, s.read_write]

/-- All settings survive being written, those that were read from a document among them. -/
theorem survive_writing :
    (∀ s : Settings, s.ReadsBack) ∧ ∀ d s, read d = some s → s.ReadsBack := by
  constructor
  · exact readsBack
  · intro _ s _
    exact s.readsBack

/-- A document in which a target is spelled as a list and most fields are absent. -/
theorem survive_writing_partial :
    read (record [("targets", list [list [text "h"]]), ("prefer_ipv6", flag true)]) =
      some { preferIpv6 := true, targets := [⟨"h", none⟩] } ∧
    ReadsBack { preferIpv6 := true, targets := [⟨"h", none⟩] } := by
  have accepted : read (record [("targets", list [list [text "h"]]), ("prefer_ipv6", flag true)]) =
      some { preferIpv6 := true, targets := [⟨"h", none⟩] } := rfl
  exact ⟨accepted, survive_writing.2 _ _ accepted⟩

end Settings

end StreamTransport
