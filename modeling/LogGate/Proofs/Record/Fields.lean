import Mathlib.Tactic.MkIffOfInductiveProp
import LogGate.Proofs.Record.Values

/-!
# The documents of records

A record is decoded from an object whose members fill its fields (`Fields`), or from a list of five
items that are its fields in order (`Items`), and from nothing else: `decode_law` says so of all
documents. The fields depend on the members with their names only, so other members and the order do
not matter (`Fields.of_perm`), and a list is decoded as the object with its items for fields would
be (`items_iff_fields`).

The reader of members keeps a draft. What one member does to it is `Draft.Effect`, and what all of
them do is `Draft.Filled`, both field by field. That the second is made of the first is the same for
every field (`fills_cons_iff`), and in the end a record is made of the draft (`Draft.Makes`).
-/

namespace LogGate

open Json

/-! ## Drafts -/

namespace Record

namespace Draft

attribute [ext] Draft

/-- What a member does to a draft. -/
@[mk_iff]
structure Effect (key : String) (p : Draft) (value : List Char) (q : Draft) : Prop where
  formed : Formed .value value
  time : Takes "time" key TimeOf value p.time q.time
  severity : Takes "severity" key SeverityOf value p.severity q.severity
  body : Takes "body" key TextOf value p.body q.body
  eventName : Takes "event_name" key OptionalTextOf value p.eventName q.eventName
  attributes : Takes "attributes" key AttributesOf value p.attributes q.attributes

/-- What members do to a draft. -/
@[mk_iff]
structure Filled (named : List (String × List Char)) (p q : Draft) : Prop where
  formed : ∀ n ∈ named, Formed .value n.2
  time : Fills TimeOf (valuesOf "time" named) p.time q.time
  severity : Fills SeverityOf (valuesOf "severity" named) p.severity q.severity
  body : Fills TextOf (valuesOf "body" named) p.body q.body
  eventName : Fills OptionalTextOf (valuesOf "event_name" named) p.eventName q.eventName
  attributes : Fills AttributesOf (valuesOf "attributes" named) p.attributes q.attributes

/-- A field that is filled by a value, while the others stay as they are. -/
theorem exact_field {α : Type} {x : Reader α} {accepts : List Char → α → Prop} {key : String}
    {p : Draft} {before : Option α} {put : Option α → Draft} (h : Exact x accepts)
    (hput : ∀ {value q}, Effect key p value q ↔ Formed .value value ∧
      ∃ after, Takes key key accepts value before after ∧ q = put after) :
    ExactMember (do return put (← Reader.once key before x)) (Effect key p) := by
  refine ((h.once key before).map put).congr fun value q => ?_
  rw [hput]
  constructor
  · rintro ⟨after, ⟨hbefore, a, ha, hafter⟩, hq⟩
    exact ⟨h.formed ha, after, takes_self_iff.mpr ⟨hbefore, a, ha, hafter⟩, hq⟩
  · rintro ⟨-, after, htakes, hq⟩
    exact ⟨after, takes_self_iff.mp htakes, hq⟩

/-- The reader of a member is exact. -/
theorem exact_step (key : String) (p : Draft) : ExactMember (step key p) (Effect key p) := by
  unfold step
  split
  · refine exact_field Time.Instant.exact_reader fun {value q} => ?_
    simp (disch := decide) [effect_iff, Draft.ext_iff, takes_iff_of_ne, and_left_comm]
  · refine exact_field Severity.exact_reader fun {value q} => ?_
    simp (disch := decide) [effect_iff, Draft.ext_iff, takes_iff_of_ne, and_left_comm]
  · refine exact_field (exact_text _) fun {value q} => ?_
    simp (disch := decide) [effect_iff, Draft.ext_iff, takes_iff_of_ne, and_left_comm]
  · refine exact_field (exact_optionalText _) fun {value q} => ?_
    simp (disch := decide) [effect_iff, Draft.ext_iff, takes_iff_of_ne, and_left_comm]
  · refine exact_field Attributes.exact_reader fun {value q} => ?_
    simp (disch := decide) [effect_iff, Draft.ext_iff, takes_iff_of_ne, and_left_comm]
  · next htime hseverity hbody heventName hattributes =>
    refine ((exact_anything.behindColon).map fun _ => p).congr fun value q => ?_
    simp [effect_iff, Draft.ext_iff, takes_iff_of_ne htime, takes_iff_of_ne hseverity,
      takes_iff_of_ne hbody, takes_iff_of_ne heventName, takes_iff_of_ne hattributes]

/-- What members do to a draft, the first of them does and then the others. -/
theorem filled_cons_iff {key : String} {value : List Char} {named : List (String × List Char)}
    {p q : Draft} : Filled ((key, value) :: named) p q ↔
      ∃ next, Effect key p value next ∧ Filled named next q := by
  constructor
  · rintro ⟨hformed, htime, hseverity, hbody, heventName, hattributes⟩
    obtain ⟨time, htime, htime'⟩ := fills_cons_iff.mp htime
    obtain ⟨severity, hseverity, hseverity'⟩ := fills_cons_iff.mp hseverity
    obtain ⟨body, hbody, hbody'⟩ := fills_cons_iff.mp hbody
    obtain ⟨eventName, heventName, heventName'⟩ := fills_cons_iff.mp heventName
    obtain ⟨attributes, hattributes, hattributes'⟩ := fills_cons_iff.mp hattributes
    obtain ⟨hvalue, hvalues⟩ := List.forall_mem_cons.mp hformed
    exact ⟨⟨time, severity, body, eventName, attributes⟩,
      ⟨hvalue, htime, hseverity, hbody, heventName, hattributes⟩,
      ⟨hvalues, htime', hseverity', hbody', heventName', hattributes'⟩⟩
  · rintro ⟨next, h, h'⟩
    exact ⟨List.forall_mem_cons.mpr ⟨h.formed, h'.formed⟩,
      fills_cons_iff.mpr ⟨_, h.time, h'.time⟩, fills_cons_iff.mpr ⟨_, h.severity, h'.severity⟩,
      fills_cons_iff.mpr ⟨_, h.body, h'.body⟩, fills_cons_iff.mpr ⟨_, h.eventName, h'.eventName⟩,
      fills_cons_iff.mpr ⟨_, h.attributes, h'.attributes⟩⟩

/-- Members fill the fields of a draft. -/
theorem follows_effect_iff {ms : List (List Char × List Char)} {p q : Draft} :
    Follows Effect ms p q ↔ ∃ named, Named ms named ∧ Filled named p q := by
  refine follows_iff Filled (fun {p q} => ?_) filled_cons_iff
  simp [filled_iff, fills_nil_iff, Draft.ext_iff]

/-- A record is made of a draft. -/
structure Makes (p : Draft) (r : Record) : Prop where
  time : p.time = some r.time
  severity : p.severity = some r.severity
  body : p.body = some r.body
  eventName : p.eventName.getD none = r.eventName
  attributes : p.attributes = some r.attributes

/-- A draft in which no field is missing makes a record. -/
theorem finish_eq_ok {p : Draft} {s rest : List Char} {r : Record} :
    p.finish.run s = .ok (r, rest) ↔ rest = s ∧ Makes p r := by
  simp only [finish, Reader.bind_eq_ok, Reader.required_eq_ok]
  constructor
  · rintro ⟨time, _, ⟨rfl, htime⟩, severity, _, ⟨rfl, hseverity⟩, body, _, ⟨rfl, hbody⟩,
      attributes, _, ⟨rfl, hattributes⟩, hr⟩
    cases hr
    exact ⟨rfl, htime, hseverity, hbody, rfl, hattributes⟩
  · rintro ⟨rfl, htime, hseverity, hbody, heventName, hattributes⟩
    refine ⟨_, _, ⟨rfl, htime⟩, _, _, ⟨rfl, hseverity⟩, _, _, ⟨rfl, hbody⟩,
      _, _, ⟨rfl, hattributes⟩, ?_⟩
    rw [heventName]
    rfl

end Draft

/-! ## Objects and lists -/

/-- The names of the fields of a record, in their order. -/
def fieldNames : List String := ["time", "severity", "body", "event_name", "attributes"]

/-- The members of an object fill the fields of a record other than its severity: each at most once,
and all but the name of an event. -/
@[mk_iff]
structure OtherFields (named : List (String × List Char)) (r : Record) : Prop where
  time : ∃ value, valuesOf "time" named = [value] ∧ TimeOf value r.time
  body : ∃ value, valuesOf "body" named = [value] ∧ TextOf value r.body
  eventName : (valuesOf "event_name" named = [] ∧ r.eventName = none) ∨
    ∃ value, valuesOf "event_name" named = [value] ∧ OptionalTextOf value r.eventName
  attributes : ∃ value, valuesOf "attributes" named = [value] ∧ AttributesOf value r.attributes

/-- The members of an object fill the fields of a record. -/
@[mk_iff]
structure Fields (named : List (String × List Char)) (r : Record) : Prop
    extends OtherFields named r where
  severity : ∃ value, valuesOf "severity" named = [value] ∧ SeverityOf value r.severity

/-- The items of a list are the fields of a record in order. -/
inductive Items : List (List Char) → Record → Prop where
  | mk {time severity body eventName attributes : List Char} {r : Record}
    (htime : TimeOf time r.time) (hseverity : SeverityOf severity r.severity)
    (hbody : TextOf body r.body) (heventName : OptionalTextOf eventName r.eventName)
    (hattributes : AttributesOf attributes r.attributes) :
    Items [time, severity, body, eventName, attributes] r

section
variable {document : String} {ms : List (List Char × List Char)} {vs : List (List Char)}
variable {named : List (String × List Char)} {value : List Char} {r : Record}

/-- A draft that makes a record has been filled by the fields of that record. -/
theorem fields_of_filled (h : ∀ n ∈ named, Formed .value n.2) :
    (∃ p, Draft.Filled named {} p ∧ p.Makes r) ↔ Fields named r := by
  have heventName : ∀ {vs : List (List Char)} {eventName : Option String},
      (∃ field, Fills OptionalTextOf vs none field ∧ field.getD none = eventName) ↔
        (vs = [] ∧ eventName = none) ∨
          ∃ value, vs = [value] ∧ OptionalTextOf value eventName := by
    intro vs eventName
    constructor
    · rintro ⟨_, ⟨⟩ | ⟨hvalue⟩, rfl⟩
      · exact .inl ⟨rfl, rfl⟩
      · exact .inr ⟨_, rfl, hvalue⟩
    · rintro (⟨rfl, rfl⟩ | ⟨value, rfl, hvalue⟩)
      · exact ⟨none, .kept, rfl⟩
      · exact ⟨_, .given hvalue, rfl⟩
  constructor
  · rintro ⟨p, hfilled, hmakes⟩
    exact ⟨⟨fills_none_some_iff.mp (hmakes.time ▸ hfilled.time),
      fills_none_some_iff.mp (hmakes.body ▸ hfilled.body),
      heventName.mp ⟨_, hfilled.eventName, hmakes.eventName⟩,
      fills_none_some_iff.mp (hmakes.attributes ▸ hfilled.attributes)⟩,
      fills_none_some_iff.mp (hmakes.severity ▸ hfilled.severity)⟩
  · rintro ⟨⟨htime, hbody, hname, hattributes⟩, hseverity⟩
    obtain ⟨field, hfills, hfield⟩ := heventName.mpr hname
    exact ⟨⟨some r.time, some r.severity, some r.body, field, some r.attributes⟩,
      ⟨h, fills_none_some_iff.mpr htime, fills_none_some_iff.mpr hseverity,
        fills_none_some_iff.mpr hbody, hfills, fills_none_some_iff.mpr hattributes⟩,
      ⟨rfl, rfl, rfl, hfield, rfl⟩⟩

/-- The reader of an item is exact. -/
theorem exact_item {α : Type} {x : Reader α} {accepts : List Char → α → Prop} (h : Exact x accepts)
    (before : Nat) : ExactItem (before == 0) (item before x) accepts :=
  h.item (y := fun more => if more then x else Reader.complain _) (if_pos rfl) nofun _

/-- The reader of lists is exact. -/
theorem exact_listReader : ExactList listReader Items := by
  have hrow := (exact_item Time.Instant.exact_reader 0).row fun time =>
    (exact_item Severity.exact_reader 1).row fun severity =>
    (exact_item (exact_text "a string") 2).row fun body =>
    (exact_item (exact_optionalText "a string") 3).row fun eventName =>
    (exact_item Attributes.exact_reader 4).row fun attributes =>
    exactRow_pure false (Record.mk time severity body eventName attributes)
  refine ExactRow.list (hrow.congr fun vs r => ?_)
  constructor
  · rintro ⟨_, _, _, rfl, htime, _, _, _, rfl, hseverity, _, _, _, rfl, hbody, _, _, _, rfl,
      heventName, _, _, _, rfl, hattributes, rfl, rfl⟩
    exact .mk htime hseverity hbody heventName hattributes
  · rintro ⟨htime, hseverity, hbody, heventName, hattributes⟩
    exact ⟨_, _, _, rfl, htime, _, _, _, rfl, hseverity, _, _, _, rfl, hbody, _, _, _, rfl,
      heventName, _, _, _, rfl, hattributes, rfl, rfl⟩

/-- The reader of objects is exact. -/
theorem exact_objectReader : ExactObject (do (← Reader.members {} Draft.step).finish)
    fun ms r => ∃ p, Follows Draft.Effect ms {} p ∧ p.Makes r :=
  (exactObject_members Draft.exact_step {}).finish Draft.finish_eq_ok

/-- A value is a record if it is an object that fills the fields or a list of them. -/
theorem exact_reader : Exact reader fun value r =>
    (∃ ms named, ObjectOf ms value ∧ Named ms named ∧ Fields named r) ∨
      ∃ vs, ListOf vs value ∧ Items vs r := by
  refine (exact_objectReader.either exact_listReader "struct LogRecord").congr fun value r => ?_
  simp only [Draft.follows_effect_iff]
  constructor
  · rintro (⟨ms, hms, p, ⟨named, hnamed, hfilled⟩, hmakes⟩ | h)
    · exact .inl ⟨ms, named, hms, hnamed,
        (fields_of_filled hfilled.formed).mp ⟨p, hfilled, hmakes⟩⟩
    · exact .inr h
  · rintro (⟨ms, named, hms, hnamed, hfields⟩ | h)
    · have hformed := hnamed.formed hms.formed_values
      obtain ⟨p, hfilled, hmakes⟩ := (fields_of_filled hformed).mpr hfields
      exact .inl ⟨ms, hms, p, ⟨named, hnamed, hfilled⟩, hmakes⟩
    · exact .inr h

/-! ## Order and layout -/

/-- Fields are filled as well by members that are the same but for their order and for members of
other names. -/
theorem Fields.of_perm {named' : List (String × List Char)}
    (h : (named.filter (·.1 ∈ fieldNames)).Perm (named'.filter (·.1 ∈ fieldNames)))
    (hfields : Fields named r) : Fields named' r := by
  have hone : ∀ name ∈ fieldNames, ∀ {accepted : List Char → Prop},
      (∃ value, valuesOf name named = [value] ∧ accepted value) →
        ∃ value, valuesOf name named' = [value] ∧ accepted value := by
    rintro name hname accepted ⟨value, hvalue, ha⟩
    have hperm := (valuesOf_perm hname h).symm
    rw [hvalue, List.perm_singleton] at hperm
    exact ⟨value, hperm, ha⟩
  obtain ⟨⟨htime, hbody, heventName, hattributes⟩, hseverity⟩ := hfields
  refine ⟨⟨hone _ (by decide) htime, hone _ (by decide) hbody, ?_, hone _ (by decide) hattributes⟩,
    hone _ (by decide) hseverity⟩
  obtain ⟨hnone, hr⟩ | hsome := heventName
  · have hname : "event_name" ∈ fieldNames := by decide
    have hperm := (valuesOf_perm hname h).symm
    rw [hnone, List.perm_nil] at hperm
    exact .inl ⟨hperm, hr⟩
  · exact .inr (hone _ (by decide) hsome)

/-- Five items are the fields of a record if they fill them as the members of an object. -/
theorem items_iff_fields (h : vs.length = 5) : Items vs r ↔ Fields (fieldNames.zip vs) r := by
  match vs with
  | [time, severity, body, eventName, attributes] =>
    have hitems : Items [time, severity, body, eventName, attributes] r ↔
        TimeOf time r.time ∧ SeverityOf severity r.severity ∧ TextOf body r.body ∧
          OptionalTextOf eventName r.eventName ∧ AttributesOf attributes r.attributes := by
      constructor
      · rintro ⟨htime, hseverity, hbody, heventName, hattributes⟩
        exact ⟨htime, hseverity, hbody, heventName, hattributes⟩
      · rintro ⟨htime, hseverity, hbody, heventName, hattributes⟩
        exact .mk htime hseverity hbody heventName hattributes
    rw [hitems]
    simp [fields_iff, otherFields_iff, fieldNames, valuesOf, and_comm, and_left_comm]

end

/-! ## The law -/

/-- **The documents of records.** An object is decoded if and only if the names of its members are
texts that fill the fields, and a list if and only if its items are the five fields; every other
document is an error. Objects are decoded alike if they have the same fields, in any order and among
any other members, and a list of five items is decoded like an object with these for its fields. -/
theorem decode_law :
    (∀ document ms, IsObject document ms → ∀ r, reader.decode document = .ok r ↔
      ∃ named, Named ms named ∧ Fields named r) ∧
    (∀ document vs, IsList document vs → ∀ r, reader.decode document = .ok r ↔ Items vs r) ∧
    (∀ document, (∀ ms, ¬ IsObject document ms) → (∀ vs, ¬ IsList document vs) →
      ∃ e, reader.decode document = .error e) ∧
    (∀ document document' named named', HasMembers document named → HasMembers document' named' →
      (named.filter (·.1 ∈ fieldNames)).Perm (named'.filter (·.1 ∈ fieldNames)) →
      ∀ r, reader.decode document = .ok r ↔ reader.decode document' = .ok r) ∧
    (∀ document vs, IsList document vs → vs.length ≠ 5 → ∃ e, reader.decode document = .error e) ∧
    ∀ document vs document', IsList document vs → vs.length = 5 →
      HasMembers document' (fieldNames.zip vs) →
      ∀ r, reader.decode document = .ok r ↔ reader.decode document' = .ok r := by
  have herror : ∀ {document}, (∀ r, reader.decode document ≠ .ok r) →
      ∃ e, reader.decode document = .error e := by
    intro document h
    cases hdecode : reader.decode document with
    | ok r => exact absurd hdecode (h r)
    | error e => exact ⟨e, rfl⟩
  refine ⟨fun _ _ h _ => h.decode_iff exact_reader, fun _ _ h _ => h.decode_iff exact_reader,
    ?_, ?_, ?_, ?_⟩
  · intro document hobject hlist
    refine herror fun r hdecode => ?_
    obtain ⟨ms, h⟩ | ⟨vs, h⟩ := isObject_or_isList exact_reader hdecode
    · exact hobject ms h
    · exact hlist vs h
  · intro document document' named named' h h' hperm r
    rw [h.decode_iff exact_reader, h'.decode_iff exact_reader]
    exact ⟨.of_perm hperm, .of_perm hperm.symm⟩
  · intro document vs h hlength
    refine herror fun r hdecode => ?_
    cases (h.decode_iff exact_reader).mp hdecode
    exact hlength rfl
  · intro document vs document' h hlength h' r
    rw [h.decode_iff exact_reader, h'.decode_iff exact_reader, items_iff_fields hlength]

/-- The fields may come in any order, among members that are not known, and the last value of a key
counts in attributes. -/
theorem decode_law_shuffled :
    let document := "\x7b\"x\":[1,\x7b\"y\":null\x7d],\"body\":\"b\"," ++
      "\"attributes\":\x7b\"k\":\"1\",\"k\":\"2\"\x7d,\"severity\":\" warn \"," ++
      "\"time\":\"1970-01-01T00:00:00Z\"\x7d"
    ∃ named, HasMembers document named ∧
      Fields named ⟨.epoch, .base .warn, "b", none, .ofList [("k", "2")]⟩ := by
  intro document
  have hdecode : reader.decode document =
      .ok ⟨.epoch, .base .warn, "b", none, .ofList [("k", "2")]⟩ := by decide +kernel
  obtain ⟨ms, hobject⟩ | ⟨vs, value, ⟨hbefore, hvalue, hafter, hs⟩, ⟨hvs⟩⟩ :=
    isObject_or_isList exact_reader hdecode
  · obtain ⟨named, hnamed, hfields⟩ := (decode_law.1 document ms hobject _).mp hdecode
    exact ⟨named, ⟨ms, hobject, hnamed⟩, hfields⟩
  · -- the document does not start with the bracket of a list
    have hbrace : (dropSpace document.toList).head? = some '\x7b' := by decide +kernel
    rw [hs, dropSpace_append hbefore (hvalue.stops _)] at hbrace
    cases hbrace

end Record

end LogGate
