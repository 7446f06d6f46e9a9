import LogGate.Config.Document
import LogGate.Proofs.Record.Values

/-!
# The documents of configurations

A configuration is decoded from an object with at most one member `min_severity`, or from a list of
at most one item (`exact_reader`). What is said there is the minimum severity, and if nothing is
said it is the default (`Says`). So `parse_law` can say of every document what it comes to: what an
object has besides that member does not matter, but the member has to be good if it is there, and
nothing but space may stand behind the object or the list.
-/

namespace LogGate.Config

open Json

/-- Values say a configuration: one that is a severity, or none. -/
inductive Says : List (List Char) → Config → Prop where
  | nothing : Says [] default
  | severity {value : List Char} {s : Severity} (h : SeverityOf value s) : Says [value] ⟨s⟩

/-- Reads the member with a key. -/
def step (key : String) (before : Option Severity) : Reader (Option Severity) :=
  if key = "min_severity" then .once key before Severity.reader
  else do Reader.unknown; return before

/-- What a member does to the severity that was said before. -/
structure Effect (key : String) (before : Option Severity) (value : List Char)
    (after : Option Severity) : Prop where
  formed : Formed .value value
  severity : Takes "min_severity" key SeverityOf value before after

/-- What members do to the severity that was said before. -/
structure Filled (named : List (String × List Char)) (before after : Option Severity) : Prop where
  formed : ∀ n ∈ named, Formed .value n.2
  severity : Fills SeverityOf (valuesOf "min_severity" named) before after

section
variable {document : String} {ms : List (List Char × List Char)} {vs : List (List Char)}
variable {named : List (String × List Char)} {config : Config} {before after : Option Severity}

/-- The reader of a member is exact. -/
theorem exact_step (key : String) (before : Option Severity) :
    ExactMember (step key before) (Effect key before) := by
  unfold step
  split
  · next hkey =>
    subst hkey
    refine (Severity.exact_reader.once "min_severity" before).congr fun value after => ?_
    constructor
    · rintro ⟨hbefore, s, hs, hafter⟩
      exact ⟨Severity.exact_reader.formed hs, takes_self_iff.mpr ⟨hbefore, s, hs, hafter⟩⟩
    · exact fun h => takes_self_iff.mp h.severity
  · next hkey =>
    refine ((exact_anything.behindColon).map fun _ => before).congr fun value after => ?_
    constructor
    · rintro ⟨-, hformed, rfl⟩
      exact ⟨hformed, .other hkey⟩
    · rintro ⟨hformed, htakes⟩
      exact ⟨(), hformed, (takes_iff_of_ne hkey).mp htakes⟩

/-- Members say what those with the name `min_severity` say. -/
theorem follows_effect_iff : Follows Effect ms before after ↔
    ∃ named, Named ms named ∧ Filled named before after := by
  refine follows_iff Filled (fun {p q} => ?_) (fun {key value named p q} => ?_)
  · exact ⟨fun h => fills_nil_iff.mp h.severity, fun h => ⟨nofun, fills_nil_iff.mpr h⟩⟩
  · constructor
    · rintro ⟨hformed, hfills⟩
      obtain ⟨next, htakes, hfills⟩ := fills_cons_iff.mp hfills
      obtain ⟨hvalue, hvalues⟩ := List.forall_mem_cons.mp hformed
      exact ⟨next, ⟨hvalue, htakes⟩, ⟨hvalues, hfills⟩⟩
    · rintro ⟨next, h, h'⟩
      exact ⟨List.forall_mem_cons.mpr ⟨h.formed, h'.formed⟩,
        fills_cons_iff.mpr ⟨next, h.severity, h'.severity⟩⟩

/-- A severity that was said, or else the default, is a configuration. -/
theorem fills_iff_says :
    (∃ said, Fills SeverityOf vs none said ∧ config = ⟨said.getD .default⟩) ↔ Says vs config := by
  constructor
  · rintro ⟨_, ⟨⟩ | ⟨h⟩, rfl⟩
    · exact .nothing
    · exact .severity h
  · rintro (⟨⟩ | ⟨h⟩)
    · exact ⟨none, .kept, rfl⟩
    · exact ⟨_, .given h, rfl⟩

/-- The reader of objects is exact. -/
theorem exact_objectReader : ExactObject objectReader fun ms config =>
    ∃ said, Follows Effect ms none said ∧ config = ⟨said.getD .default⟩ := by
  refine (exactObject_members exact_step none).finish fun {said s r config} => ?_
  constructor
  · intro h
    cases h
    exact ⟨rfl, rfl⟩
  · rintro ⟨rfl, rfl⟩
    rfl

/-- The reader of lists is exact. -/
theorem exact_listReader : ExactList listReader Says := by
  have hrow := (Severity.exact_reader.map Config.mk).atMostOne (a := default)
    (y := fun more => if more then (do return ⟨← Severity.reader⟩) else pure default)
    (if_pos rfl) (if_neg nofun) true
  refine ExactRow.list (hrow.congr fun vs config => ?_)
  constructor
  · rintro (⟨rfl, rfl⟩ | ⟨value, rfl, s, hs, rfl⟩)
    · exact .nothing
    · exact .severity hs
  · rintro (⟨⟩ | ⟨hs⟩)
    · exact .inl ⟨rfl, rfl⟩
    · exact .inr ⟨_, rfl, _, hs, rfl⟩

/-- A value is a configuration if it is an object or a list that says it. -/
theorem exact_reader : Exact reader fun value config =>
    (∃ ms named, ObjectOf ms value ∧ Named ms named ∧ Says (valuesOf "min_severity" named) config) ∨
      ∃ vs, ListOf vs value ∧ Says vs config := by
  refine (exact_objectReader.either exact_listReader "struct Config").congr fun value config => ?_
  simp only [follows_effect_iff]
  constructor
  · rintro (⟨ms, hms, said, ⟨named, hnamed, hfilled⟩, hconfig⟩ | h)
    · exact .inl ⟨ms, named, hms, hnamed, fills_iff_says.mp ⟨said, hfilled.severity, hconfig⟩⟩
    · exact .inr h
  · rintro (⟨ms, named, hms, hnamed, hsaid⟩ | h)
    · obtain ⟨said, hfills, hconfig⟩ := fills_iff_says.mpr hsaid
      exact .inl ⟨ms, hms, said, ⟨named, hnamed, hnamed.formed hms.formed_values, hfills⟩, hconfig⟩
    · exact .inr h

/-! ## Order and refusals -/

/-- What is said by at most one value does not depend on an order. -/
theorem Says.of_perm {vs' : List (List Char)} (h : vs.Perm vs') (hsaid : Says vs config) :
    Says vs' config := by
  cases hsaid with
  | nothing =>
    obtain rfl := List.nil_perm.mp h
    exact .nothing
  | severity hs =>
    obtain rfl := List.singleton_perm.mp h
    exact .severity hs

/-- Every value that says a configuration is a text. -/
theorem Says.exists_textOf {value : List Char} (h : Says vs config) (hvalue : value ∈ vs) :
    ∃ text, TextOf value text := by
  cases h with
  | nothing => cases hvalue
  | severity hs =>
    obtain rfl := List.mem_singleton.mp hvalue
    obtain ⟨text, htext, -⟩ := hs
    exact ⟨text, htext⟩

/-- What is not decoded is an error. -/
theorem exists_error_of_ne_ok (h : ∀ config, parse document ≠ .ok config) :
    ∃ e, parse document = .error e := by
  cases hparse : parse document with
  | ok config => exact absurd hparse (h config)
  | error e => exact ⟨e, rfl⟩

end

/-! ## The law -/

/-- **The documents of configurations.** An object is decoded if and only if the names of its
members are texts and its values of `min_severity` say a configuration, that is, if there is none or
if there is one and it is a severity; a list is decoded if and only if its items do. Every other
document is an error, and so is any document with more than space behind it. Objects are decoded
alike if they have the same members of that name, in any order and among any other members. A value
of it that is no text is never passed over, and only its absence gives the default, `INFO`. -/
theorem parse_law :
    (∀ document ms, IsObject document ms → ∀ config, parse document = .ok config ↔
      ∃ named, Named ms named ∧ Says (valuesOf "min_severity" named) config) ∧
    (∀ document vs, IsList document vs → ∀ config, parse document = .ok config ↔ Says vs config) ∧
    (∀ document, (∀ ms, ¬ IsObject document ms) → (∀ vs, ¬ IsList document vs) →
      ∃ e, parse document = .error e) ∧
    (∀ document value tail, Spells document value → ¬ Blank tail.toList →
      ∃ e, parse (document ++ tail) = .error e) ∧
    (∀ document document' named named', HasMembers document named → HasMembers document' named' →
      (named.filter (·.1 = "min_severity")).Perm (named'.filter (·.1 = "min_severity")) →
      ∀ config, parse document = .ok config ↔ parse document' = .ok config) ∧
    (∀ document named value, HasMembers document named → value ∈ valuesOf "min_severity" named →
      (∀ text, ¬ TextOf value text) → ∃ e, parse document = .error e) ∧
    ∀ document named, HasMembers document named → "min_severity" ∉ named.map Prod.fst →
      parse document = .ok ⟨.base .info⟩ := by
  refine ⟨fun _ _ h _ => h.decode_iff exact_reader, fun _ _ h _ => h.decode_iff exact_reader,
    ?_, ?_, ?_, ?_, ?_⟩
  · intro document hobject hlist
    refine exists_error_of_ne_ok fun config hparse => ?_
    obtain ⟨ms, h⟩ | ⟨vs, h⟩ := isObject_or_isList exact_reader hparse
    · exact hobject ms h
    · exact hlist vs h
  · intro document value tail hspells htail
    exact exists_error_of_ne_ok (hspells.decode_append_ne_ok exact_reader htail)
  · intro document document' named named' h h' hperm config
    have hvalues : (valuesOf "min_severity" named).Perm (valuesOf "min_severity" named') :=
      hperm.map Prod.snd
    rw [parse, parse, h.decode_iff exact_reader, h'.decode_iff exact_reader]
    exact ⟨.of_perm hvalues, .of_perm hvalues.symm⟩
  · intro document named value h hvalue htext
    refine exists_error_of_ne_ok fun config hparse => ?_
    obtain ⟨text, ht⟩ := ((h.decode_iff exact_reader).mp hparse).exists_textOf hvalue
    exact htext text ht
  · intro document named h hname
    have hvalues : valuesOf "min_severity" named = [] := by
      rw [valuesOf, List.map_eq_nil_iff, List.filter_eq_nil_iff]
      intro n hn hkey
      exact hname (List.mem_map.mpr ⟨n, hn, of_decide_eq_true hkey⟩)
    refine (h.decode_iff exact_reader).mpr ?_
    rw [hvalues]
    exact .nothing

/-- The name may be written with escapes, behind any other member, and a comma behind the object is
too much. -/
theorem parse_law_escapedName :
    let document := "\x7b\"x\":[[null],1e999],\"min\\u005fseverity\":\" warn \"\x7d "
    (∃ named, HasMembers document named ∧ Says (valuesOf "min_severity" named) ⟨.base .warn⟩) ∧
      ∃ e, parse (document ++ ",") = .error e := by
  intro document
  have hparse : parse document = .ok ⟨.base .warn⟩ := by decide +kernel
  obtain ⟨ms, hobject⟩ | ⟨vs, value, ⟨hbefore, hvalue, hafter, hs⟩, ⟨hvs⟩⟩ :=
    isObject_or_isList exact_reader hparse
  · obtain ⟨named, hnamed, hsaid⟩ := (parse_law.1 document ms hobject _).mp hparse
    obtain ⟨value, hspells, hms⟩ := hobject
    have hcomma : ¬ Blank ",".toList := by
      intro h
      cases h ',' (.head _)
    exact ⟨⟨named, ⟨ms, ⟨value, hspells, hms⟩, hnamed⟩, hsaid⟩,
      parse_law.2.2.2.1 document value "," hspells hcomma⟩
  · -- the document does not start with the bracket of a list
    have hbrace : (dropSpace document.toList).head? = some '\x7b' := by decide +kernel
    rw [hs, dropSpace_append hbefore (hvalue.stops _)] at hbrace
    cases hbrace

end LogGate.Config
