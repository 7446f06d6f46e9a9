import Mathlib.Data.List.Sort
import LogGate.Proofs.Json.Fields
import LogGate.Proofs.Record.Document

/-!
# The values of fields

What a value of a document is, for the fields of records and configurations: a severity or an
instant is a text that is read as one, and attributes are an object of texts. The readers of these
values are exact.

Attributes are a map that is known by the values of its keys (`Attributes.eq_of_get?`). So it is
enough to say of each key which member decides about it, and that is the last one that has the key
(`Attributes.get?_foldl_insert`).
-/

namespace LogGate

open Json

/-! ## Severities and times -/

/-- A value is a severity: a text that is read as one. -/
def SeverityOf (value : List Char) (s : Severity) : Prop :=
  ∃ text, TextOf value text ∧ Severity.parse text = .ok s

/-- A value is an instant: a text that is read as one. -/
def TimeOf (value : List Char) (t : Time.Instant) : Prop :=
  ∃ text, TextOf value text ∧ Time.Instant.parse text = .ok t

/-- The reader of severities is exact. -/
theorem Severity.exact_reader : Exact Severity.reader SeverityOf :=
  (exact_text "a string").refineLate Severity.parse

/-- The reader of instants is exact. -/
theorem Time.Instant.exact_reader : Exact Time.Instant.reader TimeOf :=
  (exact_text "an RFC 3339 formatted date and time string").refine Time.Instant.parse

/-! ## Attributes -/

namespace Attributes

section
variable {key k value : String} {entries : List (String × String)} {a a' : Attributes}

/-- A pair in its place is found under its key. -/
theorem find?_insertEntry : (insertEntry key value entries).find? (·.1 == k) =
    if key = k then some (key, value) else entries.find? (·.1 == k) := by
  induction entries with
  | nil => by_cases hk : key = k <;> simp [insertEntry, hk]
  | cons entry rest ih =>
    rw [insertEntry]
    split
    · by_cases hk : key = k <;> simp [hk]
    split
    · next heq => by_cases hk : key = k <;> simp [hk, ← heq]
    · next hne =>
      by_cases hentry : entry.1 = k
      · have hkey : key ≠ k := fun heq => hne (heq.trans hentry.symm)
        simp [hentry, hkey]
      · rw [List.find?_cons_of_neg (by simpa using hentry), ih,
          List.find?_cons_of_neg (by simpa using hentry)]

/-- A pair that is added decides about its key. -/
theorem get?_insert : (a.insert key value).get? k = if key = k then some value else a.get? k := by
  show ((insertEntry key value a.entries).find? (·.1 == k)).map Prod.snd = _
  rw [find?_insertEntry]
  split <;> rfl

/-- The last pair that has a key decides about it. -/
theorem get?_foldl_insert (pairs : List (String × String)) :
    (pairs.foldl (fun a p => a.insert p.1 p.2) a).get? k =
      (pairs.reverse.lookup k).or (a.get? k) := by
  induction pairs generalizing a with
  | nil => rfl
  | cons p pairs ih =>
    have hp : [p].lookup k = if p.1 = k then some p.2 else none := by
      by_cases hk : p.1 = k
      · rw [if_pos hk, ← hk]
        exact List.lookup_cons_self
      · rw [if_neg hk, List.lookup_cons, beq_false_of_ne (Ne.symm hk)]
        rfl
    rw [List.foldl_cons, ih, List.reverse_cons, List.lookup_append, Option.or_assoc, hp,
      get?_insert]
    split <;> rfl

/-- The pairs of a map are its keys with their values. -/
theorem mem_entries_iff : (k, value) ∈ a.entries ↔ a.get? k = some value := by
  obtain ⟨entries, hsorted⟩ := a
  show _ ↔ (entries.find? (·.1 == k)).map Prod.snd = some value
  induction entries with
  | nil => simp
  | cons entry rest ih =>
    obtain ⟨hfirst, hrest⟩ := List.pairwise_cons.mp hsorted
    by_cases hk : entry.1 = k
    · -- the key does not occur again, since the keys increase
      have hrest' : (k, value) ∉ rest := by
        intro hmem
        have hlt := hfirst _ hmem
        exact String.lt_irrefl k (hk ▸ hlt)
      rw [List.find?_cons_of_pos (by simpa using hk), List.mem_cons]
      simp [hrest', Prod.ext_iff, hk, eq_comm]
    · rw [List.find?_cons_of_neg (by simpa using hk), ← ih hrest, List.mem_cons]
      simp [Prod.ext_iff, Ne.symm hk]

/-- Maps with the same values are equal. -/
theorem eq_of_get? (h : ∀ k, a.get? k = a'.get? k) : a = a' := by
  have hmem : ∀ e, e ∈ a.entries ↔ e ∈ a'.entries := by
    rintro ⟨k, value⟩
    rw [mem_entries_iff, mem_entries_iff, h k]
  have hirrefl : Std.Irrefl fun e e' : String × String => e.1 < e'.1 :=
    ⟨fun e => String.lt_irrefl e.1⟩
  have hantisymm : Std.Antisymm fun e e' : String × String => e.1 < e'.1 :=
    ⟨fun _ _ hlt hgt => absurd hgt (String.lt_asymm hlt)⟩
  obtain ⟨entries, hsorted⟩ := a
  obtain ⟨entries', hsorted'⟩ := a'
  congr
  exact hsorted.eq_of_mem_iff hsorted' hmem

end

/-- Members are pairs of texts. -/
def Pairs (named : List (String × List Char)) (pairs : List (String × String)) : Prop :=
  List.Forall₂ (fun n p => n.1 = p.1 ∧ TextOf n.2 p.2) named pairs

end Attributes

/-- A value is attributes: an object of texts, of which the last one decides about a key. -/
def AttributesOf (value : List Char) (a : Attributes) : Prop :=
  ∃ ms named pairs, ObjectOf ms value ∧ Named ms named ∧ Attributes.Pairs named pairs ∧
    ∀ key, a.get? key = pairs.reverse.lookup key

namespace Attributes

/-- What a member does to attributes. -/
def Adds (key : String) (a : Attributes) (value : List Char) (a' : Attributes) : Prop :=
  ∃ text, TextOf value text ∧ a' = a.insert key text

/-- The reader of a pair is exact. -/
theorem exact_pair (key : String) (a : Attributes) : ExactMember (pair key a) (Adds key a) :=
  ((exact_text _).map (a.insert key ·)).behindColon

/-- What members do to attributes. -/
def AddAll (named : List (String × List Char)) (a a' : Attributes) : Prop :=
  ∃ pairs, Pairs named pairs ∧ a' = pairs.foldl (fun a p => a.insert p.1 p.2) a

/-- Members add their pairs one after the other. -/
theorem follows_adds_iff {ms : List (List Char × List Char)} {a a' : Attributes} :
    Follows Adds ms a a' ↔ ∃ named, Named ms named ∧ AddAll named a a' := by
  refine follows_iff AddAll ?_ ?_
  · intro a a'
    constructor
    · rintro ⟨pairs, hpairs, rfl⟩
      cases hpairs
      rfl
    · rintro rfl
      exact ⟨[], .nil, rfl⟩
  · intro key value named a a'
    constructor
    · rintro ⟨pairs, hpairs, rfl⟩
      cases hpairs with
      | @cons _ p _ pairs hp hpairs =>
        exact ⟨_, ⟨p.2, hp.2, congrArg (a.insert · p.2) hp.1.symm⟩, pairs, hpairs, rfl⟩
    · rintro ⟨_, ⟨text, htext, rfl⟩, pairs, hpairs, rfl⟩
      exact ⟨(key, text) :: pairs, .cons ⟨rfl, htext⟩ hpairs, rfl⟩

/-- The reader of attributes is exact. -/
theorem exact_reader : Exact reader AttributesOf := by
  refine ((exactObject_members exact_pair ∅).exact "a map").congr fun value a => ?_
  have hvalues : ∀ pairs : List (String × String),
      a = pairs.foldl (fun a p => Attributes.insert p.1 p.2 a) ∅ ↔
        ∀ key, a.get? key = pairs.reverse.lookup key := by
    intro pairs
    have hget : ∀ key, (pairs.foldl (fun a p => Attributes.insert p.1 p.2 a) ∅).get? key =
        pairs.reverse.lookup key := by
      intro key
      rw [get?_foldl_insert]
      exact Option.or_none
    constructor
    · rintro rfl
      exact hget
    · exact fun h => eq_of_get? fun key => (h key).trans (hget key).symm
  simp only [follows_adds_iff, AddAll, hvalues]
  constructor
  · rintro ⟨ms, hms, named, hnamed, pairs, hpairs, ha⟩
    exact ⟨ms, named, pairs, hms, hnamed, hpairs, ha⟩
  · rintro ⟨ms, named, pairs, hms, hnamed, hpairs, ha⟩
    exact ⟨ms, hms, named, hnamed, pairs, hpairs, ha⟩

end Attributes

end LogGate
