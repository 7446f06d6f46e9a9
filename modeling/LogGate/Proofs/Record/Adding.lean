import LogGate.Proofs.Record.Written
import LogGate.Proofs.Text.Order

/-!
# Adding attributes

Pairs are added to a record one after the other. What comes of it depends on the last pair of each
key alone (`mem_withAttributes_iff`), whichever others there are and in whichever order the keys
come, so two lists with the same last pairs make the same record (`withAttributes_congr`). They do
if one is a permutation of the other and no key occurs twice (`isLast_iff_mem`).

The keys of attributes increase with their bytes and none occurs again (`Attributes.increasing`).
A record shows its attributes in this order, on the line of a console and in the document that is
written of it (`shows`). A document may list pairs in any order and repeat keys: it is decoded as
the record to which those pairs are added (`SameBut.attributes`).
-/

namespace LogGate

open Json

namespace Attributes

/-- Among pairs, the last one with a key has a value. -/
def IsLast (pairs : List (String × String)) (key value : String) : Prop :=
  ∃ before after, pairs = before ++ (key, value) :: after ∧ ∀ p ∈ after, p.1 ≠ key

section
variable {pairs pairs' : List (String × String)} {key value : String}

/-- The last pair with a key is the first one from the end. -/
theorem lookup_reverse_eq_some_iff :
    pairs.reverse.lookup key = some value ↔ IsLast pairs key value := by
  rw [List.lookup_eq_some_iff]
  constructor
  · rintro ⟨front, back, hpairs, hfront⟩
    refine ⟨back.reverse, front.reverse, ?_, fun p hp => ?_⟩
    · rw [← List.reverse_reverse pairs, hpairs]
      simp
    · have hne := hfront p (List.mem_reverse.1 hp)
      exact fun heq => absurd heq.symm (by simpa using hne)
  · rintro ⟨before, after, rfl, hafter⟩
    refine ⟨after.reverse, before.reverse, by simp, fun p hp => ?_⟩
    have hne := hafter p (List.mem_reverse.1 hp)
    simpa using Ne.symm hne

/-- There is none where no pair has the key. -/
theorem lookup_reverse_eq_none_iff :
    pairs.reverse.lookup key = none ↔ ∀ p ∈ pairs, p.1 ≠ key := by
  rw [List.lookup_eq_none_iff]
  constructor
  · exact fun h p hp heq => absurd (h p (List.mem_reverse.2 hp)) (by simp [heq])
  · intro h p hp
    simpa using Ne.symm (h p (List.mem_reverse.1 hp))

/-- Where no key occurs twice, each pair is the last one of its key. -/
theorem isLast_iff_mem (h : (pairs.map Prod.fst).Nodup) :
    IsLast pairs key value ↔ (key, value) ∈ pairs := by
  constructor
  · rintro ⟨before, after, rfl, -⟩
    exact List.mem_append_right _ (List.mem_cons_self ..)
  · intro hmem
    obtain ⟨before, after, rfl⟩ := List.append_of_mem hmem
    refine ⟨before, after, rfl, fun p hp heq => ?_⟩
    rw [List.map_append, List.map_cons] at h
    have hrest := (List.nodup_cons.1 (List.nodup_append.1 h).2.1).1
    exact hrest (List.mem_map.2 ⟨p, hp, heq⟩)

/-- The keys of attributes increase with their bytes. -/
theorem increasing (a : Attributes) :
    a.entries.Pairwise fun p q => Utf8.encode p.1 < Utf8.encode q.1 :=
  a.sorted.imp Utf8.encode_lt_iff.2

/-- No key of attributes occurs twice. -/
theorem nodup_keys (a : Attributes) : (a.entries.map Prod.fst).Nodup := by
  rw [List.nodup_iff_pairwise_ne, List.pairwise_map]
  refine a.sorted.imp fun {p q} hlt heq => ?_
  exact String.lt_irrefl q.1 (heq ▸ hlt)

end

end Attributes

namespace Record

open Attributes (IsLast Lists)

/-- Adds pairs to a record, one after the other. -/
def withAttributes (r : Record) (pairs : List (String × String)) : Record :=
  pairs.foldl (fun r p => r.withAttribute p.1 p.2) r

/-- A record shows its attributes: their keys are in the order of their bytes, each of them once,
and in this order they come in the document and on the line that are written of the record. -/
structure Shows (r : Record) : Prop where
  increasing : r.attributes.entries.Pairwise fun p q => Utf8.encode p.1 < Utf8.encode q.1
  nodup : (r.attributes.entries.map Prod.fst).Nodup
  written : ∃ named value, HasMembers r.write named ∧ valuesOf "attributes" named = [value] ∧
    Lists value r.attributes.entries
  line : r.line = { r with attributes := ∅ : Record }.line ++
    String.join (r.attributes.entries.map fun entry => " " ++ entry.1 ++ "=" ++ entry.2)

section
variable {r : Record} {pairs pairs' : List (String × String)} {key value : String}

/-- Adding pairs changes nothing but the attributes. -/
theorem withAttributes_eq (r : Record) (pairs : List (String × String)) :
    r.withAttributes pairs =
      { r with attributes := pairs.foldl (fun a p => a.insert p.1 p.2) r.attributes } := by
  induction pairs generalizing r with
  | nil => rfl
  | cons p pairs ih => exact ih (r.withAttribute p.1 p.2)

/-- A record has the last pair of each key that was added, and of the other keys what it had. -/
theorem mem_withAttributes_iff : (key, value) ∈ (r.withAttributes pairs).attributes.entries ↔
    IsLast pairs key value ∨
      (∀ p ∈ pairs, p.1 ≠ key) ∧ (key, value) ∈ r.attributes.entries := by
  rw [withAttributes_eq, Attributes.mem_entries_iff, Attributes.get?_foldl_insert,
    Option.or_eq_some_iff, Attributes.lookup_reverse_eq_some_iff,
    Attributes.lookup_reverse_eq_none_iff, Attributes.mem_entries_iff]

/-- The last pairs of all keys decide what record it is. -/
theorem withAttributes_congr
    (h : ∀ key value, IsLast pairs key value ↔ IsLast pairs' key value) :
    r.withAttributes pairs = r.withAttributes pairs' := by
  have hlookup : ∀ key, pairs.reverse.lookup key = pairs'.reverse.lookup key := by
    refine fun key => Option.ext fun value => ?_
    rw [Attributes.lookup_reverse_eq_some_iff, Attributes.lookup_reverse_eq_some_iff, h]
  rw [withAttributes_eq, withAttributes_eq]
  congr 1
  refine Attributes.eq_of_get? fun key => ?_
  rw [Attributes.get?_foldl_insert, Attributes.get?_foldl_insert, hlookup]

/-- The order of pairs does not matter where no key occurs twice. -/
theorem withAttributes_perm (hperm : pairs.Perm pairs') (h : (pairs.map Prod.fst).Nodup) :
    r.withAttributes pairs = r.withAttributes pairs' := by
  refine withAttributes_congr fun key value => ?_
  rw [Attributes.isLast_iff_mem h, Attributes.isLast_iff_mem ((hperm.map Prod.fst).nodup_iff.1 h)]
  exact hperm.mem_iff

/-- Every record shows its attributes so. -/
theorem shows (r : Record) : r.Shows where
  increasing := r.attributes.increasing
  nodup := r.attributes.nodup_keys
  written := ⟨_, _, r.hasMembers_write, rfl, r.attributes.lists_write⟩
  line := by
    show "(" ++ r.time.clock ++ ") " ++ r.severity.name ++ " : " ++ r.body ++ String.join
      (r.attributes.entries.map fun entry => " " ++ entry.1 ++ "=" ++ entry.2) =
      "(" ++ r.time.clock ++ ") " ++ r.severity.name ++ " : " ++ r.body ++ "" ++ _
    rw [String.append_empty]

end

/-! ## The law -/

/-- **Attributes.** However pairs are added to a record, each key that is among them is there once
and with its last value, and the record shows the keys in the order of their bytes. So lists of
pairs with the same last values make equal records, which are written alike; such are permutations
of pairs with distinct keys. And a document in which the pairs are listed is decoded as the record
to which they are added. -/
theorem attributes_law :
    (∀ (r : Record) pairs, (r.withAttributes pairs).Shows ∧
      (∀ key value, (key, value) ∈ (r.withAttributes pairs).attributes.entries ↔
        IsLast pairs key value ∨
          (∀ p ∈ pairs, p.1 ≠ key) ∧ (key, value) ∈ r.attributes.entries) ∧
      r.withAttributes pairs = { r with attributes := (r.withAttributes pairs).attributes }) ∧
    (∀ (r : Record) pairs pairs',
      (∀ key value, IsLast pairs key value ↔ IsLast pairs' key value) ∨
        (pairs.Perm pairs' ∧ (pairs.map Prod.fst).Nodup) →
      r.withAttributes pairs = r.withAttributes pairs' ∧
        (r.withAttributes pairs).write = (r.withAttributes pairs').write ∧
        (r.withAttributes pairs).line = (r.withAttributes pairs').line) ∧
    ∀ document document' value value' r pairs,
      SameBut "attributes" value value' document document' → reader.decode document = .ok r →
      Lists value' pairs →
      reader.decode document' = .ok ({ r with attributes := ∅ : Record }.withAttributes pairs) := by
  refine ⟨fun r pairs => ⟨shows _, fun key value => mem_withAttributes_iff, ?_⟩, ?_, ?_⟩
  · rw [withAttributes_eq]
  · intro r pairs pairs' h
    have hsame : r.withAttributes pairs = r.withAttributes pairs' := by
      rcases h with h | ⟨hperm, hnodup⟩
      · exact withAttributes_congr h
      · exact withAttributes_perm hperm hnodup
    exact ⟨hsame, congrArg write hsame, congrArg line hsame⟩
  · intro document document' value value' r pairs hdocuments hr hlists
    rw [withAttributes_eq]
    exact (hdocuments.attributes hr).2 _ hlists.attributesOf

/-- Pairs of which the last one replaces the first. -/
def threePairs : List (String × String) := [("k", "1"), ("a", "2"), ("k", "3")]

/-- When three pairs are added, of which the last one replaces the first, the first one is as good
as not there, and a document that lists all three is decoded as the same record. -/
theorem attributes_law_replaced :
    bare.withAttributes threePairs = bare.withAttributes [("a", "2"), ("k", "3")] ∧
    reader.decode ("\x7b\"time\":\"1970-01-01T00:00:00Z\",\"severity\":\"INFO\",\"body\":\"b\"," ++
        "\"event_name\":null,\"attributes\":\x7b\"k\":\"1\",\"a\":\"2\",\"k\":\"3\"\x7d\x7d") =
      .ok (bare.withAttributes threePairs) := by
  have hlast : ∀ key value,
      IsLast threePairs key value ↔ IsLast [("a", "2"), ("k", "3")] key value := by
    intro key value
    rw [← Attributes.lookup_reverse_eq_some_iff, ← Attributes.lookup_reverse_eq_some_iff]
    simp only [threePairs, List.reverse_cons, List.reverse_nil, List.nil_append,
      List.cons_append, List.lookup_cons, List.lookup_nil]
    cases hk : key == "k" <;> simp
  have hlists := Attributes.lists_memberTexts threePairs
  have hdocuments := sameBut_writeMembers (bare.written.take 4) [] rfl hlists.formed
  have hdecode := attributes_law.2.2 _ _ _ _ bare _ hdocuments (reads_write bare).decode hlists
  have htext : writeMembers (bare.written.take 4 ++ [("attributes",
      '\x7b' :: (Attributes.memberTexts true threePairs ++ ['\x7d']))]) =
      "\x7b\"time\":\"1970-01-01T00:00:00Z\",\"severity\":\"INFO\",\"body\":\"b\"," ++
        "\"event_name\":null,\"attributes\":\x7b\"k\":\"1\",\"a\":\"2\",\"k\":\"3\"\x7d\x7d" := by
    decide
  rw [htext] at hdecode
  exact ⟨(attributes_law.2.1 bare _ _ (.inl hlast)).1, hdecode⟩

end Record

end LogGate
