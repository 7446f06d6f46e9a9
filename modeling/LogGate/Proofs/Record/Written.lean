import LogGate.Proofs.Record.Replacing

/-!
# The members of a record that is written

A record is written as an object that has its fields for members, each of them once
(`hasMembers_write`). Its attributes are an object among them, which lists their pairs in the order
of their keys (`lists_write`). Another value may be written in the place of any field
(`sameBut_writeMembers`).
-/

namespace LogGate

open Json Json.Reader

/-- Writes members without space. -/
def Json.writeMembers (named : List (String × List Char)) : String :=
  String.ofList ('\x7b' :: (memberTexts true named ++ ['\x7d']))

/-- Members that are written are those of an object. -/
theorem Json.hasMembers_writeMembers {named : List (String × List Char)}
    (hvalues : ∀ n ∈ named, Formed .value n.2) : HasMembers (writeMembers named) named :=
  hasMembers_of_toList hvalues (String.toList_ofList ..)

namespace Attributes

/-- A value is an object of texts that lists pairs, in their order and with those that occur
again. -/
def Lists (value : List Char) (pairs : List (String × String)) : Prop :=
  ∃ ms named, ObjectOf ms value ∧ Named ms named ∧ Pairs named pairs

section
variable {value : List Char} {pairs : List (String × String)}

/-- The pairs that a value lists make attributes, in which the last pair decides about its key. -/
theorem Lists.attributesOf (h : Lists value pairs) : AttributesOf value (ofList pairs) := by
  obtain ⟨ms, named, hms, hnamed, hpairs⟩ := h
  refine ⟨ms, named, pairs, hms, hnamed, hpairs, fun key => ?_⟩
  rw [ofList, get?_foldl_insert]
  exact Option.or_none

/-- What lists pairs is a value. -/
theorem Lists.formed (h : Lists value pairs) : Formed .value value := by
  obtain ⟨ms, named, hms, -⟩ := h
  exact hms.formed

/-- The texts of pairs are those of members that have texts for values. -/
theorem memberTexts_eq (pairs : List (String × String)) (isFirst : Bool) :
    memberTexts isFirst pairs =
      Json.memberTexts isFirst (pairs.map fun p => (p.1, (Literal.write p.2).toList)) := by
  induction pairs generalizing isFirst with
  | nil => rfl
  | cons p pairs ih => rw [memberTexts, ih]; rfl

/-- Pairs that are written are listed. -/
theorem lists_memberTexts (pairs : List (String × String)) :
    Lists ('\x7b' :: (memberTexts true pairs ++ ['\x7d'])) pairs := by
  have hvalues : ∀ n ∈ pairs.map fun p => (p.1, (Literal.write p.2).toList),
      Formed .value n.2 := by
    intro n hn
    obtain ⟨p, -, rfl⟩ := List.mem_map.1 hn
    dsimp only
    exact (textOf_write p.2).formed
  obtain ⟨ms, hms, hnamed⟩ := exists_named_memberTexts hvalues true
  rw [memberTexts_eq]
  refine ⟨ms, _, .mk hms, hnamed, ?_⟩
  rw [Pairs, List.forall₂_map_left_iff, List.forall₂_same]
  intro p _
  dsimp only
  exact ⟨rfl, textOf_write p.2⟩

/-- Attributes that are written list their pairs. -/
theorem lists_write (a : Attributes) : Lists a.write.toList a.entries := by
  rw [toList_write]
  exact lists_memberTexts a.entries

end

end Attributes

namespace Record

/-- The members of a record as it is written. -/
def written (r : Record) : List (String × List Char) :=
  [("time", (Literal.write r.time.render).toList), ("severity", r.severity.write.toList),
    ("body", (Literal.write r.body).toList), ("event_name", (writeEventName r.eventName).toList),
    ("attributes", r.attributes.write.toList)]

/-- The members of a record have values. -/
theorem formed_written (r : Record) : ∀ n ∈ r.written, Formed .value n.2 := by
  have heventName : Formed .value (writeEventName r.eventName).toList := by
    cases r.eventName with
    | none => exact .scalar (.word (by decide))
    | some name => exact (textOf_write name).formed
  simp only [written, List.forall_mem_cons]
  exact ⟨(textOf_write r.time.render).formed, (textOf_write r.severity.name).formed,
    (textOf_write r.body).formed, heventName, r.attributes.lists_write.formed, nofun⟩

/-- A record that is written has its fields for members. -/
theorem hasMembers_write (r : Record) : HasMembers r.write r.written :=
  hasMembers_of_toList r.formed_written (toList_write r)

/-- Another value may be written for a field of a record. -/
theorem sameBut_writeMembers {r : Record} {field : String} {value value' : List Char}
    (before after : List (String × List Char)) (h : r.written = before ++ (field, value) :: after)
    (hvalue' : Formed .value value') :
    SameBut field value value' r.write (writeMembers (before ++ (field, value') :: after)) := by
  refine .object (h ▸ r.hasMembers_write) (hasMembers_writeMembers fun n hn => ?_)
  rcases List.mem_append.1 hn with hn | hn
  · exact r.formed_written n (h ▸ List.mem_append_left _ hn)
  · rcases List.mem_cons.1 hn with rfl | hn
    · exact hvalue'
    · exact r.formed_written n (h ▸ List.mem_append_right _ (List.mem_cons_of_mem _ hn))

/-- A record of the start of 1970 that has no more than it has to have. -/
def bare : Record := ⟨.epoch, .default, "b", none, ∅⟩

end Record

end LogGate
