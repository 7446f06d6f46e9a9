import LogGate.Proofs.Record.Fields

/-!
# Documents that differ in one field

Two documents may be equal but for the value of one field: objects whose members are the same in
the same order, or lists with the same items, where one value stands instead of another
(`SameBut`). If one of them is decoded, the other one is decoded as the record with another value of
that field, if the value there is one of the field. This is said of times (`SameBut.time`) and of
attributes (`SameBut.attributes`).
-/

namespace LogGate.Record

open Json

/-- Two documents are equal but for the values of a field: two objects with the same members around
it, or two lists with the same items around its place. -/
inductive SameBut (field : String) (value value' : List Char) (document document' : String) :
    Prop where
  | object {before after : List (String × List Char)}
    (h : HasMembers document (before ++ (field, value) :: after))
    (h' : HasMembers document' (before ++ (field, value') :: after)) :
    SameBut field value value' document document'
  | list {before after : List (List Char)} (hplace : fieldNames[before.length]? = some field)
    (h : IsList document (before ++ value :: after))
    (h' : IsList document' (before ++ value' :: after)) :
    SameBut field value value' document document'

section
variable {name field : String} {value value' v : List Char} {document document' : String}
variable {before after : List (String × List Char)} {r r' : Record}

/-! ## Members around a field -/

/-- It does not matter for the values of a name what a member of another name has for its value. -/
theorem valuesOf_around_of_ne (h : field ≠ name) (value value' : List Char) :
    valuesOf name (before ++ (field, value') :: after) =
      valuesOf name (before ++ (field, value) :: after) := by
  simp [valuesOf, h]

/-- Where there is one value of a name, it is that of the member that is known to have the name, and
any other value may stand there instead. -/
theorem valuesOf_around_eq_singleton
    (h : valuesOf name (before ++ (name, value) :: after) = [v]) (value' : List Char) :
    v = value ∧ valuesOf name (before ++ (name, value') :: after) = [value'] := by
  have hvalues : ∀ u, valuesOf name (before ++ (name, u) :: after) =
      valuesOf name before ++ u :: valuesOf name after := by
    intro u
    simp [valuesOf]
  rw [hvalues] at h ⊢
  obtain ⟨hbefore, hrest⟩ | ⟨-, hrest⟩ := List.append_eq_singleton_iff.1 h
  · obtain ⟨hvalue, hafter⟩ := List.cons.inj hrest
    exact ⟨hvalue.symm, by rw [hbefore, hafter]; rfl⟩
  · cases hrest

/-- The time of a record is the value of its member, and another instant may stand there. -/
theorem Fields.time_around (h : Fields (before ++ ("time", value) :: after) r) :
    TimeOf value r.time ∧ ∀ value' t, TimeOf value' t →
      Fields (before ++ ("time", value') :: after) { r with time := t } := by
  obtain ⟨⟨⟨v, hv, htime⟩, hbody, heventName, hattributes⟩, hseverity⟩ := h
  have hothers : ∀ {name}, "time" ≠ name → ∀ value',
      valuesOf name (before ++ ("time", value') :: after) =
        valuesOf name (before ++ ("time", value) :: after) :=
    fun hne value' => valuesOf_around_of_ne hne value value'
  refine ⟨(valuesOf_around_eq_singleton hv value).1 ▸ htime, fun value' t ht =>
    ⟨⟨⟨value', (valuesOf_around_eq_singleton hv value').2, ht⟩, ?_, ?_, ?_⟩, ?_⟩⟩
  · rwa [hothers (by decide)]
  · rwa [hothers (by decide)]
  · rwa [hothers (by decide)]
  · rwa [hothers (by decide)]

/-- The attributes of a record are the value of their member, and others may stand there. -/
theorem Fields.attributes_around (h : Fields (before ++ ("attributes", value) :: after) r) :
    AttributesOf value r.attributes ∧ ∀ value' a, AttributesOf value' a →
      Fields (before ++ ("attributes", value') :: after) { r with attributes := a } := by
  obtain ⟨⟨htime, hbody, heventName, v, hv, hattributes⟩, hseverity⟩ := h
  have hothers : ∀ {name}, "attributes" ≠ name → ∀ value',
      valuesOf name (before ++ ("attributes", value') :: after) =
        valuesOf name (before ++ ("attributes", value) :: after) :=
    fun hne value' => valuesOf_around_of_ne hne value value'
  refine ⟨(valuesOf_around_eq_singleton hv value).1 ▸ hattributes, fun value' a ha =>
    ⟨⟨?_, ?_, ?_, value', (valuesOf_around_eq_singleton hv value').2, ha⟩, ?_⟩⟩
  · rwa [hothers (by decide)]
  · rwa [hothers (by decide)]
  · rwa [hothers (by decide)]
  · rwa [hothers (by decide)]

/-! ## Documents -/

/-- Items around the place of a field are values of the fields before and behind it. -/
theorem exists_zip_fieldNames {before after : List (List Char)}
    (hplace : fieldNames[before.length]? = some field) :
    ∃ before' after', ∀ v, fieldNames.zip (before ++ v :: after) =
      before' ++ (field, v) :: after' := by
  obtain ⟨hlt, hget⟩ := List.getElem?_eq_some_iff.1 hplace
  have hsplit : fieldNames =
      fieldNames.take before.length ++ field :: fieldNames.drop (before.length + 1) := by
    rw [← hget, ← List.drop_eq_getElem_cons hlt, List.take_append_drop]
  have hlength : (fieldNames.take before.length).length = before.length := by
    rw [List.length_take]
    omega
  refine ⟨(fieldNames.take before.length).zip before,
    (fieldNames.drop (before.length + 1)).zip after, fun v => ?_⟩
  conv_lhs => rw [hsplit]
  exact List.zip_append hlength

/-- The items of a list that is decoded are five. -/
theorem Items.length_eq {vs : List (List Char)} (h : Items vs r) : vs.length = 5 := by
  cases h
  rfl

/-- If one of two such documents is decoded, its fields are those of an object, and the other one is
decoded by these fields with the other value. -/
theorem SameBut.exists_fields (h : SameBut field value value' document document')
    (hr : reader.decode document = .ok r) :
    ∃ before after, Fields (before ++ (field, value) :: after) r ∧
      ∀ r', reader.decode document' = .ok r' ↔ Fields (before ++ (field, value') :: after) r' := by
  cases h with
  | object h h' =>
    exact ⟨_, _, (h.decode_iff exact_reader).1 hr, fun r' => h'.decode_iff exact_reader⟩
  | @list before after hplace h h' =>
    have hitems := (h.decode_iff exact_reader).1 hr
    have hlength : ∀ v : List Char, (before ++ v :: after).length =
        before.length + after.length + 1 := by
      intro v
      rw [List.length_append, List.length_cons]
      omega
    have hfive : before.length + after.length + 1 = 5 := (hlength value).symm.trans hitems.length_eq
    obtain ⟨before', after', hzip⟩ := exists_zip_fieldNames hplace
    refine ⟨before', after', ?_, fun r' => ?_⟩
    · rwa [← hzip, ← items_iff_fields ((hlength value).trans hfive)]
    · rw [h'.decode_iff exact_reader, ← hzip, items_iff_fields ((hlength value').trans hfive)]

/-- A document that has another instant for its time is decoded as the record with that instant. -/
theorem SameBut.time (h : SameBut "time" value value' document document')
    (hr : reader.decode document = .ok r) :
    TimeOf value r.time ∧ ∀ t, TimeOf value' t →
      reader.decode document' = .ok { r with time := t } := by
  obtain ⟨before, after, hfields, hdecode⟩ := h.exists_fields hr
  obtain ⟨htime, hset⟩ := hfields.time_around
  exact ⟨htime, fun t ht => (hdecode _).2 (hset value' t ht)⟩

/-- A document that has other attributes is decoded as the record with those attributes. -/
theorem SameBut.attributes (h : SameBut "attributes" value value' document document')
    (hr : reader.decode document = .ok r) :
    AttributesOf value r.attributes ∧ ∀ a, AttributesOf value' a →
      reader.decode document' = .ok { r with attributes := a } := by
  obtain ⟨before, after, hfields, hdecode⟩ := h.exists_fields hr
  obtain ⟨hattributes, hset⟩ := hfields.attributes_around
  exact ⟨hattributes, fun a ha => (hdecode _).2 (hset value' a ha)⟩

/-- What stands in one document instead of a value, that value stands instead of in the other. -/
theorem SameBut.symm (h : SameBut field value value' document document') :
    SameBut field value' value document' document := by
  cases h with
  | object h h' => exact .object h' h
  | list hplace h h' => exact .list hplace h' h

end

end LogGate.Record
