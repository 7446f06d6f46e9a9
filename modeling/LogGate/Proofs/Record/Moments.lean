import LogGate.Proofs.Record.Written
import LogGate.Proofs.Time.Universal

/-!
# Records at one moment

Documents that are equal but for their times are decoded as records that are equal but for their
instants (`SameBut.eq_iff_time`). So they are decoded as the same record if and only if the texts of
the times denote the same moment, however they write it (`time_law`). A record shows the moment of
its time in the document that is written of it: in universal time, with the shortest fraction
(`showsMoment`).
-/

namespace LogGate

open Json

namespace Record

open Time (Denotes SameMoment Stamp Standard)

/-- A record shows a moment: the document that is written of it has one time, which is a text that
denotes that moment alone, in universal time and with the shortest fraction. -/
inductive ShowsMoment (r : Record) (u : Stamp) : Prop where
  | mk {named : List (String × List Char)} {value : List Char} {text : String}
    (hmembers : HasMembers r.write named) (hvalues : valuesOf "time" named = [value])
    (htext : TextOf value text) (hstandard : Standard text.toList u)
    (hdenotes : ∀ v, Denotes text v ↔ v = u)

section
variable {document document' text text' : String} {value value' : List Char} {r r' : Record}

/-- A record shows the moment of its time. -/
theorem showsMoment (r : Record) : r.ShowsMoment (.ofInstant r.time) := by
  have hvalues : valuesOf "time" r.written = [(Literal.write r.time.render).toList] := by
    simp [valuesOf, written]
  exact .mk r.hasMembers_write hvalues (textOf_write _) (Stamp.standard_render r.time)
    fun _ => Time.denotes_render r.time

/-- The text of a time that is decoded is read as the instant of the record. -/
theorem parse_of_timeOf {t : Time.Instant} (h : TimeOf value t) (htext : TextOf value text) :
    Time.Instant.parse text = .ok t := by
  obtain ⟨text', htext', hparse⟩ := h
  rwa [htext.unique htext']

/-- Documents that are equal but for their times are decoded as records that are equal but for their
instants. -/
theorem SameBut.eq_iff_time (h : SameBut "time" value value' document document')
    (hr : reader.decode document = .ok r) (hr' : reader.decode document' = .ok r') :
    r = r' ↔ r.time = r'.time := by
  constructor
  · rintro rfl
    rfl
  · intro htime
    obtain ⟨hvalue, -⟩ := h.symm.time hr'
    have hdecode := (h.time hr).2 r'.time hvalue
    rw [hr', ← htime] at hdecode
    exact (Except.ok.inj hdecode).symm

end

/-! ## The law -/

/-- **Times.** Two documents that are equal but for their time texts are decoded as the same record
if and only if the texts denote the same moment, and only then the records are written alike. They
show the same time on the clock then, and each of them is written with the moment that its text
denotes, in universal time and with the shortest fraction. -/
theorem time_law {document document' text text' : String} {value value' : List Char}
    {r r' : Record} (h : SameBut "time" value value' document document')
    (htext : TextOf value text) (htext' : TextOf value' text')
    (hr : reader.decode document = .ok r) (hr' : reader.decode document' = .ok r') :
    (r = r' ↔ SameMoment text text') ∧ (r.write = r'.write ↔ SameMoment text text') ∧
      (SameMoment text text' → r.time.clock = r'.time.clock ∧ r.line = r'.line) ∧
      (∃ u, (∀ v, Denotes text v ↔ v = u) ∧ r.ShowsMoment u) ∧
      ∃ u, (∀ v, Denotes text' v ↔ v = u) ∧ r'.ShowsMoment u := by
  have hparse := parse_of_timeOf (h.time hr).1 htext
  have hparse' := parse_of_timeOf (h.symm.time hr').1 htext'
  have hsame : r = r' ↔ SameMoment text text' := by
    rw [h.eq_iff_time hr hr', Time.eq_iff_sameMoment hparse hparse']
  have hwrite : r.write = r'.write ↔ r = r' := by
    refine ⟨fun heq => ?_, congrArg write⟩
    have hdecode := r.reads_write.decode
    rw [heq, r'.reads_write.decode] at hdecode
    exact (Except.ok.inj hdecode).symm
  refine ⟨hsame, hwrite.trans hsame, fun hmoment => ?_,
    ⟨_, fun _ => Time.denotes_iff hparse, r.showsMoment⟩,
    ⟨_, fun _ => Time.denotes_iff hparse', r'.showsMoment⟩⟩
  obtain rfl := hsame.2 hmoment
  exact ⟨rfl, rfl⟩

/-- At the start of 1970 clocks one hour to the west still showed the last day of 1969. -/
theorem time_law_newYear :
    SameMoment "1970-01-01T00:00:00Z" "1969-12-31T23:00:00.000-01:00" ∧
      reader.decode ("\x7b\"time\":\"1969-12-31T23:00:00.000-01:00\",\"severity\":\"INFO\"," ++
        "\"body\":\"b\",\"event_name\":null,\"attributes\":\x7b\x7d\x7d") =
          .ok bare := by
  have htext := textOf_write "1970-01-01T00:00:00Z"
  have htext' := textOf_write "1969-12-31T23:00:00.000-01:00"
  have hparse : Time.Instant.parse "1969-12-31T23:00:00.000-01:00" = .ok .epoch := by decide
  have hdocuments := sameBut_writeMembers [] (bare.written.drop 1) rfl htext'.formed
  have hdecode := (hdocuments.time (reads_write _).decode).2 _ ⟨_, htext', hparse⟩
  have hmoment := (time_law hdocuments htext htext' (reads_write _).decode hdecode).1.1 rfl
  have hdocument : writeMembers (("time",
      (Literal.write "1969-12-31T23:00:00.000-01:00").toList) :: bare.written.drop 1) =
      "\x7b\"time\":\"1969-12-31T23:00:00.000-01:00\",\"severity\":\"INFO\"," ++
        "\"body\":\"b\",\"event_name\":null,\"attributes\":\x7b\x7d\x7d" := by
    decide
  exact ⟨hmoment, hdocument ▸ hdecode⟩

end Record

end LogGate
