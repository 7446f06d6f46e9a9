import LogGate.Proofs.Config.Document
import LogGate.Proofs.Config.Resolve
import LogGate.Proofs.Text.Pieces

/-!
# Configurations from files and from URLs

A file and a response of success are read by the same reader of documents, and differ in how bytes
become a text: bytes that are no text are an error in a file, and in a response each broken part of
them is read as U+FFFD. So both agree on texts, up to what they put around an error, and on other
bytes they do not (`loading_law`). A response with broken bytes still gives a configuration if these
stand where any text may stand, as in the value of a member that is passed over (`parse_noted`).
-/

namespace LogGate.Config

open Json Utf8

/-- What a response of success comes to. -/
def fetched (url : String) (status : Fetch.Status) (body : List UInt8) :
    Except ConfigError Config :=
  (ofExchange url (.ok ⟨status, .whole body⟩)).finish.1

/-- An object with a note in it, whose text is given as bytes, and with a minimum severity. -/
def noted (name : String) (note : List UInt8) (s : Severity) : List UInt8 :=
  encode ("\x7b" ++ Literal.write name ++ ":\"") ++
    (note ++ encode ("\",\"min_severity\":" ++ s.write ++ "\x7d"))

section
variable {status : Fetch.Status} {bytes note : List UInt8} {path url name : String} {s : Severity}

/-- The contents of a file are read if they are a text. -/
theorem ofContents_ok (path : String) (bytes : List UInt8) :
    ofContents path (.ok bytes) = match decode? bytes with
      | none => .error (.unreadable path .notText)
      | some text => (parse text).mapError (.invalid path) := by
  unfold ofContents
  dsimp only
  cases decode? bytes with
  | none => rfl
  | some text =>
    dsimp only
    cases parse text <;> rfl

/-- The body of a response of success is read whatever bytes it consists of. -/
theorem fetched_eq (h : 200 ≤ status ∧ status ≤ 299) (url : String) (body : List UInt8) :
    fetched url status body =
      (parse (decodeLossy body)).mapError fun e => .unfetched url (.decode e) := by
  rw [fetched, ofExchange, Telling.finish, Telling.run_mapError, Fetch.run_get_whole, if_pos h]
  cases hdocument : parse (decodeLossy body) <;>
  · rw [show reader.decode _ = _ from hdocument]
    rfl

/-- A byte order mark is no space, and no value starts with one. -/
theorem parse_byteOrderMark (text : String) :
    parse ("\uFEFF" ++ text) = .error ⟨.expectedValue, some ⟨1, 1⟩⟩ := by
  have hdocument : ("\uFEFF" ++ text).toList = '\uFEFF' :: text.toList := by
    rw [String.toList_append]
    rfl
  have hrun : reader.run ('\uFEFF' :: text.toList) =
      .error (.next .expectedValue ('\uFEFF' :: text.toList)) := rfl
  have hplace : size ('\uFEFF' :: text.toList) - (size ('\uFEFF' :: text.toList) - 1) = 1 := by
    show 3 + size text.toList - (3 + size text.toList - 1) = 1
    omega
  rw [parse, Reader.decode, Reader.whole, hdocument, hrun]
  dsimp only
  rw [Fault.locate, Fault.next]
  dsimp only
  rw [hplace]
  rfl

/-! ## Broken bytes -/

/-- A byte that is a character on its own comes behind the note. -/
theorem exists_encode_closing (s : Severity) :
    ∃ rest, encode ("\",\"min_severity\":" ++ s.write ++ "\x7d") = 0x22 :: rest := by
  rw [encode_eq_flatMap, String.toList_append, String.toList_append]
  exact ⟨_, rfl⟩

/-- The note is read as a text, however broken its bytes are. -/
theorem decodeLossy_noted (name : String) (note : List UInt8) (s : Severity) :
    decodeLossy (noted name note s) = "\x7b" ++ Literal.write name ++ ":\"" ++
      (decodeLossy note ++ ("\",\"min_severity\":" ++ s.write ++ "\x7d")) := by
  obtain ⟨rest, hrest⟩ := exists_encode_closing s
  rw [noted, decodeLossy_encode_append, hrest, decodeLossy_append_cons (by decide), ← hrest,
    decodeLossy_encode]

/-- If the note is no text, the whole is no text. -/
theorem decode?_noted (h : decode? note = none) (name : String) (s : Severity) :
    decode? (noted name note s) = none := by
  rw [decode?_eq_none_iff_mem] at h ⊢
  obtain ⟨rest, hrest⟩ := exists_encode_closing s
  rw [noted, hrest, pieces_encode_append, pieces_append_cons (by decide)]
  exact List.mem_append_right _ (List.mem_append_left _ h)

/-- With its note read as a text, the whole is an object with two members. -/
theorem hasMembers_noted (h : ∀ b ∈ note, 0x80 ≤ b.toNat) (name : String) (s : Severity) :
    HasMembers (decodeLossy (noted name note s))
      [(name, '"' :: ((decodeLossy note).toList ++ ['"'])), ("min_severity", s.write.toList)] := by
  have hplain : ∀ c ∈ (decodeLossy note).toList, c ≠ '"' ∧ c ≠ '\\' ∧ ¬ c.toNat < 0x20 := by
    intro c hc
    have hle := le_of_mem_decodeLossy h hc
    refine ⟨?_, ?_, by omega⟩
    · rintro rfl
      exact absurd hle (by decide)
    · rintro rfl
      exact absurd hle (by decide)
  have hnote : Formed .value ('"' :: ((decodeLossy note).toList ++ ['"'])) :=
    .scalar (.text (Literal.denotes_self hplain).body)
  have hseverity : TextOf s.write.toList s.name := textOf_write s.name
  refine hasMembers_of_toList ?_ ?_
  · rw [List.forall_mem_cons, List.forall_mem_singleton]
    dsimp only
    exact ⟨hnote, hseverity.formed⟩
  · have hkey : (Literal.write "min_severity").toList = "\"min_severity\"".toList := by decide
    rw [decodeLossy_noted]
    simp [memberTexts, Reader.comma, hkey]

/-- So a response gives the severity that it says, whatever the note is. -/
theorem parse_noted (hname : name ≠ "min_severity") (h : ∀ b ∈ note, 0x80 ≤ b.toNat)
    (s : Severity) : parse (decodeLossy (noted name note s)) = .ok ⟨s⟩ := by
  refine ((hasMembers_noted h name s).decode_iff exact_reader).mpr ?_
  rw [valuesOf_cons_of_ne hname, valuesOf_cons_self]
  exact .severity ⟨s.name, textOf_write s.name, s.parse_name⟩

/-! ## The law -/

/-- **Files and responses.** On the bytes of a text, a file and a response of success come to the
same configuration, or to the same error in what was read, each with its own account around it; a
byte order mark is not passed over. On other bytes a file is unreadable, and a response comes to
what the text does that has U+FFFD for each broken part. So it still gives a configuration if the
broken bytes stand in a member that is passed over. -/
theorem loading_law (hstatus : 200 ≤ status ∧ status ≤ 299) (path url : String) :
    (∀ text, ofContents path (.ok (encode text)) = (parse text).mapError (.invalid path) ∧
      fetched url status (encode text) =
        (parse text).mapError fun e => .unfetched url (.decode e)) ∧
    (∀ e, (ConfigError.invalid path e).causes = [e.message] ∧
      (ConfigError.unfetched url (.decode e)).causes =
        ["Response was not the expected JSON. " ++ e.message, e.message]) ∧
    (∀ text, parse ("\uFEFF" ++ text) = .error ⟨.expectedValue, some ⟨1, 1⟩⟩) ∧
    (∀ bytes, (∀ text, bytes ≠ encode text) →
      ofContents path (.ok bytes) = .error (.unreadable path .notText) ∧
      ∀ ps, Pieces bytes ps → fetched url status bytes =
        (parse (String.ofList (ps.map (·.getD '\uFFFD')))).mapError
          fun e => .unfetched url (.decode e)) ∧
    ∀ name note s, name ≠ "min_severity" → (∀ b ∈ note, 0x80 ≤ b.toNat) →
      (∀ text, note ≠ encode text) →
      ofContents path (.ok (noted name note s)) = .error (.unreadable path .notText) ∧
      fetched url status (noted name note s) = .ok ⟨s⟩ := by
  refine ⟨fun text => ⟨?_, ?_⟩, fun e => ⟨rfl, rfl⟩, parse_byteOrderMark, fun bytes h => ⟨?_, ?_⟩,
    fun name note s hname hnote h => ⟨?_, ?_⟩⟩
  · rw [ofContents_ok, decode?_eq_some_iff.mpr rfl]
  · rw [fetched_eq hstatus, decodeLossy_encode]
  · rw [ofContents_ok, decode?_eq_none_iff.mpr h]
  · intro ps hps
    rw [fetched_eq hstatus, decodeLossy_of_pieces hps]
  · rw [ofContents_ok, decode?_noted (decode?_eq_none_iff.mpr h)]
  · rw [fetched_eq hstatus, parse_noted hname hnote]
    rfl

/-- A note that is the byte FF makes a file unreadable, and a response still says its severity. -/
theorem loading_law_brokenNote :
    ofContents "minsev.json" (.ok (noted "note" [0xFF] (.base .warn))) =
      .error (.unreadable "minsev.json" .notText) ∧
    fetched "http://localhost/" 200 (noted "note" [0xFF] (.base .warn)) = .ok ⟨.base .warn⟩ := by
  have hnote : ∀ text, [0xFF] ≠ encode text := decode?_eq_none_iff.mp rfl
  have hstatus : 200 ≤ (200 : Fetch.Status) ∧ (200 : Fetch.Status) ≤ 299 := by decide
  exact (loading_law hstatus "minsev.json" "http://localhost/").2.2.2.2
    "note" [0xFF] (.base .warn) (by decide) (List.forall_mem_singleton.mpr (by decide)) hnote

end

end LogGate.Config
