import LogGate.Proofs.CommandLine.Options
import LogGate.Text.Plain

/-!
# Reports of refused levels

The report of an error is drawn for a terminal, and shown plain elsewhere. What is drawn in a style
is left of it if it has no control characters (`plain_draw`), so a level that has none is
reported in full, with what is wrong with it (`plain_report`). The message says so in printable
characters of ASCII and those of the level itself (`Text.forall_mem_message`), so it is on the
first line of the report if the level has no line feed.
-/

namespace LogGate

/-! ## Messages -/

namespace Severity

section
variable {text : String} {e : ParseError}

/-- What can be wrong with a text. An error quotes it as it is, if it quotes it at all. -/
theorem parse_eq_error (h : parse text = .error e) :
    e = .unknownName text ∨ e = .invalidOffset text ∨
      ∃ n : Int, ofValue? n = none ∧ e = .outOfRange n := by
  unfold parse at h
  dsimp only at h
  split at h
  · cases h
    exact .inl rfl
  split at h
  · cases h
    exact .inr (.inl rfl)
  · cases h
  · cases h
  split at h
  · unfold ofValue at h
    split at h
    · cases h
    · next hn =>
      cases h
      exact .inr (.inr ⟨_, hn, rfl⟩)
  · cases h
    exact .inr (.inl rfl)

end

end Severity

namespace Text

section
variable {p : Char → Prop} {s : String}

/-- What holds of all printable characters holds of those of a text that consists of such. -/
theorem forall_mem_printable (hp : ∀ c, ' ' ≤ c → c ≤ '~' → p c)
    (hs : s.toList.all (fun c => ' ' ≤ c ∧ c ≤ '~') = true) : ∀ c ∈ s.toList, p c := by
  intro c hc
  obtain ⟨hlow, hhigh⟩ := of_decide_eq_true (List.all_eq_true.mp hs c hc)
  exact hp c hlow hhigh

/-- And it holds of those that an integer is written with. -/
theorem forall_mem_repr (hp : ∀ c, ' ' ≤ c → c ≤ '~' → p c) (n : Int) :
    ∀ c ∈ (Int.repr n).toList, p c := by
  have hnat : ∀ k : Nat, ∀ c ∈ (Nat.repr k).toList, p c := by
    intro k c hc
    rw [Nat.repr_eq_ofList_toDigits, String.toList_ofList] at hc
    have hdigit := Nat.isDigit_of_mem_toDigits (by decide) (by decide) hc
    obtain ⟨hlow, hhigh⟩ := Char.isDigit_iff_toNat.mp hdigit
    exact hp c (Nat.le_trans (by decide) hlow) (Nat.le_trans hhigh (by decide))
  cases n with
  | ofNat k => exact hnat k
  | negSucc k =>
    unfold Int.repr
    rw [String.toList_append, List.forall_mem_append]
    exact ⟨forall_mem_printable hp (by decide), hnat _⟩

/-- And of those of the message about a text of which it holds. -/
theorem forall_mem_message (hp : ∀ c, ' ' ≤ c → c ≤ '~' → p c) (hs : ∀ c ∈ s.toList, p c)
    {e : Severity.ParseError} (h : Severity.parse s = .error e) :
    ∀ c ∈ e.message.toList, p c := by
  have hfixed : ∀ {t : String}, t.toList.all (fun c => ' ' ≤ c ∧ c ≤ '~') = true →
      ∀ c ∈ t.toList, p c := forall_mem_printable hp
  obtain rfl | rfl | ⟨n, -, rfl⟩ := Severity.parse_eq_error h <;>
    unfold Severity.ParseError.message <;>
    simp only [String.toList_append, List.forall_mem_append]
  · exact ⟨⟨hfixed (by decide), hs⟩, hfixed (by decide)⟩
  · exact ⟨⟨hfixed (by decide), hs⟩, hfixed (by decide)⟩
  · exact ⟨⟨hfixed (by decide), forall_mem_repr hp n⟩, hfixed (by decide)⟩

end

/-! ## Plain texts -/

section
variable {s : String} {cs : List Char}

/-- A printable character is no control character. -/
theorem isControl_of_printable {c : Char} (hlow : ' ' ≤ c) (hhigh : c ≤ '~') :
    isControl c = false := by
  have hdelete : (c == '\x7f') = false := by
    refine beq_false_of_ne ?_
    rintro rfl
    exact absurd hhigh (by decide)
  have hspace : decide (c < ' ') = false := decide_eq_false (Nat.not_lt.mpr hlow)
  rw [isControl, hdelete, hspace]
  rfl

/-- The characters of a text are no control characters if a look at each of them says so. -/
theorem isControl_of_all (h : s.toList.all (fun c => !isControl c) = true) :
    ∀ c ∈ s.toList, isControl c = false :=
  fun c hc => (Bool.not_eq_true' _).mp (List.all_eq_true.mp h c hc)

/-- A text without control characters stays in front of what is left of the rest. -/
theorem plain_append (h : ∀ c ∈ s.toList, isControl c = false) (rest : String) :
    plain (s ++ rest) = s ++ plain rest := by
  rw [plain, String.toList_append, plainFrom_append h, String.ofList_append, String.ofList_toList]
  rfl

/-- Of a text in a style the text is left. -/
theorem plain_draw (style : Style) (h : ∀ c ∈ s.toList, isControl c = false) (rest : String) :
    plain (style.draw s ++ rest) = s ++ plain rest := by
  have hstart : ∀ cs, plainFrom .text false (style.start.toList ++ cs) =
      plainFrom .text false cs := by
    intro cs
    cases style <;> rfl
  have hend : ∀ cs, plainFrom .text false ("\x1b[0m".toList ++ cs) = plainFrom .text false cs :=
    fun _ => rfl
  rw [← plain_append h, Style.draw, plain, plain, String.append_assoc, String.append_assoc,
    String.toList_append, hstart, String.toList_append, plainFrom_append h, String.toList_append,
    hend, String.toList_append, plainFrom_append h]

end

end Text

/-! ## Reports -/

namespace CommandLine

open Text (isControl isControl_of_all plain_append plain_draw)
open Text.Style (alarm literal refused)

/-- The first line of the report of a level that is refused, as it is shown plain. -/
def refusal (key : Key) (text : String) (e : Severity.ParseError) : String :=
  "error: invalid value '" ++ text ++ "' for '" ++ key.usage ++ "': " ++ e.message

section
variable {key : Key} {text : String} {e : Severity.ParseError}

/-- The report of a level contains what is wrong with it, as it is drawn for a terminal. -/
theorem message_infix_report (key : Key) (text : String) (e : Severity.ParseError) :
    e.message.toList <:+: (UsageError.invalidValue key text e).report.toList := by
  have hmessage : e.message.toList <:+: (UsageError.invalidValue key text e).message.toList := by
    unfold UsageError.message
    rw [String.toList_append]
    exact (List.suffix_append ..).isInfix
  have hgrow : ∀ {s t : String} (u : String), s.toList <:+: t.toList →
      s.toList <:+: (t ++ u).toList := by
    intro s t u h
    rw [String.toList_append]
    exact h.trans (List.prefix_append ..).isInfix
  unfold UsageError.report
  refine hgrow _ (hgrow _ (hgrow _ ?_))
  rw [String.toList_append]
  exact hmessage.trans (List.suffix_append ..).isInfix

/-- A level without control characters is reported in full, with what is wrong with it. -/
theorem plain_report (htext : ∀ c ∈ text.toList, isControl c = false)
    (h : Severity.parse text = .error e) :
    Text.plain (UsageError.invalidValue key text e).report =
      refusal key text e ++ "\n\nFor more information, try '--help'.\n" := by
  have husage : ∀ c ∈ key.usage.toList, isControl c = false := by
    cases key <;> exact isControl_of_all (by decide)
  have hmessage : ∀ c ∈ e.message.toList, isControl c = false :=
    Text.forall_mem_message (fun _ => Text.isControl_of_printable) htext h
  have hjoin : ∀ rest : String, "error:" ++ (" " ++ ("invalid value '" ++ rest)) =
      "error: invalid value '" ++ rest := by
    intro rest
    rw [← String.append_assoc, ← String.append_assoc]
    exact congrArg (· ++ rest) (by decide)
  have hend : "\n\nFor more information, try '" ++ ("--help" ++ Text.plain "'.\n") =
      "\n\nFor more information, try '--help'.\n" := by decide
  unfold UsageError.report UsageError.message refusal
  simp only [String.append_assoc]
  rw [plain_draw alarm (isControl_of_all (by decide)), plain_append (isControl_of_all (by decide)),
    plain_append (isControl_of_all (by decide)), plain_draw refused htext,
    plain_append (isControl_of_all (by decide)), plain_draw literal husage,
    plain_append (isControl_of_all (by decide)), plain_append hmessage,
    plain_append (isControl_of_all (by decide)),
    plain_draw literal (isControl_of_all (by decide)), hjoin, hend]

/-- What is reported first of a level without a line feed is one line. -/
theorem ne_newline_of_mem_refusal (htext : ∀ c ∈ text.toList, c ≠ '\n')
    (h : Severity.parse text = .error e) : ∀ c ∈ (refusal key text e).toList, c ≠ '\n' := by
  have hp : ∀ c, ' ' ≤ c → c ≤ '~' → c ≠ '\n' := by
    rintro c hlow - rfl
    exact absurd hlow (by decide)
  have hfixed : ∀ {s : String}, s.toList.all (fun c => ' ' ≤ c ∧ c ≤ '~') = true →
      ∀ c ∈ s.toList, c ≠ '\n' := Text.forall_mem_printable hp
  have husage : ∀ c ∈ key.usage.toList, c ≠ '\n' := by
    cases key <;> exact hfixed (by decide)
  unfold refusal
  simp only [String.toList_append, List.forall_mem_append]
  exact ⟨⟨⟨⟨⟨hfixed (by decide), htext⟩, hfixed (by decide)⟩, husage⟩, hfixed (by decide)⟩,
    Text.forall_mem_message hp htext h⟩

end

end CommandLine

end LogGate
