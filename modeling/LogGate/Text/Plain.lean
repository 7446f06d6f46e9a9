import LogGate.Text.Utf8

/-!
# Plain texts

A text that is shown on something other than a terminal is shown plain: without control characters,
white space apart, and without the escape sequences that terminals understand. `Terminal` says where
a reader of terminal text stands, with the sequences of ECMA-48: two or more characters behind the
escape character, control sequences, and the strings that some sequences begin. A sequence that is
not finished goes on to the end of the text, or until another one starts.
-/

namespace LogGate.Text

/-- White space that stays in plain texts although its characters are control characters. -/
def isLayout (c : Char) : Bool := c == '\t' || c == '\n' || c == '\x0c' || c == '\r'

/-- Whether a character is left out of plain texts: a control character that is no white space. -/
def isControl (c : Char) : Bool := c == '\x7f' || (c < ' ' && !isLayout c)

/-- Where a reader of terminal text stands. -/
inductive Terminal where
  /-- In text, outside of sequences. -/
  | text
  /-- Behind the character that starts a sequence. -/
  | escape
  /-- In a sequence of which only a last character is still to come. -/
  | escapeEnd
  /-- In a control sequence, which ends with a character from `@` to `~`. -/
  | control
  /-- In a command for the operating system, which a bell may end. -/
  | command
  /-- At the head of a control string for a device, before any numbers. -/
  | device
  /-- Among the numbers at the head of a control string for a device. -/
  | deviceNumbers
  /-- At the end of the head of a control string for a device. -/
  | deviceEnd
  /-- In the content of a string, which ends with the byte 9C, also within a character. -/
  | content
  deriving DecidableEq, Repr

namespace Terminal

/-- Where a reader stands behind a character. Wherever it stood, the escape character starts a
sequence, and the characters CAN and SUB end one. -/
def after (state : Terminal) (c : Char) : Terminal :=
  if c = '\x1b' then .escape
  else if c = '\x18' ∨ c = '\x1a' then .text
  else match state with
    | .text => .text
    | .escape =>
      if c = '[' then .control
      else if c = ']' then .command
      else if c = 'P' then .device
      else if c = 'X' ∨ c = '^' ∨ c = '_' then .content
      else if ' ' ≤ c ∧ c ≤ '/' then .escapeEnd
      else if '0' ≤ c ∧ c ≤ '~' then .text
      else .escape
    | .escapeEnd => if '0' ≤ c ∧ c ≤ '~' then .text else .escapeEnd
    | .control => if '@' ≤ c ∧ c ≤ '~' then .text else .control
    | .command => if c = '\x07' then .text else .command
    | .device =>
      if ' ' ≤ c ∧ c ≤ '/' then .deviceEnd
      else if '0' ≤ c ∧ c ≤ '?' then .deviceNumbers
      else if '@' ≤ c ∧ c ≤ '~' then .content
      else .device
    | .deviceNumbers =>
      if ' ' ≤ c ∧ c ≤ '/' then .deviceEnd
      else if '<' ≤ c ∧ c ≤ '~' then .content
      else .deviceNumbers
    | .deviceEnd => if '0' ≤ c ∧ c ≤ '~' then .content else .deviceEnd
    | .content => if (Utf8.encode c.toString).contains 0x9C then .text else .content

/-- Whether a character is shown where a reader stands: in text, or as white space in the midst of a
sequence that is no string. -/
def shows (state : Terminal) (c : Char) : Bool :=
  match state with
  | .text => !isControl c
  | .escape | .escapeEnd | .control => isLayout c
  | _ => false

end Terminal

/-- The plain text that is left of characters. White space in the midst of a sequence puts it off:
then text is shown (`showing`) until a control character, where the sequence goes on. A character
that is not ASCII ends a sequence that was put off. -/
def plainFrom (state : Terminal) (showing : Bool) : List Char → List Char
  | [] => []
  | c :: cs =>
    if (if showing then Terminal.text else state).shows c then
      c :: plainFrom (if c < '\x80' then state else .text) true cs
    else plainFrom (state.after c) false cs

/-- The plain text that is left of a text. -/
def plain (s : String) : String := String.ofList (plainFrom .text false s.toList)

/-- In text it does not matter whether white space has been shown. -/
theorem plainFrom_text (showing : Bool) (s : List Char) :
    plainFrom .text showing s = plainFrom .text false s := by
  cases s with
  | nil => rfl
  | cons c s => cases showing <;> rfl

/-- Characters that are no control characters stay in front of what is left of the others. -/
theorem plainFrom_append {s : List Char} (h : ∀ c ∈ s, isControl c = false) (rest : List Char) :
    plainFrom .text false (s ++ rest) = s ++ plainFrom .text false rest := by
  induction s with
  | nil => rfl
  | cons c s ih =>
    have hc : isControl c = false := h c List.mem_cons_self
    have hs := ih fun d hd => h d (List.mem_cons_of_mem c hd)
    have hshows : Terminal.text.shows c = true := by rw [Terminal.shows, hc]; rfl
    rw [List.cons_append, plainFrom, if_neg Bool.false_ne_true, if_pos hshows, ite_self,
      plainFrom_text, hs]
    rfl

end LogGate.Text
