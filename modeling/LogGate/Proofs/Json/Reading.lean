import LogGate.Proofs.Json.Exact

/-!
# Documents that are written and read again

`Reads x front a` says that a reader takes a text from the front of any document and reads it as a
value. Readers that are put together read texts that are put together (`Reads.bind`), and the
readers for what is written come with the texts they are meant for: a text between quotes
(`reads_text`), one that may be missing (`reads_optionalText_some`, `reads_optionalText_none`), the
value of a member (`Reads.once`), or an object (`Closes.reads`). The members of an object have more
to them than their own texts: there are commas between them, and a closing brace ends them.
`Members` puts the commas in their places and follows what the members come to, and `Closes` says
that a reader stops at the brace.

A reader that is exact takes a text only where a value may end. What is written ends with a quote or
a bracket, so it is taken whatever comes behind it.
-/

namespace LogGate.Json

section
variable {α β ε σ : Type} {x : Reader α} {f : α → Reader β} {a : α} {b : β}
variable {front : List Char}

namespace Reader

/-- A reader takes a text from the front of any document and reads it as a value. -/
def Reads (x : Reader α) (front : List Char) (a : α) : Prop :=
  ∀ rest, x.run (front ++ rest) = .ok (a, rest)

/-! ## Putting readers together -/

/-- A value that is there without reading takes nothing. -/
theorem Reads.pure (a : α) : Reads (Pure.pure a) [] a := fun _ => rfl

/-- What the second reader takes comes behind what the first one took. -/
theorem Reads.bind {back : List Char} (hx : Reads x front a) (hf : Reads (f a) back b) :
    Reads (x >>= f) (front ++ back) b := by
  intro rest
  rw [List.append_assoc]
  exact bind_eq_ok.mpr ⟨a, back ++ rest, hx _, hf rest⟩

/-- A second reader may take nothing. -/
theorem Reads.bind_nil (hx : Reads x front a) (hf : Reads (f a) [] b) :
    Reads (x >>= f) front b := by
  have h := hx.bind hf
  rwa [List.append_nil] at h

/-- A value that is made of another one takes what that one took. -/
theorem Reads.refine {reason : ε → String} {make : α → Except ε β} (hx : Reads x front a)
    (hmake : make a = .ok b) : Reads (refine reason make x) front b := by
  refine Reads.bind_nil hx ?_
  rw [hmake]
  exact .pure b

/-- And so does one whose refusal is placed late. -/
theorem Reads.refineLate {reason : ε → String} {make : α → Except ε β} (hx : Reads x front a)
    (hmake : make a = .ok b) : Reads (refineLate reason make x) front b := by
  refine Reads.bind_nil hx ?_
  rw [hmake]
  exact .pure b

/-! ## Texts -/

/-- A text is read as it was written. -/
theorem quoted_write (expected s : String) (rest : List Char) :
    quoted expected ((Literal.write s).toList ++ rest) = .ok (s, rest) := by
  rw [Literal.write_append]
  exact quoted_iff.mpr ⟨_, rfl, Literal.denotes_write s⟩

/-- No space stands before a text that is written. -/
theorem dropSpace_write (s : String) (rest : List Char) :
    dropSpace ((Literal.write s).toList ++ rest) = (Literal.write s).toList ++ rest := by
  rw [Literal.write_append]
  exact dropSpace_append blank_nil (Text.Stops_cons.mpr rfl)

/-- The reader of texts reads what is written for a text. -/
theorem reads_text (expected s : String) : Reads (text expected) (Literal.write s).toList s := by
  intro rest
  unfold text
  dsimp only
  rw [dropSpace_write, quoted_write]

/-- A text that may be missing is read as it was written. -/
theorem reads_optionalText_some (expected s : String) :
    Reads (optionalText expected) (Literal.write s).toList (some s) := by
  intro rest
  unfold optionalText
  dsimp only
  rw [dropSpace_write]
  split
  · next heq =>
    rw [Literal.write_append] at heq
    exact absurd (List.cons.inj heq).1 (by decide)
  · rw [quoted_write]
    rfl

/-- Where it is missing there is a word for that. -/
theorem reads_optionalText_none (expected : String) :
    Reads (optionalText expected) ['n', 'u', 'l', 'l'] none := fun _ => rfl

/-! ## Members -/

/-- Behind a colon there is the value of a member. -/
theorem Reads.colon {f : Unit → Reader β} (hf : Reads (f ()) front b) :
    Reads (Reader.colon >>= f) (':' :: front) b := by
  have hcolon : Reads Reader.colon [':'] () := fun _ => rfl
  exact hcolon.bind hf

/-- The value of a member that has not occurred is read. -/
theorem Reads.once (name : String) (hx : Reads x front a) :
    Reads (once name none x) (':' :: front) (some a) :=
  Reads.colon (Reads.bind_nil hx (.pure (some a)))

/-- A member that has occurred takes nothing more. -/
theorem reads_required (name : String) (a : α) : Reads (required name (some a)) [] a := .pure a

/-- The texts of members, one after the other with commas between them, and what they come to. -/
inductive Members (step : String → σ → Reader σ) : Bool → σ → List Char → σ → Prop where
  | nil {isFirst : Bool} {acc : σ} : Members step isFirst acc [] acc
  | cons {isFirst : Bool} {acc next last : σ} {key : String} {value rest : List Char}
      (hvalue : Reads (step key acc) value next) (hrest : Members step false next rest last) :
      Members step isFirst acc
        (comma isFirst ++ ((Literal.write key).toList ++ (value ++ rest))) last

/-- The key of a member is found behind what stands before the member. -/
theorem nextKey_write (isFirst : Bool) (key : String) (rest : List Char) :
    nextKey isFirst (comma isFirst ++ ((Literal.write key).toList ++ rest)) =
      .ok (some key, rest) := by
  rw [Literal.write_append]
  exact nextKey_found blank_nil blank_nil (Literal.denotes_write key) rest

/-- Members are read up to the closing brace. -/
theorem Members.membersFrom_eq {step : String → σ → Reader σ} {isFirst : Bool} {acc last : σ}
    (h : Members step isFirst acc front last) (rest : List Char) :
    membersFrom step isFirst acc (front ++ '\x7d' :: rest) = .ok (last, '\x7d' :: rest) := by
  induction h with
  | nil => exact membersFrom_last (nextKey_closed blank_nil rest) _
  | @cons isFirst acc next last key value back hvalue hrest ih =>
    have hnext := nextKey_write isFirst key (value ++ (back ++ '\x7d' :: rest))
    rw [List.append_assoc, List.append_assoc, List.append_assoc,
      membersFrom_next hnext (hvalue (back ++ '\x7d' :: rest))]
    exact ih

/-! ## Objects -/

/-- A reader takes a text up to a closing brace, which it leaves. -/
def Closes (x : Reader α) (front : List Char) (a : α) : Prop :=
  ∀ rest, x.run (front ++ '\x7d' :: rest) = .ok (a, '\x7d' :: rest)

/-- The members of an object are read up to its closing brace. -/
theorem Members.closes {step : String → σ → Reader σ} {init last : σ}
    (h : Members step true init front last) : Closes (members init step) front last :=
  h.membersFrom_eq

/-- What is made of the members of an object needs nothing more to be read. -/
theorem Closes.bind (hx : Closes x front a) (hf : Reads (f a) [] b) : Closes (x >>= f) front b := by
  intro rest
  exact bind_eq_ok.mpr ⟨a, '\x7d' :: rest, hx rest, hf ('\x7d' :: rest)⟩

/-- An object is read from brace to brace. -/
theorem Closes.reads (hx : Closes x front a) (expected : String) (list : Option (Reader α)) :
    Reads (bracketed expected list (some x)) ('\x7b' :: (front ++ ['\x7d'])) a := by
  intro rest
  have hclose : close .object ('\x7d' :: rest) = .ok rest := rfl
  refine bracketed_eq_ok.mpr (.inr ⟨x, front ++ '\x7d' :: rest, rfl, ?_, ?_⟩)
  · rw [List.cons_append, List.append_assoc, List.singleton_append]
    exact dropSpace_append blank_nil (Text.Stops_cons.mpr rfl)
  · exact enclosed_eq_ok.mpr ⟨'\x7d' :: rest, hx rest, hclose⟩

/-- A whole document is decoded as the value that it is read as. -/
theorem Reads.decode {document : String} (hx : Reads x document.toList a) :
    decode x document = .ok a := by
  have hrun := hx []
  rw [List.append_nil] at hrun
  exact decode_eq_ok.mpr ⟨[], hrun, rfl⟩

end Reader

end

end LogGate.Json
