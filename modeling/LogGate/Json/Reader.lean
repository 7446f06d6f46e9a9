import LogGate.Json.Skip

/-!
# Reading by expectation

A `Reader` reads a value of one type from the front of a document. What it expects directs how the
document is read, so a value of the wrong type is complained about before anything behind it is
looked at. A reader never leaves more to read than there was (`Reader.shrinks`); this is what lets
lists and objects of any length be read by recursion on what is left.

The readers of this module are those for texts (`text`), for texts or nothing (`optionalText`), for
the members of an object (`members`), for the items of a list (`nextItem`, `items`), and for what is
written in brackets (`bracketed`). `Reader.decode` reads a whole document.
-/

namespace LogGate.Json

/-- Reads a value from the front of a document, and gives what is left. -/
structure Reader (α : Type) where
  run : List Char → Except Fault (α × List Char)
  shrinks : ∀ {s r : List Char} {a : α}, run s = .ok (a, r) → r.length ≤ s.length

namespace Reader

instance : Monad Reader where
  pure a := ⟨fun s => .ok (a, s), fun h => by cases h; exact Nat.le_refl _⟩
  bind x f := {
    run := fun s =>
      match x.run s with
      | .error e => .error e
      | .ok (a, r) => (f a).run r
    shrinks := fun {s r b} h => by
      split at h
      · cases h
      · rename_i hx
        exact Nat.le_trans ((f _).shrinks h) (x.shrinks hx) }

/-- Complains about what is left. -/
def complain {α : Type} (fault : List Char → Fault) : Reader α :=
  ⟨fun s => .error (fault s), nofun⟩

/-- Passes over space. -/
def space : Reader Unit :=
  ⟨fun s => .ok ((), dropSpace s), fun h => by cases h; exact length_dropSpace_le _⟩

/-- Passes over a value of any type. -/
def anything : Reader Unit where
  run s := (skip s).map ((), ·)
  shrinks {s r a} h := by
    cases hs : skip s with
    | error => rw [hs] at h; cases h
    | ok t => rw [hs] at h; cases h; exact skipDue_length_le hs

/-! ## Scalars -/

/-- What a value that is not of the expected type is. Scalars are read before they are complained
about, so what is wrong within them comes first; lists and objects are not entered. -/
def found (s : List Char) : Except Fault (Found × List Char) :=
  match s with
  | [] => .error (.ends .value)
  | c :: r =>
    if c = 'n' then (word ['u', 'l', 'l'] r).map (.null, ·)
    else if c = 't' then (word ['r', 'u', 'e'] r).map (.boolean true, ·)
    else if c = 'f' then (word ['a', 'l', 's', 'e'] r).map (.boolean false, ·)
    else if c = '"' then
      (Literal.scan .full .plain [] r).map fun (t, r) => (.text (String.ofList t), r)
    else if c = '[' then .ok (.sequence, s)
    else if c = '\x7b' then .ok (.map, s)
    else if c = '-' then do
      let (n, r) ← Numeral.read .full r
      pure (← n.found true r, r)
    else if c.isDigit then do
      let (n, r) ← Numeral.read .full s
      pure (← n.found false r, r)
    else .error (.next .expectedValue s)

/-- The complaint about a value that is not of the expected type. -/
def mismatch (expected : String) (s : List Char) : Fault :=
  match found s with
  | .error f => f
  | .ok (value, r) => .here (.wrongType value expected) r

/-- Reads a text that starts with its opening quote. -/
def quoted (expected : String) (s : List Char) : Except Fault (String × List Char) :=
  match s with
  | [] => .error (.ends .value)
  | c :: r =>
    if c = '"' then (Literal.scan .full .plain [] r).map fun (t, r) => (String.ofList t, r)
    else .error (mismatch expected s)

theorem quoted_length_lt {expected : String} {s r : List Char} {a : String}
    (h : quoted expected s = .ok (a, r)) : r.length < s.length := by
  cases s with
  | nil => cases h
  | cons c t =>
    simp only [quoted] at h
    split at h
    · cases hl : Literal.scan .full .plain [] t with
      | error => rw [hl] at h; cases h
      | ok p => rw [hl] at h; cases h; exact Nat.lt_succ_of_lt (Literal.scan_length_lt hl)
    · cases h

/-- Reads a text. A complaint about another type names what was expected. -/
def text (expected : String) : Reader String where
  run s := quoted expected (dropSpace s)
  shrinks {s _ _} h :=
    Nat.le_trans (Nat.le_of_lt (quoted_length_lt h)) (length_dropSpace_le s)

/-- Reads a text, or `null`. -/
def optionalText (expected : String) : Reader (Option String) where
  run s :=
    match dropSpace s with
    | 'n' :: r => (word ['u', 'l', 'l'] r).map (none, ·)
    | s => (quoted expected s).map fun (t, r) => (some t, r)
  shrinks {s r a} h := by
    have hle := length_dropSpace_le s
    split at h
    · rename_i t hs
      rw [hs, List.length_cons] at hle
      cases hw : word ['u', 'l', 'l'] t with
      | error => rw [hw] at h; cases h
      | ok u => rw [hw] at h; cases h; have := word_length_le hw; omega
    · cases hq : quoted expected (dropSpace s) with
      | error => rw [hq] at h; cases h
      | ok p => rw [hq] at h; cases h; have := quoted_length_lt hq; omega

/-! ## Members of an object -/

/-- Finds the next member of an object: its key, or nothing before the closing brace. -/
def nextKey (isFirst : Bool) (s : List Char) : Except Fault (Option String × List Char) :=
  match dropSpace s with
  | [] => .error (.ends .object)
  | c :: r =>
    if c = '\x7d' then .ok (none, c :: r)
    else if isFirst then key (c :: r)
    else if c = ',' then
      match dropSpace r with
      | [] => .error (.ends .value)
      | '\x7d' :: r => .error (.next .trailingComma ('\x7d' :: r))
      | r => key r
    else .error (.next .expectedCommaOrObjectEnd (c :: r))
where
  /-- Reads a key. -/
  key (s : List Char) : Except Fault (Option String × List Char) :=
    match s with
    | '"' :: r => (Literal.scan .full .plain [] r).map fun (t, r) => (some (String.ofList t), r)
    | s => .error (.next .keyMustBeText s)

theorem nextKey_key_length_lt {s r : List Char} {a : Option String}
    (h : nextKey.key s = .ok (a, r)) : r.length < s.length := by
  unfold nextKey.key at h
  split at h
  · rename_i t
    cases hl : Literal.scan .full .plain [] t with
    | error => rw [hl] at h; cases h
    | ok p => rw [hl] at h; cases h; exact Nat.lt_succ_of_lt (Literal.scan_length_lt hl)
  · cases h

/-- A key is at least one character long, and where there is none nothing is read but space. -/
theorem nextKey_length {isFirst : Bool} {s r : List Char} {a : Option String}
    (h : nextKey isFirst s = .ok (a, r)) :
    r.length ≤ s.length ∧ (a.isSome → r.length < s.length) := by
  have hle := length_dropSpace_le s
  unfold nextKey at h
  split at h
  · cases h
  · rename_i c t hs
    rw [hs] at hle
    split at h
    · cases h; exact ⟨hle, nofun⟩
    split at h
    · have := nextKey_key_length_lt h; exact ⟨by omega, fun _ => by omega⟩
    split at h
    · have ht := length_dropSpace_le t
      rw [List.length_cons] at hle
      split at h
      · cases h
      · cases h
      · have := nextKey_key_length_lt h; exact ⟨by omega, fun _ => by omega⟩
    · cases h

/-- Reads the members of an object up to its closing brace. Each step gets a key and what the
members before came to, and reads the rest of the member. -/
def membersFrom {σ : Type} (step : String → σ → Reader σ) (isFirst : Bool) (acc : σ)
    (s : List Char) : Except Fault (σ × List Char) :=
  match _hk : nextKey isFirst s with
  | .error f => .error f
  | .ok (none, r) => .ok (acc, r)
  | .ok (some key, r) =>
    match _hr : (step key acc).run r with
    | .error f => .error f
    | .ok (acc, t) => membersFrom step false acc t
termination_by s.length
decreasing_by
  exact Nat.lt_of_le_of_lt ((step key _).shrinks _hr) ((nextKey_length _hk).2 rfl)

/-- Where there is no next member, the members have been read. -/
theorem membersFrom_last {σ : Type} {step : String → σ → Reader σ} {isFirst : Bool}
    {s r : List Char} (hk : nextKey isFirst s = .ok (none, r)) (acc : σ) :
    membersFrom step isFirst acc s = .ok (acc, r) := by
  rw [membersFrom]
  split
  · next h => cases hk.symm.trans h
  · next h => cases hk.symm.trans h; rfl
  · next h => cases hk.symm.trans h

/-- Behind a member that is read, the next ones are. -/
theorem membersFrom_next {σ : Type} {step : String → σ → Reader σ} {isFirst : Bool}
    {acc acc' : σ} {key : String} {s r t : List Char}
    (hk : nextKey isFirst s = .ok (some key, r)) (hr : (step key acc).run r = .ok (acc', t)) :
    membersFrom step isFirst acc s = membersFrom step false acc' t := by
  rw [membersFrom]
  split
  · next h => cases hk.symm.trans h
  · next h => cases hk.symm.trans h
  · next h =>
    cases hk.symm.trans h
    split
    · next h => cases hr.symm.trans h
    · next h => cases hr.symm.trans h; rfl

theorem membersFrom_length_le {σ : Type} {step : String → σ → Reader σ} {isFirst : Bool}
    {acc a : σ} {s r : List Char} (h : membersFrom step isFirst acc s = .ok (a, r)) :
    r.length ≤ s.length := by
  fun_induction membersFrom step isFirst acc s with
  | case1 => cases h
  | case2 _ _ _ _ hk => cases h; exact (nextKey_length hk).1
  | case3 => cases h
  | case4 isFirst acc s key t hk acc' u hr ih =>
    exact Nat.le_trans (ih h) (Nat.le_trans ((step key acc).shrinks hr) (nextKey_length hk).1)

/-- Reads the members of an object up to its closing brace, from its opening brace. -/
def members {σ : Type} (init : σ) (step : String → σ → Reader σ) : Reader σ where
  run := membersFrom step true init
  shrinks := membersFrom_length_le

/-- Reads the colon between a key and its value. -/
def colon : Reader Unit where
  run s :=
    match dropSpace s with
    | [] => .error (.ends .object)
    | c :: r => if c = ':' then .ok ((), r) else .error (.next .expectedColon (c :: r))
  shrinks {s r a} h := by
    split at h
    · cases h
    · rename_i c t hs
      split at h
      · cases h; exact Nat.le_of_lt (length_lt_of_dropSpace hs)
      · cases h

/-- Reads the value of a member that has not occurred before. -/
def once {α : Type} (name : String) (before : Option α) (value : Reader α) :
    Reader (Option α) :=
  match before with
  | some _ => complain (.floating (.duplicateField name))
  | none => do
    colon
    return some (← value)

/-- What a member came to that has to occur. -/
def required {α : Type} (name : String) : Option α → Reader α
  | some a => pure a
  | none => complain (.floating (.missingField name))

/-- Passes over the value of a member. -/
def unknown : Reader Unit := do
  colon
  anything

/-! ## Items of a list -/

/-- Finds the next item of a list: whether there is one before the closing bracket. -/
def nextItem (isFirst : Bool) : Reader Bool where
  run s :=
    match dropSpace s with
    | [] => .error (.ends .list)
    | c :: r =>
      if c = ']' then .ok (false, c :: r)
      else if isFirst then .ok (true, c :: r)
      else if c = ',' then
        match dropSpace r with
        | [] => .error (.ends .value)
        | ']' :: r => .error (.next .trailingComma (']' :: r))
        | r => .ok (true, r)
      else .error (.next .expectedCommaOrListEnd (c :: r))
  shrinks {s r a} h := by
    have hle := length_dropSpace_le s
    split at h
    · cases h
    · rename_i c t hs
      rw [hs] at hle
      split at h
      · cases h; exact hle
      split at h
      · cases h; exact hle
      split at h
      · have ht := length_dropSpace_le t
        rw [List.length_cons] at hle
        split at h
        · cases h
        · cases h
        · cases h; omega
      · cases h

/-- After the first item, another one comes behind a comma. -/
theorem nextItem_length_lt {s r : List Char} (h : (nextItem false).run s = .ok (true, r)) :
    r.length < s.length := by
  have hle := length_dropSpace_le s
  simp only [nextItem] at h
  split at h
  · cases h
  · rename_i c t hs
    rw [hs, List.length_cons] at hle
    split at h
    · cases h
    split at h
    · cases ‹(false = true)›
    split at h
    · have ht := length_dropSpace_le t
      split at h
      · cases h
      · cases h
      · cases h; omega
    · cases h

/-- Reads the items of a list up to its closing bracket, after one item at least. The items read so
far come in reverse. -/
def itemsFrom {α : Type} (item : Reader α) (acc : List α) (s : List Char) :
    Except Fault (List α × List Char) :=
  match _hn : (nextItem false).run s with
  | .error f => .error f
  | .ok (false, r) => .ok (acc.reverse, r)
  | .ok (true, r) =>
    match _hr : item.run r with
    | .error f => .error f
    | .ok (a, t) => itemsFrom item (a :: acc) t
termination_by s.length
decreasing_by exact Nat.lt_of_le_of_lt (item.shrinks _hr) (nextItem_length_lt _hn)

theorem itemsFrom_length_le {α : Type} {item : Reader α} {acc a : List α} {s r : List Char}
    (h : itemsFrom item acc s = .ok (a, r)) : r.length ≤ s.length := by
  fun_induction itemsFrom item acc s with
  | case1 => cases h
  | case2 acc s t hn => cases h; exact (nextItem false).shrinks hn
  | case3 => cases h
  | case4 acc s t hn b u hr ih =>
    exact Nat.le_trans (ih h) (Nat.le_trans (item.shrinks hr) ((nextItem false).shrinks hn))

/-- Reads the items of a list up to its closing bracket, from its opening bracket. -/
def items {α : Type} (item : Reader α) : Reader (List α) := do
  if ← nextItem true then
    let a ← item
    ⟨itemsFrom item [a], itemsFrom_length_le⟩
  else pure []

/-! ## Brackets -/

/-- Reads the closing half of a bracket. Nothing but space may stand before it; a list that goes on
all the same has too many items. -/
def close (b : Bracket) (s : List Char) : Except Fault (List Char) :=
  match dropSpace s with
  | [] => .error b.ends
  | c :: r =>
    if c = b.close then .ok r
    else if c = ',' then
      match b, dropSpace r with
      | .object, _ => .error (.next .trailingComma (c :: r))
      | .list, ']' :: r => .error (.next .trailingComma (']' :: r))
      | .list, r => .error (.next .trailingCharacters r)
    else .error (.next .trailingCharacters (c :: r))

theorem close_length_lt {b : Bracket} {s r : List Char} (h : close b s = .ok r) :
    r.length < s.length := by
  unfold close at h
  split at h
  · cases h
  · rename_i c t hs
    split at h
    · cases h; exact length_lt_of_dropSpace hs
    split at h
    · split at h <;> cases h
    · cases h

/-- Where a complaint is placed that leaves a bracket without a place: behind the closing half, if
that comes next, and else behind space and, in a list, a comma. -/
def settled (b : Bracket) (s : List Char) : List Char :=
  match b, dropSpace s with
  | .object, '\x7d' :: r => r
  | .list, ']' :: r => r
  | .list, ',' :: r => dropSpace r
  | _, r => r

/-- Fixes the place of a complaint that leaves a bracket, if it is not fixed yet. -/
def settle (b : Bracket) (f : Fault) : Fault :=
  match f.place with
  | .fixed _ => f
  | .floating rest => .here f.complaint (settled b rest)

/-- Reads what stands in brackets, from behind the opening half and with the closing half. -/
def enclosed {α : Type} (b : Bracket) (inner : Reader α) : Reader α where
  run s :=
    match inner.run s with
    | .error f => .error (settle b f)
    | .ok (a, r) => (close b r).map (a, ·)
  shrinks {s r a} h := by
    split at h
    · cases h
    · rename_i b' t hi
      have := inner.shrinks hi
      cases hc : close b t with
      | error => rw [hc] at h; cases h
      | ok u => rw [hc] at h; cases h; have := close_length_lt hc; omega

/-- Reads a list or an object, each with its own reader for what stands in the brackets, if it is
expected at all. -/
def bracketed {α : Type} (expected : String) (list object : Option (Reader α)) : Reader α where
  run s :=
    match list, object, dropSpace s with
    | some inner, _, '[' :: r => (enclosed .list inner).run r
    | _, some inner, '\x7b' :: r => (enclosed .object inner).run r
    | _, _, r => .error (mismatch expected r)
  shrinks {s r a} h := by
    split at h
    · rename_i hs
      exact Nat.le_trans ((enclosed _ _).shrinks h) (Nat.le_of_lt (length_lt_of_dropSpace hs))
    · rename_i hs
      exact Nat.le_trans ((enclosed _ _).shrinks h) (Nat.le_of_lt (length_lt_of_dropSpace hs))
    · cases h

/-- Reads a list of texts. -/
def texts : Reader (List String) := bracketed "a sequence" (some (items (text "a string"))) none

/-! ## Refusals and documents -/

/-- Reads a value and then makes another one of it, which may refuse. The complaint about a refusal
has its place behind the value. -/
def refine {α β ε : Type} (reason : ε → String) (make : α → Except ε β) (x : Reader α) :
    Reader β := do
  match make (← x) with
  | .ok b => pure b
  | .error e => complain (.here (.refused (reason e)))

/-- Reads a value and then makes another one of it, which may refuse. The place of a complaint about
a refusal is fixed by the bracket around it. -/
def refineLate {α β ε : Type} (reason : ε → String) (make : α → Except ε β) (x : Reader α) :
    Reader β := do
  match make (← x) with
  | .ok b => pure b
  | .error e => complain (.floating (.refused (reason e)))

/-- Reads a whole document, with nothing but space behind its value. -/
def whole {α : Type} (x : Reader α) (s : List Char) : Except Fault α :=
  match x.run s with
  | .error f => .error f
  | .ok (a, r) =>
    match dropSpace r with
    | [] => .ok a
    | r => .error (.next .trailingCharacters r)

/-- Reads a whole document, and says what is wrong with it and where. -/
def decode {α : Type} (x : Reader α) (document : String) : Except Error α :=
  match x.whole document.toList with
  | .ok a => .ok a
  | .error f => .error (f.locate document.toList)

end Reader

end LogGate.Json
