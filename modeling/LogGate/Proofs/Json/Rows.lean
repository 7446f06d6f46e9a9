import LogGate.Proofs.Json.Form

/-!
# Rows of members and items

The members of an object and the items of a list have texts of their own. `MembersOf` says that a
text is members with certain keys and values, as they are written, and `ItemsOf` the same of items;
every text that has the form of what stands in a bracket is such a row (`exists_membersOf`,
`exists_itemsOf`), and in one way only (`MembersOf.unique`, `ItemsOf.unique`). A whole document
spells one value (`Spells.unique`); if it is an object or a list, `IsObject` or `IsList` says of
what.
-/

namespace LogGate.Json

open Reader (comma)
open Text (Stops)

/-! ## Rows of members and items -/

/-- A text is members of an object with keys and values, up to its closing brace, from the first
member on or behind one. -/
inductive MembersOf : Bool → List (List Char × List Char) → List Char → Prop where
  | nil {isFirst : Bool} {space : List Char} (h : Blank space) : MembersOf isFirst [] space
  | cons {isFirst : Bool} {before space name key behind value s : List Char}
    {ms : List (List Char × List Char)} (hbefore : Blank before) (hspace : Blank space)
    (hkey : Key name key) (hbehind : Blank behind) (hvalue : Formed .value value)
    (hs : MembersOf false ms s) :
    MembersOf isFirst ((name, value) :: ms)
      (before ++ (comma isFirst ++ (space ++ (key ++ (behind ++ (value ++ s))))))

/-- A text is items of a list, up to its closing bracket, from the first item on or behind one. -/
inductive ItemsOf : Bool → List (List Char) → List Char → Prop where
  | nil {isFirst : Bool} {space : List Char} (h : Blank space) : ItemsOf isFirst [] space
  | cons {isFirst : Bool} {before space value s : List Char} {vs : List (List Char)}
    (hbefore : Blank before) (hspace : Blank space) (hvalue : Formed .value value)
    (hs : ItemsOf false vs s) :
    ItemsOf isFirst (value :: vs) (before ++ (comma isFirst ++ (space ++ (value ++ s))))

/-- A text is an object with members. -/
inductive ObjectOf (ms : List (List Char × List Char)) : List Char → Prop where
  | mk {s : List Char} (h : MembersOf true ms s) : ObjectOf ms ('\x7b' :: (s ++ ['\x7d']))

/-- A text is a list with items. -/
inductive ListOf (vs : List (List Char)) : List Char → Prop where
  | mk {s : List Char} (h : ItemsOf true vs s) : ListOf vs ('[' :: (s ++ [']']))

/-- A document is a value with nothing but space around it. -/
inductive Spells (document : String) (value : List Char) : Prop where
  | mk {before after : List Char} (hbefore : Blank before) (hvalue : Formed .value value)
    (hafter : Blank after) (h : document.toList = before ++ (value ++ after))

/-- A document is an object with members. -/
def IsObject (document : String) (ms : List (List Char × List Char)) : Prop :=
  ∃ value, Spells document value ∧ ObjectOf ms value

/-- A document is a list with items. -/
def IsList (document : String) (vs : List (List Char)) : Prop :=
  ∃ value, Spells document value ∧ ListOf vs value

section
variable {s t r rest space before value name key : List Char} {isFirst : Bool}
variable {ms ms' : List (List Char × List Char)} {vs vs' : List (List Char)}

/-- Members have the form of what stands in an object. -/
theorem MembersOf.formed (h : MembersOf isFirst ms s) : Formed (.inside .object isFirst) s := by
  induction h with
  | nil h => exact .nil h
  | cons hbefore hspace hkey hbehind hvalue _ ih =>
    exact .member hbefore hspace hkey hbehind hvalue ih

/-- Items have the form of what stands in a list. -/
theorem ItemsOf.formed (h : ItemsOf isFirst vs s) : Formed (.inside .list isFirst) s := by
  induction h with
  | nil h => exact .nil h
  | cons hbefore hspace hvalue _ ih => exact .item hbefore hspace hvalue ih

/-- The values of members are values. -/
theorem MembersOf.formed_values (h : MembersOf isFirst ms s) : ∀ m ∈ ms, Formed .value m.2 := by
  induction h with
  | nil => nofun
  | cons _ _ _ _ hvalue _ ih => exact List.forall_mem_cons.mpr ⟨hvalue, ih⟩

/-- What stands in an object are members. -/
theorem exists_membersOf (h : Formed (.inside .object isFirst) s) :
    ∃ ms, MembersOf isFirst ms s := by
  generalize hform : Form.inside .object isFirst = form at h
  induction h generalizing isFirst with
  | scalar | bracketed | item => cases hform
  | nil h => exact ⟨[], .nil h⟩
  | member hbefore hspace hkey hbehind hvalue _ _ ih =>
    cases hform
    obtain ⟨ms, hms⟩ := ih rfl
    exact ⟨_, .cons hbefore hspace hkey hbehind hvalue hms⟩

/-- What stands in a list are items. -/
theorem exists_itemsOf (h : Formed (.inside .list isFirst) s) : ∃ vs, ItemsOf isFirst vs s := by
  generalize hform : Form.inside .list isFirst = form at h
  induction h generalizing isFirst with
  | scalar | bracketed | member => cases hform
  | nil h => exact ⟨[], .nil h⟩
  | item hbefore hspace hvalue _ _ ih =>
    cases hform
    obtain ⟨vs, hvs⟩ := ih rfl
    exact ⟨_, .cons hbefore hspace hvalue hvs⟩

/-- A part behind space and perhaps a comma starts at one place only. -/
theorem part_unique {before' space' s' : List Char} (hbefore : Blank before) (hspace : Blank space)
    (hbefore' : Blank before') (hspace' : Blank space') (hs : Stops isSpace s)
    (hs' : Stops isSpace s')
    (heq : before ++ (comma isFirst ++ (space ++ s)) =
      before' ++ (comma isFirst ++ (space' ++ s'))) : s = s' := by
  have hdrop := congrArg dropSpace heq
  cases isFirst with
  | true =>
    have hfront : ∀ {before space s : List Char}, Blank before → Blank space → Stops isSpace s →
        dropSpace (before ++ (comma true ++ (space ++ s))) = s := by
      intro before space s hbefore hspace hs
      show dropSpace (before ++ (space ++ s)) = s
      rw [← List.append_assoc]
      exact dropSpace_append (blank_append hbefore hspace) hs
    rwa [hfront hbefore hspace hs, hfront hbefore' hspace' hs'] at hdrop
  | false =>
    rw [dropSpace_append hbefore (stops_comma _),
      dropSpace_append hbefore' (stops_comma _)] at hdrop
    have htail : dropSpace (space ++ s) = dropSpace (space' ++ s') :=
      congrArg dropSpace (List.cons.inj hdrop).2
    rwa [dropSpace_append hspace hs, dropSpace_append hspace' hs'] at htail

/-- A closing half behind space is not the beginning of another part. -/
theorem close_ne_part {b : Bracket} {space' : List Char} {c : Char} (hspace : Blank space)
    (hbefore : Blank before) (hspace' : Blank space') (hc : isSpace c = false) (hne : c ≠ b.close) :
    space ++ b.close :: rest ≠ before ++ (comma isFirst ++ (space' ++ c :: s)) := by
  intro heq
  have hclose : Stops isSpace (b.close :: rest) := Text.Stops_cons.mpr (by cases b <;> rfl)
  cases isFirst with
  | true =>
    have hfirst : space ++ (comma true ++ ([] ++ b.close :: rest)) =
        before ++ (comma true ++ (space' ++ c :: s)) := heq
    have hpart :=
      part_unique hspace blank_nil hbefore hspace' hclose (Text.Stops_cons.mpr hc) hfirst
    exact hne (List.cons.inj hpart).1.symm
  | false =>
    have hdrop := congrArg dropSpace heq
    rw [dropSpace_append hspace hclose,
      dropSpace_append hbefore (stops_comma _)] at hdrop
    have hcomma := (List.cons.inj hdrop).1
    cases b <;> cases hcomma

/-- A key is known by its text. -/
theorem Key.unique {name' key' rest' : List Char} (h : Key name key) (h' : Key name' key')
    (heq : key ++ rest = key' ++ rest') : name = name' ∧ rest = rest' := by
  cases h with
  | @mk space hname hspace =>
    cases h' with
    | @mk space' hname' hspace' =>
      have hsplit : name ++ '"' :: (space ++ ':' :: rest) =
          name' ++ '"' :: (space' ++ ':' :: rest') := by simpa using heq
      obtain ⟨rfl, hrest⟩ := hname.unique hname' hsplit
      have hdrop := congrArg dropSpace hrest
      rw [dropSpace_append hspace (Text.Stops_cons.mpr rfl),
        dropSpace_append hspace' (Text.Stops_cons.mpr rfl)] at hdrop
      exact ⟨rfl, (List.cons.inj hdrop).2⟩

/-- A key starts with a quote. -/
theorem Key.exists_cons (h : Key name key) : ∃ t, key = '"' :: t := by
  cases h
  exact ⟨_, rfl⟩

/-- No space stands before a value. -/
theorem Formed.stops (h : Formed .value value) (rest : List Char) :
    Stops isSpace (value ++ rest) := by
  obtain ⟨c, t, rfl, hc, -⟩ := h.exists_cons
  exact Text.Stops_cons.mpr hc

/-- A value behind space is known by the text up to where it may end. -/
theorem Formed.unique_behind {space' value' rest' : List Char} (h : Formed .value value)
    (h' : Formed .value value') (hspace : Blank space) (hspace' : Blank space')
    (hr : Delimited rest) (hr' : Delimited rest')
    (heq : space ++ (value ++ rest) = space' ++ (value' ++ rest')) :
    value = value' ∧ rest = rest' := by
  have hdrop := congrArg dropSpace heq
  rw [dropSpace_append hspace (h.stops rest), dropSpace_append hspace' (h'.stops rest')] at hdrop
  exact h.unique h' hr hr' hdrop

/-- A text is members in one way only. -/
theorem MembersOf.unique {s' rest' : List Char} (h : MembersOf isFirst ms s)
    (h' : MembersOf isFirst ms' s') (heq : s ++ '\x7d' :: rest = s' ++ '\x7d' :: rest') :
    ms = ms' ∧ rest = rest' := by
  induction h generalizing ms' s' with
  | @nil isFirst space h =>
    cases h' with
    | nil h' =>
      have hdrop := congrArg dropSpace heq
      rw [dropSpace_append h (Text.Stops_cons.mpr rfl),
        dropSpace_append h' (Text.Stops_cons.mpr rfl)] at hdrop
      exact ⟨rfl, (List.cons.inj hdrop).2⟩
    | cons hbefore hspace hkey =>
      obtain ⟨t, rfl⟩ := hkey.exists_cons
      simp only [List.append_assoc, List.cons_append] at heq
      exact absurd heq (close_ne_part (b := .object) h hbefore hspace rfl (by decide))
  | @cons isFirst before space name key behind value s ms hbefore hspace hkey hbehind hvalue hs
    ih =>
    cases h' with
    | nil h' =>
      obtain ⟨t, rfl⟩ := hkey.exists_cons
      simp only [List.append_assoc, List.cons_append] at heq
      exact absurd heq.symm (close_ne_part (b := .object) h' hbefore hspace rfl (by decide))
    | @cons _ before' space' name' key' behind' value' u ms' hbefore' hspace' hkey' hbehind' hvalue'
        hu =>
      have hstops : ∀ {name key t : List Char}, Key name key → Stops isSpace (key ++ t) := by
        intro name key t hkey
        obtain ⟨t, rfl⟩ := hkey.exists_cons
        exact Text.Stops_cons.mpr rfl
      simp only [List.append_assoc] at heq
      have hpart := part_unique hbefore hspace hbefore' hspace' (hstops hkey) (hstops hkey') heq
      obtain ⟨rfl, hrest⟩ := hkey.unique hkey' hpart
      obtain ⟨rfl, htail⟩ := hvalue.unique_behind hvalue' hbehind hbehind'
        (hs.formed.delimited _) (hu.formed.delimited _) hrest
      obtain ⟨rfl, hr⟩ := ih hu htail
      exact ⟨rfl, hr⟩

/-- A text is items in one way only. -/
theorem ItemsOf.unique {s' rest' : List Char} (h : ItemsOf isFirst vs s)
    (h' : ItemsOf isFirst vs' s') (heq : s ++ ']' :: rest = s' ++ ']' :: rest') :
    vs = vs' ∧ rest = rest' := by
  induction h generalizing vs' s' with
  | @nil isFirst space h =>
    cases h' with
    | nil h' =>
      have hdrop := congrArg dropSpace heq
      rw [dropSpace_append h (Text.Stops_cons.mpr rfl),
        dropSpace_append h' (Text.Stops_cons.mpr rfl)] at hdrop
      exact ⟨rfl, (List.cons.inj hdrop).2⟩
    | cons hbefore hspace hvalue =>
      obtain ⟨c, t, rfl, hc, hclose⟩ := hvalue.exists_cons
      simp only [List.append_assoc, List.cons_append] at heq
      exact absurd heq (close_ne_part (b := .list) h hbefore hspace hc (hclose .list))
  | @cons isFirst before space value s vs hbefore hspace hvalue hs ih =>
    cases h' with
    | nil h' =>
      obtain ⟨c, t, rfl, hc, hclose⟩ := hvalue.exists_cons
      simp only [List.append_assoc, List.cons_append] at heq
      exact absurd heq.symm (close_ne_part (b := .list) h' hbefore hspace hc (hclose .list))
    | @cons _ before' space' value' u vs' hbefore' hspace' hvalue' hu =>
      simp only [List.append_assoc] at heq
      have hpart := part_unique hbefore hspace hbefore' hspace' (hvalue.stops _)
        (hvalue'.stops _) heq
      obtain ⟨rfl, hrest⟩ := hvalue.unique hvalue' (hs.formed.delimited _)
        (hu.formed.delimited _) hpart
      obtain ⟨rfl, hr⟩ := ih hu hrest
      exact ⟨rfl, hr⟩

/-! ## Documents -/

/-- An object is a value. -/
theorem ObjectOf.formed (h : ObjectOf ms value) : Formed .value value := by
  cases h with
  | mk h => exact .bracketed .object h.formed

/-- A list is a value. -/
theorem ListOf.formed (h : ListOf vs value) : Formed .value value := by
  cases h with
  | mk h => exact .bracketed .list h.formed

/-- The values of the members of an object are values. -/
theorem ObjectOf.formed_values (h : ObjectOf ms value) : ∀ m ∈ ms, Formed .value m.2 := by
  cases h with
  | mk h => exact h.formed_values

/-- An object has its members in one way only. -/
theorem ObjectOf.unique (h : ObjectOf ms value) (h' : ObjectOf ms' value) : ms = ms' := by
  cases h with
  | mk h =>
    generalize hvalue : '\x7b' :: (_ ++ ['\x7d']) = value at h'
    cases h' with
    | mk h' => exact (h.unique h' (List.cons.inj hvalue).2).1

/-- A list has its items in one way only. -/
theorem ListOf.unique (h : ListOf vs value) (h' : ListOf vs' value) : vs = vs' := by
  cases h with
  | mk h =>
    generalize hvalue : '[' :: (_ ++ [']']) = value at h'
    cases h' with
    | mk h' => exact (h.unique h' (List.cons.inj hvalue).2).1

/-- A text of nothing but space may stand behind a value. -/
theorem Blank.delimited (h : Blank space) : Delimited space := by
  intro c hc
  exact .inl (h c (List.mem_of_mem_head? hc))

/-- A value by itself is a document. -/
theorem spells_self {document : String} (h : Formed .value document.toList) :
    Spells document document.toList :=
  .mk blank_nil h blank_nil (List.append_nil _).symm

/-- A document spells one value. -/
theorem Spells.unique {document : String} {value' : List Char} (h : Spells document value)
    (h' : Spells document value') : value = value' := by
  obtain ⟨hbefore, hvalue, hafter, hs⟩ := h
  obtain ⟨hbefore', hvalue', hafter', hs'⟩ := h'
  exact (hvalue.unique_behind hvalue' hbefore hbefore' hafter.delimited hafter'.delimited
    (hs.symm.trans hs')).1

/-- If more is added behind the value of a document and a value in brackets comes of it, then that
is space. -/
theorem Spells.blank_of_append {document tail : String} {b : Bracket} (h : Spells document value)
    (hs : Formed (.inside b true) s)
    (h' : Spells (document ++ tail) (b.opening :: (s ++ [b.close]))) : Blank tail.toList := by
  obtain @⟨_, after, hbefore, hvalue, hafter, hd⟩ := h
  obtain @⟨_, after', hbefore', hvalue', hafter', hd'⟩ := h'
  rw [String.toList_append, hd, List.append_assoc, List.append_assoc] at hd'
  have hdrop := congrArg dropSpace hd'
  rw [dropSpace_append hbefore (hvalue.stops _), dropSpace_append hbefore' (hvalue'.stops _)]
    at hdrop
  cases hvalue with
  | scalar hscalar =>
    obtain ⟨c, t, rfl, -⟩ := (Formed.scalar hscalar).exists_cons
    exact absurd (List.cons.inj hdrop).1 (hscalar.ne_opening b)
  | bracketed b' hinside =>
    have hskip := hinside.skip_bracketed blank_nil (after ++ tail.toList)
    rw [hdrop, hs.skip_bracketed blank_nil after'] at hskip
    obtain rfl := Except.ok.inj hskip
    exact fun c hc => hafter' c (List.mem_append_right _ hc)

end

end LogGate.Json
