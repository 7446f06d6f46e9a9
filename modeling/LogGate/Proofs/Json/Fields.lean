import Mathlib.Data.List.Forall2
import LogGate.Proofs.Json.Inside

/-!
# Fields

The members of an object fill fields by their names. `Named` gives the names as texts, and
`valuesOf` are the values of all members with one name. A field is filled at most once: `Takes` is
what one member does to it, and `Fills` what all members do (`fills_cons_iff`), so it depends on the
values of the field's own name only. Documents that are read by their fields or by their items are
then decoded by them (`HasMembers.decode_iff`, `IsList.decode_iff`).
-/

namespace LogGate.Json

open Reader (comma)

/-- The members of an object, with their names as the texts that these denote. -/
def Named (ms : List (List Char × List Char)) (named : List (String × List Char)) : Prop :=
  List.Forall₂ (fun m n => Literal.Denotes m.1 n.1.toList ∧ m.2 = n.2) ms named

/-- A document is an object with members, whose names are texts. -/
def HasMembers (document : String) (named : List (String × List Char)) : Prop :=
  ∃ ms, IsObject document ms ∧ Named ms named

/-- The texts of members one after the other, without space. -/
def memberTexts : Bool → List (String × List Char) → List Char
  | _, [] => []
  | isFirst, (name, value) :: rest =>
    comma isFirst ++ ((Literal.write name).toList ++ ':' :: (value ++ memberTexts false rest))

/-- The values of the members with a name. -/
def valuesOf (name : String) (named : List (String × List Char)) : List (List Char) :=
  (named.filter (·.1 = name)).map Prod.snd

/-- What a member does to the field of a name: it fills the field, which was empty, if it has the
name, and else it leaves the field as it is. -/
inductive Takes {α : Type} (name key : String) (accepts : List Char → α → Prop)
    (value : List Char) : Option α → Option α → Prop where
  | given {a : α} (hkey : key = name) (h : accepts value a) :
    Takes name key accepts value none (some a)
  | other {before : Option α} (hkey : key ≠ name) : Takes name key accepts value before before

/-- What values do to a field: there is one, which fills it, or none. -/
inductive Fills {α : Type} (accepts : List Char → α → Prop) :
    List (List Char) → Option α → Option α → Prop where
  | kept {before : Option α} : Fills accepts [] before before
  | given {value : List Char} {a : α} (h : accepts value a) : Fills accepts [value] none (some a)

section
variable {α σ : Type} {accepts : List Char → α → Prop} {a : α} {before after : Option α}
variable {name key : String} {value : List Char} {vs : List (List Char)}
variable {ms : List (List Char × List Char)} {named named' : List (String × List Char)}

/-- Members have their names as texts in one way at most. -/
theorem Named.unique (h : Named ms named) (h' : Named ms named') : named = named' := by
  induction h generalizing named' with
  | nil =>
    cases h'
    rfl
  | @cons m n ms named hm _ ih =>
    cases h' with
    | @cons _ n' _ named' hm' hms' =>
      have hname : n.1 = n'.1 := String.toList_inj.mp (hm.1.unique hm'.1)
      rw [ih hms', Prod.ext hname (hm.2.symm.trans hm'.2)]

/-- The names denote texts in front of other members. -/
theorem named_cons_iff {m : List Char × List Char} : Named (m :: ms) named ↔
    ∃ key rest, named = (key, m.2) :: rest ∧ Literal.Denotes m.1 key.toList ∧ Named ms rest := by
  constructor
  · intro h
    cases h with
    | @cons _ n _ rest hm hms => exact ⟨n.1, rest, by rw [hm.2], hm.1, hms⟩
  · rintro ⟨key, rest, rfl, hkey, hms⟩
    exact .cons ⟨hkey, rfl⟩ hms

/-- Names are only another view of the members, which keep their values. -/
theorem Named.formed (h : Named ms named) (hms : ∀ m ∈ ms, Formed .value m.2) :
    ∀ n ∈ named, Formed .value n.2 := by
  induction h with
  | nil => nofun
  | cons hm _ ih =>
    obtain ⟨hvalue, hvalues⟩ := List.forall_mem_cons.mp hms
    exact List.forall_mem_cons.mpr ⟨hm.2 ▸ hvalue, ih hvalues⟩

/-- The values of the members of a document are values. -/
theorem HasMembers.formed {document : String} (h : HasMembers document named) :
    ∀ n ∈ named, Formed .value n.2 := by
  obtain ⟨ms, ⟨value, -, hms⟩, hnamed⟩ := h
  exact hnamed.formed hms.formed_values

/-- Members that are written are members with their names. -/
theorem exists_named_memberTexts (hvalues : ∀ n ∈ named, Formed .value n.2) (isFirst : Bool) :
    ∃ ms, MembersOf isFirst ms (memberTexts isFirst named) ∧ Named ms named := by
  induction named generalizing isFirst with
  | nil => exact ⟨[], .nil blank_nil, .nil⟩
  | cons n named ih =>
    obtain ⟨hvalue, hvalues⟩ := List.forall_mem_cons.mp hvalues
    obtain ⟨ms, hms, hnamed⟩ := ih hvalues false
    have hname := Literal.denotes_write n.1
    have hkey : Key (n.1.toList.flatMap Literal.writeChar)
        ('"' :: (n.1.toList.flatMap Literal.writeChar ++ '"' :: ([] ++ [':']))) :=
      .mk hname.body blank_nil
    have htext : memberTexts isFirst (n :: named) = [] ++ (comma isFirst ++ ([] ++
        ('"' :: (n.1.toList.flatMap Literal.writeChar ++ '"' :: ([] ++ [':'])) ++
          ([] ++ (n.2 ++ memberTexts false named))))) := by
      simp [memberTexts, Literal.write_append]
    rw [htext]
    exact ⟨_, .cons blank_nil blank_nil hkey blank_nil hvalue hms, .cons ⟨hname, rfl⟩ hnamed⟩

/-- An object that is written without space has its members. -/
theorem hasMembers_of_toList {document : String} (hvalues : ∀ n ∈ named, Formed .value n.2)
    (h : document.toList = '\x7b' :: (memberTexts true named ++ ['\x7d'])) :
    HasMembers document named := by
  obtain ⟨ms, hms, hnamed⟩ := exists_named_memberTexts hvalues true
  have hobject : ObjectOf ms document.toList := h ▸ .mk hms
  exact ⟨ms, ⟨_, spells_self hobject.formed, hobject⟩, hnamed⟩

theorem valuesOf_cons_self :
    valuesOf name ((name, value) :: named) = value :: valuesOf name named := by
  simp [valuesOf]

theorem valuesOf_cons_of_ne (h : key ≠ name) :
    valuesOf name ((key, value) :: named) = valuesOf name named := by
  simp [valuesOf, h]

/-- Members of other names and the order of the members do not matter for the values of a name, as
far as there is one or none. -/
theorem valuesOf_perm {known : List String} (hname : name ∈ known)
    (h : (named.filter (·.1 ∈ known)).Perm (named'.filter (·.1 ∈ known))) :
    (valuesOf name named).Perm (valuesOf name named') := by
  have hfilter : ∀ named : List (String × List Char),
      (named.filter (·.1 ∈ known)).filter (·.1 = name) = named.filter (·.1 = name) := by
    intro named
    rw [List.filter_filter]
    congr 1
    funext n
    by_cases hn : n.1 = name
    · simp [hn, hname]
    · simp [hn]
  have hvalues := (h.filter (·.1 = name)).map Prod.snd
  rwa [hfilter, hfilter] at hvalues

/-- A field is filled by a member of its name. -/
theorem takes_self_iff : Takes name name accepts value before after ↔
    before = none ∧ ∃ a, accepts value a ∧ after = some a := by
  constructor
  · rintro (⟨-, h⟩ | h)
    · exact ⟨rfl, _, h, rfl⟩
    · exact absurd rfl h
  · rintro ⟨rfl, a, h, rfl⟩
    exact .given rfl h

/-- A field is left as it is by a member of another name. -/
theorem takes_iff_of_ne (h : key ≠ name) :
    Takes name key accepts value before after ↔ after = before := by
  constructor
  · rintro (⟨heq, -⟩ | -)
    · exact absurd heq h
    · rfl
  · rintro rfl
    exact .other h

theorem fills_nil_iff : Fills accepts (valuesOf name []) before after ↔ before = after := by
  constructor
  · intro h
    cases h
    rfl
  · rintro rfl
    exact .kept

/-- A field that is filled keeps what it has. -/
theorem fills_some_iff : Fills accepts vs (some a) after ↔ vs = [] ∧ after = some a := by
  constructor
  · intro h
    cases h
    exact ⟨rfl, rfl⟩
  · rintro ⟨rfl, rfl⟩
    exact .kept

/-- An empty field is filled by one value. -/
theorem fills_none_some_iff : Fills accepts vs none (some a) ↔
    ∃ value, vs = [value] ∧ accepts value a := by
  constructor
  · intro h
    cases h with
    | given h => exact ⟨_, rfl, h⟩
  · rintro ⟨value, rfl, h⟩
    exact .given h

/-- What members do to a field, the first of them does and then the others. -/
theorem fills_cons_iff : Fills accepts (valuesOf name ((key, value) :: named)) before after ↔
    ∃ next, Takes name key accepts value before next ∧
      Fills accepts (valuesOf name named) next after := by
  by_cases hkey : key = name
  · subst hkey
    rw [valuesOf_cons_self]
    constructor
    · intro h
      cases hvs : valuesOf key named with
      | nil =>
        rw [hvs] at h
        cases h with
        | given h => exact ⟨_, .given rfl h, .kept⟩
      | cons v vs =>
        rw [hvs] at h
        cases h
    · rintro ⟨next, htakes, hfills⟩
      obtain ⟨rfl, a, h, rfl⟩ := takes_self_iff.mp htakes
      obtain ⟨hvs, rfl⟩ := fills_some_iff.mp hfills
      rw [hvs]
      exact .given h
  · rw [valuesOf_cons_of_ne hkey]
    constructor
    · exact fun h => ⟨before, .other hkey, h⟩
    · rintro ⟨next, htakes, hfills⟩
      rwa [(takes_iff_of_ne hkey).mp htakes] at hfills

/-- What members come to one after the other, if that can be said of all members at once. -/
theorem follows_iff {effect : String → σ → List Char → σ → Prop}
    (comes : List (String × List Char) → σ → σ → Prop) (hnil : ∀ {p q}, comes [] p q ↔ p = q)
    (hcons : ∀ {key value named p q}, comes ((key, value) :: named) p q ↔
      ∃ next, effect key p value next ∧ comes named next q) {p q : σ} :
    Follows effect ms p q ↔ ∃ named, Named ms named ∧ comes named p q := by
  induction ms generalizing p with
  | nil =>
    constructor
    · intro h
      cases h
      exact ⟨[], .nil, hnil.mpr rfl⟩
    · rintro ⟨named, hnamed, h⟩
      cases hnamed
      rw [hnil.mp h]
      exact .nil
  | cons m ms ih =>
    constructor
    · intro h
      cases h with
      | cons hname heffect hs =>
        obtain ⟨named, hnamed, h⟩ := ih.mp hs
        exact ⟨_, named_cons_iff.mpr ⟨_, named, rfl, hname, hnamed⟩, hcons.mpr ⟨_, heffect, h⟩⟩
    · rintro ⟨named, hnamed, h⟩
      obtain ⟨key, rest, rfl, hname, hrest⟩ := named_cons_iff.mp hnamed
      obtain ⟨next, heffect, h⟩ := hcons.mp h
      exact .cons hname heffect (ih.mpr ⟨rest, hrest, h⟩)

/-! ## Documents -/

section
variable {x : Reader α} {inObject : List (String × List Char) → α → Prop}
variable {inList : List (List Char) → α → Prop} {document : String}

variable (hx : Exact x fun value a =>
  (∃ ms named, ObjectOf ms value ∧ Named ms named ∧ inObject named a) ∨
    ∃ vs, ListOf vs value ∧ inList vs a)
include hx

/-- What an object is decoded as is decided by its members, if their names are texts. -/
theorem IsObject.decode_iff (h : IsObject document ms) : x.decode document = .ok a ↔
    ∃ named, Named ms named ∧ inObject named a := by
  obtain ⟨value, hspells, hms⟩ := h
  rw [hspells.decode_iff hx]
  constructor
  · rintro (⟨ms', named, hms', hnamed, ha⟩ | ⟨vs, hvs, -⟩)
    · rw [hms.unique hms']
      exact ⟨named, hnamed, ha⟩
    · cases hms
      cases hvs
  · rintro ⟨named, hnamed, ha⟩
    exact .inl ⟨ms, named, hms, hnamed, ha⟩

/-- So it is decided by the names and values of its members. -/
theorem HasMembers.decode_iff (h : HasMembers document named) :
    x.decode document = .ok a ↔ inObject named a := by
  obtain ⟨ms, hobject, hnamed⟩ := h
  rw [hobject.decode_iff hx]
  constructor
  · rintro ⟨named', hnamed', ha⟩
    rwa [hnamed.unique hnamed']
  · exact fun ha => ⟨named, hnamed, ha⟩

/-- What a list is decoded as is decided by its items. -/
theorem IsList.decode_iff (h : IsList document vs) : x.decode document = .ok a ↔ inList vs a := by
  obtain ⟨value, hspells, hvs⟩ := h
  rw [hspells.decode_iff hx]
  constructor
  · rintro (⟨ms, named, hms, -⟩ | ⟨vs', hvs', ha⟩)
    · cases hms
      cases hvs
    · rwa [hvs.unique hvs']
  · exact fun ha => .inr ⟨vs, hvs, ha⟩

/-- A document that is decoded is an object or a list. -/
theorem isObject_or_isList (h : x.decode document = .ok a) :
    (∃ ms, IsObject document ms) ∨ ∃ vs, IsList document vs := by
  obtain ⟨value, hspells, ⟨ms, _, hms, -⟩ | ⟨vs, hvs, -⟩⟩ := hx.decode_iff.mp h
  · exact .inl ⟨ms, value, hspells, hms⟩
  · exact .inr ⟨vs, value, hspells, hvs⟩

/-- Behind the value of a document nothing may be added but space. -/
theorem Spells.decode_append_ne_ok {value : List Char} {tail : String} (h : Spells document value)
    (htail : ¬ Blank tail.toList) (a : α) : x.decode (document ++ tail) ≠ .ok a := by
  intro hdecode
  obtain ⟨ms, _, hspells, ⟨hms⟩⟩ | ⟨vs, _, hspells, ⟨hvs⟩⟩ := isObject_or_isList hx hdecode
  · exact htail (h.blank_of_append (b := .object) hms.formed hspells)
  · exact htail (h.blank_of_append (b := .list) hvs.formed hspells)

end

end

end LogGate.Json
