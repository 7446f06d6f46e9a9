import LogGate.Proofs.Json.Exact

/-!
# What readers accept in brackets

What stands in a bracket is read by readers that stop at its closing half. `ExactInside` says of
such a reader what it accepts between the halves: members (`ExactObject`) or items (`ExactList`).
Members are read by exact steps (`exactObject_members`). Items are read in a row, each of them
behind a comma but the first one (`ExactItem`, `ExactRow`). Readers of brackets are then exact
readers of objects, or of objects and lists (`ExactObject.exact`, `ExactObject.either`).
-/

namespace LogGate.Json

open Reader (comma)
open Text (Stops)

/-- A reader accepts certain texts between the halves of a bracket. -/
structure ExactInside {α : Type} (b : Bracket) (x : Reader α) (accepts : List Char → α → Prop) :
    Prop where
  formed : ∀ {s a}, accepts s a → Formed (.inside b true) s
  enclosed_iff : ∀ {s r a}, (Reader.enclosed b x).run s = .ok (a, r) ↔
    ∃ t, s = t ++ b.close :: r ∧ accepts t a

/-- A reader accepts certain members between the braces of an object. -/
def ExactObject {α : Type} (x : Reader α) (accepts : List (List Char × List Char) → α → Prop) :
    Prop :=
  ExactInside .object x fun t a => ∃ ms, MembersOf true ms t ∧ accepts ms a

/-- A reader accepts certain items between the brackets of a list. -/
def ExactList {α : Type} (x : Reader α) (accepts : List (List Char) → α → Prop) : Prop :=
  ExactInside .list x fun t a => ∃ vs, ItemsOf true vs t ∧ accepts vs a

/-- A reader accepts certain values as an item of a list, with the comma before it. -/
structure ExactItem {α : Type} (isFirst : Bool) (x : Reader α) (accepts : List Char → α → Prop) :
    Prop where
  formed : ∀ {value a}, accepts value a → Formed .value value
  sound : ∀ {s r a}, x.run s = .ok (a, r) → ∃ before space value,
    s = before ++ (comma isFirst ++ (space ++ (value ++ r))) ∧ Blank before ∧ Blank space ∧
      accepts value a
  complete : ∀ {before space value rest a}, Blank before → Blank space → accepts value a →
    Delimited rest → x.run (before ++ (comma isFirst ++ (space ++ (value ++ rest)))) = .ok (a, rest)

/-- A reader accepts certain items in a row, up to the end of a list. -/
structure ExactRow {α : Type} (isFirst : Bool) (x : Reader α)
    (accepts : List (List Char) → α → Prop) : Prop where
  sound : ∀ {s r u a}, x.run s = .ok (a, r) → Reader.close .list r = .ok u →
    ∃ vs t, s = t ++ ']' :: u ∧ ItemsOf isFirst vs t ∧ accepts vs a
  complete : ∀ {vs t a}, ItemsOf isFirst vs t → accepts vs a → ∀ u,
    ∃ r, x.run (t ++ ']' :: u) = .ok (a, r) ∧ Reader.close .list r = .ok u

section
variable {α β σ : Type} {x : Reader α} {f : α → Reader β} {a : α} {b : Bracket}
variable {accepts : List Char → α → Prop} {inObject : List (List Char × List Char) → α → Prop}
variable {inList : List (List Char) → α → Prop}
variable {s r rest space before value : List Char} {vs : List (List Char)} {isFirst : Bool}

/-! ## Brackets -/

/-- A bracket behind space is read up to its closing half. -/
theorem ExactInside.behind_iff (h : ExactInside b x accepts) :
    (∃ t, dropSpace s = b.opening :: t ∧ (Reader.enclosed b x).run t = .ok (a, r)) ↔
      ∃ space t, s = space ++ (b.opening :: (t ++ [b.close]) ++ r) ∧ Blank space ∧
        accepts t a := by
  constructor
  · rintro ⟨u, hs, hrun⟩
    obtain ⟨space, rfl, hspace⟩ := exists_blank hs
    obtain ⟨t, rfl, ha⟩ := h.enclosed_iff.mp hrun
    exact ⟨space, t, by simp, hspace, ha⟩
  · rintro ⟨space, t, rfl, hspace, ha⟩
    refine ⟨t ++ b.close :: r, ?_, h.enclosed_iff.mpr ⟨t, rfl, ha⟩⟩
    rw [dropSpace_append hspace ((Formed.bracketed b (h.formed ha)).stops r)]
    simp

/-- An object is accepted by the reader of its members. -/
theorem ExactObject.exact (h : ExactObject x inObject) (expected : String) :
    Exact (Reader.bracketed expected none (some x))
      fun value a => ∃ ms, ObjectOf ms value ∧ inObject ms a where
  formed := fun ⟨_, hms, _⟩ => hms.formed
  sound hrun := by
    obtain ⟨_, _, hnone, -⟩ | ⟨_, t, hx, ht, hrun⟩ := Reader.bracketed_eq_ok.mp hrun
    · cases hnone
    cases hx
    obtain ⟨space, t, hs, hspace, ms, hms, ha⟩ := h.behind_iff.mp ⟨t, ht, hrun⟩
    exact ⟨space, _, hs, hspace, ms, .mk hms, ha⟩
  complete hspace ha _ := by
    obtain ⟨ms, ⟨hms⟩, ha⟩ := ha
    obtain ⟨u, hu, hrun⟩ := h.behind_iff.mpr ⟨_, _, rfl, hspace, ms, hms, ha⟩
    exact Reader.bracketed_eq_ok.mpr (.inr ⟨x, u, rfl, hu, hrun⟩)

/-- An object or a list is accepted by the readers of its members and its items. -/
theorem ExactObject.either {list : Reader α} (hobject : ExactObject x inObject)
    (hlist : ExactList list inList) (expected : String) :
    Exact (Reader.bracketed expected (some list) (some x)) fun value a =>
      (∃ ms, ObjectOf ms value ∧ inObject ms a) ∨ ∃ vs, ListOf vs value ∧ inList vs a where
  formed := by
    rintro value a (⟨ms, hms, -⟩ | ⟨vs, hvs, -⟩)
    · exact hms.formed
    · exact hvs.formed
  sound hrun := by
    obtain ⟨_, t, hx, ht, hrun⟩ | ⟨_, t, hx, ht, hrun⟩ := Reader.bracketed_eq_ok.mp hrun
    · cases hx
      obtain ⟨space, t, hs, hspace, vs, hvs, ha⟩ := hlist.behind_iff.mp ⟨t, ht, hrun⟩
      exact ⟨space, _, hs, hspace, .inr ⟨vs, .mk hvs, ha⟩⟩
    · cases hx
      obtain ⟨space, t, hs, hspace, ms, hms, ha⟩ := hobject.behind_iff.mp ⟨t, ht, hrun⟩
      exact ⟨space, _, hs, hspace, .inl ⟨ms, .mk hms, ha⟩⟩
  complete hspace ha _ := by
    obtain ⟨ms, ⟨hms⟩, ha⟩ | ⟨vs, ⟨hvs⟩, ha⟩ := ha
    · obtain ⟨u, hu, hrun⟩ := hobject.behind_iff.mpr ⟨_, _, rfl, hspace, ms, hms, ha⟩
      exact Reader.bracketed_eq_ok.mpr (.inr ⟨x, u, rfl, hu, hrun⟩)
    · obtain ⟨u, hu, hrun⟩ := hlist.behind_iff.mpr ⟨_, _, rfl, hspace, vs, hvs, ha⟩
      exact Reader.bracketed_eq_ok.mpr (.inl ⟨list, u, rfl, hu, hrun⟩)

/-! ## Members -/

/-- Members that are read by exact steps are accepted for what they come to. -/
theorem exactObject_members {step : String → σ → Reader σ}
    {effect : String → σ → List Char → σ → Prop}
    (hstep : ∀ key acc, ExactMember (step key acc) (effect key acc)) (init : σ) :
    ExactObject (Reader.members init step) fun ms last => Follows effect ms init last where
  formed := fun ⟨_, hms, _⟩ => hms.formed
  enclosed_iff {s r last} := by
    rw [Reader.enclosed_eq_ok]
    constructor
    · rintro ⟨u, hrun, hclose⟩
      obtain ⟨ms, t, rest, rfl, rfl, hms, hfollows⟩ := membersFrom_sound hstep hrun
      cases hclose
      exact ⟨t, rfl, ms, hms, hfollows⟩
    · rintro ⟨t, rfl, ms, hms, hfollows⟩
      exact ⟨_, membersFrom_complete hstep hms hfollows r, rfl⟩

/-- What is made of the members of an object without reading more is accepted with them. -/
theorem ExactObject.finish (h : ExactObject x inObject) {made : α → β → Prop}
    (hmade : ∀ {a s r c}, (f a).run s = .ok (c, r) ↔ r = s ∧ made a c) :
    ExactObject (x >>= f) fun ms c => ∃ a, inObject ms a ∧ made a c where
  formed := fun ⟨_, hms, _⟩ => hms.formed
  enclosed_iff {s r c} := by
    rw [Reader.enclosed_eq_ok]
    constructor
    · rintro ⟨t, hrun, hclose⟩
      obtain ⟨a, u, hx, hf⟩ := Reader.bind_eq_ok.mp hrun
      obtain ⟨rfl, hc⟩ := hmade.mp hf
      obtain ⟨t, hs, ms, hms, ha⟩ := h.enclosed_iff.mp (Reader.enclosed_eq_ok.mpr ⟨_, hx, hclose⟩)
      exact ⟨t, hs, ms, hms, a, ha, hc⟩
    · rintro ⟨t, hs, ms, hms, a, ha, hc⟩
      obtain ⟨u, hx, hclose⟩ :=
        Reader.enclosed_eq_ok.mp (h.enclosed_iff.mpr ⟨t, hs, ms, hms, ha⟩)
      exact ⟨u, Reader.bind_eq_ok.mpr ⟨a, u, hx, hmade.mpr ⟨rfl, hc⟩⟩, hclose⟩

/-! ## Items -/

/-- There is a next item where something else than the closing half comes behind the comma. -/
theorem nextItem_found {c : Char} (hbefore : Blank before) (hspace : Blank space)
    (hc : isSpace c = false) (hclose : c ≠ ']') (rest : List Char) :
    (Reader.nextItem isFirst).run (before ++ (comma isFirst ++ (space ++ c :: rest))) =
      .ok (true, c :: rest) := by
  have hstops : Stops isSpace (c :: rest) := Text.Stops_cons.mpr hc
  unfold Reader.nextItem
  dsimp only
  cases isFirst with
  | true =>
    have hdrop : dropSpace (before ++ (comma true ++ (space ++ c :: rest))) = c :: rest := by
      show dropSpace (before ++ (space ++ c :: rest)) = c :: rest
      rw [← List.append_assoc]
      exact dropSpace_append (blank_append hbefore hspace) hstops
    rw [hdrop]
    simp [hclose]
  | false =>
    have hdrop : dropSpace (before ++ (comma false ++ (space ++ c :: rest))) =
        ',' :: (space ++ c :: rest) :=
      dropSpace_append hbefore (stops_comma _)
    rw [hdrop]
    simp only [Char.reduceEq, if_false, if_true, Bool.false_eq_true,
      dropSpace_append hspace hstops]
    split
    · next heq => cases heq
    · next heq => exact absurd (List.cons.inj heq).1 hclose
    · rfl

/-- Where there is a next item, it is behind space and perhaps a comma. -/
theorem nextItem_sound {more : Bool} (h : (Reader.nextItem isFirst).run s = .ok (more, r)) :
    (more = false ∧ ∃ space rest, s = space ++ ']' :: rest ∧ r = ']' :: rest ∧ Blank space) ∨
    (more = true ∧ ∃ before space, s = before ++ (comma isFirst ++ (space ++ r)) ∧ Blank before ∧
      Blank space) := by
  obtain ⟨before, hs, hbefore, -⟩ := dropSpace_eq s
  unfold Reader.nextItem at h
  dsimp only at h
  split at h
  · cases h
  · next c t hdrop =>
    rw [hdrop] at hs
    split at h
    · next hc =>
      cases h
      exact .inl ⟨rfl, before, t, hc ▸ hs, by rw [hc], hbefore⟩
    split at h
    · next hfirst =>
      cases h
      subst hfirst
      exact .inr ⟨rfl, before, [], hs, hbefore, blank_nil⟩
    split at h
    · next hfirst hc =>
      obtain ⟨space, hspace, hblank, -⟩ := dropSpace_eq t
      have hlater : isFirst = false := Bool.eq_false_iff.mpr hfirst
      split at h
      · cases h
      · cases h
      · cases h
        subst hlater hc
        exact .inr ⟨rfl, before, space, by rw [hs]; exact congrArg _ (congrArg _ hspace),
          hbefore, hblank⟩
    · cases h

/-- There is no next item before the closing half. -/
theorem nextItem_closed (h : Blank space) (rest : List Char) :
    (Reader.nextItem isFirst).run (space ++ ']' :: rest) = .ok (false, ']' :: rest) := by
  unfold Reader.nextItem
  dsimp only
  rw [dropSpace_append h (Text.Stops_cons.mpr rfl)]
  rfl

/-- A reader that looks for a next item and reads a value if there is one accepts that value as an
item. -/
theorem Exact.item (h : Exact x accepts) {y : Bool → Reader α} (hmore : y true = x)
    (hend : ∀ {s p}, (y false).run s ≠ .ok p) (isFirst : Bool) :
    ExactItem isFirst (Reader.nextItem isFirst >>= y) accepts where
  formed := h.formed
  sound {s r a} hrun := by
    obtain ⟨more, t, hnext, hvalue⟩ := Reader.bind_eq_ok.mp hrun
    obtain ⟨rfl, -⟩ | ⟨rfl, before, space, rfl, hbefore, hspace⟩ := nextItem_sound hnext
    · exact absurd hvalue hend
    · rw [hmore] at hvalue
      obtain ⟨gap, value, rfl, hgap, ha⟩ := h.sound hvalue
      exact ⟨before, space ++ gap, value, by simp, hbefore, blank_append hspace hgap, ha⟩
  complete {before space value rest a} hbefore hspace ha hr := by
    obtain ⟨c, t, rfl, hc, hclose⟩ := (h.formed ha).exists_cons
    refine Reader.bind_eq_ok.mpr ⟨true, _, nextItem_found hbefore hspace hc (hclose .list) _, ?_⟩
    rw [hmore]
    exact h.complete blank_nil ha hr

/-- Without more items a list is at its end. -/
theorem exactRow_pure (isFirst : Bool) (a : α) :
    ExactRow isFirst (pure a) fun vs b => vs = [] ∧ b = a where
  sound {s r u b} hrun hclose := by
    cases hrun
    obtain ⟨space, rfl, hspace⟩ := exists_blank (Reader.close_eq_ok.mp hclose)
    exact ⟨[], space, rfl, .nil hspace, rfl, rfl⟩
  complete hitems ha u := by
    obtain ⟨rfl, rfl⟩ := ha
    cases hitems with
    | nil h => exact ⟨_, rfl, Reader.close_eq_ok.mpr (dropSpace_append h (Text.Stops_cons.mpr rfl))⟩

/-- An item and then the others are items in a row. -/
theorem ExactItem.row {acceptsRest : α → List (List Char) → β → Prop}
    (h : ExactItem isFirst x accepts) (hf : ∀ a, ExactRow false (f a) (acceptsRest a)) :
    ExactRow isFirst (x >>= f) fun vs c =>
      ∃ value rest a, vs = value :: rest ∧ accepts value a ∧ acceptsRest a rest c where
  sound {s r u c} hrun hclose := by
    obtain ⟨a, t, hx, hrest⟩ := Reader.bind_eq_ok.mp hrun
    obtain ⟨before, space, value, rfl, hbefore, hspace, ha⟩ := h.sound hx
    obtain ⟨vs, t, rfl, hvs, hc⟩ := (hf a).sound hrest hclose
    exact ⟨value :: vs, _, by simp, .cons hbefore hspace (h.formed ha) hvs,
      value, vs, a, rfl, ha, hc⟩
  complete {vs t c} hitems hc u := by
    obtain ⟨value, rest, a, rfl, ha, hc⟩ := hc
    cases hitems with
    | @cons _ before space _ s _ hbefore hspace hvalue hs =>
      obtain ⟨r, hrun, hclose⟩ := (hf a).complete hs hc u
      have hdelimited : Delimited (s ++ ']' :: u) := hs.formed.delimited u
      have hx := h.complete hbefore hspace ha hdelimited
      exact ⟨r, Reader.bind_eq_ok.mpr ⟨a, _, by simpa using hx, hrun⟩, hclose⟩

/-- A reader that looks for a next item and reads a value if there is one accepts one at most. -/
theorem Exact.atMostOne (h : Exact x accepts) {y : Bool → Reader α} (hmore : y true = x)
    (hend : y false = pure a) (isFirst : Bool) :
    ExactRow isFirst (Reader.nextItem isFirst >>= y)
      fun vs c => (vs = [] ∧ c = a) ∨ ∃ value, vs = [value] ∧ accepts value c where
  sound {s r u c} hrun hclose := by
    obtain ⟨more, t, hnext, hvalue⟩ := Reader.bind_eq_ok.mp hrun
    obtain ⟨rfl, space, rest, rfl, rfl, hspace⟩ | ⟨rfl, before, space, rfl, hbefore, hspace⟩ :=
      nextItem_sound hnext
    · rw [hend] at hvalue
      cases hvalue
      cases hclose
      exact ⟨[], space, rfl, .nil hspace, .inl ⟨rfl, rfl⟩⟩
    · rw [hmore] at hvalue
      obtain ⟨gap, value, rfl, hgap, hc⟩ := h.sound hvalue
      obtain ⟨behind, rfl, hbehind⟩ := exists_blank (Reader.close_eq_ok.mp hclose)
      exact ⟨[value], _, by simp [Bracket.close],
        .cons hbefore (blank_append hspace hgap) (h.formed hc) (.nil hbehind),
        .inr ⟨value, rfl, hc⟩⟩
  complete {vs t c} hitems hc u := by
    obtain ⟨rfl, rfl⟩ | ⟨value, rfl, hc⟩ := hc
    · cases hitems with
      | nil hspace =>
        refine ⟨']' :: u, Reader.bind_eq_ok.mpr ⟨false, _, nextItem_closed hspace u, ?_⟩, rfl⟩
        rw [hend]
        rfl
    · cases hitems with
      | @cons _ before space _ s _ hbefore hspace _ hs =>
        cases hs with
        | nil hbehind =>
          have hdelimited : Delimited (s ++ ']' :: u) :=
            (Formed.nil (b := .list) hbehind).delimited u
          obtain ⟨d, v, rfl, hd, hclose⟩ := (h.formed hc).exists_cons
          have hnext : (Reader.nextItem isFirst).run _ = _ :=
            nextItem_found hbefore hspace hd (hclose .list) (v ++ (s ++ ']' :: u))
          have hvalue := h.complete blank_nil hc hdelimited
          refine ⟨s ++ ']' :: u, Reader.bind_eq_ok.mpr ⟨true, _, by simpa using hnext, ?_⟩,
            Reader.close_eq_ok.mpr (dropSpace_append hbehind (Text.Stops_cons.mpr rfl))⟩
          rw [hmore]
          exact hvalue

/-- What is accepted in a row may be said in other words. -/
theorem ExactRow.congr {inList' : List (List Char) → α → Prop} (h : ExactRow isFirst x inList)
    (heq : ∀ vs a, inList vs a ↔ inList' vs a) : ExactRow isFirst x inList' := by
  have hsame : inList = inList' := funext fun vs => funext fun a => propext (heq vs a)
  exact hsame ▸ h

/-- A row of items from the first one on is what stands in a list. -/
theorem ExactRow.list (h : ExactRow true x inList) : ExactList x inList where
  formed := fun ⟨_, hvs, _⟩ => hvs.formed
  enclosed_iff {s r a} := by
    rw [Reader.enclosed_eq_ok]
    constructor
    · rintro ⟨u, hrun, hclose⟩
      obtain ⟨vs, t, rfl, hvs, ha⟩ := h.sound hrun hclose
      exact ⟨t, rfl, vs, hvs, ha⟩
    · rintro ⟨t, rfl, vs, hvs, ha⟩
      exact h.complete hvs ha r

end

end LogGate.Json
