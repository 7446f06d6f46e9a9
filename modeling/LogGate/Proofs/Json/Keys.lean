import LogGate.Json.Reader

/-!
# The keys of a document

`Reader.keys` reads the keys of an object and passes over everything else in it. It serves to say of
a document, whatever else it is read as, which members it has. A reader that passes over members
that it does not know ends with what it began with where it knows none of the keys
(`membersFrom_unknown`): the two readers pass over the same values, so the one accepts the members
that the other one accepts.

For this the readers that are put together are taken apart again: what a reader of brackets or of a
whole document has accepted, the readers within have accepted (`bracketed_eq_ok`, `enclosed_eq_ok`,
`decode_eq_ok`).
-/

namespace LogGate.Json.Reader

section
variable {α β σ : Type} {x : Reader α} {f : α → Reader β} {a : α} {c : β} {b : Bracket}
variable {s r : List Char} {isFirst : Bool}

/-! ## Taking readers apart -/

/-- What two readers accept one after the other, each of them accepts. -/
theorem bind_eq_ok : (x >>= f).run s = .ok (c, r) ↔
    ∃ a t, x.run s = .ok (a, t) ∧ (f a).run t = .ok (c, r) := by
  simp only [Bind.bind]
  cases hx : x.run s with
  | error e =>
    constructor
    · intro h
      cases h
    · rintro ⟨a, t, h, -⟩
      cases h
  | ok p =>
    obtain ⟨a, t⟩ := p
    constructor
    · intro h
      exact ⟨a, t, rfl, h⟩
    · rintro ⟨a', t', h, hf⟩
      cases h
      exact hf

/-- What closes a bracket is its closing half, behind space. -/
theorem close_eq_ok : close b s = .ok r ↔ dropSpace s = b.close :: r := by
  unfold close
  cases hs : dropSpace s with
  | nil => simp
  | cons d t =>
    by_cases hd : d = b.close
    · simp [hd]
    · dsimp only
      rw [if_neg hd]
      constructor
      · intro h
        split at h
        · split at h <;> cases h
        · cases h
      · intro h
        exact absurd (List.cons.inj h).1 hd

/-- What is accepted in a bracket, the reader of its inside accepts up to the closing half. -/
theorem enclosed_eq_ok : (enclosed b x).run s = .ok (a, r) ↔
    ∃ t, x.run s = .ok (a, t) ∧ close b t = .ok r := by
  unfold enclosed
  dsimp only
  constructor
  · intro h
    split at h
    · cases h
    · next a' t hx =>
      cases hc : close b t with
      | error e => rw [hc] at h; cases h
      | ok u => rw [hc] at h; cases h; exact ⟨t, hx, hc⟩
  · rintro ⟨t, hx, hc⟩
    rw [hx]
    dsimp only
    rw [hc]
    rfl

/-- What is accepted in brackets starts with the one bracket or the other, and is expected there. -/
theorem bracketed_eq_ok {expected : String} {list object : Option (Reader α)} :
    (bracketed expected list object).run s = .ok (a, r) ↔
      (∃ inner t, list = some inner ∧ dropSpace s = '[' :: t ∧
        (enclosed .list inner).run t = .ok (a, r)) ∨
      (∃ inner t, object = some inner ∧ dropSpace s = '\x7b' :: t ∧
        (enclosed .object inner).run t = .ok (a, r)) := by
  unfold bracketed
  dsimp only
  constructor
  · intro h
    split at h
    · next hs => exact .inl ⟨_, _, rfl, hs, h⟩
    · next hs => exact .inr ⟨_, _, rfl, hs, h⟩
    · cases h
  · rintro (⟨inner, t, rfl, hs, h⟩ | ⟨inner, t, rfl, hs, h⟩)
    · rw [hs]
      exact h
    · rw [hs]
      cases list <;> exact h

/-- A member that has to occur has been read before. -/
theorem required_eq_ok {name : String} {field : Option α} :
    (required name field).run s = .ok (a, r) ↔ r = s ∧ field = some a := by
  cases field with
  | none => exact ⟨nofun, nofun⟩
  | some a' =>
    constructor
    · intro h
      cases h
      exact ⟨rfl, rfl⟩
    · rintro ⟨rfl, h⟩
      cases h
      rfl

/-- A document that is accepted is a value with nothing but space behind it. -/
theorem decode_eq_ok {document : String} : decode x document = .ok a ↔
    ∃ r, x.run document.toList = .ok (a, r) ∧ dropSpace r = [] := by
  unfold decode whole
  cases hx : x.run document.toList with
  | error e => simp
  | ok p =>
    obtain ⟨a', t⟩ := p
    cases ht : dropSpace t with
    | nil =>
      constructor
      · intro h
        simp only [ht, Except.ok.injEq] at h
        exact ⟨t, by rw [h], ht⟩
      · rintro ⟨r, h, -⟩
        cases h
        simp only [ht]
    | cons d u =>
      constructor
      · intro h
        simp [ht] at h
      · rintro ⟨r, h, hr⟩
        cases h
        cases ht.symm.trans hr

/-! ## Keys -/

/-- Reads a member of an object, and only adds its key to those before. -/
def listKey (key : String) (before : List String) : Reader (List String) := do
  unknown
  return before ++ [key]

/-- Reads the keys of an object, in their order and as often as they occur. A list without items is
read like an object without members. -/
def keys : Reader (List String) := .bracketed "keys" (some (pure [])) (some (members [] listKey))

/-- A member that is passed over leaves what there was before it. -/
theorem passed_eq_ok {a' : α} : (do unknown; return a' : Reader α).run s = .ok (a, r) ↔
    unknown.run s = .ok ((), r) ∧ a = a' := by
  rw [bind_eq_ok]
  constructor
  · rintro ⟨_, t, h, ha⟩
    cases ha
    exact ⟨h, rfl⟩
  · rintro ⟨h, rfl⟩
    exact ⟨(), r, h, rfl⟩

/-- The keys of members that have been read stay among the keys. -/
theorem subset_of_membersFrom_listKey {before ks : List String}
    (h : membersFrom listKey isFirst before s = .ok (ks, r)) : before ⊆ ks := by
  fun_induction membersFrom listKey isFirst before s with
  | case1 => cases h
  | case2 => cases h; exact fun _ hk => hk
  | case3 => cases h
  | case4 isFirst before s key t hk before' u hr ih =>
    obtain ⟨-, rfl⟩ := passed_eq_ok.mp hr
    exact fun k hk => ih h (List.mem_append_left _ hk)

/-- A reader of members that passes over those that it does not know ends with what it began with,
where it knows none of the keys. -/
theorem membersFrom_unknown {step : String → σ → Reader σ} {known : List String}
    (hstep : ∀ key, key ∉ known → ∀ acc, step key acc = (do unknown; return acc))
    {before ks : List String} (h : membersFrom listKey isFirst before s = .ok (ks, r))
    (hks : ∀ key ∈ ks, key ∉ known) (acc : σ) :
    membersFrom step isFirst acc s = .ok (acc, r) := by
  fun_induction membersFrom listKey isFirst before s with
  | case1 => cases h
  | case2 isFirst before s t hk => cases h; exact membersFrom_last hk acc
  | case3 => cases h
  | case4 isFirst before s key t hk before' u hr ih =>
    obtain ⟨hpassed, rfl⟩ := passed_eq_ok.mp hr
    -- keys are only added, so the key of this member is still there in the end
    have hkey : key ∈ ks := subset_of_membersFrom_listKey h (List.mem_append_right _ (.head _))
    have hrun : (step key acc).run t = .ok (acc, u) := by
      rw [hstep key (hks key hkey)]
      exact passed_eq_ok.mpr ⟨hpassed, rfl⟩
    rw [membersFrom_next hk hrun]
    exact ih h

end

end LogGate.Json.Reader
