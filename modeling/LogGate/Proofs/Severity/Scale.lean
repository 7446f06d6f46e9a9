import LogGate.Severity.Parse
import LogGate.Threshold
import Mathlib.Order.Defs.LinearOrder

/-!
# The scale as a linear order

The values of severities run from 1 to 24, each of them belongs to one severity, and `ofValue?`
finds it (`ofValue?_eq_some_iff`). So the order by value is a linear order on severities.
-/

namespace LogGate

/-- Families have six ranks. -/
theorem Family.rank_lt (f : Family) : f.rank < 6 := by cases f <;> decide

/-- A family has the rank that it is found under. -/
theorem Family.rank_of_ofRank? {k : Nat} {f : Family} (h : ofRank? k = some f) : f.rank = k := by
  unfold ofRank? at h
  split at h <;> cases h <;> rfl

/-- There is a family under every rank below six. -/
theorem Family.exists_ofRank? {k : Nat} (h : k < 6) : ∃ f, ofRank? k = some f :=
  match k, h with
  | 0, _ => ⟨trace, rfl⟩
  | 1, _ => ⟨debug, rfl⟩
  | 2, _ => ⟨info, rfl⟩
  | 3, _ => ⟨warn, rfl⟩
  | 4, _ => ⟨error, rfl⟩
  | 5, _ => ⟨fatal, rfl⟩

namespace Severity

section
variable {a b s : Severity} {n : Int}

/-! ## Values -/

/-- The value of a base level. -/
theorem value_base (f : Family) : (base f).value = 4 * f.rank + 1 := rfl

/-- The scale starts at 1. -/
theorem one_le_value (s : Severity) : 1 ≤ s.value := by
  unfold value
  omega

/-- The scale ends at 24. -/
theorem value_le (s : Severity) : s.value ≤ 24 := by
  have hf := s.family.rank_lt
  have hs := s.step.isLt
  unfold value
  omega

/-- A severity has the value that it is found under. -/
theorem value_of_ofValue? (h : ofValue? n = some s) : (s.value : Int) = n := by
  unfold ofValue? at h
  split at h
  · rename_i hn
    obtain ⟨f, hf, rfl⟩ := Option.map_eq_some_iff.1 h
    have hr := Family.rank_of_ofRank? hf
    have hstep : (Fin.ofNat 4 (n.toNat - 1)).val = (n.toNat - 1) % 4 := rfl
    simp only [value, hr, hstep]
    omega
  · cases h

/-- A severity is found under its value and no other one. -/
theorem ofValue?_eq_some_iff : ofValue? n = some s ↔ (s.value : Int) = n := by
  constructor
  · exact value_of_ofValue?
  · rintro rfl
    exact ofValue?_value s

/-- A value belongs to one severity. -/
theorem value_injective (h : a.value = b.value) : a = b := by
  have ha := ofValue?_value a
  rw [h, ofValue?_value b] at ha
  exact (Option.some.inj ha).symm

/-- Every number from 1 to 24 is the value of a severity. -/
theorem exists_value (h1 : 1 ≤ n) (h24 : n ≤ 24) : ∃ s : Severity, (s.value : Int) = n := by
  obtain ⟨f, hf⟩ := Family.exists_ofRank? (k := (n.toNat - 1) / 4) (by omega)
  refine ⟨⟨f, Fin.ofNat 4 (n.toNat - 1)⟩, value_of_ofValue? ?_⟩
  simp only [ofValue?, if_pos h1, hf, Option.map_some]

/-- Off the scale there is no severity. -/
theorem ofValue?_eq_none (h : ¬ (1 ≤ n ∧ n ≤ 24)) : ofValue? n = none := by
  cases hs : ofValue? n with
  | none => rfl
  | some s =>
    have hv := value_of_ofValue? hs
    have h1 := s.one_le_value
    have h24 := s.value_le
    omega

/-! ## The order -/

/-- Severities are compared by value. -/
theorem lt_iff_value : a < b ↔ a.value < b.value := Iff.rfl

end

instance : LinearOrder Severity where
  le_refl a := Nat.le_refl a.value
  le_trans _ _ _ := Nat.le_trans
  lt_iff_le_not_ge _ _ := Nat.lt_iff_le_and_not_ge
  le_antisymm _ _ h h' := value_injective (Nat.le_antisymm h h')
  le_total a b := Nat.le_total a.value b.value
  toDecidableLE := inferInstance
  toDecidableLT := inferInstance
  toDecidableEq := inferInstance
  compare_eq_compareOfLessAndEq a b := by
    show compare a.value b.value = compareOfLessAndEq a b
    rw [Nat.compare_eq_ite_lt]
    unfold compareOfLessAndEq
    by_cases hlt : a.value < b.value
    · rw [if_pos hlt, if_pos (lt_iff_value.2 hlt)]
    · rw [if_neg hlt, if_neg (fun h => hlt (lt_iff_value.1 h))]
      by_cases heq : a = b
      · rw [if_pos heq, heq, if_neg (Nat.lt_irrefl _)]
      · have hne : a.value ≠ b.value := fun h => heq (value_injective h)
        rw [if_neg heq, if_pos (by omega)]

end Severity

end LogGate
