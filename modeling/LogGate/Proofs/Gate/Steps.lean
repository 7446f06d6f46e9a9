import LogGate.Gate

/-!
# What a call on a gate does

A gate reads its minimum, and the severity that it is shown either reaches that or not. If so, the
call goes on behind the gate in the state that the reading left; if not, the reading is all that
happens.
-/

namespace LogGate.Gate

section
variable {σ : Type} {g : Gate σ} {minimum : Severity} {s t : σ}
variable {ctx : Context} {r : Record} {q : Query}

/-- A record that reaches the minimum is handed on. -/
theorem emit_reached (hread : g.minimum s = (minimum, t)) (h : minimum ≤ r.severity) :
    g.stage.emit ctx r s = g.downstream.emit ctx r t := by
  show (match g.minimum s with
    | (m, t) => (if m ≤ r.severity then g.downstream.emit ctx r else pure (.done, r)) t) = _
  rw [hread]
  dsimp only
  rw [if_pos h]

/-- Any other record is dropped, and that counts as done. -/
theorem emit_unreached (hread : g.minimum s = (minimum, t)) (h : ¬ minimum ≤ r.severity) :
    g.stage.emit ctx r s = ((.done, r), t) := by
  show (match g.minimum s with
    | (m, t) => (if m ≤ r.severity then g.downstream.emit ctx r else pure (.done, r)) t) = _
  rw [hread]
  dsimp only
  rw [if_neg h]
  rfl

/-- A query that reaches the minimum is handed on, or answered if the gate consults nobody. -/
theorem enabled_reached (hread : g.minimum s = (minimum, t)) (h : minimum ≤ q.severity) :
    g.stage.enabled ctx q s =
      (if g.consults then g.downstream.enabled ctx q else pure true : StateM σ Bool) t := by
  show (match g.minimum s with
    | (m, t) => (if m ≤ q.severity then
        if g.consults then g.downstream.enabled ctx q else pure true
      else pure false : StateM σ Bool) t) = _
  rw [hread]
  dsimp only
  rw [if_pos h]

/-- Any other query is denied. -/
theorem enabled_unreached (hread : g.minimum s = (minimum, t)) (h : ¬ minimum ≤ q.severity) :
    g.stage.enabled ctx q s = (false, t) := by
  show (match g.minimum s with
    | (m, t) => (if m ≤ q.severity then
        if g.consults then g.downstream.enabled ctx q else pure true
      else pure false : StateM σ Bool) t) = _
  rw [hread]
  dsimp only
  rw [if_neg h]
  rfl

end

end LogGate.Gate
