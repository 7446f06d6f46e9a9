import LogGate.Gate

/-!
# Stages behind gates

A row of gates in front of a stage acts as one gate whose minimum is reached when all of theirs are.
`admits` reads minima as the gates do, the outermost first and none behind one that is not reached,
and `behind` runs an action if they let it. `Fronts P asks minima S` says that the stage `S` is such
a row in front of `P`: it hands on records and queries behind its minima, and shutdown and flush as
they are. Every stage fronts itself (`Fronts.refl`), and a gate built in front of a row is a longer
row (`Fronts.gate`). Only the innermost gate can leave the stage behind it unasked, since all the
others stand in front of gates; `asks` says whether it does.
-/

namespace LogGate.Gate

section
variable {σ α : Type}

/-- Reads minima up to the first that a severity does not reach, and says whether there is none. -/
def admits (severity : Severity) : List (StateM σ Severity) → StateM σ Bool
  | [] => pure true
  | m :: minima => do if (← m) ≤ severity then admits severity minima else pure false

/-- Runs an action if a severity reaches all minima, and gives something else if not. -/
def behind (minima : List (StateM σ Severity)) (severity : Severity) (otherwise : α)
    (action : StateM σ α) : StateM σ α := do
  if ← admits severity minima then action else pure otherwise

/-- A stage is a row of gates in front of another one. -/
structure Fronts (P : Stage σ) (asks : Bool) (minima : List (StateM σ Severity))
    (S : Stage σ) : Prop where
  /-- Records are handed on behind the minima, and those held back count as done. -/
  emit : ∀ ctx r, S.emit ctx r = behind minima r.severity (.done, r) (P.emit ctx r)
  /-- Queries are handed on behind the minima, if the stage at the end is asked at all. -/
  enabled : ∀ ctx q, S.enabled ctx q =
    behind minima q.severity false (if asks then P.enabled ctx q else pure true)
  shutdown : ∀ ctx, S.shutdown ctx = P.shutdown ctx
  flush : ∀ ctx, S.flush ctx = P.flush ctx

variable {P S : Stage σ} {asks consults : Bool} {m : StateM σ Severity}
variable {minima : List (StateM σ Severity)} {severity : Severity} {otherwise : α}
variable {action : StateM σ α} {s t : σ}

/-! ## Running behind minima -/

/-- Nothing is held back where there are no minima. -/
@[simp] theorem behind_nil : behind [] severity otherwise action = action := by
  simp only [behind, admits, pure_bind, if_true]

/-- The first minimum is read first, and the others only if it is reached. -/
theorem behind_cons : behind (m :: minima) severity otherwise action =
    (do if (← m) ≤ severity then behind minima severity otherwise action else pure otherwise) := by
  rw [behind, admits, bind_assoc]
  refine bind_congr fun a => ?_
  split
  · rfl
  · rw [pure_bind]; rfl

/-- Where the minima are reached, the action runs in the state that reading them left. -/
theorem behind_admitted (h : admits severity minima s = (true, t)) :
    behind minima severity otherwise action s = action t := by
  show (match admits severity minima s with
    | (b, t) => (if b = true then action else pure otherwise) t) = _
  rw [h]
  rfl

/-- Where a minimum is not reached, nothing happens but that minima are read. -/
theorem behind_refused (h : (admits severity minima s).1 = false) :
    behind minima severity otherwise action s = (otherwise, (admits severity minima s).2) := by
  show (match admits severity minima s with
    | (b, t) => (if b = true then action else pure otherwise) t) = _
  generalize admits severity minima s = x at h
  obtain ⟨b, t⟩ := x
  cases h
  rfl

/-! ## Rows of gates -/

/-- A stage is a row of no gates in front of itself. -/
theorem Fronts.refl (P : Stage σ) : Fronts P true [] P where
  emit _ _ := behind_nil.symm
  enabled _ _ := behind_nil.symm
  shutdown _ := rfl
  flush _ := rfl

/-- A gate in front of a row makes it longer. A gate that does not consult what is behind it has to
be the first one of the row. -/
theorem Fronts.gate (h : Fronts P asks minima S) (hc : consults = true ∨ minima = []) :
    Fronts P (asks && consults) (m :: minima) (Gate.stage ⟨S, m, consults⟩) where
  emit ctx r := by
    rw [behind_cons, ← h.emit]
    rfl
  enabled ctx q := by
    rw [behind_cons]
    show (m >>= fun minimum => if minimum ≤ q.severity then
      (if consults then S.enabled ctx q else pure true) else pure false) = _
    refine bind_congr fun a => ?_
    split
    · cases consults with
      | true => rw [Bool.and_true, ← h.enabled]; rfl
      | false =>
        obtain rfl : minima = [] := hc.resolve_left Bool.false_ne_true
        rw [Bool.and_false, behind_nil]
        rfl
    · rfl
  shutdown := h.shutdown
  flush := h.flush

/-! ## Building -/

/-- A gate keeps what the stage behind it says about deciding on records, and without a minimum of
its own it has the default severity. -/
theorem build_some {host : Host σ} {b : Bool} {minimum : Option (StateM σ Severity)}
    (h : S.filters = pure b) :
    build host (some S) minimum = pure ⟨S, minimum.getD (pure .default), b⟩ := by
  show (S.filters >>= fun b => pure (Gate.mk S (minimum.getD (pure .default)) b)) = _
  rw [h, pure_bind]

end

end LogGate.Gate
