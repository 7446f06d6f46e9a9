import LogGate.Bench.Recorder
import LogGate.Proofs.Bench.Arrangement
import LogGate.Proofs.Bench.View
import LogGate.Proofs.Record.Document
import LogGate.Proofs.Stage.Answer
import LogGate.Proofs.Threshold.Byte

/-!
# Shared thresholds

A threshold is set by some and looked at by others. A `Handle` says how somebody gets at a thing: it
is the thing itself, something shared that holds a handle, or a reference to one. Whatever is done
through a handle is done with the thing at its end (`Handle.through_eq`).

Only setting a threshold changes it. The stages that can be built on a floor (`Built`) read minima,
print, and keep an account of their calls, but every call on them leaves all thresholds as they are
(`Built.keeps`). So after any run of settings and calls a threshold is at the severity that was
stored in it last, or else at the one that it was made at (`thresholds_run`). `Floor.IsAt` says what
this means for its byte and for those who look at it, and `isAt_lastStored` puts it all together.

The acts of a run come one after the other, in whatever order their holders come to them. Looking at
a threshold leaves the floor as it is, so it does not matter who looks in between; and where a
threshold is set in the middle of a call on a gate, its minimum is read, then the threshold is set,
and then the stage behind the gate is called.
-/

namespace LogGate.Bench

/-! ## Handles -/

/-- How somebody gets at a thing. -/
inductive Handle (α : Type) where
  | own (thing : α)
  /-- Through something shared. -/
  | shared (handle : Handle α)
  | reference (handle : Handle α)
  deriving DecidableEq, Repr

namespace Handle

variable {α β : Type}

/-- The thing that a handle gets at. -/
def target : Handle α → α
  | own thing => thing
  | shared handle | reference handle => handle.target

/-- Does through a handle what is done with the thing: who holds a handle passes it on. -/
def through (f : α → β) : Handle α → β
  | own thing => f thing
  | shared handle | reference handle => handle.through f

/-- What is done through a handle is done with its thing. -/
theorem through_eq (f : α → β) (handle : Handle α) : handle.through f = f handle.target := by
  induction handle with
  | own thing => rfl
  | shared handle ih | reference handle ih => exact ih

end Handle

section
variable {ω α β : Type}

/-- Reads a severity through a handle. -/
def Handle.read (handle : Handle Floor.Source) : StateM (Floor ω) Severity :=
  handle.through Floor.Source.read

/-- Shows a threshold through a handle. -/
def Handle.name (handle : Handle Nat) : StateM (Floor ω) String :=
  handle.through fun number => return ((← get).thresholds number).name

/-- Sets a threshold through a handle. The operation calls no stage. -/
def Handle.set (severity : Severity) (handle : Handle Nat) : StateM (Floor ω) Unit :=
  handle.through fun number => (Operation.set number severity : Operation 0).perform Fin.elim0

/-- The gate that is built on a floor, in front of a stage or of nothing, with a minimum that is
read through a handle or with none. -/
def gateOn (start : Floor ω) (downstream : Option (Stage (Floor ω)))
    (minimum : Option (Handle Floor.Source)) : Gate (Floor ω) :=
  (Gate.build Floor.host downstream (minimum.map Handle.read) start).1

/-- The stages that can be built on a floor. -/
inductive Built : Stage (Floor ω) → Prop where
  | console (w : Writer ω) (name : String) (i : Nat) : Built (Floor.console w name i)
  | silent : Built .silent
  | recorder (recorder : Recorder) : Built recorder.stage
  | gate (start : Floor ω) {downstream : Option (Stage (Floor ω))}
      (h : ∀ S ∈ downstream, Built S) (minimum : Option (Handle Floor.Source)) :
      Built (gateOn start downstream minimum).stage

/-! ## Runs -/

/-- What is done on a floor: a threshold is set through a handle, or a stage is called. -/
inductive Act (ω : Type) where
  | set (handle : Handle Nat) (severity : Severity)
  | call (S : Stage (Floor ω)) (built : Built S) (request : Stage.Call)

/-- Does it, whatever a call answers. -/
def Act.perform : Act ω → StateM (Floor ω) Unit
  | set handle severity => handle.set severity
  | call S _ request => discard (request.make S)

/-- The severity that is stored in a threshold, if any is. -/
def Act.store? (number : Nat) : Act ω → Option Severity
  | set handle severity => if handle.target = number then some severity else none
  | call .. => none

/-- The severity that was stored in a threshold last, or else the one that it was made at. -/
def lastStored (number : Nat) (initial : Severity) (acts : List (Act ω)) : Severity :=
  (acts.filterMap (Act.store? number)).getLast?.getD initial

/-! ## What leaves thresholds alone -/

/-- An action leaves the thresholds of every floor as they are. -/
def Keeps (action : StateM (Floor ω) α) : Prop :=
  ∀ floor, (action floor).2.thresholds = floor.thresholds

variable {action : StateM (Floor ω) α} {S : Stage (Floor ω)} {g : Gate (Floor ω)}

/-- An action that keeps thresholds can be followed by another one. -/
theorem Keeps.bind {f : α → StateM (Floor ω) β} (h : Keeps action) (hf : ∀ a, Keeps (f a)) :
    Keeps (action >>= f) := fun floor =>
  (hf (action floor).1 (action floor).2).trans (h floor)

/-- Giving something keeps thresholds. -/
theorem keeps_pure (a : α) : Keeps (pure a : StateM (Floor ω) α) := fun _ => rfl

/-- Reading a severity keeps thresholds, also where a script goes on. -/
theorem keeps_read (handle : Handle Floor.Source) :
    Keeps (handle.read : StateM (Floor ω) Severity) := by
  intro floor
  rw [Handle.read, Handle.through_eq]
  cases handle.target <;> rfl

/-- The silent stage keeps thresholds. -/
theorem keeps_silent (call : Stage.Call) : Keeps (call.make (.silent : Stage (Floor ω))) := by
  cases call <;> exact fun _ => rfl

/-- Nothing that is done with a console has to do with thresholds. -/
theorem keeps_console (w : Writer ω) (name : String) (i : Nat) (call : Stage.Call) :
    Keeps (call.make (Floor.console w name i)) := by
  cases call with
  | emit | enabled | flush | filters => exact fun _ => rfl
  | shutdown ctx =>
    refine Keeps.bind (fun floor => ?_) fun _ => keeps_pure _
    rw [Floor.console_shutdown]
    show Floor.thresholds (ite ..) = _
    split <;> rfl

/-- A gate keeps thresholds if reading its minimum and the stage behind it do. -/
theorem keeps_gate (hminimum : Keeps g.minimum)
    (h : ∀ call : Stage.Call, Keeps (call.make g.downstream)) (call : Stage.Call) :
    Keeps (call.make g.stage) := by
  cases call with
  | emit ctx r =>
    refine Keeps.bind (hminimum.bind fun minimum => ?_) fun _ => keeps_pure _
    split
    · exact h (.emit ctx r)
    · exact keeps_pure _
  | enabled ctx q =>
    refine Keeps.bind (hminimum.bind fun minimum => ?_) fun _ => keeps_pure _
    split
    · split
      · exact h (.enabled ctx q)
      · exact keeps_pure _
    · exact keeps_pure _
  | shutdown ctx => exact h (.shutdown ctx)
  | flush ctx => exact h (.flush ctx)
  | filters => exact keeps_pure _

/-- What a gate is built of. -/
theorem gateOn_parts (start : Floor ω) (downstream : Option (Stage (Floor ω)))
    (minimum : Option (Handle Floor.Source)) :
    (gateOn start downstream minimum).downstream = downstream.getD .silent ∧
      (gateOn start downstream minimum).minimum =
        (minimum.map Handle.read).getD (pure .default) := by
  cases downstream <;> exact ⟨rfl, rfl⟩

/-- Every call on a stage that can be built leaves all thresholds as they are. -/
theorem Built.keeps (h : Built S) (call : Stage.Call) : Keeps (call.make S) := by
  induction h generalizing call with
  | console w name i => exact keeps_console w name i call
  | silent => exact keeps_silent call
  | recorder recorder => cases call <;> exact fun _ => rfl
  | @gate start downstream _ minimum ih =>
    obtain ⟨hdownstream, hminimum⟩ := gateOn_parts start downstream minimum
    refine keeps_gate ?_ ?_ call
    · rw [hminimum]
      cases minimum with
      | none => exact keeps_pure _
      | some handle => exact keeps_read handle
    · rw [hdownstream]
      cases downstream with
      | none => exact keeps_silent
      | some S => exact ih S rfl

/-! ## The severity of a threshold -/

variable {number : Nat} {floor : Floor ω} {level : Severity}

/-- What an act makes of a threshold: it is at the severity that is stored, if any is, and else as
it was. -/
theorem Act.perform_threshold (act : Act ω) (number : Nat) (floor : Floor ω) :
    (act.perform floor).2.thresholds number =
      ((act.store? number).map .ofSeverity).getD (floor.thresholds number) := by
  cases act with
  | call S built request => exact congrFun (built.keeps request floor) number
  | set handle severity =>
    rw [perform, Handle.set, Handle.through_eq, store?]
    show update floor.thresholds handle.target (.ofSeverity severity) number = _
    by_cases h : handle.target = number
    · rw [if_pos h, h, update_same]
      rfl
    · rw [if_neg h, update_of_ne _ _ (Ne.symm h)]
      rfl

/-- What a run makes of a threshold: it is at the severity that was stored last, if any was, and
else as it was. -/
theorem thresholds_run (acts : List (Act ω)) (number : Nat) (floor : Floor ω) :
    (acts.forM Act.perform floor).2.thresholds number =
      ((acts.filterMap (Act.store? number)).getLast?.map .ofSeverity).getD
        (floor.thresholds number) := by
  induction acts generalizing floor with
  | nil => rfl
  | cons act acts ih =>
    show (acts.forM Act.perform (act.perform floor).2).2.thresholds number = _
    rw [ih, act.perform_threshold]
    cases h : act.store? number with
    | none => rw [List.filterMap_cons_none h]; rfl
    | some severity =>
      rw [List.filterMap_cons_some h, List.getLast?_cons]
      cases (acts.filterMap (Act.store? number)).getLast? <;> rfl

/-- A threshold of a floor is at a severity, for all who look at it. -/
structure Floor.IsAt (floor : Floor ω) (number : Nat) (level : Severity) : Prop where
  /-- The byte is on the scale. -/
  bounds : 1 ≤ (floor.thresholds number).byte.toNat ∧ (floor.thresholds number).byte.toNat ≤ 24
  /-- The severity is found under the byte, so nothing has to stand in for it. -/
  found : Severity.ofValue? (floor.thresholds number).byte.toNat = some level
  /-- Whoever reads the threshold reads the severity. -/
  read : ∀ handle : Handle Floor.Source, handle.target = .threshold number →
    handle.read floor = (level, floor)
  /-- And so does a gate, whenever it was built and whatever it stands in front of. -/
  minimum : ∀ handle : Handle Floor.Source, handle.target = .threshold number →
    ∀ start downstream, (gateOn start downstream (some handle)).minimum floor = (level, floor)
  /-- Whoever has it shown sees the name of the severity, which stands for no other one. -/
  name : ∀ handle : Handle Nat, handle.target = number →
    handle.name floor = (level.name, floor) ∧ Severity.parse level.name = .ok level

/-- A threshold that is made or set at a severity is at it for all. -/
theorem Floor.isAt_of_eq (h : floor.thresholds number = .ofSeverity level) :
    floor.IsAt number level := by
  have hread : ∀ handle : Handle Floor.Source, handle.target = .threshold number →
      handle.read floor = (level, floor) := by
    intro handle htarget
    rw [Handle.read, Handle.through_eq, htarget]
    show ((floor.thresholds number).severity, floor) = _
    rw [h, Threshold.severity_ofSeverity]
  constructor
  case bounds => rw [h]; exact Threshold.bounds_byte level
  case found => rw [h]; exact Threshold.ofValue?_byte level
  case read => exact hread
  case minimum =>
    intro handle htarget start downstream
    rw [(gateOn_parts start downstream (some handle)).2]
    exact hread handle htarget
  case name =>
    intro handle htarget
    refine ⟨?_, level.parse_name⟩
    rw [Handle.name, Handle.through_eq, htarget]
    show ((floor.thresholds number).severity.name, floor) = _
    rw [h, Threshold.severity_ofSeverity]

/-- **Thresholds are faithful.** However a threshold is made, and whoever sets it and calls stages
afterwards, it is at the severity that was stored in it last, or else at the one that it was made
at. -/
theorem isAt_lastStored {origin : Threshold.Origin}
    (hmade : origin.make = .ok (floor.thresholds number)) (acts : List (Act ω)) :
    ∃ initial, origin.level = .ok initial ∧
      (acts.forM Act.perform floor).2.IsAt number (lastStored number initial acts) := by
  obtain ⟨initial, hlevel, hinitial⟩ := Threshold.Origin.level_of_make hmade
  refine ⟨initial, hlevel, Floor.isAt_of_eq ?_⟩
  rw [thresholds_run, hinitial, lastStored]
  exact Option.getD_map ..

end

/-- A floor with open consoles, whose thresholds have the value of `WARN2`. -/
def warnFloor : Floor Roll where
  thresholds _ := ⟨14⟩
  consoles _ := { writer := { name := "out" } }

/-- A gate in front of a console, with a minimum behind something shared that holds a reference. -/
def sharedGate : Gate (Floor Roll) :=
  gateOn warnFloor (some (Floor.console Roll.writer "out" 0))
    (some (.shared (.reference (.own (.threshold 0)))))

/-- Such a gate is one of the stages that can be built. -/
theorem built_sharedGate : Built sharedGate.stage :=
  .gate warnFloor (fun _ h => Option.mem_some.mp h ▸ .console Roll.writer "out" 0) _

/-- A threshold is set twice through different handles while a gate that reads it is called, and
then another one is set. -/
def someActs : List (Act Roll) :=
  [.call _ built_sharedGate (.emit .background ⟨.epoch, .base .error, "a", none, ∅⟩),
    .set (.shared (.own 0)) (.base .fatal),
    .call _ built_sharedGate (.enabled .background ⟨.base .error, none⟩),
    .set (.reference (.shared (.own 0))) (.base .debug), .set (.own 1) (.base .trace),
    .call _ built_sharedGate (.shutdown .background)]

/-- The threshold was read from a text, and is at what the text says until it is set. In the end it
is at what was stored second, for the gate too. -/
theorem isAt_lastStored_someActs :
    (Threshold.Origin.text " Warn+1 ").make = .ok (warnFloor.thresholds 0) ∧
      warnFloor.IsAt 0 ⟨.warn, 1⟩ ∧
      (someActs.forM Act.perform warnFloor).2.IsAt 0 (.base .debug) ∧
      sharedGate.minimum (someActs.forM Act.perform warnFloor).2 =
        (.base .debug, (someActs.forM Act.perform warnFloor).2) := by
  have hmade : (Threshold.Origin.text " Warn+1 ").make = .ok (warnFloor.thresholds 0) := by decide
  obtain ⟨initial, hinitial, hstart⟩ := isAt_lastStored hmade []
  obtain ⟨_, _, hend⟩ := isAt_lastStored hmade someActs
  have hwarn : (Threshold.Origin.text " Warn+1 ").level = .ok ⟨.warn, 1⟩ := by decide
  cases hinitial.symm.trans hwarn
  exact ⟨hmade, hstart, hend, hend.minimum _ rfl _ _⟩

end LogGate.Bench
