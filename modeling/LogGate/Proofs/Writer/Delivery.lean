import LogGate.Console
import LogGate.Proofs.Stage.Answer
import LogGate.Proofs.Text.Bytes

/-!
# What a writer is asked for

A writer can be watched: `w.watched` does what `w` does and lists every use of it, with what came of
the use. So it can be said what a writer is asked for while bytes are delivered to it. It is offered
what it has not taken yet, again and again, until it has taken all or stops (`Tries`,
`writeAll_watched`). Whatever it answers on the way, what it takes are the first of the bytes, in
order and none of them twice, and they are delivered if and only if these are all (`Delivery`).

A console delivers the line of a record and then the end of the line. The second delivery goes on
where the first ended, or does not come about (`Delivery.append`, `Delivery.stop`), so `print` is a
delivery of the line with its end (`print_watched`).
-/

namespace LogGate

namespace Writer

/-- A use of a writer, and what came of it. -/
inductive Use where
  | write (offered : List UInt8) (answer : Answer)
  | flush (trouble : Option Trouble)
  deriving DecidableEq, Repr

namespace Use

/-- The bytes that a writer has taken in a use of it. -/
def taken : Use → List UInt8
  | write offered (.took n) => offered.take n
  | write _ .interrupted | write _ (.stopped _) | flush _ => []

/-- Whether a writer was offered bytes. -/
def isWrite : Use → Bool
  | write .. => true
  | flush _ => false

/-- Whether a writer has crashed in a use of it. -/
def isCrash : Use → Bool
  | write _ (.stopped (.crashed _)) | flush (some (.crashed _)) => true
  | write _ (.took _) | write _ .interrupted | write _ (.stopped (.refused _)) => false
  | flush none | flush (some (.refused _)) => false

end Use

/-- A writer beside which its uses are listed. -/
def watched {ω : Type} (w : Writer ω) : Writer (ω × List Use) where
  write bytes s :=
    ((w.write bytes s.1).1, (w.write bytes s.1).2, s.2 ++ [.write bytes (w.write bytes s.1).1])
  flush s := ((w.flush s.1).1, (w.flush s.1).2, s.2 ++ [.flush (w.flush s.1).1])
  patience s := w.patience s.1
  patience_lt h := w.patience_lt h

/-- What a writer is used for when bytes are to be written, and what stops it if it does not take
all: after an answer it is offered what is left, after an interruption the same again. -/
inductive Tries : List UInt8 → List Use → Option Trouble → Prop where
  | all : Tries [] [] none
  | took {byte : UInt8} {rest : List UInt8} {n : Nat} {uses : List Use} {trouble : Option Trouble}
    (h : Tries (rest.drop n) uses trouble) :
    Tries (byte :: rest) (.write (byte :: rest) (.took (n + 1)) :: uses) trouble
  | interrupted {byte : UInt8} {rest : List UInt8} {uses : List Use} {trouble : Option Trouble}
    (h : Tries (byte :: rest) uses trouble) :
    Tries (byte :: rest) (.write (byte :: rest) .interrupted :: uses) trouble
  | nothing (byte : UInt8) (rest : List UInt8) :
    Tries (byte :: rest) [.write (byte :: rest) (.took 0)]
      (some (.refused "failed to write whole buffer"))
  | stopped (byte : UInt8) (rest : List UInt8) (trouble : Trouble) :
    Tries (byte :: rest) [.write (byte :: rest) (.stopped trouble)] (some trouble)

/-- After every interruption, the same bytes are offered again. -/
def Retried (uses : List Use) : Prop :=
  ∀ earlier offered later, uses = earlier ++ .write offered .interrupted :: later →
    ∃ answer rest, later = .write offered answer :: rest

/-- What came of bytes that were to be delivered to a writer, by its uses. -/
structure Delivery (bytes : List UInt8) (uses : List Use) (outcome : Outcome) : Prop where
  /-- The writer takes bytes from the front, in order and none of them twice. -/
  taken_prefix : uses.flatMap Use.taken <+: bytes
  /-- The bytes are delivered if and only if it takes all of them. -/
  done_iff : outcome = .done ↔ uses.flatMap Use.taken = bytes
  /-- It is not flushed. -/
  isWrite : ∀ use ∈ uses, use.isWrite = true
  /-- The delivery breaks off if and only if the writer crashes. -/
  isCrash : uses.any Use.isCrash = outcome.isCrash
  /-- An interruption is not the end of it. -/
  retried : Retried uses
  /-- To take nothing is an error. -/
  nothing : ∀ offered, .write offered (.took 0) ∈ uses →
    outcome = .failed (.io "failed to write whole buffer")
  /-- Any other trouble of the writer is what comes of the delivery. -/
  stopped : ∀ offered trouble, .write offered (.stopped trouble) ∈ uses →
    outcome = Console.outcome (some trouble)

section
variable {ω : Type} {bytes more : List UInt8} {uses uses' : List Use} {trouble : Option Trouble}
variable {result : Outcome} {byte : UInt8} {rest : List UInt8}

/-! ## Uses of a writer -/

/-- While bytes are to be written, a writer is used as it has to be. -/
theorem writeAll_watched (w : Writer ω) (bytes : List UInt8) (s : ω) (before : List Use) :
    ∃ uses, w.watched.writeAll bytes (s, before) =
        ((w.writeAll bytes s).1, (w.writeAll bytes s).2, before ++ uses) ∧
      Tries bytes uses (w.writeAll bytes s).1 := by
  have hwrite : ∀ bytes s before, w.watched.write bytes (s, before) =
      ((w.write bytes s).1, (w.write bytes s).2,
        before ++ [.write bytes (w.write bytes s).1]) := fun _ _ _ => rfl
  fun_induction Writer.writeAll w bytes s generalizing before with
  | case1 s => exact ⟨[], by rw [Writer.writeAll, List.append_nil], .all⟩
  | case2 s byte rest s' hw =>
    exact ⟨_, by rw [Writer.writeAll_cons, hwrite, hw], .nothing byte rest⟩
  | case3 s byte rest n s' hw ih =>
    obtain ⟨uses, hrest, htries⟩ := ih (before ++ [.write (byte :: rest) (.took (n + 1))])
    rw [List.append_assoc] at hrest
    refine ⟨_, ?_, .took htries⟩
    rw [Writer.writeAll_cons, hwrite, hw]
    exact hrest
  | case4 s byte rest s' hw ih =>
    obtain ⟨uses, hrest, htries⟩ := ih (before ++ [.write (byte :: rest) .interrupted])
    rw [List.append_assoc] at hrest
    refine ⟨_, ?_, .interrupted htries⟩
    rw [Writer.writeAll_cons, hwrite, hw]
    exact hrest
  | case5 s byte rest trouble s' hw =>
    exact ⟨_, by rw [Writer.writeAll_cons, hwrite, hw], .stopped byte rest trouble⟩

/-- Where there are bytes to be written, all of them are offered first. -/
theorem Tries.exists_cons (h : Tries (byte :: rest) uses trouble) :
    ∃ answer uses', uses = .write (byte :: rest) answer :: uses' := by
  cases h <;> exact ⟨_, _, rfl⟩

/-! ## Interruptions -/

/-- Nothing was interrupted where there are no uses. -/
theorem Retried.nil : Retried [] := fun _ _ _ h =>
  absurd h.symm (List.append_ne_nil_of_right_ne_nil _ (List.cons_ne_nil _ _))

/-- Whether interruptions are followed up is seen from one use to the next. -/
theorem retried_cons_iff {use : Use} : Retried (use :: uses) ↔
    (∀ offered, use = .write offered .interrupted →
      ∃ answer rest, uses = .write offered answer :: rest) ∧ Retried uses := by
  constructor
  · refine fun h => ⟨fun offered huse => h [] offered uses (congrArg (· :: uses) huse), ?_⟩
    exact fun earlier offered later heq => h (use :: earlier) offered later (congrArg (_ :: ·) heq)
  · rintro ⟨hfirst, hrest⟩ (_ | ⟨use', earlier⟩) offered later heq
    · obtain ⟨huse, rfl⟩ := List.cons.inj heq
      exact hfirst offered huse
    · exact hrest earlier offered later (List.cons.inj heq).2

/-- A use that is no interruption does not need to be followed up. -/
theorem Retried.cons {use : Use} (h : Retried uses)
    (huse : ∀ offered, use ≠ .write offered .interrupted) : Retried (use :: uses) :=
  retried_cons_iff.mpr ⟨fun offered heq => absurd heq (huse offered), h⟩

/-- Uses that are followed up need nothing of what comes after them. -/
theorem Retried.append (h : Retried uses) (h' : Retried uses') : Retried (uses ++ uses') := by
  induction uses with
  | nil => exact h'
  | cons use uses ih =>
    obtain ⟨hfirst, hrest⟩ := retried_cons_iff.mp h
    refine retried_cons_iff.mpr ⟨fun offered huse => ?_, ih hrest⟩
    obtain ⟨answer, rest, rfl⟩ := hfirst offered huse
    exact ⟨answer, rest ++ uses', rfl⟩

/-! ## Deliveries -/

/-- Without bytes a delivery is done. -/
theorem Delivery.nil : Delivery [] [] .done where
  taken_prefix := List.prefix_rfl
  done_iff := ⟨fun _ => rfl, fun _ => rfl⟩
  isWrite := nofun
  isCrash := rfl
  retried := .nil
  nothing := nofun
  stopped := nofun

/-- A delivery that does not come about leaves a writer unused. -/
theorem Delivery.of_failed (failure : Failure) (h : bytes ≠ []) :
    Delivery bytes [] (.failed failure) where
  taken_prefix := List.nil_prefix
  done_iff := ⟨nofun, fun heq => absurd heq.symm h⟩
  isWrite := nofun
  isCrash := rfl
  retried := .nil
  nothing := nofun
  stopped := nofun

/-- A delivery goes on with what the writer has left. -/
theorem Delivery.took {n : Nat} (h : Delivery (bytes.drop (n + 1)) uses result) :
    Delivery bytes (.write bytes (.took (n + 1)) :: uses) result where
  taken_prefix := by
    show bytes.take (n + 1) ++ uses.flatMap Use.taken <+: bytes
    have hprefix := (List.prefix_append_right_inj (bytes.take (n + 1))).mpr h.taken_prefix
    rwa [List.take_append_drop] at hprefix
  done_iff := by
    show _ ↔ bytes.take (n + 1) ++ uses.flatMap Use.taken = bytes
    rw [h.done_iff, ← List.append_right_inj (bytes.take (n + 1)), List.take_append_drop]
  isWrite := List.forall_mem_cons.mpr ⟨rfl, h.isWrite⟩
  isCrash := h.isCrash
  retried := h.retried.cons nofun
  nothing offered hmem := h.nothing offered ((List.mem_cons.mp hmem).resolve_left nofun)
  stopped offered trouble hmem :=
    h.stopped offered trouble ((List.mem_cons.mp hmem).resolve_left nofun)

/-- A delivery goes on after an interruption. -/
theorem Delivery.interrupted {answer : Answer}
    (h : Delivery bytes (.write bytes answer :: uses) result) :
    Delivery bytes (.write bytes .interrupted :: .write bytes answer :: uses) result where
  taken_prefix := h.taken_prefix
  done_iff := h.done_iff
  isWrite := List.forall_mem_cons.mpr ⟨rfl, h.isWrite⟩
  isCrash := h.isCrash
  retried := by
    refine retried_cons_iff.mpr ⟨?_, h.retried⟩
    rintro offered ⟨⟩
    exact ⟨answer, uses, rfl⟩
  nothing offered hmem := h.nothing offered ((List.mem_cons.mp hmem).resolve_left nofun)
  stopped offered trouble hmem :=
    h.stopped offered trouble ((List.mem_cons.mp hmem).resolve_left nofun)

/-- What is tried until all is taken or the writer stops is a delivery. -/
theorem Tries.delivery (h : Tries bytes uses trouble) :
    Delivery bytes uses (Console.outcome trouble) := by
  induction h with
  | all => exact .nil
  | took _ ih => exact .took ih
  | interrupted h ih =>
    obtain ⟨answer, uses', rfl⟩ := h.exists_cons
    exact .interrupted ih
  | nothing byte rest =>
    exact {
      taken_prefix := List.nil_prefix
      done_iff := ⟨nofun, nofun⟩
      isWrite := List.forall_mem_singleton.mpr rfl
      isCrash := rfl
      retried := .cons .nil nofun
      nothing := fun _ _ => rfl
      stopped := fun _ _ hmem => by cases List.mem_singleton.mp hmem }
  | stopped byte rest trouble =>
    exact {
      taken_prefix := List.nil_prefix
      done_iff := ⟨by cases trouble <;> nofun, nofun⟩
      isWrite := List.forall_mem_singleton.mpr rfl
      isCrash := by cases trouble <;> rfl
      retried := .cons .nil nofun
      nothing := fun _ hmem => by cases List.mem_singleton.mp hmem
      stopped := fun _ _ hmem => by cases List.mem_singleton.mp hmem; rfl }

/-- After a delivery that is done, another one goes on where it ended. -/
theorem Delivery.append (h : Delivery bytes uses .done) (h' : Delivery more uses' result) :
    Delivery (bytes ++ more) (uses ++ uses') result where
  taken_prefix := by
    rw [List.flatMap_append, h.done_iff.mp rfl]
    exact (List.prefix_append_right_inj bytes).mpr h'.taken_prefix
  done_iff := by rw [List.flatMap_append, h.done_iff.mp rfl, h'.done_iff, List.append_right_inj]
  isWrite := List.forall_mem_append.mpr ⟨h.isWrite, h'.isWrite⟩
  isCrash := by rw [List.any_append, h.isCrash, h'.isCrash]; rfl
  retried := h.retried.append h'.retried
  nothing offered hmem := by
    obtain hmem | hmem := List.mem_append.mp hmem
    · cases h.nothing offered hmem
    · exact h'.nothing offered hmem
  stopped offered trouble hmem := by
    obtain hmem | hmem := List.mem_append.mp hmem
    · cases trouble <;> cases h.stopped offered _ hmem
    · exact h'.stopped offered trouble hmem

/-- After a delivery that is not done, the rest is not delivered either. -/
theorem Delivery.stop (h : Delivery bytes uses result) (hresult : result ≠ .done)
    (more : List UInt8) : Delivery (bytes ++ more) uses result where
  taken_prefix := h.taken_prefix.trans (List.prefix_append bytes more)
  done_iff := by
    refine ⟨fun hdone => absurd hdone hresult, fun hall => ?_⟩
    -- the writer has taken no more than the first part, and so that part is all
    have hfirst : bytes <+: uses.flatMap Use.taken := hall ▸ List.prefix_append bytes more
    exact h.done_iff.mpr (h.taken_prefix.eq_of_length_le hfirst.length_le)
  isWrite := h.isWrite
  isCrash := h.isCrash
  retried := h.retried
  nothing := h.nothing
  stopped := h.stopped

end

end Writer

/-! ## Lines -/

namespace Console

open Writer (Use Tries Delivery)

section
variable {ω : Type}

/-- What a writer is used for when a line is printed delivers the line with its end, and all of the
line is offered first. -/
theorem print_watched (w : Writer ω) {line : String} (hline : Utf8.encode line ≠ []) (s : ω)
    (before : List Use) :
    ∃ answer uses, print w.watched line (s, before) =
        ((print w line s).1, (print w line s).2,
          before ++ .write (Utf8.encode line) answer :: uses) ∧
      Delivery (Utf8.encode (line ++ "\n")) (.write (Utf8.encode line) answer :: uses)
        (outcome (print w line s).1) := by
  obtain ⟨byte, rest, hbytes⟩ := List.exists_cons_of_ne_nil hline
  obtain ⟨first, hfirst, htries⟩ := w.writeAll_watched (Utf8.encode line) s before
  obtain ⟨answer, uses, rfl⟩ : ∃ answer uses, first = .write (Utf8.encode line) answer :: uses := by
    rw [hbytes] at htries ⊢
    exact htries.exists_cons
  have hdelivery := htries.delivery
  rw [print, print, hfirst, Utf8.encode_append]
  generalize w.writeAll (Utf8.encode line) s = x at hdelivery ⊢
  obtain ⟨_ | trouble, s'⟩ := x
  · -- the line has been taken, and its end follows
    obtain ⟨last, hlast, htries'⟩ := w.writeAll_watched (Utf8.encode "\n") s'
      (before ++ .write (Utf8.encode line) answer :: uses)
    refine ⟨answer, uses ++ last, ?_, hdelivery.append htries'.delivery⟩
    dsimp only
    rw [hlast, List.append_assoc, List.cons_append]
  · refine ⟨answer, uses, rfl, hdelivery.stop ?_ _⟩
    cases trouble <;> nofun

end

end Console

end LogGate
