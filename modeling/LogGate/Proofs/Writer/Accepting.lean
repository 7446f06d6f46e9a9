import LogGate.Proofs.Console.Steps
import LogGate.Proofs.Text.Bytes

/-!
# Writers that accept everything

A writer accepts everything if it never refuses and never crashes: offered bytes, it takes one at
least or asks to be offered them again (`Writer.Accepts`). It may take them in pieces and be
interrupted, and its flushes may fail. What it has taken is a view of its state, and there may be
states of it, never reached from good ones, in which it does otherwise. Such a writer takes all that
it is offered, in order (`Accepts.writeAll`), so a console in front of it prints every line whole as
long as it is open, and is never broken.
-/

namespace LogGate

/-- In a good state, a writer takes in the end whatever it is offered, and stays in good states.
What it has taken is `text` of its state. -/
structure Writer.Accepts {ω : Type} (w : Writer ω) (good : ω → Prop) (text : ω → List UInt8) :
    Prop where
  /-- Offered bytes, it takes some from the front, or none for now. -/
  write : ∀ byte rest s, good s → good (w.write (byte :: rest) s).2 ∧
    ((∃ n, (w.write (byte :: rest) s).1 = .took (n + 1) ∧
      text (w.write (byte :: rest) s).2 = text s ++ byte :: rest.take n) ∨
    ((w.write (byte :: rest) s).1 = .interrupted ∧ text (w.write (byte :: rest) s).2 = text s))
  /-- Flushing does not change what it has taken, whether it succeeds or not. -/
  flush : ∀ s, good s → good (w.flush s).2 ∧ text (w.flush s).2 = text s
  /-- Flushing does not crash. -/
  sound : ∀ s message, good s → (w.flush s).1 ≠ some (.crashed message)

section
variable {ω : Type} {w : Writer ω} {good : ω → Prop} {text : ω → List UInt8}

/-- All bytes that are offered are taken, in order. -/
theorem Writer.Accepts.writeAll (h : w.Accepts good text) (bytes : List UInt8) (s : ω)
    (hs : good s) :
    good (w.writeAll bytes s).2 ∧ (w.writeAll bytes s).1 = none ∧
      text (w.writeAll bytes s).2 = text s ++ bytes := by
  fun_induction Writer.writeAll w bytes s with
  | case1 s => exact ⟨hs, rfl, (List.append_nil _).symm⟩
  | case2 s byte rest s' hw =>
    -- taking nothing is no answer of this writer
    have hwrite := (h.write byte rest s hs).2
    rw [hw] at hwrite
    rcases hwrite with ⟨n, hn, -⟩ | ⟨hn, -⟩ <;> cases hn
  | case3 s byte rest n s' hw ih =>
    obtain ⟨hgood, hwrite⟩ := h.write byte rest s hs
    rw [hw] at hgood hwrite
    rcases hwrite with ⟨k, hk, htext⟩ | ⟨hn, -⟩
    · cases hk
      obtain ⟨hgood', hdone, htext'⟩ := ih hgood
      refine ⟨hgood', hdone, ?_⟩
      rw [htext', htext, List.append_assoc, List.cons_append, List.take_append_drop]
    · cases hn
  | case4 s byte rest s' hw ih =>
    obtain ⟨hgood, hwrite⟩ := h.write byte rest s hs
    rw [hw] at hgood hwrite
    rcases hwrite with ⟨k, hk, -⟩ | ⟨-, htext⟩
    · cases hk
    · obtain ⟨hgood', hdone, htext'⟩ := ih hgood
      exact ⟨hgood', hdone, by rw [htext', htext]⟩
  | case5 s byte rest trouble s' hw =>
    have hwrite := (h.write byte rest s hs).2
    rw [hw] at hwrite
    rcases hwrite with ⟨n, hn, -⟩ | ⟨hn, -⟩ <;> cases hn

namespace Console

variable {c : Console ω}

/-- A console is as good as its writer as long as that has not crashed. -/
def IsGood (good : ω → Prop) (c : Console ω) : Prop := good c.writer ∧ c.broken = false

/-- A line is taken with its end. -/
theorem print_accepting (h : w.Accepts good text) (line : String) (s : ω) (hs : good s) :
    good (print w line s).2 ∧ (print w line s).1 = none ∧
      text (print w line s).2 = text s ++ Utf8.encode (line ++ "\n") := by
  obtain ⟨hgood, hdone, htext⟩ := h.writeAll (Utf8.encode line) s hs
  obtain ⟨hgood', hdone', htext'⟩ := h.writeAll (Utf8.encode "\n") _ hgood
  have hprint : print w line s =
      w.writeAll (Utf8.encode "\n") (w.writeAll (Utf8.encode line) s).2 := by
    rw [print]
    generalize w.writeAll (Utf8.encode line) s = x at hdone
    obtain ⟨trouble, s'⟩ := x
    cases hdone
    rfl
  rw [hprint]
  exact ⟨hgood', hdone', by rw [htext', htext, Utf8.encode_append, List.append_assoc]⟩

/-- An open console prints the line of a record, and a closed one prints nothing. -/
theorem emit_accepting (h : w.Accepts good text) (hc : c.IsGood good) (r : Record) :
    (emit w r c).2.IsGood good ∧ (emit w r c).2.closed = c.closed ∧
      text (emit w r c).2.writer =
        text c.writer ++ if c.closed then [] else Utf8.encode (r.line ++ "\n") := by
  obtain ⟨hw, hb⟩ := hc
  cases hclosed : c.closed with
  | true =>
    rw [emit_of_closed hclosed]
    exact ⟨⟨hw, hb⟩, hclosed, (List.append_nil _).symm⟩
  | false =>
    obtain ⟨hgood, hdone, htext⟩ := print_accepting h r.line c.writer hw
    have hprint : print w r.line c.writer = (none, (print w r.line c.writer).2) :=
      Prod.ext hdone rfl
    rw [emit_of_open hclosed, use_of_sound hb hprint]
    exact ⟨⟨hgood, rfl⟩, hclosed, htext⟩

/-- An open console is done with a record, and a closed one refuses it. -/
theorem emit_accepting_answer (h : w.Accepts good text) (hc : c.IsGood good) (r : Record) :
    (emit w r c).1 = if c.closed then .failed .closed else .done := by
  cases hclosed : c.closed with
  | true => rw [emit_of_closed hclosed, if_pos rfl]
  | false =>
    obtain ⟨-, hdone, -⟩ := print_accepting h r.line c.writer hc.1
    have hprint : print w r.line c.writer = (none, (print w r.line c.writer).2) :=
      Prod.ext hdone rfl
    rw [emit_of_open hclosed, use_of_sound hc.2 hprint]
    rfl

/-- Flushing neither prints nor closes. -/
theorem flush_accepting (h : w.Accepts good text) (hc : c.IsGood good) (expired : Bool) :
    (flush w expired c).2.IsGood good ∧ (flush w expired c).2.closed = c.closed ∧
      text (flush w expired c).2.writer = text c.writer := by
  obtain ⟨hw, hb⟩ := hc
  cases expired with
  | true =>
    rw [flush_expired]
    exact ⟨⟨hw, hb⟩, rfl, rfl⟩
  | false =>
    obtain ⟨hgood, htext⟩ := h.flush _ hw
    rw [flush_live, use_of_sound hb (Prod.eta (w.flush c.writer)).symm]
    exact ⟨⟨hgood, isCrash_outcome fun message => h.sound _ message hw⟩, rfl, htext⟩

/-- Shutting down closes the console unless the context has expired, and prints nothing. -/
theorem shutdown_accepting (h : w.Accepts good text) (hc : c.IsGood good) (expired : Bool) :
    (shutdown w expired c).2.IsGood good ∧
      (shutdown w expired c).2.closed = (c.closed || !expired) ∧
      text (shutdown w expired c).2.writer = text c.writer := by
  obtain ⟨hw, hb⟩ := hc
  cases expired with
  | true =>
    rw [shutdown_expired]
    exact ⟨⟨hw, hb⟩, (Bool.or_false _).symm, rfl⟩
  | false =>
    rw [Bool.not_false, Bool.or_true]
    cases hclosed : c.closed with
    | true =>
      rw [shutdown_of_closed hclosed]
      exact ⟨⟨hw, hb⟩, hclosed, rfl⟩
    | false =>
      obtain ⟨hgood, htext⟩ := h.flush _ hw
      have hb' : ({ c with closed := true } : Console ω).broken = false := hb
      rw [shutdown_of_open hclosed, use_of_sound hb' (Prod.eta _).symm]
      exact ⟨⟨hgood, isCrash_outcome fun message => h.sound _ message hw⟩, rfl, htext⟩

end Console

end

end LogGate
