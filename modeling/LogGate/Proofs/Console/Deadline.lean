import LogGate.Bench.Roll
import LogGate.Proofs.Console.Lifecycle

/-!
# Deadlines

A context is made by settings, each at a moment of its own. A setting leads off the clock or gives
the context a deadline, whatever it had before (`apply_of_leadsOff`, `apply_of_fits`). So there is
no context if any of the settings leads off the clock, also one that a later setting would replace,
and otherwise the last setting alone decides (`foldlM_apply_of_leadsOff`, `foldlM_apply_of_fits`).

A deadline that is over stays over (`isExpired_of_le`). Shutting a console down and flushing it look
at the deadline before anything else, and nothing else makes them answer that it is over
(`shutdown_late_iff`, `flush_late_iff`). So from the moment on at which one console has refused a
context every console refuses it, in whatever state it is (`refuses_of_isExpired`) and among
whichever visits (`makeAll_refused`).
-/

namespace LogGate

namespace Context

/-- The deadline that a setting gives, made at a moment. -/
def Setting.due (now : Moment) : Setting → Moment
  | .timeout duration => now + duration
  | .deadline moment => moment

/-- A setting made at a moment leads off the clock: it is a timeout, and the whole seconds from the
start of the clock to its end do not fit a signed 64-bit word. -/
def Setting.LeadsOff (now : Moment) : Setting → Prop
  | .timeout duration => 9_223_372_036_854_775_808 ≤ (now + duration) / 1_000_000_000
  | .deadline _ => False

instance (now : Moment) : (setting : Setting) → Decidable (setting.LeadsOff now)
  | .timeout duration => inferInstanceAs
    (Decidable (9_223_372_036_854_775_808 ≤ (now + duration) / 1_000_000_000))
  | .deadline _ => inferInstanceAs (Decidable False)

section
variable {ctx : Context} {now later : Moment} {setting : Setting}
variable {settings : List (Moment × Setting)}

/-! ## Settings -/

/-- What leads off the clock makes no context. -/
theorem apply_of_leadsOff (h : setting.LeadsOff now) :
    ctx.apply now setting = .error .overflow := by
  cases setting with
  | deadline moment => exact absurd h not_false
  | timeout duration =>
    have hpast : ¬ now + duration < Moment.limit :=
      Nat.not_lt.2 ((Nat.le_div_iff_mul_le (by decide)).1 h)
    exact if_neg hpast

/-- Any other setting gives a context its deadline. -/
theorem apply_of_fits (h : ¬ setting.LeadsOff now) :
    ctx.apply now setting = .ok ⟨some (setting.due now)⟩ := by
  cases setting with
  | deadline moment => rfl
  | timeout duration =>
    have hfits : now + duration < Moment.limit := Nat.lt_of_not_le fun hlimit =>
      h ((Nat.le_div_iff_mul_le (by decide)).2 hlimit)
    exact if_pos hfits

/-- One setting that leads off the clock is enough, wherever it is among the others. -/
theorem foldlM_apply_of_leadsOff (h : ∃ s ∈ settings, s.2.LeadsOff s.1) (ctx : Context) :
    settings.foldlM (fun ctx s => ctx.apply s.1 s.2) ctx = .error .overflow := by
  induction settings generalizing ctx with
  | nil =>
    obtain ⟨s, hs, -⟩ := h
    cases hs
  | cons s settings ih =>
    rw [List.foldlM_cons]
    by_cases hs : s.2.LeadsOff s.1
    · rw [apply_of_leadsOff hs]
      rfl
    · obtain ⟨s', hs', hoff⟩ := h
      rcases List.mem_cons.1 hs' with rfl | hs'
      · exact absurd hoff hs
      · rw [apply_of_fits hs]
        exact ih ⟨s', hs', hoff⟩ _

/-- Of settings that all fit the clock, the last one gives the deadline. -/
theorem foldlM_apply_of_fits (h : ∀ s ∈ settings, ¬ s.2.LeadsOff s.1) (ctx : Context) :
    settings.foldlM (fun ctx s => ctx.apply s.1 s.2) ctx =
      .ok ⟨(settings.getLast?.map fun s => s.2.due s.1).or ctx.deadline⟩ := by
  induction settings generalizing ctx with
  | nil => rfl
  | cons s settings ih =>
    obtain ⟨hs, hrest⟩ := List.forall_mem_cons.1 h
    rw [List.foldlM_cons, apply_of_fits hs]
    refine (ih hrest _).trans ?_
    rw [List.getLast?_cons]
    cases settings.getLast? <;> rfl

/-- A context is made of settings that all fit the clock, and has the deadline of the last. -/
theorem build_of_fits (h : ∀ s ∈ settings, ¬ s.2.LeadsOff s.1) :
    build settings = .ok ⟨settings.getLast?.map fun s => s.2.due s.1⟩ := by
  rw [build, foldlM_apply_of_fits h]
  exact congrArg (fun deadline => Except.ok (Context.mk deadline)) Option.or_none

/-- There is no context if any of its settings leads off the clock, and only then. -/
theorem build_eq_error_iff :
    build settings = .error .overflow ↔ ∃ s ∈ settings, s.2.LeadsOff s.1 := by
  constructor
  · intro h
    refine Decidable.byContradiction fun hnone => ?_
    rw [build_of_fits fun s hs hoff => hnone ⟨s, hs, hoff⟩] at h
    cases h
  · exact fun h => foldlM_apply_of_leadsOff h background

/-- A context that is made has the deadline of its last setting. -/
theorem deadline_of_build (h : build settings = .ok ctx) :
    ctx.deadline = settings.getLast?.map fun s => s.2.due s.1 := by
  have hfits : ∀ s ∈ settings, ¬ s.2.LeadsOff s.1 := by
    intro s hs hoff
    rw [build_eq_error_iff.2 ⟨s, hs, hoff⟩] at h
    cases h
  rw [build_of_fits hfits] at h
  cases h
  rfl

/-! ## Time that passes -/

/-- A context has expired from the moment of its deadline on. -/
theorem isExpired_iff :
    ctx.isExpired now = true ↔ ∃ deadline ≤ now, ctx.deadline = some deadline := by
  rw [isExpired]
  cases ctx.deadline with
  | none => simp
  | some deadline => simp

/-- A context that has expired stays so. -/
theorem isExpired_of_le (hle : now ≤ later) (h : ctx.isExpired now = true) :
    ctx.isExpired later = true := by
  obtain ⟨deadline, hdeadline, heq⟩ := isExpired_iff.1 h
  exact isExpired_iff.2 ⟨deadline, Nat.le_trans hdeadline hle, heq⟩

/-- A context whose last setting is due at the moment at which it is made has expired at once. -/
theorem isExpired_of_build (hdue : setting.due now ≤ now) (hle : now ≤ later)
    (h : build (settings ++ [(now, setting)]) = .ok ctx) : ctx.isExpired later = true := by
  have hdeadline := deadline_of_build h
  rw [List.getLast?_concat] at hdeadline
  exact isExpired_iff.2 ⟨setting.due now, Nat.le_trans hdue hle, hdeadline⟩

end

end Context

namespace Console

/-- From a moment on, every console refuses to be shut down and to be flushed in a context, and
nothing else comes of it, whatever state the console is part of. -/
def Refuses (ctx : Context) (since : Moment) : Prop :=
  ∀ {σ ω : Type} (host : Host σ) (w : Writer ω) (slot : Slot σ (Console ω)) (s : σ),
    since ≤ host.now s →
      (stage host w slot).shutdown ctx s = (.failed .deadlineExceeded, s) ∧
        (stage host w slot).flush ctx s = (.failed .deadlineExceeded, s)

section
variable {σ ω : Type} {host : Host σ} {w : Writer ω} {slot : Slot σ (Console ω)} {s : σ}
variable {ctx : Context} {since : Moment} {c : Console ω} {expired : Bool}

/-! ## Refusals -/

/-- The writer is no reason to answer that a deadline is over. -/
theorem use_ne_late (action : ω → Option Trouble × ω) (c : Console ω) :
    (use action c).1 ≠ .failed .deadlineExceeded := by
  intro h
  cases hc : c.broken with
  | true =>
    rw [use_of_broken action hc] at h
    cases h
  | false =>
    rw [use_of_sound hc (Prod.eta (action c.writer)).symm] at h
    rcases htrouble : (action c.writer).1 with _ | ⟨reason⟩ | ⟨message⟩ <;>
      (rw [htrouble] at h; cases h)

/-- A shutdown answers that the deadline is over if it is, and only then. -/
theorem shutdown_late_iff : (shutdown w expired c).1 = .failed .deadlineExceeded ↔
    expired = true := by
  cases expired with
  | true => exact iff_of_true rfl rfl
  | false =>
    refine iff_of_false (fun h => ?_) nofun
    cases hc : c.closed with
    | true =>
      rw [shutdown_of_closed hc] at h
      cases h
    | false =>
      rw [shutdown_of_open hc] at h
      exact use_ne_late _ _ h

/-- And so does a flush. -/
theorem flush_late_iff : (flush w expired c).1 = .failed .deadlineExceeded ↔ expired = true := by
  cases expired with
  | true => exact iff_of_true rfl rfl
  | false => exact iff_of_false (use_ne_late w.flush c) nofun

/-- Only a context that has expired is refused for its deadline. -/
theorem isExpired_of_refused
    (h : ((stage host w slot).shutdown ctx s).1 = .failed .deadlineExceeded ∨
      ((stage host w slot).flush ctx s).1 = .failed .deadlineExceeded) :
    ctx.isExpired (host.now s) = true := by
  rcases h with h | h
  · rw [stage_shutdown] at h
    exact shutdown_late_iff.1 h
  · exact flush_late_iff.1 h

/-- A context that has expired is refused by every console from then on. -/
theorem refuses_of_isExpired (h : ctx.isExpired since = true) : Refuses ctx since := by
  intro σ ω host w slot s hle
  have hlate := Context.isExpired_of_le hle h
  constructor
  · rw [stage_shutdown, hlate, Bool.true_or, if_pos rfl]
    exact congrArg (Prod.mk _) (slot.set_get s)
  · show slot.run (flush w (ctx.isExpired (host.now s))) s = _
    rw [hlate]
    exact congrArg (Prod.mk _) (slot.set_get s)

/-- And so it is in visits from then on, whichever other visits there are between them. -/
theorem makeAll_refused (w : Writer ω) {visits : List Visit} (h : ctx.isExpired since = true)
    (hlater : ∀ v ∈ visits, since ≤ v.now) (desk : Desk ω) :
    ∀ p ∈ visits.zip (Visit.makeAll w visits desk).1,
      p.1.call = .shutdown ctx ∨ p.1.call = .flush ctx →
        p.2 = .called (.failed .deadlineExceeded) := by
  induction visits generalizing desk with
  | nil => exact fun p hp => absurd hp List.not_mem_nil
  | cons v visits ih =>
    obtain ⟨hv, hrest⟩ := List.forall_mem_cons.1 hlater
    refine List.forall_mem_cons.2 ⟨?_, ih hrest (v.make w desk).2⟩
    have hrefuses := refuses_of_isExpired h (Desk.host v.now) w Desk.slot desk hv
    obtain ⟨now, call⟩ := v
    rintro (rfl | rfl)
    · exact congrArg (fun answer => Stage.Answer.called answer.1) hrefuses.1
    · exact congrArg (fun answer => Stage.Answer.called answer.1) hrefuses.2

end

/-! ## The law -/

/-- **Deadlines.** Settings make a context unless one of them leads off the clock, and its deadline
is that of the last; without any it never expires. A context that has expired stays so. One that a
console has refused for its deadline is therefore refused by all consoles from then on, whatever
else is called for. And a context has expired at once if its last setting is a timeout of zero or
the moment at which it is made. -/
theorem deadline_law :
    (∀ settings, Context.build settings = .error .overflow ↔
      ∃ s ∈ settings, s.2.LeadsOff s.1) ∧
    (∀ settings, (∀ s ∈ settings, ¬ s.2.LeadsOff s.1) →
      Context.build settings = .ok ⟨settings.getLast?.map fun s => s.2.due s.1⟩) ∧
    (∀ now, Context.build [] = .ok .background ∧ Context.background.isExpired now = false) ∧
    (∀ (ctx : Context) now later, now ≤ later → ctx.isExpired now = true →
      ctx.isExpired later = true) ∧
    (∀ {σ ω : Type} (host : Host σ) (w : Writer ω) (slot : Slot σ (Console ω)) (s : σ) ctx,
      ((stage host w slot).shutdown ctx s).1 = .failed .deadlineExceeded ∨
        ((stage host w slot).flush ctx s).1 = .failed .deadlineExceeded →
      Refuses ctx (host.now s) ∧
        ∀ {ω' : Type} (w' : Writer ω') (visits : List Visit) (desk : Desk ω'),
          (∀ v ∈ visits, host.now s ≤ v.now) → ∀ p ∈ visits.zip (Visit.makeAll w' visits desk).1,
            p.1.call = .shutdown ctx ∨ p.1.call = .flush ctx →
              p.2 = .called (.failed .deadlineExceeded)) ∧
    ∀ settings now later ctx, now ≤ later →
      Context.build (settings ++ [(now, .timeout 0)]) = .ok ctx ∨
        Context.build (settings ++ [(now, .deadline now)]) = .ok ctx →
      ctx.isExpired later = true := by
  refine ⟨fun _ => Context.build_eq_error_iff, fun _ => Context.build_of_fits,
    fun _ => ⟨rfl, rfl⟩, fun _ _ _ => Context.isExpired_of_le, ?_, ?_⟩
  · intro σ ω host w slot s ctx h
    have hexpired := isExpired_of_refused h
    exact ⟨refuses_of_isExpired hexpired, fun w' _ desk hlater =>
      makeAll_refused w' hexpired hlater desk⟩
  · rintro settings now later ctx hle (h | h)
    · exact Context.isExpired_of_build (Nat.le_refl now) hle h
    · exact Context.isExpired_of_build (Nat.le_refl now) hle h

/-- A timeout of zero replaces one of a minute. It has expired when a console looks at it, which is
then not the only one to refuse it. -/
theorem deadline_law_zeroTimeout :
    let desk : Desk Bench.Roll := { console := { writer := { name := "out" } } }
    Context.build [(5, .timeout 60), (8, .timeout 0)] = .ok ⟨some 8⟩ ∧
    (Context.mk (some 8)).isExpired 9 = true ∧
    ((Desk.stage Bench.Roll.writer 9).shutdown ⟨some 8⟩ desk).1 = .failed .deadlineExceeded ∧
    Refuses ⟨some 8⟩ 9 ∧ (Context.mk (some 8)).isExpired 10 = true := by
  intro desk
  obtain ⟨-, hbuild, -, hstays, hrefuses, hzero⟩ := deadline_law
  have hctx := hbuild [(5, .timeout 60), (8, .timeout 0)] (by decide)
  have hexpired := hzero [(5, .timeout 60)] 8 9 ⟨some 8⟩ (by decide) (.inl hctx)
  have hrefused := hrefuses (Desk.host 9) Bench.Roll.writer Desk.slot desk ⟨some 8⟩ (.inl rfl)
  exact ⟨hctx, hexpired, rfl, hrefused.1, hstays _ 9 10 (by decide) hexpired⟩

end Console

end LogGate
