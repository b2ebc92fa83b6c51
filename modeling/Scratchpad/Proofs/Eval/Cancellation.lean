import Scratchpad.Proofs.Eval.Invocation

/-! Cancellation happens on request only. The flag is set exactly if it was set before or the
observer has asked after one of the delivered lines since, and an evaluation fails as cancelled only
where the flag is set.
-/

namespace Scratchpad

variable {ω κ : Type}

-----------------------------------------------------------------------------------------
-- Requests
-----------------------------------------------------------------------------------------

/-- Whoever is told one thing after the other, the latest first, has asked to cancel at some
point.
-/
def Asked (asks : List κ → Bool) (told : List κ) : Prop :=
  ∃ latest, latest ≠ [] ∧ latest <:+ told ∧ asks latest = true

/-- Nobody asks before anything is told. -/
theorem not_asked_nil (asks : List κ → Bool) : ¬Asked asks [] := by
  rintro ⟨latest, some, told, _⟩
  exact some (List.suffix_nil.mp told)

/-- The request came now, or it came before.
Witness: the moment of the request is the whole of what was told, or an earlier part of it.
-/
theorem asked_cons {asks : List κ → Bool} {told : List κ} {next : κ}
    : Asked asks (next :: told) ↔ asks (next :: told) = true ∨ Asked asks told := by
  constructor
  · rintro ⟨latest, some, suffix, asked⟩
    rcases List.suffix_cons_iff.mp suffix with rfl | earlier
    · exact .inl asked
    · exact .inr ⟨latest, some, earlier, asked⟩
  · rintro (asked | ⟨latest, some, earlier, asked⟩)
    · exact ⟨_, List.cons_ne_nil _ _, List.suffix_refl _, asked⟩
    · exact ⟨latest, some, earlier.trans (List.suffix_cons _ _), asked⟩

/-- Requests while more is told are those of whoever is only told that; induction on it.
Witness: each further item is one more occasion to ask, on both sides of the equivalence.
-/
theorem asked_append {ι : Type} {asks : List κ → Bool} {told : List κ} (wrap : ι → κ)
    (more : List ι)
    : Asked asks (more.map wrap ++ told)
      ↔ Asked asks told ∨ Asked (fun more => asks (more.map wrap ++ told)) more := by
  induction more with
  | nil => simp [not_asked_nil]
  | cons next rest ih =>
      rw [List.map_cons, List.cons_append, asked_cons, asked_cons, ih, List.map_cons,
        List.cons_append]
      tauto

-----------------------------------------------------------------------------------------
-- Evaluations
-----------------------------------------------------------------------------------------

/-- The flag is set exactly if it was before, or the observer has asked since. -/
def Output.Heeds (m : Machine ω) (before : Bool) (output : Output) : Prop :=
  output.cancelled = true ↔ before = true ∨ Asked m.observer output.printout.lines

/-- Printing sets the flag exactly when the observer asks, by induction on what is printed.
Witness: a buffered piece of text tells nothing, and a delivered line is one more occasion to ask.
-/
theorem Machine.Prints.heeds {m : Machine ω} {before : Bool} {start output : Output}
    (prints : m.Prints start output) (heeds : start.Heeds m before)
    : output.Heeds m before := by
  induction prints with
  | none => exact heeds
  | buffer _ _ ih => exact ih
  | @deliver buffers lines cancelled _ line ih =>
      replace ih : cancelled = true ↔ before = true ∨ Asked m.observer lines := ih
      show (cancelled || m.observer (line :: lines)) = true
        ↔ before = true ∨ Asked m.observer (line :: lines)
      rw [Bool.or_eq_true, ih, asked_cons]
      tauto

/-- Stops that are no cancellation, or one on request. -/
def Stop.Requested (state : State ω) (stop : Stop) : Prop :=
  ∀ error, stop = .error error → error.cause.isCancelled = true → state.context.cancelled = true

/-- What is no cancellation needs no request. -/
theorem Stop.requested_of_not_cancelled {state : State ω} {error : EvalError}
    (other : error.cause.isCancelled = false)
    : (Stop.error error).Requested state := by
  intro same equal cancelled
  obtain rfl := Stop.error.inj equal
  rw [other] at cancelled
  simp at cancelled

/-- An ordinary cause is no cancellation. -/
theorem Cause.not_cancelled_of_ordinary {cause : Cause} (ordinary : cause.interrupts = false)
    : cause.isCancelled = false := by
  cases cause with
  | cancelled => simp [interrupts] at ordinary
  | _ => rfl

namespace Coupling

/-- Follows what holds of the output through a run that is cancelled on request only. -/
def requested (holds : Output → Prop) : Coupling ω :=
  invariant (holds ·.output) fun state stop => stop.Requested state

/-- Only a cancellation has to be requested, and the check that raises it has seen the request.
Witness: noting a span does not change the cause.
-/
theorem requested_permits : Permits fun (state : State ω) stop => stop.Requested state where
  errors := fun _ ordinary _ =>
    Stop.requested_of_not_cancelled (Cause.not_cancelled_of_ordinary ordinary)
  cancels := fun _ requested _ _ _ => requested
  spans := fun span state stop start error same cancelled => by
    cases stop with
    | error inner =>
        obtain rfl := Stop.error.inj same
        rw [EvalError.cause_withSpan] at cancelled
        exact start inner rfl cancelled
    | danglingNode => cases same
    | outOfFuel => cases same
  leaves := fun _ _ _ start => start

variable {m : Machine ω} {holds : Output → Prop}

/-- Invoking a lambda is cancelled on request only, if its body is. -/
theorem requested_invoke {again : Job → Eval ω Value}
    (jobs : ∀ job, (requested holds).Couples (again job) (again job)) (closure : Closure)
    (args : List Value)
    : (requested holds).Couples (m.invoke again closure args) (m.invoke again closure args) := by
  refine invariant_invoke m requested_permits args fun start _ _ _ => ?_
  exact ⟨(holds ·.output), start, jobs _, fun _ later => later⟩

/-- All effects of statements keep what printing keeps, and none cancels on its own. -/
theorem requested_effects
    (printed : ∀ {start output}, m.Prints start output → holds start → holds output)
    : (requested holds : Coupling ω).StatementEffects m m := by
  have kept : StatementInvariant m (holds ·.output) :=
    {
      hosted := fun start _ prints _ => printed prints start
      assign := fun start _ _ => start
      define := fun start _ _ => start
      withBreak := fun start _ => start
    }
  exact kept.effects requested_permits fun _ _ => Stop.requested_of_not_cancelled rfl

/-- Every job is cancelled on request only, by induction on the fuel.
Witness: with less fuel the jobs inside are cancelled on request only, and no effect adds a
cancellation.
-/
theorem requested_run
    (printed : ∀ {start output}, m.Prints start output → holds start → holds output)
    (fuel : Nat) (job : Job)
    : (requested holds).Couples (m.run fuel job) (m.run fuel job) := by
  induction fuel generalizing job with
  | zero => exact .throw fun _ _ => nofun
  | succ fuel ih =>
      refine (requested_effects printed).perform (fun _ _ => nofun) ih (requested_invoke ih)
        (fun _ _ _ type? => ?_) job
      exact invariant_createLambda m requested_permits type? fun start _ _ => start

/-- Every job is cancelled exactly as the observer has asked for it. -/
theorem heedful_run (m : Machine ω) (before : Bool) (fuel : Nat) (job : Job)
    : (requested (·.Heeds m before)).Couples (m.run fuel job) (m.run fuel job) :=
  requested_run (fun prints => prints.heeds) fuel job

end Coupling

end Scratchpad
