import Fieldwise.Log

/-!
# What actions that log come to

No action of the library looks at what has been logged before it. `Logging.Yields` says so of one
action and one value: from any log, the action yields that value and leaves the log as it was but for
records at its end. The rules below follow the ways in which actions are put together, so that what an
action yields can be read off its parts.
-/

namespace Fieldwise

/-! ### Actions that log -/

namespace Logging

variable {α β : Type} {action : Logging α} {x : α}

/-- Whatever has been logged before, the action yields `x` and only adds to the log. -/
def Yields (action : Logging α) (x : α) : Prop :=
  ∃ entries : Log, ∀ before : Log, StateT.run action before = (x, before ++ entries)

theorem Yields.pure (x : α) : (Pure.pure x : Logging α).Yields x :=
  ⟨[], fun before => by rw [StateT.run_pure, List.append_nil]; rfl⟩

theorem Yields.bind {next : α → Logging β} {y : β} (h : action.Yields x) (h' : (next x).Yields y) :
    (action >>= next).Yields y := by
  obtain ⟨entries, h⟩ := h
  obtain ⟨entries', h'⟩ := h'
  refine ⟨entries ++ entries', fun before => ?_⟩
  rw [StateT.run_bind, h before]
  show StateT.run (next x) (before ++ entries) = _
  rw [h', List.append_assoc]

theorem Yields.map (f : α → β) (h : action.Yields x) : (f <$> action).Yields (f x) := by
  rw [map_eq_pure_bind]
  exact h.bind (Yields.pure (f x))

theorem Yields.log (level : LogLevel) (target message : String) :
    (Fieldwise.log level target message : Logging Unit).Yields () := ⟨[_], fun _ => rfl⟩

/-- An action yields one value only. -/
theorem Yields.unique {y : α} (h : action.Yields x) (h' : action.Yields y) : x = y := by
  obtain ⟨entries, h⟩ := h
  obtain ⟨entries', h'⟩ := h'
  exact (Prod.mk.inj ((h []).symm.trans (h' []))).1

/-- From an empty log, too, the action yields what it yields from any. -/
theorem Yields.run' (h : action.Yields x) : action.run'.1 = x := by
  obtain ⟨entries, h⟩ := h
  rw [Logging.run', h []]

end Logging

/-! ### Attempts -/

namespace Attempt

variable {ε ε' α β : Type} {attempt : Attempt ε α} {result : Except ε α}

/-- Whatever has been logged before, the attempt comes to the result. -/
def Yields (attempt : Attempt ε α) (result : Except ε α) : Prop :=
  Logging.Yields (ExceptT.run attempt) result

/-- From any log, the attempt comes to the result and adds these records. -/
def Logs (attempt : Attempt ε α) (result : Except ε α) (entries : Log) : Prop :=
  ∀ before : Log, StateT.run (ExceptT.run attempt) before = (result, before ++ entries)

theorem Logs.yields {entries : Log} (h : attempt.Logs result entries) : attempt.Yields result :=
  ⟨entries, h⟩

theorem Yields.pure (x : α) : (Pure.pure x : Attempt ε α).Yields (.ok x) := Logging.Yields.pure _

/-- An attempt that logs nothing yields what it comes to. -/
theorem Yields.of_run (h : ∀ before, StateT.run (ExceptT.run attempt) before = (result, before)) :
    attempt.Yields result := ⟨[], fun before => by rw [h, List.append_nil]⟩

theorem Yields.throw (e : ε) : (MonadExcept.throw e : Attempt ε α).Yields (.error e) :=
  Logging.Yields.pure _

theorem Yields.ofExcept (result : Except ε α) : (Attempt.ofExcept result).Yields result :=
  Logging.Yields.pure _

theorem Yields.log (level : LogLevel) (target message : String) :
    (Fieldwise.log level target message : Attempt ε Unit).Yields (.ok ()) := ⟨[_], fun _ => rfl⟩

theorem Yields.bind_ok {next : α → Attempt ε β} {x : α} {r : Except ε β}
    (h : attempt.Yields (.ok x)) (h' : (next x).Yields r) : (attempt >>= next).Yields r := by
  show Logging.Yields (ExceptT.run attempt >>= ExceptT.bindCont next) r
  exact Logging.Yields.bind h h'

theorem Yields.bind_error {next : α → Attempt ε β} {e : ε} (h : attempt.Yields (.error e)) :
    (attempt >>= next).Yields (.error e) := by
  show Logging.Yields (ExceptT.run attempt >>= ExceptT.bindCont next) (.error e)
  exact Logging.Yields.bind h (Logging.Yields.pure _)

theorem Yields.map (f : α → β) (h : attempt.Yields result) :
    (f <$> attempt).Yields (result.map f) := by
  cases result with
  | ok x => exact Yields.bind_ok h (Yields.pure (f x))
  | error e => exact Yields.bind_error h

theorem Yields.mapError (f : ε → ε') (h : attempt.Yields result) :
    (attempt.mapError f).Yields (result.mapError f) := Logging.Yields.map _ h

/-- An attempt comes to one result only. -/
theorem Yields.unique {result' : Except ε α} (h : attempt.Yields result)
    (h' : attempt.Yields result') : result = result' := Logging.Yields.unique h h'

/-- An attempt that is run from an empty log comes to the same result. -/
theorem Yields.run' (h : attempt.Yields result) : attempt.run'.1 = result := Logging.Yields.run' h

/-! ### What a success tells -/

/-- The attempt comes to one result, whatever has been logged before, and if that is a success its value
has the property. -/
def Ensures (attempt : Attempt ε α) (P : α → Prop) : Prop :=
  ∃ result, attempt.Yields result ∧ ∀ x, result = .ok x → P x

section Ensures

variable {P P' : α → Prop} {Q : β → Prop}

theorem Yields.ensures (h : attempt.Yields result) (hP : ∀ x, result = .ok x → P x) :
    attempt.Ensures P := ⟨result, h, hP⟩

theorem Ensures.ofExcept (hP : ∀ x, result = .ok x → P x) : (Attempt.ofExcept result).Ensures P :=
  (Yields.ofExcept result).ensures hP

theorem Ensures.log (level : LogLevel) (target message : String) :
    (Fieldwise.log level target message : Attempt ε Unit).Ensures fun _ => True :=
  (Yields.log level target message).ensures fun _ _ => trivial

/-- What is ensured holds of the value that the attempt comes to. -/
theorem Ensures.of_yields {x : α} (h : attempt.Ensures P) (hx : attempt.Yields (.ok x)) : P x := by
  obtain ⟨result, hresult, hP⟩ := h
  exact hP x (hresult.unique hx)

theorem Ensures.imp (h : attempt.Ensures P) (hP : ∀ x, P x → P' x) : attempt.Ensures P' := by
  obtain ⟨result, hresult, hx⟩ := h
  exact ⟨result, hresult, fun x hok => hP x (hx x hok)⟩

theorem Ensures.bind {next : α → Attempt ε β} (h : attempt.Ensures P)
    (h' : ∀ x, P x → (next x).Ensures Q) : (attempt >>= next).Ensures Q := by
  obtain ⟨result, hresult, hP⟩ := h
  cases result with
  | error e => exact hresult.bind_error.ensures nofun
  | ok x =>
    obtain ⟨r, hr, hQ⟩ := h' x (hP x rfl)
    exact (hresult.bind_ok hr).ensures hQ

theorem Ensures.mapError (f : ε → ε') (h : attempt.Ensures P) : (attempt.mapError f).Ensures P := by
  obtain ⟨result, hresult, hP⟩ := h
  refine (hresult.mapError f).ensures ?_
  cases result with
  | error e => exact nofun
  | ok x => exact fun y hy => hP y (by cases hy; rfl)

end Ensures

end Attempt

/-! ### Actions that log, above a monad -/

section Running

variable {m : Type → Type} [Monad m] [LawfulMonad m] {ε α β : Type} {before mid : Log}

/-- Making a record adds it at the end. -/
theorem run_log (level : LogLevel) (target message : String) (before : Log) :
    StateT.run (ExceptT.run (log level target message : ExceptT ε (LoggingT m) Unit)) before =
      pure (.ok (), before ++ [⟨level, target, message⟩]) := by
  show (pure _ >>= _ : m _) = _
  rw [pure_bind]

/-- An action of the monad below logs nothing. -/
theorem run_lift (x : m α) (before : Log) :
    StateT.run (ExceptT.run (liftM x : ExceptT ε (LoggingT m) α)) before =
      (fun a => (.ok a, before)) <$> x := by
  simp [liftM, monadLift, MonadLift.monadLift]

/-- An action that only logs goes on to the next. -/
theorem run_bind_of_ok {action : ExceptT ε (LoggingT m) α} {next : α → ExceptT ε (LoggingT m) β} {x : α}
    (h : StateT.run (ExceptT.run action) before = pure (.ok x, mid)) :
    StateT.run (ExceptT.run (action >>= next)) before = StateT.run (ExceptT.run (next x)) mid := by
  rw [ExceptT.run_bind, StateT.run_bind, h, pure_bind]

end Running

end Fieldwise
