import Fieldwise.Cli.Run
import Fieldwise.Proofs.Logging

/-!
# What runs leave behind

No more than those of the library do the actions of a command look at what has happened before them.
`Action.Adds` says of an action what it comes to and which events it adds. `Action.Yields` says no more of
these than what they leave behind, which is what is printed and written. Messages do not count, so that
neither does what the log says. The rules below follow the ways in which actions are put together, and
`Call.succeeds_of_yields` reads what comes of a call off its action.
-/

namespace Fieldwise.Cli

/-! ### Events that last -/

/-- Whether an event is more than a message. -/
def Event.isLasting : Event → Bool
  | .printed _ | .wrote _ _ => true
  | .logged _ | .status _ _ => false

/-- Messages add nothing to the output. -/
theorem flatMap_output_filter (events : List Event) :
    (events.filter Event.isLasting).flatMap Event.output = events.flatMap Event.output := by
  induction events with
  | nil => rfl
  | cons e rest ih =>
    rw [List.flatMap_cons, ← ih]
    cases e <;> rfl

/-- Messages write no files. -/
theorem filterMap_written?_filter (events : List Event) :
    (events.filter Event.isLasting).filterMap Event.written? = events.filterMap Event.written? := by
  induction events with
  | nil => rfl
  | cons e rest ih =>
    rw [List.filterMap_cons, ← ih]
    cases e <;> rfl

/-! ### Actions -/

namespace Action

variable {α β : Type} {action : Action α} {next : α → Action β} {result : Except Report α} {x : α}
  {r : Except Report β} {events events' left left' : List Event}

/-- Whatever has happened before, the action comes to the result and adds these events. -/
def Adds (action : Action α) (result : Except Report α) (events : List Event) : Prop :=
  ∀ before, StateT.run (ExceptT.run action) before = (result, before ++ events)

theorem Adds.emit (e : Event) : (Action.emit e).Adds (.ok ()) [e] := fun _ => rfl

theorem Adds.ofExcept (result : Except Report α) :
    (MonadExcept.ofExcept result : Action α).Adds result [] := by
  intro before
  rw [List.append_nil]
  cases result <;> rfl

theorem Adds.attempt (attempt : Attempt Report α) :
    (Action.attempt attempt).Adds attempt.run'.1 (attempt.run'.2.map .logged) := by
  intro before
  rw [Action.attempt]
  cases attempt.run' with
  | mk result entries => cases result <;> rfl

theorem Adds.bind_ok (h : action.Adds (.ok x) events) (h' : (next x).Adds r events') :
    (action >>= next).Adds r (events ++ events') := by
  intro before
  rw [ExceptT.run_bind, StateT.run_bind, h]
  show StateT.run (ExceptT.run (next x)) (before ++ events) = _
  rw [h', List.append_assoc]

theorem Adds.bind_error {report : Report} (h : action.Adds (.error report) events) :
    (action >>= next).Adds (.error report) events := by
  intro before
  rw [ExceptT.run_bind, StateT.run_bind, h]
  rfl

/-- Whatever has happened before, the action comes to the result, and this is what lasts of the events that
it adds. -/
def Yields (action : Action α) (result : Except Report α) (left : List Event) : Prop :=
  ∃ events : List Event, events.filter Event.isLasting = left ∧
    ∀ before, StateT.run (ExceptT.run action) before = (result, before ++ events)

/-- An action comes to one result only. -/
theorem Yields.unique {result' : Except Report α} (h : action.Yields result left) (h' : action.Yields result' left') :
    result = result' := by
  obtain ⟨events, -, hadds⟩ := h
  obtain ⟨events', -, hadds'⟩ := h'
  exact (Prod.mk.inj ((hadds []).symm.trans (hadds' []))).1

theorem Yields.ofExcept (result : Except Report α) :
    (MonadExcept.ofExcept result : Action α).Yields result [] := ⟨[], rfl, Adds.ofExcept result⟩

theorem Yields.pure (x : α) : (Pure.pure x : Action α).Yields (.ok x) [] := Yields.ofExcept (.ok x)

theorem Yields.emit (e : Event) : (Action.emit e).Yields (.ok ()) ([e].filter Event.isLasting) :=
  ⟨[e], rfl, Adds.emit e⟩

theorem Yields.log (level : LogLevel) (target message : String) :
    (Action.log level target message).Yields (.ok ()) [] := Yields.emit _

theorem Yields.status (kind : StatusKind) (message : String) :
    (Action.status kind message).Yields (.ok ()) [] := Yields.emit _

theorem Yields.print (text : String) :
    (Action.print text).Yields (.ok ()) [.printed (Utf8.encodeString text)] := Yields.emit _

theorem Yields.bind (h : action.Yields (.ok x) left) (h' : (next x).Yields r left') :
    (action >>= next).Yields r (left ++ left') := by
  obtain ⟨events, rfl, hadds⟩ := h
  obtain ⟨events', rfl, hadds'⟩ := h'
  exact ⟨events ++ events', List.filter_append events events', Adds.bind_ok hadds hadds'⟩

theorem Yields.bind_error {report : Report} (h : action.Yields (.error report) left) :
    (action >>= next).Yields (.error report) left := by
  obtain ⟨events, hleft, hadds⟩ := h
  exact ⟨events, hleft, Adds.bind_error hadds⟩

/-- Status lines leave nothing behind, however many there are. -/
theorem Yields.forM_status {γ : Type} (kind : StatusKind) (describe : γ → String) (news : List γ) :
    (news.forM fun n => Action.status kind (describe n)).Yields (.ok ()) [] := by
  induction news with
  | nil => exact Yields.pure ()
  | cons n rest ih => exact (Yields.status kind (describe n)).bind ih

/-- What the library logs on its way does not last. -/
theorem Yields.attempt {attempt : Attempt Report α} (h : attempt.Yields result) :
    (Action.attempt attempt).Yields result [] := by
  refine ⟨attempt.run'.2.map .logged, ?_, h.run' ▸ Adds.attempt attempt⟩
  rw [List.filter_eq_nil_iff]
  intro e he
  obtain ⟨entry, -, rfl⟩ := List.mem_map.mp he
  exact Bool.false_ne_true

end Action

/-! ### Calls -/

/-- The run went well, and this is what it printed and wrote. -/
structure Result.Succeeds (r : Result) (output : List UInt8) (written : List (String × List UInt8)) :
    Prop where
  exitCode_eq : r.exitCode = 0
  output_eq : r.output = output
  written_eq : r.written = written

/-- A call whose action goes well prints and writes what the action leaves behind. -/
theorem Call.succeeds_of_yields {w : World} {c : Call} {left : List Event}
    (h : (c.run w).Yields (.ok ()) left) :
    (c.result w).Succeeds (left.flatMap Event.output) (left.filterMap Event.written?) := by
  obtain ⟨events, rfl, hrun⟩ := h
  rw [flatMap_output_filter, filterMap_written?_filter]
  constructor <;> simp only [Call.result, hrun, List.nil_append]

end Fieldwise.Cli
