import Fieldwise.Builder
import Fieldwise.Proofs.RuleSet

/-!
# What a builder does

`Builder.register` and `Builder.freeze` are all that can be asked of a builder. Each has one lemma for
every way in which it can end. From these follows what adding a list of rules comes to, and what
`RuleSet.ofSources` does: it builds a rule set of what is left of the rules if all of them compile, and
fails with the first of them that does not.
-/

namespace Fieldwise

/-! ### Actions on a builder -/

namespace Building

variable {α β : Type} {action : Building α} {b b' b'' : Builder}

/-- Whatever has been logged before, the action comes to the result and leaves the builder as `b'`. -/
def Yields (action : Building α) (b : Builder) (result : Except Error α) (b' : Builder) : Prop :=
  Logging.Yields (StateT.run (ExceptT.run action) b) (result, b')

/-- An action comes to one result only. -/
theorem Yields.unique {r r' : Except Error α} (h : Yields action b r b') (h' : Yields action b r' b'') :
    r = r' ∧ b' = b'' := Prod.mk.inj (Logging.Yields.unique h h')

theorem Yields.pure (x : α) : Yields (Pure.pure x) b (.ok x) b := Logging.Yields.pure _

theorem Yields.throw (e : Error) : Yields (MonadExcept.throw e : Building α) b (.error e) b :=
  Logging.Yields.pure _

theorem Yields.get : Yields MonadState.get b (.ok b) b := Logging.Yields.pure _

theorem Yields.set : Yields (MonadStateOf.set b') b (.ok ()) b' := Logging.Yields.pure _

theorem Yields.modify (f : Builder → Builder) : Yields (modify f) b (.ok ()) (f b) :=
  Logging.Yields.pure _

theorem Yields.log (level : LogLevel) (target message : String) :
    Yields (Fieldwise.log level target message) b (.ok ()) b := ⟨[_], fun _ => rfl⟩

theorem Yields.ofAttempt {attempt : Attempt Error α} {r : Except Error α} (h : attempt.Yields r) :
    Yields (ofAttempt attempt) b r b :=
  Logging.Yields.bind h (Logging.Yields.pure _)

theorem Yields.bind_ok {next : α → Building β} {x : α} {r : Except Error β}
    (h : Yields action b (.ok x) b') (h' : Yields (next x) b' r b'') :
    Yields (action >>= next) b r b'' := by
  show Logging.Yields (StateT.run (ExceptT.run action >>= ExceptT.bindCont next) b) (r, b'')
  rw [StateT.run_bind]
  exact Logging.Yields.bind h h'

theorem Yields.bind_error {next : α → Building β} {e : Error} (h : Yields action b (.error e) b') :
    Yields (action >>= next) b (.error e) b' := by
  show Logging.Yields (StateT.run (ExceptT.run action >>= ExceptT.bindCont next) b) (.error e, b')
  rw [StateT.run_bind]
  exact Logging.Yields.bind h (Logging.Yields.pure _)

theorem Yields.map (f : α → β) {r : Except Error α} (h : Yields action b r b') :
    Yields (f <$> action) b (r.map f) b' := by
  cases r with
  | ok x => exact Yields.bind_ok h (Yields.pure (f x))
  | error e => exact Yields.bind_error h

/-- What an action comes to, with the builder after it. -/
theorem Yields.after {r : Except Error α} (h : Yields action b r b') :
    (action.after b).Yields (r.map fun x => (x, b')) :=
  Logging.Yields.bind h (Logging.Yields.pure _)

end Building

namespace Builder

variable {b : Builder} {source : RuleSource} {rule : Rule}

/-! ### Adding a rule -/

theorem ensureOpen_of_opened (h : b.state = .opened) : Building.Yields ensureOpen b (.ok ()) b := by
  refine Building.Yields.get.bind_ok ?_
  rw [h]
  exact Building.Yields.pure ()

theorem ensureOpen_of_built (h : b.state = .built) :
    Building.Yields ensureOpen b (.error .builderFinalized) b := by
  refine Building.Yields.get.bind_ok ?_
  rw [h]
  exact Building.Yields.throw _

/-- A builder that has been used up refuses any rule, whatever its pattern is. -/
theorem register_of_built (h : b.state = .built) :
    Building.Yields (register source) b (.error .builderFinalized) b :=
  (ensureOpen_of_built h).bind_error

/-- A rule whose pattern does not compile leaves the builder as it was. -/
theorem register_of_error (h : b.state = .opened) {e : Error} (he : source.compile? = .error e) :
    Building.Yields (register source) b (.error e) b :=
  (ensureOpen_of_opened h).bind_ok
    (Building.Yields.ofAttempt (he ▸ source.compile_yields)).bind_error

/-- A rule whose pattern compiles is taken. Whether it replaces another makes a difference to the log
only. -/
theorem register_of_ok (h : b.state = .opened) (hrule : source.compile? = .ok rule) :
    Building.Yields (register source) b (.ok ())
      { b with toRuleSet := b.toRuleSet.insert rule } := by
  refine (ensureOpen_of_opened h).bind_ok
    ((Building.Yields.ofAttempt (hrule ▸ source.compile_yields)).bind_ok
      (Building.Yields.get.bind_ok ?_))
  cases b.index[rule.field]? with
  | some position => exact (Building.Yields.log _ _ _).bind_ok (Building.Yields.modify _)
  | none => exact Building.Yields.modify _

/-! ### Building -/

/-- A builder that has been used up. -/
def spent : Builder := { RuleSet.empty with state := .built }

theorem freeze_of_opened (h : b.state = .opened) :
    Building.Yields freeze b (.ok b.toRuleSet) spent :=
  (ensureOpen_of_opened h).bind_ok (Building.Yields.get.bind_ok (Building.Yields.set.bind_ok
    ((Building.Yields.log _ _ _).bind_ok (Building.Yields.pure _))))

theorem freeze_of_built (h : b.state = .built) :
    Building.Yields freeze b (.error .builderFinalized) b :=
  (ensureOpen_of_built h).bind_error

/-! ### Rules from a list -/

theorem add_of_error (h : b.state = .opened) {e : Error} (he : source.compile? = .error e) :
    (b.add source).Yields (.error e) := (register_of_error h he).after.map Prod.snd

theorem add_of_ok (h : b.state = .opened) (hrule : source.compile? = .ok rule) :
    (b.add source).Yields (.ok { b with toRuleSet := b.toRuleSet.insert rule }) :=
  (register_of_ok h hrule).after.map Prod.snd

/-- A builder that is started holds its first rule. -/
theorem start_of_ok (hrule : source.compile? = .ok rule) :
    (start source).Yields (.ok { RuleSet.empty.insert rule with state := .opened }) :=
  add_of_ok rfl hrule

/-- A step adds the one rule that stands in what it is given, and fails if that does not compile. The
failure may be reworded, and then names what the step was given. -/
structure Adds {α ε : Type} (source : α → RuleSource) (reword : α → Error → ε)
    (step : Builder → α → Attempt ε Builder) : Prop where
  of_ok : ∀ {b : Builder} {x : α} {rule : Rule}, b.state = .opened →
    (source x).compile? = .ok rule →
      (step b x).Yields (.ok { b with toRuleSet := b.toRuleSet.insert rule })
  of_error : ∀ {b : Builder} {x : α} {e : Error}, b.state = .opened →
    (source x).compile? = .error e → (step b x).Yields (.error (reword x e))

section Adds

variable {α ε : Type} {source : α → RuleSource} {reword : α → Error → ε}
variable {step : Builder → α → Attempt ε Builder}

/-- Rules that all compile are all taken. -/
theorem Adds.foldlM_of_ok (hstep : Adds source reword step) {xs : List α}
    {taken : List RuleSource} (h : b.state = .opened) (hb : b.Holds taken)
    (hok : ∀ x ∈ xs, (source x).Compiles) :
    ∃ b' : Builder, b'.state = .opened ∧ b'.Holds (taken ++ xs.map source) ∧
      (xs.foldlM step b).Yields (.ok b') := by
  induction xs generalizing b taken with
  | nil => exact ⟨b, h, by rwa [List.map_nil, List.append_nil], Attempt.Yields.pure b⟩
  | cons x rest ih =>
    obtain ⟨⟨rule, hrule⟩, hrest⟩ := List.forall_mem_cons.mp hok
    have hinsert := hb.insert rule
    rw [RuleSource.compile?_eq_ok_iff.mp hrule] at hinsert
    obtain ⟨b', hopened, hholds, hrun⟩ :=
      ih (b := { b with toRuleSet := b.toRuleSet.insert rule }) h hinsert hrest
    refine ⟨b', hopened, ?_, (hstep.of_ok h hrule).bind_ok hrun⟩
    rwa [List.map_cons, List.append_cons]

/-- The first rule that does not compile ends the adding, whatever stands after it. -/
theorem Adds.foldlM_of_error (hstep : Adds source reword step) {pre post : List α} {x : α}
    (h : b.state = .opened) (hok : ∀ y ∈ pre, (source y).Compiles) {e : Error}
    (he : (source x).compile? = .error e) :
    ((pre ++ x :: post).foldlM step b).Yields (.error (reword x e)) := by
  induction pre generalizing b with
  | nil => exact (hstep.of_error h he).bind_error
  | cons y rest ih =>
    obtain ⟨⟨rule, hrule⟩, hrest⟩ := List.forall_mem_cons.mp hok
    exact (hstep.of_ok h hrule).bind_ok (ih h hrest)

end Adds

/-- The builder's own step adds a rule, and fails with its error as it is. -/
theorem adds_add : Adds (fun s => s) (fun _ e => e) fun b source => b.add source :=
  ⟨add_of_ok, fun h he => add_of_error h he⟩

end Builder

namespace RuleSet

open Builder

variable {first source : RuleSource} {rest : List RuleSource}

theorem ofSources_eq_addAll (first : RuleSource) (rest : List RuleSource) :
    ofSources first rest = do
      let b ← Builder.empty.addAll (first :: rest)
      let (rules, _) ← b.build
      return rules := by
  simp only [ofSources, addAll, List.foldlM_cons, bind_assoc]
  rfl

/-- Rules that all compile build a rule set that holds what is left of them. -/
theorem ofSources_of_ok (hok : ∀ s ∈ first :: rest, s.Compiles) :
    ∃ s : RuleSet, s.Holds (first :: rest) ∧ (ofSources first rest).Yields (.ok s) := by
  obtain ⟨b, hopened, hholds, hadd⟩ :=
    adds_add.foldlM_of_ok (b := Builder.empty) rfl holds_empty hok
  rw [List.map_id', List.nil_append] at hholds
  refine ⟨b.toRuleSet, hholds, ?_⟩
  rw [ofSources_eq_addAll]
  exact hadd.bind_ok ((freeze_of_opened hopened).after.bind_ok (Attempt.Yields.pure _))

/-- The first rule that does not compile is the reason why nothing is built. -/
theorem ofSources_of_error {pre post : List RuleSource} (hsplit : first :: rest = pre ++ source :: post)
    (hok : ∀ s ∈ pre, s.Compiles) {e : Error} (he : source.compile? = .error e) :
    (ofSources first rest).Yields (.error e) := by
  rw [ofSources_eq_addAll, hsplit]
  exact (adds_add.foldlM_of_error rfl hok he).bind_error

end RuleSet

end Fieldwise
