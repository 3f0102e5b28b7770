import Fieldwise.Proofs.Builder

/-!
# Runs of a builder

A run asks one thing of a builder after another, and goes on when a request fails. As long as nothing has
been built, the rules that the builder holds are what is left of those that it has accepted
(`run_of_opened`). Building gives these rules away, and what is asked after that is refused
(`run_build`). `Builder.Lawful` says all of this about one moment of a run, and `run_lawful` that it is
true of every moment of every run.
-/

namespace Fieldwise

namespace Builder

variable {b : Builder}

/-! ### Requests -/

/-- What can be asked of a builder. -/
inductive Request where
  | add (source : RuleSource)
  | build
  deriving DecidableEq

/-- The answer to a request: for a rule that is added nothing but that it has been, and for the building
the rule set. -/
abbrev Answer := Except Error (Option RuleSet)

namespace Request

/-- Does what is asked. -/
def perform : Request → Building (Option RuleSet)
  | .add source => (fun _ => none) <$> register source
  | .build => some <$> freeze

/-- Requests that are not all for rules have a first one that is for the building. -/
theorem eq_map_add_or (requests : List Request) :
    (∃ sources : List RuleSource, requests = sources.map add) ∨
      ∃ (sources : List RuleSource) (post : List Request),
        requests = sources.map add ++ build :: post := by
  induction requests with
  | nil => exact .inl ⟨[], rfl⟩
  | cons request rest ih =>
    cases request with
    | build => exact .inr ⟨[], rest, rfl⟩
    | add source =>
      rcases ih with ⟨sources, rfl⟩ | ⟨sources, post, rfl⟩
      · exact .inl ⟨source :: sources, rfl⟩
      · exact .inr ⟨source :: sources, post, rfl⟩

/-- The requests before the first one that is for the building are determined, and so are those after
it. -/
theorem eq_of_map_add_append_build {sources sources' : List RuleSource} {post post' : List Request}
    (h : sources.map add ++ build :: post = sources'.map add ++ build :: post') :
    sources = sources' ∧ post = post' := by
  induction sources generalizing sources' with
  | nil =>
    cases sources' with
    | nil => exact ⟨rfl, (List.cons.inj h).2⟩
    | cons source' rest' => exact Request.noConfusion (List.cons.inj h).1
  | cons source rest ih =>
    cases sources' with
    | nil => exact Request.noConfusion (List.cons.inj h).1
    | cons source' rest' =>
      obtain ⟨hsource, hrest⟩ := List.cons.inj h
      obtain ⟨rfl, hpost⟩ := ih hrest
      exact ⟨by rw [Request.add.inj hsource], hpost⟩

/-- Requests for rules are none for the building. -/
theorem build_not_mem_map_add (sources : List RuleSource) : build ∉ sources.map add := by
  intro h
  obtain ⟨_, -, he⟩ := List.mem_map.mp h
  exact Request.noConfusion he

end Request

/-- Does one thing after another, whether or not what comes before fails. -/
def run (b : Builder) : List Request → Logging (List Answer × Builder)
  | [] => return ([], b)
  | request :: rest => do
    let (answer, b) ← StateT.run (ExceptT.run request.perform) b
    let (answers, b) ← run b rest
    return (answer :: answers, b)

/-- The answer of a builder that is not used up to a rule that is added. -/
def answerTo (source : RuleSource) : Answer := source.compile?.map fun _ => none

/-- The rules that a builder has accepted of those that have been added, after its first. -/
def registered (first : RuleSource) (sources : List RuleSource) : List RuleSource :=
  first :: sources.filter fun s => s.compile?.isOk

section Run

variable {b' b'' : Builder} {request : Request} {answer : Answer} {answers : List Answer}
variable {requests : List Request} {taken : List RuleSource}

theorem run_nil (b : Builder) : (b.run []).Yields ([], b) := Logging.Yields.pure _

theorem run_cons (h : Building.Yields request.perform b answer b')
    (hrest : (b'.run requests).Yields (answers, b'')) :
    (b.run (request :: requests)).Yields (answer :: answers, b'') :=
  Logging.Yields.bind h (Logging.Yields.bind hrest (Logging.Yields.pure _))

/-- A run is the run of its first requests and then that of the others. -/
theorem run_append (b : Builder) (pre post : List Request) :
    b.run (pre ++ post) = do
      let (answers, b) ← b.run pre
      let (answers', b) ← b.run post
      return (answers ++ answers', b) := by
  induction pre generalizing b with
  | nil => simp [run]
  | cons request rest ih => simp [run, ih]

/-- A builder that has been used up refuses everything and stays so. -/
theorem perform_of_built (h : b.state = .built) (request : Request) :
    Building.Yields request.perform b (.error .builderFinalized) b := by
  cases request with
  | add source => exact (register_of_built h).map _
  | build => exact (freeze_of_built h).map _

/-- A builder that has not been used up answers whether a rule's pattern compiles. If it does, the rule is
registered; if not, the builder stays as it is. -/
theorem perform_add_of_opened (h : b.state = .opened) (hb : b.Holds taken) (source : RuleSource) :
    ∃ b', Building.Yields (Request.add source).perform b (answerTo source) b' ∧ b'.state = .opened ∧
      b'.Holds (taken ++ [source].filter fun s => s.compile?.isOk) := by
  rw [answerTo]
  cases hrule : source.compile? with
  | error e =>
    refine ⟨b, (register_of_error h hrule).map _, h, ?_⟩
    rwa [List.filter_cons_of_neg (by rw [hrule]; exact Bool.false_ne_true), List.filter_nil,
      List.append_nil]
  | ok rule =>
    refine ⟨_, (register_of_ok h hrule).map _, h, ?_⟩
    rw [List.filter_cons_of_pos (by rw [hrule]; rfl), List.filter_nil,
      ← RuleSource.compile?_eq_ok_iff.mp hrule]
    exact hb.insert rule

/-- A builder that has not been used up gives away the rule set that it holds. -/
theorem perform_build_of_opened (h : b.state = .opened) :
    Building.Yields Request.build.perform b (.ok (some b.toRuleSet)) spent :=
  (freeze_of_opened h).map _

/-- A request that fails leaves the builder as it was. -/
theorem eq_of_perform_error {e : Error} (h : Building.Yields request.perform b (.error e) b') :
    b' = b := by
  cases hb : b.state with
  | built => exact (h.unique (perform_of_built hb request)).2
  | opened =>
    cases request with
    | build => exact nomatch (h.unique (perform_build_of_opened hb)).1
    | add source =>
      cases hrule : source.compile? with
      | error e => exact (h.unique ((register_of_error hb hrule).map _)).2
      | ok rule => exact nomatch (h.unique ((register_of_ok hb hrule).map _)).1

/-- Once a builder has been used up, a run is nothing but refusals. -/
theorem run_of_built (h : b.state = .built) (requests : List Request) :
    (b.run requests).Yields (List.replicate requests.length (.error .builderFinalized), b) := by
  induction requests with
  | nil => exact run_nil b
  | cons request rest ih => exact run_cons (perform_of_built h request) ih

/-- As long as only rules are added, the builder holds what is left of those that it has accepted. -/
theorem run_of_opened (h : b.state = .opened) (hb : b.Holds taken) (sources : List RuleSource) :
    ∃ b', (b.run (sources.map .add)).Yields (sources.map answerTo, b') ∧ b'.state = .opened ∧
      b'.Holds (taken ++ sources.filter fun s => s.compile?.isOk) := by
  induction sources generalizing b taken with
  | nil => exact ⟨b, run_nil b, h, by rwa [List.filter_nil, List.append_nil]⟩
  | cons source rest ih =>
    obtain ⟨b₁, hadd, h₁, hb₁⟩ := perform_add_of_opened h hb source
    obtain ⟨b₂, hrest, h₂, hb₂⟩ := ih h₁ hb₁
    refine ⟨b₂, run_cons hadd hrest, h₂, ?_⟩
    -- what the first request has registered stands before what the others register
    rwa [List.append_assoc, ← List.filter_append] at hb₂

/-- The first build gives away what the builder holds by then, and everything after it is refused. -/
theorem run_build (h : b.state = .opened) (hb : b.Holds taken) (sources : List RuleSource)
    (post : List Request) :
    ∃ b', (b.run (sources.map .add)).Yields (sources.map answerTo, b') ∧ b'.state = .opened ∧
      b'.Holds (taken ++ sources.filter fun s => s.compile?.isOk) ∧
      (b.run (sources.map .add ++ .build :: post)).Yields
        (sources.map answerTo ++
          .ok (some b'.toRuleSet) :: List.replicate post.length (.error .builderFinalized), spent) := by
  obtain ⟨b', hrun, hopened, hholds⟩ := run_of_opened h hb sources
  refine ⟨b', hrun, hopened, hholds, ?_⟩
  rw [run_append]
  exact hrun.bind ((run_cons (perform_build_of_opened hopened) (run_of_built rfl post)).bind
    (Logging.Yields.pure _))

/-- What is true of a run of a builder that was `b₀` when it had just been started with `first`: it has
been asked the requests, has given the answers, and has become `b`. -/
structure Lawful (b₀ : Builder) (first : RuleSource) (requests : List Request) (answers : List Answer)
    (b : Builder) : Prop where
  /-- The builder is open exactly as long as only rules have been added. -/
  opened_iff : b.state = .opened ↔ ∃ sources : List RuleSource, requests = sources.map .add
  /-- An open builder holds a rule. -/
  rules_ne_nil : b.state = .opened → b.rules ≠ []
  /-- An open builder holds one rule for each field, in the order in which the fields were first
  accepted, and of each field the one that was last accepted. -/
  rules_eq : ∀ sources : List RuleSource, requests = sources.map .add →
    b.rules.map Rule.source = RuleSource.settle (registered first sources)
  /-- The index of an open builder has for each field the place of its rule, and nothing else. -/
  index_iff : b.state = .opened → ∀ (field : FieldId) (i : Nat),
    b.index[field]? = some i ↔ ∃ rule, b.rules[i]? = some rule ∧ rule.field = field
  /-- The index of an open builder knows exactly the fields that were accepted. -/
  index_isSome_iff : ∀ sources : List RuleSource, requests = sources.map .add → ∀ field : FieldId,
    b.index[field]?.isSome ↔ field ∈ (registered first sources).map RuleSource.field
  /-- An open builder has answered for each rule whether its pattern compiles. -/
  answers_eq : ∀ sources : List RuleSource, requests = sources.map .add →
    answers = sources.map answerTo
  /-- An open builder rejects a rule whose pattern does not compile, and stays as it is. -/
  rejects : b.state = .opened → ∀ (source : RuleSource) (e : Error), source.compile? = .error e →
    Building.Yields (Request.add source).perform b (.error e) b
  /-- Whatever fails leaves the builder as it was. -/
  eq_of_error : ∀ (request : Request) (e : Error) (b' : Builder),
    Building.Yields request.perform b (.error e) b' → b' = b
  /-- An open builder can build: the rule set is the one that it holds, and nothing is left. -/
  builds : b.state = .opened →
    Building.Yields Request.build.perform b (.ok (some b.toRuleSet)) spent
  /-- The first build of the run has given away what the builder held then, and every answer after it is
  a refusal. -/
  answers_of_build : ∀ (sources : List RuleSource) (post : List Request),
    requests = sources.map .add ++ .build :: post →
      ∃ b' : Builder, (b₀.run (sources.map .add)).Yields (sources.map answerTo, b') ∧
        b'.state = .opened ∧
        answers = sources.map answerTo ++
          .ok (some b'.toRuleSet) :: List.replicate post.length (.error .builderFinalized)
  /-- At most one build of the run has succeeded. -/
  build_unique : ∀ (i j : Nat) (s s' : RuleSet),
    answers[i]? = some (.ok (some s)) → answers[j]? = some (.ok (some s')) → i = j
  /-- A builder that is not open holds nothing. -/
  eq_spent : b.state = .built → b = spent
  /-- A builder that is not open refuses everything. -/
  refuses : b.state = .built → ∀ request : Request,
    Building.Yields request.perform b (.error .builderFinalized) b

/-- No answer to a rule that is added is a rule set. -/
theorem answerTo_ne (source : RuleSource) (s : RuleSet) : answerTo source ≠ .ok (some s) := by
  rw [answerTo]
  cases source.compile? <;> intro h <;> cases h

theorem ne_of_getElem?_map_answerTo {sources : List RuleSource} {i : Nat} {s : RuleSet} :
    (sources.map answerTo)[i]? ≠ some (.ok (some s)) := by
  intro h
  obtain ⟨source, -, he⟩ := List.mem_map.mp (List.mem_of_getElem? h)
  exact answerTo_ne source s he

/-- Among the answers of a run that has come past a build there is one rule set, and one place for it. -/
theorem eq_of_build_answer {sources : List RuleSource} {n i : Nat} {s t : RuleSet}
    (h : (sources.map answerTo ++
      .ok (some t) :: List.replicate n (.error .builderFinalized))[i]? = some (.ok (some s))) :
    i = sources.length ∧ s = t := by
  -- before this place stand answers to rules, and behind it refusals
  rw [List.getElem?_append, List.length_map] at h
  split at h
  · exact absurd h ne_of_getElem?_map_answerTo
  · rename_i hge
    rw [List.getElem?_cons] at h
    split at h
    · cases h
      exact ⟨by omega, rfl⟩
    · rw [List.getElem?_replicate] at h
      split at h <;> cases h

/-- What a run of a builder that is still open comes to. -/
theorem lawful_of_opened {b₀ : Builder} {first : RuleSource} {sources : List RuleSource}
    (h : b.state = .opened) (hb : b.Holds (registered first sources)) :
    Lawful b₀ first (sources.map .add) (sources.map answerTo) b := by
  -- the requests determine the rules that are spoken of
  have hinj : ∀ sources' : List RuleSource,
      sources.map Request.add = sources'.map .add → sources = sources' := fun _ =>
    (List.map_inj_right fun _ _ => Request.add.inj).mp
  constructor
  case opened_iff => exact iff_of_true h ⟨sources, rfl⟩
  case rules_ne_nil => exact fun _ => (hb.wellFormed (List.cons_ne_nil _ _)).nonempty
  case rules_eq =>
    intro sources' he
    rw [← hinj sources' he]
    exact hb.sources_eq
  case index_iff =>
    intro _ field i
    rw [hb.index_iff, RuleSet.getElem?_fields_eq_some_iff]
  case index_isSome_iff =>
    intro sources' he field
    rw [← hinj sources' he, ← hb.mem_fields_iff, Option.isSome_iff_exists, List.mem_iff_getElem?]
    exact exists_congr fun i => hb.index_iff field i
  case answers_eq =>
    intro sources' he
    rw [hinj sources' he]
  case rejects => exact fun _ source e he => (register_of_error h he).map _
  case eq_of_error => exact fun _ _ _ => eq_of_perform_error
  case builds => exact fun _ => perform_build_of_opened h
  case answers_of_build =>
    intro sources' post he
    refine absurd ?_ (Request.build_not_mem_map_add sources)
    rw [he]
    exact List.mem_append_right _ List.mem_cons_self
  case build_unique => exact fun i j s s' hi _ => absurd hi ne_of_getElem?_map_answerTo
  case eq_spent => exact fun hbuilt => nomatch h.symm.trans hbuilt
  case refuses => exact fun hbuilt => nomatch h.symm.trans hbuilt

/-- What a run that has come past a build comes to. -/
theorem lawful_of_build {b₀ : Builder} {first : RuleSource} {sources : List RuleSource}
    {post : List Request} (hrun : (b₀.run (sources.map .add)).Yields (sources.map answerTo, b'))
    (h : b'.state = .opened) :
    Lawful b₀ first (sources.map .add ++ .build :: post)
      (sources.map answerTo ++
        .ok (some b'.toRuleSet) :: List.replicate post.length (.error .builderFinalized)) spent := by
  -- there is a request for the building, so nothing that needs an open builder is in question
  have hne : ∀ sources' : List RuleSource,
      sources.map Request.add ++ .build :: post ≠ sources'.map .add := by
    intro sources' he
    refine Request.build_not_mem_map_add sources' ?_
    rw [← he]
    exact List.mem_append_right _ List.mem_cons_self
  constructor
  case opened_iff => exact iff_of_false nofun fun ⟨sources', he⟩ => hne sources' he
  case rules_ne_nil => exact nofun
  case rules_eq => exact fun sources' he => absurd he (hne sources')
  case index_iff => exact nofun
  case index_isSome_iff => exact fun sources' he => absurd he (hne sources')
  case answers_eq => exact fun sources' he => absurd he (hne sources')
  case rejects => exact nofun
  case eq_of_error => exact fun _ _ _ => eq_of_perform_error
  case builds => exact nofun
  case answers_of_build =>
    intro sources' post' he
    obtain ⟨rfl, rfl⟩ := Request.eq_of_map_add_append_build he
    exact ⟨b', hrun, h, rfl⟩
  case build_unique =>
    exact fun i j s s' hi hj => (eq_of_build_answer hi).1.trans (eq_of_build_answer hj).1.symm
  case eq_spent => exact fun _ => rfl
  case refuses => exact fun _ request => perform_of_built rfl request

end Run

section Started

variable {first : RuleSource} {b₀ : Builder} {requests : List Request}

/-- A builder that has been started is open and holds its first rule. -/
theorem holds_of_start (hstart : (start first).Yields (.ok b₀)) :
    b₀.state = .opened ∧ b₀.Holds [first] := by
  cases hrule : first.compile? with
  | error e => exact nomatch hstart.unique (add_of_error rfl hrule)
  | ok rule =>
    cases hstart.unique (start_of_ok hrule)
    refine ⟨rfl, ?_⟩
    rw [← RuleSource.compile?_eq_ok_iff.mp hrule]
    exact RuleSet.holds_empty.insert rule

/-- A rule set that a builder gives away, in whatever run, is as it should be. -/
theorem wellFormed_of_mem_answers (hstart : (start first).Yields (.ok b₀)) {answers : List Answer}
    {b : Builder} (hrun : (b₀.run requests).Yields (answers, b)) {s : RuleSet}
    (hs : .ok (some s) ∈ answers) : s.WellFormed := by
  obtain ⟨hopened, hholds⟩ := holds_of_start hstart
  obtain ⟨i, hi⟩ := List.mem_iff_getElem?.mp hs
  rcases Request.eq_map_add_or requests with ⟨sources, rfl⟩ | ⟨sources, post, rfl⟩
  · obtain ⟨b', hrun', -⟩ := run_of_opened hopened hholds sources
    cases hrun.unique hrun'
    exact absurd hi ne_of_getElem?_map_answerTo
  · obtain ⟨b', -, -, hb', hrun'⟩ := run_build hopened hholds sources post
    cases hrun.unique hrun'
    obtain ⟨-, rfl⟩ := eq_of_build_answer hi
    exact hb'.wellFormed (List.cons_ne_nil _ _)

end Started

/-- Every run of a builder is as it should be, whatever is asked of it after it has been started. -/
theorem run_lawful {first : RuleSource} {b₀ : Builder} (hstart : (start first).Yields (.ok b₀))
    (requests : List Request) :
    ∃ answers b, (b₀.run requests).Yields (answers, b) ∧
      Lawful b₀ first requests answers b := by
  obtain ⟨hopened, hholds⟩ := holds_of_start hstart
  rcases Request.eq_map_add_or requests with ⟨sources, rfl⟩ | ⟨sources, post, rfl⟩
  · obtain ⟨b, hrun, hopened', hb⟩ := run_of_opened hopened hholds sources
    exact ⟨_, b, hrun, lawful_of_opened hopened' hb⟩
  · obtain ⟨b', hrun, hopened', -, hbuild⟩ := run_build hopened hholds sources post
    exact ⟨_, spent, hbuild, lawful_of_build hrun hopened'⟩

/-- One such run: with a rule that does not compile, one that replaces another, and requests after the
build. -/
theorem run_lawful_mixed :
    ∃ b₀, (start ⟨⟨"a"⟩, "x", "y"⟩).Yields (.ok b₀) ∧
      ∃ answers b,
        (b₀.run [.add ⟨⟨"a"⟩, "(", "y"⟩, .add ⟨⟨"b"⟩, "x", "$0"⟩, .add ⟨⟨"a"⟩, "xx", "z"⟩, .build,
          .add ⟨⟨"b"⟩, "(", "z"⟩, .build]).Yields (answers, b) ∧
        Lawful b₀ ⟨⟨"a"⟩, "x", "y"⟩
          [.add ⟨⟨"a"⟩, "(", "y"⟩, .add ⟨⟨"b"⟩, "x", "$0"⟩, .add ⟨⟨"a"⟩, "xx", "z"⟩, .build,
            .add ⟨⟨"b"⟩, "(", "z"⟩, .build] answers b := by
  have hok : (RuleSource.compile? ⟨⟨"a"⟩, "x", "y"⟩).isOk = true := by decide +kernel
  cases hrule : RuleSource.compile? ⟨⟨"a"⟩, "x", "y"⟩ with
  | error e => exact nomatch hrule ▸ hok
  | ok rule => exact ⟨_, start_of_ok hrule, run_lawful (start_of_ok hrule) _⟩

end Builder

end Fieldwise
