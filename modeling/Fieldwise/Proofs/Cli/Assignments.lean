import Fieldwise.Proofs.Cli.Apply
import Fieldwise.Proofs.Lint
import Fieldwise.Proofs.Template.Anchor

/-!
# Assignments

Values come from a file and from assignments on the command line. An assignment is split at its first equals
sign, so that a name has none and a value can have any number, and there is no assignment without a name.
Assignments are made one after another over the values of the file. What a field is then found to be is the
value of the last assignment to it, or else what the file says of it (`Values.Overrides`). The order of
assignments counts only among those to one field.

Reading arguments keeps what has been read in a `Reader`. Everything that it holds for `--field` has been
looked at (`Reader.Checked`), so that no assignment is lost when the call is made of it.
-/

namespace Fieldwise

/-! ### Splitting an assignment -/

namespace Cli

/-- An assignment is split behind its name. -/
theorem splitAssignment?_append {name : List Char} (hname : '=' ∉ name) (value : List Char) :
    splitAssignment? (String.ofList (name ++ '=' :: value)) =
      if name.isEmpty then none else some (String.ofList name, String.ofList value) := by
  have htake : (name ++ '=' :: value).takeWhile (· != '=') = name := by
    rw [List.takeWhile_append_of_pos, List.takeWhile_cons_of_neg (by simp), List.append_nil]
    intro c hc
    rw [bne_iff_ne]
    rintro rfl
    exact hname hc
  simp only [splitAssignment?, String.toList_ofList, htake, List.drop_left]

/-- A text without an equals sign is no assignment. -/
theorem splitAssignment?_of_not_mem {text : String} (h : '=' ∉ text.toList) :
    splitAssignment? text = none := by
  have htake : text.toList.takeWhile (· != '=') = text.toList := by
    rw [List.takeWhile_eq_self_iff]
    intro c hc
    rw [bne_iff_ne]
    rintro rfl
    exact h hc
  rw [splitAssignment?, htake, List.drop_length]

theorem splitAssignment?_eq_some_iff {text name value : String} :
    splitAssignment? text = some (name, value) ↔
      name ≠ "" ∧ '=' ∉ name.toList ∧ name ++ "=" ++ value = text := by
  constructor
  · intro h
    by_cases hmem : '=' ∈ text.toList
    · obtain ⟨front, back, hsplit, hfront⟩ := List.eq_append_cons_of_mem hmem
      have htext : text = String.ofList (front ++ '=' :: back) := by
        rw [← hsplit, String.ofList_toList]
      rw [htext, splitAssignment?_append hfront] at h
      split at h
      · cases h
      · rename_i hne
        obtain ⟨rfl, rfl⟩ := Prod.mk.inj (Option.some.inj h)
        refine ⟨?_, by rwa [String.toList_ofList], ?_⟩
        · rw [ne_eq, ← String.toList_eq_nil_iff, String.toList_ofList]
          simpa using hne
        · apply String.toList_injective
          simp [hsplit]
    · rw [splitAssignment?_of_not_mem hmem] at h
      cases h
  · rintro ⟨hne, hname, rfl⟩
    have htext : name ++ "=" ++ value = String.ofList (name.toList ++ '=' :: value.toList) := by
      apply String.toList_injective
      simp
    rw [htext, splitAssignment?_append hname, if_neg (by simpa using hne), String.ofList_toList,
      String.ofList_toList]

/-- A text is an assignment exactly if there is an equals sign in it, and the first is not at its
beginning. -/
theorem isSome_splitAssignment?_iff {text : String} :
    (splitAssignment? text).isSome ↔ '=' ∈ text.toList ∧ text.toList.head? ≠ some '=' := by
  constructor
  · intro h
    obtain ⟨⟨name, value⟩, hsplit⟩ := Option.isSome_iff_exists.mp h
    obtain ⟨hne, hname, rfl⟩ := splitAssignment?_eq_some_iff.mp hsplit
    obtain ⟨c, rest, hcons⟩ := List.exists_cons_of_ne_nil (mt String.toList_eq_nil_iff.mp hne)
    refine ⟨by simp, ?_⟩
    rw [String.toList_append, String.toList_append, hcons, List.cons_append, List.cons_append,
      List.head?_cons]
    rintro h
    rw [hcons, Option.some.inj h] at hname
    exact hname List.mem_cons_self
  · rintro ⟨hmem, hhead⟩
    obtain ⟨name, value, hsplit, hname⟩ := List.eq_append_cons_of_mem hmem
    have hne : ¬name.isEmpty := by
      rw [List.isEmpty_iff]
      rintro rfl
      rw [hsplit] at hhead
      exact hhead rfl
    rw [← String.ofList_toList (s := text), hsplit, splitAssignment?_append hname, if_neg hne]
    rfl

end Cli

/-! ### Making assignments -/

namespace Values

variable {values values' : Values} {fields pre post : List (String × String)} {id : FieldId}

/-- What is found in `values'` is what the assignments make of `values`: of a field that has been assigned
the value of the last assignment, and of any other field what it was. -/
structure Overrides (fields : List (String × String)) (values values' : Values) : Prop where
  of_last : ∀ (pre post : List (String × String)) (name value : String),
    fields = pre ++ (name, value) :: post → (∀ p ∈ post, p.1 ≠ name) → values'.finder ⟨name⟩ = some value
  of_unassigned : ∀ id : FieldId, (∀ p ∈ fields, p.1 ≠ id.text) → values'.finder id = values.finder id

theorem finder_insert (values : Values) (name value : String) (id : FieldId) :
    (values.insert name value).finder id = if name = id.text then some value else values.finder id := by
  rw [insert, finder, List.lookup_cons]
  by_cases hname : name = id.text
  · rw [if_pos hname, hname, beq_self_eq_true]
  · rw [if_neg hname, (beq_eq_false_iff_ne).mpr (Ne.symm hname)]
    -- what is taken out is not what is looked for
    show (values.filter fun e => e.1 != name).lookup id.text = values.lookup id.text
    induction values with
    | nil => rfl
    | cons e rest ih =>
      by_cases he : e.1 = name
      · rw [List.filter_cons_of_neg (by simpa using he), ih, List.lookup_cons,
          (beq_eq_false_iff_ne).mpr (he ▸ Ne.symm hname)]
      · rw [List.filter_cons_of_pos (by simpa using he), List.lookup_cons, List.lookup_cons, ih]

theorem insertAll_append (values : Values) (pre post : List (String × String)) :
    insertAll values (pre ++ post) = insertAll (insertAll values pre) post := List.foldl_append

/-- The value of a field that is not assigned stays what it was. -/
theorem finder_insertAll_of_unassigned (h : ∀ p ∈ fields, p.1 ≠ id.text) :
    (insertAll values fields).finder id = values.finder id := by
  induction fields generalizing values with
  | nil => rfl
  | cons p rest ih =>
    obtain ⟨hp, hrest⟩ := List.forall_mem_cons.mp h
    calc (insertAll values (p :: rest)).finder id
        = (values.insert p.1 p.2).finder id := ih hrest
      _ = values.finder id := by rw [finder_insert, if_neg hp]

theorem overrides_insertAll (fields : List (String × String)) (values : Values) :
    Overrides fields values (insertAll values fields) where
  of_last := by
    rintro pre post name value rfl hpost
    rw [insertAll_append]
    calc ((insertAll values pre).insertAll ((name, value) :: post)).finder ⟨name⟩
        = ((insertAll values pre).insert name value).finder ⟨name⟩ := finder_insertAll_of_unassigned hpost
      _ = some value := by rw [finder_insert, if_pos rfl]
  of_unassigned := fun _ h => finder_insertAll_of_unassigned h

/-- A name has a last assignment or none. -/
theorem exists_last_or (fields : List (String × String)) (name : String) :
    (∃ pre value post, fields = pre ++ (name, value) :: post ∧ ∀ p ∈ post, p.1 ≠ name) ∨
      ∀ p ∈ fields, p.1 ≠ name := by
  cases hlast : (fields.filter fun p => p.1 = name).getLast? with
  | none =>
    right
    simpa using List.getLast?_eq_none_iff.mp hlast
  | some p =>
    obtain ⟨hp, pre, post, hsplit, hpost⟩ := getLast?_filter_eq_some_iff.mp hlast
    obtain ⟨name', value⟩ := p
    obtain rfl : name' = name := by simpa using hp
    exact .inl ⟨pre, value, post, hsplit, fun q hq => by simpa using hpost q hq⟩

/-- What the assignments make of values determines what is found in them. -/
theorem Overrides.finder_eq {values'' : Values} (h : Overrides fields values values')
    (h' : Overrides fields values values'') : values'.finder = values''.finder := by
  funext id
  rcases exists_last_or fields id.text with ⟨pre, value, post, hsplit, hpost⟩ | hnone
  · calc values'.finder id
        = some value := h.of_last pre post id.text value hsplit hpost
      _ = values''.finder id := (h'.of_last pre post id.text value hsplit hpost).symm
  · rw [h.of_unassigned id hnone, h'.of_unassigned id hnone]

/-- Values in which the same is found are made values of in which the same is found. -/
theorem finder_insertAll_congr (fields : List (String × String)) (h : values.finder = values'.finder) :
    (insertAll values fields).finder = (insertAll values' fields).finder := by
  apply (overrides_insertAll fields values).finder_eq
  obtain ⟨hlast, hunassigned⟩ := overrides_insertAll fields values'
  refine ⟨hlast, fun id hid => ?_⟩
  rw [hunassigned id hid, h]

/-- Assignments to different fields can be made in either order. -/
theorem finder_insertAll_comm {p q : String × String} (hne : p.1 ≠ q.1) :
    (insertAll values (pre ++ p :: q :: post)).finder =
      (insertAll values (pre ++ q :: p :: post)).finder := by
  rw [insertAll_append, insertAll_append]
  apply finder_insertAll_congr post
  funext id
  simp only [finder_insert]
  by_cases hp : p.1 = id.text
  · have hq : q.1 ≠ id.text := hp ▸ Ne.symm hne
    simp only [if_neg hq, if_pos hp]
  · rw [if_neg hp, if_neg hp]

/-- An assignment that is followed by one to the same field has no effect. -/
theorem finder_insertAll_of_reassigned {p : String × String} (h : p.1 ∈ post.map Prod.fst) :
    (insertAll values (pre ++ p :: post)).finder = (insertAll values (pre ++ post)).finder := by
  rw [insertAll_append, insertAll_append]
  obtain ⟨q, hq, hpq⟩ := List.mem_map.mp h
  funext id
  rcases exists_last_or post id.text with ⟨front, value, back, rfl, hback⟩ | hnone
  · calc ((insertAll values pre).insertAll (p :: (front ++ (id.text, value) :: back))).finder id
        = some value :=
          (overrides_insertAll (p :: (front ++ (id.text, value) :: back)) _).of_last (p :: front) back
            id.text value rfl hback
      _ = ((insertAll values pre).insertAll (front ++ (id.text, value) :: back)).finder id :=
          ((overrides_insertAll _ _).of_last front back id.text value rfl hback).symm
  · have hp : p.1 ≠ id.text := hpq ▸ hnone q hq
    rw [finder_insertAll_of_unassigned hnone, finder_insertAll_of_unassigned]
    exact List.forall_mem_cons.mpr ⟨hp, hnone⟩

/-- The values that a file gives if there is one. -/
def fromFile (read : FileReader) (path : Option String) : Except Report Values :=
  path.elim (.ok []) (load read)

theorem collect_eq (read : FileReader) (path : Option String) (fields : List (String × String)) :
    collect read path fields = (fromFile read path).map fun values => insertAll values fields := by
  cases path with
  | none => rfl
  | some path =>
    rw [collect, fromFile, Option.elim_some]
    cases load read path <;> rfl

theorem collect_of_fromFile {read : FileReader} {path : Option String} (fields : List (String × String))
    (h : fromFile read path = .ok values) :
    collect read path fields = .ok (insertAll values fields) := by
  rw [collect_eq, h]
  rfl

end Values

/-! ### Reading arguments -/

namespace Cli

open Pattern (exists_of_bind_eq_ok)

namespace Reader

variable {r r' : Reader} {option : OptionName} {options : List OptionName} {value : String}

/-- Every assignment that has been given is one. -/
def Checked (r : Reader) : Prop :=
  ∀ text, (OptionName.field, text) ∈ r.given → (splitAssignment? text).isSome

theorem checkValue_field_eq_ok_iff : checkValue .field value = .ok () ↔ (splitAssignment? value).isSome := by
  rw [checkValue]
  split
  · exact iff_of_true rfl (by assumption)
  · exact iff_of_false nofun (by assumption)

/-- An option that is added comes after what has been given. -/
theorem given_of_add (h : r.add option value = .ok r') : r'.given = r.given ++ [(option, value)] := by
  unfold add at h
  split at h
  · cases h
  · rw [← Except.ok.inj h]

theorem Checked.add (hr : r.Checked) (h : r.add option value = .ok r')
    (hvalue : option = .field → (splitAssignment? value).isSome) : r'.Checked := by
  intro text hmem
  rw [given_of_add h, List.mem_append, List.mem_singleton] at hmem
  rcases hmem with hmem | hmem
  · exact hr text hmem
  · obtain ⟨hoption, rfl⟩ := Prod.mk.inj hmem
    exact hvalue hoption.symm

theorem Checked.settle (hr : r.Checked) (h : r.settle = .ok r') : r'.Checked := by
  unfold Reader.settle at h
  split at h
  · rw [← Except.ok.inj h]
    exact hr
  · cases h
  · obtain ⟨added, hadd, h⟩ := exists_of_bind_eq_ok h
    obtain ⟨⟨⟩, hcheck, h⟩ := exists_of_bind_eq_ok h
    rw [← Except.ok.inj h]
    refine Checked.add (r := { r with pending := none }) hr hadd ?_
    rintro rfl
    exact checkValue_field_eq_ok_iff.mp hcheck

theorem Checked.addFlag (hr : r.Checked) (hoption : option ≠ .field) (h : r.addFlag option = .ok r') :
    r'.Checked := by
  obtain ⟨settled, hsettle, h⟩ := exists_of_bind_eq_ok h
  split at h
  · cases h
  · cases h
  · exact (hr.settle hsettle).add h fun hfield => absurd hfield hoption

theorem Checked.addOption {value : Option String} (hr : r.Checked) (h : r.addOption option value = .ok r') :
    r'.Checked := by
  obtain ⟨settled, hsettle, h⟩ := exists_of_bind_eq_ok h
  have hsettled := hr.settle hsettle
  split at h
  · exact Checked.settle (r := { settled with pending := some (option, some _) }) hsettled h
  · rw [← Except.ok.inj h]
    exact hsettled

/-- What has no value is no assignment. -/
theorem ne_field_of_not_hasValue (h : ¬option.hasValue) : option ≠ .field := by
  rintro rfl
  exact h rfl

theorem Checked.readLong {text : List Char} (hr : r.Checked) (h : r.readLong options text = .ok r') :
    r'.Checked := by
  unfold Reader.readLong at h
  dsimp only at h
  split at h
  · cases h
  · split at h
    · exact hr.addOption h
    · rename_i hvalue
      split at h
      · cases h
      · exact hr.addFlag (ne_field_of_not_hasValue hvalue) h

theorem Checked.readShort {text : List Char} (hr : r.Checked) (h : r.readShort options text = .ok r') :
    r'.Checked := by
  induction text generalizing r with
  | nil =>
    rw [← Except.ok.inj h]
    exact hr
  | cons c rest ih =>
    unfold Reader.readShort at h
    split at h
    · cases h
    · split at h
      · exact hr.addOption h
      · rename_i hvalue
        obtain ⟨added, hadd, h⟩ := exists_of_bind_eq_ok h
        exact ih (hr.addFlag (ne_field_of_not_hasValue hvalue) hadd) h

/-- Whatever is read, every assignment among it is one. -/
theorem Checked.readArguments {inCommand : Bool} {arguments unread : List String} (hr : r.Checked)
    (h : readArguments options inCommand r arguments = .ok (r', unread)) : r'.Checked := by
  induction arguments generalizing r with
  | nil =>
    obtain ⟨settled, hsettle, h⟩ := exists_of_bind_eq_ok h
    cases h
    exact hr.settle hsettle
  | cons argument rest ih =>
    unfold Cli.readArguments at h
    dsimp only at h
    split at h
    · cases h
      exact hr
    split at h
    · split at h
      · obtain ⟨settled, hsettle, h⟩ := exists_of_bind_eq_ok h
        cases h
        exact hr.settle hsettle
      · cases h
    split at h
    · obtain ⟨read, hread, h⟩ := exists_of_bind_eq_ok h
      exact ih (hr.readLong hread) h
    · obtain ⟨read, hread, h⟩ := exists_of_bind_eq_ok h
      exact ih (hr.readShort hread) h
    · split at h
      · exact ih (r := r.takeValue argument) hr h
      · cases h

/-- The assignments of what has been read are all that have been given. -/
theorem Checked.map_some_assignments (hr : r.Checked) :
    r.assignments.map some = (r.given.filter (·.1 == .field)).map fun p => splitAssignment? p.2 := by
  rw [assignments, List.map_filterMap]
  have hall : ∀ p ∈ r.given.filter (·.1 == .field), (splitAssignment? p.2).isSome := by
    rintro ⟨option, text⟩ hmem
    obtain ⟨hmem, hoption⟩ := List.mem_filter.mp hmem
    obtain rfl : option = .field := by simpa using hoption
    exact hr text hmem
  rw [← List.filterMap_eq_map]
  refine List.filterMap_congr fun p hp => ?_
  obtain ⟨assignment, hassignment⟩ := Option.isSome_iff_exists.mp (hall p hp)
  show (splitAssignment? p.2).map some = some (splitAssignment? p.2)
  rw [hassignment]
  rfl

end Reader

theorem CommandName.eq_of_ofString?_eq_apply {name : String} (h : CommandName.ofString? name = some .apply) :
    name = "apply" := by
  unfold ofString? at h
  split at h
  · rfl
  all_goals cases h

/-- What a call applies assigns what was given, text for text. -/
theorem exists_given_of_parse {arguments : List String} {rules : String} {path : Option String}
    {fields : List (String × String)} {report json quiet debug : Bool}
    (h : Call.parse arguments = .ok ⟨.apply rules path fields report json, quiet, debug⟩) :
    ∃ (outer inner : Reader) (rest unread : List String),
      readArguments outerOptions false ⟨[], none⟩ arguments = .ok (outer, "apply" :: rest) ∧
      readArguments CommandName.apply.options true ⟨[], none⟩ rest = .ok (inner, unread) ∧
      (inner.given.filter (·.1 == .field)).map (fun p => splitAssignment? p.2) = fields.map some := by
  unfold Call.parse at h
  obtain ⟨⟨outer, left⟩, houter, h⟩ := exists_of_bind_eq_ok h
  cases left with
  | nil => cases h
  | cons name rest =>
    dsimp only at h
    split at h
    · cases h
    rename_i command hcommand
    obtain ⟨⟨inner, unread⟩, hinner, h⟩ := exists_of_bind_eq_ok h
    dsimp only at h
    split at h
    · obtain ⟨hcall, -⟩ := Call.mk.inj (Except.ok.inj h)
      cases command with
      | apply =>
        obtain rfl := CommandName.eq_of_ofString?_eq_apply hcommand
        obtain ⟨-, -, rfl, -⟩ := Command.apply.inj hcall
        have hchecked : inner.Checked := Reader.Checked.readArguments (r := ⟨[], none⟩) nofun hinner
        exact ⟨outer, inner, rest, unread, houter, hinner, hchecked.map_some_assignments.symm⟩
      | check => cases hcall
      | encode => cases hcall
      | decode => cases hcall
    · cases h

/-- What has been read up to a command leaves its options to be read. -/
theorem parse_of_readArguments {arguments rest : List String} {name : String} {outer : Reader}
    {command : CommandName}
    (houter : readArguments outerOptions false ⟨[], none⟩ arguments = .ok (outer, name :: rest))
    (hcommand : CommandName.ofString? name = some command) :
    Call.parse arguments = (readArguments command.options true ⟨[], none⟩ rest >>= fun read =>
      if command.required.all read.1.has then
        .ok { command := read.1.command command
              quiet := outer.has .quiet || read.1.has .quiet
              debug := outer.has .debug || read.1.has .debug }
      else .error .missingOption) := by
  rw [Call.parse, houter]
  dsimp only [bind, Except.bind]
  rw [hcommand]

/-! ### Calls with assignments -/

/-- A call that applies the rules of a file to the values of another, if there is one, and to
assignments. -/
def applyArguments (rules : String) (path : Option String) (texts : List String) : List String :=
  "apply" :: ("--rules=" ++ rules) :: (path.toList.map fun file => "--values=" ++ file) ++
    texts.map fun text => "--field=" ++ text

section Reading

variable {options : List OptionName} {option : OptionName} {r : Reader} {value : String}

/-- No long name has an equals sign in it. -/
theorem OptionName.takeWhile_long (o : OptionName) (text : List Char) :
    (o.long.toList ++ '=' :: text).takeWhile (· != '=') = o.long.toList := by
  cases o <;> rfl

/-- Reading an argument that gives the value of an option adds the option with the value, and looks at
it. -/
theorem readArguments_long (option : OptionName) (value : String) (hr : r.pending = none)
    (hvalue : option.hasValue)
    (hfind : options.find? (·.long == option.long) = some option) (rest : List String) :
    readArguments options true r (("--" ++ option.long ++ "=" ++ value) :: rest) = (do
      let r ← r.add option value
      checkValue option value
      readArguments options true r rest) := by
  have htext : ("--" ++ option.long ++ "=" ++ value).toList =
      '-' :: '-' :: (option.long.toList ++ '=' :: value.toList) := by
    simp
  have hread : r.readLong options (option.long.toList ++ '=' :: value.toList) = (do
      let r ← r.add option value
      checkValue option value
      .ok r) := by
    obtain ⟨given, pending⟩ := r
    cases hr
    unfold Reader.readLong
    rw [OptionName.takeWhile_long, String.ofList_toList]
    simp only [hfind, hvalue, if_true, ← String.length_toList, List.drop_left, List.tail?_cons,
      Option.map_some, String.ofList_toList]
    rfl
  have hdashes : ("--" ++ option.long ++ "=" ++ value == "--") = false := by
    rw [beq_eq_false_iff_ne]
    intro heq
    have hlength := congrArg (fun text : String => text.toList.length) heq
    rw [htext] at hlength
    simp at hlength
  conv_lhs => unfold readArguments
  simp only [Bool.not_true, Bool.false_and, Bool.false_eq_true, if_false, hdashes, htext, hread]
  cases r.add option value with
  | error e => rfl
  | ok added =>
    show (checkValue option value >>= fun _ => Except.ok added) >>= _ = checkValue option value >>= _
    cases checkValue option value <;> rfl

/-- Adding an option that can be given again, or has not been given, goes well. -/
theorem Reader.add_of_not_has (h : r.has option = false ∨ option.isRepeatable) :
    r.add option value = .ok { r with given := r.given ++ [(option, value)] } := by
  have hnot : (r.has option && !option.isRepeatable) = false := by
    rcases h with h | h
    · rw [h, Bool.false_and]
    · rw [h, Bool.not_true, Bool.and_false]
  rw [Reader.add, hnot]
  rfl

/-- What comes of reading assignments only: they are all given, or one is refused. -/
theorem readArguments_fields (r : Reader) (hr : r.pending = none) (texts : List String) :
    readArguments CommandName.apply.options true r (texts.map fun text => "--field=" ++ text) =
      match texts.find? fun text => (splitAssignment? text).isNone with
      | some text => .error (.badAssignment text)
      | none => .ok ({ r with given := r.given ++ texts.map fun text => (.field, text) }, []) := by
  induction texts generalizing r with
  | nil =>
    obtain ⟨given, pending⟩ := r
    cases hr
    rw [List.map_nil, List.find?_nil, List.map_nil, List.append_nil]
    rfl
  | cons text rest ih =>
    have hadd : r.add .field text = .ok { r with given := r.given ++ [(.field, text)] } :=
      Reader.add_of_not_has (.inr rfl)
    rw [List.map_cons, List.find?_cons]
    refine (readArguments_long .field text hr rfl rfl _).trans ?_
    rw [hadd]
    show (checkValue .field text >>= fun _ => readArguments _ true _ _) = _
    cases hsplit : splitAssignment? text with
    | none =>
      have hcheck : checkValue .field text = .error (.badAssignment text) := by rw [checkValue, hsplit]; rfl
      rw [hcheck]
      rfl
    | some assignment =>
      have hcheck : checkValue .field text = .ok () :=
        Reader.checkValue_field_eq_ok_iff.mpr (by rw [hsplit]; rfl)
      rw [hcheck]
      refine (ih { r with given := r.given ++ [(.field, text)] } hr).trans ?_
      rw [List.append_assoc]
      rfl

/-- Reading the value of an option that must not be empty, and is not. -/
theorem readArguments_file (option : OptionName) (hr : r.pending = none) (hhas : r.has option = false)
    (hoption : option = .rules ∨ option = .values) (hvalue : value ≠ "") (rest : List String) :
    readArguments CommandName.apply.options true r (("--" ++ option.long ++ "=" ++ value) :: rest) =
      readArguments CommandName.apply.options true { r with given := r.given ++ [(option, value)] } rest := by
  have hcheck : checkValue option value = .ok () := by
    have hempty : value.isEmpty = false := by simpa using hvalue
    rcases hoption with rfl | rfl
    · simp only [checkValue, hempty]; rfl
    · simp only [checkValue, hempty]; rfl
  have hread : readArguments CommandName.apply.options true r (("--" ++ option.long ++ "=" ++ value) :: rest) =
      (do
        let r ← r.add option value
        checkValue option value
        readArguments CommandName.apply.options true r rest) := by
    rcases hoption with rfl | rfl
    · exact readArguments_long .rules value hr rfl rfl rest
    · exact readArguments_long .values value hr rfl rfl rest
  rw [hread, Reader.add_of_not_has (.inl hhas), hcheck]
  rfl

/-- What is read of a call with assignments. -/
def applyReader (rules : String) (path : Option String) (texts : List String) : Reader :=
  ⟨(.rules, rules) :: (path.toList.map fun file => (.values, file)) ++
    texts.map fun text => (.field, text), none⟩

variable {rules : String} {path : Option String}

/-- No other options are given. -/
theorem has_applyReader {texts : List String} (option : OptionName) (hrules : option ≠ .rules)
    (hvalues : option ≠ .values) (hfield : option ≠ .field) : (applyReader rules path texts).has option = false := by
  simp [applyReader, Reader.has, hrules.symm, hvalues.symm, hfield.symm]

theorem value?_values_applyReader (texts : List String) :
    (applyReader rules path texts).value? .values = path := by
  have hnone : (texts.map fun text => (OptionName.field, text)).lookup .values = none := by
    simp [List.lookup_eq_none_iff]
  have hrest : (applyReader rules path texts).value? .values =
      ((path.toList.map fun file => (OptionName.values, file)) ++
        texts.map fun text => (OptionName.field, text)).lookup .values := rfl
  rw [hrest, List.lookup_append, hnone, Option.or_none]
  cases path <;> rfl

theorem command_applyReader (texts : List String) :
    (applyReader rules path texts).command .apply =
      .apply rules path (texts.filterMap splitAssignment?) false false := by
  have hassignments : (applyReader rules path texts).assignments = texts.filterMap splitAssignment? := by
    simp [applyReader, Reader.assignments, List.filter_map, List.filterMap_map, Function.comp_def]
  rw [Reader.command, value?_values_applyReader, hassignments,
    has_applyReader .report nofun nofun nofun, has_applyReader .json nofun nofun nofun]
  rfl

/-- A call with assignments is one if all of them are, and then makes them in their order. -/
theorem parse_applyArguments (texts : List String) (hrules : rules ≠ "") (hpath : path ≠ some "") :
    Call.parse (applyArguments rules path texts) =
      match texts.find? fun text => (splitAssignment? text).isNone with
      | some text => .error (.badAssignment text)
      | none =>
        .ok ⟨.apply rules path (texts.filterMap splitAssignment?) false false, false, false⟩ := by
  have hread : readArguments CommandName.apply.options true ⟨[], none⟩ (applyArguments rules path texts).tail =
      match texts.find? fun text => (splitAssignment? text).isNone with
      | some text => .error (.badAssignment text)
      | none => .ok (applyReader rules path texts, []) := by
    refine (readArguments_file .rules rfl rfl (.inl rfl) hrules _).trans ?_
    cases path with
    | none => exact readArguments_fields ⟨[(.rules, rules)], none⟩ rfl texts
    | some file =>
      refine (readArguments_file .values rfl rfl (.inr rfl) (fun h => hpath (congrArg some h)) _).trans ?_
      exact readArguments_fields ⟨[(.rules, rules), (.values, file)], none⟩ rfl texts
  have houter : readArguments outerOptions false ⟨[], none⟩ (applyArguments rules path texts) =
      .ok (⟨[], none⟩, "apply" :: (applyArguments rules path texts).tail) := rfl
  have hcommand : CommandName.ofString? "apply" = some .apply := rfl
  rw [parse_of_readArguments houter hcommand, hread]
  cases texts.find? fun text => (splitAssignment? text).isNone with
  | some text => rfl
  | none =>
    show Except.ok (Call.mk ((applyReader rules path texts).command .apply)
      (false || (applyReader rules path texts).has .quiet)
      (false || (applyReader rules path texts).has .debug)) = _
    rw [command_applyReader, has_applyReader .quiet nofun nofun nofun,
      has_applyReader .debug nofun nofun nofun]
    rfl

end Reading

/-- Texts that are all assignments make them in their order. -/
theorem parse_applyArguments_of_split {rules : String} {path : Option String} {texts : List String}
    {fields : List (String × String)} (hrules : rules ≠ "") (hpath : path ≠ some "")
    (hfields : texts.map splitAssignment? = fields.map some) :
    Call.parse (applyArguments rules path texts) =
      .ok ⟨.apply rules path fields false false, false, false⟩ := by
  have hnone : (texts.find? fun text => (splitAssignment? text).isNone) = none := by
    rw [List.find?_eq_none]
    intro text htext
    have hmem : splitAssignment? text ∈ fields.map some := hfields ▸ List.mem_map_of_mem htext
    obtain ⟨p, -, hp⟩ := List.mem_map.mp hmem
    rw [← hp]
    exact Bool.false_ne_true
  have hsplit : texts.filterMap splitAssignment? = fields := by
    calc texts.filterMap splitAssignment?
        = (texts.map splitAssignment?).filterMap id := by rw [List.filterMap_map]; rfl
      _ = fields := by rw [hfields, List.filterMap_map]; exact List.filterMap_some
  rw [parse_applyArguments texts hrules hpath, hnone, hsplit]

variable {w : World} {rules : String} {path : Option String} {texts : List String}
  {fields : List (String × String)} {values : Values} {f : RuleFile} {s : RuleSet}

/-- Applying from the command line goes by what the assignments make of the values of the file. -/
theorem run_applyArguments (hrules : rules ≠ "") (hpath : path ≠ some "")
    (hfields : texts.map splitAssignment? = fields.map some)
    (hvalues : Values.fromFile w.read path = .ok values)
    (hload : (RuleFile.load w.read rules).Yields (.ok f)) (hbuild : f.build.Yields (.ok s)) :
    (∀ o : Outcome, Attempt.Yields (s.apply w.disclosure (values.insertAll fields).finder) (.ok o) →
      (run w (applyArguments rules path texts)).Succeeds (Utf8.encodeString (o.write false)) []) ∧
    ∀ e : Error, Attempt.Yields (s.apply w.disclosure (values.insertAll fields).finder) (.error e) →
      ∃ earlier, (run w (applyArguments rules path texts)).Fails earlier
        ((Report.ofError e).within "Failed to apply field substitutions") := by
  have hcollect := Values.collect_of_fromFile fields hvalues
  have hrun : run w (applyArguments rules path texts) =
      Call.result w ⟨.apply rules path fields false false, false, false⟩ := by
    rw [run, parse_applyArguments_of_split hrules hpath hfields]
  rw [hrun]
  constructor
  · intro o ho
    have happlied : RuleFile.applied s (values.insertAll fields) = .ok o := by
      rw [RuleFile.applied, (s.apply_yields _ _).unique ho]
      rfl
    have happly : (f.apply w.disclosure (values.insertAll fields)).Yields (.ok o) :=
      happlied ▸ RuleFile.apply_of_build_ok hbuild
    exact succeeds_of_apply hload hcollect happly false false false false
  · intro e he
    have happlied : RuleFile.applied s (values.insertAll fields) =
        .error ((Report.ofError e).within "Failed to apply field substitutions") := by
      rw [RuleFile.applied, (s.apply_yields _ _).unique he]
      rfl
    obtain ⟨notes, -, hfails⟩ := Call.fails_of_outcome
      (c := ⟨.apply rules path fields false false, false, false⟩)
      (outcome_of_applied_error hload hbuild hcollect happlied)
    exact ⟨_, hfails⟩

/-- **The last assignment wins.** A text is an assignment exactly if it has an equals sign and does not begin
with one. It is then split at the first, so that its name is not empty and has no equals sign, while any
value is possible, and the parts make up the text. A call with a list of texts is refused for the first that
is no assignment, and otherwise makes all of them in their order; and every call of whatever form makes all
the assignments that it was given. The values of a call come to what the assignments make of those of the
file: of a field that is assigned the value of the last assignment to it, and of any other what the file
says. Thus assignments to different fields can be made in either order, one that is followed by another to
the same field has no effect, and a field with an equals sign in its name has what the file says. By these
values the rule set is applied. -/
theorem last_assignment_wins :
    (∀ text : String, (splitAssignment? text).isSome ↔
      '=' ∈ text.toList ∧ text.toList.head? ≠ some '=') ∧
    (∀ text name value : String, splitAssignment? text = some (name, value) ↔
      name ≠ "" ∧ '=' ∉ name.toList ∧ name ++ "=" ++ value = text) ∧
    (∀ (rules : String) (path : Option String) (texts : List String), rules ≠ "" → path ≠ some "" →
      Call.parse (applyArguments rules path texts) =
        match texts.find? fun text => (splitAssignment? text).isNone with
        | some text => .error (.badAssignment text)
        | none =>
          .ok ⟨.apply rules path (texts.filterMap splitAssignment?) false false, false, false⟩) ∧
    (∀ (arguments : List String) (rules : String) (path : Option String)
      (fields : List (String × String)) (report json quiet debug : Bool),
      Call.parse arguments = .ok ⟨.apply rules path fields report json, quiet, debug⟩ →
      ∃ (outer inner : Reader) (rest unread : List String),
        readArguments outerOptions false ⟨[], none⟩ arguments = .ok (outer, "apply" :: rest) ∧
        readArguments CommandName.apply.options true ⟨[], none⟩ rest = .ok (inner, unread) ∧
        (inner.given.filter (·.1 == .field)).map (fun p => splitAssignment? p.2) = fields.map some) ∧
    (∀ (read : FileReader) (path : Option String) (fields : List (String × String)) (values : Values),
      Values.fromFile read path = .ok values →
      ∃ values', Values.collect read path fields = .ok values' ∧
        Values.Overrides fields values values') ∧
    (∀ (pre post : List (String × String)) (p q : String × String) (values v v' : Values),
      Values.Overrides (pre ++ p :: q :: post) values v →
      Values.Overrides (pre ++ q :: p :: post) values v' → p.1 ≠ q.1 → v.finder = v'.finder) ∧
    (∀ (pre post : List (String × String)) (p : String × String) (values v v' : Values),
      Values.Overrides (pre ++ p :: post) values v → Values.Overrides (pre ++ post) values v' →
      p.1 ∈ post.map Prod.fst → v.finder = v'.finder) ∧
    (∀ (fields : List (String × String)) (texts : List String) (values v : Values) (id : FieldId),
      texts.map splitAssignment? = fields.map some → Values.Overrides fields values v →
      '=' ∈ id.text.toList → v.finder id = values.finder id) ∧
    ∀ (w : World) (rules : String) (path : Option String) (texts : List String)
      (fields : List (String × String)) (values : Values) (f : RuleFile) (s : RuleSet),
      rules ≠ "" → path ≠ some "" → texts.map splitAssignment? = fields.map some →
      Values.fromFile w.read path = .ok values → (RuleFile.load w.read rules).Yields (.ok f) →
      f.build.Yields (.ok s) →
      ∃ values', Values.Overrides fields values values' ∧
        (∀ o : Outcome, Attempt.Yields (s.apply w.disclosure values'.finder) (.ok o) →
          (run w (applyArguments rules path texts)).Succeeds (Utf8.encodeString (o.write false)) []) ∧
        ∀ e : Error, Attempt.Yields (s.apply w.disclosure values'.finder) (.error e) →
          ∃ earlier, (run w (applyArguments rules path texts)).Fails earlier
            ((Report.ofError e).within "Failed to apply field substitutions") := by
  refine ⟨fun _ => isSome_splitAssignment?_iff, fun _ _ _ => splitAssignment?_eq_some_iff,
    fun _ _ texts => parse_applyArguments texts, fun _ _ _ _ _ _ _ _ => exists_given_of_parse,
    fun read path fields values hfile => ?_, fun pre post p q values v v' hv hv' hne => ?_,
    fun pre post p values v v' hv hv' hmem => ?_, fun fields texts values v id hfields hv hid => ?_,
    fun w rules path texts fields values f s hrules hpath hfields hfile hload hbuild => ?_⟩
  · exact ⟨_, Values.collect_of_fromFile fields hfile, Values.overrides_insertAll fields values⟩
  · calc v.finder
        = (values.insertAll (pre ++ p :: q :: post)).finder := hv.finder_eq (Values.overrides_insertAll _ _)
      _ = (values.insertAll (pre ++ q :: p :: post)).finder := Values.finder_insertAll_comm hne
      _ = v'.finder := (Values.overrides_insertAll _ _).finder_eq hv'
  · calc v.finder
        = (values.insertAll (pre ++ p :: post)).finder := hv.finder_eq (Values.overrides_insertAll _ _)
      _ = (values.insertAll (pre ++ post)).finder := Values.finder_insertAll_of_reassigned hmem
      _ = v'.finder := (Values.overrides_insertAll _ _).finder_eq hv'
  · apply hv.of_unassigned
    intro p hp heq
    have hmem : some p ∈ texts.map splitAssignment? := hfields ▸ List.mem_map_of_mem hp
    obtain ⟨text, -, hsplit⟩ := List.mem_map.mp hmem
    obtain ⟨-, hname, -⟩ := splitAssignment?_eq_some_iff.mp hsplit
    rw [heq] at hname
    exact hname hid
  · exact ⟨_, Values.overrides_insertAll fields values,
      run_applyArguments hrules hpath hfields hfile hload hbuild⟩

/-- Of two assignments to a field the last is what a rule finds, with the equals sign in its value. -/
theorem last_assignment_wins_repeated :
    let f : RuleFile := ⟨[⟨⟨⟨"n"⟩, "[0-9]+", "$0"⟩, none⟩]⟩
    let w := World.constant (Utf8.encodeString f.toYaml)
    (run w (applyArguments "rules.yaml" none ["n=1", "m=2", "n=3=4"])).Succeeds
      (Utf8.encodeString "3=4\n") [] := by
  intro f w
  have hload : (RuleFile.load w.read "rules.yaml").Yields (.ok f) := f.isLoadedFrom_toYaml _ _ rfl
  have hok : ∀ spec ∈ f.rules, spec.Compiles :=
    RuleSource.forall_compiles_of_all RuleSpec.toRuleSource (by decide +kernel)
  obtain ⟨s, hbuild, -, hkeeps⟩ := RuleFile.exists_build_of_keeping hok
  obtain ⟨-, -, -, -, -, -, -, -, hrun⟩ := last_assignment_wins
  obtain ⟨values', hover, hsucceeds, -⟩ := hrun w "rules.yaml" none ["n=1", "m=2", "n=3=4"]
    [("n", "1"), ("m", "2"), ("n", "3=4")] [] f s (by decide) nofun rfl rfl hload hbuild
  have hvalue : values'.finder ⟨"n"⟩ = some "3=4" :=
    hover.of_last [("n", "1"), ("m", "2")] [] "n" "3=4" rfl nofun
  have happly := s.apply_yields w.disclosure values'.finder
  rw [hkeeps values'.finder "3=4" hvalue] at happly
  exact hsucceeds ⟨"3=4", []⟩ happly

/-- An equals sign behind the first place is not enough: two of them are no assignment, since there is no
name before the first. -/
theorem two_equals_signs_refused :
    (¬∀ text : String, (splitAssignment? text).isSome ↔ ∃ i, i ≠ 0 ∧ text.toList[i]? = some '=') ∧
    Call.parse ["apply", "-r", "r", "-f", "=="] = .error (.badAssignment "==") := by
  refine ⟨fun h => ?_, rfl⟩
  have hnone : (splitAssignment? "==").isSome = true := (h "==").mpr ⟨1, by decide, rfl⟩
  cases hnone

end Cli

end Fieldwise
