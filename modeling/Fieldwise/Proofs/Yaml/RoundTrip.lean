import Fieldwise.Proofs.Yaml.Decode
import Fieldwise.Record
import Fieldwise.RuleFile

/-!
# Records and rule files as YAML

What is written as YAML is read back as it was, whatever texts it holds.
-/

namespace Fieldwise

open Yaml Yaml.Scan

/-! ### Records -/

namespace Record

/-- A list of a record as a member of a mapping. -/
def listMember (name : String) (texts : List String) : Member :=
  ⟨name.toList, sequenceKinds (texts.map textKinds), Decodes (fun d => d.list d.text) texts⟩

/-- The members that a record is written as. -/
def members (r : Record) : List Member :=
  [listMember "field_ids" r.fieldIds, listMember "patterns" r.patterns, listMember "templates" r.templates]

theorem reads_listMember (name : String) (texts : List String) :
    Reads .afterKey (listMember name texts).kinds (listMember name texts).Holds :=
  (reads_sequence fun text _ => reads_text .block text).mono fun _ hn => by
    simpa only [listMember, List.map_id] using decodes_list id hn

theorem reads_members (r : Record) : ∀ m ∈ r.members, Reads .afterKey m.kinds m.Holds := by
  simp only [members, List.forall_mem_cons, reads_listMember, List.not_mem_nil, true_and]
  nofun

theorem takes_list {name : String} {levels : List Nat} (hname : IsName name.toList) (texts : List String)
    (hlevels : keyLevels 0 levels = [1]) :
    Takes (writeSequence name (writeScalar 2) texts) 0 levels
      (keyKinds (levels.headD 0 ≤ 0) name.toList ++ (listMember name texts).kinds) 0 [1] :=
  takes_sequence hname (fun text _ => takes_scalar text) hlevels

theorem decodes_members (r : Record) {n : Node} (h : IsMapping r.members n) : Decodes decoder r n := by
  refine Yaml.decodes_members h (s := ⟨some r.fieldIds, some r.patterns, some r.templates⟩) (fun d => ?_) rfl
  refine .cons rfl (fun path v hv => field_eq hv _ _ d path) ?_
  refine .cons rfl (fun path v hv => field_eq hv _ _ d path) ?_
  exact .cons rfl (fun path v hv => field_eq hv _ _ d path) (.nil _)

/-- A record is read back from its YAML. -/
theorem decode_toYaml (r : Record) : Yaml.decode decoder r.toYaml = .ok r := by
  have hfieldIds : IsName "field_ids".toList := ⟨by decide, by decide, by decide⟩
  have hpatterns : IsName "patterns".toList := ⟨by decide, by decide, by decide⟩
  have htemplates : IsName "templates".toList := ⟨by decide, by decide, by decide⟩
  have hwritten : Takes _ 0 [] _ 0 [1] := ((takes_list hfieldIds r.fieldIds rfl).append
    (takes_list hpatterns r.patterns rfl)).append (takes_list htemplates r.templates rfl)
  refine decode_eq hwritten ?_ r.reads_members fun _ => r.decodes_members
  simp [mappingKinds, keyKinds, memberKinds, members, listMember]

end Record

/-! ### Rule files -/

namespace RuleFile

/-- A text of a rule as a member of a mapping. -/
def textMember (name text : String) : Member := ⟨name.toList, textKinds text, Decodes Document.text text⟩

/-- A text of a rule that might be missing as a member of a mapping. -/
def optionalMember (name text : String) : Member :=
  ⟨name.toList, textKinds text, Decodes (fun d => d.optional d.text) (some text)⟩

/-- The members that a rule is written as. -/
def ruleMembers (r : RuleSpec) : List Member :=
  [textMember "field" r.field.text, textMember "pattern" r.pattern, textMember "template" r.template] ++
    (r.description.map (optionalMember "description")).toList

theorem reads_ruleMembers (r : RuleSpec) : ∀ m ∈ ruleMembers r, Reads .afterKey m.kinds m.Holds := by
  have htext : ∀ name text, Reads .afterKey (textMember name text).kinds (textMember name text).Holds :=
    fun _ text => reads_text .afterKey text
  refine List.forall_mem_append.mpr ⟨?_, fun m hm => ?_⟩
  · simp only [List.forall_mem_cons, htext, List.not_mem_nil, true_and]
    nofun
  · obtain ⟨text, -, rfl⟩ := by simpa using hm
    exact reads_optional_text .afterKey text

theorem decodes_rule (r : RuleSpec) {n : Node} (h : IsMapping (ruleMembers r) n) : Decodes ruleDecoder r n := by
  obtain ⟨⟨⟨field⟩, pattern, template⟩, description⟩ := r
  refine Yaml.decodes_members h (s := ⟨some field, some pattern, some template, description.map some⟩)
    (fun d => ?_) ?_
  · refine .cons rfl (fun path v hv => field_eq hv _ _ d path) ?_
    refine .cons rfl (fun path v hv => field_eq hv _ _ d path) ?_
    refine .cons rfl (fun path v hv => field_eq hv _ _ d path) ?_
    cases description with
    | none => exact .nil _
    | some text => exact .cons rfl (fun path v hv => field_eq hv _ _ d path) (.nil _)
  · cases description <;> rfl

/-- A rule is written as its members. -/
theorem takes_rule (r : RuleSpec) : Takes (writeRule r) 2 [1] (mappingKinds (ruleMembers r)) 0 [1] := by
  have hfield : IsName "field".toList := ⟨by decide, by decide, by decide⟩
  have hpattern : IsName "pattern".toList := ⟨by decide, by decide, by decide⟩
  have htemplate : IsName "template".toList := ⟨by decide, by decide, by decide⟩
  have hname : IsName "description".toList := ⟨by decide, by decide, by decide⟩
  -- the last member ends the mapping, so it matters whether there is a description
  have htexts := (takes_firstMember hfield r.field.text).append (takes_nextMember hpattern r.pattern)
  cases hdescription : r.description with
  | none =>
    have h := htexts.append (takes_lastMember htemplate r.template)
    simpa only [writeRule, ruleMembers, hdescription, textMember, mappingKinds, memberKinds, keyKinds,
      List.append_assoc, List.append_nil, List.flatMap_cons, List.flatMap_nil, List.cons_append, List.nil_append,
      Option.map_none, Option.toList_none, if_true, Bool.false_eq_true, if_false] using h
  | some text =>
    have h := (htexts.append (takes_nextMember htemplate r.template)).append (takes_lastMember hname text)
    simpa only [writeRule, ruleMembers, hdescription, textMember, optionalMember, mappingKinds, memberKinds, keyKinds,
      List.append_assoc, List.append_nil, List.flatMap_cons, List.flatMap_nil, List.cons_append, List.nil_append,
      Option.map_some, Option.toList_some, if_true, Bool.false_eq_true, if_false] using h

/-- The members that a rule file is written as. -/
def members (f : RuleFile) : List Member :=
  [⟨"rules".toList, sequenceKinds (f.rules.map fun r => mappingKinds (ruleMembers r)),
    Decodes (fun d => d.list (ruleDecoder d)) f.rules⟩]

theorem reads_members (f : RuleFile) : ∀ m ∈ f.members, Reads .afterKey m.kinds m.Holds := by
  refine List.forall_mem_singleton.mpr ((reads_sequence (P := fun r => Decodes ruleDecoder r) fun r _ =>
    (reads_mapping (reads_ruleMembers r)).mono fun _ hn => decodes_rule r hn).mono fun _ hn => ?_)
  simpa only [List.map_id] using decodes_list id hn

theorem decodes_members (f : RuleFile) {n : Node} (h : IsMapping f.members n) : Decodes decoder f n := by
  refine Yaml.decodes_members h (s := some f.rules) (fun d => ?_) rfl
  exact .cons rfl (fun path v hv => field_eq hv _ _ d path) (.nil _)

/-- A rule file is read back from its YAML. -/
theorem decode_toYaml (f : RuleFile) : Yaml.decode decoder f.toYaml = .ok f := by
  have hrules : IsName "rules".toList := ⟨by decide, by decide, by decide⟩
  refine decode_eq (takes_sequence hrules (fun r _ => takes_rule r) rfl) ?_ f.reads_members
    fun _ => f.decodes_members
  simp [mappingKinds, keyKinds, memberKinds, members]

end RuleFile

/-- **YAML keeps everything.** A record that is written as YAML is read back as it was, and so is a rule file with
all its descriptions, whatever texts they hold. -/
theorem yaml_lossless :
    (∀ r : Record, Record.ofYaml r.toYaml = .ok r) ∧ ∀ f : RuleFile, RuleFile.ofYaml f.toYaml = .ok f := by
  refine ⟨fun r => ?_, fun f => ?_⟩
  · rw [Record.ofYaml, r.decode_toYaml]
    rfl
  · rw [RuleFile.ofYaml, f.decode_toYaml]
    rfl

end Fieldwise
