import Fieldwise.Proofs.Cli.Action
import Fieldwise.Proofs.Rebuild
import Fieldwise.Proofs.Record.Binary
import Fieldwise.Proofs.Record.Json
import Fieldwise.Proofs.Yaml.RoundTrip

/-!
# Encoding and decoding rule files

Encoding writes the record of a rule file's rules, and decoding prints a record as a rule file. The two are
inverse to each other from the first encoding on (`Cli.Recodes`): repeated fields are merged and
descriptions are dropped when the record is made, and what decoding prints has neither, so that it is
encoded as the same record and decoded as the same rule file in whatever formats (`Cli.Recoding`).

Every step of this has its inverse: records are read back from their written forms
(`Record.decode_encode`), they build what they have been made of (`RuleSet.WellFormed.toRecord_build`), and
rule files are read back from their text (`RuleFile.isLoadedFrom_toYaml`).
-/

namespace Fieldwise

/-! ### Records in every format -/

/-- The format can hold the record. A text always can; of the bytes, eight must be enough for each length,
as they are for all that has a place in memory. -/
def Record.Fits (r : Record) (format : RecordFormat) : Prop := format = .binary → r.Encodable

/-- A record is read back from each of its written forms. -/
theorem Record.decode_encode {r : Record} {format : RecordFormat} (h : r.Fits format) :
    decode format (r.encode format) = .ok r := by
  cases format with
  | json => exact decode_encode_json r
  | yaml =>
    have hread : ofYaml r.toYaml = .ok r := by rw [ofYaml, decode_toYaml, Except.mapError]
    rw [decode, encode, textOf_encodeString]
    simp only [bind, Except.bind, hread, Except.mapError]
  | binary =>
    have hread : Binary.decodeLists 3 r.toBytes = .ok [r.fieldIds, r.patterns, r.templates] :=
      Binary.decodeLists_encodeLists (h rfl).lists
    rw [decode, encode, ofBytes, hread, Except.mapError]
    rfl

namespace RuleSet

variable {s t : RuleSet} {format : RecordFormat}

/-- A rule set comes back from its record in each of its written forms. -/
theorem WellFormed.decode_encode (h : s.WellFormed) (hfits : s.toRecord.Fits format) :
    ∃ t : RuleSet, (decode format (s.toRecord.encode format)).Yields (.ok t) ∧ t.Alike s := by
  obtain ⟨t, hyields, ht⟩ := h.toRecord_build
  refine ⟨t, ?_, ht⟩
  rw [decode, Record.decode_encode hfits]
  exact (Attempt.Yields.ofExcept _).bind_ok (hyields.mapError _)

theorem Alike.ofRuleSet_eq (h : t.Alike s) : RuleFile.ofRuleSet t = RuleFile.ofRuleSet s := by
  rw [RuleFile.ofRuleSet, RuleFile.ofRuleSet, h.rules_eq]

end RuleSet

/-! ### Rule files and where they lie -/

namespace RuleFile

variable {f : RuleFile} {bytes : List UInt8}

/-- Wherever these bytes lie, the rule file is loaded from there. -/
def IsLoadedFrom (f : RuleFile) (bytes : List UInt8) : Prop :=
  ∀ (read : FileReader) (path : String), read path = .ok bytes → (load read path).Yields (.ok f)

/-- What is loaded depends on the bytes and not on their place. -/
theorem isLoadedFrom_of_load {read : FileReader} {path : String} (hread : read path = .ok bytes)
    (h : (load read path).Yields (.ok f)) : f.IsLoadedFrom bytes := by
  obtain ⟨bytes', text, hread', hdecode, hyaml⟩ := load_yields_ok_iff.mp h
  obtain rfl := Except.ok.inj (hread.symm.trans hread')
  exact fun read path hread => load_yields_ok_iff.mpr ⟨bytes, text, hread, hdecode, hyaml⟩

/-- A rule file is loaded from its own text. -/
theorem isLoadedFrom_toYaml (f : RuleFile) : f.IsLoadedFrom (Utf8.encodeString f.toYaml) := by
  intro read path hread
  have hyaml : ofYaml f.toYaml = .ok f := by rw [ofYaml, decode_toYaml, Except.mapError]
  exact load_yields_ok_iff.mpr ⟨_, _, hread, Utf8.decodeString_encodeString _, hyaml⟩

end RuleFile

namespace Cli

/-! ### The two commands -/

/-- Wherever these bytes lie, encoding them as a rule file goes well and puts out the record, which is
printed or written to a file. -/
structure Encodes (format : RecordFormat) (bytes record : List UInt8) : Prop where
  to_output : ∀ (w : World) (path : String) (quiet debug : Bool), w.read path = .ok bytes →
    (Call.result w ⟨.encode path format none, quiet, debug⟩).Succeeds record []
  to_file : ∀ (w : World) (path out : String) (quiet debug : Bool), w.read path = .ok bytes →
    w.writeFault? out = none →
      (Call.result w ⟨.encode path format (some out), quiet, debug⟩).Succeeds [] [(out, record)]

/-- Decoding the record goes well and prints the text, whether the record is the input or lies in a
file. -/
structure Decodes (format : RecordFormat) (record : List UInt8) (text : String) : Prop where
  of_input : ∀ (w : World) (quiet debug : Bool), w.readInput = .ok record →
    (Call.result w ⟨.decode none format, quiet, debug⟩).Succeeds (Utf8.encodeString text) []
  of_file : ∀ (w : World) (path : String) (quiet debug : Bool), w.read path = .ok record →
    (Call.result w ⟨.decode (some path) format, quiet, debug⟩).Succeeds (Utf8.encodeString text) []

section Commands

variable {w : World} {path : String} {format : RecordFormat} {bytes : List UInt8} {f : RuleFile}
  {s t : RuleSet}

/-- Loading and building leaves nothing behind. -/
theorem loadRules_yields (hload : (RuleFile.load w.read path).Yields (.ok f))
    (hbuild : f.build.Yields (.ok s)) : (loadRules w path).Yields (.ok (f, s)) [] :=
  (Action.Yields.attempt hload).bind ((Action.Yields.attempt hbuild).bind (Action.Yields.pure _))

/-- Encoding prints the record if it is given no file. -/
theorem runEncode_none_yields (hload : (RuleFile.load w.read path).Yields (.ok f))
    (hbuild : f.build.Yields (.ok s)) (quiet : Bool) :
    (runEncode w path format none quiet).Yields (.ok ()) [.printed (s.toRecord.encode format)] :=
  (loadRules_yields hload hbuild).bind ((Action.Yields.log _ _ _).bind (Action.Yields.emit _))

/-- Encoding writes the record to a file if it is given one that can be written. -/
theorem runEncode_some_yields (hload : (RuleFile.load w.read path).Yields (.ok f))
    (hbuild : f.build.Yields (.ok s)) {out : String} (hout : w.writeFault? out = none) (quiet : Bool) :
    (runEncode w path format (some out) quiet).Yields (.ok ())
      [.wrote out (s.toRecord.encode format)] := by
  have hwrite : (writeFile w out (s.toRecord.encode format)).Yields (.ok ())
      [.wrote out (s.toRecord.encode format)] := by
    rw [writeFile, hout]
    exact Action.Yields.emit _
  refine (loadRules_yields hload hbuild).bind ((Action.Yields.log _ _ _).bind ?_)
  cases quiet with
  | true => exact hwrite
  | false => exact (Action.Yields.status _ _).bind hwrite

/-- What has been decoded is printed as a rule file. -/
theorem print_decoded_yields (hdecode : (RuleSet.decode format bytes).Yields (.ok t)) :
    Action.Yields
      (do
        let rules ← Action.attempt (RuleSet.decode format bytes)
        Action.log .info "codec" ("Decoded and validated " ++ toString rules.size ++ " rule(s).")
        Action.print (RuleFile.ofRuleSet rules).toYaml)
      (.ok ()) [.printed (Utf8.encodeString (RuleFile.ofRuleSet t).toYaml)] :=
  (Action.Yields.attempt hdecode).bind ((Action.Yields.log _ _ _).bind (Action.Yields.print _))

/-- Decoding reads the file that it is given, or its input. -/
theorem runDecode_yields {input : Option String} (hread : recordBytes w input = .ok bytes)
    (hdecode : (RuleSet.decode format bytes).Yields (.ok t)) :
    (runDecode w input format).Yields (.ok ())
      [.printed (Utf8.encodeString (RuleFile.ofRuleSet t).toYaml)] := by
  rw [runDecode, hread]
  exact (Action.Yields.ofExcept (.ok bytes)).bind (print_decoded_yields hdecode)

end Commands

section Stability

variable {format : RecordFormat} {bytes record record' : List UInt8} {text text' : String} {f : RuleFile}
  {s : RuleSet}

/-- A rule file is encoded as the record of its rules. -/
theorem encodes_of_isLoadedFrom (hload : f.IsLoadedFrom bytes) (hbuild : f.build.Yields (.ok s))
    (format : RecordFormat) : Encodes format bytes (s.toRecord.encode format) where
  to_output := by
    intro w path quiet debug hread
    have h := Call.succeeds_of_yields (w := w) (c := ⟨.encode path format none, quiet, debug⟩)
      (runEncode_none_yields (hload w.read path hread) hbuild quiet)
    rwa [List.flatMap_singleton] at h
  to_file := by
    intro w path out quiet debug hread hout
    exact Call.succeeds_of_yields (w := w) (c := ⟨.encode path format (some out), quiet, debug⟩)
      (runEncode_some_yields (hload w.read path hread) hbuild hout quiet)

/-- The record of a rule set is decoded as the rule file of the rule set. -/
theorem decodes_toRecord (h : s.WellFormed) (hfits : s.toRecord.Fits format) :
    Decodes format (s.toRecord.encode format) (RuleFile.ofRuleSet s).toYaml := by
  obtain ⟨t, hdecode, ht⟩ := h.decode_encode hfits
  rw [← ht.ofRuleSet_eq]
  have hdecodes {w : World} {input : Option String} (quiet debug : Bool)
      (hread : recordBytes w input = .ok (s.toRecord.encode format)) :
      (Call.result w ⟨.decode input format, quiet, debug⟩).Succeeds
        (Utf8.encodeString (RuleFile.ofRuleSet t).toYaml) [] := by
    have h := Call.succeeds_of_yields (w := w) (c := ⟨.decode input format, quiet, debug⟩)
      (runDecode_yields hread hdecode)
    rwa [List.flatMap_singleton] at h
  constructor
  · intro w quiet debug hinput
    exact hdecodes quiet debug (by rw [recordBytes, hinput, Except.mapError])
  · intro w path quiet debug hread
    exact hdecodes quiet debug (by rw [recordBytes, hread, Except.mapError])

/-- A world in which every file holds the same bytes, and so does the input. -/
def World.constant (bytes : List UInt8) : World where
  read := fun _ => .ok bytes
  writeFault? := fun _ => none
  input := bytes
  setting? := fun _ => none

/-- Bytes are encoded as one record only. -/
theorem Encodes.unique (h : Encodes format bytes record) (h' : Encodes format bytes record') :
    record = record' := by
  have hprinted := h.to_output (World.constant bytes) "" false false rfl
  have hprinted' := h'.to_output (World.constant bytes) "" false false rfl
  rw [← hprinted.output_eq, ← hprinted'.output_eq]

/-- A record is decoded as one text only. -/
theorem Decodes.unique (h : Decodes format record text) (h' : Decodes format record text') :
    Utf8.encodeString text = Utf8.encodeString text' := by
  have hprinted := h.of_input (World.constant record) false false rfl
  have hprinted' := h'.of_input (World.constant record) false false rfl
  rw [← hprinted.output_eq, ← hprinted'.output_eq]

end Stability

/-! ### Rounds of encoding and decoding -/

/-- What can become of a rule file that is encoded and decoded, once in each of some formats, one after
another. -/
inductive Recoding : List RecordFormat → List UInt8 → List UInt8 → Prop where
  | done (bytes : List UInt8) : Recoding [] bytes bytes
  | round {format : RecordFormat} {formats : List RecordFormat} {bytes record bytes' : List UInt8}
      {text : String} (hencode : Encodes format bytes record) (hdecode : Decodes format record text)
      (hrest : Recoding formats (Utf8.encodeString text) bytes') :
      Recoding (format :: formats) bytes bytes'

/-- What becomes of a rule file with the content `f` that builds the rule set `s`. -/
structure Recodes (bytes : List UInt8) (f : RuleFile) (s : RuleSet) : Prop where
  /-- It is encoded as the record of the rule set. -/
  encodes : ∀ format : RecordFormat, Encodes format bytes (s.toRecord.encode format)
  /-- This is decoded as the rule file of the rule set, whatever the format. -/
  decodes : ∀ format : RecordFormat, s.toRecord.Fits format →
    Decodes format (s.toRecord.encode format) (RuleFile.ofRuleSet s).toYaml
  /-- Wherever what has been printed lies, it is loaded and builds a rule set with the same record. -/
  loads : (RuleFile.ofRuleSet s).IsLoadedFrom (Utf8.encodeString (RuleFile.ofRuleSet s).toYaml) ∧
    ∃ t : RuleSet, (RuleFile.ofRuleSet s).build.Yields (.ok t) ∧ t.toRecord = s.toRecord
  /-- It is encoded as the same record again. -/
  encodes_again : ∀ format : RecordFormat,
    Encodes format (Utf8.encodeString (RuleFile.ofRuleSet s).toYaml) (s.toRecord.encode format)
  /-- What has been printed are the rules without their descriptions, one for each field. -/
  rules_eq : (RuleFile.ofRuleSet s).rules =
    (RuleSource.settle (f.rules.map RuleSpec.toRuleSource)).map fun source => ⟨source, none⟩
  nodup_fields : ((RuleFile.ofRuleSet s).rules.map fun spec => spec.field).Nodup
  /-- However often it is encoded and decoded, the same comes of it. -/
  recoding_iff : ∀ (format : RecordFormat) (formats : List RecordFormat),
    (∀ x ∈ format :: formats, s.toRecord.Fits x) → ∀ bytes' : List UInt8,
      Recoding (format :: formats) bytes bytes' ↔
        bytes' = Utf8.encodeString (RuleFile.ofRuleSet s).toYaml

section Rounds

variable {format : RecordFormat} {formats : List RecordFormat} {bytes bytes' : List UInt8}
  {f : RuleFile} {s : RuleSet}

/-- The rule file of a rule set is encoded as the record of the rule set. -/
theorem encodes_ofRuleSet (h : s.WellFormed) (format : RecordFormat) :
    Encodes format (Utf8.encodeString (RuleFile.ofRuleSet s).toYaml) (s.toRecord.encode format) := by
  obtain ⟨t, hbuild, ht⟩ := h.ofRuleSet_build
  rw [← ht.toRecord_eq]
  exact encodes_of_isLoadedFrom (RuleFile.isLoadedFrom_toYaml _) hbuild format

/-- A round with bytes that are encoded as the record of a rule set ends in the rule file of the rule
set. -/
theorem recoding_cons_iff (h : s.WellFormed) (hencodes : Encodes format bytes (s.toRecord.encode format))
    (hfits : s.toRecord.Fits format) :
    Recoding (format :: formats) bytes bytes' ↔
      Recoding formats (Utf8.encodeString (RuleFile.ofRuleSet s).toYaml) bytes' := by
  have hdecodes := decodes_toRecord h hfits
  constructor
  · intro hrounds
    cases hrounds with
    | round hencode hdecode hrest =>
      obtain rfl := hencodes.unique hencode
      rwa [hdecodes.unique hdecode]
  · intro hrest
    exact .round hencodes hdecodes hrest

/-- Rounds lead nowhere from the rule file of a rule set. -/
theorem recoding_ofRuleSet_iff (h : s.WellFormed) (hfits : ∀ x ∈ formats, s.toRecord.Fits x) :
    Recoding formats (Utf8.encodeString (RuleFile.ofRuleSet s).toYaml) bytes' ↔
      bytes' = Utf8.encodeString (RuleFile.ofRuleSet s).toYaml := by
  induction formats with
  | nil =>
    constructor
    · intro hrounds
      cases hrounds
      rfl
    · rintro rfl
      exact .done _
  | cons format rest ih =>
    obtain ⟨hformat, hrest⟩ := List.forall_mem_cons.mp hfits
    rw [recoding_cons_iff h (encodes_ofRuleSet h format) hformat, ih hrest]

end Rounds

/-- **Encoding and decoding is stable.** Whatever rule file loads and builds, all that is lost of it is lost
when it is encoded for the first time. From then on it is the same record, and the same rule file, in every
format that can hold the record, however often it is encoded and decoded. -/
theorem recodes {w : World} {path : String} {bytes : List UInt8} {f : RuleFile} {s : RuleSet}
    (hread : w.read path = .ok bytes) (hload : (RuleFile.load w.read path).Yields (.ok f))
    (hbuild : f.build.Yields (.ok s)) : Recodes bytes f s := by
  have hsource := (RuleFile.build_ensures f).of_yields hbuild
  have hs := hsource.wellFormed
  have hencodes := encodes_of_isLoadedFrom (RuleFile.isLoadedFrom_of_load hread hload) hbuild
  obtain ⟨t, ht, halike⟩ := hs.ofRuleSet_build
  exact {
    encodes := hencodes
    decodes := fun format => decodes_toRecord hs
    loads := ⟨RuleFile.isLoadedFrom_toYaml _, t, ht, halike.toRecord_eq⟩
    encodes_again := encodes_ofRuleSet hs
    rules_eq := by
      rw [RuleFile.ofRuleSet, ← hsource.sources_eq, List.map_map]
      rfl
    nodup_fields := by
      rw [RuleFile.ofRuleSet, List.map_map]
      exact hs.nodup_fields
    recoding_iff := by
      intro format formats hfits bytes'
      obtain ⟨hformat, hrest⟩ := List.forall_mem_cons.mp hfits
      rw [recoding_cons_iff hs (hencodes format) hformat, recoding_ofRuleSet_iff hs hrest] }

/-- One such rule file: it has two rules for a field, and descriptions, and neither survive. -/
theorem recodes_repeated :
    let bytes := Utf8.encodeString ("rules:\n- field: card\n  pattern: x\n  template: $0\n" ++
      "  description: kept\n- field: pin\n  pattern: ''\n  template: '-'\n- field: card\n" ++
      "  pattern: '[0-9]+'\n  template: '#$0'\n  description: masked\n")
    let w := World.constant bytes
    ∃ (f : RuleFile) (s : RuleSet), (RuleFile.load w.read "rules.yaml").Yields (.ok f) ∧
      f.build.Yields (.ok s) ∧ Recodes bytes f s ∧
      (RuleFile.ofRuleSet s).toYaml = "rules:\n- field: card\n  pattern: '[0-9]+'\n" ++
        "  template: '#$0'\n- field: pin\n  pattern: ''\n  template: '-'\n" := by
  intro bytes w
  obtain ⟨f, hf⟩ : ∃ f : RuleFile, f = ⟨[⟨⟨⟨"card"⟩, "x", "$0"⟩, some "kept"⟩,
    ⟨⟨⟨"pin"⟩, "", "-"⟩, none⟩, ⟨⟨⟨"card"⟩, "[0-9]+", "#$0"⟩, some "masked"⟩]⟩ := ⟨_, rfl⟩
  have htext : "rules:\n- field: card\n  pattern: x\n  template: $0\n" ++
      "  description: kept\n- field: pin\n  pattern: ''\n  template: '-'\n- field: card\n" ++
      "  pattern: '[0-9]+'\n  template: '#$0'\n  description: masked\n" = f.toYaml := by
    rw [hf]
    decide +kernel
  have hread : w.read "rules.yaml" = .ok bytes := rfl
  have hload : (RuleFile.load w.read "rules.yaml").Yields (.ok f) := by
    apply f.isLoadedFrom_toYaml
    rw [hread, ← htext]
  have hok : ∀ spec ∈ f.rules, spec.Compiles := by
    apply RuleSource.forall_compiles_of_all RuleSpec.toRuleSource
    rw [hf]
    decide +kernel
  have hne : f.rules ≠ [] := by
    rw [hf]
    exact List.cons_ne_nil _ _
  obtain ⟨s, -, hbuild⟩ := RuleFile.build_of_ok hne hok
  have hrecodes := recodes hread hload hbuild
  have hrules : RuleFile.ofRuleSet s =
      ⟨[⟨⟨⟨"card"⟩, "[0-9]+", "#$0"⟩, none⟩, ⟨⟨⟨"pin"⟩, "", "-"⟩, none⟩]⟩ := by
    have hlist := hrecodes.rules_eq
    rw [hf] at hlist
    exact congrArg RuleFile.mk (hlist.trans (by decide))
  refine ⟨f, s, hload, hbuild, hrecodes, ?_⟩
  rw [hrules]
  decide +kernel

end Cli

end Fieldwise
