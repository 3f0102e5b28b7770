import Fieldwise.Proofs.Yaml.Collections
import Fieldwise.Yaml.Decode

/-!
# Values from nodes

What decoders give for the nodes of texts, sequences and mappings. They give it in every document, for there
are no aliases in these nodes, and wherever the node stands.
-/

namespace Fieldwise.Yaml

/-- A node is taken for a value, in every document and at every path. -/
def Decodes {α : Type} (decode : Document → Decoder α) (value : α) (n : Node) : Prop :=
  ∀ d path, decode d path n = .ok value

section

variable {α β : Type} {text : List Char} {style : ScalarStyle} {n : Node}

/-! ### Texts -/

theorem decodes_text (h : IsText text style n) : Decodes Document.text (String.ofList text) n := by
  obtain ⟨place, rfl⟩ := h
  exact fun _ _ => rfl

/-- A text is not missing unless it is written plainly and stands for nothing. -/
theorem decodes_optional_text (h : IsText text style n)
    (hpresent : style = .plain → text ≠ [] ∧ isNull text = false) :
    Decodes (fun d => d.optional d.text) (some (String.ofList text)) n := by
  obtain ⟨place, rfl⟩ := h
  intro d path
  have hmissing : Document.isMissing ⟨text, style, none⟩ = .ok false := by
    cases style with
    | quoted => rfl
    | plain =>
      obtain ⟨hne, hnull⟩ := hpresent rfl
      simp [Document.isMissing, hne, hnull]
  simp only [Document.optional, Document.deref, hmissing]
  rfl

theorem reads_text (site : Site) (text : String) : Reads site (textKinds text) (Decodes Document.text text) :=
  (reads_scalar site text.toList (Scan.styleOf text.toList)).mono fun _ hn => by
    simpa only [String.ofList_toList] using decodes_text hn

theorem isNull_map_toLower (h : isNull text = true) : isNull (text.map Char.toLower) = true := by
  have hmem : text ∈ ["null", "Null", "NULL", "~"].map String.toList := by
    rw [isNull, List.contains_iff_mem] at h
    rw [← String.toList_ofList (l := text)]
    exact List.mem_map_of_mem h
  have hlower : ∀ word ∈ ["null", "Null", "NULL", "~"].map String.toList, isNull (word.map Char.toLower) = true := by
    decide
  exact hlower text hmem

/-- What is written plainly does not stand for nothing. -/
theorem not_null_of_styleOf (h : Scan.styleOf text = .plain) : text ≠ [] ∧ isNull text = false := by
  have hform : formOf text = .plain := by
    by_contra hform
    rw [Scan.styleOf, if_neg hform] at h
    cases h
  have hambiguous := (formOf_eq_plain hform).1
  simp only [isAmbiguous, Bool.or_eq_false_iff, List.isEmpty_eq_false_iff] at hambiguous
  refine ⟨hambiguous.1.1.1.1, ?_⟩
  by_contra hnull
  cases (isNull_map_toLower (by simpa using hnull)).symm.trans hambiguous.1.2

/-- A text that might be missing is read as one that is not. -/
theorem reads_optional_text (site : Site) (text : String) :
    Reads site (textKinds text) (Decodes (fun d => d.optional d.text) (some text)) :=
  (reads_scalar site text.toList (Scan.styleOf text.toList)).mono fun _ hn => by
    simpa only [String.ofList_toList] using decodes_optional_text hn not_null_of_styleOf

/-! ### Sequences -/

theorem decodes_list {decode : Document → Decoder β} {elements : List α} (value : α → β)
    (h : IsSequence (fun e => Decodes decode (value e)) elements n) :
    Decodes (fun d => d.list (decode d)) (elements.map value) n := by
  obtain ⟨place, ns, rfl, hall⟩ := h
  intro d path
  have helements : ∀ index, Document.elements (decode d) path index ns = .ok (elements.map value) := by
    induction hall with
    | nil => exact fun _ => rfl
    | cons he _ ih =>
      intro index
      rw [Document.elements, he d, ih]
      rfl
  simp only [Document.list, Document.deref, helements]
  rfl

/-! ### Mappings -/

/-- The members of a mapping are read one after another, from one state of what has been read to another. -/
inductive Collects {σ : Type} (decode : σ → String → Option (Path → Node → Except Fault σ)) :
    σ → List Member → σ → Prop where
  | nil (s : σ) : Collects decode s [] s
  | cons {s s₁ s' : σ} {m : Member} {members : List Member} {read : Path → Node → Except Fault σ}
      (hread : decode s (String.ofList m.name) = some read)
      (hvalue : ∀ path v, m.Holds v → read path v = .ok s₁) (hrest : Collects decode s₁ members s') :
      Collects decode s (m :: members) s'

variable {σ : Type} {s : σ} {members : List Member}

theorem entries_eq {decode : σ → String → Option (Path → Node → Except Fault σ)}
    {take : σ → String → Path → Node → Except Fault σ} {start : σ} {es : List (Node × Node)}
    (hes : List.Forall₂ IsMember members es) (h : Collects decode start members s)
    (htake : ∀ s name read, decode s name = some read → take s name = read) (d : Document) (expected : String)
    (path : Path) : d.entries expected take path start es = .ok s := by
  -- member by member: what has been read is the state that the induction carries
  induction h generalizing es with
  | nil =>
    cases hes
    rfl
  | @cons s s₁ s' m members read hread hvalue _ ih =>
    obtain ⟨⟨_, v⟩, es, ⟨⟨place, rfl⟩, hv⟩, hrest, rfl⟩ := List.forall₂_cons_left_iff.mp hes
    have hkey : d.textAs expected path (.scalar place none ⟨m.name, .plain, none⟩) = .ok (String.ofList m.name) := rfl
    rw [Document.entries, hkey]
    simp only [bind, Except.bind, htake s _ read hread, hvalue _ v hv, ih hrest]

/-- A mapping is taken for what is made of its members in the end. -/
theorem decodes_members {name : String} {start : σ}
    {decode : Document → σ → String → Option (Path → Node → Except Fault σ)} {finish : σ → Except Mismatch α}
    {value : α} (h : IsMapping members n) (hcollects : ∀ d, Collects (decode d) start members s)
    (hfinish : finish s = .ok value) : Decodes (fun d => d.members name start (decode d) finish) value n := by
  obtain ⟨place, es, rfl, hall⟩ := h
  intro d path
  show settle path place
    (d.entries "field identifier" _ path start es >>= fun s => (finish s).mapError Fault.unplaced) = _
  rw [entries_eq hall (hcollects d) fun s name read hread => by simp only [hread]]
  show settle path place ((finish s).mapError Fault.unplaced) = _
  rw [hfinish]
  rfl

/-- A field that has not been given before is read into its place. -/
theorem field_eq {decode : Document → Decoder β} {value : β} (h : Decodes decode value n) (name : String)
    (set : β → σ) (d : Document) (path : Path) :
    Document.field name none (decode d) set path n = .ok (set value) := by
  rw [Document.field, h]
  rfl

/-! ### Whole texts -/

/-- **Reading back.** A text that is written as a mapping is taken for what this mapping is taken for. -/
theorem decode_eq {decoder : (d : Document) → Decoder α} {value : α} {written : List Char} {ks : List TokenKind}
    (htakes : Scan.Takes written 0 [] ks 0 [1]) (hkinds : ks ++ [.blockEnd] = mappingKinds members)
    (hreads : ∀ m ∈ members, Reads .afterKey m.kinds m.Holds)
    (hdecodes : ∀ n, IsMapping members n → Decodes decoder value n) :
    decode decoder (String.ofList written) = .ok value := by
  have htokens : (Token.scan written).map Token.kind = mappingKinds members ++ [.streamEnd] := by
    rw [Scan.map_kind_scan htakes, ← hkinds, List.append_assoc]
    rfl
  obtain ⟨n, hdocument, hn⟩ := ofTokens_eq (reads_mapping hreads) htokens
  rw [decode, String.toList_ofList, hdocument]
  dsimp only
  rw [hdecodes n hn]
  rfl

end

end Fieldwise.Yaml
