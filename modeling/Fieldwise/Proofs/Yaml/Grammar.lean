import Fieldwise.Yaml.Node.Grammar
import Mathlib.Data.List.Forall2

/-!
# Nodes from tokens

The tokens of texts, sequences and mappings, and the nodes that they are read as. What a node is read as is
told by a property of it, because it keeps the places of its tokens, on which nothing depends.
-/

namespace Fieldwise.Yaml

/-! ### The tokens of nodes -/

/-- The tokens of a sequence after a key, of whose elements the tokens are given. -/
def sequenceKinds (elements : List (List TokenKind)) : List TokenKind :=
  if elements.isEmpty then [.flowSequenceStart, .flowSequenceEnd]
  else elements.flatMap fun ks => .blockEntry :: ks

theorem sequenceKinds_map_cons {α : Type} (kinds : α → List TokenKind) (e : α) (elements : List α) :
    sequenceKinds ((e :: elements).map kinds) = (e :: elements).flatMap fun e => .blockEntry :: kinds e := by
  rw [sequenceKinds, if_neg (by simp), List.flatMap_map]

/-- The tokens of a member of a mapping. -/
def memberKinds (name : List Char) (ks : List TokenKind) : List TokenKind :=
  .key :: .scalar name .plain :: .value :: ks

/-- A member of a mapping: its name, the tokens of its value, and what holds of the node that they are read
as. -/
structure Member where
  name : List Char
  kinds : List TokenKind
  Holds : Node → Prop

/-- The tokens of a mapping. -/
def mappingKinds (members : List Member) : List TokenKind :=
  .blockMappingStart :: (members.flatMap (fun m => memberKinds m.name m.kinds) ++ [.blockEnd])

/-! ### What tokens are read as -/

/-- Whether no node comes next at a site. -/
def Site.endsItem : Site → TokenKind → Bool
  | .block => endsInnerItem
  | _ => endsMappingItem

/-- Something follows that is no entry of a sequence. -/
def EndsSequence (rest : List Token) : Prop := ∃ t ts, rest = t :: ts ∧ t.kind ≠ .blockEntry

/-- Tokens of these kinds are read as a node of which something holds. -/
structure Reads (site : Site) (ks : List TokenKind) (P : Node → Prop) : Prop where
  begins : ∃ k, ks.head? = some k ∧ site.endsItem k = false
  -- between two tokens at most three readers call one another, which is what the bound on the fuel counts
  readNode_eq {tokens : List Token} (rest : List Token) (anchors : List (String × Nat)) (fuel : Nat) :
    tokens.map Token.kind = ks → (site = .afterKey → EndsSequence rest) → 3 * ks.length + 2 ≤ fuel →
      ∃ n, readNode defaultHandles site ⟨tokens ++ rest, anchors⟩ fuel = (n, ⟨rest, anchors⟩) ∧ P n

section

variable {site : Site} {ks : List TokenKind} {tokens : List Token}
variable (rest : List Token) (anchors : List (String × Nat)) (fuel : Nat)

theorem Reads.mono {P Q : Node → Prop} (h : Reads site ks P) (hPQ : ∀ n, P n → Q n) : Reads site ks Q where
  begins := h.begins
  readNode_eq rest anchors fuel htokens hrest hfuel :=
    let ⟨n, hn, hP⟩ := h.readNode_eq rest anchors fuel htokens hrest hfuel
    ⟨n, hn, hPQ n hP⟩

/-- Such tokens are an item, which is not empty. -/
theorem Reads.readItem_eq {P : Node → Prop} (h : Reads site ks P) (htokens : tokens.map Token.kind = ks)
    (hrest : site = .afterKey → EndsSequence rest) (hfuel : 3 * ks.length + 3 ≤ fuel) (place : Mark) :
    ∃ n, readItem defaultHandles site site.endsItem place ⟨tokens ++ rest, anchors⟩ fuel = (n, ⟨rest, anchors⟩) ∧
      P n := by
  obtain ⟨k, hk, hends⟩ := h.begins
  obtain ⟨fuel, rfl⟩ := Nat.exists_eq_add_one_of_ne_zero (by omega : fuel ≠ 0)
  have hkind : (⟨tokens ++ rest, anchors⟩ : Reading).kind? = some k := by
    rw [← htokens, List.head?_map] at hk
    rw [Reading.kind?, List.head?_append]
    cases htokens? : tokens.head? with
    | none => rw [htokens?] at hk; cases hk
    | some t => rwa [htokens?] at hk
  rw [readItem, hkind, Option.any_some, hends, if_neg Bool.false_ne_true]
  exact h.readNode_eq rest anchors fuel htokens hrest (by omega)

/-! ### Texts -/

/-- A node is a text that is written in a style. -/
def IsText (text : List Char) (style : ScalarStyle) (n : Node) : Prop :=
  ∃ place, n = .scalar place none ⟨text, style, none⟩

theorem reads_scalar (site : Site) (text : List Char) (style : ScalarStyle) :
    Reads site [.scalar text style] (IsText text style) where
  begins := ⟨_, rfl, by cases site <;> rfl⟩
  readNode_eq {tokens} rest anchors fuel htokens _ hfuel := by
    obtain ⟨t, htokens, htext⟩ := List.map_eq_singleton_iff.mp htokens
    obtain ⟨kind, start, stop⟩ := t
    subst htokens htext
    obtain ⟨fuel, rfl⟩ := Nat.exists_eq_add_one_of_ne_zero (by omega : fuel ≠ 0)
    exact ⟨_, rfl, start, rfl⟩

/-! ### Sequences -/

/-- A node is a sequence, and something holds of each of its elements. -/
def IsSequence {α : Type} (P : α → Node → Prop) (elements : List α) (n : Node) : Prop :=
  ∃ place ns, n = .sequence place none ns ∧ List.Forall₂ P elements ns

section

variable {α : Type} {kinds : α → List TokenKind} {P : α → Node → Prop} {elements : List α}

/-- The entries of a sequence are read up to what is none. -/
theorem readInnerSequence_eq (h : ∀ e ∈ elements, Reads .block (kinds e) (P e))
    (htokens : tokens.map Token.kind = elements.flatMap fun e => .blockEntry :: kinds e) (hrest : EndsSequence rest)
    (hfuel : 3 * tokens.length + 1 ≤ fuel) :
    ∃ ns, readInnerSequence defaultHandles ⟨tokens ++ rest, anchors⟩ fuel = (ns, ⟨rest, anchors⟩) ∧
      List.Forall₂ P elements ns := by
  obtain ⟨fuel, rfl⟩ := Nat.exists_eq_add_one_of_ne_zero (by omega : fuel ≠ 0)
  induction elements generalizing tokens fuel with
  | nil =>
    obtain rfl : tokens = [] := List.map_eq_nil_iff.mp htokens
    obtain ⟨⟨kind, start, stop⟩, ts, rfl, hkind⟩ := hrest
    refine ⟨[], ?_, .nil⟩
    rw [readInnerSequence]
    cases kind <;> first | rfl | exact absurd rfl hkind
  | cons e elements ih =>
    obtain ⟨he, helements⟩ := List.forall_mem_cons.mp h
    rw [List.flatMap_cons] at htokens
    obtain ⟨entry, elements', rfl, hentry, helements'⟩ := List.map_eq_append_iff.mp htokens
    obtain ⟨⟨_, start, stop⟩, es, rfl, rfl, hes⟩ := List.map_eq_cons_iff.mp hentry
    have hlength : es.length = (kinds e).length := by rw [← hes, List.length_map]
    simp only [List.length_append, List.length_cons] at hfuel
    obtain ⟨fuel, rfl⟩ := Nat.exists_eq_add_one_of_ne_zero (by omega : fuel ≠ 0)
    -- in a block it makes no difference to an element what follows it
    obtain ⟨n, hn, hP⟩ := he.readItem_eq (elements' ++ rest) anchors (fuel + 1) hes nofun (by omega) stop
    obtain ⟨ns, hns, hall⟩ := ih helements helements' fuel (by omega)
    refine ⟨n :: ns, ?_, .cons hP hall⟩
    rw [List.append_assoc, List.cons_append, readInnerSequence]
    simp only [Site.endsItem] at hn
    simp only [hn, hns]

/-- **Sequences.** The tokens of a sequence are read as one, if those of its elements are. -/
theorem reads_sequence (h : ∀ e ∈ elements, Reads .block (kinds e) (P e)) :
    Reads .afterKey (sequenceKinds (elements.map kinds)) (IsSequence P elements) := by
  cases elements with
  | nil =>
    refine ⟨⟨.flowSequenceStart, rfl, rfl⟩, fun {tokens} rest anchors fuel htokens _ hfuel => ?_⟩
    obtain ⟨⟨_, start, stop⟩, tokens, rfl, rfl, hclose⟩ := List.map_eq_cons_iff.mp htokens
    obtain ⟨⟨_, start', stop'⟩, rfl, rfl⟩ := List.map_eq_singleton_iff.mp hclose
    obtain ⟨fuel, rfl⟩ := Nat.exists_eq_add_of_le' (by omega : 2 ≤ fuel)
    exact ⟨_, rfl, start, [], rfl, .nil⟩
  | cons e elements =>
    rw [sequenceKinds_map_cons]
    refine ⟨⟨.blockEntry, rfl, rfl⟩, fun {tokens} rest anchors fuel htokens hrest hfuel => ?_⟩
    have hlength : tokens.length = ((e :: elements).flatMap fun e => .blockEntry :: kinds e).length := by
      rw [← htokens, List.length_map]
    obtain ⟨fuel, rfl⟩ := Nat.exists_eq_add_one_of_ne_zero (by omega : fuel ≠ 0)
    obtain ⟨ns, hns, hall⟩ :=
      readInnerSequence_eq rest anchors fuel h htokens (hrest rfl) (by omega)
    obtain ⟨⟨_, start, stop⟩, tokens, rfl, rfl, -⟩ := List.map_eq_cons_iff.mp htokens
    refine ⟨_, ?_, start, ns, rfl, hall⟩
    rw [List.cons_append] at hns ⊢
    simp only [readNode, readProperties, Reading.addAnchor, hns, if_true]

end

/-! ### Mappings -/

/-- A key and a value are what a member is read as. -/
def IsMember (m : Member) (e : Node × Node) : Prop := IsText m.name .plain e.1 ∧ m.Holds e.2

/-- A node is a mapping with certain members. -/
def IsMapping (members : List Member) (n : Node) : Prop :=
  ∃ place es, n = .mapping place none es ∧ List.Forall₂ IsMember members es

section

variable {members : List Member}

theorem exists_of_memberKinds {name : List Char} {ks : List TokenKind}
    (h : tokens.map Token.kind = memberKinds name ks) :
    ∃ start stop key start' stop' value,
      tokens = ⟨.key, start, stop⟩ :: ([key] ++ ⟨.value, start', stop'⟩ :: value) ∧
        [key].map Token.kind = [.scalar name .plain] ∧ value.map Token.kind = ks := by
  obtain ⟨⟨_, start, stop⟩, _, rfl, rfl, h₁⟩ := List.map_eq_cons_iff.mp h
  obtain ⟨key, _, rfl, hkey, h₂⟩ := List.map_eq_cons_iff.mp h₁
  obtain ⟨⟨_, start', stop'⟩, value, rfl, rfl, hvalue⟩ := List.map_eq_cons_iff.mp h₂
  exact ⟨start, stop, key, start', stop', value, rfl, congrArg (fun k => [k]) hkey, hvalue⟩

/-- After a member there comes another one, or the mapping ends. -/
theorem endsSequence_of_members {more : List Token}
    (h : more.map Token.kind = members.flatMap (fun m => memberKinds m.name m.kinds) ++ [.blockEnd]) :
    EndsSequence (more ++ rest) := by
  cases members with
  | nil =>
    obtain ⟨t, rfl, ht⟩ := List.map_eq_singleton_iff.mp h
    exact ⟨t, rest, rfl, by simp [ht]⟩
  | cons m members =>
    obtain ⟨t, ts, rfl, ht, -⟩ := List.map_eq_cons_iff.mp h
    exact ⟨t, ts ++ rest, rfl, by simp [ht]⟩

/-- The members of a mapping are read up to its end. -/
theorem readBlockMapping_eq (h : ∀ m ∈ members, Reads .afterKey m.kinds m.Holds)
    (htokens : tokens.map Token.kind = members.flatMap (fun m => memberKinds m.name m.kinds) ++ [.blockEnd])
    (hfuel : 3 * tokens.length ≤ fuel) :
    ∃ es, readBlockMapping defaultHandles ⟨tokens ++ rest, anchors⟩ fuel = (es, ⟨rest, anchors⟩) ∧
      List.Forall₂ IsMember members es := by
  induction members generalizing tokens fuel with
  | nil =>
    obtain ⟨⟨_, start, stop⟩, rfl, rfl⟩ := List.map_eq_singleton_iff.mp htokens
    obtain ⟨fuel, rfl⟩ := Nat.exists_eq_add_one_of_ne_zero (n := fuel) (by rintro rfl; simp at hfuel)
    exact ⟨[], rfl, .nil⟩
  | cons m members ih =>
    obtain ⟨hm, hmembers⟩ := List.forall_mem_cons.mp h
    rw [List.flatMap_cons, List.append_assoc] at htokens
    obtain ⟨member, more, rfl, hmember, hmore⟩ := List.map_eq_append_iff.mp htokens
    obtain ⟨_, stop, key, start', stop', value, rfl, hkey, hvalue⟩ := exists_of_memberKinds hmember
    have hlength : value.length = m.kinds.length := by rw [← hvalue, List.length_map]
    simp only [List.length_append, List.length_cons, List.length_nil] at hfuel
    obtain ⟨fuel, rfl⟩ := Nat.exists_eq_add_of_le' (by omega : 2 ≤ fuel)
    -- the name is read up to the sign of the value, and the value up to the next key or the end of the mapping
    obtain ⟨k, hk, hname⟩ := (reads_scalar .afterKey m.name .plain).readItem_eq
      (⟨.value, start', stop'⟩ :: (value ++ (more ++ rest))) anchors (fuel + 1) hkey (fun _ => ⟨_, _, rfl, nofun⟩)
      (by simp; omega) stop
    obtain ⟨v, hv, hP⟩ := hm.readItem_eq (more ++ rest) anchors fuel hvalue
      (fun _ => endsSequence_of_members rest hmore) (by omega) stop'
    obtain ⟨es, hes, hall⟩ := ih (fuel + 1) hmembers hmore (by omega)
    refine ⟨(k, v) :: es, ?_, .cons ⟨hname, hP⟩ hall⟩
    simp only [Site.endsItem, List.append_assoc, List.cons_append, List.nil_append] at hk hv ⊢
    rw [readBlockMapping]
    simp only [hk, readBlockValue, hv, hes]

/-- **Mappings.** The tokens of a mapping are read as one, if those of its values are. -/
theorem reads_mapping (h : ∀ m ∈ members, Reads .afterKey m.kinds m.Holds) :
    Reads .block (mappingKinds members) (IsMapping members) := by
  refine ⟨⟨.blockMappingStart, rfl, rfl⟩, fun {tokens} rest anchors fuel htokens _ hfuel => ?_⟩
  obtain ⟨⟨_, start, stop⟩, tokens, rfl, rfl, hmembers⟩ := List.map_eq_cons_iff.mp htokens
  have hlength : (⟨.blockMappingStart, start, stop⟩ :: tokens : List Token).length = _ :=
    (List.length_map _).symm.trans (congrArg List.length htokens)
  rw [List.length_cons] at hlength
  obtain ⟨fuel, rfl⟩ := Nat.exists_eq_add_one_of_ne_zero (by omega : fuel ≠ 0)
  obtain ⟨es, hes, hall⟩ := readBlockMapping_eq rest anchors fuel h hmembers (by omega)
  refine ⟨_, ?_, start, es, rfl, hall⟩
  simp only [List.cons_append, readNode, readProperties, Reading.addAnchor, hes]
  rfl

/-- A text whose tokens are those of a mapping holds one document, which is the mapping. -/
theorem ofTokens_eq {P : Node → Prop} (h : Reads .block (mappingKinds members) P)
    (htokens : tokens.map Token.kind = mappingKinds members ++ [.streamEnd]) :
    ∃ n, Document.ofTokens tokens = ⟨n, none⟩ ∧ P n := by
  obtain ⟨mapping, streamEnd, rfl, hmapping, hend⟩ := List.map_eq_append_iff.mp htokens
  obtain ⟨⟨_, start, stop⟩, rfl, rfl⟩ := List.map_eq_singleton_iff.mp hend
  have hlength : mapping.length = (mappingKinds members).length := by rw [← hmapping, List.length_map]
  obtain ⟨n, hn, hP⟩ := h.readNode_eq [⟨.streamEnd, start, stop⟩] []
    (4 * (mapping ++ [(⟨.streamEnd, start, stop⟩ : Token)]).length + 8) hmapping nofun
    (by rw [List.length_append]; omega)
  refine ⟨n, ?_, hP⟩
  obtain ⟨⟨_, _, _⟩, mapping, rfl, rfl, -⟩ := List.map_eq_cons_iff.mp hmapping
  rw [List.cons_append] at hn ⊢
  simp only [Document.ofTokens, readContent, hn]
  rfl

end

end

end Fieldwise.Yaml
