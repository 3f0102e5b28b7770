import Fieldwise.Proofs.Apply
import Fieldwise.Proofs.Builder
import Fieldwise.Proofs.Template.Validation
import Fieldwise.Proofs.Text.Utf8

/-!
# What a fingerprint tells apart

What is hashed for the value of a field is the field, a colon and the value. Neither the field nor the value
is kept from having colons of its own, so that a colon of the field can be taken for the one behind it
(`Recuts`). This is the only way in which one text can stand for two values
(`fingerprintText_eq_iff`), and then their fingerprints are the same whatever the hash does
(`fingerprints_coincide`). Apart from it, only a collision of the hash makes two fingerprints the same
(`fingerprints_tell_apart`).
-/

namespace Fieldwise

/-! ### Texts that are joined at a separator -/

/-- Two texts that are joined at a separator are the same as two others exactly if they are these, or one of
the first texts goes on, from a separator in it, with what the second text of the others begins with. -/
theorem append_cons_eq_append_cons_iff {α : Type} {x : α} {a b c d : List α} :
    a ++ x :: b = c ++ x :: d ↔
      (a = c ∧ b = d) ∨ (∃ m, a = c ++ x :: m ∧ d = m ++ x :: b) ∨
        ∃ m, c = a ++ x :: m ∧ b = m ++ x :: d := by
  rw [List.append_eq_append_iff]
  constructor
  · rintro (⟨m, hc, hb⟩ | ⟨m, ha, hd⟩)
    · cases m with
      | nil => exact .inl ⟨by rw [hc, List.append_nil], (List.cons.inj hb).2⟩
      | cons y m =>
        obtain ⟨rfl, hrest⟩ := List.cons.inj hb
        exact .inr (.inr ⟨m, hc, hrest⟩)
    · cases m with
      | nil => exact .inl ⟨by rw [ha, List.append_nil], (List.cons.inj hd).2.symm⟩
      | cons y m =>
        obtain ⟨rfl, hrest⟩ := List.cons.inj hd
        exact .inr (.inl ⟨m, ha, hrest⟩)
  · rintro (⟨rfl, rfl⟩ | ⟨m, ha, hd⟩ | ⟨m, hc, hb⟩)
    · exact .inl ⟨[], (List.append_nil a).symm, rfl⟩
    · exact .inr ⟨x :: m, ha, by rw [hd, List.cons_append]⟩
    · exact .inl ⟨x :: m, hc, by rw [hb, List.cons_append]⟩

variable {f g : FieldId} {v w : String}

/-- The field `f` is `g` and, after a colon, a part with which `w` begins, and what is left of `w` behind
this part and a colon is `v`. -/
def Recuts (f : FieldId) (v : String) (g : FieldId) (w : String) : Prop :=
  ∃ part : String, f.text = g.text ++ ":" ++ part ∧ w = part ++ ":" ++ v

theorem toList_fingerprintText (f : FieldId) (v : String) :
    (fingerprintText f v).toList = f.text.toList ++ ':' :: v.toList := by
  simp [fingerprintText]

theorem recuts_iff :
    Recuts f v g w ↔ ∃ m, f.text.toList = g.text.toList ++ ':' :: m ∧ w.toList = m ++ ':' :: v.toList := by
  constructor
  · rintro ⟨part, hf, hw⟩
    exact ⟨part.toList, by simp [hf], by simp [hw]⟩
  · rintro ⟨m, hf, hw⟩
    refine ⟨String.ofList m, ?_, ?_⟩
    · apply String.toList_injective
      simp [hf]
    · apply String.toList_injective
      simp [hw]

/-- A colon can be moved only if there is another one. -/
theorem Recuts.count_lt (h : Recuts f v g w) : g.text.toList.count ':' < f.text.toList.count ':' := by
  obtain ⟨m, hf, -⟩ := recuts_iff.mp h
  rw [hf, List.count_append, List.count_cons_self]
  omega

/-- Two values of fields have the same text exactly if they are the same value of the same field, or one
colon is taken for another. -/
theorem fingerprintText_eq_iff :
    fingerprintText f v = fingerprintText g w ↔ (f = g ∧ v = w) ∨ Recuts f v g w ∨ Recuts g w f v := by
  have hfield : f.text.toList = g.text.toList ↔ f = g := by
    rw [String.toList_inj]
    exact ⟨fun h => congrArg FieldId.mk h, congrArg FieldId.text⟩
  rw [← String.toList_inj, toList_fingerprintText, toList_fingerprintText,
    append_cons_eq_append_cons_iff, recuts_iff, recuts_iff, hfield, String.toList_inj]

/-! ### Fingerprints -/

/-- Two messages have the same digest. -/
def Sha256.Collide (m m' : List UInt8) : Prop := m ≠ m' ∧ digest m = digest m'

theorem Sha256.hexDigest_eq_iff {m m' : List UInt8} :
    hexDigest m = hexDigest m' ↔ m = m' ∨ Collide m m' := by
  constructor
  · intro h
    by_cases hm : m = m'
    · exact .inl hm
    · refine .inr ⟨hm, Option.some.inj ?_⟩
      rw [← Hex.decode?_encode (digest m), ← Hex.decode?_encode (digest m')]
      exact congrArg (fun digits : String => Hex.decode? digits.toList) h
  · rintro (rfl | ⟨-, h⟩)
    · rfl
    · exact congrArg Hex.encode h

/-- **What fingerprints tell apart.** What is hashed for two values of fields is the same exactly if they are
the same value of the same field or a colon in one of the fields is taken for the one behind it. The latter
cannot be if both fields have as many colons, so that fields without colons are told apart from one another
with all their values. And where two failures have the same fingerprint, it is for one of these reasons or
because the hash has a collision. -/
theorem fingerprints_tell_apart (f g : FieldId) (v w : String) :
    (Utf8.encodeString (fingerprintText f v) = Utf8.encodeString (fingerprintText g w) ↔
      (f = g ∧ v = w) ∨ Recuts f v g w ∨ Recuts g w f v) ∧
    (f.text.toList.count ':' = g.text.toList.count ':' →
      Utf8.encodeString (fingerprintText f v) = Utf8.encodeString (fingerprintText g w) → f = g ∧ v = w) ∧
    ∀ (i j : Nat) (r r' : Rule) (e e' : Template.Error), r.field = f → r'.field = g →
      ((Failure.ofRule i r e v).valueHash = (Failure.ofRule j r' e' w).valueHash ↔
        ((f = g ∧ v = w) ∨ Recuts f v g w ∨ Recuts g w f v) ∨
        Sha256.Collide (Utf8.encodeString (fingerprintText f v))
          (Utf8.encodeString (fingerprintText g w))) := by
  have hbytes : Utf8.encodeString (fingerprintText f v) = Utf8.encodeString (fingerprintText g w) ↔
      (f = g ∧ v = w) ∨ Recuts f v g w ∨ Recuts g w f v :=
    Utf8.encodeString_injective.eq_iff.trans fingerprintText_eq_iff
  refine ⟨hbytes, fun hcount h => ?_, fun i j r r' e e' hr hr' => ?_⟩
  · rcases hbytes.mp h with hsame | hrecuts | hrecuts
    · exact hsame
    · have := hrecuts.count_lt
      omega
    · have := hrecuts.count_lt
      omega
  · subst hr hr'
    rw [← hbytes]
    exact Sha256.hexDigest_eq_iff

/-- A rule that matches everywhere and has a template at fault is skipped whatever the value is. -/
theorem Rule.substitute_of_empty_dollar {rule : Rule} (hpattern : rule.pattern.source = "")
    (htemplate : rule.template = "$") (value : String) :
    rule.substitute value = .error (.invalidReference .missingIndex) := by
  have hcompiled := rule.compiled
  rw [hpattern] at hcompiled
  rw [Rule.substitute, htemplate]
  exact replaceAll_of_validate_error (Template.validate_dollar _)
    (Pattern.matches_of_compile_empty hcompiled value)

/-- Different values of different fields are not always told apart: the value `c` of the field `a:b` and the
value `b:c` of the field `a` have one text. So a rule set that skips its rules for both fields reports two
failures with the same fingerprint. -/
theorem fingerprints_coincide :
    (¬∀ (f g : FieldId) (v w : String), (f, v) ≠ (g, w) →
      Utf8.encodeString (fingerprintText f v) ≠ Utf8.encodeString (fingerprintText g w)) ∧
    ∃ (s : RuleSet) (first second : Failure),
      (RuleSet.ofSources ⟨⟨"a:b"⟩, "", "$"⟩ [⟨⟨"a"⟩, "", "$"⟩]).Yields (.ok s) ∧
      (∀ d, Attempt.Yields (s.apply d (Values.finder [("a:b", "c"), ("a", "b:c")]))
        (.ok ⟨"", [first, second]⟩)) ∧
      first.field = ⟨"a:b"⟩ ∧ second.field = ⟨"a"⟩ ∧ first.valueHash = second.valueHash := by
  refine ⟨fun h => h ⟨"a:b"⟩ ⟨"a"⟩ "c" "b:c" (by decide) rfl, ?_⟩
  have hok : ∀ source ∈ ([⟨⟨"a:b"⟩, "", "$"⟩, ⟨⟨"a"⟩, "", "$"⟩] : List RuleSource), source.Compiles :=
    RuleSource.forall_compiles_of_all (fun source => source) (by decide +kernel)
  obtain ⟨s, hholds, hyields⟩ := RuleSet.ofSources_of_ok hok
  have hsources := hholds.sources_eq
  rw [RuleSource.settle_of_nodup (by decide)] at hsources
  simp only [List.map_eq_cons_iff, List.map_eq_nil_iff] at hsources
  obtain ⟨first, _, hrules, hfirst, second, _, rfl, hsecond, rfl⟩ := hsources
  obtain ⟨hfirstField, hfirstPattern, hfirstTemplate⟩ := RuleSource.mk.inj hfirst
  obtain ⟨hsecondField, hsecondPattern, hsecondTemplate⟩ := RuleSource.mk.inj hsecond
  let lookup : Finder Id := Values.finder [("a:b", "c"), ("a", "b:c")]
  have hfirstValue : lookup first.field = some "c" := by rw [hfirstField]; rfl
  have hsecondValue : lookup second.field = some "b:c" := by rw [hsecondField]; rfl
  let fault : Template.Error := .invalidReference .missingIndex
  have hfirstSkipped : first.substitute "c" = .error fault :=
    Rule.substitute_of_empty_dollar hfirstPattern hfirstTemplate "c"
  have hsecondSkipped : second.substitute "b:c" = .error fault :=
    Rule.substitute_of_empty_dollar hsecondPattern hsecondTemplate "b:c"
  have hreference : s.reference lookup = .ok ⟨"", [Failure.ofRule 0 first fault "c",
      Failure.ofRule 1 second fault "b:c"]⟩ := by
    simp [RuleSet.reference, RuleSet.fields, hrules, hfirstValue, hsecondValue,
      RuleSet.rendered?_eq hfirstValue, RuleSet.rendered?_eq hsecondValue,
      RuleSet.failure?_of_error hfirstValue _ hfirstSkipped,
      RuleSet.failure?_of_error hsecondValue _ hsecondSkipped, hfirstSkipped, hsecondSkipped,
      Except.toOption]
  refine ⟨s, _, _, hyields, fun d => hreference ▸ s.apply_yields d lookup, hfirstField, hsecondField, ?_⟩
  show fingerprint first.field "c" = fingerprint second.field "b:c"
  rw [hfirstField, hsecondField]
  rfl

end Fieldwise
