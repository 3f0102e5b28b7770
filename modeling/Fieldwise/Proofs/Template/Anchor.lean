import Fieldwise.Proofs.Pattern.Search
import Fieldwise.Proofs.Template.Grammar
import Fieldwise.Proofs.Template.Validation

/-!
# Replacing at the start of a value

A pattern that begins with an assertion of the start of the text (`Pattern.Anchored`) matches once in a
value at most, and there at its start (`replaceAll_anchored`). Whatever follows the assertion, the program
of the pattern begins with an instruction that checks it, and an assertion is about the whole text: from
any later place the search finds nothing (`find?_anchored_eq_none`), also where what is left of the text
would match if it stood alone.
-/

namespace Fieldwise.Pattern

/-! ### Patterns that begin with an assertion of the start of the text -/

/-- Whether a sequence begins with an assertion of the start of the text, for which there are two ways of
writing it. The caret is one of them where it is not about lines. Flags may be set in front of it. -/
def Ast.beginAnchored (f : Flags) : List Ast → Bool
  | .assertion _ .textStart :: _ => true
  | .assertion _ .lineStart :: _ => !f.multiLine
  | .flags _ items :: rest => beginAnchored (f.update items) rest
  | _ => false

/-- Whether a tree is a sequence that begins with an assertion of the start of the text, or nothing but
the assertion. -/
def Ast.isAnchored : Ast → Bool
  | .concat _ items => beginAnchored {} items
  | tree => beginAnchored {} [tree]

/-- A pattern that begins with an assertion of the start of the text. -/
def Anchored (source : String) : Prop :=
  ∃ tree names, Ast.parse source = .ok (tree, names) ∧ tree.isAnchored = true

/-- Of two steps that succeed, the first one does, and the second one after it. -/
theorem exists_of_bind_eq_ok {ε α β : Type} {x : Except ε α} {next : α → Except ε β} {b : β}
    (h : x >>= next = .ok b) : ∃ a, x = .ok a ∧ next a = .ok b := by
  cases x with
  | error e => cases h
  | ok a => exact ⟨a, rfl, h⟩

/-- The meaning of a pattern is that of its tree. -/
theorem exists_tree_of_parse {source : String} {expr : Expr} {names : GroupNames}
    (h : parse source = .ok (expr, names)) :
    ∃ tree f, Ast.parse source = .ok (tree, names) ∧ tree.toExpr {} = .ok (expr, f) := by
  obtain ⟨⟨tree, names'⟩, htree, h⟩ := exists_of_bind_eq_ok h
  obtain ⟨-, -, h⟩ := exists_of_bind_eq_ok h
  obtain ⟨⟨expr', f⟩, hexpr, h⟩ := exists_of_bind_eq_ok h
  cases h
  exact ⟨tree, f, htree, hexpr⟩

/-- A sequence of trees means what its trees mean, one after another. -/
theorem Ast.toExprs_cons_eq_ok {f f' : Flags} {tree : Ast} {trees : List Ast} {es : List Expr}
    (h : Ast.toExprs f (tree :: trees) = .ok (es, f')) :
    ∃ e g es', tree.toExpr f = .ok (e, g) ∧ Ast.toExprs g trees = .ok (es', f') ∧ es = e :: es' := by
  rw [Ast.toExprs] at h
  obtain ⟨⟨e, g⟩, he, h⟩ := exists_of_bind_eq_ok h
  obtain ⟨⟨es', f''⟩, hes, h⟩ := exists_of_bind_eq_ok h
  cases h
  exact ⟨e, g, es', he, hes, rfl⟩

/-- What such a sequence means begins with the assertion. -/
theorem Ast.flatItems_of_beginAnchored {f f' : Flags} {trees : List Ast} {es : List Expr}
    (h : beginAnchored f trees = true) (hes : Ast.toExprs f trees = .ok (es, f')) :
    ∃ rest, Expr.flatItems es = .look .textStart :: rest := by
  fun_induction beginAnchored f trees generalizing es with
  | case1 f span rest =>
    obtain ⟨e, g, es', he, -, rfl⟩ := toExprs_cons_eq_ok hes
    cases he
    exact ⟨Expr.flatItems es', rfl⟩
  | case2 f span rest =>
    obtain ⟨e, g, es', he, -, rfl⟩ := toExprs_cons_eq_ok hes
    rw [Bool.not_eq_true'] at h
    rw [Ast.toExpr, Assertion.toLook, h, if_neg Bool.false_ne_true] at he
    cases he
    exact ⟨Expr.flatItems es', rfl⟩
  | case3 f span items rest ih =>
    obtain ⟨e, g, es', he, hes', rfl⟩ := toExprs_cons_eq_ok hes
    cases he
    exact (ih h hes' : ∃ rest, Expr.flatItems es' = _)
  | case4 => cases h

/-- What an anchored tree means is a sequence that begins with the assertion. -/
theorem Ast.toExpr_of_isAnchored {tree : Ast} {e : Expr} {f : Flags} (h : tree.isAnchored = true)
    (he : tree.toExpr {} = .ok (e, f)) :
    ∃ es rest, e = Expr.sequence es ∧ Expr.flatItems es = .look .textStart :: rest := by
  unfold isAnchored at h
  split at h
  · rw [Ast.toExpr] at he
    obtain ⟨⟨es, f'⟩, hes, he⟩ := exists_of_bind_eq_ok he
    cases he
    obtain ⟨rest, hrest⟩ := flatItems_of_beginAnchored h hes
    exact ⟨es, rest, rfl, hrest⟩
  · -- there is nothing but the assertion
    refine ⟨[.look .textStart], [], ?_, rfl⟩
    unfold beginAnchored at h
    split at h
    case h_1 heq =>
      obtain ⟨rfl, -⟩ := List.cons.inj heq
      cases he
      rfl
    case h_2 heq =>
      obtain ⟨rfl, -⟩ := List.cons.inj heq
      cases he
      rfl
    case h_3 heq =>
      obtain ⟨-, rfl⟩ := List.cons.inj heq
      cases h
    case h_4 => cases h

/-- Where items of which the first is an assertion come one after another, the assertion is what the
program begins with. -/
theorem Expr.compile_sequence_of_flatItems {es rest : List Expr} {look : Look}
    (h : flatItems es = .look look :: rest) (code : Code) :
    ∃ code' : Code, (sequence es).compile code = code'.emit (.check look) := by
  rw [sequence, h]
  cases rest with
  | nil => exact ⟨code, rfl⟩
  | cons e rest => exact ⟨compileAll (e :: rest) code, rfl⟩

variable {source : String} {p : Pattern} {text : Array Char} {start : Nat} {m : Match}

/-- The program of such a pattern begins by checking the assertion. -/
theorem entry_of_anchored (h : compile source = .ok p) (hanchored : Anchored source) :
    ∃ next, p.program.instrs[p.program.entry]? = some (.check .textStart next) := by
  obtain ⟨expr, names, hparse, rfl⟩ := exists_parse_of_compile h
  obtain ⟨tree, names', htree, hbegins⟩ := hanchored
  obtain ⟨tree', f, htree', hexpr⟩ := exists_tree_of_parse hparse
  obtain ⟨rfl, -⟩ := Prod.mk.inj (Except.ok.inj (htree.symm.trans htree'))
  obtain ⟨es, rest, rfl, hes⟩ := Ast.toExpr_of_isAnchored hbegins hexpr
  obtain ⟨code, hcode⟩ := Expr.compile_sequence_of_flatItems hes (0, #[.accept])
  refine ⟨code.1, ?_⟩
  show ((Expr.sequence es).compile (0, #[.accept])).2[((Expr.sequence es).compile (0, #[.accept])).1]? = _
  rw [hcode]
  exact Array.getElem?_push_size

/-- So there are no matches but those at the start of the text. -/
theorem eq_zero_of_accepts_anchored (h : compile source = .ok p) (hanchored : Anchored source)
    {pos stop : Nat} (haccepts : p.program.Accepts text p.program.entry pos stop) : pos = 0 := by
  obtain ⟨next, hentry⟩ := entry_of_anchored h hanchored
  exact beq_iff_eq.mp ((Program.accepts_check_iff hentry).mp haccepts).1

/-- The match of an anchored pattern begins where the text does. -/
theorem start_of_find?_anchored (h : compile source = .ok p) (hanchored : Anchored source)
    (hm : p.find? text start = some m) : m.start = 0 :=
  eq_zero_of_accepts_anchored h hanchored (Program.find?_eq_some hm).1

/-- From any place behind the start of the text, an anchored pattern finds nothing. -/
theorem find?_anchored_eq_none (h : compile source = .ok p) (hanchored : Anchored source)
    (hstart : 0 < start) : p.find? text start = none := by
  cases hm : p.find? text start with
  | none => rfl
  | some m =>
    have hle := (find?_bounds hm).1
    rw [start_of_find?_anchored h hanchored hm] at hle
    exact absurd hle (Nat.not_le_of_lt hstart)

/-- An anchored pattern has no second match. -/
theorem allMatches_anchored (h : compile source = .ok p) (hanchored : Anchored source)
    (hm : p.find? text 0 = some m) : p.allMatches text = [m] := by
  have hresume : 0 < m.resume := Nat.lt_of_le_of_lt (Nat.zero_le m.start)
    (m.start_lt_resume (find?_bounds hm).2.1)
  rw [allMatches, matchesFrom_of_find?_eq_some hm,
    matchesFrom_of_find?_eq_none (find?_anchored_eq_none h hanchored hresume)]

end Fieldwise.Pattern

namespace Fieldwise

open Template

/-- **Replacing at the start.** A pattern that begins with an assertion of the start of the text finds
nothing from any later place. Where it matches, the match begins the value, and its expansion takes its
place with the rest of the value left as it is; where it does not, so is the whole value. -/
theorem replaceAll_anchored {source template : String} {p : Pattern}
    (hp : Pattern.compile source = .ok p) (hanchored : Pattern.Anchored source)
    (htemplate : validate p.groups template = .ok ()) (value : String) :
    let text := value.toList.toArray
    (∀ m, p.find? text 0 = some m → m.start = 0 ∧ p.allMatches text = [m] ∧
      ∃ replacement, expand p.groups template.toList text m = .ok replacement ∧
        replaceAll p template value = .ok (String.ofList (replacement ++ slice text m.stop text.size))) ∧
    (p.find? text 0 = none → p.allMatches text = [] ∧ replaceAll p template value = .ok value) ∧
    ∀ start, 0 < start → p.find? text start = none := by
  intro text
  refine ⟨fun m hm => ?_, fun hm => ?_, fun start => Pattern.find?_anchored_eq_none hp hanchored⟩
  · have hstart := Pattern.start_of_find?_anchored hp hanchored hm
    have hall := Pattern.allMatches_anchored hp hanchored hm
    obtain ⟨replacement, hexpand⟩ := exists_expand_of_validate htemplate text m
    refine ⟨hstart, hall, replacement, hexpand, ?_⟩
    rw [replaceAll_eq_weave, hall, List.mapM_cons, hexpand]
    show Except.ok (String.ofList (slice text 0 m.start ++ replacement ++ slice text m.stop text.size)) = _
    rw [hstart, slice_self, List.nil_append]
  · exact ⟨Pattern.matchesFrom_of_find?_eq_none hm, replaceAll_of_find?_eq_none template hm⟩

/-- Of the letters at the start only the first one is replaced, and none behind another letter. -/
theorem replaceAll_anchored_once : ∃ p : Pattern, Pattern.compile "^a" = .ok p ∧
    replaceAll p "b" "aaa" = .ok "baa" ∧ replaceAll p "b" "ca" = .ok "ca" := by
  have hfacts : (Pattern.compile "^a").toOption.map (fun p => (p.program.entry, p.program.instrs)) =
      some (2, #[.accept, .char 'a' 0, .check .textStart 1]) := by decide +kernel
  have hanchored : Pattern.Anchored "^a" := by
    have htree : (Pattern.Ast.parse "^a").toOption.map (fun r => r.1.isAnchored) = some true := by
      decide +kernel
    cases hparse : Pattern.Ast.parse "^a" with
    | error fault =>
      rw [hparse] at htree
      cases htree
    | ok r =>
      rw [hparse] at htree
      exact ⟨r.1, r.2, hparse, Option.some.inj htree⟩
  have hdenotes : Denotes "b".toList ['b'] := .plain (by decide) (by decide) .nil
  cases hp : Pattern.compile "^a" with
  | error e =>
    rw [hp] at hfacts
    cases hfacts
  | ok p =>
    rw [hp] at hfacts
    obtain ⟨hentry, hinstrs⟩ := Prod.mk.inj (Option.some.inj hfacts)
    have hvalid : validate p.groups "b" = .ok () := by
      rw [validate, tokens_eq_ok_iff.mpr (hdenotes.reads p.groups)]
      rfl
    -- the program accepts just behind an `a` that begins the text
    have haccepts : ∀ (text : Array Char) stop, p.program.Accepts text p.program.entry 0 stop ↔
        text[0]? = some 'a' ∧ stop = 1 := by
      intro text stop
      rw [hentry, Pattern.Program.accepts_check_iff (by rw [hinstrs]; rfl),
        Pattern.Program.accepts_char_iff (by rw [hinstrs]; rfl),
        Pattern.Program.accepts_accept_iff (by rw [hinstrs]; rfl)]
      exact and_iff_right rfl
    refine ⟨p, rfl, ?_, ?_⟩
    · obtain ⟨hmatch, -, -⟩ := replaceAll_anchored hp hanchored hvalid "aaa"
      cases hm : p.find? "aaa".toList.toArray 0 with
      | none =>
        exact absurd ((haccepts _ 1).mpr ⟨rfl, rfl⟩)
          (Pattern.Program.find?_eq_none hm 0 (Nat.le_refl 0) (Nat.zero_le _) 1)
      | some m =>
        obtain ⟨hstart, -, replacement, hexpand, hreplaced⟩ := hmatch m hm
        obtain ⟨-, hstop⟩ := (haccepts _ m.stop).mp (hstart ▸ (Pattern.Program.find?_eq_some hm).1)
        cases hexpand.symm.trans (hdenotes.expand p.groups _ m)
        rw [hreplaced, hstop]
        rfl
    · obtain ⟨-, hnone, -⟩ := replaceAll_anchored hp hanchored hvalid "ca"
      cases hm : p.find? "ca".toList.toArray 0 with
      | none => exact (hnone hm).2
      | some m =>
        have hfound := (Pattern.Program.find?_eq_some hm).1
        rw [Pattern.start_of_find?_anchored hp hanchored hm, haccepts] at hfound
        cases hfound.1

end Fieldwise
