import Fieldwise.Proofs.Pattern.GroupName
import Fieldwise.Proofs.Pattern.Search

/-!
# Patterns that stand for a word

`escape` writes a word as a pattern that stands for it, with a backslash before each character that would
otherwise have a meaning of its own. Read as a pattern, it is the literal of the word (`parse_escape`), and
what it compiles to is the program that reads the characters of the word one after the other
(`program_of_compile_escape`).

So the search finds the word and nothing else: a match begins at the first place from which the word
stands in the text (`StandsAt`) and ends behind it (`find?_escape_eq_some`), and where there is no match the
word does not stand anywhere (`find?_escape_eq_none`).
-/

namespace Fieldwise.Pattern

/-! ### Escaping -/

/-- A character as it is written in a pattern to stand for itself: after a backslash, if it has a meaning
of its own. -/
def escapeChar (c : Char) : List Char := if isMeta c then ['\\', c] else [c]

/-- A word as a pattern that stands for it. -/
def escape (word : String) : String := String.ofList (word.toList.flatMap escapeChar)

variable {p : Progress} {pos : Nat} {c : Char} {rest : List Char}

/-- Digits have no meaning that an escape could take away. -/
theorem not_isDigit_of_isMeta (h : isMeta c = true) : c.isDigit = false := by
  have hall : ("\\.+*?()|[]\x7b\x7d^$#&-~".toList.all fun c => !c.isDigit) = true := by decide
  have hc := List.all_eq_true.mp hall c (List.contains_iff_mem.mp h)
  rwa [Bool.not_eq_true'] at hc

/-- An escape before a character with a meaning of its own makes it stand for itself. -/
theorem readPart_backslash (h : isMeta c = true) (p : Progress) (pos : Nat) (rest : List Char) :
    readPart p ⟨pos, '\\' :: c :: rest, false⟩ =
      .ok (p.push (.literal ⟨⟨pos, pos + 1 + 1⟩, c, false⟩), ⟨pos + 1 + 1, rest, false⟩) := by
  have hescapable : isEscapable c = true := by rw [isEscapable, h, Bool.true_or]
  have hread : readEscape ⟨pos, '\\' :: c :: rest, false⟩ =
      .ok (.literal ⟨⟨pos, pos + 1 + 1⟩, c, false⟩, ⟨pos + 1 + 1, rest, false⟩) := by
    simp only [readEscape, Cursor.bump, not_isDigit_of_isMeta h, hescapable, Bool.false_eq_true, if_false,
      if_true]
    rfl
  show (readEscape ⟨pos, '\\' :: c :: rest, false⟩ >>= fun r => .ok (p.push r.1.toAst, r.2)) = _
  rw [hread]
  rfl

/-- A character without a meaning of its own stands for itself. -/
theorem readPart_plain (h : isMeta c = false) (p : Progress) (pos : Nat) (rest : List Char) :
    readPart p ⟨pos, c :: rest, false⟩ =
      .ok (p.push (.literal ⟨.char pos, c, false⟩), ⟨pos + 1, rest, false⟩) := by
  have hread : readPrimitive ⟨pos, c :: rest, false⟩ =
      .ok (.literal ⟨.char pos, c, false⟩, ⟨pos + 1, rest, false⟩) := by
    unfold readPrimitive
    split
    case h_5 heq =>
      obtain ⟨rfl, rfl⟩ := List.cons.inj heq
      rfl
    case h_6 heq => cases heq
    all_goals
      rename_i heq
      obtain ⟨rfl, -⟩ := List.cons.inj heq
      exact absurd h (by decide)
  unfold readPart
  split
  case h_9 =>
    rw [hread]
    rfl
  all_goals
    rename_i heq
    obtain ⟨rfl, -⟩ := List.cons.inj heq
    exact absurd h (by decide)

/-- A character that is escaped is read as the character. -/
theorem readParts_escapeChar (c : Char) (p : Progress) (pos : Nat) (rest : List Char) :
    ∃ (l : Literal) (pos' : Nat), l.char = c ∧
      readParts p ⟨pos, escapeChar c ++ rest, false⟩ =
        readParts (p.push (.literal l)) ⟨pos', rest, false⟩ := by
  rw [escapeChar]
  cases hmeta : isMeta c with
  | true =>
    exact ⟨_, _, rfl, readParts_of_readPart (readPart_backslash hmeta p pos rest) (Nat.le_succ _)⟩
  | false => exact ⟨_, _, rfl, readParts_of_readPart (readPart_plain hmeta p pos rest) (Nat.le_refl _)⟩

/-- A word that is escaped is read as its characters, one after the other. -/
theorem readParts_escape (word : List Char) (p : Progress) (pos : Nat) :
    ∃ (literals : List Literal) (stop : Nat), literals.map Literal.char = word ∧
      readParts p ⟨pos, word.flatMap escapeChar, false⟩ =
        .ok ({ p with items := ⟨p.items.start, (literals.map Ast.literal).reverse ++ p.items.reversed⟩ },
          ⟨stop, [], false⟩) := by
  induction word generalizing p pos with
  | nil => exact ⟨[], pos, rfl, readParts_nil p pos⟩
  | cons c word ih =>
    obtain ⟨l, pos', hl, hread⟩ := readParts_escapeChar c p pos (word.flatMap escapeChar)
    obtain ⟨literals, stop, hliterals, hrest⟩ := ih (p.push (.literal l)) pos'
    refine ⟨l :: literals, stop, by rw [List.map_cons, hl, hliterals], ?_⟩
    rw [List.flatMap_cons, hread, hrest, List.map_cons, List.reverse_cons, List.append_assoc]
    rfl

/-! ### The meaning of an escaped word -/

theorem toExprs_literals (literals : List Literal) :
    Ast.toExprs {} (literals.map Ast.literal) =
      .ok (literals.map fun l => .literal [l.char], {}) := by
  induction literals with
  | nil => rfl
  | cons l literals ih =>
    rw [List.map_cons, Ast.toExprs]
    show (Ast.toExprs {} (literals.map Ast.literal) >>= _) = _
    rw [ih]
    rfl

theorem checkDepths_literals (depth : Nat) (literals : List Literal) :
    Ast.checkDepths depth (literals.map Ast.literal) = .ok () := by
  induction literals with
  | nil => rfl
  | cons l literals ih =>
    rw [List.map_cons, Ast.checkDepths]
    exact ih

/-- Characters after each other are one word. -/
theorem flatItems_literals (c : Char) (word : List Char) :
    Expr.flatItems ((c :: word).map fun c => .literal [c]) = [.literal (c :: word)] := by
  induction word generalizing c with
  | nil => rfl
  | cons c' word ih =>
    rw [List.map_cons, Expr.flatItems]
    · rw [ih]
      rfl
    · exact nofun

/-- Two items or more are a sequence. -/
theorem toAst_of_two_le {s : Sequence} (h : 2 ≤ s.reversed.length) (stop : Nat) :
    s.toAst stop = .concat ⟨s.start, stop⟩ s.reversed.reverse := by
  obtain ⟨start, _ | ⟨last, _ | ⟨_, _⟩⟩⟩ := s
  · exact absurd h (Nat.not_succ_le_zero 1)
  · exact absurd h (Nat.not_succ_le_self 1)
  · rfl

/-- The meaning of characters after each other is the word that they make. -/
theorem meaning_literals (start stop : Nat) (literals : List Literal) :
    ((Sequence.mk start (literals.map Ast.literal).reverse).toAst stop).checkDepth 0 = .ok () ∧
      ∃ expr, ((Sequence.mk start (literals.map Ast.literal).reverse).toAst stop).toExpr {} =
          .ok (expr, {}) ∧
        expr.program = (Expr.literal (literals.map Literal.char)).program := by
  match literals with
  | [] => exact ⟨rfl, .empty, rfl, rfl⟩
  | [l] => exact ⟨rfl, .literal [l.char], rfl, rfl⟩
  | l :: l' :: rest =>
    have htree : (Sequence.mk start ((l :: l' :: rest).map Ast.literal).reverse).toAst stop =
        .concat ⟨start, stop⟩ ((l :: l' :: rest).map Ast.literal) := by
      rw [toAst_of_two_le (by simp), List.reverse_reverse]
    rw [htree]
    refine ⟨checkDepths_literals 1 _, .literal ((l :: l' :: rest).map Literal.char), ?_, rfl⟩
    have hitems : ((l :: l' :: rest).map fun l => Expr.literal [l.char]) =
        ((l :: l' :: rest).map Literal.char).map fun c => .literal [c] := by
      rw [List.map_map]
      rfl
    rw [Ast.toExpr, toExprs_literals, hitems]
    show Except.ok (Expr.sequence _, _) = _
    rw [Expr.sequence, List.map_cons, flatItems_literals]

/-- The meaning of an escaped word is the word. -/
theorem parse_escape (word : String) :
    ∃ expr, parse (escape word) = .ok (expr, .empty) ∧
      expr.program = (Expr.literal word.toList).program := by
  obtain ⟨literals, stop, hliterals, hread⟩ :=
    readParts_escape word.toList ⟨[], ⟨0, []⟩, 0, .empty, []⟩ 0
  obtain ⟨hdepth, expr, hexpr, hprogram⟩ := meaning_literals 0 stop literals
  rw [hliterals] at hprogram
  refine ⟨expr, ?_, hprogram⟩
  have htree : Ast.parse (escape word) =
      .ok ((Sequence.mk 0 (literals.map Ast.literal).reverse).toAst stop, .empty) := by
    rw [Ast.parse, escape, String.toList_ofList]
    dsimp only
    rw [hread, List.append_nil]
    rfl
  rw [parse, htree]
  show ((Sequence.mk 0 _).toAst stop).checkDepth 0 >>= _ = _
  rw [hdepth]
  show (((Sequence.mk 0 _).toAst stop).toExpr {} >>= _) = _
  rw [hexpr]
  rfl

/-- What an escaped word compiles to, if it is not too large, is the program of the word. -/
theorem program_of_compile_escape {word : String} {p : Pattern} (h : compile (escape word) = .ok p) :
    p.program = (Expr.literal word.toList).program := by
  obtain ⟨expr, hparse, hprogram⟩ := parse_escape word
  obtain ⟨expr', names, hparse', rfl⟩ := exists_parse_of_compile h
  obtain ⟨rfl, -⟩ := Prod.mk.inj (Except.ok.inj (hparse.symm.trans hparse'))
  exact hprogram

/-! ### The program of a word -/

/-- The word stands in the text at a place. -/
def StandsAt (word : List Char) (text : Array Char) (pos : Nat) : Prop := word <+: text.toList.drop pos

/-- No word at all stands everywhere. -/
theorem standsAt_nil (text : Array Char) (pos : Nat) : StandsAt [] text pos := List.nil_prefix

/-- A word stands where its first character does, with the rest of it behind. -/
theorem standsAt_cons_iff {word : List Char} {text : Array Char} {pos : Nat} :
    StandsAt (c :: word) text pos ↔ text[pos]? = some c ∧ StandsAt word text (pos + 1) := by
  rw [StandsAt, StandsAt, ← Array.getElem?_toList]
  rcases Nat.lt_or_ge pos text.toList.length with hlt | hge
  · rw [List.drop_eq_getElem_cons hlt, List.cons_prefix_cons, List.getElem?_eq_getElem hlt,
      Option.some.injEq, eq_comm]
  · rw [List.drop_of_length_le hge, List.getElem?_eq_none hge]
    simp

/-- The instructions for a word are as many as its characters, and one that accepts. -/
theorem program_literal (word : List Char) :
    (Expr.literal word).program.entry = word.length ∧
      (Expr.literal word).program.instrs.size = word.length + 1 := by
  induction word with
  | nil => exact ⟨rfl, rfl⟩
  | cons c word ih =>
    obtain ⟨-, hsize⟩ := ih
    refine ⟨hsize, ?_⟩
    show (Array.push _ _).size = _
    rw [Array.size_push, List.length_cons]
    exact congrArg (· + 1) hsize

/-- The instruction for what is left of a word reads its first character. -/
theorem getElem?_program_literal (read rest : List Char) :
    (Expr.literal (read ++ rest)).program.instrs[rest.length]? =
      match rest with
      | [] => some .accept
      | c :: rest => some (.char c rest.length) := by
  induction read with
  | nil =>
    cases rest with
    | nil => rfl
    | cons c rest =>
      obtain ⟨hentry, hsize⟩ := program_literal rest
      show (Array.push (Expr.literal rest).program.instrs
        (.char c (Expr.literal rest).program.entry))[rest.length + 1]? = _
      rw [← hsize, Array.getElem?_push_size, hentry]
  | cons c read ih =>
    have hlt : rest.length < (Expr.literal (read ++ rest)).program.instrs.size := by
      rw [(program_literal _).2, List.length_append]
      omega
    show (Array.push (Expr.literal (read ++ rest)).program.instrs _)[rest.length]? = _
    rw [Array.getElem?_push_lt hlt, ← ih, Array.getElem?_eq_getElem hlt]

/-- With the rest of a word still to be read, the program accepts just where that stands, at its end. -/
theorem accepts_literal_iff (read rest : List Char) (text : Array Char) (pos stop : Nat) :
    (Expr.literal (read ++ rest)).program.Accepts text rest.length pos stop ↔
      StandsAt rest text pos ∧ stop = pos + rest.length := by
  induction rest generalizing read pos with
  | nil =>
    have hinstr := getElem?_program_literal read []
    rw [Program.accepts_accept_iff hinstr]
    exact (and_iff_right (standsAt_nil text pos)).symm
  | cons c rest ih =>
    have hinstr := getElem?_program_literal read (c :: rest)
    have hread : read ++ c :: rest = (read ++ [c]) ++ rest := by rw [List.append_assoc]; rfl
    have hrest := ih (read ++ [c]) (pos + 1)
    rw [← hread] at hrest
    rw [Program.accepts_char_iff hinstr, hrest, standsAt_cons_iff, and_assoc, List.length_cons,
      Nat.add_right_comm, Nat.add_assoc]

/-! ### Looking for a word -/

variable {word : String} {p : Pattern} {text : Array Char} {start : Nat} {m : Match}

/-- The pattern of a word accepts it where it stands, at its end. -/
theorem accepts_escape_iff (h : compile (escape word) = .ok p) (pos stop : Nat) :
    p.program.Accepts text p.program.entry pos stop ↔
      StandsAt word.toList text pos ∧ stop = pos + word.toList.length := by
  rw [program_of_compile_escape h, (program_literal _).1]
  exact accepts_literal_iff [] word.toList text pos stop

/-- What the pattern of a word finds is the word, where it first stands. -/
theorem find?_escape_eq_some (h : compile (escape word) = .ok p) (hm : p.find? text start = some m) :
    StandsAt word.toList text m.start ∧ m.stop = m.start + word.toList.length ∧
      ∀ i, start ≤ i → i < m.start → ¬StandsAt word.toList text i := by
  obtain ⟨haccepts, hfirst⟩ := Program.find?_eq_some hm
  obtain ⟨hstands, hstop⟩ := (accepts_escape_iff h _ _).mp haccepts
  refine ⟨hstands, hstop, fun i hle hlt hstands' => ?_⟩
  exact hfirst i hle hlt _ ((accepts_escape_iff h _ _).mpr ⟨hstands', rfl⟩)

/-- Where the pattern of a word finds nothing, the word does not stand anywhere. -/
theorem find?_escape_eq_none (h : compile (escape word) = .ok p) (hm : p.find? text start = none) :
    ∀ i, start ≤ i → i ≤ text.size → ¬StandsAt word.toList text i := fun i hle hi hstands =>
  Program.find?_eq_none hm i hle hi _ ((accepts_escape_iff h _ _).mpr ⟨hstands, rfl⟩)

end Fieldwise.Pattern
