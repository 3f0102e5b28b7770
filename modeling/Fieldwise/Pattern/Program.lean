import Fieldwise.Pattern.Expr

/-!
# Programs that look for matches

`Expr.compile` turns an expression into a program for a machine with several threads, which are
ordered by preference. It is compiled from its end to its start: to compile an expression is to put
instructions before a given one, so that each expression knows what follows it.
-/

namespace Fieldwise.Pattern

/-- An instruction. Each one but the last names the instruction after it; a fork names several, the
preferred one first. -/
inductive Instr where
  | char (c : Char) (next : Nat)
  | member (set : CharSet) (next : Nat)
  | check (look : Look) (next : Nat)
  | mark (slot : Nat) (next : Nat)
  | fork (targets : List Nat)
  | accept
  deriving BEq, DecidableEq, Inhabited

/-- A program and the instruction that it starts at. -/
structure Program where
  instrs : Array Instr
  entry : Nat
  deriving Inhabited

/-- Code under construction: the instruction to go to and the instructions so far. -/
abbrev Code := Nat × Array Instr

namespace Code

/-- Puts an instruction in front. -/
def emit (instr : Nat → Instr) (code : Code) : Code :=
  (code.2.size, code.2.push (instr code.1))

/-- Puts several copies in front. -/
def copies (body : Code → Code) : (n : Nat) → Code → Code
  | 0, code => code
  | n + 1, code => copies body n (body code)

/-- The order in which a repetition tries another copy and its end. -/
def choices (greedy : Bool) (again stop : Nat) : List Nat :=
  if greedy then [again, stop] else [stop, again]

/-- Puts one copy or more in front. Yields where a copy begins and where the choice between a further
copy and the end is made, with the instructions so far. -/
def loop (greedy : Bool) (body : Code → Code) (code : Code) : Nat × Nat × Array Instr :=
  let again := code.2.size
  let (start, instrs) := body (again, code.2.push (.fork []))
  (start, again, instrs.setIfInBounds again (.fork (choices greedy start code.1)))

/-- Puts at least `n` copies in front. Where a copy may be empty, the choice of no copy at all is
made apart from the choice of a further copy, which keeps the order of preference. -/
def atLeast (n : Nat) (greedy consumes : Bool) (body : Code → Code) (code : Code) : Code :=
  let (start, again, instrs) := loop greedy body code
  match n with
  | 0 =>
    if consumes then (again, instrs)
    else emit (fun start => .fork (choices greedy start code.1)) (start, instrs)
  | n + 1 => copies body n (start, instrs)

/-- Puts up to `n` copies in front, each of which can be followed by the end `stop`. -/
def upTo (n : Nat) (greedy : Bool) (body : Code → Code) (stop : Nat) (code : Code) : Code :=
  copies (fun code => emit (fun start => .fork (choices greedy start stop)) (body code)) n code

end Code

mutual

/-- Puts the instructions of an expression in front. -/
def Expr.compile : Expr → Code → Code
  | .empty, code => code
  | .literal text, code => text.foldr (fun c code => code.emit (.char c)) code
  | .chars _ set, code => code.emit (.member set)
  | .look kind, code => code.emit (.check kind)
  | .repeated least greatest greedy sub, code =>
    match greatest with
    | none => code.atLeast least greedy sub.consumes sub.compile
    | some greatest =>
      Code.copies sub.compile least (code.upTo (greatest - least) greedy sub.compile code.1)
  | .capture index sub, code =>
    (sub.compile (code.emit (.mark (2 * index + 1)))).emit (.mark (2 * index))
  | .concat items, code => Expr.compileAll items code
  | .alternation branches, code =>
    let (targets, instrs) := Expr.compileEach branches code
    Code.emit (fun _ => .fork targets) (0, instrs)

/-- Puts the instructions of several expressions in front, to be run one after the other. -/
def Expr.compileAll : List Expr → Code → Code
  | [], code => code
  | e :: es, code => e.compile (Expr.compileAll es code)

/-- Adds the instructions of several expressions, each to be run by itself, and yields where each of
them begins. -/
def Expr.compileEach : List Expr → Code → List Nat × Array Instr
  | [], code => ([], code.2)
  | e :: es, code =>
    let (start, instrs) := e.compile code
    let (starts, instrs) := Expr.compileEach es (code.1, instrs)
    (start :: starts, instrs)

end

/-- The program of an expression. -/
def Expr.program (e : Expr) : Program :=
  let (entry, instrs) := e.compile (0, #[.accept])
  ⟨instrs, entry⟩

end Fieldwise.Pattern
