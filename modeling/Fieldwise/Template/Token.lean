import Fieldwise.Pattern.Group

/-!
# Replacement templates

A template is literal text with references to capture groups: `$` and a number, `$` and a name in
braces, or a backslash and a character that stands for itself. `Template.tokens` takes a template
apart, given the groups that there are; a reference to a group that does not exist is an error.
-/

namespace Fieldwise.Template

/-- The capture groups of a pattern: how many there are besides the match as a whole, and what they
are called. -/
structure Groups where
  count : Nat
  names : Pattern.GroupNames

/-- A part of a template: a character, or what a group has matched. -/
inductive Token where
  | literal (c : Char)
  | group (index : Nat)
  deriving BEq, DecidableEq, Repr

/-- What can be wrong with the form of a reference. -/
inductive BadReference where
  | missingIndex
  | unclosedName
  | emptyName
  | digitName (name : String)
  deriving BEq, DecidableEq, Repr

/-- Why a template cannot be expanded. -/
inductive Error where
  | noSuchGroup (index : Nat)
  | noSuchNamedGroup (name : String)
  | invalidReference (why : BadReference)
  | danglingEscape
  deriving BEq, DecidableEq, Repr

/-- What is wrong with a reference, in words. -/
def BadReference.message : BadReference → String
  | .missingIndex => "group index is missing"
  | .unclosedName => "named capturing group is missing trailing '\x7d'"
  | .emptyName => "named capturing group has 0 length name"
  | .digitName name =>
    "capturing group name \x7b" ++ name ++ "\x7d starts with digit character"

/-- What is wrong with a template, in words. -/
def Error.message : Error → String
  | .noSuchGroup index => "No group " ++ toString index
  | .noSuchNamedGroup name => "No group with name \x7b" ++ name ++ "\x7d"
  | .invalidReference why => "Illegal group reference: " ++ why.message
  | .danglingEscape => "Character to be escaped is missing"

/-- A label for the kind of an error, which tells nothing of the template. -/
def Error.kind : Error → String
  | .noSuchGroup _ => "no_such_group"
  | .noSuchNamedGroup _ => "no_such_named_group"
  | .invalidReference _ => "invalid_group_reference"
  | .danglingEscape => "dangling_escape"

/-- The value of a decimal digit. -/
def digitValue (c : Char) : Nat := c.toNat - '0'.toNat

/-- Reads on a number, of which `n` has been read, as long as it is at most `count`. -/
def extendNumber (count n : Nat) : List Char → Nat × List Char
  | [] => (n, [])
  | c :: cs =>
    if c.isDigit then
      let longer := n * 10 + digitValue c
      if longer ≤ count then extendNumber count longer cs else (n, c :: cs)
    else (n, c :: cs)

/-- Reads the number of a group from its first digit on. The first digit always counts; others count
as long as the number is that of a group. -/
def readNumber (count : Nat) (first : Char) (cs : List Char) : Except Error (Nat × List Char) :=
  if digitValue first ≤ count then .ok (extendNumber count (digitValue first) cs)
  else .error (.noSuchGroup (digitValue first))

/-- Reads the name of a group, after the opening brace. -/
def readName (cs : List Char) : Except Error (List Char × List Char) :=
  let name := cs.takeWhile (· != '\x7d')
  match cs.dropWhile (· != '\x7d') with
  | [] => .error (.invalidReference .unclosedName)
  | _ :: rest =>
    match name with
    | [] => .error (.invalidReference .emptyName)
    | c :: _ =>
      if c.isDigit then .error (.invalidReference (.digitName (String.ofList name)))
      else .ok (name, rest)

/-- Reads a reference, after the dollar sign. Yields the number of the group. -/
def readReference (groups : Groups) : List Char → Except Error (Nat × List Char)
  | [] => .error (.invalidReference .missingIndex)
  | c :: cs =>
    if c = '\x7b' then
      match readName cs with
      | .error e => .error e
      | .ok (name, rest) =>
        match groups.names.index? name with
        | some index => .ok (index, rest)
        | none => .error (.noSuchNamedGroup (String.ofList name))
    else if c.isDigit then readNumber groups.count c cs
    else .error (.invalidReference .missingIndex)

theorem length_extendNumber (count n : Nat) (cs : List Char) :
    (extendNumber count n cs).2.length ≤ cs.length := by
  induction cs generalizing n with
  | nil => simp [extendNumber]
  | cons c cs ih =>
    unfold extendNumber
    have := ih (n * 10 + digitValue c)
    split
    · simp only []
      split
      · simp only [List.length_cons]; omega
      · simp
    · simp

theorem length_readNumber {count : Nat} {first : Char} {cs rest : List Char} {n : Nat}
    (h : readNumber count first cs = .ok (n, rest)) : rest.length ≤ cs.length := by
  unfold readNumber at h
  split at h
  · have := length_extendNumber count (digitValue first) cs
    simp only [Except.ok.injEq] at h
    rw [h] at this
    exact this
  · simp at h

theorem length_readName {cs name rest : List Char} (h : readName cs = .ok (name, rest)) :
    rest.length < cs.length := by
  unfold readName at h
  simp only [] at h
  split at h
  · simp at h
  · rename_i x rest' heq
    have hlen := (List.dropWhile_sublist (· != '\x7d') (l := cs)).length_le
    rw [heq, List.length_cons] at hlen
    split at h
    · simp at h
    · split at h
      · simp at h
      · simp only [Except.ok.injEq, Prod.mk.injEq] at h
        obtain ⟨-, rfl⟩ := h
        omega

theorem length_readReference {groups : Groups} {cs rest : List Char} {n : Nat}
    (h : readReference groups cs = .ok (n, rest)) : rest.length ≤ cs.length := by
  unfold readReference at h
  split at h
  · simp at h
  · rename_i c cs
    split at h
    · split at h
      · simp at h
      · rename_i name rest' hname
        have := length_readName hname
        split at h
        · simp only [Except.ok.injEq, Prod.mk.injEq] at h
          obtain ⟨-, rfl⟩ := h
          simp only [List.length_cons]
          omega
        · simp at h
    · split at h
      · have := length_readNumber h
        simp only [List.length_cons]
        omega
      · simp at h

/-- Takes a template apart. -/
def tokens (groups : Groups) (template : List Char) : Except Error (List Token) :=
  match template with
  | [] => .ok []
  | c :: cs =>
    if c = '\\' then
      match cs with
      | [] => .error .danglingEscape
      | escaped :: rest => do return .literal escaped :: (← tokens groups rest)
    else if c = '$' then
      match _h : readReference groups cs with
      | .error e => .error e
      | .ok (index, rest) => do return .group index :: (← tokens groups rest)
    else do return .literal c :: (← tokens groups cs)
  termination_by template.length
  decreasing_by
  · simp only [List.length_cons]; omega
  · have := length_readReference _h
    simp only [List.length_cons]; omega
  · simp only [List.length_cons]; omega

section Equations

variable (groups : Groups) {c : Char} {cs rest : List Char}

theorem tokens_nil : tokens groups [] = .ok [] := by rw [tokens]

theorem tokens_backslash : tokens groups ['\\'] = .error .danglingEscape := by rw [tokens, if_pos rfl]

theorem tokens_escaped (c : Char) (rest : List Char) :
    tokens groups ('\\' :: c :: rest) = (tokens groups rest).map (.literal c :: ·) := by
  rw [tokens, if_pos rfl]
  cases tokens groups rest <;> rfl

theorem tokens_dollar_of_ok {index : Nat} (h : readReference groups cs = .ok (index, rest)) :
    tokens groups ('$' :: cs) = (tokens groups rest).map (.group index :: ·) := by
  rw [tokens.eq_def]
  dsimp only
  rw [if_neg (by decide), if_pos rfl]
  split
  · rename_i he
    cases h.symm.trans he
  · rename_i he
    cases h.symm.trans he
    cases tokens groups rest <;> rfl

theorem tokens_dollar_of_error {e : Error} (h : readReference groups cs = .error e) :
    tokens groups ('$' :: cs) = .error e := by
  rw [tokens.eq_def]
  dsimp only
  rw [if_neg (by decide), if_pos rfl]
  split
  · rename_i he
    cases h.symm.trans he
    rfl
  · rename_i he
    cases h.symm.trans he

theorem tokens_plain (hslash : c ≠ '\\') (hdollar : c ≠ '$') :
    tokens groups (c :: cs) = (tokens groups cs).map (.literal c :: ·) := by
  rw [tokens.eq_def]
  dsimp only
  rw [if_neg hslash, if_neg hdollar]
  cases tokens groups cs <;> rfl

end Equations

end Fieldwise.Template
