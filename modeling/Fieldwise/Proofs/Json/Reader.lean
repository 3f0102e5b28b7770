import Fieldwise.Proofs.Json.Grammar
import Fieldwise.Proofs.Json.Lists
import Fieldwise.Proofs.Json.Numbers

/-!
# Reading JSON

`Json.read` reads a text as a document. It goes over the text once and keeps what encloses the document it
stands in on a stack of frames, as the library does when it skips a value.

Every text of the grammar is read as the document that it stands for (`read_of_isText`). The induction is on the
spelling: `ReadsAs` says that the reader comes behind a text with the document in hand, whatever frames it had
before, so that the parts of an array or an object follow one from the other. As a reader has one answer, no
text stands for two documents (`IsText.unique`).
-/

namespace Fieldwise.Json

/-! ### The reader -/

/-- What encloses a document that is being read, with what has been read of it. -/
inductive Frame where
  | array (done : List Document)
  | object (done : List (String × Document)) (name : String)

/-- Reads a number. -/
def readNumeral (c : Cursor) : Except Fault (String × Cursor) := do
  let after ← skipNumber (if c.rest.head? == some '-' then c.bump else c)
  .ok (String.ofList (c.rest.take (c.rest.length - after.rest.length)), after)

/-- Reads the name of a member, after its first quote, and the colon. -/
def readName (c : Cursor) : Except Fault (String × Cursor) := do
  let (name, c) ← readStringRest c
  let c ← readColon c
  .ok (String.ofList name, c)

/-- Reads a document that encloses no other, or steps into an array or an object. -/
def readOpening (c : Cursor) : Except Fault ((Document ⊕ Frame) × Cursor) := do
  match c.rest with
  | [] => failNext .eofInValue c
  | x :: _ =>
    if x = 'n' then
      let c ← readIdent c.bump "ull".toList
      .ok (.inl .null, c)
    else if x = 't' then
      let c ← readIdent c.bump "rue".toList
      .ok (.inl (.bool true), c)
    else if x = 'f' then
      let c ← readIdent c.bump "alse".toList
      .ok (.inl (.bool false), c)
    else if x = '-' ∨ x.isDigit then
      let (numeral, c) ← readNumeral c
      .ok (.inl (.number numeral), c)
    else if x = '"' then
      let (text, c) ← readStringRest c.bump
      .ok (.inl (.string (String.ofList text)), c)
    else if x = '[' then
      match ← nextElement? true c.bump with
      | some c => .ok (.inr (.array []), c)
      | none =>
        let c ← endList c.bump
        .ok (.inl (.array []), c)
    else if x = '{' then
      match ← nextKey? true c.bump with
      | some c =>
        let (name, c) ← readName c
        .ok (.inr (.object [] name), c)
      | none =>
        let c ← endObject c.bump
        .ok (.inl (.object []), c)
    else failNext .expectedValue c

/-- After a document: puts it into what encloses it, and steps to the next document in there or over the end.
Yields the outermost document if that has ended. -/
def readClosing (d : Document) (c : Cursor) :
    List Frame → Except Fault ((Document ⊕ List Frame) × Cursor)
  | [] => .ok (.inl d, c)
  | .array done :: frames => do
    match ← nextElement? false c with
    | some c => .ok (.inr (.array (done ++ [d]) :: frames), c)
    | none =>
      let c ← endList c
      readClosing (.array (done ++ [d])) c frames
  | .object done name :: frames => do
    match ← nextKey? false c with
    | some c =>
      let (next, c) ← readName c
      .ok (.inr (.object (done ++ [(name, d)]) next :: frames), c)
    | none =>
      let c ← endObject c
      readClosing (.object (done ++ [(name, d)])) c frames

@[grind →]
theorem length_readNumeral {c c' : Cursor} {numeral : String} (h : readNumeral c = .ok (numeral, c')) :
    c'.rest.length < c.rest.length := by
  have := c.length_bump_le
  simp only [readNumeral, bind, Except.bind] at h
  grind

@[grind →]
theorem length_readName {c c' : Cursor} {name : String} (h : readName c = .ok (name, c')) :
    c'.rest.length < c.rest.length := by
  simp only [readName, bind, Except.bind] at h
  grind

@[grind →]
theorem length_endObject {c c' : Cursor} (h : endObject c = .ok c') : c'.rest.length ≤ c.rest.length := by
  have := c.length_skipWhite_le
  have := c.skipWhite.length_bump_le
  grind [endObject, failNext]

@[grind →]
theorem length_readOpening {c c' : Cursor} {opened : Document ⊕ Frame}
    (h : readOpening c = .ok (opened, c')) : c'.rest.length < c.rest.length := by
  simp only [readOpening, bind, Except.bind] at h
  split at h
  · simp [failNext] at h
  · rename_i hc
    have := Cursor.length_bump_lt hc
    repeat' split at h
    all_goals grind [failNext]

@[grind →]
theorem length_readClosing {d : Document} {c c' : Cursor} {frames : List Frame}
    {closed : Document ⊕ List Frame} (h : readClosing d c frames = .ok (closed, c')) :
    c'.rest.length ≤ c.rest.length := by
  fun_induction readClosing d c frames with
  | case1 => grind
  | case2 | case3 =>
    simp only [bind, Except.bind] at h
    grind

/-- Reads the document that comes next, and what follows it up to the end of what encloses it. -/
def readDocument (frames : List Frame) (c : Cursor) : Except Fault (Document × Cursor) :=
  match _ho : readOpening c.skipWhite with
  | .error f => .error f
  | .ok (.inr frame, after) => readDocument (frame :: frames) after
  | .ok (.inl d, after) =>
    match _hc : readClosing d after frames with
    | .error f => .error f
    | .ok (.inl d, after) => .ok (d, after)
    | .ok (.inr frames, after) => readDocument frames after
  termination_by c.rest.length
  decreasing_by all_goals
    have := c.length_skipWhite_le
    grind

/-- Reads a text as a document. Nothing but white space may follow it. -/
def read (text : String) : Except Error Document :=
  let result : Except Fault Document := do
    let (d, c) ← readDocument [] ⟨0, text.toList⟩
    let c := c.skipWhite
    if c.rest.isEmpty then .ok d else failNext .trailingCharacters c
  result.mapError (Fault.toError text.toList)

/-! ### What is spelled is read -/

section Steps

variable {frames : List Frame} {frame : Frame} {c c' : Cursor} {d : Document} {name next : String}

/-- What comes of a document that has been read, in what encloses it. -/
def resume (frames : List Frame) (d : Document) (c : Cursor) : Except Fault (Document × Cursor) :=
  match readClosing d c frames with
  | .error f => .error f
  | .ok (.inl d, after) => .ok (d, after)
  | .ok (.inr frames, after) => readDocument frames after

theorem readDocument_of_document (h : readOpening c.skipWhite = .ok (.inl d, c')) :
    readDocument frames c = resume frames d c' := by
  rw [readDocument]
  split
  · rename_i f hf
    cases h.symm.trans hf
  · rename_i frame after hframe
    cases h.symm.trans hframe
  · rename_i d₁ after hd
    obtain ⟨hd₁, rfl⟩ := Prod.mk.inj (Except.ok.inj (h.symm.trans hd))
    obtain rfl := Sum.inl.inj hd₁
    rw [resume]
    split <;> simp_all

theorem readDocument_of_frame (h : readOpening c.skipWhite = .ok (.inr frame, c')) :
    readDocument frames c = readDocument (frame :: frames) c' := by
  rw [readDocument]
  split
  · rename_i f hf
    cases h.symm.trans hf
  · rename_i frame₁ after hframe
    obtain ⟨hframe₁, rfl⟩ := Prod.mk.inj (Except.ok.inj (h.symm.trans hframe))
    obtain rfl := Sum.inr.inj hframe₁
    rfl
  · rename_i d after hd
    cases h.symm.trans hd

theorem resume_nil (d : Document) (c : Cursor) : resume [] d c = .ok (d, c) := rfl

theorem resume_array_of_next {done : List Document} (h : nextElement? false c = .ok (some c')) :
    resume (.array done :: frames) d c = readDocument (.array (done ++ [d]) :: frames) c' := by
  rw [resume, readClosing, h]
  rfl

theorem resume_array_of_end {done : List Document} (h : nextElement? false c = .ok none)
    (hend : endList c = .ok c') :
    resume (.array done :: frames) d c = resume frames (.array (done ++ [d])) c' := by
  rw [resume, readClosing, h]
  simp only [bind, Except.bind, hend]
  rfl

theorem resume_object_of_next {done : List (String × Document)} {c'' : Cursor}
    (h : nextKey? false c = .ok (some c')) (hname : readName c' = .ok (next, c'')) :
    resume (.object done name :: frames) d c =
      readDocument (.object (done ++ [(name, d)]) next :: frames) c'' := by
  rw [resume, readClosing, h]
  simp only [bind, Except.bind, hname]

theorem resume_object_of_end {done : List (String × Document)} (h : nextKey? false c = .ok none)
    (hend : endObject c = .ok c') :
    resume (.object done name :: frames) d c = resume frames (.object (done ++ [(name, d)])) c' := by
  rw [resume, readClosing, h]
  simp only [bind, Except.bind, hend]
  rfl

end Steps

/-- The reader takes the text for the document: where the text is what comes next, it goes on behind it as it
does with the document. -/
def ReadsAs (d : Document) (text : List Char) : Prop :=
  ∀ (frames : List Frame) (c : Cursor) (index : Nat) (rest : List Char), Delimited rest →
    c.skipWhite = ⟨index, text ++ rest⟩ →
      ∃ index', readDocument frames c = resume frames d ⟨index', rest⟩

/-- White space, a comma and a closing bracket are in no number. -/
theorem delimited_cons {x : Char} (hx : Cursor.isWhite x = true ∨ x = ',' ∨ x = ']' ∨ x = '}')
    (rest : List Char) : Delimited (x :: rest) := by
  rintro y ⟨⟩
  simp only [Cursor.isWhite, Bool.or_eq_true, beq_iff_eq] at hx
  rcases hx with (((rfl | rfl) | rfl) | rfl) | rfl | rfl | rfl <;> decide

theorem delimited_of_isWhite {white : List Char} (hwhite : IsWhite white) : Delimited white := by
  cases white with
  | nil => exact nofun
  | cons y white => exact delimited_cons (.inl (hwhite y List.mem_cons_self)) white

theorem delimited_append {white rest : List Char} {x : Char} (hwhite : IsWhite white)
    (hx : x = ',' ∨ x = ']' ∨ x = '}') : Delimited (white ++ x :: rest) := by
  cases white with
  | nil => exact delimited_cons (.inr hx) rest
  | cons y white => exact delimited_cons (.inl (hwhite y List.mem_cons_self)) _

/-- A number begins with its sign or a digit. -/
theorem IsNumeral.exists_cons {text : List Char} (h : IsNumeral text) :
    ∃ x cs, text = x :: cs ∧ (x = '-' ∨ x.isDigit = true) := by
  obtain ⟨hsign, hwhole, -, -⟩ := h
  rcases hsign with rfl | rfl
  · cases hwhole with
    | zero => exact ⟨'0', _, rfl, .inr rfl⟩
    | digits _ h => exact ⟨_, _, rfl, .inr (h.2 _ List.mem_cons_self)⟩
  · exact ⟨'-', _, rfl, .inl rfl⟩

/-- Neither a sign nor a digit is white space or a closing bracket. -/
theorem isWhite_eq_false_of_numeral {x : Char} (hx : x = '-' ∨ x.isDigit = true) :
    Cursor.isWhite x = false ∧ x ≠ ']' := by
  rw [Cursor.isWhite, ← Bool.not_eq_true]
  simp only [Bool.or_eq_true, beq_iff_eq]
  constructor
  · rintro (((rfl | rfl) | rfl) | rfl) <;> revert hx <;> decide
  · rintro rfl
    revert hx
    decide

/-- A document begins with a character that is neither white space nor a closing bracket. -/
theorem Spells.exists_cons {d : Document} {text : List Char} (h : Spells d text) :
    ∃ x cs, text = x :: cs ∧ Cursor.isWhite x = false ∧ x ≠ ']' := by
  cases h with
  | null => exact ⟨'n', "ull".toList, rfl, rfl, by decide⟩
  | bool b =>
    cases b with
    | true => exact ⟨'t', "rue".toList, rfl, rfl, by decide⟩
    | false => exact ⟨'f', "alse".toList, rfl, rfl, by decide⟩
  | number h =>
    obtain ⟨x, cs, rfl, hx⟩ := h.exists_cons
    exact ⟨x, cs, rfl, isWhite_eq_false_of_numeral hx⟩
  | string _ => exact ⟨'"', _, rfl, rfl, by decide⟩
  | array _ _ _ => exact ⟨'[', _, rfl, rfl, by decide⟩
  | object _ _ _ _ => exact ⟨'{', _, rfl, rfl, by decide⟩

/-! ### Documents that enclose no other -/

theorem readsAs_null : ReadsAs .null "null".toList := by
  intro frames c index rest _ hc
  refine ⟨index + 1 + 1 + 1 + 1, readDocument_of_document ?_⟩
  rw [hc]
  rfl

theorem readsAs_bool (b : Bool) : ReadsAs (.bool b) (toString b).toList := by
  intro frames c index rest _ hc
  cases b with
  | true => exact ⟨index + 1 + 1 + 1 + 1, readDocument_of_document (by rw [hc]; rfl)⟩
  | false => exact ⟨index + 1 + 1 + 1 + 1 + 1, readDocument_of_document (by rw [hc]; rfl)⟩

theorem readsAs_string {s : String} {text : List Char} (h : SpellsChars s.toList text) :
    ReadsAs (.string s) ('"' :: (text ++ ['"'])) := by
  intro frames c index rest _ hc
  obtain ⟨index', hread⟩ := reads_of_spellsChars h (index + 1) rest
  refine ⟨index', readDocument_of_document ?_⟩
  rw [hc]
  show (readStringRest ⟨index + 1, text ++ ['"'] ++ rest⟩ >>= _) = _
  rw [hread]
  exact congrArg (fun s => Except.ok (Sum.inl (Document.string s), _)) String.ofList_toList

/-- A number is read back as it is written. -/
theorem readNumeral_of_isNumeral {text rest : List Char} (h : IsNumeral text) (hrest : Delimited rest)
    (index : Nat) :
    ∃ index', readNumeral ⟨index, text ++ rest⟩ = .ok (String.ofList text, ⟨index', rest⟩) := by
  -- what has been stepped over is what the rest is short of
  have htake : (text ++ rest).take ((text ++ rest).length - rest.length) = text := by
    rw [List.length_append, Nat.add_sub_cancel, List.take_left]
  have hread : ∀ index', skipNumber (if (text ++ rest).head? == some '-' then
        Cursor.bump ⟨index, text ++ rest⟩ else ⟨index, text ++ rest⟩) = .ok ⟨index', rest⟩ →
      readNumeral ⟨index, text ++ rest⟩ = .ok (String.ofList text, ⟨index', rest⟩) := by
    intro index' hskip
    simp only [readNumeral, hskip, bind, Except.bind, htake]
  obtain ⟨hsign, hwhole, hfraction, hexponent⟩ := h
  rename_i sign whole fraction exponent
  have hassoc : sign ++ whole ++ fraction ++ exponent ++ rest =
      sign ++ (whole ++ (fraction ++ (exponent ++ rest))) := by
    simp only [List.append_assoc]
  rcases hsign with rfl | rfl
  · obtain ⟨index', hskip⟩ := skipNumber_of_parts hwhole hfraction hexponent hrest index
    have hhead : ((whole ++ (fraction ++ (exponent ++ rest))).head? == some '-') = false := by
      cases hwhole with
      | zero => rfl
      | digits _ h =>
        have hdigit := h.2 _ List.mem_cons_self
        rw [List.cons_append, List.head?_cons, beq_eq_false_iff_ne, ne_eq, Option.some.injEq]
        rintro rfl
        cases hdigit
    refine ⟨index', hread index' ?_⟩
    rw [hassoc, List.nil_append, hhead]
    exact hskip
  · obtain ⟨index', hskip⟩ := skipNumber_of_parts hwhole hfraction hexponent hrest (index + 1)
    refine ⟨index', hread index' ?_⟩
    rw [hassoc]
    exact hskip

theorem readsAs_number {text : List Char} (h : IsNumeral text) :
    ReadsAs (.number (String.ofList text)) text := by
  intro frames c index rest hrest hc
  obtain ⟨index', hread⟩ := readNumeral_of_isNumeral h hrest index
  obtain ⟨x, cs, rfl, hx⟩ := h.exists_cons
  refine ⟨index', readDocument_of_document ?_⟩
  rw [List.cons_append] at hc hread
  rw [hc]
  have hne : x ≠ 'n' ∧ x ≠ 't' ∧ x ≠ 'f' := by
    refine ⟨?_, ?_, ?_⟩ <;> (rintro rfl; revert hx; decide)
  simp only [readOpening, if_neg hne.1, if_neg hne.2.1, if_neg hne.2.2, if_pos hx, hread]
  rfl

/-- What stands behind a part of an array or an object does not go on with a number. -/
theorem delimited_parts {parts : List Part} {white rest : List Char} {x : Char}
    (hspaced : ∀ p ∈ parts, p.IsSpaced) (hwhite : IsWhite white) (hx : x = ']' ∨ x = '}') :
    Delimited (parts.flatMap Part.next ++ (white ++ x :: rest)) := by
  cases parts with
  | nil => exact delimited_append hwhite (.inr hx)
  | cons p ps =>
    have hgap : IsWhite p.gap := (hspaced p List.mem_cons_self).gap
    simp only [List.flatMap_cons, Part.next, List.append_assoc, List.cons_append]
    exact delimited_append hgap (.inl rfl)

/-! ### Arrays -/

section Arrays

variable {frames : List Frame} {elements : List Element} {white rest : List Char}

/-- An element is read from its first character, which is neither white space nor a closing bracket. -/
theorem reads_element {e : Element} (hspell : Spells e.document e.text) (hread : ReadsAs e.document e.text)
    {behind : List Char} (hbehind : Delimited behind) :
    ∃ x cs, e.text ++ behind = x :: cs ∧ Cursor.isWhite x = false ∧ x ≠ ']' ∧
      ∀ index frames, ∃ index',
        readDocument frames ⟨index, x :: cs⟩ = resume frames e.document ⟨index', behind⟩ := by
  obtain ⟨x, cs, htext, hx, hbracket⟩ := hspell.exists_cons
  refine ⟨x, cs ++ behind, by rw [htext, List.cons_append], hx, hbracket, fun index frames => ?_⟩
  apply hread frames _ index behind hbehind
  rw [htext]
  exact skipWhite_cons hx index (cs ++ behind)

/-- The elements behind one that has been read are read, and the end of the array. -/
theorem resume_elements (hspaced : ∀ e ∈ elements, e.IsSpaced) (hwhite : IsWhite white)
    (hspells : ∀ e ∈ elements, Spells e.document e.text)
    (hreads : ∀ e ∈ elements, ReadsAs e.document e.text) (done : List Document) (d : Document)
    (index : Nat) :
    ∃ index', resume (.array done :: frames) d
        ⟨index, (elements.map Element.toPart).flatMap Part.next ++ (white ++ ']' :: rest)⟩ =
      resume frames (.array (done ++ d :: elements.map Element.document)) ⟨index', rest⟩ := by
  induction elements generalizing done d index with
  | nil =>
    have hend := skipWhite_isWhite hwhite (show Cursor.isWhite ']' = false from rfl) index rest
    exact ⟨_, resume_array_of_end (nextElement?_end hend) (endList_of_end hend)⟩
  | cons e es ih =>
    obtain ⟨he, hspaced⟩ := List.forall_mem_cons.mp hspaced
    obtain ⟨hspell, hspells⟩ := List.forall_mem_cons.mp hspells
    obtain ⟨hread, hreads⟩ := List.forall_mem_cons.mp hreads
    have hbehind : Delimited ((es.map Element.toPart).flatMap Part.next ++ (white ++ ']' :: rest)) :=
      delimited_parts (List.forall_mem_map.mpr hspaced) hwhite (.inl rfl)
    obtain ⟨x, cs, htext, hx, hbracket, hread⟩ := reads_element hspell hread hbehind
    have hcomma : nextElement? false ⟨index, e.gap ++ ',' :: (e.indent ++ x :: cs)⟩ =
        .ok (some ⟨index + e.gap.length + 1 + e.indent.length, x :: cs⟩) :=
      nextElement?_comma (skipWhite_isWhite he.gap rfl _ _) (skipWhite_isWhite he.indent hx _ _) hbracket
    obtain ⟨index₁, hread⟩ :=
      hread (index + e.gap.length + 1 + e.indent.length) (.array (done ++ [d]) :: frames)
    obtain ⟨index₂, hrest⟩ := ih hspaced hspells hreads (done ++ [d]) e.document index₁
    refine ⟨index₂, ?_⟩
    simp only [List.map_cons, List.flatMap_cons, Part.next, Part.first, List.append_assoc,
      List.cons_append]
    rw [htext, resume_array_of_next hcomma, hread, hrest, List.append_assoc]
    rfl

theorem readsAs_array (hspaced : ∀ e ∈ elements, e.IsSpaced) (hwhite : IsWhite white)
    (hspells : ∀ e ∈ elements, Spells e.document e.text)
    (hreads : ∀ e ∈ elements, ReadsAs e.document e.text) :
    ReadsAs (.array (elements.map Element.document))
      ('[' :: (separated (elements.map Element.toPart) ++ white ++ [']'])) := by
  intro frames c index rest _ hc
  cases elements with
  | nil =>
    have hend := skipWhite_isWhite hwhite (show Cursor.isWhite ']' = false from rfl) (index + 1) rest
    refine ⟨index + 1 + white.length + 1, readDocument_of_document ?_⟩
    simp only [List.map_nil, separated, List.nil_append, List.append_assoc, List.cons_append] at hc
    rw [hc]
    show (nextElement? true ⟨index + 1, white ++ ']' :: rest⟩ >>= _) = _
    rw [nextElement?_end hend]
    show (endList ⟨index + 1, white ++ ']' :: rest⟩ >>= _) = _
    rw [endList_of_end hend]
    rfl
  | cons e es =>
    obtain ⟨he, hspaced⟩ := List.forall_mem_cons.mp hspaced
    obtain ⟨hspell, hspells⟩ := List.forall_mem_cons.mp hspells
    obtain ⟨hread, hreads⟩ := List.forall_mem_cons.mp hreads
    have hbehind : Delimited ((es.map Element.toPart).flatMap Part.next ++ (white ++ ']' :: rest)) :=
      delimited_parts (List.forall_mem_map.mpr hspaced) hwhite (.inl rfl)
    obtain ⟨x, cs, htext, hx, hbracket, hread⟩ := reads_element hspell hread hbehind
    have hfirst : nextElement? true ⟨index + 1, e.indent ++ x :: cs⟩ =
        .ok (some ⟨index + 1 + e.indent.length, x :: cs⟩) :=
      nextElement?_first (skipWhite_isWhite he.indent hx _ _) hbracket
    obtain ⟨index₁, hread⟩ := hread (index + 1 + e.indent.length) (.array [] :: frames)
    obtain ⟨index₂, hrest⟩ := resume_elements hspaced hwhite hspells hreads [] e.document index₁
    refine ⟨index₂, ?_⟩
    simp only [List.map_cons, separated, Part.first, List.append_assoc, List.cons_append,
      List.nil_append, htext] at hc
    have hopen : readOpening c.skipWhite =
        .ok (.inr (.array []), ⟨index + 1 + e.indent.length, x :: cs⟩) := by
      rw [hc]
      show (nextElement? true ⟨index + 1, _⟩ >>= _) = _
      rw [hfirst]
      rfl
    rw [readDocument_of_frame hopen, hread, hrest]
    rfl

end Arrays

/-! ### Objects -/

section Objects

variable {frames : List Frame} {members : List Member} {white rest : List Char}

/-- The name of a member is read back, and the colon behind it. -/
theorem readName_of_isNamed {m : Member} (hm : m.IsNamed) (index : Nat) (rest : List Char) :
    ∃ index', readName ⟨index, m.key ++ '"' :: (m.beforeColon ++ ':' :: rest)⟩ =
      .ok (m.name, ⟨index', rest⟩) := by
  obtain ⟨index₁, hkey⟩ := reads_of_spellsChars hm.key index (m.beforeColon ++ ':' :: rest)
  rw [List.append_assoc] at hkey
  have hcolon : readColon ⟨index₁, m.beforeColon ++ ':' :: rest⟩ =
      .ok ⟨index₁ + m.beforeColon.length + 1, rest⟩ := by
    rw [readColon, skipWhite_isWhite hm.beforeColon rfl]
    rfl
  refine ⟨index₁ + m.beforeColon.length + 1, ?_⟩
  simp only [List.singleton_append] at hkey
  simp only [readName, hkey, hcolon, bind, Except.bind, String.ofList_toList]

/-- A member is read from behind the first quote of its name. -/
theorem reads_member {m : Member} (hm : m.IsNamed) (hspell : Spells m.document m.value)
    (hread : ReadsAs m.document m.value) {behind : List Char} (hbehind : Delimited behind) (index : Nat) :
    ∃ c, readName ⟨index, m.key ++ '"' :: (m.beforeColon ++ ':' :: (m.afterColon ++ (m.value ++ behind)))⟩ =
        .ok (m.name, c) ∧
      ∀ frames, ∃ index', readDocument frames c = resume frames m.document ⟨index', behind⟩ := by
  obtain ⟨index', hname⟩ := readName_of_isNamed hm index (m.afterColon ++ (m.value ++ behind))
  obtain ⟨x, cs, hvalue, hx, -⟩ := hspell.exists_cons
  refine ⟨_, hname, fun frames => hread frames _ (index' + m.afterColon.length) behind hbehind ?_⟩
  rw [hvalue]
  exact skipWhite_isWhite hm.afterColon hx index' _

/-- The members behind one that has been read are read, and the end of the object. -/
theorem resume_members (hspaced : ∀ m ∈ members, m.IsSpaced) (hnamed : ∀ m ∈ members, m.IsNamed)
    (hwhite : IsWhite white) (hspells : ∀ m ∈ members, Spells m.document m.value)
    (hreads : ∀ m ∈ members, ReadsAs m.document m.value) (done : List (String × Document)) (name : String)
    (d : Document) (index : Nat) :
    ∃ index', resume (.object done name :: frames) d
        ⟨index, (members.map Member.toPart).flatMap Part.next ++ (white ++ '}' :: rest)⟩ =
      resume frames (.object (done ++ (name, d) :: members.map fun m => (m.name, m.document)))
        ⟨index', rest⟩ := by
  induction members generalizing done name d index with
  | nil =>
    have hend := skipWhite_isWhite hwhite (show Cursor.isWhite '}' = false from rfl) index rest
    exact ⟨_, resume_object_of_end (nextKey?_end hend) (endObject_of_end hend)⟩
  | cons m ms ih =>
    obtain ⟨hm, hspaced⟩ := List.forall_mem_cons.mp hspaced
    obtain ⟨hname, hnamed⟩ := List.forall_mem_cons.mp hnamed
    obtain ⟨hspell, hspells⟩ := List.forall_mem_cons.mp hspells
    obtain ⟨hread, hreads⟩ := List.forall_mem_cons.mp hreads
    let behind := (ms.map Member.toPart).flatMap Part.next ++ (white ++ '}' :: rest)
    let text := m.key ++ '"' :: (m.beforeColon ++ ':' :: (m.afterColon ++ (m.value ++ behind)))
    have hcomma : nextKey? false ⟨index, m.gap ++ ',' :: (m.indent ++ '"' :: text)⟩ =
        .ok (some ⟨index + m.gap.length + 1 + m.indent.length + 1, text⟩) :=
      nextKey?_comma (skipWhite_isWhite hm.gap rfl _ _) (skipWhite_isWhite hm.indent rfl _ _)
    obtain ⟨c, hkey, hread⟩ := reads_member hname hspell hread
      (delimited_parts (List.forall_mem_map.mpr hspaced) hwhite (.inr rfl))
      (index + m.gap.length + 1 + m.indent.length + 1)
    obtain ⟨index₁, hread⟩ := hread (.object (done ++ [(name, d)]) m.name :: frames)
    obtain ⟨index₂, hrest⟩ := ih hspaced hnamed hspells hreads (done ++ [(name, d)]) m.name m.document index₁
    refine ⟨index₂, ?_⟩
    simp only [List.map_cons, List.flatMap_cons, Part.next, Part.first, hname.text_eq, List.append_assoc,
      List.cons_append]
    rw [resume_object_of_next hcomma hkey, hread, hrest, List.append_assoc]
    rfl

theorem readsAs_object (hspaced : ∀ m ∈ members, m.IsSpaced) (hnamed : ∀ m ∈ members, m.IsNamed)
    (hwhite : IsWhite white) (hspells : ∀ m ∈ members, Spells m.document m.value)
    (hreads : ∀ m ∈ members, ReadsAs m.document m.value) :
    ReadsAs (.object (members.map fun m => (m.name, m.document)))
      ('{' :: (separated (members.map Member.toPart) ++ white ++ ['}'])) := by
  intro frames c index rest _ hc
  cases members with
  | nil =>
    have hend := skipWhite_isWhite hwhite (show Cursor.isWhite '}' = false from rfl) (index + 1) rest
    refine ⟨index + 1 + white.length + 1, readDocument_of_document ?_⟩
    simp only [List.map_nil, separated, List.nil_append, List.append_assoc, List.cons_append] at hc
    rw [hc]
    show (nextKey? true ⟨index + 1, white ++ '}' :: rest⟩ >>= _) = _
    rw [nextKey?_end hend]
    show (endObject ⟨index + 1, white ++ '}' :: rest⟩ >>= _) = _
    rw [endObject_of_end hend]
    rfl
  | cons m ms =>
    obtain ⟨hm, hspaced⟩ := List.forall_mem_cons.mp hspaced
    obtain ⟨hname, hnamed⟩ := List.forall_mem_cons.mp hnamed
    obtain ⟨hspell, hspells⟩ := List.forall_mem_cons.mp hspells
    obtain ⟨hread, hreads⟩ := List.forall_mem_cons.mp hreads
    let behind := (ms.map Member.toPart).flatMap Part.next ++ (white ++ '}' :: rest)
    let text := m.key ++ '"' :: (m.beforeColon ++ ':' :: (m.afterColon ++ (m.value ++ behind)))
    have hfirst : nextKey? true ⟨index + 1, m.indent ++ '"' :: text⟩ =
        .ok (some ⟨index + 1 + m.indent.length + 1, text⟩) :=
      nextKey?_first (skipWhite_isWhite hm.indent rfl _ _)
    obtain ⟨c', hkey, hread⟩ := reads_member hname hspell hread
      (delimited_parts (List.forall_mem_map.mpr hspaced) hwhite (.inr rfl))
      (index + 1 + m.indent.length + 1)
    obtain ⟨index₁, hread⟩ := hread (.object [] m.name :: frames)
    obtain ⟨index₂, hrest⟩ :=
      resume_members hspaced hnamed hwhite hspells hreads [] m.name m.document index₁
    refine ⟨index₂, ?_⟩
    simp only [List.map_cons, separated, Part.first, hname.text_eq, List.append_assoc, List.cons_append,
      List.nil_append] at hc
    have hopen : readOpening c.skipWhite = .ok (.inr (.object [] m.name), c') := by
      rw [hc]
      show (nextKey? true ⟨index + 1, _⟩ >>= _) = _
      rw [hfirst]
      show (readName ⟨_, text⟩ >>= _) = _
      rw [hkey]
      rfl
    rw [readDocument_of_frame hopen, hread, hrest]
    rfl

end Objects

/-! ### All documents -/

/-- Whatever a text stands for is read from it. -/
theorem readsAs_of_spells {d : Document} {text : List Char} (h : Spells d text) : ReadsAs d text := by
  induction h with
  | null => exact readsAs_null
  | bool b => exact readsAs_bool b
  | number h => exact readsAs_number h
  | string h => exact readsAs_string h
  | array hspaced hwhite h ih => exact readsAs_array hspaced hwhite h ih
  | object hspaced hnamed hwhite h ih => exact readsAs_object hspaced hnamed hwhite h ih

/-- **Reading JSON.** Every JSON text is read as the document that it stands for. -/
theorem read_of_isText {d : Document} {text : String} (h : IsText d text.toList) : read text = .ok d := by
  generalize htext : text.toList = cs at h
  obtain ⟨hbefore, hspells, hafter⟩ := h
  rename_i before body after
  obtain ⟨x, tail, hbody, hx, -⟩ := hspells.exists_cons
  have hstart : Cursor.skipWhite ⟨0, before ++ body ++ after⟩ = ⟨0 + before.length, body ++ after⟩ := by
    rw [hbody, List.append_assoc, List.cons_append]
    exact skipWhite_isWhite hbefore hx 0 (tail ++ after)
  obtain ⟨index, hread⟩ :=
    readsAs_of_spells hspells [] ⟨0, before ++ body ++ after⟩ _ after (delimited_of_isWhite hafter) hstart
  have hend := skipWhite_all hafter index
  rw [read, htext, hread, resume_nil]
  simp only [bind, Except.bind, hend]
  rfl

/-- A JSON text stands for one document only. -/
theorem IsText.unique {d d' : Document} {text : List Char} (h : IsText d text) (h' : IsText d' text) :
    d = d' := by
  rw [← String.toList_ofList (l := text)] at h h'
  exact Except.ok.inj ((read_of_isText h).symm.trans (read_of_isText h'))

end Fieldwise.Json
