import Fieldwise.Decimal.Shortest
import Fieldwise.Json.Cursor
import Fieldwise.Text.Quoted

/-!
# Decoding JSON

`Json.decodeLists` reads a text as a structure whose fields are lists of strings: an object with a
member for each field, in any order and with other members between them, or an array with an element
for each field. Reading goes from left to right and stops at the first thing that is wrong.
-/

namespace Fieldwise.Json

/-- What a value of the wrong kind is called in words, with the cursor after as much of it as tells
its kind. -/
def describeValue (c : Cursor) : Except Fault (String × Cursor) :=
  let constant (name : String) (letters : String) : Except Fault (String × Cursor) := do
    let c ← readIdent c.bump letters.toList
    .ok (name, c)
  let number (positive : Bool) (c : Cursor) : Except Fault (String × Cursor) := do
    let (n, c) ← readNumber positive c
    match n with
    | .integer n => .ok ("integer `" ++ toString n ++ "`", c)
    | .float x => .ok ("floating point `" ++ Decimal.render Decimal.moderate x ++ "`", c)
  match c.rest with
  | [] => failNext .expectedValue c
  | x :: _ =>
    if x = 'n' then constant "null" "ull"
    else if x = 't' then constant "boolean `true`" "rue"
    else if x = 'f' then constant "boolean `false`" "alse"
    else if x = '-' then number false c.bump
    else if x.isDigit then number true c
    else if x = '"' then do
      let (text, c) ← readStringRest c.bump
      .ok ("string " ++ quote (String.ofList text), c)
    else if x = '[' then .ok ("sequence", c)
    else if x = '{' then .ok ("map", c)
    else failNext .expectedValue c

/-- Fails at a value that is not of the kind that is wanted. -/
def wrongKind {α : Type} (expected : String) (c : Cursor) : Except Fault α :=
  match describeValue c with
  | .error f => .error f
  | .ok (found, c) => mismatch (.invalidType found expected) c

/-- Reads a string. -/
def readString (c : Cursor) : Except Fault (String × Cursor) :=
  let c := c.skipWhite
  match c.rest with
  | [] => failNext .eofInValue c
  | x :: _ =>
    if x = '"' then do
      let (text, c) ← readStringRest c.bump
      .ok (String.ofList text, c)
    else wrongKind "a string" c

theorem wrongKind_ne_ok {α : Type} {expected : String} {c : Cursor} {v : α} :
    wrongKind expected c ≠ .ok v := by
  grind [wrongKind, mismatch, failAt]

@[grind →]
theorem length_readString {c c' : Cursor} {s : String} (h : readString c = .ok (s, c')) :
    c'.rest.length < c.rest.length := by
  have := c.length_skipWhite_le
  have := c.skipWhite.length_bump_le
  simp only [readString, bind, Except.bind] at h
  grind [failNext, wrongKind_ne_ok]

/-! ### Sequences -/

/-- Steps to the next element of an array, if there is one. `first` tells whether it would be the
first; otherwise a comma stands before it. -/
def nextElement? (first : Bool) (c : Cursor) : Except Fault (Option Cursor) :=
  let c := c.skipWhite
  match c.rest with
  | [] => failNext .eofInList c
  | x :: _ =>
    if x = ']' then .ok none
    else if first then .ok (some c)
    else if x = ',' then
      let c := c.bump.skipWhite
      match c.rest with
      | [] => failNext .eofInValue c
      | y :: _ => if y = ']' then failNext .trailingComma c else .ok (some c)
    else failNext .expectedListCommaOrEnd c

@[grind →]
theorem length_nextElement? {first : Bool} {c c' : Cursor}
    (h : nextElement? first c = .ok (some c')) : c'.rest.length ≤ c.rest.length := by
  have := c.length_skipWhite_le
  have := c.skipWhite.length_bump_le
  have := c.skipWhite.bump.length_skipWhite_le
  grind [nextElement?, failNext]

/-- Steps over the end of an array. -/
def endList (c : Cursor) : Except Fault Cursor :=
  let c := c.skipWhite
  match c.rest with
  | [] => failNext .eofInList c
  | x :: _ =>
    if x = ']' then .ok c.bump
    else if x = ',' then
      let c := c.bump.skipWhite
      if c.rest.head? == some ']' then failNext .trailingComma c else failNext .trailingCharacters c
    else failNext .trailingCharacters c

@[grind →]
theorem length_endList {c c' : Cursor} (h : endList c = .ok c') :
    c'.rest.length ≤ c.rest.length := by
  have := c.length_skipWhite_le
  have := c.skipWhite.length_bump_le
  grind [endList, failNext]

/-- Reads the strings of an array, from the place after its opening bracket, up to its end, which
stays unread. -/
def readElements (first : Bool) (c : Cursor) : Except Fault (List String × Cursor) :=
  match _hn : nextElement? first c with
  | .error f => .error f
  | .ok none => .ok ([], c)
  | .ok (some c') =>
    match _hs : readString c' with
    | .error f => .error f
    | .ok (s, after) =>
      match readElements false after with
      | .error f => .error f
      | .ok (rest, after) => .ok (s :: rest, after)
  termination_by c.rest.length
  decreasing_by grind

@[grind →]
theorem length_readElements {first : Bool} {c c' : Cursor} {strings : List String}
    (h : readElements first c = .ok (strings, c')) : c'.rest.length ≤ c.rest.length := by
  fun_induction readElements first c generalizing strings c' <;> grind

/-- Reads an array of strings. -/
def readStrings (c : Cursor) : Except Fault (List String × Cursor) :=
  let c := c.skipWhite
  match c.rest with
  | [] => failNext .eofInValue c
  | x :: _ =>
    if x = '[' then do
      let (strings, c) ← readElements true c.bump
      let c ← endList c
      .ok (strings, c)
    else wrongKind "a sequence" c

@[grind →]
theorem length_readStrings {c c' : Cursor} {strings : List String}
    (h : readStrings c = .ok (strings, c')) : c'.rest.length ≤ c.rest.length := by
  have := c.length_skipWhite_le
  have := c.skipWhite.length_bump_le
  simp only [readStrings, bind, Except.bind] at h
  grind [failNext, wrongKind_ne_ok]

/-! ### Values that do not matter -/

/-- What encloses a value that is stepped over. -/
inductive Bracket where
  | list
  | object
  deriving BEq, DecidableEq

/-- Steps over the key of a member and the colon after it. -/
def skipKey (c : Cursor) : Except Fault Cursor := do
  let c := c.skipWhite
  match c.rest with
  | [] => failNext .eofInObject c
  | x :: _ =>
    if x ≠ '"' then failNext .keyNotString c
    else
      let c ← skipStringRest c.bump
      let c := c.skipWhite
      match c.rest with
      | [] => failNext .eofInObject c
      | y :: _ => if y = ':' then .ok c.bump else failNext .expectedColon c

@[grind →]
theorem length_skipKey {c c' : Cursor} (h : skipKey c = .ok c') :
    c'.rest.length < c.rest.length := by
  have := c.length_skipWhite_le
  have := c.skipWhite.length_bump_le
  simp only [skipKey, bind, Except.bind] at h
  grind [failNext, Cursor.length_bump_le, Cursor.length_skipWhite_le]

/-- After a value: steps over the brackets that are closed, and over a comma to the next value. Yields
the brackets that are still open and the cursor at the next value; none if the outermost value has
ended. -/
def skipClosing (c : Cursor) : List Bracket → Except Fault (List Bracket × Cursor)
  | [] => .ok ([], c)
  | .list :: open' =>
    let c := c.skipWhite
    match c.rest with
    | [] => failNext .eofInList c
    | x :: _ =>
      if x = ',' then .ok (.list :: open', c.bump)
      else if x = ']' then skipClosing c.bump open'
      else failNext .expectedListCommaOrEnd c
  | .object :: open' =>
    let c := c.skipWhite
    match c.rest with
    | [] => failNext .eofInObject c
    | x :: _ =>
      if x = ',' then
        match skipKey c.bump with
        | .error f => .error f
        | .ok c => .ok (.object :: open', c)
      else if x = '}' then skipClosing c.bump open'
      else failNext .expectedObjectCommaOrEnd c

@[grind →]
theorem length_skipClosing {c c' : Cursor} {open₁ open₂ : List Bracket}
    (h : skipClosing c open₁ = .ok (open₂, c')) : c'.rest.length ≤ c.rest.length := by
  fun_induction skipClosing c open₁ <;>
    grind [failNext, Cursor.length_bump_le, Cursor.length_skipWhite_le]

/-- Steps over a constant, a number or a string, or into an array or an object. Yields the brackets
that are open then, and whether a whole value has been stepped over. -/
def skipOpening (open' : List Bracket) (c : Cursor) :
    Except Fault (Bool × List Bracket × Cursor) := do
  match c.rest with
  | [] => failNext .eofInValue c
  | x :: _ =>
    let whole (c : Cursor) : Except Fault (Bool × List Bracket × Cursor) := .ok (true, open', c)
    if x = 'n' then whole (← readIdent c.bump "ull".toList)
    else if x = 't' then whole (← readIdent c.bump "rue".toList)
    else if x = 'f' then whole (← readIdent c.bump "alse".toList)
    else if x = '-' then whole (← skipNumber c.bump)
    else if x.isDigit then whole (← skipNumber c)
    else if x = '"' then whole (← skipStringRest c.bump)
    else if x = '[' then
      let inner := c.bump.skipWhite
      match inner.rest with
      | [] => failNext .eofInList inner
      | y :: _ => if y = ']' then whole inner.bump else .ok (false, .list :: open', inner)
    else if x = '{' then
      let inner := c.bump.skipWhite
      match inner.rest with
      | [] => failNext .eofInObject inner
      | y :: _ =>
        if y = '}' then whole inner.bump
        else
          let inner ← skipKey inner
          .ok (false, .object :: open', inner)
    else failNext .expectedValue c

@[grind →]
theorem length_skipOpening {c c' : Cursor} {open₁ open₂ : List Bracket} {whole : Bool}
    (h : skipOpening open₁ c = .ok (whole, open₂, c')) : c'.rest.length < c.rest.length := by
  simp only [skipOpening, bind, Except.bind] at h
  split at h
  · simp [failNext] at h
  · rename_i hc
    have := Cursor.length_bump_lt hc
    have := c.bump.length_skipWhite_le
    have := c.bump.skipWhite.length_bump_le
    repeat' split at h
    all_goals grind [failNext]

/-- Steps over the value that comes next, and over what follows it up to the end of the outermost of
the brackets that are open. -/
def skipValue (open' : List Bracket) (c : Cursor) : Except Fault Cursor :=
  match _ho : skipOpening open' c.skipWhite with
  | .error f => .error f
  | .ok (false, open', after) => skipValue open' after
  | .ok (true, open', after) =>
    match _hc : skipClosing after open' with
    | .error f => .error f
    | .ok ([], after) => .ok after
    | .ok (open', after) => skipValue open' after
  termination_by c.rest.length
  decreasing_by all_goals
    have := c.length_skipWhite_le
    grind

@[grind →]
theorem length_skipValue {c c' : Cursor} {open' : List Bracket} (h : skipValue open' c = .ok c') :
    c'.rest.length < c.rest.length := by
  fun_induction skipValue open' c <;> grind [Cursor.length_skipWhite_le]

/-! ### Structures -/

/-- Steps to the key of the next member of an object, if there is one, and over its first quote. -/
def nextKey? (first : Bool) (c : Cursor) : Except Fault (Option Cursor) :=
  let c := c.skipWhite
  match c.rest with
  | [] => failNext .eofInObject c
  | x :: _ =>
    if x = '}' then .ok none
    else if first then
      if x = '"' then .ok (some c.bump) else failNext .keyNotString c
    else if x = ',' then
      let c := c.bump.skipWhite
      match c.rest with
      | [] => failNext .eofInValue c
      | y :: _ =>
        if y = '"' then .ok (some c.bump)
        else if y = '}' then failNext .trailingComma c
        else failNext .keyNotString c
    else failNext .expectedObjectCommaOrEnd c

@[grind →]
theorem length_nextKey? {first : Bool} {c c' : Cursor} (h : nextKey? first c = .ok (some c')) :
    c'.rest.length < c.rest.length := by
  grind [nextKey?, failNext, Cursor.length_bump_lt, Cursor.length_skipWhite_le]

/-- Steps over the colon between a key and its value. -/
def readColon (c : Cursor) : Except Fault Cursor :=
  let c := c.skipWhite
  match c.rest with
  | [] => failNext .eofInObject c
  | x :: _ => if x = ':' then .ok c.bump else failNext .expectedColon c

@[grind →]
theorem length_readColon {c c' : Cursor} (h : readColon c = .ok c') :
    c'.rest.length < c.rest.length := by
  grind [readColon, failNext, Cursor.length_bump_lt, Cursor.length_skipWhite_le]

/-- Steps over the end of an object. -/
def endObject (c : Cursor) : Except Fault Cursor :=
  let c := c.skipWhite
  match c.rest with
  | [] => failNext .eofInObject c
  | x :: _ =>
    if x = '}' then .ok c.bump
    else if x = ',' then failNext .trailingComma c
    else failNext .trailingCharacters c

/-- The values of fields by name. -/
abbrev Found := List (String × List String)

/-- Reads a member of an object, after the first quote of its key. A member that is no field is
stepped over. -/
def readMember (fields : List String) (found : Found) (c : Cursor) :
    Except Fault (Found × Cursor) := do
  let (key, c) ← readStringRest c
  let name := String.ofList key
  if fields.contains name then
    if (found.lookup name).isSome then .error (.unplaced (.duplicateField name) c)
    else
      let c ← readColon c
      let (value, c) ← readStrings c
      .ok ((name, value) :: found, c)
  else
    let c ← readColon c
    let c ← skipValue [] c
    .ok (found, c)

@[grind →]
theorem length_readMember {fields : List String} {found found' : Found} {c c' : Cursor}
    (h : readMember fields found c = .ok (found', c')) : c'.rest.length < c.rest.length := by
  simp only [readMember, bind, Except.bind] at h
  grind

/-- Reads the members of an object, from the place after its opening brace, up to its end, which
stays unread. -/
def readMembers (fields : List String) (found : Found) (first : Bool) (c : Cursor) :
    Except Fault (Found × Cursor) :=
  match _hk : nextKey? first c with
  | .error f => .error f
  | .ok none => .ok (found, c)
  | .ok (some c') =>
    match _hm : readMember fields found c' with
    | .error f => .error f
    | .ok (found, after) => readMembers fields found false after
  termination_by c.rest.length
  decreasing_by grind

/-- The values of the fields in their order. The first one that is missing is reported. -/
def collect (found : Found) (c : Cursor) : List String → Except Fault (List (List String))
  | [] => .ok []
  | name :: rest => do
    match found.lookup name with
    | none => .error (.unplaced (.missingField name) c)
    | some value => return value :: (← collect found c rest)

/-- Reads the elements of an array as the values of fields, of which `done` have been read. -/
def readPositions (expected : String) (done : Nat) :
    List String → Cursor → Except Fault (List (List String) × Cursor)
  | [], c => .ok ([], c)
  | _ :: rest, c => do
    match ← nextElement? (done == 0) c with
    | none => .error (.unplaced (.invalidLength done expected) c)
    | some c =>
      let (value, c) ← readStrings c
      let (values, c) ← readPositions expected (done + 1) rest c
      .ok (value :: values, c)

/-- The cursor after the end of a structure has been looked for, where data of the wrong shape is
reported. -/
def seekEnd (close : Char) (c : Cursor) : Cursor :=
  let c := c.skipWhite
  match c.rest with
  | [] => c
  | x :: _ =>
    if x = close then c.bump
    else if x = ',' ∧ close = ']' then c.bump.skipWhite
    else c

/-- Gives data of the wrong shape its place: after the structure's end has been looked for. -/
def settle {α : Type} (close : Char) : Except Fault α → Except Fault α
  | .error (.unplaced why c) => mismatch why (seekEnd close c)
  | r => r

/-- Reads a structure whose fields are lists of strings. Yields their values in the order of the
fields. -/
def readStruct (name : String) (fields : List String) (c : Cursor) :
    Except Fault (List (List String) × Cursor) :=
  let c := c.skipWhite
  match c.rest with
  | [] => failNext .eofInValue c
  | x :: _ =>
    if x = '{' then do
      let (values, c) ← settle '}' do
        let (found, c) ← readMembers fields [] true c.bump
        let values ← collect found c fields
        .ok (values, c)
      let c ← endObject c
      .ok (values, c)
    else if x = '[' then do
      let expected := "struct " ++ name ++ " with " ++ toString fields.length ++ " elements"
      let (values, c) ← settle ']' (readPositions expected 0 fields c.bump)
      let c ← endList c
      .ok (values, c)
    else wrongKind ("struct " ++ name) c

/-- The line of the byte before which `index` bytes stand, and the number of bytes before it in that
line. -/
def lineColumn (line column index : Nat) : List Char → Nat × Nat
  | [] => (line, column + index)
  | c :: cs =>
    if index = 0 then (line, column)
    else if c = '\n' then lineColumn (line + 1) 0 (index - 1) cs
    else if index ≤ Utf8.width c then (line, column + index)
    else lineColumn line (column + Utf8.width c) (index - Utf8.width c) cs

/-- What is wrong, with its place in the text. -/
def Fault.toError (text : List Char) : Fault → Error
  | .placed kind index =>
    let (line, column) := lineColumn 1 0 index text
    ⟨kind, line, column⟩
  | .unplaced why c =>
    let (line, column) := lineColumn 1 0 c.index text
    ⟨.mismatch why, line, column⟩

/-- Reads a text as a structure whose fields are lists of strings. Nothing but white space may
follow it. -/
def decodeLists (name : String) (fields : List String) (text : String) :
    Except Error (List (List String)) :=
  let cs := text.toList
  let result : Except Fault (List (List String)) := do
    let (values, c) ← readStruct name fields ⟨0, cs⟩
    let c := c.skipWhite
    if c.rest.isEmpty then .ok values else failNext .trailingCharacters c
  result.mapError (Fault.toError cs)

end Fieldwise.Json
