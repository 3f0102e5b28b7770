import Fieldwise.OutcomeText
import Fieldwise.Proofs.Json.Pretty
import Fieldwise.Proofs.Json.Reader
import Fieldwise.Proofs.Text.Utf8

/-!
# Outcomes read back from JSON

An outcome in JSON is one document and a line feed (`Outcome.isText_write`), and the document tells of the
outcome: `Outcome.ofDocument?` finds the text and the failures in it, each component under its name. It
takes nothing from the way outcomes are written. As a JSON text stands for one document only, so does the
output of a run, and no other outcome has the same output.
-/

namespace Fieldwise

/-! ### Documents by name -/

namespace Json.Document

/-- The document under a name, if the object has it and has it once. -/
def member? (name : String) : Document → Option Document
  | .object members =>
    match members.filter fun m => m.1 == name with
    | [m] => some m.2
    | _ => none
  | _ => none

/-- The text that a document is. -/
def text? : Document → Option String
  | .string s => some s
  | _ => none

/-- The natural number that a document is. -/
def natural? : Document → Option Nat
  | .number numeral =>
    if numeral.toList.all Char.isDigit then some (Nat.ofDigitChars 10 numeral.toList 0) else none
  | _ => none

/-- The list that a document is. -/
def list? : Document → Option (List Document)
  | .array elements => some elements
  | _ => none

/-- A number is found in the digits that it is written with. -/
@[simp]
theorem natural?_number (n : Nat) : (number n.repr).natural? = some n := by
  have hall : (Nat.toDigits 10 n).all Char.isDigit = true :=
    List.all_eq_true.mpr fun _ hc => (isDigits_toDigits n).2 _ hc
  rw [natural?, Nat.toList_repr, if_pos hall, Nat.ofDigitChars_ten_toDigits]

end Json.Document

/-! ### What a document tells of -/

/-- The failure that a document tells of. -/
def Failure.ofDocument? (d : Json.Document) : Option Failure := do
  let index ← (← d.member? "index").natural?
  let field ← (← d.member? "field_id").text?
  let pattern ← (← d.member? "pattern").text?
  let template ← (← d.member? "template").text?
  let kind ← (← d.member? "kind").text?
  let message ← (← d.member? "message").text?
  let valueHash ← (← d.member? "value_hash").text?
  some { index, field := ⟨field⟩, pattern, template, kind, message, valueHash }

/-- The outcome that a document tells of. -/
def Outcome.ofDocument? (d : Json.Document) : Option Outcome := do
  let text ← (← d.member? "text").text?
  let skipped ← (← d.member? "skipped").list?
  let failures ← skipped.mapM Failure.ofDocument?
  some { text, failures }

theorem Failure.ofDocument?_document (f : Failure) : ofDocument? f.toJson.document = some f := by
  simp [ofDocument?, toJson, Json.document, Json.namedDocuments, Json.Document.member?,
    Json.Document.text?]

/-- The failures are found in their order. -/
theorem Failure.mapM_ofDocument?_documents (failures : List Failure) :
    (Json.documents (failures.map toJson)).mapM ofDocument? = some failures := by
  induction failures with
  | nil => rfl
  | cons f failures ih =>
    rw [List.map_cons, Json.documents, List.mapM_cons, ofDocument?_document, ih]
    rfl

theorem Outcome.ofDocument?_document (o : Outcome) : ofDocument? o.toJson.document = some o := by
  simp [ofDocument?, toJson, Json.document, Json.namedDocuments, Json.Document.member?,
    Json.Document.text?, Json.Document.list?, Failure.mapM_ofDocument?_documents]

/-! ### Outputs -/

/-- The output is a JSON text. -/
theorem Outcome.isText_write (o : Outcome) : Json.IsText o.toJson.document (o.write true).toList :=
  Json.isText_pretty_line o.toJson

/-- The document ends with a bracket, so that the line feed behind it is the only one. -/
theorem Outcome.getLast?_pretty (o : Outcome) : o.toJson.pretty.toList.getLast? = some '}' := by
  obtain ⟨white, -, htext⟩ :=
    Json.prettyAt_object 0 [("text", .string o.text), ("skipped", .array (o.failures.map Failure.toJson))]
  rw [Json.pretty, String.toList_ofList, toJson, htext, ← List.cons_append, List.getLast?_concat]

/-- **Outcomes in JSON.** The output is a document and one line feed. It stands for no other document; the
document is what is read from it, and tells of the outcome with every component of every failure, in their
order. So different outcomes never have the same bytes for their output. -/
theorem Outcome.write_readable (o : Outcome) :
    ∃ (text : String) (d : Json.Document),
      (o.write true = text ++ "\n" ∧ text.toList.getLast? = some '}') ∧
      (Json.Spells d text.toList ∧ ∀ d', Json.IsText d' (o.write true).toList → d' = d) ∧
      Json.read (o.write true) = .ok d ∧
      ofDocument? d = some o ∧
      ∀ o' : Outcome, Utf8.encodeString (o'.write true) = Utf8.encodeString (o.write true) → o' = o := by
  have hspells : Json.Spells o.toJson.document o.toJson.pretty.toList := by
    rw [Json.pretty, String.toList_ofList]
    exact Json.spells_prettyAt 0 o.toJson
  refine ⟨o.toJson.pretty, o.toJson.document, ⟨rfl, o.getLast?_pretty⟩,
    ⟨hspells, fun d' h => h.unique o.isText_write⟩, Json.read_of_isText o.isText_write,
    o.ofDocument?_document, fun o' hbytes => ?_⟩
  have heq : o'.write true = o.write true := Utf8.encodeString_injective hbytes
  -- both outcomes are told of by the one document that the output stands for
  have hsame : o'.toJson.document = o.toJson.document := (heq ▸ o'.isText_write).unique o.isText_write
  have htold : some o' = some o := by
    rw [← o'.ofDocument?_document, hsame, o.ofDocument?_document]
  exact Option.some.inj htold

end Fieldwise
