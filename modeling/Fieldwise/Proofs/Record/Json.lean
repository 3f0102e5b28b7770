import Fieldwise.Proofs.Json.Lists
import Fieldwise.Proofs.Text.Utf8
import Fieldwise.Record.Format

/-!
# Records in JSON

JSON loses nothing of a record (`Record.json_lossless`): the record is read back from its text, from the
text as a line and from the bytes of that line, and no other record has the same text.
-/

namespace Fieldwise.Record

/-- The lists of a record under their names. -/
def entries (r : Record) : List (String × List String) :=
  [("field_ids", r.fieldIds), ("patterns", r.patterns), ("templates", r.templates)]

theorem toJson_eq_pretty (r : Record) : r.toJson = Json.pretty (.object (Json.ofEntries r.entries)) := rfl

/-- A record is read back from its JSON, also if white space follows it. -/
theorem ofJson_toJson_append (r : Record) (white : List Char)
    (hwhite : ∀ x ∈ white, Json.Cursor.isWhite x = true) :
    ofJson (r.toJson ++ String.ofList white) = .ok r := by
  have hnames : fieldNames = r.entries.map Prod.fst := rfl
  have hnodup : (r.entries.map Prod.fst).Nodup := by
    rw [← hnames]
    decide
  rw [ofJson, toJson_eq_pretty, hnames, Json.decodeLists_pretty "RuleSetRecord" hnodup hwhite]
  rfl

theorem ofJson_toJson (r : Record) : ofJson r.toJson = .ok r := by
  have h := ofJson_toJson_append r [] nofun
  rwa [String.ofList_nil, String.append_empty] at h

theorem ofJson_toJson_line (r : Record) : ofJson (r.toJson ++ "\n") = .ok r :=
  ofJson_toJson_append r ['\n'] (List.forall_mem_singleton.mpr rfl)

theorem textOf_encodeString (s : String) : textOf (Utf8.encodeString s) = .ok s := by
  rw [textOf, Utf8.decodeString_encodeString]
  rfl

/-- A record is read back from the bytes of its JSON. -/
theorem decode_encode_json (r : Record) : decode .json (r.encode .json) = .ok r := by
  rw [decode, encode, textOf_encodeString]
  simp only [bind, Except.bind, ofJson_toJson_line, Except.mapError]

/-- **Records in JSON.** A record is read back from its JSON, with and without the end of the line, and
from the bytes of that. So different records have different texts and different bytes. -/
theorem json_lossless (r : Record) :
    ofJson r.toJson = .ok r ∧ ofJson (r.toJson ++ "\n") = .ok r ∧
    decode .json (r.encode .json) = .ok r ∧
    ∀ r' : Record, (r'.toJson = r.toJson → r' = r) ∧ (r'.encode .json = r.encode .json → r' = r) := by
  refine ⟨ofJson_toJson r, ofJson_toJson_line r, decode_encode_json r, fun r' => ⟨fun h => ?_, fun h => ?_⟩⟩
  · exact Except.ok.inj (by rw [← ofJson_toJson r', h, ofJson_toJson r])
  · exact Except.ok.inj (by rw [← decode_encode_json r', h, decode_encode_json r])

end Fieldwise.Record
