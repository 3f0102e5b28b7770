import Fieldwise.Proofs.Binary.Lists
import Fieldwise.Record

/-!
# Records in bytes

The bytes of a record are exact and show their own end (`Record.ofBytes_exact`): the record is read back
from them, what follows them is counted and refused, and none of their beginnings is a record.
-/

namespace Fieldwise.Record

/-- A record of which every length can be written: eight bytes are enough for the number of entries of
each list and for the number of bytes of each entry. -/
structure Encodable (r : Record) : Prop where
  fieldIds : Binary.Encodable r.fieldIds
  patterns : Binary.Encodable r.patterns
  templates : Binary.Encodable r.templates

theorem Encodable.lists {r : Record} (h : r.Encodable) :
    ∀ strings ∈ [r.fieldIds, r.patterns, r.templates], Binary.Encodable strings :=
  List.forall_mem_cons.mpr ⟨h.fieldIds, List.forall_mem_cons.mpr ⟨h.patterns,
    List.forall_mem_singleton.mpr h.templates⟩⟩

/-- **Records in bytes.** A record is read back from its bytes. Bytes after them are an error that tells
their number, and bytes that break off before their end are an error, wherever they do. -/
theorem ofBytes_exact (r : Record) (h : r.Encodable) :
    ofBytes r.toBytes = .ok r ∧
    (∀ rest : List UInt8, rest ≠ [] → ∃ e, ofBytes (r.toBytes ++ rest) = .error (.undecodable e) ∧
      e = .binary (.trailing rest.length) ∧
      e.message = toString rest.length ++ " trailing byte(s) after rule set") ∧
    ∀ p : List UInt8, p <+: r.toBytes → p ≠ r.toBytes →
      ∃ n, 0 < n ∧ ofBytes p = .error (.undecodable (.binary (.unexpectedEnd n))) := by
  refine ⟨?_, fun rest hrest => ⟨_, ?_, rfl, rfl⟩, fun p hp hne => ?_⟩
  · rw [ofBytes, toBytes, show 3 = [r.fieldIds, r.patterns, r.templates].length from rfl,
      Binary.decodeLists_encodeLists h.lists]
    rfl
  · rw [ofBytes, toBytes, show 3 = [r.fieldIds, r.patterns, r.templates].length from rfl,
      Binary.decodeLists_trailing h.lists hrest]
  · obtain ⟨n, hn, he⟩ := Binary.decodeLists_truncated h.lists hp hne
    refine ⟨n, hn, ?_⟩
    rw [ofBytes, show 3 = [r.fieldIds, r.patterns, r.templates].length from rfl, he]

/-- One such record: its lists differ in length, and the length of a string takes three bytes. -/
theorem ofBytes_exact_long :
    let r : Record := ⟨["a", ""], [String.ofList (List.replicate 300 'é')], []⟩
    r.Encodable ∧ ofBytes r.toBytes = .ok r ∧
      (∃ e, ofBytes (r.toBytes ++ [0]) = .error (.undecodable e) ∧
        e.message = "1 trailing byte(s) after rule set") ∧
      ∃ n, 0 < n ∧ ofBytes r.toBytes.dropLast = .error (.undecodable (.binary (.unexpectedEnd n))) := by
  intro r
  have hsize : Utf8.size (String.ofList (List.replicate 300 'é')) < 2 ^ 64 := by
    rw [Utf8.size, Utf8.encodeString, String.toList_ofList]
    decide +kernel
  have hr : r.Encodable :=
    ⟨⟨by decide, by decide +kernel⟩, ⟨by decide, List.forall_mem_singleton.mpr hsize⟩,
      ⟨by decide, List.forall_mem_nil _⟩⟩
  have hne : r.toBytes.dropLast ≠ r.toBytes := fun h => by
    have hlength := congrArg List.length h
    have hpos : 0 < r.toBytes.length := List.length_pos_iff.mpr (List.cons_ne_nil _ _)
    rw [List.length_dropLast] at hlength
    omega
  obtain ⟨hread, htrailing, htruncated⟩ := ofBytes_exact r hr
  obtain ⟨e, he, -, hmessage⟩ := htrailing [0] (by decide)
  exact ⟨hr, hread, ⟨e, he, hmessage⟩, htruncated _ (List.dropLast_prefix _) hne⟩

end Fieldwise.Record
