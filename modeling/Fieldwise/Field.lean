import Std.Data.HashMap
import Std.Data.TreeMap

/-!
# Fields

A field is a named source of text. The library never decides what a field's value is: it asks a
`Finder`.
-/

namespace Fieldwise

/-- The name of a field, which is any text. -/
structure FieldId where
  text : String
  deriving BEq, ReflBEq, LawfulBEq, DecidableEq, Hashable, Ord, Repr, Inhabited

/-- Looks up the value of a field, which may be missing. -/
abbrev Finder (m : Type → Type) := FieldId → m (Option String)

/-! ### Maps as finders -/

namespace Finder

/-- The finder that looks into a map from fields. -/
def ofHashMap (values : Std.HashMap FieldId String) : Finder Id := fun id => values[id]?

/-- The finder that looks into an ordered map from fields. -/
def ofTreeMap (values : Std.TreeMap FieldId String) : Finder Id := fun id => values[id]?

/-- The finder that looks into a map from the names of fields. -/
def ofNamedHashMap (values : Std.HashMap String String) : Finder Id := fun id => values[id.text]?

/-- The finder that looks into an ordered map from the names of fields. -/
def ofNamedTreeMap (values : Std.TreeMap String String) : Finder Id := fun id => values[id.text]?

end Finder

/-! ### Values by name -/

/-- Field values by name. -/
abbrev Values := List (String × String)

/-- Sets a value, in place of one that is there. -/
def Values.insert (values : Values) (name value : String) : Values :=
  (name, value) :: values.filter fun e => e.1 != name

/-- The finder that looks into given values. -/
def Values.finder (values : Values) : Finder Id := fun id => values.lookup id.text

end Fieldwise
