/-!
# Data of the wrong shape

What a decoder finds wrong with data that is well formed in itself: a value of another kind than the
one that is wanted, or a field too few or too many.
-/

namespace Fieldwise

/-- A way in which data does not have the shape that is wanted. What was found and what was expected
are given in words. -/
inductive Mismatch where
  | invalidType (found expected : String)
  | invalidValue (found expected : String)
  | invalidLength (length : Nat) (expected : String)
  | missingField (name : String)
  | duplicateField (name : String)
  deriving BEq, DecidableEq, Repr

/-- The mismatch in words. -/
def Mismatch.message : Mismatch → String
  | .invalidType found expected => "invalid type: " ++ found ++ ", expected " ++ expected
  | .invalidValue found expected => "invalid value: " ++ found ++ ", expected " ++ expected
  | .invalidLength length expected =>
    "invalid length " ++ toString length ++ ", expected " ++ expected
  | .missingField name => "missing field `" ++ name ++ "`"
  | .duplicateField name => "duplicate field `" ++ name ++ "`"

end Fieldwise
