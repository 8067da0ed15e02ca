import ValueMethods.Java.Types

/-!
# Options of a generation run

Which helper classes the generated bodies call, and whether `toString` is generated at all.
-/

namespace ValueMethods

/-- Qualified names of the classes that generated bodies call into. -/
structure Helpers where
  /-- The class that provides `toStringHelper(Object)`. -/
  toStringHelper : String
  /-- The class that provides `hash(Object...)` and `equals(Object, Object)`. -/
  objects : String
  deriving DecidableEq

namespace Helpers

/-- The helpers used where none are named. -/
def default : Helpers where
  toStringHelper := "com.google.common.base.MoreObjects"
  objects := "java.util.Objects"

/-- The type behind `toStringHelper`. -/
def toStringType (helpers : Helpers) : TypeName :=
  TypeName.parse helpers.toStringHelper

/-- The type behind `objects`. -/
def objectsType (helpers : Helpers) : TypeName :=
  TypeName.parse helpers.objects

end Helpers

/-- What a generation run is asked to do. -/
structure Options where
  /-- Whether `toString` is left out for every class. -/
  skipToString : Bool
  /-- The helper classes. -/
  helpers : Helpers
  deriving DecidableEq

/-- All three methods with the usual helpers. -/
def Options.default : Options where
  skipToString := false
  helpers := Helpers.default

end ValueMethods
