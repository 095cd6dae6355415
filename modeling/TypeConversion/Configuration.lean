import TypeConversion.Numeric.Number

/-!
# Configuration

What an engine is set up with: how numeric casts treat overflow, whether user operators and host
converters are asked, and whether the cache remembers that there is no conversion.
-/

namespace TypeConversion

/-- The settings of an engine. -/
structure Configuration where
  overflow : OverflowMode := .checked
  userDefined : Bool := true
  hostConverters : Bool := true
  cacheNegative : Bool := true
  deriving DecidableEq, Repr, Inhabited

namespace Configuration

/-- The settings without host converters. -/
def strict : Configuration := { hostConverters := false }

/-- The settings with unchecked casts. -/
def unchecked : Configuration := { overflow := .unchecked }

/-- The settings with standard conversions only. -/
def standardOnly : Configuration := { userDefined := false, hostConverters := false }

end Configuration

end TypeConversion
