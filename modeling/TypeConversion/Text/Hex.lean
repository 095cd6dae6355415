/-!
# Hexadecimal text

Numbers written in base sixteen with a least number of digits, and read back.
-/

namespace TypeConversion.Hex

/-- The lower-case digits of `n`, padded with zeros to at least `width` digits. -/
def lower (width n : Nat) : String :=
  String.ofList ((Nat.toDigits 16 n).leftpad width '0')

/-- The upper-case digits of `n`, padded with zeros to at least `width` digits. -/
def upper (width n : Nat) : String :=
  String.ofList (((Nat.toDigits 16 n).leftpad width '0').map Char.toUpper)

/-- The value of a lower-case digit. -/
def digit? (c : Char) : Option Nat :=
  if '0' ≤ c ∧ c ≤ '9' then some (c.toNat - '0'.toNat)
  else if 'a' ≤ c ∧ c ≤ 'f' then some (c.toNat - 'a'.toNat + 10)
  else none

/-- The number that lower-case digits stand for. -/
def read? (s : String) : Option Nat :=
  (s.toList.mapM digit?).map fun digits => digits.foldl (fun n d => 16 * n + d) 0

end TypeConversion.Hex
