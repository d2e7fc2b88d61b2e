/-
# Whole numbers out of values

Which whole number a value stands for where a count is wanted: fractions are cut off toward zero,
and text and bytes are read.
-/
import DocTable.Fault
import DocTable.Number.Integer

namespace DocTable
namespace Value

/-- The whole number of a value. -/
def whole : Value → Except Fault Int
  | bool b => .ok b.toInt
  | int n => .ok n
  | float x =>
    if x.isNaN then .error (.meaningless "cannot convert float NaN to integer")
    else if x.isInfinite then .error (.outOfRange "cannot convert float infinity to integer")
    else .ok x.truncate
  | decimal (.finite negative coefficient exponent) =>
    .ok (Decimal.truncate negative coefficient exponent)
  | decimal (.infinite _) => .error (.outOfRange "cannot convert Infinity to integer")
  | decimal (.nan ..) => .error (.meaningless "cannot convert NaN to integer")
  | text s =>
    match Number.ofText? s with
    | some n => .ok n
    | none => .error (.meaningless ("invalid literal for a whole number: " ++ Text.quoted s))
  | bytes b =>
    match Number.ofBytes? b with
    | some n => .ok n
    | none => .error (.meaningless ("invalid literal for a whole number: " ++ Text.quotedBytes b))
  | v => .error (.unfit ("a whole number cannot be made of '" ++ v.typeName ++ "'"))

end Value
end DocTable
