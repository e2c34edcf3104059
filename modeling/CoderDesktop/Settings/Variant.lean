import Mathlib.Data.List.Basic

/-!
# Values of settings

The JSON values of a policy document and the `QVariant` values settings resolve
to. A number is kept as the rational it denotes; the elements of a JSON array or
object are converted when they are read.
-/

namespace CoderDesktop.Settings

/-- A parsed JSON value. Looking up a key takes its first entry. -/
inductive Json where
  | null
  | bool (value : Bool)
  | number (value : Rat)
  | string (value : String)
  | array (values : List Json)
  | object (entries : List (String × Json))

/-- The values a setting can have. -/
inductive QVariant where
  | invalid
  | nullptr
  | bool (value : Bool)
  | number (value : Rat)
  | string (value : String)
  | stringList (values : List String)
  /-- A JSON array or object taken over as a list or a map. -/
  | list (values : List Json)
  | map (entries : List (String × Json))

namespace Json

/-- `QJsonObject::value`; `none` is an undefined value. -/
def entry (entries : List (String × Json)) (key : String) : Option Json :=
  entries.lookup key

/-- `QJsonValue::toVariant`. -/
def toVariant : Json → QVariant
  | .null => .nullptr
  | .bool value => .bool value
  | .number value => .number value
  | .string value => .string value
  | .array values => .list values
  | .object entries => .map entries

/-- `toBool(false)`: only a JSON boolean counts. -/
def toBool : Json → Bool
  | .bool value => value
  | .null | .number _ | .string _ | .array _ | .object _ => false

/-- `toInt(0)`: a number that is an `int`, else 0. -/
def toInt : Json → Int
  | .number value =>
      if value.den = 1 ∧ -0x80000000 ≤ value.num ∧ value.num < 0x80000000 then value.num else 0
  | .null | .bool _ | .string _ | .array _ | .object _ => 0

/-- `toString()`: a string, else empty. -/
def toText : Json → String
  | .string value => value
  | .null | .bool _ | .number _ | .array _ | .object _ => ""

/-- `toArray()`: an array, else empty. -/
def toArray : Json → List Json
  | .array values => values
  | .null | .bool _ | .number _ | .string _ | .object _ => []

/-- `toObject()`: an object, else empty. -/
def toObject : Json → List (String × Json)
  | .object entries => entries
  | .null | .bool _ | .number _ | .string _ | .array _ => []

/-- `toInteger(0)`: a number that is a 64-bit integer, else 0. -/
def toInteger : Json → Int
  | .number value =>
      if value.den = 1 ∧ -0x8000000000000000 ≤ value.num ∧ value.num < 0x8000000000000000 then
        value.num
      else 0
  | .null | .bool _ | .string _ | .array _ | .object _ => 0

/-- The value of a key. An undefined value converts to the same defaults as null. -/
def value (entries : List (String × Json)) (key : String) : Json :=
  (entry entries key).getD .null

end Json

namespace QVariant

/-- Everything but the invalid variant. -/
def isValid : QVariant → Bool
  | .invalid => false
  | .nullptr | .bool _ | .number _ | .string _ | .stringList _ | .list _ | .map _ => true

/-- `toBool`: a text is false when its lower-case form is empty, "0" or "false". -/
def toBool : QVariant → Bool
  | .bool value => value
  | .number value => value ≠ 0
  | .string value =>
      let lower := value.toList.map Char.toLower
      lower ≠ [] ∧ lower ≠ "0".toList ∧ lower ≠ "false".toList
  | .invalid | .nullptr | .stringList _ | .list _ | .map _ => false

end QVariant

end CoderDesktop.Settings
