import RagFileUploader.Encoding.Text

/-!
# JSON values

What a JSON text is read as in Python, where any value may turn up where another one was meant.
-/

namespace Encoding

/-- A floating-point number, as far as comparisons with zero go. -/
inductive Double where
  | nan
  | infinity (negative : Bool)
  | finite (value : ℚ)
  deriving DecidableEq

inductive Json where
  | null
  | bool (value : Bool)
  | int (value : ℤ)
  | float (value : Double)
  | str (value : Text)
  | list (items : List Json)
  /-- The keys of a dictionary differ. -/
  | dict (items : List (Text × Json))

namespace Json

/-- `type(value).__name__`. -/
def typeName : Json → String
  | null => "NoneType"
  | bool _ => "bool"
  | int _ => "int"
  | float _ => "float"
  | str _ => "str"
  | list _ => "list"
  | dict _ => "dict"

/-- `repr(value)`, up to the escapes in texts; floats and containers are only named. -/
def repr : Json → String
  | null => "None"
  | bool value => if value then "True" else "False"
  | int value => toString value
  | str value => s!"'{value.display}'"
  | value => s!"<{value.typeName}>"

/-- `value is None`. -/
def isNull : Json → Bool
  | null => true
  | _ => false

/-- `isinstance(value, str)`. -/
def isText : Json → Bool
  | str _ => true
  | _ => false

/-- `bool(value)`. -/
def truthy : Json → Bool
  | null => false
  | bool value => value
  | int value => value ≠ 0
  | float value => value ≠ .finite 0
  | str value => !value.isEmpty
  | list items => !items.isEmpty
  | dict items => !items.isEmpty

/-- The number that `isinstance(value, int)` speaks of; a Boolean is one. -/
def int? : Json → Option ℤ
  | int value => some value
  | bool value => some (if value then 1 else 0)
  | _ => none

/-- The value under a key of a dictionary. -/
def get? (items : List (Text × Json)) (key : String) : Option Json :=
  items.lookup (.ofString key)

end Json

end Encoding
