import StreamPlan.Json.Decode

set_option autoImplicit false

namespace StreamPlan

inductive FieldType where
  | boolean
  | byte
  | short
  | integer
  | long
  | float
  | double
  | decimal
  | string
  | binary
  | date
  | timestamp
  deriving DecidableEq, Repr

namespace FieldType

def all : List FieldType :=
  [boolean, byte, short, integer, long, float, double, decimal, string, binary, date, timestamp]

def name : FieldType → String
  | boolean => "BooleanType"
  | byte => "ByteType"
  | short => "ShortType"
  | integer => "IntegerType"
  | long => "LongType"
  | float => "FloatType"
  | double => "DoubleType"
  | decimal => "DecimalType"
  | string => "StringType"
  | binary => "BinaryType"
  | date => "DateType"
  | timestamp => "TimestampType"

def ofName? (text : String) : Option FieldType := all.find? (·.name == text)

theorem ofName?_name (fieldType : FieldType) : ofName? fieldType.name = some fieldType := by
  cases fieldType <;> decide

def isNumeric : FieldType → Bool
  | byte | short | integer | long | float | double | decimal => true
  | _ => false

def isTemporal : FieldType → Bool
  | date | timestamp => true
  | _ => false

def toJson (fieldType : FieldType) : Json.Value := .text fieldType.name

def ofJson? (value : Json.Value) : Option FieldType := value.unitTag?.bind ofName?

end FieldType
end StreamPlan
