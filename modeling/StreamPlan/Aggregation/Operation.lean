import StreamPlan.Schema.FieldType

set_option autoImplicit false

namespace StreamPlan.Aggregation

inductive Operation where
  -- All records into one.
  | reduce
  -- Records with equal keys into one.
  | reduceByKey
  -- Known by name; no rule can be compiled for it.
  | groupBy
  deriving DecidableEq, Repr

namespace Operation

def all : List Operation := [reduce, reduceByKey, groupBy]

def name : Operation → String
  | reduce => "reduce"
  | reduceByKey => "reduceByKey"
  | groupBy => "groupBy"

def ofName? (text : String) : Option Operation := all.find? (·.name == text)

theorem ofName?_name (operation : Operation) : ofName? operation.name = some operation := by
  cases operation <;> decide

def requiresKey : Operation → Bool
  | reduce => false
  | reduceByKey | groupBy => true

def toJson (operation : Operation) : Json.Value := .text operation.name

def ofJson? (value : Json.Value) : Option Operation := value.unitTag?.bind ofName?

end Operation

inductive Function where
  | sum
  | min
  | max
  | count
  deriving DecidableEq, Repr

namespace Function

def all : List Function := [sum, min, max, count]

def name : Function → String
  | sum => "sum"
  | min => "min"
  | max => "max"
  | count => "count"

def ofName? (text : String) : Option Function := all.find? (·.name == text)

theorem ofName?_name (function : Function) : ofName? function.name = some function := by
  cases function <;> decide

def accepts : Function → FieldType → Bool
  | sum, type => type.isNumeric
  | min, type | max, type => type.isNumeric || type.isTemporal
  | count, _ => true

def tag : Function → String
  | sum => "Sum"
  | min => "Min"
  | max => "Max"
  | count => "Count"

def toJson (function : Function) : Json.Value := .text function.tag

end Function
end StreamPlan.Aggregation
