/-!
# Types of values

The types that values, literals and parameters of a query have, and their names.
-/

namespace ParamQuery

inductive ValueType where
  | bool
  | tinyint
  | smallint
  | int
  | bigint
  | tinyUnsigned
  | smallUnsigned
  | unsigned
  | bigUnsigned
  | float
  | double
  | char
  | string
  | bytes
  | date
  | time
  | dateTime
  | dateTimeUtc
  | uuid
  | json
deriving DecidableEq, Repr

namespace ValueType

def name : ValueType → String
  | .bool => "bool"
  | .tinyint => "tinyint"
  | .smallint => "smallint"
  | .int => "int"
  | .bigint => "bigint"
  | .tinyUnsigned => "tinyint unsigned"
  | .smallUnsigned => "smallint unsigned"
  | .unsigned => "int unsigned"
  | .bigUnsigned => "bigint unsigned"
  | .float => "float"
  | .double => "double"
  | .char => "char"
  | .string => "string"
  | .bytes => "bytes"
  | .date => "date"
  | .time => "time"
  | .dateTime => "datetime"
  | .dateTimeUtc => "datetime utc"
  | .uuid => "uuid"
  | .json => "json"

def all : List ValueType :=
  [.bool, .tinyint, .smallint, .int, .bigint, .tinyUnsigned, .smallUnsigned, .unsigned,
    .bigUnsigned, .float, .double, .char, .string, .bytes, .date, .time, .dateTime, .dateTimeUtc,
    .uuid, .json]

def ofName? (name : String) : Option ValueType := all.find? fun t => t.name == name

/-- Every type is found under its name, so no two types share one. -/
theorem ofName?_name (t : ValueType) : ofName? t.name = some t := by
  cases t <;> rfl

end ValueType

end ParamQuery
