import ScalarServer.Text.Blank
import ScalarServer.Text.Digits

/-!
# Types of scalar variables

A variable holds a truth value, an integer of one of eight widths, a floating-point number of one
of two formats, or a text. Each type has a name, and some can be called by a second one.
-/

namespace ScalarServer

/-- The integer types. -/
inductive IntegerType where
  /-- Eight bits with a sign. -/
  | sbyte
  /-- Eight bits without a sign. -/
  | byte
  /-- Sixteen bits with a sign. -/
  | int16
  /-- Sixteen bits without a sign. -/
  | uint16
  /-- Thirty-two bits with a sign. -/
  | int32
  /-- Thirty-two bits without a sign. -/
  | uint32
  /-- Sixty-four bits with a sign. -/
  | int64
  /-- Sixty-four bits without a sign. -/
  | uint64
deriving DecidableEq, Repr

namespace IntegerType

/-- The least value of the type. -/
def least : IntegerType → Int
  | .sbyte => -128
  | .int16 => -32768
  | .int32 => -2147483648
  | .int64 => -9223372036854775808
  | .byte | .uint16 | .uint32 | .uint64 => 0

/-- The number of values of the type: two to the number of its bits. -/
def size : IntegerType → Int
  | .sbyte | .byte => 256
  | .int16 | .uint16 => 65536
  | .int32 | .uint32 => 4294967296
  | .int64 | .uint64 => 18446744073709551616

/-- The integers that are values of the type. -/
def Holds (k : IntegerType) (n : Int) : Prop :=
  k.least ≤ n ∧ n < k.least + k.size

instance (k : IntegerType) (n : Int) : Decidable (k.Holds n) :=
  inferInstanceAs (Decidable (_ ∧ _))

/-- The value of the type that is congruent to an integer modulo the size of the type. -/
def wrap (k : IntegerType) (n : Int) : Int :=
  (n - k.least) % k.size + k.least

/-- Wrapping gives a value of the type. -/
theorem holds_wrap (k : IntegerType) (n : Int) : k.Holds (k.wrap n) := by
  have hpos : 0 < k.size := by cases k <;> decide
  have hlow := Int.emod_nonneg (n - k.least) (Int.ne_of_gt hpos)
  have hhigh := Int.emod_lt_of_pos (n - k.least) hpos
  unfold Holds wrap
  omega

end IntegerType

/-- The types of scalar variables. -/
inductive ScalarType where
  /-- A truth value. -/
  | boolean
  /-- An integer. -/
  | integer (kind : IntegerType)
  /-- A single-precision number. -/
  | float
  /-- A double-precision number. -/
  | double
  /-- A text. -/
  | string
deriving DecidableEq, Repr

namespace ScalarType

/-- All types, in their customary order. -/
def all : List ScalarType :=
  [.boolean, .integer .sbyte, .integer .byte, .integer .int16, .integer .uint16, .integer .int32,
    .integer .uint32, .integer .int64, .integer .uint64, .float, .double, .string]

/-- The name of a type. -/
def name : ScalarType → String
  | .boolean => "Boolean"
  | .integer .sbyte => "SByte"
  | .integer .byte => "Byte"
  | .integer .int16 => "Int16"
  | .integer .uint16 => "UInt16"
  | .integer .int32 => "Int32"
  | .integer .uint32 => "UInt32"
  | .integer .int64 => "Int64"
  | .integer .uint64 => "UInt64"
  | .float => "Float"
  | .double => "Double"
  | .string => "String"

/-- Second names, in lower case. -/
def aliases : List (String × ScalarType) :=
  [("bool", .boolean), ("int8", .integer .sbyte), ("uint8", .integer .byte)]

/-- Whether the values are integers. -/
def isInteger : ScalarType → Bool
  | .integer _ => true
  | _ => false

/-- Whether the values are numbers. -/
def isNumeric : ScalarType → Bool
  | .integer _ | .float | .double => true
  | .boolean | .string => false

/-- The type with a name or alias, in any case and with blanks around it. -/
def named? (tag : String) : Option ScalarType :=
  let key := Text.lowercase (Text.trim tag.toList)
  match all.find? fun t => Text.lowercase t.name.toList == key with
  | some t => some t
  | none => (aliases.find? fun (alternative, _) => alternative.toList == key).map (·.2)

end ScalarType

end ScalarServer
