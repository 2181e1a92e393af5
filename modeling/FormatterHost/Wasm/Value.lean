/-!
# Values of WebAssembly

What functions take and give: numbers, vectors and references, each with its type.
-/

namespace FormatterHost.Wasm

/-- The types of values. -/
inductive ValueType where
  | i32
  | i64
  | f32
  | f64
  /-- Vectors of 128 bits. -/
  | v128
  /-- References to items of a kind, such as functions. -/
  | reference (kind : String)
deriving Repr, DecidableEq

/-- A value; numbers and vectors are given by their bits. -/
inductive Value where
  | i32 (bits : UInt32)
  | i64 (bits : UInt64)
  | f32 (bits : UInt32)
  | f64 (bits : UInt64)
  | v128 (bits : BitVec 128)
  /-- The reference to an item, or to none at all. -/
  | reference (kind : String) (item : Option Nat)
deriving Repr, DecidableEq

/-- The type of a function or of a block. -/
structure FunctionType where
  params : List ValueType := []
  results : List ValueType := []
deriving Repr, DecidableEq

/-- The first value of a variable of a type: zero, or a reference to nothing. -/
def ValueType.zero : ValueType → Value
  | i32 => .i32 0
  | i64 => .i64 0
  | f32 => .f32 0
  | f64 => .f64 0
  | v128 => .v128 0
  | reference kind => .reference kind none

namespace Value

/-- The type of a value. -/
def type : Value → ValueType
  | i32 _ => .i32
  | i64 _ => .i64
  | f32 _ => .f32
  | f64 _ => .f64
  | v128 _ => .v128
  | reference kind _ => .reference kind

/-- The value of an integer. -/
def ofInt32 (n : Int32) : Value :=
  .i32 n.toUInt32

/-- The integer that a value is, if it is one of 32 bits. -/
def int32? : Value → Option Int32
  | i32 bits => some bits.toInt32
  | _ => none

/-- Exactly the values of type `i32` are integers of 32 bits. -/
theorem isSome_int32?_iff {value : Value} : value.int32?.isSome = true ↔ value.type = .i32 := by
  cases value <;> simp [int32?, type]

end Value

end FormatterHost.Wasm
