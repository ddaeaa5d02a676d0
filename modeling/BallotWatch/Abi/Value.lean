/-
This file holds the types of event fields that can be read, and reads a value of each from the
word at its index: a number or an address from the word itself, a text from where it points.
-/

import BallotWatch.Abi.Word

namespace BallotWatch.Abi

/-- The types of event fields. -/
inductive AbiType
  | uint256
  | address
  | text
  deriving DecidableEq, Repr, Inhabited

namespace AbiType

/-- The name of a type in a signature. -/
def name : AbiType → String
  | uint256 => "uint256"
  | address => "address"
  | text => "string"

/-- The type of a name. -/
def ofName? (name : String) : Option AbiType :=
  [uint256, address, text].find? fun type => type.name == name

/-- Whether the word of a field holds an offset and not the value itself. -/
def isDynamic : AbiType → Bool
  | text => true
  | uint256 | address => false

theorem ofName?_name (type : AbiType) : ofName? type.name = some type := by
  cases type <;> rfl

end AbiType

/-- A value of an event field. -/
inductive AbiValue
  | number (value : Nat)
  | address (text : String)
  | text (text : String)
  deriving DecidableEq, Repr

/-- The value of a type at an index. -/
def read (data : List UInt8) (index : Nat) (type : AbiType) : Except AbiFault AbiValue :=
  match type with
  | .uint256 => (word data index).map fun word => .number (uint word)
  | .address => (word data index).bind fun word => (address word).map .address
  | .text => (text data index).map .text

/-- The value of a type, given by name, that fits into its word. -/
def readStatic (data : List UInt8) (index : Int) (typeName : String) :
    Except AbiFault AbiValue :=
  match word data index with
  | .error fault => .error fault
  | .ok word =>
    if typeName == AbiType.address.name then (address word).map .address
    else if typeName == AbiType.uint256.name then .ok (.number (uint word))
    else .error (.unsupportedType typeName)

end BallotWatch.Abi
