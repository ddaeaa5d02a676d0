/-
This file reads the log entries of a node's answer. The address and the place on the chain must
be there; topics, data and transaction may be missing. Texts are put into lower case, and what
is no text where one is expected is taken by the text that shows it.
-/

import BallotWatch.Chain.LogEntry
import BallotWatch.Fault
import BallotWatch.Node.Quantity
import BallotWatch.Text.Lowercase

namespace BallotWatch.Node

/-! ### What can be wrong with an entry -/

/-- Why a value is no log entry. -/
inductive LogFault
  | noObject (kind : String)
  | noMember (name : String)
  | topicsNotIterable (kind : String)
  | badValue (fault : ValueFault)
  deriving Repr

/-- The fault in words. -/
def LogFault.message : LogFault → String
  | noObject kind => s!"expected log object, got {kind}"
  | noMember name => s!"log object is missing {Text.quoted name}"
  | topicsNotIterable kind => s!"'{kind}' object is not iterable"
  | badValue fault => fault.message

/-- The fault as it is passed on. -/
def LogFault.toFault (fault : LogFault) : Fault :=
  match fault with
  | topicsNotIterable _ => ⟨.type, fault.message⟩
  | _ => ⟨.rpc, fault.message⟩

/-! ### Reading -/

/-- The values that a list of topics goes through: the items of a list, the characters of a
text, the names of an object. An empty value of any kind has none. -/
def topicItems (value : Json) : Except LogFault (List Json) :=
  if value.isEmptyValue then .ok []
  else
    match value with
    | .arr items => .ok items
    | .str text => .ok (text.symbols.map fun symbol => .str ⟨[symbol]⟩)
    | .obj members => .ok (members.map fun member => .str member.1)
    | other => .error (.topicsNotIterable other.kindName)

/-- The text that shows a value, in lower case. -/
def lowerText (value : Json) : String :=
  Text.lowercase value.plain

/-- A member that must be there. -/
def required (object : Json) (name : String) : Except LogFault Json :=
  match object.member? name with
  | some value => .ok value
  | none => .error (.noMember name)

/-- A number that must be there. -/
def requiredQuantity (object : Json) (name : String) : Except LogFault Nat :=
  match required object name with
  | .error fault => .error fault
  | .ok value => (quantity value name).mapError .badValue

/-- The log entry that a value stands for. -/
def logEntry (value : Json) : Except LogFault LogEntry :=
  match value with
  | .obj _ => do
    let topics ← topicItems ((value.member? "topics").getD .null)
    let address ← required value "address"
    let data ← (data ((value.member? "data").getD .null)).mapError .badValue
    let block ← requiredQuantity value "blockNumber"
    let index ← requiredQuantity value "logIndex"
    let transaction := (value.member? "transactionHash").getD .null
    return {
      address := lowerText address
      topics := topics.map lowerText
      data
      block
      index
      transaction := if transaction.isEmptyValue then "" else lowerText transaction }
  | other => .error (.noObject other.kindName)

end BallotWatch.Node
