/-
This file holds the faults that can end a step of the watch. The kinds tell who has to deal
with one: a fault of the configuration ends the program at its start, a fault of the network or
of a node's answer ends one round of the scan, a decoding fault skips one log entry, and a
delivery fault concerns one notification. The remaining kinds come from outside and are passed
on as they are.
-/

import BallotWatch.Text.Numeral

namespace BallotWatch

/-- The kinds of faults. -/
inductive FaultKind
  | general
  | config
  | network
  | rpc
  | decode
  | signatureMismatch
  | malformed
  | dispatch
  | state
  | value
  | overflow
  | depth
  | url
  | hostname
  | hostnameCharacter
  | hostnameContext
  | hostnameDirection
  | encoding
  | key
  | index
  | attribute
  | unset
  | type
  | system
  | mail
  deriving DecidableEq, Repr, Inhabited

/-- A fault and what it says about itself. -/
structure Fault where
  kind : FaultKind
  message : String
  deriving DecidableEq, Repr, Inhabited

namespace FaultKind

/-! ### The family of the watch's own faults -/

/-- The kinds the watch itself raises, each with the text used when none is given. -/
def standardMessage? : FaultKind → Option String
  | general => some "error.unknown"
  | config => some "error.config.invalid"
  | network => some "error.rpc.unreachable"
  | rpc => some "error.rpc.failed"
  | decode => some "error.decode.failed"
  | signatureMismatch => some "error.decode.signature_mismatch"
  | malformed => some "error.decode.malformed"
  | dispatch => some "error.dispatch.failed"
  | _ => none

/-- The next wider kind. Both ways in which an entry cannot be decoded are decoding faults,
every fault of the watch's own is a general one, trouble in a mail session is trouble of the
system, and faults of hostnames and of text that cannot be written are faults of values. -/
def wider? : FaultKind → Option FaultKind
  | signatureMismatch | malformed => some decode
  | config | network | rpc | decode | dispatch => some general
  | mail => some system
  | hostnameCharacter | hostnameContext | hostnameDirection => some hostname
  | hostname | encoding => some value
  | _ => none

/-- A kind and all wider ones. -/
def ancestry (kind : FaultKind) : List FaultKind :=
  match kind.wider? with
  | none => [kind]
  | some wider =>
    match wider.wider? with
    | none => [kind, wider]
    | some widest => [kind, wider, widest]

/-- Whether every fault of one kind is also of another. -/
def isA (kind wider : FaultKind) : Bool :=
  kind.ancestry.contains wider

end FaultKind

/-- A fault of a kind. Without a text, or with an empty one, it has the kind's standard text. -/
def Fault.of (kind : FaultKind) (text? : Option String) : Fault :=
  let text := text?.getD ""
  ⟨kind, if text.isEmpty then kind.standardMessage?.getD "" else text⟩

/-- The fault of a number with too many digits to be written. -/
def Fault.unwritable : Fault :=
  ⟨.value, Text.Numeral.unwritableMessage⟩

/-- A fault whose text tells some numbers. Where one of them cannot be written, that is the fault
instead. -/
def Fault.telling (numbers : List Int) (kind : FaultKind) (text : String) : Fault :=
  if numbers.all Text.Numeral.isWritable then ⟨kind, text⟩ else .unwritable

end BallotWatch
