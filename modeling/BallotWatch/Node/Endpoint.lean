/-
This file reads the endpoint of a node, which is where its requests go.

An endpoint has a scheme, a host and a path. One that breaks the rules for such texts is found
out only when a request is to be made, and no request is; the same holds where the name of the host
cannot be read or written. One that lacks a scheme or a host is a path and nothing else: requests
can be made and answered, but an answer cannot be taken in, since nothing says where it came from.
Nor can it be where the brackets of a numeric host do not tell its end.
-/

import BallotWatch.Hostname.Name
import BallotWatch.Hostname.Numeric
import BallotWatch.Node.Reply
import BallotWatch.Text.Numeral
import BallotWatch.Text.Unencodable
import BallotWatch.Text.Utf8

namespace BallotWatch.Node

open Text

/-! ### What can be wrong with an endpoint -/

/-- Why a text is no endpoint. -/
inductive EndpointFault
  | tooLong
  | control (c : Char) (position : Nat)
  | badVersionFour (host : String)
  | badVersionSix (host : String)
  | badName (host : String)
  | badPort (port : String)
  | emptyAuthority
  | colonInFront
  | unreadableName (fault : Hostname.NameFault)
  | notAscii (run : Unencodable)
  deriving DecidableEq, Repr

/-- The fault in words. -/
def EndpointFault.message : EndpointFault → String
  | tooLong => "URL too long"
  | control c position =>
    s!"Invalid non-printable ASCII character in URL, {quoted (String.ofList [c])} " ++
      s!"at position {position}."
  | badVersionFour host => s!"Invalid IPv4 address: {quoted host}"
  | badVersionSix host => s!"Invalid IPv6 address: {quoted host}"
  | badName host => s!"Invalid IDNA hostname: {quoted host}"
  | badPort port => s!"Invalid port: {quoted port}"
  | emptyAuthority => "Relative URLs cannot have a path starting with '//'"
  | colonInFront => "Relative URLs cannot have a path starting with ':'"
  | unreadableName fault => fault.message
  | notAscii run => run.message

/-- The fault as it is passed on. -/
def EndpointFault.toFault : EndpointFault → Fault
  | unreadableName fault => fault.toFault
  | notAscii run => ⟨.encoding, run.message⟩
  | fault => ⟨.url, fault.message⟩

/-! ### The parts of an endpoint -/

/-- The parts of an endpoint as written. -/
structure EndpointParts where
  scheme : List Char
  user : List Char
  host : List Char
  port : List Char
  path : List Char
  query? : Option (List Char)

/-- Whether a character can stand in a scheme. -/
def isSchemeChar (c : Char) : Bool :=
  c.isAlphanum || c == '+' || c == '.' || c == '-'

/-- The scheme before a colon, and the text after it. It begins with a letter or is empty. -/
def splitScheme (text : List Char) : List Char × List Char :=
  let scheme := text.takeWhile isSchemeChar
  match text.dropWhile isSchemeChar with
  | ':' :: rest => if (scheme.head?.map Char.isAlpha).getD true then (scheme, rest) else ([], text)
  | _ => ([], text)

/-- The authority behind two slashes, and the text after it. -/
def splitAuthority (text : List Char) : List Char × List Char :=
  let inside (c : Char) : Bool := c != '/' && c != '?' && c != '#'
  match text with
  | '/' :: '/' :: rest => (rest.takeWhile inside, rest.dropWhile inside)
  | rest => ([], rest)

/-- Cuts a text behind the last of a character, if there is one. -/
def splitAfterLast (mark : Char) (text : List Char) : List Char × List Char :=
  let after := (text.reverse.takeWhile (· != mark)).reverse
  (text.take (text.length - after.length), after)

/-- The host of an authority, which may stand in brackets, and the port after it. -/
def splitHost (text : List Char) : List Char × List Char :=
  let (bracketed, after) := splitAfterLast ']' text
  let (host, rest) :=
    if text.head? == some '[' && !bracketed.isEmpty then (bracketed, after)
    else (text.takeWhile (· != ':'), text.dropWhile (· != ':'))
  match rest with
  | ':' :: port => (host, port)
  | port => (host, port)

/-- Takes an endpoint apart. A user stands before the last at-sign of the authority; what follows
a hash sign does not count. -/
def EndpointParts.ofText (text : List Char) : EndpointParts :=
  let (scheme, rest) := splitScheme text
  let (authority, rest) := splitAuthority rest
  let (user, place) := splitAfterLast '@' authority
  let (host, port) := splitHost place
  let inPath (c : Char) : Bool := c != '?' && c != '#'
  let query? :=
    match rest.dropWhile inPath with
    | '?' :: query => some (query.takeWhile (· != '#'))
    | _ => none
  { scheme, user := user.dropLast, host, port, path := rest.takeWhile inPath, query? }

/-! ### The rules -/

/-- The most characters of an endpoint. -/
def maxEndpoint : Nat :=
  65536

/-- The first control of the ASCII set, with its position. -/
def firstControl? (text : List Char) : Option (Char × Nat) :=
  text.zipIdx.find? fun (c, _) => c.toNat < 32 || c.toNat == 127

/-- Whether a host stands in brackets. -/
def isBracketed (host : List Char) : Bool :=
  host.head? == some '[' && host.getLast? == some ']'

/-- The text between brackets. -/
def unbracketed (host : List Char) : List Char :=
  (host.drop 1).dropLast

/-- What is wrong with a host, if anything. -/
def hostFault? (host : List Char) : Option EndpointFault :=
  let text := String.ofList host
  if Hostname.isFourNumbers host then
    if Hostname.isVersionFour host then none else some (.badVersionFour text)
  else if isBracketed host then
    if Hostname.isVersionSix (unbracketed host) then none else some (.badVersionSix text)
  else if Hostname.isAscii host then none
  else
    match Hostname.asciiName host with
    | .ok _ => none
    | .error _ => some (.badName text)

/-- What is wrong with a port, if anything. None at all is right. -/
def portFault? (port : List Char) : Option EndpointFault :=
  if port.isEmpty || (Numeral.decimal? port).isSome then none
  else some (.badPort (String.ofList port))

/-- What is wrong with the path of an endpoint that is nothing but a path, if anything. -/
def EndpointParts.pathFault? (parts : EndpointParts) : Option EndpointFault :=
  if parts.scheme.isEmpty && parts.user.isEmpty && parts.host.isEmpty && parts.port.isEmpty then
    match parts.path with
    | '/' :: '/' :: _ => some .emptyAuthority
    | ':' :: _ => some .colonInFront
    | _ => none
  else none

/-- What is wrong with an endpoint, if anything: its length, its characters, its host, its port
and its path are looked at in this order. -/
def endpointFault? (text : List Char) : Option EndpointFault :=
  if maxEndpoint < text.length then some .tooLong
  else
    match firstControl? text with
    | some (c, position) => some (.control c position)
    | none =>
      let parts := EndpointParts.ofText text
      (hostFault? parts.host <|> portFault? parts.port) <|> parts.pathFault?

/-! ### Paths -/

/-- Whether a character stands for itself in a path, or with the question mark allowed in a
query. -/
def isPlain (extra : List Char) (c : Char) : Bool :=
  33 ≤ c.toNat && c.toNat < 127 && !(['"', '#', '<', '>'].contains c) &&
    (extra.contains c || !(['?', '\x60', '\x7b', '\x7d'].contains c))

/-- A text in which every other character is written by its bytes, each behind a percent sign. -/
def percentEncoded (extra : List Char) (text : List Char) : List Char :=
  text.flatMap fun c =>
    if isPlain extra c then [c]
    else (Utf8.encodeChar c).flatMap fun byte =>
      '%' :: (hexNumeral 2 byte.toNat).map Char.toUpper

/-- The steps of a path without those that stay in place, and without each that is left again. -/
def walked (steps : List (List Char)) : List (List Char) :=
  steps.foldl
    (fun taken step =>
      if step == ['.'] then taken
      else if step == ['.', '.'] then if taken == [[]] then taken else taken.dropLast
      else taken ++ [step])
    []

/-- A path with its steps walked. -/
def normalPath (path : List Char) : List Char :=
  ['/'].intercalate (walked (pieces (· == '/') path))

/-- The path and the query of an endpoint, as they are requested. -/
def EndpointParts.target (parts : EndpointParts) : List Char :=
  let isPathOnly :=
    parts.scheme.isEmpty && parts.user.isEmpty && parts.host.isEmpty && parts.port.isEmpty
  let path := if isPathOnly then parts.path else normalPath parts.path
  let query := (parts.query?.map fun query =>
    '?' :: percentEncoded ['?', '\x60', '\x7b', '\x7d'] query).getD []
  '/' :: (percentEncoded [] path ++ query).dropWhile (· == '/')

/-! ### What requests and answers need -/

/-- Whether a character stands for itself in the name of a host. -/
def isPlainInHost (c : Char) : Bool :=
  33 ≤ c.toNat && c.toNat < 127 && !(['#', '/', ':', '<', '>', '?', '@', '[', ']', '^'].contains c)

/-- The name of a host in ASCII characters as it is requested: its capitals are made small, and the
characters that do not stand for themselves are written by their numbers. -/
def requestedName (host : List Char) : List Char :=
  (host.map Char.toLower).flatMap fun c =>
    if isPlainInHost c then [c] else '%' :: (hexNumeral 2 c.toNat).map Char.toUpper

/-- Why no request can be made to a host, if so. An encoded name has to be one that can be read, and
the zone of a numeric address has to be in ASCII characters. -/
def requestFault? (host : List Char) : Option EndpointFault :=
  if Hostname.isAscii host then
    let name := requestedName host
    if !isBracketed host && Hostname.encodedSign.isPrefixOf name then
      match Hostname.readName name with
      | .ok _ => none
      | .error fault => some (.unreadableName fault)
    else none
  else if isBracketed host then
    (notAscii? (host.map .char)).map .notAscii
  else none

/-- Why an answer cannot be taken in. -/
inductive OriginFault
  | noScheme (target : String)
  | brokenBrackets
  | noAddress (host : String)
  deriving DecidableEq, Repr

/-- The fault in words. -/
def OriginFault.message : OriginFault → String
  | noScheme target => s!"unknown url type: {quoted target}"
  | brokenBrackets => "Invalid IPv6 URL"
  | noAddress host => s!"{quoted host} does not appear to be an IPv4 or IPv6 address"

/-- What is wrong with the origin of an answer from a host, if anything. Only a port can follow the
first bracket that closes, and there is an address before it. -/
def originFault? (host : List Char) : Option OriginFault :=
  if isBracketed host then
    let address := (host.drop 1).takeWhile (· != ']')
    match (host.drop 1).dropWhile (· != ']') with
    | [']'] | ']' :: ':' :: _ =>
      if Hostname.isVersionSix address then none else some (.noAddress (String.ofList address))
    | _ => some .brokenBrackets
  else none

/-! ### Endpoints -/

/-- Where requests go. -/
inductive Endpoint
  | invalid (fault : EndpointFault)
  | unplaced (fault : OriginFault)
  | full
  deriving DecidableEq, Repr

namespace Endpoint

/-- The endpoint that a text stands for. -/
def ofText (text : String) : Endpoint :=
  match endpointFault? text.toList with
  | some fault => .invalid fault
  | none =>
    let parts := EndpointParts.ofText text.toList
    if parts.scheme.isEmpty || parts.host.isEmpty then
      .unplaced (.noScheme (String.ofList parts.target))
    else
      match requestFault? parts.host, originFault? parts.host with
      | some fault, _ => .invalid fault
      | none, some fault => .unplaced fault
      | none, none => .full

/-- Whether requests can be made at all. -/
def isValid : Endpoint → Bool
  | invalid _ => false
  | unplaced _ | full => true

/-- What is taken in of a reply. Nothing comes back where no request can be made, and no response
is taken in where nothing says where it came from. -/
def received (endpoint : Endpoint) (reply : Reply) : Reply :=
  match endpoint, reply with
  | invalid fault, _ => .outside fault.toFault
  | unplaced fault, .response _ _ => .outside ⟨.value, fault.message⟩
  | _, reply => reply

end Endpoint

end BallotWatch.Node
