/-
This file says where the records of the journal go and which of them are kept: to the terminal
as they are, or to files that are changed when one is full, each record on a line with its time,
level and source. Records of debugging are kept only on request, and what the parts that talk
to the network write about each request is left out.
-/

import BallotWatch.Journal
import BallotWatch.Time.Instant

namespace BallotWatch.Journal

/-! ### Where records go -/

/-- Files that follow one another: how long one may get, how many old ones are kept, the name,
and the encoding. -/
structure RotatingFile where
  maxBytes : Nat
  backups : Nat
  path : String
  encoding : String
  deriving DecidableEq, Repr

/-- Where records go. -/
inductive Handler
  | terminal
  | rotating (file : RotatingFile)
  deriving DecidableEq, Repr

/-- The greatest number of files at a time, the one being written included. -/
def maxFiles : Nat :=
  3

/-- The files of the journal. -/
def journalFile : RotatingFile where
  maxBytes := 4 * 1024 * 1024
  backups := maxFiles - 1
  path := "logs/govwatch.log"
  encoding := "utf-8"

/-! ### What is kept -/

/-- How the journal is to be kept. -/
structure Logging where
  verbose : Bool := false
  toFile : Bool := false
  deriving DecidableEq, Repr

namespace Logging

/-- Where the records go. -/
def handler (logging : Logging) : Handler :=
  if logging.toFile then .rotating journalFile else .terminal

/-- Puts the handler in the place of those that are there. -/
def install (logging : Logging) (_present : List Handler) : List Handler :=
  [logging.handler]

/-- The least level that is kept. -/
def threshold (logging : Logging) : Level :=
  if logging.verbose then .debug else .info

/-- The sources that write about every request. -/
def chatty : List String :=
  ["httpx", "httpcore"]

/-- Whether a source is another one or a part of it. -/
def isWithin (whole part : String) : Bool :=
  part == whole || (whole.toList ++ ['.']).isPrefixOf part.toList

/-- Whether a record of a source and a level is kept. -/
def keeps (logging : Logging) (source : String) (level : Level) : Bool :=
  let threshold := if chatty.any (isWithin · source) then .warning else logging.threshold
  level.atLeast threshold

/-! ### How a record is written -/

/-- A name filled up with blanks to the width of the longest common level. -/
def levelColumn (level : Level) : String :=
  level.name ++ String.ofList (List.replicate (7 - level.name.length) ' ')

/-- A source as records name it. The one without a name is the root of all others. -/
def shownSource (source : String) : String :=
  if source.isEmpty then "root" else source

/-- A record as it is written. -/
def line (logging : Logging) (time : Instant) (source : String) (level : Level)
    (text : String) : String :=
  if logging.toFile then
    s!"{time.date} {time.timeOfDay},000 {levelColumn level} {shownSource source}: {text}"
  else text

end Logging

end BallotWatch.Journal
