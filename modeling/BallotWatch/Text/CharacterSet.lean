/-
This file turns bytes into text by the name of a set of characters.

Letters count without their case in a name, and what is neither a letter, a digit nor a period only
parts it in words. In an unknown set only the ASCII characters can be read.
-/

import BallotWatch.Text.CharacterSet.Chinese
import BallotWatch.Text.CharacterSet.DesktopPages
import BallotWatch.Text.CharacterSet.HostPages
import BallotWatch.Text.CharacterSet.Japanese
import BallotWatch.Text.CharacterSet.Korean
import BallotWatch.Text.CharacterSet.OtherPages
import BallotWatch.Text.CharacterSet.Shifting
import BallotWatch.Text.CharacterSet.StandardPages
import BallotWatch.Text.CharacterSet.TerminalPages
import BallotWatch.Text.CharacterSet.Units
import BallotWatch.Text.CharacterSet.WindowsPages
import BallotWatch.Text.CharacterSet.Written

namespace BallotWatch.Text

/-- The sets with one byte to a character. -/
def codePages : List CodePage :=
  CodePage.standardPages ++ CodePage.windowsPages ++ CodePage.terminalPages ++
    CodePage.hostPages ++ CodePage.desktopPages ++ CodePage.otherPages

/-- All sets. -/
def characterSets : List CharacterSet :=
  Units.sets ++ codePages.map CodePage.toSet ++ Written.sets ++ Japanese.sets ++ Chinese.sets ++
    Korean.sets ++ Shifting.sets

/-- The set of characters that is read where the name of the set is not known. -/
def asciiPage : CodePage :=
  ⟨[], 0x80, ""⟩

/-- The symbols of bytes in the set of a name, if they can be read. No bytes can always be read. -/
def readIn (name : List Char) (bytes : List UInt8) : Option (List Symbol) :=
  if bytes.isEmpty then some []
  else
    let name := characterSetName name
    match characterSets.find? fun set => set.hasName name with
    | some set => set.read bytes
    | none => asciiPage.read bytes

end BallotWatch.Text
