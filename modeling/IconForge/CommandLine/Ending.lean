import IconForge.Interaction
import IconForge.CommandLine.Arguments

/-!
# Endings

How a program ends. A command line that asks for help or for the version gets it; one that cannot be
understood is refused. The words of both, the version apart, are those of the argument parser and
left out here.
-/

namespace IconForge.CommandLine

open IconForge.Text

/-- How a program ends: its exit code, and what it has written. -/
structure Ending where
  /-- None if the program breaks off. -/
  exitCode : Option Nat
  stdout : String := ""
  /-- What the program itself says. If it breaks off, the runtime adds its own words. -/
  stderr : String := ""
  deriving DecidableEq, Repr

namespace Ending

/-- An end of the program with something said before. -/
def after (notice : String) (e : Ending) : Ending := { e with stderr := notice ++ e.stderr }

/-- Ends the program: writes what is to be written and gives the exit code. -/
def conduct (e : Ending) : Interaction (Option Nat) := do
  Interaction.print e.stdout
  Interaction.say e.stderr
  return e.exitCode

/-- The end of the program and the disk that it leaves, if it is called on a disk. -/
def onDisk (program : Interaction (Option Nat)) (clock : Clock) (d : Disk) : Ending × Disk :=
  let done := Interaction.onDisk program clock d
  (⟨done.1, done.2.stdout, done.2.stderr⟩, done.2.disk)

end Ending

def versionText : String := "svgicons 0.1.0\n"

/-- The end of a program whose command line asks for nothing that can be done. -/
def UsageError.ending (e : UsageError) : Ending where
  exitCode := some e.exitCode
  stdout := if e = version then versionText else ""

end IconForge.CommandLine
