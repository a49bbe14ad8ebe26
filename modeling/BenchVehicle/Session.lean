import BenchVehicle.Config.Basic
import BenchVehicle.Config.Overrides
import BenchVehicle.Hardware.Operation

/-!
# Sessions

A bench that is set up from a configuration and then performs the commands of an input, one a
line. A line that is no text ends the session in failure, and so does a command that goes down.
-/

namespace BenchVehicle

/-- A running bench. -/
structure Session where
  /-- The bench. -/
  hardware : Hardware
  /-- Whether answers are printed. -/
  printsAnswers : Bool

namespace Session

/-- Starts a session. `files` are the files of the directory of overriding values, if it is
there. -/
def start (c : Config) (files : Option (List OverrideFile)) (clock : Clock) : Session :=
  let overrides := if c.settings.overrideEnabled then
      (files.map OverrideFile.valuesOfAll).getD [] else []
  let hardware := Hardware.ofDeclarations c.declarations overrides clock
  { hardware := c.subscriptions.foldl (fun hw s => (hw.setRate s.key s.rate).2) hardware
    printsAnswers := c.settings.printsAnswers }

/-- Performs the command of a line, with what is printed, unless it goes down. -/
def perform? (s : Session) (line : String) : Option (String × Session) :=
  match Command.run (words line) s.hardware with
  | .ok report hardware =>
    some (if s.printsAnswers then trimEnd report.text ++ "\n" else "", { s with hardware })
  | .error _ _ => none

/-- Lets time pass, with at most `fuel` steps of the timers. -/
def waitUntil (s : Session) (time : Int64) (fuel : Nat) : Session :=
  let hw := s.hardware.wakeUntil time fuel
  { s with hardware := { hw with clock := hw.clock.waitUntil time } }

/-- The bytes of the first line, and those of the lines after it. There is no line after the last
line feed. -/
def splitLine (bytes : List UInt8) : List UInt8 × List UInt8 :=
  (bytes.takeWhile fun b => b ≠ 10, (bytes.dropWhile fun b => b ≠ 10).drop 1)

/-- The lines of an input. -/
def splitLines (bytes : List UInt8) : List (List UInt8) :=
  match bytes with
  | [] => []
  | b :: rest => (splitLine (b :: rest)).1 :: splitLines (splitLine (b :: rest)).2
termination_by bytes.length
decreasing_by
  simp only [splitLine, List.length_drop, List.length_cons]
  have : ((b :: rest).dropWhile fun b => b ≠ 10).length ≤ rest.length + 1 :=
    (List.dropWhile_sublist _).length_le
  omega

/-- Performs the commands of some lines, with all that is printed. Ends early, in failure, at a line
that is no text or whose command goes down. -/
def performLines (s : Session) : List (List UInt8) → String × Bool
  | [] => ("", true)
  | line :: rest =>
    match (String.fromUTF8? ⟨line.toArray⟩).bind s.perform? with
    | none => ("", false)
    | some (printed, s) =>
      let (more, finished) := s.performLines rest
      (printed ++ more, finished)

/-- Performs the commands of an input. -/
def performAll (s : Session) (input : List UInt8) : String × Bool :=
  s.performLines (splitLines input)

end Session

end BenchVehicle
