import VoiceEdit.CommandLine.Execution

/-!
# The program

Answers the console's requests with the files, streams and clock of the system.
-/
namespace VoiceEdit

open Console

/-- What is under the name of a file of the system; where no way leads to a file,
it is missing. -/
def findFile (name : Text) : IO FileFound := do
  let path := String.ofList name
  try
    discard (IO.FS.realPath path)
  catch _ => return .missing
  try
    return .bytes (← IO.FS.readBinFile path)
  catch _ => return .unreadable

/-- Write a file of the system, and tell why if that fails. -/
def storeFile (name contents : Text) : IO (Option Text) := do
  try
    IO.FS.writeFile (String.ofList name) (String.ofList contents)
    return none
  catch e => return some (toString e).toList

/-- The next line of standard input. -/
def nextLine : IO LineFound := do
  try
    let line ← (← IO.getStdin).getLine
    if line.isEmpty then return .closed
    else return .line (line.toList.filter (· != '\n'))
  catch e => return .failure (toString e).toList

/-- A line of standard input that is being read. -/
abbrev Reading : Type := Task (Except IO.Error LineFound)

/-- The line that is being read, or a line that is read from now on. -/
def startReading : Option Reading → IO Reading
  | some reading => return reading
  | none => IO.asTask nextLine .dedicated

/-- What a reading found. -/
def finishReading (reading : Reading) : IO LineFound := do
  IO.ofExcept (← IO.wait reading)

/-- Whether a reading is finished within some hundredths of a second. -/
def finishesWithin (reading : Reading) : Nat → IO Bool
  | 0 => IO.hasFinished reading
  | n + 1 => do
    if ← IO.hasFinished reading then return true
    IO.sleep 10
    finishesWithin reading n

/-- The next line of standard input if it comes in time, and the line that is still being read. -/
def awaitLine (patience : Option Nat) (pending : Option Reading) :
    IO (LineFound × Option Reading) := do
  let reading ← startReading pending
  match patience with
  | some seconds =>
    if ← finishesWithin reading (100 * seconds) then return (← finishReading reading, none)
    else return (.late, some reading)
  | none => return (← finishReading reading, none)

/-- The system's answer to a request, and the line that is still being read. -/
def systemAnswer : (q : Console.Request) → Option Reading →
    IO (Console.interface.Reply q × Option Reading)
  | .fetch name, pending => do return (← findFile name, pending)
  | .store name contents, pending => do return (← storeFile name contents, pending)
  | .readLine patience, pending => awaitLine patience pending
  | .print text, pending => do
    (← IO.getStdout).putStr (String.ofList text)
    (← IO.getStdout).flush
    return ((), pending)
  | .tell line, pending => do
    (← IO.getStderr).putStrLn (String.ofList line)
    return ((), pending)
  | .clock, pending => do return (← IO.monoNanosNow, pending)

end VoiceEdit

/-- Runs the command line. -/
def main (arguments : List String) : IO UInt32 := do
  let program := VoiceEdit.CommandLine.run (arguments.map String.toList)
  return UInt32.ofNat (← program.runIn VoiceEdit.systemAnswer none).1
