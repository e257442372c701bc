import VoiceEdit.Program
import VoiceEdit.Text.Basic

/-!
# The console

What a program on the command line may ask of its surroundings: files, lines of
standard input, output and the time.
-/
namespace VoiceEdit.Console

/-- What is found under the name of a file. -/
inductive FileFound where
  | missing
  | unreadable
  | bytes (contents : ByteArray)

/-- What is found on standard input. -/
inductive LineFound where
  | line (text : Text)
  /-- No line came in time. -/
  | late
  | closed
  | failure (reason : Text)

/-- What may be asked. -/
inductive Request where
  /-- Read a file. -/
  | fetch (name : Text)
  /-- Write a file; the answer is the reason why it cannot be written, if any. -/
  | store (name contents : Text)
  /-- Read a line of standard input, for some seconds at most if a number is given. A line that comes
  later is there for the next request. -/
  | readLine (patience : Option Nat)
  /-- Write to standard output. -/
  | print (text : Text)
  /-- Write a line to standard error. -/
  | tell (line : Text)
  /-- Nanoseconds since some moment. -/
  | clock

/-- How requests are answered. -/
def Request.Result : Request → Type
  | fetch _ => FileFound
  | store _ _ => Option Text
  | readLine _ => LineFound
  | print _ | tell _ => Unit
  | clock => Nat

/-- The console as an interface. -/
abbrev interface : Interface := ⟨Request, Request.Result⟩

end VoiceEdit.Console

namespace VoiceEdit

/-- A program that asks the console. -/
abbrev ConsoleProgram (α : Type) : Type := Program Console.interface α

namespace Console

/-- Ask the console. -/
def ask (q : Request) : ConsoleProgram q.Result := Program.request (I := interface) q

/-- Write a line to standard error. -/
def tell (line : Text) : ConsoleProgram Unit := ask (.tell line)

/-- Write to standard output. -/
def print (text : Text) : ConsoleProgram Unit := ask (.print text)

end Console

end VoiceEdit
