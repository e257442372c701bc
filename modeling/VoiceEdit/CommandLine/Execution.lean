import VoiceEdit.Buffer.Editor
import VoiceEdit.CommandLine.Console
import VoiceEdit.CommandLine.Help
import VoiceEdit.Explanation
import VoiceEdit.Session.Run

/-!
# Running the command line

* `CommandLine.run`: the program of the console that some arguments stand for,
  ending in an exit code.
-/
namespace VoiceEdit.CommandLine

open Text Console

/-- A program that stops with an error message. -/
abbrev Attempt (α : Type) : Type := ExceptT Text (Program Console.interface) α

/-! ## Files -/

/-- Stop with an error message. -/
def stop {α : Type} (message : Text) : Attempt α := throw message

/-- A file as text, or an error about what was being done. -/
def readText (doing name : Text) : Attempt Text := do
  match ← ask (.fetch name) with
  | .bytes contents =>
    match ofUtf8? contents with
    | some t => return t
    | none => stop (doing ++ " " ++ name)
  | _ => stop (doing ++ " " ++ name)

/-- The configuration in a file. -/
def loadConfig (name : Text) : Attempt Config := do
  let loaded := match ← ask (.fetch name) with
    | .missing => Config.load name none
    | .unreadable => .error (.unreadable name)
    | .bytes contents => Config.load name (some contents)
  match loaded with
  | .ok c => return c
  | .error e => stop e.message

/-- The buffer of a session. -/
def openBuffer : Option Text → Attempt Buffer
  | none => return .ofText []
  | some name => do
    let text ← readText "opening" name
    return { Buffer.ofText text with file := some ⟨name, none, none⟩ }

/-- Whether a request saves a buffer to its file. -/
def saves (q : Editor.Request) (b : Buffer) : Bool :=
  b.focused && (q == .run .saveFile || q == .run .saveFileAs)

/-- A buffer as an editor whose file is on the console's disk: the disk decides
whether a save is refused. -/
def editorOnDisk (q : Editor.Request) (b : Buffer) :
    ConsoleProgram (Editor.interface.Reply q × Buffer) :=
  match b.file with
  | some file =>
    if saves q b then do
      let refusal ← ask (.store file.name b.text)
      return Buffer.editor q { b with file := some { file with refusal } }
    else return Buffer.editor q b
  | none => return Buffer.editor q b

/-! ## Sessions -/

/-- Where utterances come from. -/
inductive Source where
  | script (hearings : List Hearing)
  /-- Standard input, where so many seconds without a line are silence, if a number is given. -/
  | standardInput (silence : Option Nat)

/-- The next result of listening, or nothing if the source is closed. -/
def Source.next : Source → ConsoleProgram (Option Hearing × Source)
  | script [] => return (none, script [])
  | script (h :: rest) => return (some h, script rest)
  | standardInput silence => do
    let heard := match ← ask (.readLine silence) with
      | .line t => some (Script.hearing t)
      | .late => some .silence
      | .closed => none
      | .failure reason => some (.failure ["reading stdin", reason])
    return (heard, standardInput silence)

/-- Tell some reports; what was heard is only repeated on demand. -/
def tellReports (echo : Bool) (reports : List Report) : ConsoleProgram Unit :=
  (Report.lines (reports.filter fun r => echo || !r.isEcho)).forM tell

/-- What a result of listening leads to, with the time that it takes. -/
def hearTimed (l : Session.Listening) (b : Buffer) (h : Hearing) :
    ConsoleProgram (Session.Heard × Buffer) := do
  match h with
  | .utterance text =>
    let start : Nat ← ask .clock
    let (i, b) ← (l.session.respond text).runIn editorOnDisk b
    let finish : Nat ← ask .clock
    return (Session.hearHandled (l.session.settle text (finish - start) i), b)
  | h => (Session.hear l h).runIn editorOnDisk b

/-- More utterances than any session hears. -/
def endless : Nat := Nat.pow 2 64

/-- Listen until the session ends, at most `n` times. -/
def listenOn (echo : Bool) : Nat → Source → Session.Listening → Buffer →
    ConsoleProgram (Ending × Session × Buffer)
  | 0, _, l, b => return (.sourceClosed, l.session, b)
  | n + 1, source, l, b => do
    match ← source.next with
    | (none, _) => return (.sourceClosed, l.session, b)
    | (some h, source) =>
      let (heard, b) ← hearTimed l b h
      tellReports echo heard.reports
      match heard.ending with
      | some ending => return (ending, heard.listening.session, b)
      | none => listenOn echo n source heard.listening b

/-- Run a session on a source, and then save or print its text. -/
def runSession (i : Invocation) (config : Config) (source : Source) (editor : EditorOptions) :
    Attempt Unit := do
  let buffer ← openBuffer editor.file
  let session := Session.new config.vocabulary config.isTolerant
  tellReports config.echo [.listening session.state]
  let (ending, session, buffer) ← listenOn config.echo endless source ⟨session, 0⟩ buffer
  tellReports config.echo [.stopped]
  match editor.file, editor.saves with
  | some name, true =>
    if (← ask (.store name buffer.text)).isSome then stop ("saving " ++ name)
    tell ("Saved " ++ name)
  | some _, false => return
  | none, _ => print buffer.text
  if i.stats then tell ('\n' :: session.stats.summary)
  if ending = .sourceFailed then stop "transcription source kept failing"

/-! ## The program -/

/-- Do what an invocation says. -/
def perform (i : Invocation) : Attempt Unit := do
  let config ← loadConfig i.config
  match i.action with
  | .explain words => print (Explanation.of config.vocabulary (joinWords words)).shown
  | .listen editor =>
    tell "Listening on stdin, one utterance per line. Say \"stop\" or press Ctrl+C to end."
    runSession i config (.standardInput config.silence?) editor
  | .replay script editor =>
    let hearings := Script.hearings (← readText "reading script" script)
    tell ("Replaying " ++ ofNat hearings.length ++ " utterances from " ++ script)
    runSession i config (.script hearings) editor

/-- Follow some arguments; the result is the exit code. -/
def run (arguments : List Text) : ConsoleProgram Nat := do
  match parse arguments with
  | .error (.help topic) => do
    print topic.shown
    return 0
  | .error .version => do
    print versionLine
    return 0
  | .error (.refusal reason) => do
    tell ("error: " ++ reason)
    return 2
  | .ok i =>
    match ← (perform i).run with
    | .ok _ => return 0
    | .error message => do
      tell ("Error: " ++ message)
      return 1

end VoiceEdit.CommandLine
