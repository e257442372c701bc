import VoiceEdit.Config

/-!
# Arguments of the command line

Options may stand before and after the subcommand; an option with a value takes
it after `=` or from the next argument. Everything after `--` is a value.

A value from the next argument is checked when the next option or value of its
level comes, or when the level ends. So a subcommand, and the help that it may
ask for, comes before the check of the value right in front of it.

* `CommandLine.parse`: what some arguments ask for.
-/
namespace VoiceEdit.CommandLine

open Text

/-- The subcommands; `main` is the level above them. -/
inductive Level where
  | main | listen | replay | explain
  deriving DecidableEq, Repr

/-- What a session edits. -/
structure EditorOptions where
  /-- A file to edit instead of an empty buffer. -/
  file : Option Text
  /-- Whether the text is written back to the file at the end. -/
  saves : Bool
  deriving DecidableEq, Repr

/-- What is to be done. -/
inductive Action where
  | listen (editor : EditorOptions)
  | replay (script : Text) (editor : EditorOptions)
  | explain (words : List Text)
  deriving DecidableEq, Repr

/-- What is to be done, and how. -/
structure Invocation where
  config : Text
  verbose : Bool
  stats : Bool
  action : Action
  deriving DecidableEq, Repr

/-- What help is about. -/
inductive Topic where
  | level (level : Level)
  | help
  deriving DecidableEq, Repr

/-- What some arguments ask for other than an action. -/
inductive Detour where
  | help (topic : Topic)
  | version
  | refusal (reason : Text)
  deriving DecidableEq, Repr

/-! ## Options -/

/-- The options with a value. -/
inductive ValueOption where
  | config | file
  deriving DecidableEq, Repr

/-- The options without a value. -/
inductive FlagOption where
  | verbose | stats | saves | help | version
  deriving DecidableEq, Repr

/-- The arguments of one level read so far. -/
structure Seen where
  config : Option Text
  verbose : Bool
  stats : Bool
  file : Option Text
  saves : Bool
  values : List Text
  /-- An option whose value, the argument after it, is not checked yet. -/
  waiting : Option (ValueOption × Text)

/-- Nothing read. -/
def Seen.nothing : Seen := ⟨none, false, false, none, false, [], none⟩

/-- Whether a level edits text. -/
def Level.edits (l : Level) : Bool := l == .listen || l == .replay

/-- The option with a value that a name stands for at a level. -/
def valueOption? (l : Level) (name : Text) : Option ValueOption :=
  if name == "config".toList then some .config
  else if name == "open".toList && l.edits then some .file
  else none

/-- The option without a value that a name stands for at a level. -/
def flagOption? (l : Level) (name : Text) : Option FlagOption :=
  if name == "verbose".toList then some .verbose
  else if name == "stats".toList then some .stats
  else if name == "save".toList && l.edits then some .saves
  else if name == "help".toList then some .help
  else if name == "version".toList && l == .main then some .version
  else none

/-- The option without a value that a letter stands for at a level. -/
def letterOption? (l : Level) : Char → Option FlagOption
  | 'v' => some .verbose
  | 'h' => some .help
  | 'V' => if l == .main then some .version else none
  | _ => none

/-- Refuse some arguments. -/
def refuse {α : Type} (reason : Text) : Except Detour α := .error (.refusal reason)

/-- Take the value of an option, which may be given once at a level and is the
name of a file. -/
def Seen.addValue (s : Seen) (option : ValueOption) (value : Text) : Except Detour Seen :=
  if value.isEmpty then refuse "an option lacks its value"
  else
    match option with
    | .config =>
      if s.config.isSome then refuse "--config is given twice"
      else .ok { s with config := some value }
    | .file =>
      if s.file.isSome then refuse "--open is given twice" else .ok { s with file := some value }

/-- Take the value that waits, if one does. -/
def Seen.settle (s : Seen) : Except Detour Seen :=
  match s.waiting with
  | none => .ok s
  | some (option, value) => { s with waiting := none }.addValue option value

/-- Take a flag, which may be given once at a level. -/
def Seen.addFlag (s : Seen) (l : Level) : FlagOption → Except Detour Seen
  | .verbose => if s.verbose then refuse "--verbose is given twice" else .ok { s with verbose := true }
  | .stats => if s.stats then refuse "--stats is given twice" else .ok { s with stats := true }
  | .saves => if s.saves then refuse "--save is given twice" else .ok { s with saves := true }
  | .help => .error (.help (.level l))
  | .version => .error .version

/-- Take flags written as letters behind one dash. -/
def Seen.addLetters (s : Seen) (l : Level) (letters : Text) : Except Detour Seen :=
  letters.foldlM (fun s c =>
    match letterOption? l c with
    | some flag => s.addFlag l flag
    | none => refuse "unknown option") s

/-- Take a value that belongs to no option. -/
def Seen.addPositional (s : Seen) (l : Level) (value : Text) : Except Detour Seen :=
  match l with
  | .main | .listen => refuse "unexpected argument"
  | .replay =>
    if s.values.isEmpty && !value.isEmpty then .ok { s with values := [value] }
    else refuse "unexpected argument"
  | .explain => .ok { s with values := s.values ++ [value] }

/-! ## Levels -/

/-- The subcommand of a name. -/
def subcommand? (name : Text) : Option Level :=
  [("listen", Level.listen), ("replay", .replay), ("explain", .explain)].lookup (String.ofList name)

/-- Whether an argument is an option or the end of options. -/
def isDashed : Text → Bool
  | '-' :: _ :: _ => true
  | _ => false

/-- What help about some names is about. -/
def helpTopic : List Text → Except Detour Topic
  | [] => .ok (.level .main)
  | [name] =>
    match subcommand? name with
    | some l => .ok (.level l)
    | none => if name == "help".toList then .ok .help else refuse "unknown subcommand"
  | _ => refuse "unknown subcommand"

/-- A level's own arguments, and the subcommand with its arguments if there is
one. -/
structure LevelRead where
  seen : Seen
  subcommand : Option (Level × List Text)

/-- What an argument is at a level. -/
inductive Argument where
  | endOfOptions
  | long (name : Text) (attached : Option Text)
  | letters (letters : Text)
  | word (word : Text)

/-- What an argument is, by its dashes. -/
def argument : Text → Argument
  | ['-', '-'] => .endOfOptions
  | '-' :: '-' :: option =>
    match option.dropWhile (· != '=') with
    | [] => .long option none
    | _ :: value => .long (option.takeWhile (· != '=')) (some value)
  | '-' :: c :: letters => .letters (c :: letters)
  | word => .word word

/-- Read the arguments of a level; after `--` all of them are values. A value
that waits is taken before anything else is, except that a subcommand and its
help come first. -/
def readLevel (l : Level) (s : Seen) (afterOptions : Bool) : List Text → Except Detour LevelRead
  | [] => .ok ⟨s, none⟩
  | a :: rest =>
    if afterOptions then do readLevel l (← (← s.settle).addPositional l a) true rest
    else
      match argument a with
      | .endOfOptions => readLevel l s true rest
      | .letters letters => do readLevel l (← (← s.settle).addLetters l letters) false rest
      | .word word =>
        if l = .main then
          if word == "help".toList then do .error (.help (← helpTopic rest))
          else
            match subcommand? word with
            | some sub => .ok ⟨s, some (sub, rest)⟩
            | none => refuse "unknown subcommand"
        else do readLevel l (← (← s.settle).addPositional l word) false rest
      | .long name attached =>
        match valueOption? l name, attached with
        | some option, some value => do
          readLevel l (← (← s.settle).addValue option value) false rest
        | some option, none =>
          match rest with
          | value :: rest =>
            if isDashed value then refuse "an option lacks its value"
            else do readLevel l { (← s.settle) with waiting := some (option, value) } false rest
          | [] => refuse "an option lacks its value"
        | none, some _ => refuse "unexpected value"
        | none, none =>
          match flagOption? l name with
          | some flag => do readLevel l (← (← s.settle).addFlag l flag) false rest
          | none => refuse "unknown option"

/-- What a level edits; writing back needs a file. -/
def Seen.editor (s : Seen) : Except Detour EditorOptions :=
  if s.saves && s.file.isNone then refuse "--save needs --open" else .ok ⟨s.file, s.saves⟩

/-- The action of a subcommand. -/
def Seen.action (s : Seen) : Level → Except Detour Action
  | .main | .listen => do return .listen (← s.editor)
  | .replay => do
    let editor ← s.editor
    match s.values with
    | script :: _ => return .replay script editor
    | [] => refuse "a script is needed"
  | .explain => if s.values.isEmpty then refuse "a transcript is needed" else .ok (.explain s.values)

/-- What some arguments ask for. An option given to the subcommand holds before
the same option given in front of it. -/
def parse (arguments : List Text) : Except Detour Invocation := do
  let top ← readLevel .main .nothing false arguments
  let (level, rest) := top.subcommand.getD (.main, [])
  let sub ← (← readLevel level .nothing false rest).seen.settle
  let main ← top.seen.settle
  return {
    config := (sub.config.or main.config).getD Config.defaultFile
    verbose := main.verbose || sub.verbose
    stats := main.stats || sub.stats
    action := ← sub.action level }

end VoiceEdit.CommandLine
