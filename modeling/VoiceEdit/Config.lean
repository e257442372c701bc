import VoiceEdit.Text.Blank
import VoiceEdit.Text.Casing
import VoiceEdit.Text.Utf8
import VoiceEdit.Toml.Document
import VoiceEdit.Vocabulary.English

/-!
# Configuration

A configuration adds phrases to the built-in vocabulary and sets how a session
listens.

* `Config.parse?`: the configuration that a file describes; settings that it does
  not name keep their defaults, and names that are no setting are passed over.
* `Config.vocabulary`: the built-in vocabulary with the configured phrases,
  trimmed and in lower case, laid over it.
-/
namespace VoiceEdit

open Text
open Toml (Value)

/-- Configured phrases and settings. -/
structure Config where
  keywords : Vocabulary
  /-- More whole utterances that are commands. -/
  exactTriggers : PhraseTable Text
  /-- More phrases that start a command with arguments. -/
  parameterizedTriggers : PhraseTable Text
  /-- Whether a stop phrase is also heard where an utterance is close to it. -/
  isTolerant : Bool
  /-- Seconds without an utterance that count as silence; 0 is to wait forever. -/
  silenceSeconds : Nat
  /-- Whether each utterance is repeated as it is heard. -/
  echo : Bool

/-- Why a configuration cannot be used. -/
inductive ConfigError where
  | unreadable (file : Text)
  | malformed (file : Text)
  deriving DecidableEq, Repr

/-- The message of a configuration error. -/
def ConfigError.message : ConfigError → Text
  | unreadable file => "reading config " ++ file
  | malformed file => "parsing config " ++ file

namespace Config

/-- The configuration without a file. -/
def default : Config := ⟨.empty, .empty, .empty, false, 0, true⟩

/-- The file that is read if no other is named. -/
def defaultFile : Text := "handsfree.toml"

/-! ## Reading settings -/

/-- The entry that a date or time is where a table is expected. -/
def dateTimeKey : Text := "$__toml_private_datetime"

/-- A text. -/
def text? : Value → Option Text
  | .string t => some t
  | _ => none

/-- A number that is not negative. -/
def count? : Value → Option Nat
  | .integer n => if 0 ≤ n then some n.toNat else none
  | _ => none

/-- A flag. -/
def flag? : Value → Option Bool
  | .boolean b => some b
  | _ => none

/-- A list of texts. -/
def texts? : Value → Option (List Text)
  | .array items => items.mapM text?
  | _ => none

/-- The entries of a table, each with its value read. -/
def entries? {α : Type} (read : Value → Option α) (entries : List (Text × Value)) :
    Option (PhraseTable α) := do
  return .ofList (← entries.mapM fun e => do return (e.1, ← read e.2))

/-- A table of phrases. -/
def phrases? {α : Type} (read : Value → Option α) : Value → Option (PhraseTable α)
  | .table entries => entries? read entries
  | .dateTime t => entries? read [(dateTimeKey, .string t)]
  | _ => none

/-- The settings of a section: by name, or as a list in the order of the section's
settings. -/
inductive Section where
  | byName (entries : List (Text × Value))
  | inOrder (items : List Value)

/-- The settings of a section. A date or time names no setting. -/
def section? : Value → Option Section
  | .table entries => some (.byName entries)
  | .array items => some (.inOrder items)
  | .dateTime _ => some (.byName [])
  | _ => none

/-- A setting of a section, which is its `index`-th, or its default. -/
def Section.setting? {α : Type} (s : Section) (index : Nat) (name : Text) (fallback : α)
    (read : Value → Option α) : Option α :=
  let given := match s with
    | byName entries => entries.lookup name
    | inOrder items => items[index]?
  match given with
  | some v => read v
  | none => some fallback

/-- The section of keywords. -/
def keywords? (v : Value) : Option Vocabulary := do
  let s ← section? v
  let table (index : Nat) (name : Text) := s.setting? index name .empty (phrases? text?)
  return {
    directions := ← table 0 "directions"
    objectNouns := ← table 1 "object_nouns"
    selectors := ← table 2 "selectors"
    suggestionQualifiers := ← table 3 "suggestion_qualifiers"
    terminalActions := ← table 4 "terminal_actions"
    numberWords := ← s.setting? 5 "number_words" .empty (phrases? count?)
    specialCharacters := ← table 6 "special_characters"
    exactTriggers := ← table 7 "command_triggers"
    parameterizedTriggers := ← table 8 "parameterized_command_triggers"
    fillerWords := ← s.setting? 9 "filler_words" [] texts? }

/-- The section of commands: exact and parameterized triggers. -/
def commands? (v : Value) : Option (PhraseTable Text × PhraseTable Text) := do
  let s ← section? v
  let exact ← s.setting? 0 "exact" .empty (phrases? text?)
  let parameterized ← s.setting? 1 "parameterized" .empty (phrases? text?)
  return (exact, parameterized)

/-- The section of dictation: whether stop phrases are heard with tolerance. -/
def dictation? (v : Value) : Option Bool := do
  (← section? v).setting? 0 "fuzzy_stop" default.isTolerant flag?

/-- The section of listening: the seconds of silence and the echo. -/
def listen? (v : Value) : Option (Nat × Bool) := do
  let s ← section? v
  let seconds ← s.setting? 0 "silence_secs" default.silenceSeconds count?
  let echo ← s.setting? 1 "echo" default.echo flag?
  return (seconds, echo)

/-- The configuration of a file's table. -/
def ofValue? (v : Value) : Option Config := do
  let s ← section? v
  let keywords ← s.setting? 0 "keywords" default.keywords keywords?
  let (exact, parameterized) ←
    s.setting? 1 "commands" (default.exactTriggers, default.parameterizedTriggers) commands?
  let isTolerant ← s.setting? 2 "dictation" default.isTolerant dictation?
  let (seconds, echo) ← s.setting? 3 "listen" (default.silenceSeconds, default.echo) listen?
  return ⟨keywords, exact, parameterized, isTolerant, seconds, echo⟩

/-- The configuration that a file describes. -/
def parse? (file : Text) : Option Config := (Toml.parse? file).bind ofValue?

/-- The configuration of a file with some bytes; without a file, the default. -/
def load (name : Text) : Option ByteArray → Except ConfigError Config
  | none => .ok default
  | some bytes =>
    match ofUtf8? bytes with
    | none => .error (.unreadable name)
    | some file =>
      match parse? file with
      | none => .error (.malformed name)
      | some config => .ok config

/-! ## The configured vocabulary -/

/-- A configured phrase as it is stored. -/
def storedPhrase (phrase : Text) : Text := lower (trim phrase)

/-- A vocabulary with every phrase as it is stored; of two that are stored alike the later holds. -/
def storedPhrases (v : Vocabulary) : Vocabulary where
  directions := v.directions.mapPhrases storedPhrase
  objectNouns := v.objectNouns.mapPhrases storedPhrase
  selectors := v.selectors.mapPhrases storedPhrase
  suggestionQualifiers := v.suggestionQualifiers.mapPhrases storedPhrase
  terminalActions := v.terminalActions.mapPhrases storedPhrase
  numberWords := v.numberWords.mapPhrases storedPhrase
  specialCharacters := v.specialCharacters.mapPhrases storedPhrase
  exactTriggers := v.exactTriggers.mapPhrases storedPhrase
  parameterizedTriggers := v.parameterizedTriggers.mapPhrases storedPhrase
  fillerWords := v.fillerWords

/-- The configured phrases; a command wins over a keyword that is the same phrase. -/
def phrases (c : Config) : Vocabulary :=
  { c.keywords with
    exactTriggers := c.keywords.exactTriggers.overlay c.exactTriggers
    parameterizedTriggers := c.keywords.parameterizedTriggers.overlay c.parameterizedTriggers }

/-- The built-in vocabulary with the configured phrases laid over it, in the order in which they are
configured. -/
def vocabulary (c : Config) : Vocabulary := Vocabulary.english.merge (storedPhrases c.phrases)

/-- The seconds after which silence is noticed, if it is. A session on standard input waits no longer
for a line. -/
def silence? (c : Config) : Option Nat :=
  if 0 < c.silenceSeconds then some c.silenceSeconds else none

end Config

end VoiceEdit
