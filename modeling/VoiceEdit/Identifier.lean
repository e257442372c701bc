import VoiceEdit.Text.Blank
import VoiceEdit.Text.Casing

/-!
# Identifiers from spoken names

The words of a spoken name joined into one identifier, in the four customary
styles.
-/
namespace VoiceEdit.Identifier

open Text

/-- The words in lower case with underscores between them: `parse_header`. -/
def snake (name : Text) : Text := List.intercalate ['_'] ((words name).map lower)

/-- The words in upper case with underscores between them: `MAX_RETRIES`. -/
def upperSnake (name : Text) : Text := upper (snake name)

/-- A word with its first character in upper case and the others, each taken
alone, in lower case. -/
def capitalize : Text → Text
  | [] => []
  | c :: rest => upperChar c ++ rest.flatMap lowerChar

/-- Capitalized words run together: `HttpClient`. -/
def pascal (name : Text) : Text := (words name).flatMap capitalize

/-- The first word in lower case, then capitalized words: `httpClient`. -/
def camel (name : Text) : Text :=
  match words name with
  | [] => []
  | first :: rest => lower first ++ rest.flatMap capitalize

end VoiceEdit.Identifier
