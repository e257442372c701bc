import VoiceEdit.Text.Basic

/-!
# Values of configuration files

The values of the TOML format, version 1.0. A floating-point number is kept only
as the fact that one was written, and a date or time as its normal form: no
setting has either type.
-/
namespace VoiceEdit.Toml

/-- A value of a configuration file. -/
inductive Value where
  | string (text : Text)
  | integer (n : Int)
  | float
  | boolean (b : Bool)
  /-- A date, a time or both, in normal form. -/
  | dateTime (text : Text)
  | array (items : List Value)
  | table (entries : List (Text × Value))

end VoiceEdit.Toml
