import VoiceEdit.Toml.Reader
import VoiceEdit.Toml.Value

/-!
# Scalars and keys of configuration files

* `blanks`, `comment`, `newline`: what may stand between values.
* `string`: the four kinds of quoted text.
* `integer`, `float`, `dateTime`: numbers and moments.
* `key`: a dotted row of bare or quoted names.
-/
namespace VoiceEdit.Toml

open Reader

/-! ## Characters -/

/-- A space or a tab. -/
def isSpace (c : Char) : Bool := c == ' ' || c == '\t'

/-- A character that may stand in comments and quoted texts: no control but the
tab. -/
def isPrintable (c : Char) : Bool :=
  c == '\t' || (0x20 ≤ c.toNat && c.toNat ≤ 0x7E) || 0x80 ≤ c.toNat

/-- A digit in a base up to sixteen. -/
def isDigitOf (base : Nat) (c : Char) : Bool :=
  let n :=
    if c.isDigit then c.toNat - '0'.toNat
    else if 'a' ≤ c.toLower && c.toLower ≤ 'f' then c.toLower.toNat - 'a'.toNat + 10
    else 16
  n < base

/-- The value of digits in a base, underscores left out. -/
def digitsIn (base : Nat) (digits : Text) : Nat :=
  digits.foldl (fun n c =>
    if c == '_' then n
    else base * n + (if c.isDigit then c.toNat - '0'.toNat else c.toLower.toNat - 'a'.toNat + 10)) 0

/-! ## Blanks -/

/-- Spaces and tabs. -/
def blanks : Reader Unit := do discard (run isSpace)

/-- The end of a line. -/
def newline : Reader Unit := char '\n' <|> literal ['\r', '\n']

/-- A comment, without the end of its line. -/
def comment : Reader Unit := do
  char '#'
  discard (run isPrintable)

/-- Blanks and a comment up to the end of the line. -/
def lineEnd : Reader Unit := do
  blanks
  discard (optional comment)
  newline <|> atEnd

/-- Blanks, comments and line ends between the items of an array. -/
def gap : Reader Unit := do
  discard (many ((do discard (run1 isSpace)) <|> newline <|> comment))

/-! ## Quoted texts -/

/-- The character with a code of some hexadecimal digits. -/
def codePoint (digits : Nat) : Reader Char := do
  let s ← rest
  let code := s.take digits
  if code.length = digits ∧ code.all (isDigitOf 16) = true ∧ (digitsIn 16 code).isValidChar then
    set (s.drop digits)
    return Char.ofNat (digitsIn 16 code)
  else failure

/-- A character written with a backslash. -/
def escape : Reader Char := do
  char '\\'
  match ← charWhere fun _ => true with
  | 'b' => return '\x08'
  | 't' => return '\t'
  | 'n' => return '\n'
  | 'f' => return '\x0c'
  | 'r' => return '\r'
  | '"' => return '"'
  | '\\' => return '\\'
  | 'u' => codePoint 4
  | 'U' => codePoint 8
  | _ => failure

/-- A text on one line in double quotes. -/
def basicString : Reader Text := do
  char '"'
  let cs ← many (charWhere (fun c => isPrintable c && c != '"' && c != '\\') <|> escape)
  char '"'
  return cs

/-- A text on one line in single quotes, without escapes. -/
def literalString : Reader Text := do
  char '\''
  let t ← run fun c => isPrintable c && c != '\''
  char '\''
  return t

/-- One or two quotes inside a text that is delimited by three, before something
that is not a quote. -/
def innerQuotes (q : Char) : Reader Text := do
  let quotes ← run1 (· == q)
  if quotes.length < 3 then return quotes else failure

/-- The delimiter at the end of a text, with the one or two quotes before it that
belong to the text. -/
def closingQuotes (q : Char) : Reader Text := do
  let quotes ← run (· == q)
  if 3 ≤ quotes.length ∧ quotes.length ≤ 5 then return quotes.drop 3 else failure

/-- A backslash at the end of a line, with the blanks and line ends after it. -/
def lineContinuation : Reader Text := do
  char '\\'
  blanks
  newline
  discard (many ((do discard (run1 isSpace)) <|> newline))
  return []

/-- A text over several lines in delimiters of three quotes; a line end right
after the first delimiter does not belong to it. -/
def longString (q : Char) (part : Reader Text) : Reader Text := do
  literal [q, q, q]
  discard (optional newline)
  let lineFeed : Reader Text := do newline; return ['\n']
  let parts ← many (part <|> lineFeed <|> innerQuotes q)
  return parts.flatten ++ (← closingQuotes q)

/-- A text over several lines in double quotes. -/
def longBasicString : Reader Text :=
  longString '"' <| run1 (fun c => isPrintable c && c != '"' && c != '\\') <|>
    lineContinuation <|> (do return [← escape])

/-- A text over several lines in single quotes, without escapes. -/
def longLiteralString : Reader Text :=
  longString '\'' <| run1 fun c => isPrintable c && c != '\''

/-- A quoted text. -/
def string : Reader Text := longBasicString <|> basicString <|> longLiteralString <|> literalString

/-! ## Numbers -/

/-- Digits in a base with single underscores between them. -/
def digitRow (base : Nat) : Reader Text := do
  return (← separated (run1 (isDigitOf base)) (char '_')).flatten

/-- A sign, if there is one. -/
def sign : Reader (Option Char) := optional (charWhere fun c => c == '+' || c == '-')

/-- A decimal number without leading zeros. -/
def decimalRow : Reader Text := do
  let digits ← digitRow 10
  if digits.length = 1 ∨ digits.head? ≠ some '0' then return digits else failure

/-- Whether an integer fits in 64 bits with a sign. -/
def fits (n : Int) : Bool := -(Int.pow 2 63) ≤ n && n < Int.pow 2 63

/-- A number in base 16, 8 or 2. -/
def basedInteger : Reader Int := do
  char '0'
  let base ← match ← charWhere fun _ => true with
    | 'x' => pure 16
    | 'o' => pure 8
    | 'b' => pure 2
    | _ => failure
  return Int.ofNat (digitsIn base (← digitRow base))

/-- A number in base 10. -/
def decimalInteger : Reader Int := do
  let s ← sign
  let n := Int.ofNat (digitsIn 10 (← decimalRow))
  return if s = some '-' then -n else n

/-- An integer of 64 bits. -/
def integer : Reader Int := do
  let n ← basedInteger <|> decimalInteger
  if fits n then return n else failure

/-- The exponent of a floating-point number. -/
def exponent : Reader Int := do
  discard (charWhere fun c => c == 'e' || c == 'E')
  let s ← sign
  let n := Int.ofNat (digitsIn 10 (← digitRow 10))
  return if s = some '-' then -n else n

/-- Whether `digits` times a power of ten is too large for a floating-point
number of 64 bits: it reaches the middle between the largest one and `2 ^ 1024`. -/
def overflows (digits : Text) (power : Int) : Bool :=
  let n := digitsIn 10 digits
  let magnitude := Int.ofNat (Nat.toDigits 10 n).length + power
  if n = 0 then false
  else if magnitude < 309 then false
  else if 310 < magnitude then true
  else if 0 ≤ power then Nat.pow 2 1024 - Nat.pow 2 970 ≤ n * Nat.pow 10 power.toNat
  else (Nat.pow 2 1024 - Nat.pow 2 970) * Nat.pow 10 (-power).toNat ≤ n

/-- A floating-point number; one that overflows upwards is refused. -/
def float : Reader Unit := do
  let s ← sign
  let special := literal "inf" <|> literal "nan"
  let decimal : Reader Unit := do
    let whole ← decimalRow
    let fraction ← optional (do char '.'; digitRow 10)
    let power ← if fraction.isSome then optional exponent else some <$> exponent
    let places := fraction.getD []
    if s ≠ some '-' ∧ overflows (whole ++ places) (power.getD 0 - places.length) then failure
  special <|> decimal

/-! ## Dates and times -/

/-- A number of exactly so many digits within bounds. -/
def fixedDigits (count low high : Nat) : Reader Nat := do
  let s ← rest
  let digits := s.take count
  let n := digitsIn 10 digits
  if digits.length = count ∧ digits.all Char.isDigit = true ∧ low ≤ n ∧ n ≤ high then
    set (s.drop count)
    return n
  else failure

/-- A number in at least so many digits. -/
def padded (count n : Nat) : Text :=
  let digits := Text.ofNat n
  List.replicate (count - digits.length) '0' ++ digits

/-- The number of days of a month. -/
def daysIn (year month : Nat) : Nat :=
  if month = 2 then
    if year % 4 = 0 ∧ (year % 100 ≠ 0 ∨ year % 400 = 0) then 29 else 28
  else if [4, 6, 9, 11].contains month then 30
  else 31

/-- A day of the calendar. -/
def date : Reader Text := do
  let year ← fixedDigits 4 0 9999
  char '-'
  let month ← fixedDigits 2 1 12
  char '-'
  let day ← fixedDigits 2 1 (daysIn year month)
  return padded 4 year ++ ['-'] ++ padded 2 month ++ ['-'] ++ padded 2 day

/-- A fraction of a second, to nine places at most and without final zeros. -/
def secondFraction : Reader Text := do
  char '.'
  let places := Text.dropEndWhile (· == '0') ((← run1 Char.isDigit).take 9)
  return if places.isEmpty then [] else '.' :: places

/-- A time of day. -/
def timeOfDay : Reader Text := do
  let hour ← fixedDigits 2 0 23
  char ':'
  let minute ← fixedDigits 2 0 59
  char ':'
  let second ← fixedDigits 2 0 60
  let fraction ← optional secondFraction
  return padded 2 hour ++ [':'] ++ padded 2 minute ++ [':'] ++ padded 2 second ++ fraction.getD []

/-- A distance from universal time. -/
def zone : Reader Text := do
  match ← charWhere fun _ => true with
  | 'Z' | 'z' => return ['Z']
  | '+' => offset '+'
  | '-' => offset '-'
  | _ => failure
where
  /-- Hours and minutes after a sign. -/
  offset (s : Char) : Reader Text := do
    let hour ← fixedDigits 2 0 23
    char ':'
    let minute ← fixedDigits 2 0 59
    let s := if hour = 0 ∧ minute = 0 then '+' else s
    return [s] ++ padded 2 hour ++ [':'] ++ padded 2 minute

/-- The time after a date. -/
def timePart : Reader Text := do
  discard (charWhere fun c => c == 'T' || c == 't' || c == ' ')
  let time ← timeOfDay
  return 'T' :: time ++ (← optional zone).getD []

/-- A date, a time of day, or a date with a time. -/
def dateTime : Reader Text :=
  (do let day ← date; return day ++ (← optional timePart).getD []) <|> timeOfDay

/-! ## Keys -/

/-- A name without quotes. -/
def bareKey : Reader Text := run1 fun c => c.isAlphanum || c == '_' || c == '-'

/-- The largest number of names in a dotted key. -/
def maxKeyLength : Nat := 79

/-- Names with dots between them. -/
def key : Reader (List Text) := do
  let name : Reader Text := do
    blanks
    let n ← basicString <|> literalString <|> bareKey
    blanks
    return n
  let names ← separated name (char '.')
  if names.length ≤ maxKeyLength then return names else failure

end VoiceEdit.Toml
