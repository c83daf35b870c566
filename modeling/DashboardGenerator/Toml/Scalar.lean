import DashboardGenerator.Number.Binary64
import DashboardGenerator.Toml.DateTime
import DashboardGenerator.Toml.Quoted

/-!
# Unquoted TOML values

A word that stands as a value is a truth value, a number, or a date and time. A number may be well
spelled and still have no value here: it may not fit into sixty-four bits, exceed the largest
double-precision number, or lack digits. Such a word is accepted as `unfit`, for it is no fault of
the document's form.
-/

namespace DashboardGenerator.Toml

open Number

/-- Why a well-spelled number has no value. -/
inductive NumberFault where
  | tooLarge
  | tooSmall
  | noDigits
  | wrongDigit
  | overflow
deriving Repr, DecidableEq

/-- The sentence that reports the fault. -/
def NumberFault.message : NumberFault → String
  | .tooLarge => "number too large to fit in target type"
  | .tooSmall => "number too small to fit in target type"
  | .noDigits => "cannot parse integer from empty string"
  | .wrongDigit => "invalid digit found in string"
  | .overflow => "floating-point number overflowed"

/-- A value without parts. -/
inductive Scalar where
  | string (value : List Char)
  | boolean (value : Bool)
  | integer (value : Int)
  | float (value : Binary64)
  | dateTime (value : DateTime)
  | unfit (fault : NumberFault)
deriving Repr, DecidableEq

/-- The sign of a number: none is given, or a plus or a minus stands in front. -/
inductive Sign where
  | unsigned
  | plus
  | minus
deriving Repr, DecidableEq

/-- Split off the sign. -/
def Sign.split : List Char → Sign × List Char
  | '+' :: rest => (.plus, rest)
  | '-' :: rest => (.minus, rest)
  | text => (.unsigned, text)

/-- The digit does for a numeral of the base. -/
def isDigitOf (base : Nat) (character : Char) : Bool :=
  match hexValue? character with
  | some digit => digit < base
  | none => false

/-- Every underscore stands between two digits, where `before` tells whether a digit, or what
counts as one, stands in front of the text. -/
def underscoresFit (isDigit : Char → Bool) (before : Bool) : List Char → Bool
  | [] => true
  | '_' :: rest =>
    before && (match rest with
      | next :: _ => isDigit next
      | [] => false) && underscoresFit isDigit false rest
  | character :: rest => underscoresFit isDigit (isDigit character) rest

/-- The text without its underscores. -/
def withoutUnderscores (text : List Char) : List Char :=
  text.filter (· != '_')

/-- The value of digits in a base, if all of them are digits of it. -/
def numeral? (base : Nat) (digits : List Char) : Option Nat :=
  digits.foldlM (fun value digit =>
    match hexValue? digit with
    | some digit => if digit < base then some (base * value + digit) else none
    | none => none) 0

/-- The integer that digits spell in a base, if it fits into sixty-four bits. -/
def integerOf (base : Nat) (negative : Bool) (digits : List Char) : Scalar :=
  if digits.isEmpty then .unfit .noDigits
  else
    match numeral? base digits with
    | none => .unfit .wrongDigit
    | some magnitude =>
      if negative then
        if magnitude ≤ Nat.pow 2 63 then .integer (-magnitude) else .unfit .tooSmall
      else if magnitude < Nat.pow 2 63 then .integer magnitude
      else .unfit .tooLarge

/-- Read an integer of a base other than ten behind its mark; it has no sign. -/
def radixInteger? (base : Nat) (sign : Sign) (digits : List Char) : Option Scalar :=
  if sign = .unsigned ∧ (digits.all fun character => isDigitOf base character || character == '_')
      ∧ underscoresFit (isDigitOf 16) false digits then
    some (integerOf base false (withoutUnderscores digits))
  else none

/-- A digit or an underscore. -/
def isFigure (character : Char) : Bool :=
  character.isDigit || character == '_'

/-- Read a run of digits and underscores that holds a digit. -/
def figures? (text : List Char) : Option (List Char × List Char) :=
  let run := text.takeWhile isFigure
  if run.any Char.isDigit then some (run, text.dropWhile isFigure) else none

/-- The run starts with a zero and holds more than one digit. -/
def hasLeadingZero (run : List Char) : Bool :=
  run.head? == some '0' && 2 ≤ (run.filter Char.isDigit).length

/-- Read the fraction of a number, if there is one: the digits behind a point. -/
def fraction? : List Char → Option (List Char × List Char)
  | '.' :: rest => figures? rest
  | rest => some ([], rest)

/-- Read the exponent of a number, if there is one. -/
def exponent? : List Char → Option (Int × List Char)
  | [] => some (0, [])
  | mark :: rest =>
    if mark = 'e' ∨ mark = 'E' then do
      let (sign, rest) := Sign.split rest
      let (digits, rest) ← figures? rest
      let magnitude : Nat := decimalValue (withoutUnderscores digits)
      some (if sign = .minus then -magnitude else magnitude, rest)
    else some (0, mark :: rest)

/-- Read a number with a fraction or an exponent, whose sign has been read. -/
def float? (sign : Sign) (text : List Char) : Option Scalar := do
  let (whole, rest) ← figures? text
  if hasLeadingZero whole then none
  else do
    let (fraction, rest) ← fraction? rest
    let (exponent, rest) ← exponent? rest
    if rest.isEmpty ∧ underscoresFit Char.isDigit (sign != .unsigned) text then
      let fraction := withoutUnderscores fraction
      let digits := decimalValue (withoutUnderscores whole ++ fraction)
      match Binary64.ofDecimal? (sign == .minus) digits (exponent - fraction.length) with
      | some value => some (.float value)
      | none => some (.unfit .overflow)
    else none

/-- Read an integer of base ten, whose sign has been read. An underscore may stand directly behind
a sign. -/
def decimalInteger? (sign : Sign) (text : List Char) : Option Scalar :=
  if text.head? = some '0' ∧ text ≠ ['0'] then none
  else if underscoresFit (isDigitOf 16) (sign != .unsigned) text then
    some (integerOf 10 (sign == .minus) (withoutUnderscores text))
  else none

/-- Read a word that starts like a number or a date. -/
def numberOrDate? (word : List Char) (sign : Sign) (text : List Char) : Option Scalar :=
  match text with
  | [] => none
  | '0' :: 'x' :: digits => radixInteger? 16 sign digits
  | '0' :: 'o' :: digits => radixInteger? 8 sign digits
  | '0' :: 'b' :: digits => radixInteger? 2 sign digits
  | first :: _ =>
    if isFigure first then
      match text.dropWhile Char.isDigit with
      | [] => decimalInteger? sign text
      | next :: further =>
        if next = '-' ∨ next = ':' then (DateTime.read? word).map .dateTime
        else if (next :: further).any fun character => ['.', 'e', 'E'].contains character then
          float? sign text
        else if next = '_' then decimalInteger? sign text
        else none
    else none

/-- The value that a word spells. -/
def scalar? (word : List Char) : Option Scalar :=
  if word = ['t', 'r', 'u', 'e'] then some (.boolean true)
  else if word = ['f', 'a', 'l', 's', 'e'] then some (.boolean false)
  else
    let (sign, text) := Sign.split word
    if text = ['i', 'n', 'f'] then some (.float (.infinity (sign == .minus)))
    else if text = ['n', 'a', 'n'] then some (.float .nan)
    else numberOrDate? word sign text

end DashboardGenerator.Toml
