import LoginVault.Number.Binary64
import LoginVault.Text.Blank
import LoginVault.Text.Digits

/-!
# Number.Reading — numbers from text

Two spellings of numbers are read. A setting may stand between white space, may use the decimal
digits of any script, and may hold an underscore between two digits. A count in an answer of the
store uses plain digits, and may end in a point and zeros.
-/

namespace LoginVault.Number

open LoginVault.Text

/-- The longest run of digits that is read as an integer. -/
def maxDigits : Nat := 4300

/-- Takes a sign off the front; `true` is a minus. -/
def takeSign : List Char → Bool × List Char
  | '-' :: rest => (true, rest)
  | '+' :: rest => (false, rest)
  | s => (false, s)

/-- The values of the characters, if all are plain digits and there is at least one. -/
def plainDigits? (s : List Char) : Option (List Nat) :=
  if s.isEmpty then none else s.mapM asciiDigitValue?

/-- The text without its underscores, if each stands between two digits. -/
def dropUnderscores? (before : Bool) : List Char → Option (List Char)
  | [] => some []
  | c :: rest =>
    if c == '_' then
      match rest with
      | d :: _ => if before && d.isDigit then dropUnderscores? false rest else none
      | [] => none
    else (dropUnderscores? c.isDigit rest).map (c :: ·)

/-- A setting with its white space and underscores removed and its digits made plain. -/
def plainSetting? (s : String) : Option (List Char) :=
  dropUnderscores? false ((trimWhere isWhite s.toList).map plainDigit)

/-- The sign applied to a magnitude. -/
def signed (negative : Bool) (n : Nat) : Int :=
  if negative then -(n : Int) else n

/-- The integer that a setting gives. -/
def integerSetting? (s : String) : Option Int := do
  let (negative, rest) := takeSign (← plainSetting? s)
  let digits ← plainDigits? rest
  if maxDigits < digits.length then none else some (signed negative (ofDigits digits))

/-- The power of ten at the end of a decimal, zero if there is none. -/
def exponentPart? : List Char → Option Int
  | [] => some 0
  | c :: rest =>
    if c == 'e' || c == 'E' then
      let (negative, digits) := takeSign rest
      (plainDigits? digits).map fun ds => signed negative (ofDigits ds)
    else none

/-- The number written by digits, a point, more digits and a power of ten. One of the two runs
of digits may be empty, and the point may then be missing. -/
def decimal? (negative : Bool) (s : List Char) : Option Binary64 := do
  let whole := s.takeWhile Char.isDigit
  let rest := s.dropWhile Char.isDigit
  let (fraction, rest) := match rest with
    | '.' :: rest => (rest.takeWhile Char.isDigit, rest.dropWhile Char.isDigit)
    | rest => ([], rest)
  let digits ← plainDigits? (whole ++ fraction)
  let exponent ← exponentPart? rest
  some (Binary64.ofDecimal negative (ofDigits digits) (exponent - fraction.length))

/-- The real number that a setting gives; infinity and NaN are written as words in any case. -/
def realSetting? (s : String) : Option Binary64 := do
  let (negative, rest) := takeSign (← plainSetting? s)
  let word := String.ofList (rest.map Char.toLower)
  if word == "inf" || word == "infinity" then some (.infinite negative)
  else if word == "nan" then some .nan
  else decimal? negative rest

/-- What a text gives as a count. -/
inductive Count where
  | count (n : Int)
  | tooLong
  | notACount
  deriving DecidableEq, Repr

/-- The part before a point that only zeros follow, or the whole if there is no point. -/
def dropZeroFraction? (s : List Char) : Option (List Char) :=
  match s.dropWhile (· != '.') with
  | [] => some s
  | _ :: zeros =>
    if !zeros.isEmpty && zeros.all (· == '0') then some (s.takeWhile (· != '.')) else none

/-- The count that a text of the store gives. -/
def countOf (s : String) : Count :=
  let (negative, rest) := takeSign (trimWhere isWhite s.toList)
  let digits? := do
    let whole ← dropUnderscores? false (← dropZeroFraction? rest)
    plainDigits? whole
  match digits? with
  | none => .notACount
  | some digits =>
    if maxDigits < digits.length then .tooLong else .count (signed negative (ofDigits digits))

end LoginVault.Number
