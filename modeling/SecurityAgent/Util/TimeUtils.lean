import Mathlib.Algebra.GroupWithZero.Nat

/-!
# Durations: `internal/time_utils.c`

A duration is read from and printed as an ISO 8601 text. The reader works on the
text with `sscanf` and `strchr`; each of its blocks handles one designator,
falls through to the next block when the designator is another one, and returns
as soon as its section of the text ends. A block is therefore a function of what
comes after it.

A text is the list of its characters, without the terminating zero.
-/

namespace SecurityAgent

/-! ## The C library -/

/-- `isspace`. -/
def isSpace (c : Char) : Bool :=
  c == ' ' || c == '\t' || c == '\n' || c == '\x0b' || c == '\x0c' || c == '\r'

/-- `strtoul(s, .., 10)` on a sign and its digits: saturating at `ULONG_MAX`, negated by
wrapping. -/
def strtoul (negative : Bool) (digits : List Char) : Nat :=
  let n := Nat.ofDigitChars 10 digits 0
  if n ≥ 2 ^ 64 then 2 ^ 64 - 1
  else if negative then (2 ^ 64 - n) % 2 ^ 64
  else n

/-- `sscanf(s, "%u%c", &temp, &specifier)`, `none` unless it returns 2. The conversion reads an
`unsigned long` and stores its low 32 bits. -/
def scanUnsignedChar (s : List Char) : Option (UInt32 × Char) :=
  let s := s.dropWhile isSpace
  let negative := s.head? == some '-'
  let s := if s.head? == some '-' || s.head? == some '+' then s.tail else s
  let digits := s.takeWhile Char.isDigit
  if digits = [] then none
  else
    match s.dropWhile Char.isDigit with
    | [] => none
    | c :: _ => some (UInt32.ofNat (strtoul negative digits), c)

/-- `strchr(s, c) + 1`, when there is a `c`. -/
def afterChar (c : Char) (s : List Char) : List Char := (s.dropWhile (· != c)).tail

/-- `Utils_AddUnsignedIntsWithOverflowCheck`. `UINT32_MAX - b` does not wrap, so that the test
is one of numbers. -/
def addUnsignedIntsWithOverflowCheck (a b : UInt32) : Option UInt32 :=
  if a.toNat > 4294967295 - b.toNat then none else some (a + b)

namespace TimeUtils

/-- `UINT32_MAX`. -/
def UINT32_MAX : UInt32 := 4294967295

def MILLISECONDS_IN_A_SECOND : UInt32 := 1000
def MILLISECONDS_IN_A_MINUTE : UInt32 := MILLISECONDS_IN_A_SECOND * 60
def MILLISECONDS_IN_AN_HOUR : UInt32 := MILLISECONDS_IN_A_MINUTE * 60
def MILLISECONDS_IN_A_DAY : UInt32 := MILLISECONDS_IN_AN_HOUR * 24
def MILLISECONDS_IN_A_WEEK : UInt32 := MILLISECONDS_IN_A_DAY * 7
def MILLISECONDS_IN_A_MONTH : UInt32 := MILLISECONDS_IN_A_DAY * 30

/-- Does not fit in 32 bits: the value is what is left of it after wrapping. -/
def MILLISECONDS_IN_A_YEAR : UInt32 := MILLISECONDS_IN_A_DAY * 365

def MAX_YEARS_IN_UINT32 : UInt32 := UINT32_MAX / MILLISECONDS_IN_A_YEAR
def MAX_MONTHS_IN_UINT32 : UInt32 := UINT32_MAX / MILLISECONDS_IN_A_MONTH
def MAX_WEEKS_IN_UINT32 : UInt32 := UINT32_MAX / MILLISECONDS_IN_A_WEEK
def MAX_DAYS_IN_UINT32 : UInt32 := UINT32_MAX / MILLISECONDS_IN_A_DAY
def MAX_HOURS_IN_UINT32 : UInt32 := UINT32_MAX / MILLISECONDS_IN_AN_HOUR
def MAX_MINUTES_IN_UINT32 : UInt32 := UINT32_MAX / MILLISECONDS_IN_A_MINUTE
def MAX_SECONDS_IN_UINT32 : UInt32 := UINT32_MAX / MILLISECONDS_IN_A_SECOND

def DURATION_MAX_LENGTH : Nat := 19

/-! ## Reading -/

/-- The reader's variables between two blocks. -/
structure ScanState where
  /-- The text from here on: `dateString` or `timeString`. -/
  text : List Char
  result : UInt32
  temp : UInt32
  specifier : Char

/-- What every block ends with: return the result where the section `ends`, else scan the next
number and designator and go on. -/
def advance (ends : List Char → Bool) (next : ScanState → Option UInt32) (text : List Char)
    (result : UInt32) : Option UInt32 :=
  if ends text then some result
  else
    match scanUnsignedChar text with
    | none => none
    | some (temp, specifier) => next ⟨text, result, temp, specifier⟩

/-- The block of one designator, before `next`. -/
def component (specifier : Char) (max unit : UInt32) (ends : List Char → Bool)
    (next : ScanState → Option UInt32) (s : ScanState) : Option UInt32 :=
  if s.specifier = specifier then
    if s.temp > max then none
    else
      (addUnsignedIntsWithOverflowCheck s.result (s.temp * unit)).bind
        (advance ends next (afterChar specifier s.text))
  else next s

/-- The block of `'Y'`: years are checked and never counted. -/
def yearComponent (ends : List Char → Bool) (next : ScanState → Option UInt32) (s : ScanState) :
    Option UInt32 :=
  if s.specifier = 'Y' then
    if s.temp > MAX_YEARS_IN_UINT32 then none
    -- where the section ends `*resultOut` is not written: it keeps the caller's zero
    else advance ends next (afterChar 'Y' s.text) s.result
  else next s

/-- The block of `'M'` in a date: the months replace the result, they are not added. -/
def monthComponent (ends : List Char → Bool) (next : ScanState → Option UInt32) (s : ScanState) :
    Option UInt32 :=
  if s.specifier = 'M' then
    if s.temp > MAX_MONTHS_IN_UINT32 then none
    else advance ends next (afterChar 'M' s.text) (s.temp * MILLISECONDS_IN_A_MONTH)
  else next s

/-- A date section is over at a `'T'` or at the end of the text. -/
def dateEnds (text : List Char) : Bool := text.head? == some 'T' || text.head? == none

/-- A time section is over at the end of the text. -/
def timeEnds (text : List Char) : Bool := text.head? == none

/-- What follows the last block: `return false`. -/
def fail (_ : ScanState) : Option UInt32 := none

/-- `TimeUtils_ParseDateString`. -/
def parseDateString (dateString : List Char) : Option UInt32 :=
  match scanUnsignedChar dateString with
  | none => none
  | some (temp, specifier) =>
      yearComponent dateEnds
        (monthComponent dateEnds
          (component 'W' MAX_WEEKS_IN_UINT32 MILLISECONDS_IN_A_WEEK dateEnds
            (component 'D' MAX_DAYS_IN_UINT32 MILLISECONDS_IN_A_DAY dateEnds fail)))
        ⟨dateString, 0, temp, specifier⟩

/-- `TimeUtils_ParseTimeString`. -/
def parseTimeString (timeString : List Char) : Option UInt32 :=
  match scanUnsignedChar timeString with
  | none => none
  | some (temp, specifier) =>
      component 'H' MAX_HOURS_IN_UINT32 MILLISECONDS_IN_AN_HOUR timeEnds
        (component 'M' MAX_MINUTES_IN_UINT32 MILLISECONDS_IN_A_MINUTE timeEnds
          (component 'S' MAX_SECONDS_IN_UINT32 MILLISECONDS_IN_A_SECOND timeEnds fail))
        ⟨timeString, 0, temp, specifier⟩

/-- The date of a duration, after its `'P'`. A `'T'` there means that there is none. -/
def dateSection (dateString : List Char) : Option UInt32 :=
  if dateString.head? = some 'T' then some 0 else parseDateString dateString

/-- The time of a duration, after its first `'T'`. -/
def timeSection (duration : List Char) : Option UInt32 :=
  if 'T' ∈ duration then parseTimeString (afterChar 'T' duration) else some 0

/-- `TimeUtils_ISO8601DurationStringToMilliseconds`. -/
def iso8601DurationStringToMilliseconds (duration : List Char) : Option UInt32 :=
  if duration.head? = some 'P' then do
    let dateResult ← dateSection duration.tail
    let timeResult ← timeSection duration
    let result ← addUnsignedIntsWithOverflowCheck dateResult timeResult
    if result = 0 then none else some result
  else none

/-! ## Printing -/

/-- `Utils_ConcatenateToString`: the text written so far and the room left, terminator
included. -/
def concatenateToString (buffer : List Char × Nat) (piece : List Char) :
    Option (List Char × Nat) :=
  if piece.length ≥ buffer.2 then none
  else some (buffer.1 ++ piece, buffer.2 - piece.length)

/-- One `if (n > 0)` of the printer: `"%u"` and the designator. -/
def printComponent (n : UInt32) (specifier : Char) (buffer : List Char × Nat) :
    Option (List Char × Nat) :=
  if n > 0 then concatenateToString buffer (Nat.toDigits 10 n.toNat ++ [specifier])
  else some buffer

/-- `TimeUtils_MillisecondsToISO8601DurationString`, with a buffer of `len` bytes. -/
def millisecondsToISO8601DurationString (milisec : UInt32) (len : Nat) : Option (List Char) :=
  if milisec < MILLISECONDS_IN_A_SECOND then none
  else if len < DURATION_MAX_LENGTH then none
  else do
    let buffer ← concatenateToString ([], len) ['P']
    let months := milisec / MILLISECONDS_IN_A_MONTH
    let milisec := milisec % MILLISECONDS_IN_A_MONTH
    let buffer ← printComponent months 'M' buffer
    let weeks := milisec / MILLISECONDS_IN_A_WEEK
    let milisec := milisec % MILLISECONDS_IN_A_WEEK
    let buffer ← printComponent weeks 'W' buffer
    let days := milisec / MILLISECONDS_IN_A_DAY
    let milisec := milisec % MILLISECONDS_IN_A_DAY
    let buffer ← printComponent days 'D' buffer
    let hours := milisec / MILLISECONDS_IN_AN_HOUR
    let milisec := milisec % MILLISECONDS_IN_AN_HOUR
    let minutes := milisec / MILLISECONDS_IN_A_MINUTE
    let milisec := milisec % MILLISECONDS_IN_A_MINUTE
    let seconds := milisec / MILLISECONDS_IN_A_SECOND
    if hours > 0 ∨ minutes > 0 ∨ seconds > 0 then
      -- `sprintf`: the room left is not updated for the `'T'`
      let buffer := (buffer.1 ++ ['T'], buffer.2)
      let buffer ← printComponent hours 'H' buffer
      let buffer ← printComponent minutes 'M' buffer
      let buffer ← printComponent seconds 'S' buffer
      return buffer.1
    else return buffer.1

end TimeUtils

end SecurityAgent
