import AngularClient.Text.Basic

namespace AngularClient.Toml.Moment

inductive Form
  | bare
  /-- In a string.  There a day may have an hour 24, and the minutes of an offset may go past 59
  while the offset is not longer than a day. -/
  | quoted
  deriving DecidableEq

def fixed? (count : Nat) (s : List Char) : Option (Nat × List Char) :=
  let digits := s.take count
  if digits.length = count && digits.all Char.isDigit then
    some (Text.digitsValue 10 digits, s.drop count)
  else none

def char? (c : Char) : List Char → Option (List Char)
  | d :: rest => if d = c then some rest else none
  | [] => none

def daysInMonth (year month : Nat) : Nat :=
  if month = 2 then
    if year % 4 = 0 && (year % 100 ≠ 0 || year % 400 = 0) then 29 else 28
  else if month = 4 || month = 6 || month = 9 || month = 11 then 30
  else 31

def date? (s : List Char) : Option (List Char × List Char) := do
  let (year, rest) ← fixed? 4 s
  let (month, rest) ← fixed? 2 (← char? '-' rest)
  let (day, rest) ← fixed? 2 (← char? '-' rest)
  if 1 ≤ month && month ≤ 12 && 1 ≤ day && day ≤ daysInMonth year month then
    some (s.take 10, rest)
  else none

def fraction? (s : List Char) : Option (List Char × List Char) :=
  match s with
  | '.' :: rest =>
    let digits := rest.takeWhile Char.isDigit
    let counted := ((digits.take 9).reverse.dropWhile (· == '0')).reverse
    if digits.isEmpty then none
    else some (if counted.isEmpty then [] else '.' :: counted, rest.drop digits.length)
  | _ => some ([], s)

def Form.lastHour : Form → Nat
  | .bare => 23
  | .quoted => 24

def time? (form : Form) (s : List Char) : Option (List Char × List Char) := do
  let (hour, rest) ← fixed? 2 s
  let (minute, rest) ← fixed? 2 (← char? ':' rest)
  let (second, rest) ← fixed? 2 (← char? ':' rest)
  let (fraction, rest) ← fraction? rest
  if hour ≤ form.lastHour && minute ≤ 59 && second ≤ 60 then some (s.take 8 ++ fraction, rest)
  else none

def Form.allowsOffset (hours minutes : Nat) : Form → Bool
  | .bare => hours ≤ 23 && minutes ≤ 59
  | .quoted => hours * 60 + minutes ≤ 24 * 60

def twoDigits (n : Nat) : List Char := [Nat.digitChar (n / 10), Nat.digitChar (n % 10)]

def offset? (form : Form) : List Char → Option (List Char)
  | [] => some []
  | ['Z'] | ['z'] => some ['Z']
  | c :: s => do
    let (hours, rest) ← fixed? 2 s
    let (minutes, rest) ← fixed? 2 (← char? ':' rest)
    let total := hours * 60 + minutes
    if (c = '+' || c = '-') && form.allowsOffset hours minutes && rest.isEmpty then
      some ((if total = 0 then '+' else c) :: twoDigits (total / 60) ++
        ':' :: twoDigits (total % 60))
    else none

def isDate (word : List Char) : Bool := (date? word).any (·.2.isEmpty)

def isTime (word : List Char) : Bool :=
  (time? .bare word).any fun (_, rest) => (offset? .bare rest).isSome

def ofWord? (form : Form) (word : List Char) : Option (List Char) :=
  match date? word with
  | some (date, []) => some date
  | some (date, mark :: rest) => do
    let (time, rest) ← time? form rest
    let offset ← offset? form rest
    if mark = 'T' || mark = 't' || mark = ' ' then some (date ++ 'T' :: time ++ offset) else none
  | none => do
    let (time, rest) ← time? form word
    if rest.isEmpty then some time else none

end AngularClient.Toml.Moment
