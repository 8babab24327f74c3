import AngularClient.Text.Basic

namespace AngularClient.Toml

abbrev Scan := StateT (List Char) Option

namespace Scan

def peek : Scan (Option Char) := do return (← get).head?

def next : Scan Char := do
  match ← get with
  | c :: rest => set rest; return c
  | [] => failure

def skip? (word : List Char) : Scan Bool := do
  let s ← get
  if word.isPrefixOf s then
    set (s.drop word.length)
    return true
  else return false

def skip (word : List Char) : Scan Unit := do
  if ← skip? word then return () else failure

def takeWhile (p : Char → Bool) : Scan (List Char) := do
  let s ← get
  set (s.dropWhile p)
  return s.takeWhile p

def repeatUpTo (step : Scan (Option α)) : Nat → Scan (List α)
  | 0 => failure
  | n + 1 => do
    match ← step with
    | none => return []
    | some a => return a :: (← repeatUpTo step n)

def repeated (step : Scan (Option α)) : Scan (List α) := do
  repeatUpTo step ((← get).length + 1)

def isBlank (c : Char) : Bool := c == ' ' || c == '\t'

def blanks : Scan Unit := do let _ ← takeWhile isBlank

def lineEnd? : Scan Bool := do
  if ← skip? ['\n'] then return true else skip? ['\r', '\n']

def isPlain (c : Char) : Bool := c == '\t' || (0x20 ≤ c.toNat && c.toNat ≠ 0x7F)

def comment : Scan Unit := do
  if ← skip? ['#'] then let _ ← takeWhile isPlain

def blankLines : Scan Unit := do
  let _ ← repeated (do
    blanks
    comment
    return if ← lineEnd? then some () else none)

def unicode (count : Nat) : Scan Char := do
  let s ← get
  let digits := s.take count
  let code ← Text.hexNumber digits
  guard (digits.length = count && code.isValidChar)
  set (s.drop count)
  return Char.ofNat code

def escape : Scan Char := do
  match ← next with
  | 'b' => return '\x08'
  | 't' => return '\t'
  | 'n' => return '\n'
  | 'f' => return '\x0c'
  | 'r' => return '\r'
  | '\x22' => return '\x22'
  | '\\' => return '\\'
  | 'u' => unicode 4
  | 'U' => unicode 8
  | _ => failure

/-- The rest of a string on one line, after the quote that opens it.  Only strings in double quotes
have escapes. -/
def lineString (quote : Char) : Scan (List Char) :=
  repeated (do
    let c ← next
    if c = quote then return none
    if quote = '\x22' && c = '\\' then return some (← escape)
    guard (isPlain c)
    return some c)

def foldedLines? : Scan Bool := do
  let s ← get
  blanks
  if ← lineEnd? then
    let _ ← repeated (do
      blanks
      return if ← lineEnd? then some () else none)
    return true
  else
    set s
    return false

/-- The rest of a string over several lines, after the three quotes that open it.  A line end right
after these does not count, nor, after a backslash, one with the blank lines and blanks behind it.
Up to two quotes may stand before the three that close it. -/
def linesString (quote : Char) : Scan (List Char) := do
  let close := List.replicate 3 quote
  let _ ← lineEnd?
  let parts ← repeated (do
    if close.isPrefixOf (← get) then return none
    if ← lineEnd? then return some ['\n']
    let c ← next
    if quote = '\x22' && c = '\\' then
      if ← foldedLines? then return some []
      return some [← escape]
    guard (isPlain c)
    return some [c])
  let quotes ← takeWhile (· == quote)
  guard (quotes.length ≤ 5)
  return parts.flatten ++ quotes.drop 3

end Scan

end AngularClient.Toml
