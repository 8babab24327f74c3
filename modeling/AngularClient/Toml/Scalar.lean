import AngularClient.Binary64
import AngularClient.Toml.Basic
import AngularClient.Toml.Moment

namespace AngularClient.Toml.Scalar

def digitGroups? (isDigit : Char → Bool) (s : List Char) : Option (List Char) :=
  let groups := s.splitOn '_'
  if groups.all fun group => !group.isEmpty && group.all isDigit then some groups.flatten else none

def sign : List Char → Bool × List Char
  | '-' :: rest => (true, rest)
  | '+' :: rest => (false, rest)
  | s => (false, s)

def wholeDigits? (s : List Char) : Option (List Char) := do
  let digits ← digitGroups? Char.isDigit s
  if digits.head? = some '0' && 1 < digits.length then none else some digits

def isHexDigit (c : Char) : Bool := (Text.hexValue c).isSome

def isOctalDigit (c : Char) : Bool := '0' ≤ c && c ≤ '7'

def isBinaryDigit (c : Char) : Bool := c == '0' || c == '1'

def unsigned? (base : Nat) (isDigit : Char → Bool) (s : List Char) : Option Int :=
  (digitGroups? isDigit s).map fun digits => (Text.digitsValue base digits : Int)

def anyInteger? : List Char → Option Int
  | '0' :: 'x' :: s => unsigned? 16 isHexDigit s
  | '0' :: 'o' :: s => unsigned? 8 isOctalDigit s
  | '0' :: 'b' :: s => unsigned? 2 isBinaryDigit s
  | s => do
    let (negative, s) := sign s
    let n : Int := Text.digitsValue 10 (← wholeDigits? s)
    return if negative then -n else n

def integer? (s : List Char) : Option Int :=
  (anyInteger? s).filter fun n => -(Nat.pow 2 63 : Nat) ≤ n && n < (Nat.pow 2 63 : Nat)

def overflows (digits : List Char) (exponent : Int) : Bool :=
  let digits := digits.dropWhile (· == '0')
  let size : Int := digits.length + exponent
  if digits.isEmpty || size < -400 then false
  else if 400 < size then true
  else
    let m := Text.digitsValue 10 digits
    if 0 ≤ exponent then (Binary64.ofRatio (m * Nat.pow 10 exponent.toNat) 1).isNone
    else (Binary64.ofRatio m (Nat.pow 10 (-exponent).toNat)).isNone

def exponent? (s : List Char) : Option Int :=
  match s with
  | [] => some 0
  | _ :: s => do
    let (negative, s) := sign s
    let n : Int := Text.digitsValue 10 (← digitGroups? Char.isDigit s)
    return if negative then -n else n

def isExponentMark (c : Char) : Bool := c == 'e' || c == 'E'

/-- Whether a word spells a float.  One too large for a double is none, unless it is negative. -/
def isFloat (word : List Char) : Bool :=
  let (negative, s) := sign word
  if s = "inf".toList || s = "nan".toList then true
  else
    let mantissa := s.takeWhile (! isExponentMark ·)
    let whole := mantissa.takeWhile (· != '.')
    let parts : Option (List Char × List Char × Int) := do
      let wholeDigits ← wholeDigits? whole
      let fraction ← match mantissa.drop whole.length with
        | [] => some []
        | _ :: fraction => digitGroups? Char.isDigit fraction
      return (wholeDigits, fraction, ← exponent? (s.drop mantissa.length))
    match parts with
    | none => false
    | some (whole, fraction, exponent) =>
      whole.length < s.length &&
        (negative || !overflows (whole ++ fraction) (exponent - fraction.length))

def ofWord? (word : List Char) : Option Toml :=
  if word = "true".toList then some (.boolean true)
  else if word = "false".toList then some (.boolean false)
  else ((Moment.ofWord? .bare word).map fun s => .moment (String.ofList s))
    <|> (integer? word).map .integer
    <|> if isFloat word then some (.float (String.ofList word)) else none

end AngularClient.Toml.Scalar
