namespace AngularClient

/-- In canonical form the exponent is at least `-1074` and the significand is below `2 ^ 53`, and
at least `2 ^ 52` unless the exponent is `-1074`. -/
structure Binary64 where
  negative : Bool
  significand : Nat
  exponent : Int
  deriving DecidableEq, Repr

namespace Binary64

def zero : Binary64 := ⟨false, 0, -1074⟩

def isZero (x : Binary64) : Bool := x.significand == 0

inductive Half
  | even
  | up
  deriving DecidableEq

def roundDiv (half : Half) (num den : Nat) : Nat :=
  let q := num / den
  let r := num % den
  let stays := match half with
    | .even => q % 2 == 0
    | .up => false
  if 2 * r < den || (2 * r == den && stays) then q else q + 1

def floorLog2 (num den : Nat) : Int :=
  let guess : Int := (num.log2 : Int) - (den.log2 : Int)
  let below :=
    if 0 ≤ guess then num < den * Nat.pow 2 guess.toNat
    else num * Nat.pow 2 (-guess).toNat < den
  if below then guess - 1 else guess

def ofRatio (num den : Nat) : Option Binary64 :=
  if num = 0 then some zero
  else
    let exponent := max (floorLog2 num den - 52) (-1074)
    let m :=
      if 0 ≤ exponent then roundDiv .even num (den * Nat.pow 2 exponent.toNat)
      else roundDiv .even (num * Nat.pow 2 (-exponent).toNat) den
    let (m, exponent) := if m = Nat.pow 2 53 then (Nat.pow 2 52, exponent + 1) else (m, exponent)
    if 971 < exponent then none else some ⟨false, m, exponent⟩

def powerOfTwo (exponent : Int) : Nat × Nat :=
  if 0 ≤ exponent then (Nat.pow 2 exponent.toNat, 1) else (1, Nat.pow 2 (-exponent).toNat)

def ratio (x : Binary64) : Nat × Nat :=
  let (num, den) := powerOfTwo x.exponent
  (x.significand * num, den)

def mul (x y : Binary64) : Option Binary64 :=
  ofRatio (x.ratio.1 * y.ratio.1) (x.ratio.2 * y.ratio.2)

def div (x y : Binary64) : Option Binary64 :=
  ofRatio (x.ratio.1 * y.ratio.2) (x.ratio.2 * y.ratio.1)

def powerOfTen (n : Nat) : Option Binary64 := ofRatio (Nat.pow 10 n) 1

def divPowerOfTen (x : Binary64) (n : Nat) : Option Binary64 :=
  if n ≤ 308 then do x.div (← powerOfTen n)
  else if x.isZero then some x
  else do divPowerOfTen (← x.div (← powerOfTen 308)) (n - 308)
  termination_by n

/-- `significand · 10 ^ exponent`, rounded once when the significand is taken over and once more
for each power of ten applied; `none` where that is out of range. -/
def ofDecimal (significand : Nat) (exponent : Int) : Option Binary64 := do
  let x ← ofRatio significand 1
  if 0 ≤ exponent then
    if exponent ≤ 308 then x.mul (← powerOfTen exponent.toNat)
    else if x.isZero then some x
    else none
  else x.divPowerOfTen (-exponent).toNat

/-- Whether `c · 10 ^ g` lies among the reals that round to `x`.  In quarters of the last place the
interval reaches from two below (one below, at a power of two) to two above the significand, and it
holds its ends iff the significand is even. -/
def roundsTo (x : Binary64) (c : Nat) (g : Int) : Bool :=
  let atPower := x.significand = Nat.pow 2 52 ∧ -1074 < x.exponent
  let low := 4 * x.significand - (if atPower then 1 else 2)
  let high := 4 * x.significand + 2
  let (num, den) := powerOfTwo (x.exponent - 2)
  let value := if 0 ≤ g then c * Nat.pow 10 g.toNat * den else c * den
  let quarter := if 0 ≤ g then num else num * Nat.pow 10 (-g).toNat
  if x.significand % 2 = 0 then low * quarter ≤ value && value ≤ high * quarter
  else low * quarter < value && value < high * quarter

def decimalExponent (num den : Nat) : Int :=
  if den ≤ num then (Nat.toDigits 10 (num / den)).length
  else 1 - (Nat.toDigits 10 ((den - 1) / num)).length

def nearestOfLength (half : Half) (x : Binary64) (n : Nat) : Option (Nat × Int) :=
  let (num, den) := x.ratio
  let g := decimalExponent num den - n
  let (num, den) :=
    if 0 ≤ g then (num, den * Nat.pow 10 g.toNat) else (num * Nat.pow 10 (-g).toNat, den)
  let below := num / den
  let nearest := roundDiv half num den
  let other := if nearest = below then below + 1 else below
  if x.roundsTo nearest g then some (nearest, g)
  else if x.roundsTo other g then some (other, g)
  else none

def stripZeros (c : Nat) (g : Int) : Nat × Int :=
  if h : 0 < c ∧ c % 10 = 0 then stripZeros (c / 10) (g + 1) else (c, g)
  termination_by c
  decreasing_by omega

/-- The fewest digits that read back as the magnitude, nearest to it among those, as `c · 10 ^ g`
without trailing zeros. -/
def shortest (half : Half) (x : Binary64) : Nat × Int :=
  if x.isZero then (0, 0)
  else match (List.range 17).findSome? fun i => x.nearestOfLength half (i + 1) with
    | some (c, g) => stripZeros c g
    | none => (0, 0)

end Binary64

structure DecimalFormat where
  /-- The decimal exponents written without an exponent; `none` means all. -/
  positional : Option (Int × Int)
  wholeFraction : Bool
  half : Binary64.Half

namespace DecimalFormat

/-- JSON: positional for decimal exponents from `-5` to `15`, and always with a fraction there; of
two equally near decimals, the even one. -/
def json : DecimalFormat := ⟨some (-5, 15), true, .even⟩

def plain : DecimalFormat := ⟨none, false, .up⟩

def zeros (n : Nat) : List Char := List.replicate n '0'

def layOut (format : DecimalFormat) (c : Nat) (g : Int) : List Char :=
  let digits := Nat.toDigits 10 c
  let point : Int := digits.length + g
  if 0 ≤ g then
    digits ++ zeros g.toNat ++ if format.wholeFraction then ['.', '0'] else []
  else if 0 < point then digits.take point.toNat ++ '.' :: digits.drop point.toNat
  else '0' :: '.' :: zeros (-point).toNat ++ digits

def scientific (c : Nat) (g : Int) : List Char :=
  let digits := Nat.toDigits 10 c
  let exponent : Int := digits.length + g - 1
  digits.take 1 ++ (if 1 < digits.length then '.' :: digits.drop 1 else []) ++
    'e' :: (if exponent < 0 then '-' else '+') :: Nat.toDigits 10 exponent.natAbs

def write (format : DecimalFormat) (x : Binary64) : List Char :=
  let (c, g) := x.shortest format.half
  let exponent : Int := (Nat.toDigits 10 c).length + g - 1
  let positional := match format.positional with
    | none => true
    | some (low, high) => decide (low ≤ exponent) && decide (exponent ≤ high)
  (if x.negative then ['-'] else []) ++
    if positional then format.layOut c g else scientific c g

end DecimalFormat

end AngularClient
