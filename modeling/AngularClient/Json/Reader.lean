import AngularClient.Json.Document
import AngularClient.Text.Basic

/-! Reading JSON text.  A reader takes one thing off the front of a text and returns what is left,
which is shorter. -/

namespace AngularClient.Document

abbrev Rest (s : List Char) := { r : List Char // r.length < s.length }

def isSpace (c : Char) : Bool := c == ' ' || c == '\n' || c == '\t' || c == '\r'

def skipSpace (s : List Char) : List Char := s.dropWhile isSpace

theorem length_skipSpace_le (s : List Char) : (skipSpace s).length ≤ s.length :=
  (List.dropWhile_sublist isSpace).length_le

/-! ## Numbers -/

/-- Extends a significand by digits for as long as it stays below `2 ^ 64`, and counts the digits
taken. -/
def absorb (significand : Nat) : List Char → Nat × Nat
  | [] => (significand, 0)
  | c :: rest =>
    let next := significand * 10 + (c.toNat - 48)
    if next < Nat.pow 2 64 then
      let (m, count) := absorb next rest
      (m, count + 1)
    else (significand, 0)

def integerValue (negative : Bool) (whole : List Char) : Option Number := do
  let (m, count) := absorb 0 whole
  if count = whole.length ∧ !negative then return .int m
  else if count = whole.length ∧ 0 < m ∧ m ≤ Nat.pow 2 63 then return .int (-m)
  else
    let x ← Binary64.ofDecimal m (whole.length - count : Nat)
    return .double { x with negative := negative }

/-- A number with a fraction or an exponent.  The significand keeps the leading digits that fit in
64 bits; an exponent beyond 32 bits gives zero or nothing. -/
def doubleValue (negative : Bool) (whole fraction : List Char) (exponent : Int) :
    Option Number := do
  let (m, count) := absorb 0 whole
  let (m, places) := absorb m fraction
  let x ←
    if exponent.natAbs < Nat.pow 2 31 then
      Binary64.ofDecimal m (((whole.length - count : Nat) : Int) - places + exponent)
    else if 0 < exponent ∧ m ≠ 0 then none
    else some .zero
  return .double { x with negative := negative }

def decimalValue (digits : List Char) : Nat := digits.foldl (fun n c => n * 10 + (c.toNat - 48)) 0

def readSign : List Char → Bool × List Char
  | '-' :: rest => (true, rest)
  | '+' :: rest => (false, rest)
  | s => (false, s)

def readExponent : List Char → Option (Option Int × List Char)
  | [] => some (none, [])
  | c :: rest =>
    if c = 'e' ∨ c = 'E' then
      let (negative, rest) := readSign rest
      let digits := rest.takeWhile Char.isDigit
      let n : Int := decimalValue digits
      if digits.isEmpty then none
      else some (some (if negative then -n else n), rest.dropWhile Char.isDigit)
    else some (none, c :: rest)

def readFraction (s : List Char) : Option (Option (List Char) × List Char) :=
  match s with
  | '.' :: rest =>
    let digits := rest.takeWhile Char.isDigit
    if digits.isEmpty then none else some (some digits, rest.dropWhile Char.isDigit)
  | _ => some (none, s)

def readNumber (negative : Bool) (s : List Char) : Option (Document × List Char) := do
  let whole := s.takeWhile Char.isDigit
  if whole.isEmpty ∨ (whole.head? = some '0' ∧ 1 < whole.length) then none
  let (fraction, rest) ← readFraction (s.dropWhile Char.isDigit)
  let (exponent, rest) ← readExponent rest
  let value := match fraction, exponent with
    | none, none => integerValue negative whole
    | _, _ => doubleValue negative whole (fraction.getD []) (exponent.getD 0)
  return ((value.map .number).getD .unreadable, rest)

theorem length_skipDigits_le (s : List Char) : (s.dropWhile Char.isDigit).length ≤ s.length :=
  (List.dropWhile_sublist _).length_le

theorem length_readFraction {s r : List Char} {f : Option (List Char)}
    (h : readFraction s = some (f, r)) : r.length ≤ s.length := by
  unfold readFraction at h
  split at h
  · next rest =>
    have := length_skipDigits_le rest
    grind
  · grind

theorem length_readSign_le (s : List Char) : (readSign s).2.length ≤ s.length := by
  unfold readSign
  split <;> simp

theorem length_readExponent {s r : List Char} {e : Option Int}
    (h : readExponent s = some (e, r)) : r.length ≤ s.length := by
  unfold readExponent at h
  split at h
  · grind
  · next c rest =>
    have := length_readSign_le rest
    have := length_skipDigits_le (readSign rest).2
    grind

theorem length_readNumber {negative : Bool} {s r : List Char} {d : Document}
    (h : readNumber negative s = some (d, r)) : r.length < s.length := by
  unfold readNumber at h
  dsimp only at h
  split at h
  · contradiction
  · next hwhole =>
    simp only [Option.bind_eq_bind, Option.bind_eq_some_iff, Option.pure_def, Option.some.injEq,
      Prod.mk.injEq] at h
    obtain ⟨⟨f, t⟩, hf, ⟨e, u⟩, he, -, rfl⟩ := h
    have hlt : (s.dropWhile Char.isDigit).length < s.length := by
      have := congrArg List.length (List.takeWhile_append_dropWhile (p := Char.isDigit) (l := s))
      simp only [List.length_append] at this
      have : (s.takeWhile Char.isDigit).length ≠ 0 := by
        intro h0
        exact hwhole (Or.inl (by simp [List.length_eq_zero_iff.1 h0]))
      omega
    exact Nat.lt_of_le_of_lt
      (Nat.le_trans (length_readExponent he) (length_readFraction hf)) hlt

/-! ## Strings -/

def simpleEscape : Char → Option Char
  | '\x22' => some '\x22'
  | '\\' => some '\\'
  | '/' => some '/'
  | 'b' => some '\x08'
  | 'f' => some '\x0c'
  | 'n' => some '\n'
  | 'r' => some '\r'
  | 't' => some '\t'
  | _ => none

def readString : List Char → Option (List (Char ⊕ Nat) × List Char)
  | [] => none
  | '\\' :: 'u' :: a :: b :: c :: d :: rest => do
    let unit ← Text.hexNumber [a, b, c, d]
    let (units, rest) ← readString rest
    return (.inr unit :: units, rest)
  | '\\' :: c :: rest => do
    let e ← simpleEscape c
    let (units, rest) ← readString rest
    return (.inl e :: units, rest)
  | c :: rest =>
    if c = '\x22' then some ([], rest)
    else if c = '\\' ∨ c.toNat < 0x20 then none
    else do
      let (units, rest) ← readString rest
      return (.inl c :: units, rest)

def joinUnits : List (Char ⊕ Nat) → Option (List Char)
  | [] => some []
  | .inl c :: rest => return c :: (← joinUnits rest)
  | .inr high :: .inr low :: rest =>
    if 0xD800 ≤ high ∧ high < 0xDC00 ∧ 0xDC00 ≤ low ∧ low < 0xE000 then
      return Char.ofNat (0x10000 + (high - 0xD800) * 0x400 + (low - 0xDC00)) :: (← joinUnits rest)
    else if 0xD800 ≤ high ∧ high < 0xE000 then none
    else return Char.ofNat high :: (← joinUnits (.inr low :: rest))
  | .inr unit :: rest =>
    if 0xD800 ≤ unit ∧ unit < 0xE000 then none
    else return Char.ofNat unit :: (← joinUnits rest)

theorem length_readString {s r : List Char} {units : List (Char ⊕ Nat)}
    (h : readString s = some (units, r)) : r.length < s.length := by
  fun_induction readString s generalizing units r with
  | case1 => simp at h
  | case2 a b c d rest ih =>
    simp only [Option.bind_eq_bind, Option.bind_eq_some_iff, Option.pure_def, Option.some.injEq,
      Prod.mk.injEq] at h
    obtain ⟨_, -, ⟨_, t⟩, ht, -, rfl⟩ := h
    have := ih ht
    simp only [List.length_cons]; omega
  | case3 c rest _ ih =>
    simp only [Option.bind_eq_bind, Option.bind_eq_some_iff, Option.pure_def, Option.some.injEq,
      Prod.mk.injEq] at h
    obtain ⟨_, -, ⟨_, t⟩, ht, -, rfl⟩ := h
    have := ih ht
    simp only [List.length_cons]; omega
  | case4 => grind
  | case5 => contradiction
  | case6 c rest _ _ _ _ ih =>
    simp only [Option.bind_eq_bind, Option.bind_eq_some_iff, Option.pure_def, Option.some.injEq,
      Prod.mk.injEq] at h
    obtain ⟨⟨_, t⟩, ht, -, rfl⟩ := h
    have := ih ht
    simp only [List.length_cons]; omega

/-! ## Values -/

mutual

def readValue (depth : Nat) (s : List Char) : Option (Document × Rest s) :=
  match s with
  | [] => none
  | 'n' :: rest => match rest with
    | 'u' :: 'l' :: 'l' :: r => some (.null, ⟨r, by grind⟩)
    | _ => none
  | 't' :: rest => match rest with
    | 'r' :: 'u' :: 'e' :: r => some (.bool true, ⟨r, by grind⟩)
    | _ => none
  | 'f' :: rest => match rest with
    | 'a' :: 'l' :: 's' :: 'e' :: r => some (.bool false, ⟨r, by grind⟩)
    | _ => none
  | '\x22' :: rest =>
    match h : readString rest with
    | none => none
    | some (units, r) =>
      let value := match joinUnits units with
        | some cs => .string (String.ofList cs)
        | none => .unreadable
      some (value, ⟨r, by grind [length_readString h]⟩)
  | '[' :: rest =>
    match readItems (depth + 1) rest with
    | none => none
    | some (items, ⟨r, hr⟩) =>
      some (if maxDepth ≤ depth then .unreadable else .array items, ⟨r, by grind⟩)
  | '\x7b' :: rest =>
    match readMembers (depth + 1) rest with
    | none => none
    | some (members, ⟨r, hr⟩) =>
      some (if maxDepth ≤ depth then .unreadable else .object members, ⟨r, by grind⟩)
  | '-' :: rest =>
    match h : readNumber true rest with
    | none => none
    | some (d, r) => some (d, ⟨r, by grind [length_readNumber h]⟩)
  | c :: rest =>
    match h : readNumber false (c :: rest) with
    | none => none
    | some (d, r) => some (d, ⟨r, length_readNumber h⟩)
  termination_by 3 * s.length

def readItems (depth : Nat) (s : List Char) : Option (List Document × Rest s) :=
  match h : skipSpace s with
  | ']' :: r => some ([], ⟨r, by grind [length_skipSpace_le s]⟩)
  | _ => readElements depth s
  termination_by 3 * s.length + 2

def readElements (depth : Nat) (s : List Char) : Option (List Document × Rest s) :=
  have hs := length_skipSpace_le s
  match readValue depth (skipSpace s) with
  | none => none
  | some (d, ⟨r, hr⟩) =>
    have hr' := length_skipSpace_le r
    match h : skipSpace r with
    | ']' :: t => some ([d], ⟨t, by grind⟩)
    | ',' :: t =>
      have : t.length < s.length := by grind
      match readElements depth t with
      | none => none
      | some (ds, ⟨u, hu⟩) => some (d :: ds, ⟨u, by omega⟩)
    | _ => none
  termination_by 3 * s.length + 1

def readMembers (depth : Nat) (s : List Char) :
    Option (List (Option String × Document) × Rest s) :=
  match h : skipSpace s with
  | '\x7d' :: r => some ([], ⟨r, by grind [length_skipSpace_le s]⟩)
  | _ => readEntries depth s
  termination_by 3 * s.length + 2

def readEntries (depth : Nat) (s : List Char) :
    Option (List (Option String × Document) × Rest s) :=
  have hs := length_skipSpace_le s
  match hq : skipSpace s with
  | '\x22' :: body =>
    match hk : readString body with
    | none => none
    | some (units, r) =>
      have hk := length_readString hk
      have hr := length_skipSpace_le r
      match hc : skipSpace r with
      | ':' :: v =>
        have hv := length_skipSpace_le v
        have hvs : v.length + 2 < s.length := by grind
        match readValue depth (skipSpace v) with
        | none => none
        | some (d, ⟨t, ht⟩) =>
          have ht' := length_skipSpace_le t
          let key := (joinUnits units).map String.ofList
          match h : skipSpace t with
          | '\x7d' :: u => some ([(key, d)], ⟨u, by grind⟩)
          | ',' :: u =>
            have : u.length < s.length := by grind
            match readEntries depth u with
            | none => none
            | some (rest, ⟨w, hw⟩) => some ((key, d) :: rest, ⟨w, by omega⟩)
          | _ => none
      | _ => none
  | _ => none
  termination_by 3 * s.length + 1

end

def ofText? (text : String) : Option Document :=
  match readValue 0 (skipSpace text.toList) with
  | some (d, r) => if (skipSpace r.1).isEmpty then some d else none
  | none => none

end AngularClient.Document
