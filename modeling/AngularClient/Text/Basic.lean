namespace AngularClient.Text

def isBlank (c : Char) : Bool :=
  let n := c.toNat
  (0x09 ≤ n && n ≤ 0x0D) || n == 0x20 || n == 0x85 || n == 0xA0 || n == 0x1680 ||
    (0x2000 ≤ n && n ≤ 0x200A) || n == 0x2028 || n == 0x2029 || n == 0x202F || n == 0x205F ||
    n == 0x3000

def trimEnd (s : List Char) : List Char := (s.reverse.dropWhile isBlank).reverse

def words (s : List Char) : List (List Char) := (s.splitOnP isBlank).filter (! ·.isEmpty)

def singleLine (s : String) : String :=
  String.ofList ([' '].intercalate (words s.toList))

def dropReturn (line : List Char) : List Char :=
  if line.getLast? = some '\r' then line.dropLast else line

/-- The lines of a text, without their ends.  A line ends with a line feed that one carriage return
may precede; what follows the last line feed is a line unless it is empty. -/
def lines (s : List Char) : List (List Char) :=
  match (s.splitOn '\n').reverse with
  | [] => []
  | last :: ended =>
    let ended := ended.reverse.map dropReturn
    if last.isEmpty then ended else ended ++ [last]

def unlines (ls : List (List Char)) : List Char := ls.flatMap (· ++ ['\n'])

def hexValue (c : Char) : Option Nat :=
  if '0' ≤ c ∧ c ≤ '9' then some (c.toNat - 48)
  else if 'a' ≤ c ∧ c ≤ 'f' then some (c.toNat - 87)
  else if 'A' ≤ c ∧ c ≤ 'F' then some (c.toNat - 55)
  else none

def hexNumber (digits : List Char) : Option Nat :=
  digits.foldlM (fun n c => return n * 16 + (← hexValue c)) 0

def digitsValue (base : Nat) (digits : List Char) : Nat :=
  digits.foldl (fun n c => n * base + (hexValue c).getD 0) 0

def hexDigits (n : Nat) : List Char := Nat.toDigits 16 n

variable {α : Type u} [BEq α]

/-- Cuts a text where a word first stands in it: what is before the word, and the rest with it. -/
def cut? (word : List α) : List α → Option (List α × List α)
  | [] => if word.isEmpty then some ([], []) else none
  | c :: rest =>
    if word.isPrefixOf (c :: rest) then some ([], c :: rest)
    else (cut? word rest).map fun (before, after) => (c :: before, after)

def occursIn (word text : List α) : Bool := (cut? word text).isSome

def replaceFirst (word replacement text : List α) : List α :=
  match cut? word text with
  | some (before, after) => before ++ replacement ++ after.drop word.length
  | none => text

theorem append_of_cut?_eq_some {word text before after : List α}
    (h : cut? word text = some (before, after)) : text = before ++ after := by
  induction text generalizing before with
  | nil => grind [cut?]
  | cons c rest ih =>
    simp only [cut?] at h
    split at h
    · simp_all
    · obtain ⟨⟨b, a⟩, hcut, heq⟩ := Option.map_eq_some_iff.1 h
      simp only [Prod.mk.injEq] at heq
      obtain ⟨rfl, rfl⟩ := heq
      simp [ih hcut]

theorem isPrefixOf_of_cut?_eq_some {word text before after : List α}
    (h : cut? word text = some (before, after)) : word.isPrefixOf after = true := by
  induction text generalizing before with
  | nil => grind [cut?, List.isPrefixOf]
  | cons c rest ih =>
    simp only [cut?] at h
    split at h
    · next hp => simp only [Option.some.injEq, Prod.mk.injEq] at h; rw [← h.2]; exact hp
    · obtain ⟨⟨b, a⟩, hcut, heq⟩ := Option.map_eq_some_iff.1 h
      simp only [Prod.mk.injEq] at heq
      obtain ⟨rfl, rfl⟩ := heq
      exact ih hcut

end AngularClient.Text
