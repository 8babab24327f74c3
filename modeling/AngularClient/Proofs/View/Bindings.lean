import AngularClient.Proofs.Text.Literal
import AngularClient.View.OfModels

namespace AngularClient

namespace Text.Literal

theorem exists_of_bind_eq_some {f : List Char → List Char} {value rest : List Char}
    {x : Option (List Char × List Char)}
    (h : (do let (s, rest) ← x; return (f s, rest)) = some (value, rest)) :
    ∃ s, x = some (s, rest) := by
  obtain ⟨⟨s, rest'⟩, hx, heq⟩ := Option.bind_eq_some_iff.1 h
  cases heq
  exact ⟨s, hx⟩

theorem length_readBody_lt {s value rest : List Char} (h : readBody s = some (value, rest)) :
    rest.length < s.length := by
  fun_induction readBody s generalizing value rest with
  | case1 => cases h
  | case2 a b c d s ih =>
    obtain ⟨code, -, h⟩ := Option.bind_eq_some_iff.1 h
    obtain ⟨-, -, h⟩ := Option.bind_eq_some_iff.1 h
    obtain ⟨_, hs⟩ := exists_of_bind_eq_some h
    have hlt := ih hs
    simp only [List.length_cons]
    omega
  | case3 s | case4 s | case5 s | case6 s | case7 s =>
    rename_i ih
    obtain ⟨_, hs⟩ := exists_of_bind_eq_some h
    exact Nat.lt_succ_of_lt (Nat.lt_succ_of_lt (ih hs))
  | case8 => cases h
  | case9 =>
    cases h
    exact Nat.lt_succ_self _
  | case10 => cases h
  | case11 c s _ _ _ _ ih =>
    obtain ⟨_, hs⟩ := exists_of_bind_eq_some h
    exact Nat.lt_succ_of_lt (ih hs)

theorem length_read_lt {s value rest : List Char} (h : read s = some (value, rest)) :
    rest.length < s.length := by
  unfold read at h
  split at h
  · cases h
  · next c s =>
    rw [Option.ite_none_right_eq_some] at h
    exact Nat.lt_succ_of_lt (length_readBody_lt h.2)

end Text.Literal

namespace Text.ObjectLiteral

def isGap (c : Char) : Bool := c == ' ' || c == '\t' || Literal.endsLine c

def skipGap (s : List Char) : List Char := s.dropWhile isGap

def token? (t : Char) (s : List Char) : Option (List Char) :=
  match skipGap s with
  | [] => none
  | c :: rest => if c = t then some rest else none

def pair? (s : List Char) : Option ((String × String) × List Char) := do
  let (name, rest) ← Literal.read (skipGap s)
  let rest ← token? ':' rest
  let (value, rest) ← Literal.read (skipGap rest)
  return ((String.ofList name, String.ofList value), rest)

theorem length_skipGap_le (s : List Char) : (skipGap s).length ≤ s.length :=
  (List.dropWhile_sublist isGap).length_le

theorem length_token?_lt {t : Char} {s rest : List Char} (h : token? t s = some rest) :
    rest.length < s.length := by
  unfold token? at h
  have hle := length_skipGap_le s
  split at h
  · cases h
  · next c rest' hs =>
    rw [Option.ite_none_right_eq_some, Option.some.injEq] at h
    rw [hs, List.length_cons] at hle
    rw [← h.2]
    exact hle

theorem length_pair?_lt {s rest : List Char} {pair : String × String}
    (h : pair? s = some (pair, rest)) : rest.length < s.length := by
  obtain ⟨⟨name, afterName⟩, hname, h⟩ := Option.bind_eq_some_iff.1 h
  obtain ⟨afterColon, hcolon, h⟩ := Option.bind_eq_some_iff.1 h
  obtain ⟨⟨value, afterValue⟩, hvalue, h⟩ := Option.bind_eq_some_iff.1 h
  cases h
  have h₁ := Literal.length_read_lt hname
  have h₂ := length_token?_lt hcolon
  have h₃ := Literal.length_read_lt hvalue
  have h₄ := length_skipGap_le s
  have h₅ := length_skipGap_le afterColon
  omega

def pairs? (s : List Char) : Option (List (String × String) × List Char) :=
  match hpair : pair? s with
  | none => none
  | some (pair, afterPair) =>
    have := length_pair?_lt hpair
    match hcomma : token? ',' afterPair with
    | some next =>
      have := length_token?_lt hcomma
      (pairs? next).map fun (pairs, rest) => (pair :: pairs, rest)
    | none => (token? '\x7d' afterPair).map fun rest => ([pair], rest)
termination_by s.length

def read (s : List Char) : Option (List (String × String) × List Char) := do
  let inner ← token? '\x7b' s
  match token? '\x7d' inner with
  | some rest => return ([], rest)
  | none => pairs? inner

variable {c t : Char} {s rest : List Char}

@[simp] theorem token?_cons_of_gap (hc : isGap c = true) : token? t (c :: s) = token? t s := by
  rw [token?, skipGap, List.dropWhile_cons_of_pos hc]
  rfl

@[simp] theorem token?_cons_self (hc : isGap c = false) : token? c (c :: s) = some s := by
  rw [token?, skipGap, List.dropWhile_cons_of_neg (by simp [hc])]
  exact if_pos rfl

@[simp]
theorem token?_cons_of_ne (hc : isGap c = false) (hne : c ≠ t) : token? t (c :: s) = none := by
  rw [token?, skipGap, List.dropWhile_cons_of_neg (by simp [hc])]
  exact if_neg hne

@[simp] theorem pair?_cons_of_gap (hc : isGap c = true) : pair? (c :: s) = pair? s := by
  rw [pair?, skipGap, List.dropWhile_cons_of_pos hc]
  rfl

theorem pairs?_eq (s : List Char) : pairs? s = (pair? s).bind fun (pair, afterPair) =>
    match token? ',' afterPair with
    | some next => (pairs? next).map fun (pairs, rest) => (pair :: pairs, rest)
    | none => (token? '\x7d' afterPair).map fun rest => ([pair], rest) := by
  rw [pairs?]
  split
  · next hpair => rw [hpair, Option.bind_none]
  · next hpair =>
    simp only [hpair, Option.bind_some]
    split
    · next hcomma => simp only [hcomma]
    · next hcomma => simp only [hcomma]

@[simp] theorem pairs?_cons_of_gap (hc : isGap c = true) : pairs? (c :: s) = pairs? s := by
  rw [pairs?_eq, pair?_cons_of_gap hc, ← pairs?_eq]

theorem token?_of_pairs? {pairs : List (String × String)} (h : pairs? s = some (pairs, rest))
    (hne : '\x27' ≠ t) : token? t s = none := by
  rw [pairs?_eq] at h
  obtain ⟨_, hpair, -⟩ := Option.bind_eq_some_iff.1 h
  obtain ⟨_, hname, -⟩ := Option.bind_eq_some_iff.1 hpair
  unfold Literal.read at hname
  split at hname
  · cases hname
  · next c s' hs =>
    rw [Option.ite_none_right_eq_some] at hname
    simp only [token?, hs]
    exact if_neg (hname.1 ▸ hne)

end Text.ObjectLiteral

namespace Parameter

open Text ObjectLiteral

theorem toList_binding (p : Parameter) : p.binding.toList =
    Literal.write p.name.toList ++ ':' :: ' ' :: Literal.write ("@" ++ p.name).toList := by
  have hcolon : ": ".toList = [':', ' '] := rfl
  simp only [binding, Text.literal, String.toList_append, String.toList_ofList, hcolon,
    List.append_assoc, List.cons_append, List.nil_append]

@[simp] theorem pair?_binding (p : Parameter) (rest : List Char) :
    pair? (p.binding.toList ++ rest) = some ((p.name, "@" ++ p.name), rest) := by
  have hcolon (s : List Char) : token? ':' (':' :: s) = some s := token?_cons_self rfl
  have hname (s rest : List Char) : skipGap (Literal.write s ++ rest) = Literal.write s ++ rest :=
    rfl
  have hvalue (s : List Char) : skipGap (' ' :: (Literal.write s ++ rest)) =
      Literal.write s ++ rest := rfl
  rw [toList_binding, List.append_assoc, List.cons_append, List.cons_append, pair?, hname,
    Literal.read_write]
  simp only [Option.bind_eq_bind, Option.bind_some, hcolon, hvalue, Literal.read_write,
    String.ofList_toList]
  rfl

@[simp] theorem pairs?_bindings (p : Parameter) (params : List Parameter) (rest : List Char) :
    pairs? ((", ".intercalate ((p :: params).map (·.binding))).toList ++ ' ' :: '\x7d' :: rest) =
      some ((p :: params).map fun p => (p.name, "@" ++ p.name), rest) := by
  have hspace : isGap ' ' = true := rfl
  induction params generalizing p with
  | nil =>
    have hcomma : token? ',' (' ' :: '\x7d' :: rest) = none := by
      rw [token?_cons_of_gap hspace]
      exact token?_cons_of_ne rfl (by decide)
    have hbrace : token? '\x7d' (' ' :: '\x7d' :: rest) = some rest := by
      rw [token?_cons_of_gap hspace]
      exact token?_cons_self rfl
    rw [List.map_singleton, String.intercalate_singleton, pairs?_eq, pair?_binding,
      Option.bind_some]
    simp only [hcomma, hbrace]
    rfl
  | cons q params ih =>
    have hcomma : ", ".toList = [',', ' '] := rfl
    have hnext (s : List Char) : token? ',' (',' :: s) = some s := token?_cons_self rfl
    rw [List.map_cons, List.map_cons, String.intercalate_cons_cons, ← List.map_cons,
      String.toList_append, String.toList_append, hcomma, List.append_assoc, List.append_assoc,
      List.cons_append, List.cons_append, List.nil_append, pairs?_eq, pair?_binding,
      Option.bind_some]
    simp only [hnext]
    rw [pairs?_cons_of_gap hspace, ih q]
    rfl

@[simp] theorem read_bindings (params : List Parameter) (rest : List Char) :
    ObjectLiteral.read ((bindings params).toList ++ rest) =
      some (params.map fun p => (p.name, "@" ++ p.name), rest) := by
  have hopen : "\x7b ".toList = ['\x7b', ' '] := rfl
  have hclose : " \x7d".toList = [' ', '\x7d'] := rfl
  have hspace : isGap ' ' = true := rfl
  have hstart (s : List Char) : token? '\x7b' ('\x7b' :: s) = some s := token?_cons_self rfl
  simp only [bindings, String.toList_append, hopen, hclose, List.append_assoc,
    List.cons_append, List.nil_append, ObjectLiteral.read, hstart, Option.bind_eq_bind,
    Option.bind_some, token?_cons_of_gap hspace, pairs?_cons_of_gap hspace]
  cases params with
  | nil =>
    have hend : token? '\x7d' (' ' :: '\x7d' :: rest) = some rest := rfl
    simp only [List.map_nil, String.intercalate_nil, String.toList_empty, List.nil_append, hend]
    rfl
  | cons p params =>
    have hpairs := pairs?_bindings p params rest
    simp only [token?_of_pairs? hpairs (t := '\x7d') (by decide)]
    exact hpairs

end Parameter

open Text in
/-- A literal denotes the string that was quoted and ends where its quote closes, so different
strings have different literals; and the default parameters of an action bind each of its
parameters, in order, to the property of that name. -/
theorem literals_read_back :
    (∀ (s : String) (rest : List Char),
      Literal.read ((Text.literal s).toList ++ rest) = some (s.toList, rest)) ∧
    Function.Injective Text.literal ∧
    (∀ s : String, ∀ c ∈ (Text.literal s).toList,
      c ≠ '\n' ∧ c ≠ '\r' ∧ c ≠ '\u2028' ∧ c ≠ '\u2029') ∧
    ∀ (params : List Parameter) (rest : List Char),
      ObjectLiteral.read ((Parameter.bindings params).toList ++ rest) =
        some (params.map fun p => (p.name, "@" ++ p.name), rest) := by
  refine ⟨?_, ?_, ?_, Parameter.read_bindings⟩
  · intro s rest
    rw [Text.literal, String.toList_ofList, Literal.read_write]
  · intro s t h
    have hvalue := literalValue?_literal s
    rw [h, literalValue?_literal] at hvalue
    exact (Option.some.inj hvalue).symm
  · intro s c hc
    rw [Text.literal, String.toList_ofList] at hc
    have hends := Literal.endsLine_of_mem_write hc
    simpa [Literal.endsLine, and_assoc] using hends

end AngularClient
