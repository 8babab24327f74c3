import AngularClient.Proofs.Text.Search
import AngularClient.Relation.Scopes
import Mathlib.Data.List.TakeWhile

namespace AngularClient

namespace RelationMethod

theorem parse?_eq_none_of_head {name : String} (h : name.toList.head? ≠ some 'p') :
    parse? name = none := by
  have hp : "prototype.__".toList.isPrefixOf name.toList = false := by
    rw [show "prototype.__".toList = 'p' :: "rototype.__".toList by decide]
    cases hn : name.toList with
    | nil => rfl
    | cons c rest =>
      have hc : ('p' == c) = false := beq_false_of_ne fun hc => h (by rw [hn, hc]; rfl)
      simp only [List.isPrefixOf, hc, Bool.false_and]
  simp only [parse?, hp, Bool.false_eq_true, if_false]

@[simp] theorem head?_reverseName (rel : RelationMethod) (declared : String) :
    (rel.reverseName declared).toList.head? = some ':' := by
  simp [reverseName]

end RelationMethod

@[simp] theorem head?_toCreateMany {s : String} (h : s.toList.head? = some ':') :
    (toCreateMany s).toList.head? = some ':' := by
  obtain ⟨rest, hs⟩ := List.head?_eq_some_iff.1 h
  have hc : "create".toList = 'c' :: "reate".toList := by decide
  rw [toCreateMany, String.toList_ofList, hs, hc, Text.replaceFirst_cons_of_ne (by decide)]
  rfl

theorem mentionsCreate_iff {s : String} :
    mentionsCreate s = true ↔ "create".toList <:+: s.toList := Text.occursIn_iff

namespace RelationMethod

structure Nameable (r : RelationMethod) : Prop where
  op_ne_empty : r.op ≠ ""
  op_plain : '_' ∉ r.op.toList
  scope_ne_empty : r.scope ≠ ""
  scope_unbroken : '\n' ∉ r.scope.toList

variable {name : String} {r r' : RelationMethod}

theorem toList_name (r : RelationMethod) :
    r.name.toList = "prototype.__".toList ++ (r.op.toList ++ '_' :: '_' :: r.scope.toList) := by
  simp [RelationMethod.name]

theorem cut_underscore {op : List Char} (h : '_' ∉ op) (rest : List Char) :
    (op ++ '_' :: rest).takeWhile (· != '_') = op ∧
      (op ++ '_' :: rest).dropWhile (· != '_') = '_' :: rest := by
  have hop : ∀ c ∈ op, (c != '_') = true := by
    intro c hc
    rw [bne_iff_ne]
    rintro rfl
    exact h hc
  rw [List.takeWhile_append_of_pos hop, List.dropWhile_append_of_pos hop]
  simp

@[simp] theorem parse?_name (h : r.Nameable) : parse? r.name = some r := by
  obtain ⟨htake, hdrop⟩ := cut_underscore h.op_plain ('_' :: r.scope.toList)
  have hstart : "prototype.__".toList.isPrefixOf r.name.toList = true := by
    rw [List.isPrefixOf_iff_prefix, toList_name]
    exact List.prefix_append _ _
  have hrest : r.name.toList.drop "prototype.__".toList.length =
      r.op.toList ++ '_' :: '_' :: r.scope.toList := by
    rw [toList_name, List.drop_left]
  have hparts : (r.op.toList.isEmpty || r.scope.toList.isEmpty || r.scope.toList.contains '\n') =
      false := by
    simp [h.op_ne_empty, h.scope_ne_empty, h.scope_unbroken]
  simp only [parse?, hstart, if_true, hrest, htake, hdrop, hparts, Bool.false_eq_true, if_false,
    String.ofList_toList]

theorem of_parse? (h : parse? name = some r) : name = r.name ∧ r.Nameable := by
  simp only [parse?] at h
  split at h
  · next hstart =>
    obtain ⟨rest, hrest⟩ := List.isPrefixOf_iff_prefix.1 hstart
    rw [← hrest, List.drop_left] at h
    split at h
    · next scope hscope =>
      split at h
      · cases h
      · next hparts =>
        cases h
        simp only [Bool.or_eq_true, List.isEmpty_iff, List.contains_eq_mem, decide_eq_true_eq,
          not_or] at hparts
        obtain ⟨⟨hop, hscope'⟩, hline⟩ := hparts
        have hsplit : rest.takeWhile (· != '_') ++ '_' :: '_' :: scope = rest := by
          rw [← hscope, List.takeWhile_append_dropWhile]
        refine ⟨?_, ?_, ?_, ?_, ?_⟩
        · rw [← String.toList_inj, ← hrest]
          simp [RelationMethod.name, hsplit]
        · simpa using hop
        · rw [String.toList_ofList]
          intro hmem
          have hplain := List.mem_takeWhile_imp hmem
          simp at hplain
        · simpa using hscope'
        · rwa [String.toList_ofList]
    · cases h
  · cases h

theorem parse?_eq_some_iff : parse? name = some r ↔ name = r.name ∧ r.Nameable := by
  constructor
  · exact of_parse?
  · rintro ⟨rfl, h⟩
    exact parse?_name h

theorem name_of_parse? (h : parse? name = some r) : name = r.name := (of_parse? h).1

theorem name_inj (h : r.Nameable) (h' : r'.Nameable) (heq : r.name = r'.name) : r = r' := by
  have hparsed := parse?_name h
  rw [heq, parse?_name h'] at hparsed
  exact (Option.some.inj hparsed).symm

theorem isSome_parse?_iff : (parse? name).isSome = true ↔ ∃! r : RelationMethod,
    name = r.name ∧ r.Nameable := by
  rw [Option.isSome_iff_exists]
  constructor
  · rintro ⟨r, hr⟩
    refine ⟨r, of_parse? hr, ?_⟩
    rintro r' ⟨hname, hr'⟩
    exact name_inj hr' (of_parse? hr).2 (hname.symm.trans (name_of_parse? hr))
  · rintro ⟨r, ⟨rfl, hr⟩, -⟩
    exact ⟨r, parse?_name hr⟩

@[simp] theorem parse?_reverseName (r : RelationMethod) (declared : String) :
    parse? (r.reverseName declared) = none :=
  parse?_eq_none_of_head (by rw [head?_reverseName]; decide)

@[simp] theorem parse?_toCreateMany_reverseName (r : RelationMethod) (declared : String) :
    parse? (toCreateMany (r.reverseName declared)) = none :=
  parse?_eq_none_of_head (by rw [head?_toCreateMany (head?_reverseName r declared)]; decide)

/-- A name parses to an operation on a relation just if it is made of them, which it is in one way
only; and none of the names that resolving makes is. -/
theorem names_parsed :
    (∀ name op scope, parse? name = some ⟨op, scope⟩ ↔
      name = "prototype.__" ++ op ++ "__" ++ scope ∧
        op ≠ "" ∧ '_' ∉ op.toList ∧ scope ≠ "" ∧ '\n' ∉ scope.toList) ∧
      (∀ name, (parse? name).isSome = true ↔ ∃! r : RelationMethod,
        name = r.name ∧ r.Nameable) ∧
      ∀ (r : RelationMethod) declared, parse? (r.reverseName declared) = none ∧
        parse? (toCreateMany (r.reverseName declared)) = none := by
  refine ⟨?_, fun _ => isSome_parse?_iff, ?_⟩
  · intro name op scope
    rw [parse?_eq_some_iff]
    constructor
    · rintro ⟨hname, hop, hplain, hscope, hline⟩
      exact ⟨hname, hop, hplain, hscope, hline⟩
    · rintro ⟨hname, hop, hplain, hscope, hline⟩
      exact ⟨hname, hop, hplain, hscope, hline⟩
  · intro r declared
    exact ⟨parse?_reverseName r declared, parse?_toCreateMany_reverseName r declared⟩

/-- An operation may hold a line feed, and a relation may start with an underscore. -/
example : parse? "prototype.__a\nb___c__d" = some ⟨"a\nb", "_c__d"⟩ := by decide

end RelationMethod

end AngularClient
