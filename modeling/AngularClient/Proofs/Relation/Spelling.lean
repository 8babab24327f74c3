import AngularClient.Proofs.Relation.Grammar
import AngularClient.Proofs.Text.Replace

namespace AngularClient

section CreateMany

variable {s t : String}

theorem create_ne_nil : "create".toList ≠ [] := by decide

theorem colon_not_mem_create : ':' ∉ "create".toList := by decide

theorem unbordered_create : Text.Unbordered "create".toList :=
  Text.unbordered_of_tails (by decide)

@[simp] theorem toList_toCreateMany (s : String) : (toCreateMany s).toList =
    Text.replaceFirst "create".toList "createMany".toList s.toList :=
  String.toList_ofList

@[simp] theorem toCreateMany_eq_self (h : mentionsCreate s = false) : toCreateMany s = s := by
  rw [← Bool.not_eq_true, mentionsCreate_iff] at h
  rw [← String.toList_inj, toList_toCreateMany, Text.replaceFirst_of_absent h]

@[simp] theorem length_toCreateMany (h : mentionsCreate s = true) :
    (toCreateMany s).toList.length = s.toList.length + 4 := by
  have hlength := Text.length_replaceFirst "createMany".toList (mentionsCreate_iff.1 h)
  rw [← toList_toCreateMany] at hlength
  have hword : "create".toList.length = 6 := by decide
  have hmany : "createMany".toList.length = 10 := by decide
  omega

theorem le_length_toCreateMany : s.toList.length ≤ (toCreateMany s).toList.length := by
  cases h : mentionsCreate s with
  | true => rw [length_toCreateMany h]; exact Nat.le_add_right _ _
  | false => rw [toCreateMany_eq_self h]

@[simp] theorem toCreateMany_eq_self_iff : toCreateMany s = s ↔ mentionsCreate s = false := by
  constructor
  · intro h
    rw [← Bool.not_eq_true]
    intro hc
    have hlength := length_toCreateMany hc
    rw [h] at hlength
    omega
  · exact toCreateMany_eq_self

theorem toCreateMany_inj (hs : mentionsCreate s = true) (ht : mentionsCreate t = true)
    (h : toCreateMany s = toCreateMany t) : s = t := by
  rw [← String.toList_inj, toList_toCreateMany, toList_toCreateMany] at h
  rw [← String.toList_inj]
  exact Text.replaceFirst_inj unbordered_create (by decide) (by decide) (mentionsCreate_iff.1 hs)
    (mentionsCreate_iff.1 ht) h

theorem eq_of_toCreateMany_eq (h : toCreateMany s = toCreateMany t) :
    toCreateMany t = t ∨ toCreateMany s = s ∨ s = t := by
  cases ht : mentionsCreate t with
  | false => exact .inl (toCreateMany_eq_self ht)
  | true =>
    cases hs : mentionsCreate s with
    | false => exact .inr (.inl (toCreateMany_eq_self hs))
    | true => exact .inr (.inr (toCreateMany_inj hs ht h))

@[simp] theorem mentionsCreate_toCreateMany (h : mentionsCreate s = true) :
    mentionsCreate (toCreateMany s) = true := by
  rw [mentionsCreate_iff, toList_toCreateMany]
  exact Text.infix_replaceFirst (by decide) (mentionsCreate_iff.1 h)

end CreateMany

def spell (op model relation : String) : String := "::" ++ op ++ "::" ++ model ++ "::" ++ relation

section Spell

variable {op op' model model' relation relation' s : String}

@[simp] theorem toList_spell : (spell op model relation).toList =
    [':', ':'] ++ op.toList ++ ':' :: ':' ::
      (model.toList ++ ':' :: ':' :: relation.toList) := by
  simp [spell]

/-- The model may hold colons, as long as the others do not. -/
theorem spell_inj (hop : ':' ∉ op.toList) (hop' : ':' ∉ op'.toList)
    (hrelation : ':' ∉ relation.toList) (hrelation' : ':' ∉ relation'.toList) :
    spell op model relation = spell op' model' relation' ↔
      op = op' ∧ model = model' ∧ relation = relation' := by
  constructor
  · intro h
    rw [← String.toList_inj, toList_spell, toList_spell, List.append_assoc, List.append_assoc,
      List.append_cancel_left_eq, Text.append_cons_inj hop hop', List.cons.injEq] at h
    obtain ⟨heq, -, hrest⟩ := h
    -- the relation is what stands behind the last colon
    have hreverse := congrArg List.reverse hrest
    simp only [List.reverse_append, List.reverse_cons, List.append_assoc, List.cons_append,
      List.nil_append] at hreverse
    rw [Text.append_cons_inj (by simpa using hrelation) (by simpa using hrelation'),
      List.cons.injEq, List.reverse_inj, List.reverse_inj] at hreverse
    obtain ⟨hrelations, -, hmodels⟩ := hreverse
    exact ⟨String.toList_inj.1 heq, String.toList_inj.1 hmodels, String.toList_inj.1 hrelations⟩
  · rintro ⟨rfl, rfl, rfl⟩
    rfl

@[simp] theorem mentionsCreate_spell : mentionsCreate (spell op model relation) =
    (mentionsCreate op || mentionsCreate model || mentionsCreate relation) := by
  rw [Bool.eq_iff_iff, Bool.or_eq_true, Bool.or_eq_true]
  simp only [mentionsCreate_iff, toList_spell, List.cons_append, List.nil_append, or_assoc,
    Text.infix_append_cons_iff colon_not_mem_create create_ne_nil,
    Text.infix_cons_iff_of_not_mem colon_not_mem_create create_ne_nil]

theorem toCreateMany_spell : toCreateMany (spell op model relation) =
    if mentionsCreate op then spell (toCreateMany op) model relation
    else if mentionsCreate model then spell op (toCreateMany model) relation
    else spell op model (toCreateMany relation) := by
  rw [← String.toList_inj, toList_toCreateMany, toList_spell, List.append_assoc, List.cons_append,
    List.cons_append, List.nil_append, Text.replaceFirst_cons colon_not_mem_create create_ne_nil,
    Text.replaceFirst_cons colon_not_mem_create create_ne_nil]
  split
  · next hop =>
    rw [Text.replaceFirst_append unbordered_create create_ne_nil (mentionsCreate_iff.1 hop),
      toList_spell, toList_toCreateMany]
    rfl
  · next hop =>
    rw [Text.replaceFirst_append_cons unbordered_create create_ne_nil colon_not_mem_create
      (mt mentionsCreate_iff.2 hop), Text.replaceFirst_cons colon_not_mem_create create_ne_nil]
    split
    · next hmodel =>
      rw [Text.replaceFirst_append unbordered_create create_ne_nil (mentionsCreate_iff.1 hmodel),
        toList_spell, toList_toCreateMany]
      rfl
    · next hmodel =>
      rw [Text.replaceFirst_append_cons unbordered_create create_ne_nil colon_not_mem_create
        (mt mentionsCreate_iff.2 hmodel), Text.replaceFirst_cons colon_not_mem_create create_ne_nil,
        toList_spell, toList_toCreateMany]
      rfl

theorem not_mem_toCreateMany {c : Char} (hc : c ∉ "createMany".toList) (h : c ∉ s.toList) :
    c ∉ (toCreateMany s).toList := by
  cases hm : mentionsCreate s with
  | false => rwa [toCreateMany_eq_self hm]
  | true =>
    obtain ⟨before, after, hcut, hs⟩ := Text.exists_cut? (mentionsCreate_iff.1 hm)
    rw [toList_toCreateMany, Text.replaceFirst_of_cut? hcut]
    rw [hs] at h
    simp only [List.mem_append, not_or] at h ⊢
    exact ⟨h.1, hc, h.2.2⟩

theorem mem_toCreateMany {c : Char} (hc : c ∈ "createMany".toList) (h : mentionsCreate s = true) :
    c ∈ (toCreateMany s).toList := by
  obtain ⟨before, after, hcut, -⟩ := Text.exists_cut? (mentionsCreate_iff.1 h)
  rw [toList_toCreateMany, Text.replaceFirst_of_cut? hcut]
  exact List.mem_append_right _ (List.mem_append_left _ hc)

end Spell

def SharesAccessor (op other : String) : Prop :=
  op = "delete" ∧ other = "destroyAll" ∨ op = "destroyAll" ∧ other = "delete"

theorem SharesAccessor.symm {op other : String} (h : SharesAccessor op other) :
    SharesAccessor other op :=
  (Or.symm h).imp And.symm And.symm

namespace RelationMethod

def accessor? (rel : RelationMethod) : Option String :=
  if rel.op = "get" then none else if rel.op = "delete" then some "destroyAll" else some rel.op

/-- Whether the accessor for many that comes with one operation on a relation has the name of
another's. -/
def Doubles (other rel : RelationMethod) : Prop :=
  mentionsCreate other.op = true ∧ mentionsCreate rel.scope = false ∧
    toCreateMany other.op = rel.op

def forMany (rel : RelationMethod) : RelationMethod := { rel with op := toCreateMany rel.op }

variable {rel other : RelationMethod} {declared : String}

theorem eq_of_op (hs : other.scope = rel.scope) (hop : other.op = rel.op) : other = rel := by
  cases other
  cases rel
  cases hs
  cases hop
  rfl

theorem toList_apiName : rel.apiName.toList =
    rel.scope.toList ++ (rel.accessor?.elim [] fun a => '.' :: a.toList) := by
  unfold apiName accessor?
  split
  · simp
  · split <;> simp

theorem accessor?_eq_iff :
    other.accessor? = rel.accessor? ↔ other.op = rel.op ∨ SharesAccessor rel.op other.op := by
  unfold accessor? SharesAccessor
  grind

theorem apiName_eq_iff (hs : other.scope = rel.scope) :
    other.apiName = rel.apiName ↔ other.op = rel.op ∨ SharesAccessor rel.op other.op := by
  rw [← accessor?_eq_iff, ← String.toList_inj, toList_apiName, toList_apiName, hs,
    List.append_cancel_left_eq]
  cases other.accessor? <;> cases rel.accessor? <;> simp [String.toList_inj]

@[simp]
theorem mentionsCreate_accessor? : rel.accessor?.any mentionsCreate = mentionsCreate rel.op := by
  unfold accessor?
  split
  · next h => rw [h]; decide
  · split
    · next h => rw [h]; decide
    · rfl

@[simp] theorem mentionsCreate_apiName :
    mentionsCreate rel.apiName = (mentionsCreate rel.scope || mentionsCreate rel.op) := by
  rw [← mentionsCreate_accessor?, Bool.eq_iff_iff, Bool.or_eq_true, mentionsCreate_iff,
    mentionsCreate_iff, toList_apiName]
  cases rel.accessor? with
  | none => simp
  | some a =>
    rw [Option.any_some, mentionsCreate_iff]
    exact Text.infix_append_cons_iff (by decide) (by decide)

theorem reverseName_eq_spell (rel : RelationMethod) (declared : String) :
    rel.reverseName declared = spell rel.op (Text.lower declared) rel.scope := rfl

theorem toList_reverseName : (rel.reverseName declared).toList =
    [':', ':'] ++ rel.op.toList ++ ':' :: ':' ::
      ((Text.lower declared).toList ++ ':' :: ':' :: rel.scope.toList) := toList_spell

@[simp] theorem mentionsCreate_reverseName : mentionsCreate (rel.reverseName declared) =
    (mentionsCreate rel.op || mentionsCreate (Text.lower declared) ||
      mentionsCreate rel.scope) := mentionsCreate_spell

theorem reverseName_inj (hs : other.scope = rel.scope) :
    other.reverseName declared = rel.reverseName declared ↔ other.op = rel.op := by
  rw [← String.toList_inj, toList_reverseName, toList_reverseName, hs, List.append_cancel_right_eq,
    List.append_cancel_left_eq, String.toList_inj]

theorem toCreateMany_reverseName (h : mentionsCreate rel.op = true) :
    toCreateMany (rel.reverseName declared) = rel.forMany.reverseName declared := by
  rw [reverseName_eq_spell, toCreateMany_spell, if_pos h]
  rfl

theorem toCreateMany_reverseName_ne (h : SharesAccessor rel.op other.op) :
    toCreateMany (other.reverseName declared) ≠ rel.reverseName declared := by
  rw [ne_eq, ← String.toList_inj, toList_toCreateMany, toList_reverseName, toList_reverseName]
  rcases h with ⟨hrel, hother⟩ | ⟨hrel, hother⟩
  · rw [hrel, hother, Text.replaceFirst_append_cons unbordered_create create_ne_nil
      colon_not_mem_create (by decide)]
    simp
  · rw [hrel, hother, Text.replaceFirst_append_cons unbordered_create create_ne_nil
      colon_not_mem_create (by decide)]
    simp

@[simp] theorem accessor?_of_mentionsCreate (h : mentionsCreate rel.op = true) :
    rel.accessor? = some rel.op := by
  unfold accessor?
  rw [if_neg, if_neg]
  · intro hdelete
    rw [hdelete] at h
    exact absurd h (by decide)
  · intro hget
    rw [hget] at h
    exact absurd h (by decide)

theorem toCreateMany_apiName (hs : mentionsCreate rel.scope = false)
    (h : mentionsCreate rel.op = true) :
    toCreateMany rel.apiName = rel.forMany.apiName := by
  have hmany : rel.forMany.accessor? = some rel.forMany.op :=
    accessor?_of_mentionsCreate (mentionsCreate_toCreateMany h)
  rw [← Bool.not_eq_true, mentionsCreate_iff] at hs
  rw [← String.toList_inj, toList_toCreateMany, toList_apiName, toList_apiName,
    accessor?_of_mentionsCreate h, hmany]
  simp only [Option.elim_some, forMany, toList_toCreateMany]
  exact Text.replaceFirst_append_cons unbordered_create (by decide) (by decide) hs

theorem not_sharesAccessor {op other : String} (h : mentionsCreate other = true) :
    ¬ SharesAccessor op other := by
  rintro (⟨-, rfl⟩ | ⟨-, rfl⟩)
  · exact absurd h (by decide)
  · exact absurd h (by decide)

theorem toCreateMany_apiName_ne (hs : mentionsCreate rel.scope = true)
    (hscope : other.scope = rel.scope) : toCreateMany other.apiName ≠ rel.apiName := by
  rw [mentionsCreate_iff] at hs
  rw [ne_eq, ← String.toList_inj, toList_toCreateMany, toList_apiName, toList_apiName, hscope,
    Text.replaceFirst_append unbordered_create create_ne_nil hs]
  cases rel.accessor? with
  | none =>
    -- the accessor is the relation itself, which the twin's begins with and is too long for
    intro h
    have hlength := Text.length_replaceFirst "createMany".toList hs
    have hle := congrArg List.length h
    have hmany : "createMany".toList.length = "create".toList.length + 4 := by decide
    rw [List.length_append, Option.elim_none, List.append_nil] at hle
    omega
  | some a =>
    exact Text.replaceFirst_append_ne "Many".toList (by decide) (by decide) hs _ _

theorem not_sharesAccessor_of_left {op other : String} (h : mentionsCreate op = true) :
    ¬ SharesAccessor op other :=
  fun hshares => not_sharesAccessor h hshares.symm

theorem toCreateMany_apiName_eq_iff (hs : other.scope = rel.scope) (hop : other.op ≠ rel.op) :
    toCreateMany other.apiName = rel.apiName ↔
      SharesAccessor rel.op other.op ∧ mentionsCreate rel.scope = false ∨ other.Doubles rel := by
  cases hscope : mentionsCreate rel.scope with
  | true => simp [Doubles, hscope, toCreateMany_apiName_ne hscope hs]
  | false =>
    cases hm : mentionsCreate other.op with
    | true =>
      have hshares : ¬ SharesAccessor rel.op other.forMany.op :=
        not_sharesAccessor (mentionsCreate_toCreateMany hm)
      have hmany : other.forMany.scope = rel.scope := hs
      rw [toCreateMany_apiName (hs ▸ hscope) hm, apiName_eq_iff hmany, or_iff_left hshares]
      simp [Doubles, forMany, hscope, hm, not_sharesAccessor hm]
    | false =>
      have hnone : mentionsCreate other.apiName = false := by
        rw [mentionsCreate_apiName, hs, hscope, hm]
        rfl
      rw [toCreateMany_eq_self hnone, apiName_eq_iff hs, or_iff_right hop]
      simp [Doubles, hm]

end RelationMethod

end AngularClient
