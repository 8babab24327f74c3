import AngularClient.Proofs.Relation.Attachment
import AngularClient.Proofs.Relation.Spelling

/-! The entry that a relation method has in the operations of its relation, under the name of its
accessor.  It starts out as the reverse of the method, unless the method's own twin takes it, and
is lost to later methods of the relation whose accessor, or whose twin's accessor, has the same
name. -/

namespace AngularClient

structure Method.Reverses (e : Method) (name : String) (x : Method) : Prop where
  name : e.name = name
  accepts : e.accepts = x.accepts
  binding : e.binding = x.binding
  returnsArray : e.returnsArray = x.returnsArray

theorem Method.reverses_twin_iff {z x : Method} {reverse many name : String} :
    ((z.renamed reverse).exposed.returningArray many).Reverses name x ↔
      many = name ∧ z.accepts = x.accepts ∧ z.binding = x.binding ∧ x.returnsArray = true := by
  constructor
  · intro h
    exact ⟨h.name, h.accepts, h.binding, h.returnsArray.symm⟩
  · rintro ⟨hname, haccepts, hbinding, harray⟩
    exact ⟨hname, haccepts, hbinding, harray.symm⟩

namespace RelationMethod

/-- Whether the twin for many of a method has the accessor of the method itself, as only the name of
the model mentions `create`. -/
def DoublesItself (rel : RelationMethod) (declared : String) : Prop :=
  mentionsCreate (Text.lower declared) = true ∧ mentionsCreate rel.op = false ∧
    mentionsCreate rel.scope = false

/-- Whether a later method of the relation leaves the entry of a method as it is, or puts one of the
same content in its place. -/
def Spares (rel : RelationMethod) (x : Method) (other : RelationMethod) (z : Method) : Prop :=
  ¬ SharesAccessor rel.op other.op ∧
    (other.Doubles rel →
      z.accepts = x.accepts ∧ z.binding = x.binding ∧ x.returnsArray = true)

variable {rel other : RelationMethod} {declared : String} {m : Model} {x z e : Method}
  {d : Dictionary Method}

theorem doublesItself_iff : rel.DoublesItself declared ↔
    mentionsCreate (rel.reverseName declared) = true ∧ toCreateMany rel.apiName = rel.apiName := by
  rw [toCreateMany_eq_self_iff, mentionsCreate_apiName, mentionsCreate_reverseName, DoublesItself]
  cases mentionsCreate rel.op <;> cases mentionsCreate rel.scope <;> simp

@[grind =]
theorem find?_record (rel : RelationMethod) (m : Model) (x : Method) (d : Dictionary Method)
    (key : String) : (rel.record m x d).find? key =
      if mentionsCreate (rel.reverseName m.declaredName) = true ∧
          key = toCreateMany rel.apiName then
        some ((x.renamed (rel.reverseName m.declaredName)).exposed.returningArray
          (toCreateMany (rel.reverseName m.declaredName)))
      else if key = rel.apiName then some (x.renamed (rel.reverseName m.declaredName)).exposed
      else d.find? key := by
  simp only [record]
  split
  · next h => simp [h]
  · next h => simp [h]

theorem exists_entry_record (rel : RelationMethod) (m : Model) (x : Method)
    (d : Dictionary Method) :
    ∃ e, (rel.record m x d).find? rel.apiName = some e ∧
      (e.Reverses (rel.reverseName m.declaredName) x ↔ ¬ rel.DoublesItself m.declaredName) := by
  rw [find?_record, doublesItself_iff]
  split
  · next h =>
    refine ⟨_, rfl, iff_of_false ?_ (not_not_intro ⟨h.1, h.2.symm⟩)⟩
    intro he
    have hname := toCreateMany_eq_self_iff.1 he.name
    rw [h.1] at hname
    cases hname
  · next h =>
    rw [if_pos rfl]
    refine ⟨_, rfl, iff_of_true ⟨rfl, rfl, rfl, rfl⟩ ?_⟩
    rintro ⟨hc, hself⟩
    exact h ⟨hc, hself.symm⟩

section Later

variable (hs : other.scope = rel.scope) (hop : other.op ≠ rel.op)
include hs hop

theorem find?_record_of_spares (hshares : ¬ SharesAccessor rel.op other.op)
    (hdoubles : ¬ other.Doubles rel) :
    (other.record m z d).find? rel.apiName = d.find? rel.apiName := by
  have htwin : rel.apiName ≠ toCreateMany other.apiName := by
    intro h
    rcases (toCreateMany_apiName_eq_iff hs hop).1 h.symm with h | h
    · exact hshares h.1
    · exact hdoubles h
  have hclone : rel.apiName ≠ other.apiName := by
    intro h
    rcases (apiName_eq_iff hs).1 h.symm with h | h
    · exact hop h
    · exact hshares h
  grind

theorem exists_entry_of_sharesAccessor (h : SharesAccessor rel.op other.op) :
    ∃ e, (other.record m z d).find? rel.apiName = some e ∧
      ¬ e.Reverses (rel.reverseName m.declaredName) x := by
  rw [find?_record]
  split
  · refine ⟨_, rfl, ?_⟩
    intro he
    exact toCreateMany_reverseName_ne h he.name
  · rw [if_pos ((apiName_eq_iff hs).2 (.inr h)).symm]
    refine ⟨_, rfl, ?_⟩
    intro he
    exact hop ((reverseName_inj hs).1 he.name)

theorem exists_entry_of_doubles (h : other.Doubles rel) :
    ∃ e, (other.record m z d).find? rel.apiName = some e ∧
      (e.Reverses (rel.reverseName m.declaredName) x ↔
        z.accepts = x.accepts ∧ z.binding = x.binding ∧ x.returnsArray = true) := by
  have hc : mentionsCreate (other.reverseName m.declaredName) = true := by
    rw [mentionsCreate_reverseName, h.1]
    rfl
  have hmany : other.forMany = rel := by
    rw [forMany, h.2.2, hs]
  have hname : toCreateMany (other.reverseName m.declaredName) =
      rel.reverseName m.declaredName := by
    rw [← hmany]
    exact toCreateMany_reverseName h.1
  rw [find?_record, if_pos ⟨hc, ((toCreateMany_apiName_eq_iff hs hop).2 (.inr h)).symm⟩]
  refine ⟨_, rfl, ?_⟩
  rw [Method.reverses_twin_iff, and_iff_right hname]

end Later

theorem Doubles.spares_iff (h : other.Doubles rel) : rel.Spares x other z ↔
    z.accepts = x.accepts ∧ z.binding = x.binding ∧ x.returnsArray = true := by
  rw [Spares, and_iff_right (not_sharesAccessor h.1)]
  exact forall_prop_of_true h

theorem Doubles.mentionsCreate (h : other.Doubles rel) : mentionsCreate rel.op = true := by
  rw [← h.2.2]
  exact mentionsCreate_toCreateMany h.1

end RelationMethod

namespace Model

variable {r : Registry} {o : Options} {base : ModelSet} {m : Model} {k K : Nat} {a b : Attachment}
  {relation : String}

def entries (r : Registry) (o : Options) (base : ModelSet) (m : Model) (k : Nat)
    (relation : String) : Dictionary Method :=
  ((m.attachments r o base k).filter (·.rel.scope == relation)).foldl
    (fun d a => a.rel.record m a.method d) []

theorem entries_succ (hb : m.attachment? r o base k = some b) (hs : b.rel.scope = relation) :
    m.entries r o base (k + 1) relation =
      b.rel.record m b.method (m.entries r o base k relation) := by
  simp [entries, attachments_succ, hb, hs]

theorem entries_succ_of_ne
    (h : ∀ b, m.attachment? r o base k = some b → b.rel.scope ≠ relation) :
    m.entries r o base (k + 1) relation = m.entries r o base k relation := by
  rw [entries, attachments_succ, List.filter_append]
  cases hb : m.attachment? r o base k with
  | none => simp [entries]
  | some b => simp [entries, h b hb]

def Spared (r : Registry) (o : Options) (base : ModelSet) (m : Model) (a : Attachment)
    (k K : Nat) : Prop :=
  ∀ j b, k < j → j < K → m.attachment? r o base j = some b → b.rel.scope = a.rel.scope →
    a.rel.Spares a.method b.rel b.method

theorem spared_succ : Spared r o base m a k (K + 1) ↔ Spared r o base m a k K ∧
    (k < K → ∀ b, m.attachment? r o base K = some b → b.rel.scope = a.rel.scope →
      a.rel.Spares a.method b.rel b.method) := by
  constructor
  · intro h
    exact ⟨fun j b hkj hj => h j b hkj (Nat.lt_succ_of_lt hj),
      fun hK b => h K b hK (Nat.lt_succ_self K)⟩
  · rintro ⟨hold, hnew⟩ j b hkj hj
    rcases Nat.lt_succ_iff_lt_or_eq.1 hj with hj | rfl
    · exact hold j b hkj hj
    · exact hnew hkj b

def Distinct (r : Registry) (o : Options) (base : ModelSet) (m : Model) : Prop :=
  ∀ j k a b, m.attachment? r o base j = some a → m.attachment? r o base k = some b →
    a.rel = b.rel → j = k

section Doubles

variable (hd : m.Distinct r o base) (hb : m.attachment? r o base K = some b)
  (hdoubles : b.rel.Doubles a.rel) (hs : b.rel.scope = a.rel.scope)
include hd hb hdoubles hs

theorem spared_of_doubles : Spared r o base m a k K := by
  intro j b' _ hj hb' hs'
  refine ⟨RelationMethod.not_sharesAccessor_of_left hdoubles.mentionsCreate, ?_⟩
  intro hdoubles'
  have hop := toCreateMany_inj hdoubles'.1 hdoubles.1 (hdoubles'.2.2.trans hdoubles.2.2.symm)
  have hj' := hd j K b' b hb' hb (RelationMethod.eq_of_op (hs'.trans hs.symm) hop)
  omega

omit hd hb hs in
theorem not_doublesItself_of_doubles (declared : String) : ¬ a.rel.DoublesItself declared := by
  rintro ⟨-, hop, -⟩
  rw [hdoubles.mentionsCreate] at hop
  cases hop

end Doubles

/-- The entry of a method once some methods after it are resolved: it is the reverse of the method
unless it is its own twin or a later method does not spare it. -/
theorem exists_entry (hd : m.Distinct r o base) (ha : m.attachment? r o base k = some a)
    (hK : k < K) :
    ∃ e, (m.entries r o base K a.rel.scope).find? a.rel.apiName = some e ∧
      (e.Reverses (a.rel.reverseName m.declaredName) a.method ↔
        ¬ a.rel.DoublesItself m.declaredName ∧ Spared r o base m a k K) := by
  -- on the methods after the `k`th: each of them keeps the entry, takes it or puts a twin there
  induction K, hK using Nat.le_induction with
  | base =>
    have hspared : Spared r o base m a k (k + 1) := by
      intro j _ hkj hj
      omega
    rw [entries_succ ha rfl, and_iff_left hspared]
    exact RelationMethod.exists_entry_record ..
  | succ K hK ih =>
    rw [spared_succ]
    by_cases hb : ∃ b, m.attachment? r o base K = some b ∧ b.rel.scope = a.rel.scope
    · obtain ⟨b, hb, hs⟩ := hb
      have hop : b.rel.op ≠ a.rel.op := by
        intro hop
        have hkK := hd K k b a hb ha (RelationMethod.eq_of_op hs hop)
        omega
      have hnew : (k < K → ∀ b', m.attachment? r o base K = some b' → b'.rel.scope = a.rel.scope →
          a.rel.Spares a.method b'.rel b'.method) ↔ a.rel.Spares a.method b.rel b.method := by
        simp only [hb, Option.some.injEq, forall_eq', hs, forall_const]
        exact forall_prop_of_true hK
      rw [entries_succ hb hs, hnew]
      by_cases hshares : SharesAccessor a.rel.op b.rel.op
      · obtain ⟨e, he, hlost⟩ := RelationMethod.exists_entry_of_sharesAccessor hs hop hshares
        exact ⟨e, he, iff_of_false hlost fun h => h.2.2.1 hshares⟩
      · by_cases hdoubles : b.rel.Doubles a.rel
        · obtain ⟨e, he, hiff⟩ := RelationMethod.exists_entry_of_doubles hs hop hdoubles
          refine ⟨e, he, ?_⟩
          -- whatever was lost before, the twin's entry counts alone
          rw [hiff, hdoubles.spares_iff, and_iff_right (spared_of_doubles hd hb hdoubles hs),
            and_iff_right (not_doublesItself_of_doubles hdoubles _)]
        · obtain ⟨e, he, hiff⟩ := ih
          have hspares : a.rel.Spares a.method b.rel b.method :=
            ⟨hshares, fun h => absurd h hdoubles⟩
          refine ⟨e, ?_, ?_⟩
          · rw [RelationMethod.find?_record_of_spares hs hop hshares hdoubles, he]
          · rw [hiff, and_iff_left hspares]
    · obtain ⟨e, he, hiff⟩ := ih
      have hne : ∀ b, m.attachment? r o base K = some b → b.rel.scope ≠ a.rel.scope := by
        intro b hb' hs
        exact hb ⟨b, hb', hs⟩
      refine ⟨e, ?_, ?_⟩
      · rw [entries_succ_of_ne hne, he]
      · rw [hiff, and_iff_left fun _ b hb' hs => absurd hs (hne b hb')]

end Model

end AngularClient
