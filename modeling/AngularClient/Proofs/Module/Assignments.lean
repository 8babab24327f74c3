import AngularClient.Proofs.Module.Keys
import AngularClient.Proofs.Relation.AccessorNames

namespace AngularClient

structure Assignment where
  path : String
  value : String

namespace Assignment

def statement (a : Assignment) : String := "        R." ++ a.path ++ " = " ++ a.value ++ ";"

def WrittenAs (a : Assignment) (comments : Bool) (text : List Char) : Prop :=
  ∃ comment : List Char, (comments = false → comment = []) ∧
    text = '\n' :: comment ++ '\n' :: a.statement.toList

/-- A text of assignments, one after the other, and of nothing else. -/
def Sequence (comments : Bool) (assignments : List Assignment) (text : List Char) : Prop :=
  ∃ texts, List.Forall₂ (fun a t => a.WrittenAs comments t) assignments texts ∧
    text = texts.flatten

variable {comments : Bool} {as bs : List Assignment} {s t : List Char}

theorem Sequence.append (h : Sequence comments as s) (h' : Sequence comments bs t) :
    Sequence comments (as ++ bs) (s ++ t) := by
  obtain ⟨texts, htexts, rfl⟩ := h
  obtain ⟨texts', htexts', rfl⟩ := h'
  exact ⟨texts ++ texts', List.rel_append htexts htexts', List.flatten_append.symm⟩

theorem Sequence.flatMap {α : Type} {f : α → List Assignment} {l : List α}
    {texts : List (List Char)}
    (h : List.Forall₂ (fun x t => Sequence comments (f x) t) l texts) :
    Sequence comments (l.flatMap f) texts.flatten := by
  induction h with
  | nil => exact ⟨[], .nil, rfl⟩
  | cons hx _ ih => exact hx.append ih

end Assignment

namespace ScopeView

def emptyObject (s : ScopeView) : Assignment := ⟨s.name, "\x7b\x7d"⟩

def accessor (s : ScopeView) (op : OperationView) : Assignment where
  path := op.apiName
  value := "function() \x7b" ++
    "\n" ++ "          let TargetResource = $injector.get(" ++ Text.literal s.target ++ ");" ++
    "\n" ++ op.lookup ++
    "\n" ++ "          return action.apply(R, arguments);" ++
    "\n" ++ "        \x7d"

def base (s : ScopeView) : List Assignment := if s.hasDefaultAccessor then [] else [s.emptyObject]

def assignments (s : ScopeView) : List Assignment := s.base ++ s.operations.map s.accessor

end ScopeView

namespace ModelView

def assignments (m : ModelView) : List Assignment := m.scopes.flatMap (·.assignments)

def AssignsBefore (m : ModelView) (before : List Assignment) (s : ScopeView)
    (op : OperationView) : Prop :=
  ∃ scopes scopes' operations operations', m.scopes = scopes ++ s :: scopes' ∧
    s.operations = operations ++ op :: operations' ∧
      before = scopes.flatMap (·.assignments) ++ (s.base ++ operations.map s.accessor)

theorem AssignsBefore.exists_after {m : ModelView} {before : List Assignment} {s : ScopeView}
    {op : OperationView} (h : m.AssignsBefore before s op) :
    ∃ after, m.assignments = before ++ s.accessor op :: after := by
  obtain ⟨scopes, scopes', operations, operations', hscopes, hoperations, rfl⟩ := h
  refine ⟨operations'.map s.accessor ++ scopes'.flatMap (·.assignments), ?_⟩
  rw [assignments, hscopes, List.flatMap_append, List.flatMap_cons, ScopeView.assignments,
    hoperations, List.map_append, List.map_cons]
  simp only [List.append_assoc, List.cons_append]

end ModelView

namespace Module

variable {v : ModuleView} {m : ModelView} {s : ScopeView} {op : OperationView} {b : Bindings}
  {text : List Char}

theorem render_accessor (s : ScopeView) (op : OperationView) :
    Template.render (("op", op.toJson) :: ("scope", s.toJson) :: b) (operation.drop 2) =
      .ok ('\n' :: (s.accessor op).statement.toList) := by
  have htarget : Bindings.find? (("op", op.toJson) :: ("scope", s.toJson) :: b)
      ["scope", "target"] = some (.string s.target) := by
    rw [Bindings.find?_cons_of_ne (by decide)]
    exact Bindings.find?_written rfl
  have hname : (Piece.slot ["op", "api_name"] []).render
      (("op", op.toJson) :: ("scope", s.toJson) :: b) = .ok op.apiName.toList :=
    Piece.render_slot_plain (Bindings.find?_written rfl)
  have hmethod : Bindings.find? (("op", op.toJson) :: ("scope", s.toJson) :: b) ["op", "method"] =
      some (.string op.method) := Bindings.find?_written rfl
  have hget := Piece.render_slot_of_string htarget (List.cons_ne_nil Filter.literal [])
  have haction := Piece.render_slot_of_string hmethod (List.cons_ne_nil Filter.literal [])
  have hrender : Template.render (("op", op.toJson) :: ("scope", s.toJson) :: b)
      (operation.drop 2) = _ :=
    Template.render_cons (Piece.render_lines _) <| Template.render_cons hname <|
    Template.render_cons (Piece.render_text _) <| Template.render_cons (Piece.render_lines _) <|
    Template.render_cons hget <| Template.render_cons (Piece.render_text _) <|
    Template.render_cons (Piece.render_lines _) <| Template.render_cons haction <|
    Template.render_cons (Piece.render_text _) <|
    Template.render_cons (Piece.render_lines _) (Template.render_nil _)
  refine hrender.trans (congrArg Except.ok ?_)
  have hopen : " = function() \x7b".toList = " = ".toList ++ "function() \x7b".toList := by decide
  have hclose : "        \x7d;".toList = "        \x7d".toList ++ ";".toList := by decide
  have hbreak : "\n".toList = ['\n'] := by decide
  have hstatement : (s.accessor op).statement = "        R." ++ op.apiName ++ " = " ++
      (s.accessor op).value ++ ";" := rfl
  have hvalue : (s.accessor op).value = "function() \x7b" ++
      "\n" ++ "          let TargetResource = $injector.get(" ++ Text.literal s.target ++ ");" ++
      "\n" ++ ("          let action = TargetResource[" ++ Text.literal op.method ++ "];") ++
      "\n" ++ "          return action.apply(R, arguments);" ++
      "\n" ++ "        \x7d" := rfl
  rw [hstatement, hvalue]
  simp only [String.toList_append, List.flatMap_cons, List.flatMap_nil, List.append_assoc,
    List.cons_append, List.nil_append, List.append_nil, hopen, hclose, hbreak]
  rfl

def bindings (v : ModuleView) (m : ModelView) : Bindings := ("model", m.toJson) :: v.context

theorem writtenAs_operation (h : Template.render
    (("op", op.toJson) :: ("scope", s.toJson) :: bindings v m) operation = .ok text) :
    (s.accessor op).WrittenAs v.comments text := by
  obtain ⟨blank, _, hblank, h₁, rfl⟩ := Template.render_cons_eq_ok_iff.1 h
  obtain ⟨comment, _, hcomment, h₂, rfl⟩ := Template.render_cons_eq_ok_iff.1 h₁
  rw [Piece.render_lines] at hblank
  cases hblank
  have hstatement := h₂.symm.trans (render_accessor s op)
  refine ⟨comment, ?_, ?_⟩
  · intro hnone
    have hfind : Bindings.find? (("op", op.toJson) :: ("scope", s.toJson) :: bindings v m)
        ["comments"] = some (.bool v.comments) := by
      rw [bindings, Bindings.find?_cons_of_ne (by decide), Bindings.find?_cons_of_ne (by decide),
        Bindings.find?_cons_of_ne (by decide)]
      exact Bindings.find?_ofList rfl
    have heval := (Condition.eval_holds hfind).trans hnone
    rw [Piece.given, Piece.render, heval, if_neg Bool.false_ne_true,
      Template.render_nil] at hcomment
    exact (Except.ok.inj hcomment).symm
  · rw [Except.ok.inj hstatement]
    rfl

theorem sequence_base
    (h : Template.render (("scope", s.toJson) :: bindings v m) (scope.take 1) = .ok text) :
    Assignment.Sequence v.comments s.base text := by
  obtain ⟨base, _, hbase, hnil, rfl⟩ := Template.render_cons_eq_ok_iff.1 h
  obtain rfl := Except.ok.inj ((Template.render_nil _).symm.trans hnil)
  have hfind : Bindings.find? (("scope", s.toJson) :: bindings v m)
      ["scope", "has_default_accessor"] = some (.bool s.hasDefaultAccessor) :=
    Bindings.find?_written rfl
  have heval : (Condition.not (.holds ["scope", "has_default_accessor"])).eval
      (("scope", s.toJson) :: bindings v m) = !s.hasDefaultAccessor := by
    rw [Condition.eval, Condition.eval_holds hfind]
    rfl
  rw [Piece.render, heval] at hbase
  rw [ScopeView.base, List.append_nil]
  cases hdefault : s.hasDefaultAccessor with
  | true =>
    rw [hdefault, Bool.not_true, if_neg Bool.false_ne_true, Template.render_nil] at hbase
    exact ⟨[], .nil, (Except.ok.inj hbase).symm⟩
  | false =>
    rw [hdefault, Bool.not_false, if_pos rfl] at hbase
    have hname : Bindings.find? (("scope", s.toJson) :: bindings v m) ["scope", "name"] =
        some (.string s.name) := Bindings.find?_written rfl
    have hrender := Template.render_cons (Piece.render_lines ["", "        R."]) <|
      Template.render_cons (Piece.render_slot_plain hname) <|
      Template.render_cons (Piece.render_text " = \x7b\x7d;") (Template.render_nil _)
    refine ⟨[_], .cons ⟨[], fun _ => rfl, rfl⟩ .nil, ?_⟩
    have hvalue : " = \x7b\x7d;".toList = " = ".toList ++ "\x7b\x7d".toList ++ ";".toList := by
      decide
    rw [Except.ok.inj (hbase.symm.trans hrender), Assignment.statement, ScopeView.emptyObject]
    simp only [String.toList_append, hvalue]
    simp

theorem sequence_scope
    (h : Template.render (("scope", s.toJson) :: bindings v m) scope = .ok text) :
    Assignment.Sequence v.comments s.assignments text := by
  rw [← List.take_append_drop 1 scope] at h
  obtain ⟨base, _, hbase, h₁, rfl⟩ := Template.render_append_eq_ok_iff.1 h
  obtain ⟨operations, _, hoperations, hnil, rfl⟩ := Template.render_cons_eq_ok_iff.1 h₁
  obtain rfl := Except.ok.inj ((Template.render_nil _).symm.trans hnil)
  obtain ⟨texts, htexts, rfl⟩ :=
    (Piece.render_each_eq_ok_iff (Bindings.find?_written rfl)).1 hoperations
  rw [List.append_nil]
  refine (sequence_base hbase).append ⟨texts, ?_, rfl⟩
  rw [List.forall₂_map_left_iff] at htexts ⊢
  exact htexts.imp fun _ _ => writtenAs_operation

theorem sequence_scopes
    (h : (Piece.each "scope" ["model", "scopes"] scope).render (bindings v m) = .ok text) :
    Assignment.Sequence v.comments m.assignments text := by
  obtain ⟨texts, htexts, rfl⟩ :=
    (Piece.render_each_eq_ok_iff (Bindings.find?_written rfl)).1 h
  rw [List.forall₂_map_left_iff] at htexts
  exact .flatMap (htexts.imp fun _ _ => sequence_scope)

theorem exists_accessors {script : List Char}
    (h : Template.renderNamed servicesName v.context = .ok script) (hm : m ∈ v.models) :
    ∃ t accessors, factory v m = .ok t ∧ t <:+: script ∧ accessors <:+: t ∧
      (Piece.each "scope" ["model", "scopes"] scope).render (bindings v m) = .ok accessors ∧
      Assignment.Sequence v.comments m.assignments accessors := by
  obtain ⟨t, ht, hinfix⟩ := exists_factory h hm
  obtain ⟨accessors, haccessors, hin⟩ :=
    Template.exists_piece_infix ht (List.mem_of_getElem? (i := 21) rfl)
  exact ⟨t, accessors, ht, hinfix, hin, haccessors, sequence_scopes haccessors⟩

end Module

theorem mem_before_iff_lt {before after : List String} {x y : String}
    (h : (before ++ x :: after).Pairwise (· < ·)) :
    y ∈ before ↔ y ∈ before ++ x :: after ∧ y < x := by
  obtain ⟨-, hafter, hbefore⟩ := List.pairwise_append.1 h
  constructor
  · intro hy
    exact ⟨List.mem_append_left _ hy, hbefore y hy x List.mem_cons_self⟩
  · rintro ⟨hy, hlt⟩
    rcases List.mem_append.1 hy with hy | hy
    · exact hy
    · rcases List.mem_cons.1 hy with rfl | hy
      · exact absurd hlt (String.lt_irrefl _)
      · have hgt := (List.pairwise_cons.1 hafter).1 y hy
        exact absurd (String.lt_trans hlt hgt) (String.lt_irrefl _)

structure ScopeView.Shows (n : Model) (s : ScopeView) (scope : Scope) : Prop where
  mem : (s.name, scope) ∈ n.resolvedScopes
  keys : s.operations.map (·.apiName) = scope.methods.keys
  hasDefault : s.hasDefaultAccessor = true ↔ s.name ∈ scope.methods.keys

section Order

variable {r : Registry} {o : Options} {d : Dialect} {n : Model} {m : ModelView} {s : ScopeView}
  {op : OperationView} {before : List Assignment} {p : String} (hn : n ∈ r.describe o)
  (hview : n.view d = .ok m)
include hn hview

omit hn in
theorem ModelView.exists_shows (hs : s ∈ m.scopes) : ∃ scope, s.Shows n scope := by
  obtain ⟨actions, -, rfl⟩ := Model.view_eq_ok hview
  obtain ⟨⟨relation, scope⟩, hmem, rfl⟩ := List.mem_map.1 hs
  exact ⟨scope, hmem, by simp [Scope.view, Dictionary.keys, Method.operationView],
    by simp [Scope.view]⟩

theorem ModelView.sorted_scopes : (m.scopes.map (·.name)).Pairwise (· < ·) := by
  obtain ⟨m₀, -, h⟩ := Registry.exists_unresolved_of_mem hn
  have hnames : m.scopes.map (·.name) = n.resolvedScopes.keys := by
    obtain ⟨actions, -, rfl⟩ := Model.view_eq_ok hview
    exact List.map_map
  rw [hnames]
  exact Model.sorted_resolvedScopes h.sorted

theorem ScopeView.sorted_operations (hs : s ∈ m.scopes) :
    (s.operations.map (·.apiName)).Pairwise (· < ·) := by
  obtain ⟨scope, hshows⟩ := ModelView.exists_shows hview hs
  rw [hshows.keys]
  exact Registry.sorted_operations hn hshows.mem

theorem ScopeView.mem_keys_iff (hs : s ∈ m.scopes) (hdot : '.' ∉ p.toList) :
    p ∈ s.operations.map (·.apiName) ↔
      s.hasDefaultAccessor = true ∧ (p = s.name ∨ p = toCreateMany s.name) := by
  obtain ⟨scope, hshows⟩ := ModelView.exists_shows hview hs
  rw [hshows.keys, hshows.hasDefault]
  constructor
  · intro hp
    exact Registry.eq_of_mem_keys hn hshows.mem hp hdot
  · rintro ⟨hdefault, rfl | rfl⟩
    · exact hdefault
    · exact Registry.toCreateMany_mem_keys hn hshows.mem hdefault

omit hn hview in
theorem ScopeView.mem_base_iff :
    p ∈ s.base.map (·.path) ↔ s.hasDefaultAccessor = false ∧ p = s.name := by
  unfold ScopeView.base
  cases s.hasDefaultAccessor <;> simp [ScopeView.emptyObject]

omit hn hview in
@[simp] theorem ScopeView.map_path_accessor (s : ScopeView) (operations : List OperationView) :
    (operations.map s.accessor).map (·.path) = operations.map (·.apiName) := by
  rw [List.map_map]
  rfl

theorem ScopeView.mem_paths_iff (hs : s ∈ m.scopes) (hdot : '.' ∉ p.toList) :
    p ∈ s.assignments.map (·.path) ↔
      p = s.name ∨ s.hasDefaultAccessor = true ∧ p = toCreateMany s.name := by
  rw [ScopeView.assignments, List.map_append, List.mem_append, ScopeView.mem_base_iff,
    ScopeView.map_path_accessor, ScopeView.mem_keys_iff hn hview hs hdot]
  cases s.hasDefaultAccessor <;> simp

theorem ModelView.mem_before_iff (h : m.AssignsBefore before s op) (hdot : '.' ∉ p.toList)
    (hlt : p < op.apiName) (hp : p = s.name ∨ p = toCreateMany s.name) :
    p ∈ before.map (·.path) ↔
      p = s.name ∨ s.hasDefaultAccessor = true ∨ p < s.name ∧ p ∈ m.scopes.map (·.name) := by
  obtain ⟨scopes, scopes', operations, operations', hscopes, hoperations, rfl⟩ := h
  have hs : s ∈ m.scopes := hscopes ▸ List.mem_append_right _ List.mem_cons_self
  have hbefore : ∀ name, name ∈ scopes.map (·.name) ↔
      name ∈ m.scopes.map (·.name) ∧ name < s.name := by
    have hsorted := ModelView.sorted_scopes hn hview
    rw [hscopes, List.map_append, List.map_cons] at hsorted ⊢
    exact fun name => mem_before_iff_lt hsorted
  have hdone : p ∈ operations.map (·.apiName) ↔
      s.hasDefaultAccessor = true ∧ (p = s.name ∨ p = toCreateMany s.name) := by
    have hsorted := ScopeView.sorted_operations hn hview hs
    rw [← ScopeView.mem_keys_iff hn hview hs hdot]
    rw [hoperations, List.map_append, List.map_cons] at hsorted ⊢
    rw [mem_before_iff_lt hsorted, and_iff_left hlt]
  rw [List.map_append, List.mem_append, List.map_append, List.mem_append, ScopeView.mem_base_iff,
    ScopeView.map_path_accessor, hdone, List.map_flatMap, List.mem_flatMap]
  constructor
  · rintro (⟨s', hs', hpath⟩ | ⟨-, rfl⟩ | ⟨hdefault, -⟩)
    · obtain ⟨hmem, hless⟩ := (hbefore s'.name).1 (List.mem_map_of_mem hs')
      have hs'' : s' ∈ m.scopes := hscopes ▸ List.mem_append_left _ hs'
      rcases (ScopeView.mem_paths_iff hn hview hs'' hdot).1 hpath with rfl | ⟨-, hmany⟩
      · exact .inr (.inr ⟨hless, hmem⟩)
      · rcases hp with rfl | hself
        · exact .inl rfl
        · rcases eq_of_toCreateMany_eq (hmany.symm.trans hself) with heq | heq | heq
          · exact .inl (hself.trans heq)
          · rw [hmany, heq]
            exact .inr (.inr ⟨hless, hmem⟩)
          · rw [heq] at hless
            exact absurd hless (String.lt_irrefl _)
    · exact .inl rfl
    · exact .inr (.inl hdefault)
  · rintro (rfl | hdefault | ⟨hless, hmem⟩)
    · cases hdefault : s.hasDefaultAccessor with
      | true => exact .inr (.inr ⟨rfl, .inl rfl⟩)
      | false => exact .inr (.inl ⟨rfl, rfl⟩)
    · exact .inr (.inr ⟨hdefault, hp⟩)
    · obtain ⟨s', hs', rfl⟩ := List.mem_map.1 ((hbefore p).2 ⟨hmem, hless⟩)
      have hs'' : s' ∈ m.scopes := hscopes ▸ List.mem_append_left _ hs'
      exact .inl ⟨s', hs', (ScopeView.mem_paths_iff hn hview hs'' hdot).2 (.inl rfl)⟩

theorem ScopeView.default_first_iff (hs : s ∈ m.scopes) (hdefault : s.hasDefaultAccessor = true) :
    s.operations.head?.map (·.apiName) = some s.name ↔
      (mentionsCreate s.name = true → s.name < toCreateMany s.name) := by
  obtain ⟨scope, hshows⟩ := ModelView.exists_shows hview hs
  rw [← List.head?_map, hshows.keys]
  exact Registry.head?_keys_iff hn hshows.mem (hshows.hasDefault.1 hdefault)

end Order

namespace Registry

variable {r : Registry} {o : Options} {text : String}

/-- The accessors of relations are assigned in the order of their paths.  One that goes over an
object finds it assigned if that is the relation itself; the twin of a relation that mentions
`create` goes over that for many, which takes an accessor of the relation itself or another relation
before it.  The accessor of a relation itself is the first of the relation as long as it comes
before its twin. -/
theorem accessors_assigned_iff (h : r.generate o = .ok text) :
    ∃ v script, r.view o = .ok v ∧ text = String.ofList (Module.downlevel script) ∧
      ∀ m ∈ v.models,
        (∃ t accessors, Module.factory v m = .ok t ∧ t <:+: script ∧ accessors <:+: t ∧
          (Piece.each "scope" ["model", "scopes"] Module.scope).render (Module.bindings v m) =
            .ok accessors ∧
          Assignment.Sequence v.comments m.assignments accessors) ∧
        (∀ before s op, m.AssignsBefore before s op →
          (∃ after, m.assignments = before ++ s.accessor op :: after) ∧
          ∀ rel : RelationMethod, rel.scope = s.name → '.' ∉ rel.op.toList →
            '.' ∉ rel.scope.toList →
              (op.apiName = rel.apiName ∨ op.apiName = toCreateMany rel.apiName) →
                ∀ p, objectPath? op.apiName = some p → (p = s.name ∨ p = toCreateMany s.name) ∧
                  (p ∈ before.map (·.path) ↔ p = s.name ∨ s.hasDefaultAccessor = true ∨
                    p < s.name ∧ p ∈ m.scopes.map (·.name))) ∧
        ∀ s ∈ m.scopes, s.hasDefaultAccessor = true →
          (s.operations.head?.map (·.apiName) = some s.name ↔
            (mentionsCreate s.name = true → s.name < toCreateMany s.name)) := by
  obtain ⟨v, script, hv, hscript, rfl⟩ := generate_eq_ok h
  refine ⟨v, script, hv, rfl, ?_⟩
  intro m hm
  obtain ⟨n, hn, hview⟩ := exists_of_mem_of_forall₂ (ModelSet.forall₂_view hv).flip hm
  refine ⟨Module.exists_accessors hscript hm, ?_, ?_⟩
  · intro before s op hbefore
    refine ⟨hbefore.exists_after, ?_⟩
    intro rel hscope hop hdot hapi p hp
    obtain ⟨hobject, hdotless, hlt⟩ := RelationMethod.object_of_objectPath? hapi hop hdot hp
    rw [hscope] at hobject
    exact ⟨hobject, ModelView.mem_before_iff hn hview hbefore hdotless hlt hobject⟩
  · intro s hs hdefault
    exact ScopeView.default_first_iff hn hview hs hdefault

def journals : Registry where
  remotingVersion := 3
  classes := [
    { name := "journal"
      ctor := some ⟨none⟩
      description := none
      httpPath := none
      prototypeChain := []
      relations := [("created", ⟨some "journal", none⟩)]
      exposedMethods := none
      methods := [.served "prototype.__create__created" "/journals/:id/created"]
      properties := [] }]

theorem accessors_assigned_iff_journals :
    ∃ text, journals.generate .default = .ok text ∧ ∃ v, journals.view .default = .ok v ∧
      ∃ m ∈ v.models, ∃ before s op, m.AssignsBefore before s op ∧
        objectPath? op.apiName = some "createManyd" ∧ "createManyd" ∉ before.map (·.path) := by
  have hok : (journals.generate .default).isOk = true := by decide +kernel
  have hscopes : ((journals.view .default).toOption.any fun v => v.models.any fun m =>
      m.scopes.map (·.name) == ["created"] && m.scopes.head?.any fun s => !s.hasDefaultAccessor &&
        s.operations.head?.any (·.apiName == "createManyd.create")) = true := by decide +kernel
  cases hgenerate : journals.generate .default with
  | error e => rw [hgenerate] at hok; cases hok
  | ok text =>
    obtain ⟨v, script, hv, -, hall⟩ := accessors_assigned_iff hgenerate
    rw [hv] at hscopes
    simp only [Except.toOption, Option.any_some, List.any_eq_true, Bool.and_eq_true, beq_iff_eq,
      Option.any_eq_true, Bool.not_eq_true', List.head?_eq_some_iff] at hscopes
    obtain ⟨m, hm, hnames, s, ⟨scopes, hscopes⟩, hdefault, op, ⟨operations, hoperations⟩, hapi⟩ :=
      hscopes
    have hname : s.name = "created" := by
      rw [hscopes, List.map_cons] at hnames
      exact (List.cons.inj hnames).1
    have hbefore : m.AssignsBefore _ s op := ⟨[], scopes, [], operations, hscopes, hoperations, rfl⟩
    refine ⟨text, rfl, v, hv, m, hm, _, s, op, hbefore, by rw [hapi]; decide, ?_⟩
    have hiff := ((hall m hm).2.1 _ s op hbefore).2 ⟨"create", "created"⟩ hname.symm (by decide)
      (by decide) (.inr (by rw [hapi]; decide)) "createManyd" (by rw [hapi]; decide)
    rw [hiff.2, hname, hdefault, hnames]
    decide

end Registry

end AngularClient
