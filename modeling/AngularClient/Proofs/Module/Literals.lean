import AngularClient.Proofs.Json.Breaks
import AngularClient.Proofs.Module.Keys
import AngularClient.Proofs.Module.Lowering
import AngularClient.Proofs.Relation.ClassOrder
import AngularClient.Proofs.Template.Rendering

namespace AngularClient

section Unbroken

variable {s t : String}

theorem Text.Unbroken.append (hs : Text.Unbroken s) (ht : Text.Unbroken t) :
    Text.Unbroken (s ++ t) := by
  intro c hc
  rw [String.toList_append, List.mem_append] at hc
  exact hc.elim (hs c) (ht c)

theorem Text.Unbroken.not_mem (h : Text.Unbroken s) : '\n' ∉ s.toList := by
  intro hc
  cases h '\n' hc

theorem Text.unbroken_literal (s : String) : Text.Unbroken (Text.literal s) := by
  intro c hc
  rw [Text.literal, String.toList_ofList] at hc
  exact Text.Literal.endsLine_of_mem_write hc

theorem Text.Unbroken.intercalate {l : List String} (hs : Text.Unbroken s)
    (h : ∀ t ∈ l, Text.Unbroken t) : Text.Unbroken (s.intercalate l) := by
  induction l with
  | nil => exact fun c hc => by simp at hc
  | cons t l ih =>
    rw [List.forall_mem_cons] at h
    cases l with
    | nil => rw [String.intercalate_singleton]; exact h.1
    | cons u l =>
      rw [String.intercalate_cons_cons]
      exact (h.1.append hs).append (ih h.2)

theorem Parameter.unbroken_bindings (params : List Parameter) :
    Text.Unbroken (Parameter.bindings params) := by
  have hopen : Text.Unbroken "\x7b " := by unfold Text.Unbroken; simp [Text.Literal.endsLine]
  have hclose : Text.Unbroken " \x7d" := by unfold Text.Unbroken; simp [Text.Literal.endsLine]
  have hcomma : Text.Unbroken ", " := by unfold Text.Unbroken; simp [Text.Literal.endsLine]
  have hcolon : Text.Unbroken ": " := by unfold Text.Unbroken; simp [Text.Literal.endsLine]
  refine (hopen.append (hcomma.intercalate ?_)).append hclose
  intro t ht
  obtain ⟨p, -, rfl⟩ := List.mem_map.1 ht
  exact ((Text.unbroken_literal _).append hcolon).append (Text.unbroken_literal _)

end Unbroken

namespace Module

open Text (Unbroken)

def Braced (s : String) : Prop := ∃ inner, s.toList = '\x7b' :: (inner ++ ['\x7d'])

variable {s : String} {v : ModuleView} {m : ModelView} {script : List Char}

theorem stays_literal (s : String) : Stays (Text.literal s).toList where
  unbroken := not_mem_literal s
  begins := by
    rw [Text.literal, String.toList_ofList]
    exact ⟨_, _, rfl, rfl, by decide, by decide⟩
  ends := by
    rw [Text.literal, String.toList_ofList]
    exact ⟨_, _, rfl, rfl⟩

theorem Braced.stays (h : Braced s) (hbreak : '\n' ∉ s.toList) : Stays s.toList where
  unbroken := hbreak
  begins := by
    obtain ⟨inner, hs⟩ := h
    exact ⟨_, _, hs, rfl, by decide, by decide⟩
  ends := by
    obtain ⟨inner, hs⟩ := h
    exact ⟨'\x7b' :: inner, '\x7d', hs, rfl⟩

end Module

section Views

variable {x : Method} {n : Model} {d : Dialect} {m : ModelView} {t : String}

theorem Method.paramsLiteral_cases (h : t ∈ x.paramsLiteral n) :
    t = loginParams ∨ t = Parameter.bindings x.resourceParams := by
  unfold Method.paramsLiteral at h
  split at h
  · exact .inl (Option.mem_some_iff.1 h).symm
  · split at h
    · exact .inr (Option.mem_some_iff.1 h).symm
    · cases h

theorem Method.unbroken_paramsLiteral (h : t ∈ x.paramsLiteral n) : Text.Unbroken t := by
  rcases Method.paramsLiteral_cases h with rfl | rfl
  · unfold Text.Unbroken loginParams
    simp [Text.Literal.endsLine]
  · exact Parameter.unbroken_bindings _

theorem Method.braced_paramsLiteral (h : t ∈ x.paramsLiteral n) : Module.Braced t := by
  have hopen : "\x7b ".toList = ['\x7b', ' '] := rfl
  have hclose : " \x7d".toList = [' ', '\x7d'] := rfl
  rcases Method.paramsLiteral_cases h with rfl | rfl
  · exact ⟨" include: 'user' ".toList, rfl⟩
  · unfold Parameter.bindings
    generalize ", ".intercalate (x.resourceParams.map (·.binding)) = inner
    refine ⟨' ' :: (inner.toList ++ [' ']), ?_⟩
    simp only [String.toList_append, hopen, hclose, List.cons_append, List.nil_append,
      List.append_assoc]

theorem Schema.braced_text (s : Schema) : Module.Braced s.text := by
  have hopen : "\x7b\"name\":".toList = '\x7b' :: "\"name\":".toList := rfl
  unfold Schema.text Module.Braced
  rw [hopen]
  generalize "\"name\":".toList = opening, ",\"properties\":".toList = between
  refine ⟨opening ++ Json.writeString s.name ++ between ++ (Json.object s.properties).write, ?_⟩
  rw [String.toList_ofList]
  simp only [List.cons_append, List.append_assoc]

end Views

namespace Module

open Template (Reaches)

variable {v : ModuleView} {m : ModelView} {a : ActionView} {s : String} {script : List Char}
  {filters : List Filter} {j : Json}

theorem holds_of_braced (h : Braced s) : (Json.string s).holds = true := by
  obtain ⟨inner, hs⟩ := h
  rw [Json.holds, bne_iff_ne]
  rintro rfl
  cases hs

theorem reaches_resource (hm : m ∈ v.models)
    (h : Reaches (("model", m.toJson) :: v.context) resource filters j) :
    Reaches v.context services filters j :=
  .of_mem (List.mem_append_left _ (List.mem_append_right _ (List.mem_singleton_self _)))
    (.of_item (Bindings.find?_ofList rfl) (List.mem_map_of_mem hm) (.later h))

theorem reaches_paramsLiteral (hm : m ∈ v.models) (ha : a ∈ m.actions) (hs : a.paramsLiteral = some s)
    (hbraced : Braced s) : Reaches v.context services [] (.string s) := by
  have hfind : Bindings.find? (("action", a.toJson) :: ("model", m.toJson) :: v.context)
      ["action", "params_literal"] = some (.optional a.paramsLiteral) := Bindings.find?_written rfl
  rw [hs] at hfind
  apply reaches_resource hm
  refine .of_mem (List.mem_of_getElem? (i := 13) rfl) ?_
  refine .of_item (Bindings.find?_written rfl) (List.mem_map_of_mem ha) ?_
  refine .of_mem (List.mem_of_getElem? (i := 4) rfl) ?_
  refine .yes ?_ (.later (.slot hfind))
  rw [Condition.eval, hfind]
  exact holds_of_braced hbraced

theorem reaches_schemaText (hm : m ∈ v.models) (hv : v.includeSchema = true)
    (hs : m.schemaText = some s) (hbraced : Braced s) :
    Reaches v.context services [] (.string s) := by
  have hfind : Bindings.find? (("model", m.toJson) :: v.context) ["model", "schema_json"] =
      some (.optional m.schemaText) := Bindings.find?_written rfl
  rw [hs] at hfind
  apply reaches_resource hm
  refine .of_mem (List.mem_of_getElem? (i := 20) rfl) ?_
  refine .yes ?_ (.later (.slot hfind))
  have hwanted : Bindings.find? (("model", m.toJson) :: v.context) ["include_schema"] =
      some (.bool v.includeSchema) := by
    rw [Bindings.find?_cons_of_ne (by decide)]
    exact Bindings.find?_ofList rfl
  rw [Condition.eval, Bool.and_eq_true, Condition.eval_holds hwanted, Condition.eval_holds hfind]
  exact ⟨hv, holds_of_braced hbraced⟩

theorem fill_infix_downlevel (h : Template.renderNamed servicesName v.context = .ok script)
    (hslot : Reaches v.context services filters j) :
    ∃ s, Filter.fill filters j = some s ∧ (Stays s → s <:+: downlevel script) := by
  have hrender : Template.render v.context services = .ok script :=
    Except.mapError_eq_ok_iff.1 h
  obtain ⟨s, hs, hinfix⟩ := hslot.fill_infix hrender
  exact ⟨s, hs, fun hstays => infix_downlevel hstays hinfix⟩

theorem plain_infix_downlevel (h : Template.renderNamed servicesName v.context = .ok script)
    (hslot : Reaches v.context services [] (.string s)) (hstays : Stays s.toList) :
    s.toList <:+: downlevel script := by
  obtain ⟨filled, hfill, hinfix⟩ := fill_infix_downlevel h hslot
  obtain rfl : s.toList = filled := Option.some.inj hfill
  exact hinfix hstays

end Module

namespace Registry

variable {r : Registry} {o : Options} {v : ModuleView} {text : String}

theorem forall_schema_describe_iff {p : Schema → Prop} :
    (∀ n ∈ r.describe o, ∀ schema ∈ n.schema, p schema) ↔
      (o.includeSchema = true → ∀ m ∈ (r.collect o).models.takeSchemas r, ∀ schema ∈ m.schema,
        p schema) := by
  have hschema : ∀ m n : Model, m.Becomes r o n ∧ n ∈ r.describe o →
      ((o.includeSchema = true → ∀ schema ∈ (m.withSchema r).schema, p schema) ↔
        ∀ schema ∈ n.schema, p schema) := by
    rintro m n ⟨hn, hmem⟩
    rw [schema_describe hmem, hn.name, hn.declaredName]
    split
    · next hs => simp [Model.withSchema, hs]
    · next hs => simp [hs]
  rw [← forall_mem_congr_of_forall₂ (forall₂_becomes r o) hschema]
  simp only [unresolved, ModelSet.augment, ModelSet.takeSchemas, List.forall_mem_map]
  exact ⟨fun h hs m hm => h m hm hs, fun h m hm hs => h hs m hm⟩

theorem unbroken_schemas_iff (h : r.view o = .ok v) :
    (∀ m ∈ v.models, ∀ s ∈ m.schemaText, Text.Unbroken s) ↔
      (o.includeSchema = true → ∀ m ∈ (r.collect o).models.takeSchemas r, ∀ schema ∈ m.schema,
        ∀ s ∈ schema.texts, Text.Unseparated s) := by
  rw [← forall_schema_describe_iff]
  apply Iff.symm
  apply forall_mem_congr_of_forall₂ (ModelSet.forall₂_view h)
  intro n m hm
  obtain ⟨actions, -, rfl⟩ := Model.view_eq_ok hm
  simp only [Option.mem_def, Option.map_eq_some_iff, forall_exists_index,
    and_imp, forall_apply_eq_imp_iff₂, Schema.unbroken_text_iff]

/-- All that is quoted stands in the text on one line, whatever it quotes: names and paths, and the
default parameters of actions.  A schema stands there without line feeds and carriage returns, but
with every line or paragraph separator of a name, a type or a further member of a property. -/
theorem literals_unbroken_iff (h : r.generate o = .ok text) :
    ∃ v, r.view o = .ok v ∧
      (∀ filters j, Template.Reaches v.context Module.services (filters ++ [.literal]) j →
        ∃ s, Filter.fill (filters ++ [.literal]) j = some (Text.literal s).toList ∧
          Text.Unbroken (Text.literal s) ∧ (Text.literal s).toList <:+: text.toList) ∧
      (∀ m ∈ v.models, ∀ a ∈ m.actions, ∀ s ∈ a.paramsLiteral,
        Text.Unbroken s ∧ s.toList <:+: text.toList) ∧
      (∀ m ∈ v.models, ∀ s ∈ m.schemaText,
        '\n' ∉ s.toList ∧ '\r' ∉ s.toList ∧ s.toList <:+: text.toList) ∧
      ((∀ m ∈ v.models, ∀ s ∈ m.schemaText, Text.Unbroken s) ↔
        (o.includeSchema = true → ∀ m ∈ (r.collect o).models.takeSchemas r, ∀ schema ∈ m.schema,
          ∀ s ∈ schema.texts, Text.Unseparated s)) := by
  obtain ⟨v, script, hv, hscript, rfl⟩ := generate_eq_ok h
  simp only [String.toList_ofList]
  refine ⟨v, hv, ?_, ?_, ?_, unbroken_schemas_iff hv⟩
  · intro filters j hslot
    obtain ⟨s, hs, hinfix⟩ := Module.fill_infix_downlevel hscript hslot
    obtain ⟨value, rfl⟩ := Filter.fill_concat_literal hs
    exact ⟨value, hs, Text.unbroken_literal value, hinfix (Module.stays_literal value)⟩
  · intro m hm a ha s hs
    obtain ⟨n, -, hview⟩ := exists_of_mem_of_forall₂ (ModelSet.forall₂_view hv).flip hm
    obtain ⟨actions, hactions, rfl⟩ := Model.view_eq_ok hview
    obtain ⟨x, -, hx⟩ := exists_of_mem_of_forall₂ hactions.flip ha
    obtain ⟨verb, url, -, -, rfl⟩ := Method.view_eq_ok hx
    have hbraced := Method.braced_paramsLiteral hs
    have hunbroken := Method.unbroken_paramsLiteral hs
    exact ⟨hunbroken, Module.plain_infix_downlevel hscript
      (Module.reaches_paramsLiteral hm ha hs hbraced) (hbraced.stays hunbroken.not_mem)⟩
  · intro m hm s hs
    obtain ⟨n, hn, hview⟩ := exists_of_mem_of_forall₂ (ModelSet.forall₂_view hv).flip hm
    obtain ⟨actions, -, rfl⟩ := Model.view_eq_ok hview
    obtain ⟨schema, hschema, rfl⟩ := Option.map_eq_some_iff.1 hs
    have hwanted : v.includeSchema = true := by
      obtain ⟨models, -, rfl⟩ := ModelSet.view_eq_ok hv
      by_contra hnot
      rw [schema_describe hn, if_neg hnot] at hschema
      cases hschema
    -- Line feeds and carriage returns end a line, but JSON escapes them.
    have hbreak : ∀ c, Text.Literal.endsLine c = true → Text.separates c = false →
        c ∉ schema.text.toList := by
      intro c hc hsep hmem
      rw [((schema.mem_text_iff hc).1 hmem).1] at hsep
      cases hsep
    have hbraced := schema.braced_text
    exact ⟨hbreak '\n' rfl rfl, hbreak '\r' rfl rfl, Module.plain_infix_downlevel hscript
      (Module.reaches_schemaText hm hwanted hs hbraced) (hbraced.stays (hbreak '\n' rfl rfl))⟩

def recipes : Registry where
  remotingVersion := 3
  classes := [
    { name := "recipe"
      ctor := some ⟨none⟩
      description := none
      httpPath := none
      prototypeChain := []
      relations := []
      exposedMethods := none
      methods := []
      properties := [("serves\u2028from", ⟨some (.name "string"), []⟩)] }]

theorem literals_unbroken_iff_recipes :
    ∃ text, recipes.generate { Options.default with includeSchema := true } = .ok text ∧
      ∃ v, recipes.view { Options.default with includeSchema := true } = .ok v ∧
        ∃ m ∈ v.models, ∃ s ∈ m.schemaText, s.toList <:+: text.toList ∧ ¬ Text.Unbroken s := by
  have hok : (recipes.generate { Options.default with includeSchema := true }).isOk = true := by
    decide +kernel
  generalize ho : { Options.default with includeSchema := true } = o at hok ⊢
  cases hgenerate : recipes.generate o with
  | error e => rw [hgenerate] at hok; cases hok
  | ok text =>
    obtain ⟨v, hv, -, -, hschemas, hiff⟩ := literals_unbroken_iff hgenerate
    refine ⟨text, rfl, v, hv, ?_⟩
    by_contra hnone
    have hall : ∀ m ∈ v.models, ∀ s ∈ m.schemaText, Text.Unbroken s := by
      intro m hm s hs
      by_contra hbroken
      exact hnone ⟨m, hm, s, hs, (hschemas m hm s hs).2.2, hbroken⟩
    subst ho
    have hwhole := hiff.1 hall rfl _ List.mem_cons_self _ rfl "serves\u2028from"
      (List.mem_cons_of_mem _ List.mem_cons_self)
    exact absurd (hwhole '\u2028' (by decide)) (by decide)

end Registry

end AngularClient
