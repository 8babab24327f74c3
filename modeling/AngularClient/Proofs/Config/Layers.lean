import AngularClient.CommandLine.Reader
import AngularClient.Options.Reader
import AngularClient.Proofs.Toml.Record

namespace AngularClient

namespace Options

open Document (string? bool? list? read?)

structure Layer where
  moduleName : Option String
  apiUrl : Option String
  includeCommonModules : Option Bool
  namespaceModels : Option Bool
  namespaceCommonModels : Option Bool
  namespaceDelimiter : Option String
  modelsToIgnore : Option (List String)
  comments : Option Bool
  includeSchema : Option Bool
  deriving DecidableEq

namespace Layer

def empty : Layer := ⟨none, none, none, none, none, none, none, none, none⟩

def above (upper lower : Layer) : Layer where
  moduleName := upper.moduleName.or lower.moduleName
  apiUrl := upper.apiUrl.or lower.apiUrl
  includeCommonModules := upper.includeCommonModules.or lower.includeCommonModules
  namespaceModels := upper.namespaceModels.or lower.namespaceModels
  namespaceCommonModels := upper.namespaceCommonModels.or lower.namespaceCommonModels
  namespaceDelimiter := upper.namespaceDelimiter.or lower.namespaceDelimiter
  modelsToIgnore := upper.modelsToIgnore.or lower.modelsToIgnore
  comments := upper.comments.or lower.comments
  includeSchema := upper.includeSchema.or lower.includeSchema

def applyTo (l : Layer) (o : Options) : Options where
  moduleName := l.moduleName.getD o.moduleName
  apiUrl := l.apiUrl.getD o.apiUrl
  includeCommonModules := l.includeCommonModules.getD o.includeCommonModules
  namespaceModels := l.namespaceModels.getD o.namespaceModels
  namespaceCommonModels := l.namespaceCommonModels.getD o.namespaceCommonModels
  namespaceDelimiter := l.namespaceDelimiter.getD o.namespaceDelimiter
  modelsToIgnore := l.modelsToIgnore.getD o.modelsToIgnore
  comments := l.comments.getD o.comments
  includeSchema := l.includeSchema.getD o.includeSchema

def ofDocument? (d : Document) : Option Layer := do
  let fields ← d.record? fieldNames
  return {
    moduleName := ← read? string? (fields.lookup "module_name")
    apiUrl := ← read? string? (fields.lookup "api_url")
    includeCommonModules := ← read? bool? (fields.lookup "include_common_modules")
    namespaceModels := ← read? bool? (fields.lookup "namespace_models")
    namespaceCommonModels := ← read? bool? (fields.lookup "namespace_common_models")
    namespaceDelimiter := ← read? string? (fields.lookup "namespace_delimiter")
    modelsToIgnore := ← read? (list? string?) (fields.lookup "models_to_ignore")
    comments := ← read? bool? (fields.lookup "comments")
    includeSchema := ← read? bool? (fields.lookup "include_schema")
  }

variable {l lower upper : Layer} {d : Document} {base top : List (String × Toml)}

@[simp] theorem above_empty (l : Layer) : l.above empty = l := by simp [above, empty]

@[simp] theorem empty_above (l : Layer) : empty.above l = l := by simp [above, empty]

structure Reads (lookup : String → Option Document) (l : Layer) : Prop where
  moduleName : read? string? (lookup "module_name") = some l.moduleName
  apiUrl : read? string? (lookup "api_url") = some l.apiUrl
  includeCommonModules : read? bool? (lookup "include_common_modules") = some l.includeCommonModules
  namespaceModels : read? bool? (lookup "namespace_models") = some l.namespaceModels
  namespaceCommonModels :
    read? bool? (lookup "namespace_common_models") = some l.namespaceCommonModels
  namespaceDelimiter : read? string? (lookup "namespace_delimiter") = some l.namespaceDelimiter
  modelsToIgnore : read? (list? string?) (lookup "models_to_ignore") = some l.modelsToIgnore
  comments : read? bool? (lookup "comments") = some l.comments
  includeSchema : read? bool? (lookup "include_schema") = some l.includeSchema

theorem ofDocument?_eq_some_iff : ofDocument? d = some l ↔
    ∃ fields, d.record? fieldNames = some fields ∧ l.Reads fun name => fields.lookup name := by
  rw [ofDocument?, Option.bind_eq_bind, Option.bind_eq_some_iff]
  apply exists_congr
  intro fields
  apply and_congr_right
  intro _
  constructor
  · intro h
    obtain ⟨_, hmoduleName, h⟩ := Option.bind_eq_some_iff.1 h
    obtain ⟨_, hapiUrl, h⟩ := Option.bind_eq_some_iff.1 h
    obtain ⟨_, hincludeCommonModules, h⟩ := Option.bind_eq_some_iff.1 h
    obtain ⟨_, hnamespaceModels, h⟩ := Option.bind_eq_some_iff.1 h
    obtain ⟨_, hnamespaceCommonModels, h⟩ := Option.bind_eq_some_iff.1 h
    obtain ⟨_, hnamespaceDelimiter, h⟩ := Option.bind_eq_some_iff.1 h
    obtain ⟨_, hmodelsToIgnore, h⟩ := Option.bind_eq_some_iff.1 h
    obtain ⟨_, hcomments, h⟩ := Option.bind_eq_some_iff.1 h
    obtain ⟨_, hincludeSchema, h⟩ := Option.bind_eq_some_iff.1 h
    cases h
    exact ⟨hmoduleName, hapiUrl, hincludeCommonModules, hnamespaceModels, hnamespaceCommonModels,
      hnamespaceDelimiter, hmodelsToIgnore, hcomments, hincludeSchema⟩
  · intro h
    simp only [h.moduleName, h.apiUrl, h.includeCommonModules, h.namespaceModels,
      h.namespaceCommonModels, h.namespaceDelimiter, h.modelsToIgnore, h.comments, h.includeSchema]
    rfl

theorem Reads.laid {b t : String → Option Toml}
    (hb : lower.Reads fun name => (b name).map Toml.toDocument)
    (ht : upper.Reads fun name => (t name).map Toml.toDocument) :
    (upper.above lower).Reads fun name => (Toml.laid? (b name) (t name)).map Toml.toDocument where
  moduleName := Toml.read?_laid? (fun _ => rfl) hb.moduleName ht.moduleName
  apiUrl := Toml.read?_laid? (fun _ => rfl) hb.apiUrl ht.apiUrl
  includeCommonModules :=
    Toml.read?_laid? (fun _ => rfl) hb.includeCommonModules ht.includeCommonModules
  namespaceModels := Toml.read?_laid? (fun _ => rfl) hb.namespaceModels ht.namespaceModels
  namespaceCommonModels :=
    Toml.read?_laid? (fun _ => rfl) hb.namespaceCommonModels ht.namespaceCommonModels
  namespaceDelimiter := Toml.read?_laid? (fun _ => rfl) hb.namespaceDelimiter ht.namespaceDelimiter
  modelsToIgnore := Toml.read?_laid? (fun _ => rfl) hb.modelsToIgnore ht.modelsToIgnore
  comments := Toml.read?_laid? (fun _ => rfl) hb.comments ht.comments
  includeSchema := Toml.read?_laid? (fun _ => rfl) hb.includeSchema ht.includeSchema

theorem ofDocument?_table_iff (h : Dictionary.Sorted base) :
    ofDocument? (Toml.table base).toDocument = some l ↔ Toml.SpelledOnce fieldNames base ∧
      l.Reads fun name => (Toml.given? fieldNames base name).map Toml.toDocument := by
  simp only [ofDocument?_eq_some_iff, Toml.record?_eq_some_iff h, and_assoc, exists_and_left,
    exists_eq_left, Toml.lookup_fields]

/-- A table of options over another sets what the two set, unless they spell an option in two ways:
then it cannot be read. -/
theorem ofDocument?_overlay (hbase : Dictionary.Sorted base) (htop : Dictionary.Sorted top)
    (hlower : ofDocument? (Toml.table base).toDocument = some lower)
    (hupper : ofDocument? (Toml.table top).toDocument = some upper) :
    (Toml.Clash fieldNames base top →
        ofDocument? (Toml.table (Toml.overlayEntries base top)).toDocument = none) ∧
      (¬ Toml.Clash fieldNames base top →
        ofDocument? (Toml.table (Toml.overlayEntries base top)).toDocument =
          some (upper.above lower)) := by
  have hsorted := Toml.sorted_overlayEntries hbase top
  rw [ofDocument?_table_iff hbase] at hlower
  rw [ofDocument?_table_iff htop] at hupper
  constructor
  · intro hclash
    rw [Option.eq_none_iff_forall_ne_some]
    intro l hl
    rw [ofDocument?_table_iff hsorted, Toml.spelledOnce_overlayEntries_iff htop] at hl
    exact hl.1.2.2 hclash
  · intro hclash
    have honce := (Toml.spelledOnce_overlayEntries_iff htop).2 ⟨hlower.1, hupper.1, hclash⟩
    rw [ofDocument?_table_iff hsorted]
    simp only [Toml.given?_overlayEntries htop honce]
    exact ⟨honce, hlower.2.laid hupper.2⟩

end Layer

theorem ofDocument?_eq (d : Document) :
    ofDocument? d = (Layer.ofDocument? d).map (·.applyTo default) := by
  rw [ofDocument?, Layer.ofDocument?]
  cases d.record? fieldNames with
  | none => rfl
  | some fields =>
    simp [Document.Fields.withDefault_eq, Option.bind_map, Option.map_bind, Layer.applyTo]

end Options

namespace GenerateCommand

def layer (c : GenerateCommand) : Options.Layer where
  moduleName := c.setting? .moduleName
  apiUrl := c.setting? .apiUrl
  includeCommonModules := if c.has .noCommonModules then some false else none
  namespaceModels := if c.has .namespaceModels then some true else none
  namespaceCommonModels := if c.has .namespaceCommonModels then some true else none
  namespaceDelimiter := c.setting? .namespaceDelimiter
  modelsToIgnore := none
  comments := if c.has .comments then some true else none
  includeSchema := if c.has .includeSchema then some true else none

def optionsOver (c : GenerateCommand) (l : Options.Layer) : Options :=
  let o := (c.layer.above l).applyTo .default
  { o with modelsToIgnore := o.modelsToIgnore ++ c.ignored }

theorem apply_defaults (c : GenerateCommand) (l : Options.Layer) :
    c.apply (l.applyTo .default) = c.optionsOver l := by
  -- A flag sets an option to one of its values only, so below it the other layers still count.
  have hsetting : ∀ (x y : Option String) (z : String), x.getD (y.getD z) = (x.or y).getD z := by
    intro x y z
    cases x <;> rfl
  have hset : ∀ (x : Option Bool) (b z : Bool),
      (x.getD z || b) = ((if b then some true else none).or x).getD z := by
    intro x b z
    cases b <;> simp
  have hreset : ∀ (x : Option Bool) (b z : Bool),
      (x.getD z && !b) = ((if b then some false else none).or x).getD z := by
    intro x b z
    cases b <;> simp
  simp only [apply, optionsOver, Options.Layer.applyTo, Options.Layer.above, layer, hsetting, hset,
    hreset, Option.none_or]

end GenerateCommand

end AngularClient
