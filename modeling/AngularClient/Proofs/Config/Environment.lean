import AngularClient.Proofs.Config.Precedence
import AngularClient.Proofs.Toml.Paths

/-! The active environment of what is loaded.  It is found out twice: before the overlay is laid over
the base file, to know which overlay that is, and again when the two are read as a configuration.
There the files go before the process. -/

namespace AngularClient

def Toml.word? : Toml → Option String
  | .string s | .moment s => some s
  | _ => none

@[simp] theorem Toml.string?_toDocument (t : Toml) : Document.string? t.toDocument = t.word? := by
  cases t <;> rfl

namespace Config

open Document (read? string?)

def sectionEnvironment? : Toml → Option String
  | .array items => items.head?.bind (·.word?)
  | t => (t.find? "active").bind (·.word?)

def fileEnvironment? (t : Toml) : Option String :=
  (t.find? "environment").bind sectionEnvironment?

inductive Loaded (processEnvironment : Option String) (store : FileStore) : Toml → Toml → Prop
  | alone {base : Toml} (hbase : readToml store basePath = .ok base)
    (hnone : store.contains (overlayPath (activeEnvironment processEnvironment base)) = false) :
    Loaded processEnvironment store base base
  | layered {base top : Toml} (hbase : readToml store basePath = .ok base)
    (htop : readToml store (overlayPath (activeEnvironment processEnvironment base)) = .ok top) :
    Loaded processEnvironment store base (base.overlay top)

variable {processEnvironment : Option String} {store : FileStore} {base t : Toml} {config : Config}

section Reading

theorem ordered_of_readToml {path : String} (h : readToml store path = .ok t) : t.Ordered := by
  obtain ⟨-, text, htext⟩ := readToml_eq_ok h
  exact Toml.ordered_of_ofText? htext

theorem Loaded.ordered (h : Loaded processEnvironment store base t) : t.Ordered := by
  cases h with
  | alone hbase _ => exact ordered_of_readToml hbase
  | layered hbase htop => exact (ordered_of_readToml hbase).overlay (ordered_of_readToml htop)

theorem exists_loaded (h : loadToml processEnvironment store = .ok t) :
    ∃ base, Loaded processEnvironment store base t := by
  obtain ⟨base, hbase, h⟩ := Except.bind_eq_ok_iff.1 h
  refine ⟨base, ?_⟩
  dsimp only at h
  split at h
  · obtain ⟨top, htop, h⟩ := Except.bind_eq_ok_iff.1 h
    cases h
    exact .layered hbase htop
  · next hnone =>
    cases h
    exact .alone hbase (Bool.eq_false_of_not_eq_true hnone)

theorem eq_of_read?_string? {x : Option Toml} {y : Option String}
    (h : read? string? (x.map Toml.toDocument) = some y) : y = x.bind (·.word?) := by
  cases x with
  | none => exact (Option.some.inj h).symm
  | some t =>
    rw [Option.map_some, read?, Toml.string?_toDocument] at h
    rw [Option.bind_some]
    cases hw : t.word? with
    | none => rw [hw] at h; cases h
    | some w => rw [hw] at h; exact (Option.some.inj h).symm

theorem environment?_cases {environment : String} (hordered : t.Ordered)
    (h : environment? processEnvironment t.toDocument = some environment) :
    environment = (sectionEnvironment? t).getD (defaultEnvironment processEnvironment) := by
  cases t with
  | table entries =>
    rw [environment?_table hordered.sorted] at h
    obtain ⟨y, hy, rfl⟩ := Option.map_eq_some_iff.1 h
    rw [eq_of_read?_string? hy]
    rfl
  | array items =>
    match items with
    | [] => exact (Option.some.inj h).symm
    | [item] =>
      have hitem : string? item.toDocument = some environment := h
      rw [Toml.string?_toDocument] at hitem
      rw [sectionEnvironment?, List.head?_cons, Option.bind_some, hitem, Option.getD_some]
    | _ :: _ :: _ =>
      simp [environment?, Toml.toDocument, Toml.itemsToDocument, Document.record?] at h
  | _ => cases h

theorem environment_of_ofDocument? {entries : List (String × Toml)}
    (hordered : (Toml.table entries).Ordered)
    (h : ofDocument? processEnvironment (Toml.table entries).toDocument = some config) :
    config.environment =
      (fileEnvironment? (.table entries)).getD (defaultEnvironment processEnvironment) := by
  rw [ofDocument?_table hordered.sorted] at h
  obtain ⟨_, -, h⟩ := Option.bind_eq_some_iff.1 h
  obtain ⟨_, -, h⟩ := Option.bind_eq_some_iff.1 h
  obtain ⟨x, hx, h⟩ := Option.bind_eq_some_iff.1 h
  cases h
  rw [fileEnvironment?, Toml.find?]
  cases hfind : Dictionary.find? entries "environment" with
  | none =>
    rw [hfind] at hx
    cases hx
    rfl
  | some inner =>
    rw [hfind, Option.map_some, read?] at hx
    obtain ⟨environment, henvironment, rfl⟩ := Option.map_eq_some_iff.1 hx
    exact environment?_cases (hordered.find? hfind) henvironment

theorem Loaded.exists_entries (h : Loaded processEnvironment store base t)
    (hvalid : (ofDocument? processEnvironment t.toDocument).isSome = true) :
    ∃ entries, t = .table entries := by
  cases h with
  | alone hbase _ => exact (Config.exists_entries hbase hvalid).2
  | @layered top _ htop =>
    rcases Toml.overlay_cases base top with ⟨-, hover⟩ | ⟨_, _, rfl, rfl⟩
    · rw [hover] at hvalid ⊢
      exact (Config.exists_entries htop hvalid).2
    · exact ⟨_, rfl⟩

end Reading

/-- The environment of a loaded configuration is the one that the files name, or else that of the
process, or else development.  It is the one whose overlay was looked for just if the files, taken
together, name that one, or name none while the process or nobody decided which one it was. -/
theorem environment_loaded (h : load processEnvironment store = .ok config) :
    ∃ base t, Loaded processEnvironment store base t ∧
      config.environment = (fileEnvironment? t).getD (processEnvironment.getD "development") ∧
      (config.environment = activeEnvironment processEnvironment base ↔
        match fileEnvironment? t with
        | some environment => environment = activeEnvironment processEnvironment base
        | none => processEnvironment.isSome = true ∨
          activeEnvironment processEnvironment base = "development") := by
  obtain ⟨t, ht, h⟩ := Except.bind_eq_ok_iff.1 h
  obtain ⟨base, hloaded⟩ := exists_loaded ht
  have hconfig : ofDocument? processEnvironment t.toDocument = some config := by
    split at h
    · next hread =>
      cases h
      exact hread
    · cases h
  obtain ⟨entries, rfl⟩ := hloaded.exists_entries (Option.isSome_of_mem hconfig)
  have henvironment := environment_of_ofDocument? hloaded.ordered hconfig
  refine ⟨base, _, hloaded, henvironment, ?_⟩
  rw [henvironment]
  cases fileEnvironment? (.table entries) with
  | some environment => rfl
  | none =>
    rw [Option.getD_none, defaultEnvironment]
    cases processEnvironment with
    | some environment => simp [activeEnvironment]
    | none => simp [eq_comm]

def stagingFiles : FileStore :=
  [("lbng.toml", .file "[environment]\nactive = \"staging\"\n".toUTF8)]

/-- The process asks for production, and that overlay is looked for; what is loaded says staging. -/
theorem environment_loaded_staging :
    ∃ config base t, load (some "production") stagingFiles = .ok config ∧
      Loaded (some "production") stagingFiles base t ∧
      activeEnvironment (some "production") base = "production" ∧
      config.environment = "staging" ∧ fileEnvironment? t = some "staging" := by
  have hload : ((load (some "production") stagingFiles).toOption.any fun config =>
      config.environment == "staging") = true := by decide +kernel
  cases hconfig : load (some "production") stagingFiles with
  | error e => rw [hconfig] at hload; cases hload
  | ok config =>
    rw [hconfig] at hload
    have hstaging : config.environment = "staging" := by simpa [Except.toOption] using hload
    obtain ⟨base, t, hloaded, henvironment, -⟩ := environment_loaded hconfig
    refine ⟨config, base, t, rfl, hloaded, rfl, hstaging, ?_⟩
    cases hfile : fileEnvironment? t with
    | some environment =>
      rw [hstaging, hfile] at henvironment
      rw [henvironment, Option.getD_some]
    | none =>
      rw [hstaging, hfile] at henvironment
      exact absurd henvironment (by decide)

end Config

end AngularClient
