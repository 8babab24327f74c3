import AngularClient.CommandLine.Run
import AngularClient.Proofs.Config.Layers
import AngularClient.Proofs.Except

namespace AngularClient

namespace Config

open Document (read? string? nullable?)

variable {processEnvironment : Option String} {entries base top : List (String × Toml)}
  {b t : Option Toml} {config : Config}

section Sections

theorem outputPath?_table (h : Dictionary.Sorted entries) :
    outputPath? (Toml.table entries).toDocument =
      (read? (nullable? string?) ((Dictionary.find? entries "path").map Toml.toDocument)).map
        (·.getD none) := by
  obtain ⟨found, hfound, hlookup⟩ := Toml.exists_record?_named h ["path"]
  have hform : outputPath? (Toml.table entries).toDocument =
      ((Toml.table entries).toDocument.record? (Toml.named ["path"])).bind fun fields =>
        fields.optional "path" string? := by
    rw [Toml.toDocument]
    rfl
  rw [hform, hfound, Option.bind_some, Document.Fields.optional, Document.Fields.withDefault_eq,
    hlookup "path" (by simp)]

theorem environment?_table (h : Dictionary.Sorted entries) :
    environment? processEnvironment (Toml.table entries).toDocument =
      (read? string? ((Dictionary.find? entries "active").map Toml.toDocument)).map
        (·.getD (defaultEnvironment processEnvironment)) := by
  obtain ⟨found, hfound, hlookup⟩ := Toml.exists_record?_named h ["active"]
  have hform : environment? processEnvironment (Toml.table entries).toDocument =
      ((Toml.table entries).toDocument.record? (Toml.named ["active"])).bind fun fields =>
        fields.withDefault "active" (defaultEnvironment processEnvironment) string? := rfl
  rw [hform, hfound, Option.bind_some, Document.Fields.withDefault_eq, hlookup "active" (by simp)]

theorem ofDocument?_table (h : Dictionary.Sorted entries) :
    ofDocument? processEnvironment (Toml.table entries).toDocument = do
      let options ← read? Options.ofDocument?
        ((Dictionary.find? entries "generator").map Toml.toDocument)
      let path ← read? outputPath? ((Dictionary.find? entries "output").map Toml.toDocument)
      let environment ← read? (environment? processEnvironment)
        ((Dictionary.find? entries "environment").map Toml.toDocument)
      return ⟨options.getD .default, path.getD none,
        environment.getD (defaultEnvironment processEnvironment)⟩ := by
  obtain ⟨found, hfound, hlookup⟩ :=
    Toml.exists_record?_named h ["generator", "output", "environment"]
  have hgenerator := hlookup "generator" (by simp)
  have houtput := hlookup "output" (by simp)
  have henvironment := hlookup "environment" (by simp)
  have hform : (Toml.table entries).toDocument.record? [["generator"], ["output"], ["environment"]] =
      some found := hfound
  rw [ofDocument?, hform]
  simp only [Document.Fields.withDefault_eq, hgenerator, houtput, henvironment, default,
    Option.bind_eq_bind, Option.bind_some, Option.bind_map]
  rfl

theorem isSome_read?_laid? {α β : Type} {section? : Document → Option α}
    (value : Document → Option β) {key : String} (hvalue : ∀ members, value (.object members) = none)
    (htable : ∀ {entries}, Dictionary.Sorted entries →
      (section? (Toml.table entries).toDocument).isSome =
        (read? value ((Dictionary.find? entries key).map Toml.toDocument)).isSome)
    (hb : ∀ u ∈ b, u.Ordered) (ht : ∀ u ∈ t, u.Ordered)
    (hbase : (read? section? (b.map Toml.toDocument)).isSome = true)
    (htop : (read? section? (t.map Toml.toDocument)).isSome = true) :
    (read? section? ((Toml.laid? b t).map Toml.toDocument)).isSome = true := by
  cases t with
  | none => cases b <;> exact hbase
  | some t =>
    cases b with
    | none => exact htop
    | some b =>
      rcases Toml.overlay_cases b t with ⟨-, h⟩ | ⟨base, top, rfl, rfl⟩
      · rw [Toml.laid?, h]
        exact htop
      · have hsection : ∀ {entries}, Dictionary.Sorted entries →
            (read? section? (some (Toml.table entries).toDocument)).isSome =
              (read? value ((Dictionary.find? entries key).map Toml.toDocument)).isSome := by
          intro entries hentries
          rw [read?, Option.isSome_map, htable hentries]
        have hsorted := (hb _ rfl).sorted
        have hsorted' := (ht _ rfl).sorted
        rw [Option.map_some, hsection hsorted, Option.isSome_iff_exists] at hbase
        rw [Option.map_some, hsection hsorted', Option.isSome_iff_exists] at htop
        obtain ⟨x, hx⟩ := hbase
        obtain ⟨y, hy⟩ := htop
        rw [Toml.laid?, Toml.overlay, Option.map_some,
          hsection (Toml.sorted_overlayEntries hsorted _),
          Toml.find?_overlayEntries hsorted', Toml.read?_laid? hvalue hx hy]
        rfl

end Sections

section Generator

open Options (Layer)

def layer? (t : Toml) : Option Layer :=
  match t.find? "generator" with
  | none => some .empty
  | some options => Layer.ofDocument? options.toDocument

def Clash (base top : Toml) : Prop :=
  ∃ b t, base.find? "generator" = some (.table b) ∧ top.find? "generator" = some (.table t) ∧
    Toml.Clash Options.fieldNames b t

/-- Whether the options of one configuration take the place of those of the other altogether, which
they do unless both are tables. -/
def Replaces (base top : Toml) : Bool :=
  match base.find? "generator", top.find? "generator" with
  | some b, some t => !(b.isTable && t.isTable)
  | _, _ => false

variable {lower upper : Layer}

theorem map_read?_options (t : Toml) :
    (read? Options.ofDocument? ((t.find? "generator").map Toml.toDocument)).map (·.getD .default) =
      (layer? t).map (·.applyTo .default) := by
  rw [layer?]
  cases t.find? "generator" with
  | none => rfl
  | some options =>
    simp only [Option.map_some, read?, Options.ofDocument?_eq, Option.map_map]
    rfl

theorem find?_overlay (base : List (String × Toml)) (htop : Dictionary.Sorted top) (key : String) :
    ((Toml.table base).overlay (.table top)).find? key =
      Toml.laid? ((Toml.table base).find? key) ((Toml.table top).find? key) := by
  rw [Toml.overlay]
  exact Toml.find?_overlayEntries htop key

theorem layer?_overlay (hbase : (Toml.table base).Ordered) (htop : (Toml.table top).Ordered)
    (hlower : layer? (.table base) = some lower) (hupper : layer? (.table top) = some upper) :
    (Clash (.table base) (.table top) → layer? ((Toml.table base).overlay (.table top)) = none) ∧
      (¬ Clash (.table base) (.table top) → layer? ((Toml.table base).overlay (.table top)) =
        some (if Replaces (.table base) (.table top) then upper else upper.above lower)) := by
  have hfind := find?_overlay base htop.sorted "generator"
  have hordered : ∀ u, (Toml.table base).find? "generator" = some u → u.Ordered :=
    fun _ => hbase.find?
  have hordered' : ∀ u, (Toml.table top).find? "generator" = some u → u.Ordered :=
    fun _ => htop.find?
  rw [layer?] at hlower hupper
  rw [layer?, hfind, Clash, Replaces]
  generalize (Toml.table base).find? "generator" = b at *
  generalize (Toml.table top).find? "generator" = t at *
  constructor
  · rintro ⟨options, options', rfl, rfl, hclash⟩
    have hnone := (Layer.ofDocument?_overlay (hordered _ rfl).sorted (hordered' _ rfl).sorted hlower
      hupper).1 hclash
    simpa [Toml.laid?, Toml.overlay] using hnone
  · intro hclash
    cases b with
    | none =>
      cases hlower
      cases t with
      | none =>
        cases hupper
        rfl
      | some t => simpa [Toml.laid?] using hupper
    | some b =>
      cases t with
      | none =>
        cases hupper
        simpa [Toml.laid?] using hlower
      | some t =>
        rcases Toml.overlay_cases b t with ⟨htables, h⟩ | ⟨base, top, rfl, rfl⟩
        · simpa [Toml.laid?, h, htables] using hupper
        · have hlayers := (Layer.ofDocument?_overlay (hordered _ rfl).sorted (hordered' _ rfl).sorted
            hlower hupper).2 fun hnames => hclash ⟨base, top, rfl, rfl, hnames⟩
          simpa [Toml.laid?, Toml.overlay, Toml.isTable] using hlayers

theorem isSome_outputPath?_laid? (hb : ∀ u ∈ b, u.Ordered) (ht : ∀ u ∈ t, u.Ordered)
    (hbase : (read? outputPath? (b.map Toml.toDocument)).isSome = true)
    (htop : (read? outputPath? (t.map Toml.toDocument)).isSome = true) :
    (read? outputPath? ((Toml.laid? b t).map Toml.toDocument)).isSome = true :=
  isSome_read?_laid? (nullable? string?) (fun _ => rfl)
    (fun h => by rw [outputPath?_table h, Option.isSome_map]) hb ht hbase htop

theorem isSome_environment?_laid? (hb : ∀ u ∈ b, u.Ordered) (ht : ∀ u ∈ t, u.Ordered)
    (hbase : (read? (environment? processEnvironment) (b.map Toml.toDocument)).isSome = true)
    (htop : (read? (environment? processEnvironment) (t.map Toml.toDocument)).isSome = true) :
    (read? (environment? processEnvironment) ((Toml.laid? b t).map Toml.toDocument)).isSome =
      true :=
  isSome_read?_laid? string? (fun _ => rfl)
    (fun h => by rw [environment?_table h, Option.isSome_map]) hb ht hbase htop

structure Readable (processEnvironment : Option String) (entries : List (String × Toml)) : Prop where
  options : ∃ l, layer? (.table entries) = some l
  output : (read? outputPath?
    ((Dictionary.find? entries "output").map Toml.toDocument)).isSome = true
  environment : (read? (environment? processEnvironment)
    ((Dictionary.find? entries "environment").map Toml.toDocument)).isSome = true

theorem Readable.exists_ofDocument? {l : Layer} (h : Readable processEnvironment entries)
    (hsorted : Dictionary.Sorted entries) (hl : layer? (.table entries) = some l) :
    ∃ config, ofDocument? processEnvironment (Toml.table entries).toDocument = some config ∧
      config.options = l.applyTo .default := by
  have hmap := map_read?_options (.table entries)
  rw [hl] at hmap
  obtain ⟨options, hoptions, happly⟩ := Option.map_eq_some_iff.1 hmap
  obtain ⟨path, hpath⟩ := Option.isSome_iff_exists.1 h.output
  obtain ⟨environment, henvironment⟩ := Option.isSome_iff_exists.1 h.environment
  refine ⟨⟨options.getD .default, path.getD none,
    environment.getD (defaultEnvironment processEnvironment)⟩, ?_, happly⟩
  rw [Toml.find?] at hoptions
  rw [ofDocument?_table hsorted, hoptions, hpath, henvironment]
  rfl

theorem Readable.of_isSome (hsorted : Dictionary.Sorted entries)
    (h : (ofDocument? processEnvironment (Toml.table entries).toDocument).isSome = true) :
    Readable processEnvironment entries := by
  obtain ⟨config, h⟩ := Option.isSome_iff_exists.1 h
  rw [ofDocument?_table hsorted] at h
  obtain ⟨options, hoptions, h⟩ := Option.bind_eq_some_iff.1 h
  obtain ⟨path, hpath, h⟩ := Option.bind_eq_some_iff.1 h
  obtain ⟨environment, henvironment, -⟩ := Option.bind_eq_some_iff.1 h
  refine ⟨?_, Option.isSome_of_mem hpath, Option.isSome_of_mem henvironment⟩
  have hmap := map_read?_options (.table entries)
  rw [Toml.find?, hoptions] at hmap
  obtain ⟨l, hl, -⟩ := Option.map_eq_some_iff.1 hmap.symm
  exact ⟨l, hl⟩

/-- Two configurations can be read together just if they do not clash, and then set the options that
the upper one sets, and below them those of the lower one if it is not replaced. -/
theorem ofDocument?_overlay (hbase : (Toml.table base).Ordered) (htop : (Toml.table top).Ordered)
    (hb : (ofDocument? processEnvironment (Toml.table base).toDocument).isSome = true)
    (ht : (ofDocument? processEnvironment (Toml.table top).toDocument).isSome = true) :
    ∃ lower upper, layer? (.table base) = some lower ∧ layer? (.table top) = some upper ∧
      (Clash (.table base) (.table top) →
        ofDocument? processEnvironment ((Toml.table base).overlay (.table top)).toDocument = none) ∧
      (¬ Clash (.table base) (.table top) → ∃ config,
        ofDocument? processEnvironment ((Toml.table base).overlay (.table top)).toDocument =
            some config ∧
          config.options = (if Replaces (.table base) (.table top) then upper
            else upper.above lower).applyTo .default) := by
  have hreadable := Readable.of_isSome hbase.sorted hb
  have hreadable' := Readable.of_isSome htop.sorted ht
  obtain ⟨lower, hlower⟩ := hreadable.options
  obtain ⟨upper, hupper⟩ := hreadable'.options
  obtain ⟨hclash, hlayers⟩ := layer?_overlay hbase htop hlower hupper
  have hsorted := Toml.sorted_overlayEntries hbase.sorted top
  rw [Toml.overlay] at *
  refine ⟨lower, upper, hlower, hupper, ?_, ?_⟩
  · intro h
    -- Were it a configuration, its options could be read.
    by_contra hsome
    obtain ⟨l, hl⟩ := (Readable.of_isSome hsorted (Option.isSome_iff_ne_none.2 hsome)).options
    rw [hclash h] at hl
    cases hl
  · intro h
    have hreadable'' : Readable processEnvironment (Toml.overlayEntries base top) := by
      refine ⟨⟨_, hlayers h⟩, ?_, ?_⟩
      · rw [Toml.find?_overlayEntries htop.sorted]
        exact isSome_outputPath?_laid? (fun _ => hbase.find?) (fun _ => htop.find?)
          hreadable.output hreadable'.output
      · rw [Toml.find?_overlayEntries htop.sorted]
        exact isSome_environment?_laid? (fun _ => hbase.find?) (fun _ => htop.find?)
          hreadable.environment hreadable'.environment
    exact hreadable''.exists_ofDocument? hsorted (hlayers h)

end Generator

section Files

variable {store : FileStore} {base top : Toml}

structure Layered (processEnvironment : Option String) (store : FileStore) (base top : Toml) :
    Prop where
  base_read : readToml store basePath = .ok base
  top_read : readToml store (overlayPath (activeEnvironment processEnvironment base)) = .ok top
  base_valid : (ofDocument? processEnvironment base.toDocument).isSome = true
  top_valid : (ofDocument? processEnvironment top.toDocument).isSome = true

theorem readToml_eq_ok {path : String} {t : Toml} (h : readToml store path = .ok t) :
    store.contains path = true ∧ ∃ text, Toml.ofText? text = some t := by
  unfold readToml at h
  split at h
  · cases h
  · next text hread =>
    split at h
    · cases h
    · next t' ht =>
      cases h
      obtain ⟨content, hcontent, -⟩ := Option.bind_eq_some_iff.1 hread
      obtain ⟨entry, hentry, -⟩ := Option.bind_eq_some_iff.1 hcontent
      exact ⟨Option.isSome_of_mem hentry, text, ht⟩

theorem exists_entries {path : String} {t : Toml} (h : readToml store path = .ok t)
    (hvalid : (ofDocument? processEnvironment t.toDocument).isSome = true) :
    t.Ordered ∧ ∃ entries, t = .table entries := by
  obtain ⟨-, text, htext⟩ := readToml_eq_ok h
  refine ⟨Toml.ordered_of_ofText? htext, ?_⟩
  rcases Toml.ofText?_cases htext with ⟨entries, rfl⟩ | ⟨spelling, rfl⟩
  · exact ⟨entries, rfl⟩
  · rw [Toml.toDocument] at hvalid
    cases hvalid

theorem Layered.loadOrDefault_eq (h : Layered processEnvironment store base top) :
    loadOrDefault processEnvironment store =
      match ofDocument? processEnvironment (base.overlay top).toDocument with
      | some config => .ok config
      | none => .error .invalid := by
  have hbase := (readToml_eq_ok h.base_read).1
  have htop := (readToml_eq_ok h.top_read).1
  have hload : loadToml processEnvironment store = .ok (base.overlay top) := by
    rw [loadToml, h.base_read, Except.ok_bind]
    simp only [htop, h.top_read]
    rfl
  rw [loadOrDefault, if_pos hbase, load, hload, Except.ok_bind]
  rfl

end Files

end Config

namespace Command

variable {s : Surroundings} {files : FileStore} {base top : Toml}

/-- Files that are configurations by themselves can be loaded together just if their sections do not
spell one option in two ways.  If they can, a command uses its own flags, below them what the overlay
sets, below that what the base file sets, and the defaults; only a section that is no table lets
nothing of the other through. -/
theorem options_layered (h : Config.Layered s.environment files base top) :
    ∃ lower upper, Config.layer? base = some lower ∧ Config.layer? top = some upper ∧
      (Config.Clash base top → ∀ c, (run s files (.generate c)).result = .error (.config .invalid)) ∧
      (¬ Config.Clash base top → ∃ config,
        Config.loadOrDefault s.environment files = .ok config ∧
          ∀ c : GenerateCommand, c.apply config.options =
            c.optionsOver (if Config.Replaces base top then upper else upper.above lower)) := by
  obtain ⟨hordered, entries, rfl⟩ := Config.exists_entries h.base_read h.base_valid
  obtain ⟨hordered', entries', rfl⟩ := Config.exists_entries h.top_read h.top_valid
  obtain ⟨lower, upper, hlower, hupper, hclash, hlayers⟩ :=
    Config.ofDocument?_overlay hordered hordered' h.base_valid h.top_valid
  refine ⟨lower, upper, hlower, hupper, ?_, ?_⟩
  · intro hnames c
    have hload := h.loadOrDefault_eq
    rw [hclash hnames] at hload
    rw [run, generateFile, hload]
    rfl
  · intro hnames
    obtain ⟨config, hconfig, hoptions⟩ := hlayers hnames
    have hload := h.loadOrDefault_eq
    rw [hconfig] at hload
    refine ⟨config, hload, ?_⟩
    intro c
    rw [hoptions, c.apply_defaults]

/-- A shop has a name in its base file and another one, in the other spelling, for development. -/
def shopFiles : FileStore :=
  [("lbng.development.toml", .file "[generator]\nmoduleName = \"stage\"\n".toUTF8),
    ("lbng.toml", .file "[generator]\nmodule_name = \"shop\"\n".toUTF8)]

theorem options_layered_shop :
    ∃ base top, Config.Layered none shopFiles base top ∧
      (Config.layer? base).bind (·.moduleName) = some "shop" ∧
      (Config.layer? top).bind (·.moduleName) = some "stage" ∧
      ∀ c, (run ⟨none, false⟩ shopFiles (.generate c)).result = .error (.config .invalid) := by
  have hread : ((Config.readToml shopFiles Config.basePath).toOption.any fun base =>
      let overlay := Config.overlayPath (Config.activeEnvironment none base)
      (Config.readToml shopFiles overlay).toOption.any fun top =>
        (Config.ofDocument? none base.toDocument).isSome &&
          (Config.ofDocument? none top.toDocument).isSome &&
          (Config.layer? base).bind (·.moduleName) == some "shop" &&
          (Config.layer? top).bind (·.moduleName) == some "stage") = true := by decide +kernel
  have hfails : (Config.loadOrDefault none shopFiles).isOk = false := by decide +kernel
  cases hbase : Config.readToml shopFiles Config.basePath with
  | error e => rw [hbase] at hread; cases hread
  | ok base =>
    cases htop : Config.readToml shopFiles
        (Config.overlayPath (Config.activeEnvironment none base)) with
    | error e => simp [hbase, htop, Except.toOption] at hread
    | ok top =>
      simp only [hbase, htop, Except.toOption, Option.any_some, Bool.and_eq_true, beq_iff_eq] at hread
      obtain ⟨⟨⟨hbase_valid, htop_valid⟩, hname⟩, hname'⟩ := hread
      have hlayered : Config.Layered none shopFiles base top :=
        ⟨hbase, htop, hbase_valid, htop_valid⟩
      obtain ⟨_, _, -, -, hclashes, hloads⟩ := options_layered (s := ⟨none, false⟩) hlayered
      -- What cannot be loaded together has to clash.
      have hclash : Config.Clash base top := by
        by_contra hnames
        obtain ⟨config, hconfig, -⟩ := hloads hnames
        rw [hconfig] at hfails
        cases hfails
      exact ⟨base, top, hlayered, hname, hname', hclashes hclash⟩

end Command

end AngularClient
