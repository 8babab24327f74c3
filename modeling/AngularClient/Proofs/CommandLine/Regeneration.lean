import AngularClient.Proofs.Except
import AngularClient.Proofs.Files.Apart
import AngularClient.Proofs.Files.Output
import AngularClient.Proofs.Module.Generation
import AngularClient.Proofs.Module.Keys

/-! Generating twice.  A run that writes apart from what it reads finds the same registry and
configuration again, so what a second run does with the file depends on one thing only: whether the
first one wrote a marker that is none of the user's. -/

namespace AngularClient

namespace Config

def paths (processEnvironment : Option String) (store : FileStore) : List String :=
  basePath :: match readToml store basePath with
    | .ok base => [overlayPath (activeEnvironment processEnvironment base)]
    | .error _ => []

variable {processEnvironment : Option String} {store after : FileStore} {path : String}

theorem readToml_congr (h : after.lookup? path = store.lookup? path) :
    readToml after path = readToml store path := by
  rw [readToml, readToml, FileStore.readText?_congr h]

theorem loadOrDefault_congr
    (h : ∀ path ∈ paths processEnvironment store, after.lookup? path = store.lookup? path) :
    loadOrDefault processEnvironment after = loadOrDefault processEnvironment store := by
  rw [paths, List.forall_mem_cons] at h
  obtain ⟨hbase, hoverlay⟩ := h
  have htoml : loadToml processEnvironment after = loadToml processEnvironment store := by
    rw [loadToml, loadToml, readToml_congr hbase]
    cases hread : readToml store basePath with
    | error e => rfl
    | ok base =>
      rw [hread, List.forall_mem_singleton] at hoverlay
      simp only [Except.ok_bind, FileStore.contains, hoverlay, readToml_congr hoverlay]
      rfl
  rw [loadOrDefault, loadOrDefault, FileStore.contains, hbase, load, htoml]
  rfl

end Config

theorem marker_infix_key {name : String} (h : Output.marker.toList <:+: name.toList) :
    Output.marker.toList <:+: (Text.literal (actionKey name)).toList := by
  obtain ⟨before, after, heq⟩ := h
  rw [Text.literal, String.toList_ofList, actionKey, String.toList_ofList, Text.Literal.write,
    ← heq]
  simp only [List.map_append, List.flatMap_append]
  have hkept : ((Output.marker.toList.map fun c => if c = '.' then '$' else c).flatMap
      Text.Literal.escape) = Output.marker.toList := by
    decide
  rw [hkept]
  exact (List.infix_append _ _ _).trans ((List.prefix_append _ _).isInfix.trans
    (List.suffix_cons _ _).isInfix)

theorem Registry.not_unmarked_of_method {r : Registry} {o : Options} {n : Model} {x : Method}
    {text : String} (h : r.generate o = .ok text) (hn : n ∈ r.describe o) (hx : x ∈ n.methods)
    (hname : Output.marker.toList <:+: x.name.toList) : ¬ Output.Unmarked text := by
  have hkey : actionKey x.name ∈ n.actionKeys := by
    rw [Model.actionKeys, List.mem_append, List.mem_map]
    exact .inl ⟨x, hx, rfl⟩
  have hline :
      (Text.literal (actionKey x.name)).toList <:+: (keyLine (actionKey x.name)).toList := by
    rw [keyLine, String.toList_append, String.toList_append]
    exact List.infix_append _ _ _
  have hopens := keyLine_infix h hn hkey
  generalize keyLine (actionKey x.name) = line at hline hopens
  have htext : line.toList <:+: text.toList := (List.prefix_append _ _).isInfix.trans hopens
  exact not_not_intro ((marker_infix_key hname).trans (hline.trans htext))

def GenerateCommand.checking (c : GenerateCommand) : GenerateCommand :=
  { c with switches := .check :: c.switches }

namespace Command

variable {s : Surroundings} {files after : FileStore} {c : GenerateCommand} {path text : String}

def Generates (s : Surroundings) (files : FileStore) (c : GenerateCommand) (text : String) : Prop :=
  ∃ config r, Config.loadOrDefault s.environment files = .ok config ∧
    Registry.load files c.input = .ok r ∧ r.generate (c.apply config.options) = .ok text

theorem Generates.congr (h : Generates s files c text)
    (hsame : ∀ input ∈ c.input :: Config.paths s.environment files,
      after.lookup? input = files.lookup? input) : Generates s after c text := by
  rw [List.forall_mem_cons] at hsame
  obtain ⟨config, r, hconfig, hr, htext⟩ := h
  refine ⟨config, r, ?_, ?_, htext⟩
  · rw [Config.loadOrDefault_congr hsame.2, hconfig]
  · rw [Registry.load, FileStore.readText?_congr hsame.1, ← Registry.load, hr]

theorem Generates.unique (h : Generates s files c text) {other : String}
    (hother : Generates s files c other) : text = other := by
  obtain ⟨config, r, hconfig, hr, htext⟩ := h
  obtain ⟨config', r', hconfig', hr', hother⟩ := hother
  obtain rfl := Except.ok.inj (hconfig.symm.trans hconfig')
  obtain rfl := Except.ok.inj (hr.symm.trans hr')
  exact Except.ok.inj (htext.symm.trans hother)

theorem Generates.checking (h : Generates s files c text) : Generates s files c.checking text := h

theorem Generates.exists_run (h : Generates s files c text) (hout : c.output = some path) :
    ∃ said, run s files (.generate c) =
      (deliver s files (c.has .check) (some path) text).after said := by
  obtain ⟨config, r, hconfig, hr, htext⟩ := h
  refine ⟨Console.remarks s.colours (r.remarks (c.apply config.options)), ?_⟩
  simp [run, generateFile, hconfig, hr, htext, hout, pure, Except.pure]

@[simp] theorem result_after (said : String) (r : Outcome) : (r.after said).result = r.result := rfl

@[simp] theorem files_after (said : String) (r : Outcome) : (r.after said).files = r.files := rfl

@[simp] theorem result_writeFile :
    (writeFile s files path text).result = .ok () ↔ (Output.write files path text).2 = true := by
  unfold writeFile
  rcases Output.write files path text with ⟨after, _ | _⟩ <;> simp [Outcome.silent]

@[simp] theorem files_writeFile :
    (writeFile s files path text).files = (Output.write files path text).1 := by
  unfold writeFile
  rcases Output.write files path text with ⟨after, _ | _⟩ <;> rfl

theorem Generates.run_writes (h : Generates s files c text) (hout : c.output = some path)
    (hwrites : c.has .check = false) :
    (run s files (.generate c)).files = (Output.write files path text).1 ∧
      ((run s files (.generate c)).result = .ok () ↔ (Output.write files path text).2 = true) := by
  obtain ⟨said, hrun⟩ := h.exists_run hout
  simp [hrun, hwrites, deliver]

theorem Generates.run_checks (h : Generates s files c text) (hout : c.output = some path)
    (hchecks : c.has .check = true) :
    (run s files (.generate c)).files = files ∧
      ((run s files (.generate c)).result = .ok () ↔
        files.readText? path = some (text ++ Output.block (files.readText? path))) := by
  obtain ⟨said, hrun⟩ := h.exists_run hout
  rw [hrun, hchecks]
  simp [deliver, Output.merged_eq]

theorem exists_generates (h : (run s files (.generate c)).result = .ok ()) :
    ∃ text, Generates s files c text := by
  cases hconfig : Config.loadOrDefault s.environment files with
  | error e => simp [run, generateFile, hconfig, Outcome.silent] at h
  | ok config =>
    cases hr : Registry.load files c.input with
    | error e => simp [run, generateFile, hconfig, hr, Outcome.silent] at h
    | ok r =>
      cases htext : r.generate (c.apply config.options) with
      | error e =>
        simp [run, generateFile, hconfig, hr, htext, Outcome.silent, Outcome.after, pure,
          Except.pure] at h
      | ok text => exact ⟨text, config, r, hconfig, hr, htext⟩

/-- After a run that wrote a file, the same run writes it again, and changes it just if the text it
generates holds a marker.  It is then that comparing finds a difference. -/
theorem generated_again (hout : c.output = some path) (hwrites : c.has .check = false)
    (hapart : ∀ input ∈ c.input :: Config.paths s.environment files, files.Apart path input)
    (hok : (run s files (.generate c)).result = .ok ()) :
    ∃ text first second, Generates s files c text ∧
      (run s files (.generate c)).files = first ∧
      first.readText? path = some (text ++ Output.block (files.readText? path)) ∧
      (run s first (.generate c)).result = .ok () ∧ (run s first (.generate c)).files = second ∧
      (second.read? path = first.read? path ↔ Output.Unmarked text) ∧
      (Output.Unmarked text → second = first) ∧
      (run s first (.generate c.checking)).files = first ∧
      ((run s first (.generate c.checking)).result = .ok () ↔ Output.Unmarked text) := by
  obtain ⟨text, hgenerates⟩ := exists_generates hok
  obtain ⟨hfiles, hresult⟩ := hgenerates.run_writes hout hwrites
  obtain ⟨route, hwritable⟩ := FileStore.write_succeeds_iff.1 (hresult.1 hok)
  obtain ⟨made, hready, hwrite⟩ := hwritable.exists_ready
  -- the first run leaves the generated text and the block
  have hfirst : (run s files (.generate c)).files =
      made.put route (text ++ Output.block (files.readText? path)).toUTF8 := by
    rw [hfiles, Output.write, FileStore.writeText, hwrite, Output.merged_eq]
  have hiff := @Output.append_block_append_iff text (files.readText? path)
  generalize hold : text ++ Output.block (files.readText? path) = old at hfirst hiff
  -- and all that was read for it, so that the same is generated
  have hagain : Generates s (made.put route old.toUTF8) c text := by
    refine hgenerates.congr fun input hinput => ?_
    have h := FileStore.lookup?_write (hapart input hinput) old.toUTF8
    rwa [hwrite] at h
  have hread := Output.readText?_put hready old
  obtain ⟨hsecond, hresult'⟩ := hagain.run_writes hout hwrites
  rw [Output.write_over hready old text] at hsecond hresult'
  have hcheck : c.checking.has .check = true := by
    simp [GenerateCommand.checking, GenerateCommand.has]
  obtain ⟨hkept, hresult''⟩ := hagain.checking.run_checks hout hcheck
  refine ⟨text, _, _, hgenerates, hfirst, ?_, hresult'.2 rfl, hsecond, ?_, ?_, hkept, ?_⟩
  · rw [hread, hold]
  · rw [hready.read?_put, hready.read?_put, Option.some.injEq, ← hiff]
    constructor
    · exact fun h => String.toByteArray_inj.1 h
    · exact congrArg String.toUTF8
  · intro h
    rw [hiff.2 h]
  · rw [hresult'', hread, Option.some.injEq, eq_comm, hiff]

/-- A registry with one method, named like the line that opens the user's block, and a script made
before. -/
def noted : FileStore := [
  ("out.js", .file "old\n".toUTF8),
  ("registry.json", .file (
    "\x7b\"remotingVersion\":3,\"models\":[\x7b\"name\":\"note\",\"ctor\":\x7b\x7d,\"methods\":[" ++
    "\x7b\"name\":\"// === LBNG:CUSTOM ===\",\"isStatic\":true," ++
    "\"endpoints\":[\x7b\"verb\":\"get\",\"fullPath\":\"/notes\"\x7d]\x7d]\x7d]\x7d").toUTF8)]

def generateNoted : GenerateCommand := ⟨"registry.json", some "out.js", [], []⟩

theorem exists_generates_noted :
    ∃ text, Generates ⟨none, false⟩ noted generateNoted text ∧ ¬ Output.Unmarked text := by
  have hview : (Registry.load noted "registry.json").toOption.any (fun r =>
      (r.view .default).isOk && (r.describe .default).any fun n => n.methods.any fun x =>
        Text.occursIn Output.marker.toList x.name.toList) = true := by
    decide +kernel
  cases hr : Registry.load noted "registry.json" with
  | error e =>
    rw [hr] at hview
    cases hview
  | ok r =>
    simp only [hr, Except.toOption, Option.any_some, Bool.and_eq_true, List.any_eq_true,
      Text.occursIn_iff] at hview
    obtain ⟨hview, n, hn, x, hx, hname⟩ := hview
    cases hv : r.view .default with
    | error e =>
      rw [hv] at hview
      cases hview
    | ok v =>
      obtain ⟨text, htext⟩ := Registry.exists_generate rfl hv
      exact ⟨text, ⟨.default none, r, rfl, hr, htext⟩,
        Registry.not_unmarked_of_method htext hn hx hname⟩

/-- Here the file grows with every run, and no check succeeds. -/
theorem generated_again_noted :
    ∃ text first, Generates ⟨none, false⟩ noted generateNoted text ∧ ¬ Output.Unmarked text ∧
      (run ⟨none, false⟩ noted (.generate generateNoted)).result = .ok () ∧
      (run ⟨none, false⟩ noted (.generate generateNoted)).files = first ∧
      (run ⟨none, false⟩ first (.generate generateNoted)).files.read? "out.js" ≠
        first.read? "out.js" ∧
      (run ⟨none, false⟩ first (.generate generateNoted.checking)).result ≠ .ok () := by
  have hapart : ∀ input ∈ generateNoted.input :: Config.paths none noted,
      noted.Apart "out.js" input := by
    decide
  have hwritable : noted.Writable "out.js" ⟨"", [], ["out.js"], false⟩ := {
    leads := by decide
    allowed := by decide
    parentAllowed := by decide
    nameable := by decide
    entry := by decide
    free := by decide
    through := by decide }
  obtain ⟨text, hgenerates, hmarked⟩ := exists_generates_noted
  have hok : (run ⟨none, false⟩ noted (.generate generateNoted)).result = .ok () := by
    obtain ⟨-, hresult⟩ := hgenerates.run_writes rfl rfl
    exact hresult.2 (FileStore.write_succeeds_iff.2 ⟨_, hwritable⟩)
  obtain ⟨text', first, second, hgenerates', hfirst, -, -, hsecond, hiff, -, -, hcheck⟩ :=
    generated_again rfl rfl hapart hok
  obtain rfl := hgenerates.unique hgenerates'
  refine ⟨text, first, hgenerates, hmarked, hok, hfirst, ?_, ?_⟩
  · rw [hsecond]
    exact mt hiff.1 hmarked
  · exact mt hcheck.1 hmarked

end Command

end AngularClient
