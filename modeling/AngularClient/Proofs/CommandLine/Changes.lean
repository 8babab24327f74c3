import AngularClient.Proofs.CommandLine.Regeneration
import AngularClient.Proofs.Files.Changes

namespace AngularClient.Command

inductive Obstruction (s : Surroundings) (files : FileStore) (c : GenerateCommand) : RunError → Prop
  | config {e : Config.LoadError} (h : Config.loadOrDefault s.environment files = .error e) :
    Obstruction s files c (.config e)
  | registry {e : RunError} (hconfig : (Config.loadOrDefault s.environment files).isOk = true)
    (h : Registry.load files c.input = .error e) : Obstruction s files c e
  | generation {config : Config} {r : Registry} {e : GenerationError}
    (hconfig : Config.loadOrDefault s.environment files = .ok config)
    (hr : Registry.load files c.input = .ok r)
    (h : r.generate (c.apply config.options) = .error e) : Obstruction s files c (.generation e)
  | nothingToCheck {config : Config} {text : String}
    (hconfig : Config.loadOrDefault s.environment files = .ok config)
    (htext : Generates s files c text) (hcheck : c.has .check = true)
    (h : (c.output <|> config.outputPath) = none) : Obstruction s files c .nothingToCheck
  | unreadable {config : Config} {path text : String}
    (hconfig : Config.loadOrDefault s.environment files = .ok config)
    (htext : Generates s files c text) (hcheck : c.has .check = true)
    (hpath : (c.output <|> config.outputPath) = some path) (h : files.readText? path = none) :
    Obstruction s files c (.unreadableOutput path)
  | unwritable {config : Config} {path text : String}
    (hconfig : Config.loadOrDefault s.environment files = .ok config)
    (htext : Generates s files c text) (hcheck : c.has .check = false)
    (hpath : (c.output <|> config.outputPath) = some path)
    (h : (Output.write files path text).2 = false) :
    Obstruction s files c (.unwritableOutput path)

structure Fails (files : FileStore) (e : RunError) (outcome : Outcome) : Prop where
  result : outcome.result = .error e
  files : files.SameFiles outcome.files
  stdout : outcome.stdout = ""

structure FindsOutdated (store : FileStore) (path text : String) (outcome : Outcome) : Prop where
  result : outcome.result = .error (.outdatedOutput path)
  files : outcome.files = store
  stdout : Output.compare store path text = .outdated outcome.stdout

structure FindsUpToDate (store : FileStore) (path text : String) (outcome : Outcome) : Prop where
  result : outcome.result = .ok ()
  files : outcome.files = store
  stdout : outcome.stdout = ""
  comparison : Output.compare store path text = .upToDate

structure Writes (store : FileStore) (path text : String) (outcome : Outcome) : Prop where
  result : outcome.result = .ok ()
  files : ∃ route, Route.ofPath? path = some route ∧
    outcome.files.content? route.target.spell = some (Output.merged store path text).toUTF8 ∧
      ∀ key, store.Changes outcome.files key → key = route.target.spell
  stdout : outcome.stdout = ""

structure Prints (files : FileStore) (text : String) (outcome : Outcome) : Prop where
  result : outcome.result = .ok ()
  files : outcome.files = files
  stdout : outcome.stdout = text

variable {s : Surroundings} {files : FileStore} {c : GenerateCommand} {path text : String}
  {e : RunError}

section After

variable {outcome : Outcome}

theorem Fails.after (h : Fails files e outcome) (said : String) :
    Fails files e (outcome.after said) := ⟨h.result, h.files, h.stdout⟩

theorem FindsOutdated.after (h : FindsOutdated files path text outcome) (said : String) :
    FindsOutdated files path text (outcome.after said) := ⟨h.result, h.files, h.stdout⟩

theorem FindsUpToDate.after (h : FindsUpToDate files path text outcome) (said : String) :
    FindsUpToDate files path text (outcome.after said) :=
  ⟨h.result, h.files, h.stdout, h.comparison⟩

theorem Writes.after (h : Writes files path text outcome) (said : String) :
    Writes files path text (outcome.after said) := ⟨h.result, h.files, h.stdout⟩

theorem Prints.after (h : Prints files text outcome) (said : String) :
    Prints files text (outcome.after said) := ⟨h.result, h.files, h.stdout⟩

end After

theorem fails_silent (files : FileStore) (e : RunError) : Fails files e (.silent files (.error e)) :=
  ⟨rfl, .refl files, rfl⟩

theorem checkFile_cases (s : Surroundings) (files : FileStore) (path text : String) :
    (files.readText? path = none ∧
        Fails files (.unreadableOutput path) (checkFile s files path text)) ∨
      FindsOutdated files path text (checkFile s files path text) ∨
        FindsUpToDate files path text (checkFile s files path text) := by
  unfold checkFile
  cases hcompare : Output.compare files path text with
  | unreadable =>
    refine .inl ⟨?_, fails_silent files _⟩
    unfold Output.compare at hcompare
    cases hread : files.readText? path with
    | none => rfl
    | some current =>
      rw [hread] at hcompare
      simp only at hcompare
      split at hcompare <;> cases hcompare
  | upToDate => exact .inr (.inr ⟨rfl, rfl, rfl, hcompare⟩)
  | outdated diff => exact .inr (.inl ⟨rfl, rfl, hcompare⟩)

theorem writeFile_cases (s : Surroundings) (files : FileStore) (path text : String) :
    ((Output.write files path text).2 = false ∧
        Fails files (.unwritableOutput path) (writeFile s files path text)) ∨
      Writes files path text (writeFile s files path text) := by
  unfold writeFile Output.write FileStore.writeText
  rcases FileStore.write_cases files path (Output.merged files path text).toUTF8 with
    ⟨after, hwrite, hsame⟩ | ⟨route, after, hleads, hwrite, hcontent, honly⟩
  · rw [hwrite]
    exact .inl ⟨rfl, rfl, hsame, rfl⟩
  · rw [hwrite]
    exact .inr ⟨rfl, ⟨route, hleads, hcontent, honly⟩, rfl⟩

theorem run_generate_cases (s : Surroundings) (files : FileStore) (c : GenerateCommand) :
    (∃ e, Obstruction s files c e ∧ Fails files e (run s files (.generate c))) ∨
      ∃ config text said, Config.loadOrDefault s.environment files = .ok config ∧
        Generates s files c text ∧ run s files (.generate c) =
          (deliver s files (c.has .check) (c.output <|> config.outputPath) text).after said := by
  rw [run, generateFile]
  cases hconfig : Config.loadOrDefault s.environment files with
  | error e => exact .inl ⟨_, .config hconfig, fails_silent files _⟩
  | ok config =>
    cases hr : Registry.load files c.input with
    | error e => exact .inl ⟨_, .registry (by rw [hconfig]; rfl) hr, fails_silent files _⟩
    | ok r =>
      simp only [Except.mapError_ok, Except.ok_bind, pure, Except.pure]
      cases htext : r.generate (c.apply config.options) with
      | error e =>
        exact .inl ⟨_, .generation hconfig hr htext, (fails_silent files _).after _⟩
      | ok text => exact .inr ⟨config, text, _, rfl, ⟨config, r, hconfig, hr, htext⟩, rfl⟩

section Deliver

variable {config : Config} (hconfig : Config.loadOrDefault s.environment files = .ok config)
  (htext : Generates s files c text)
include hconfig htext

theorem deliver_check_cases (hcheck : c.has .check = true) :
    (∃ e, Obstruction s files c e ∧
        Fails files e (deliver s files true (c.output <|> config.outputPath) text)) ∨
      ∃ path, (c.output <|> config.outputPath) = some path ∧
        (FindsOutdated files path text
            (deliver s files true (c.output <|> config.outputPath) text) ∨
          FindsUpToDate files path text
            (deliver s files true (c.output <|> config.outputPath) text)) := by
  cases hpath : (c.output <|> config.outputPath) with
  | none => exact .inl ⟨_, .nothingToCheck hconfig htext hcheck hpath, fails_silent files _⟩
  | some path =>
    rcases checkFile_cases s files path text with ⟨hread, h⟩ | h
    · exact .inl ⟨_, .unreadable hconfig htext hcheck hpath hread, h⟩
    · exact .inr ⟨path, rfl, h⟩

theorem deliver_write_cases (hcheck : c.has .check = false) :
    (∃ e, Obstruction s files c e ∧
        Fails files e (deliver s files false (c.output <|> config.outputPath) text)) ∨
      (∃ path, (c.output <|> config.outputPath) = some path ∧
        Writes files path text (deliver s files false (c.output <|> config.outputPath) text)) ∨
        (c.output <|> config.outputPath) = none ∧
          Prints files text (deliver s files false (c.output <|> config.outputPath) text) := by
  cases hpath : (c.output <|> config.outputPath) with
  | none => exact .inr (.inr ⟨rfl, rfl, rfl, rfl⟩)
  | some path =>
    rcases writeFile_cases s files path text with ⟨hwrite, h⟩ | h
    · exact .inl ⟨_, .unwritable hconfig htext hcheck hpath hwrite, h⟩
    · exact .inr (.inl ⟨path, rfl, h⟩)

end Deliver

/-- Once there is a text, only the output file can stand in the way. -/
theorem Obstruction.at_output {config : Config} (h : Obstruction s files c e)
    (hconfig : Config.loadOrDefault s.environment files = .ok config)
    (htext : Generates s files c text) :
    if c.has .check then
      (c.output <|> config.outputPath) = none ∧ e = .nothingToCheck ∨
        ∃ path, (c.output <|> config.outputPath) = some path ∧ files.readText? path = none ∧
          e = .unreadableOutput path
    else
      ∃ path, (c.output <|> config.outputPath) = some path ∧
        (Output.write files path text).2 = false ∧ e = .unwritableOutput path := by
  obtain ⟨config', r, hconfig', hr, hgenerate⟩ := id htext
  obtain rfl := Except.ok.inj (hconfig'.symm.trans hconfig)
  cases h with
  | config h =>
    rw [hconfig] at h
    cases h
  | registry _ h =>
    rw [hr] at h
    cases h
  | generation hconfig'' hr' h =>
    obtain rfl := Except.ok.inj (hconfig''.symm.trans hconfig)
    obtain rfl := Except.ok.inj (hr'.symm.trans hr)
    rw [hgenerate] at h
    cases h
  | nothingToCheck hconfig'' _ hcheck h =>
    obtain rfl := Except.ok.inj (hconfig''.symm.trans hconfig)
    rw [if_pos hcheck]
    exact .inl ⟨h, rfl⟩
  | unreadable hconfig'' _ hcheck hpath h =>
    obtain rfl := Except.ok.inj (hconfig''.symm.trans hconfig)
    rw [if_pos hcheck]
    exact .inr ⟨_, hpath, h, rfl⟩
  | unwritable hconfig'' htext' hcheck hpath h =>
    obtain rfl := Except.ok.inj (hconfig''.symm.trans hconfig)
    obtain rfl := htext'.unique htext
    rw [if_neg (by simp [hcheck])]
    exact ⟨_, hpath, h, rfl⟩

/-- A run that fails changes no file, and it prints nothing unless it has found the output file to be
out of date.  One that compares succeeds only if it finds at the output path what it would write, and
then it changes and prints nothing.  Any other writes the output file and no other, or prints the
generated text if it knows no path. -/
theorem changes_output_only (s : Surroundings) (files : FileStore) (c : GenerateCommand) :
    ∃ outcome, run s files (.generate c) = outcome ∧
      ((∃ e, Obstruction s files c e ∧ Fails files e outcome) ∨
        ∃ config text path, Config.loadOrDefault s.environment files = .ok config ∧
          Generates s files c text ∧ (c.output <|> config.outputPath) = path ∧
            if c.has .check then
              ∃ p, path = some p ∧
                (FindsOutdated files p text outcome ∨ FindsUpToDate files p text outcome)
            else
              (∃ p, path = some p ∧ Writes files p text outcome) ∨
                path = none ∧ Prints files text outcome) := by
  refine ⟨_, rfl, ?_⟩
  rcases run_generate_cases s files c with hfails | ⟨config, text, said, hconfig, htext, hrun⟩
  · exact .inl hfails
  · rw [hrun]
    cases hcheck : c.has .check with
    | true =>
      rcases deliver_check_cases hconfig htext hcheck with ⟨e, he, h⟩ | ⟨path, hpath, h | h⟩
      · exact .inl ⟨e, he, h.after said⟩
      · exact .inr ⟨config, text, _, hconfig, htext, rfl, path, hpath, .inl (h.after said)⟩
      · exact .inr ⟨config, text, _, hconfig, htext, rfl, path, hpath, .inr (h.after said)⟩
    | false =>
      rcases deliver_write_cases hconfig htext hcheck with ⟨e, he, h⟩ | ⟨path, hpath, h⟩ | ⟨hpath, h⟩
      · exact .inl ⟨e, he, h.after said⟩
      · exact .inr ⟨config, text, _, hconfig, htext, rfl, .inl ⟨path, hpath, h.after said⟩⟩
      · exact .inr ⟨config, text, _, hconfig, htext, rfl, .inr ⟨hpath, h.after said⟩⟩

/-- A check fails on a file that was made otherwise, and where there is no path to a file. -/
theorem changes_output_only_noted :
    ∃ text, Generates ⟨none, false⟩ noted generateNoted text ∧
      FindsOutdated noted "out.js" text
        (run ⟨none, false⟩ noted (.generate generateNoted.checking)) ∧
      Fails noted .nothingToCheck
        (run ⟨none, false⟩ noted (.generate { generateNoted.checking with output := none })) := by
  obtain ⟨text, htext, hmarked⟩ := exists_generates_noted
  have hconfig : Config.loadOrDefault none noted = .ok (Config.default none) := rfl
  have hread : noted.readText? "out.js" = some "old\n" := by
    decide +kernel
  refine ⟨text, htext, ?_, ?_⟩
  · obtain ⟨_, rfl, ⟨e, he, -⟩ | ⟨config, text', _, hconfig', htext', rfl, p, hpath, h⟩⟩ :=
      changes_output_only ⟨none, false⟩ noted generateNoted.checking
    · rcases he.at_output hconfig htext.checking with ⟨h, -⟩ | ⟨_, ⟨⟩, h, -⟩
      · cases h
      · rw [hread] at h
        cases h
    · obtain rfl := htext'.unique htext
      cases hpath
      rcases h with h | h
      · exact h
      · -- the marker in the text is longer than the file
        have hkept := Output.compare_eq_upToDate_iff.1 h.comparison
        rw [hread, Output.merged_eq, Option.some.injEq] at hkept
        have hlong := (not_not.1 hmarked).length_le
        have hlength := congrArg (·.toList.length) hkept
        simp only [String.toList_append, List.length_append] at hlength
        have hold : "old\n".toList.length < Output.marker.toList.length := by decide
        omega
  · obtain ⟨_, rfl, ⟨e, he, h⟩ | ⟨config, text', _, hconfig', -, rfl, p, hpath, -⟩⟩ :=
      changes_output_only ⟨none, false⟩ noted { generateNoted.checking with output := none }
    · rcases he.at_output hconfig htext.checking with ⟨-, rfl⟩ | ⟨_, h, -⟩
      · exact h
      · cases h
    · obtain rfl := Except.ok.inj (hconfig'.symm.trans hconfig)
      cases hpath

end AngularClient.Command
