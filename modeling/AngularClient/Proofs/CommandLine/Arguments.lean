import AngularClient.CommandLine.Reader
import AngularClient.Proofs.Except
import Mathlib.Data.List.Nodup
import Mathlib.Data.List.TakeWhile

namespace AngularClient

def Switch.name : Switch → String
  | .noCommonModules => "no-common-modules"
  | .namespaceModels => "namespace-models"
  | .namespaceCommonModels => "namespace-common-models"
  | .comments => "comments"
  | .includeSchema => "include-schema"
  | .check => "check"

def Setting.name : Setting → String
  | .moduleName => "module-name"
  | .apiUrl => "url"
  | .namespaceDelimiter => "namespace-delimiter"
  | .ignore => "ignore"

def Switch.argument (s : Switch) : String := "--" ++ s.name

def Setting.argument (s : Setting) (value : String) : String := "--" ++ s.name ++ "=" ++ value

def onceOnly (settings : List (Setting × String)) : List Setting :=
  (settings.map Prod.fst).filter (· ≠ .ignore)

@[simp] theorem onceOnly_append (l l' : List (Setting × String)) :
    onceOnly (l ++ l') = onceOnly l ++ onceOnly l' := by simp [onceOnly]

@[simp] theorem onceOnly_cons_ignore (value : String) (l : List (Setting × String)) :
    onceOnly ((.ignore, value) :: l) = onceOnly l := by simp [onceOnly]

@[simp] theorem onceOnly_cons {s : Setting} (hs : s ≠ .ignore) (value : String)
    (l : List (Setting × String)) : onceOnly ((s, value) :: l) = s :: onceOnly l := by
  simp [onceOnly, hs]

theorem isSome_lookup_iff {s : Setting} (hs : s ≠ .ignore) (settings : List (Setting × String)) :
    (settings.lookup s).isSome = true ↔ s ∈ onceOnly settings := by
  induction settings with
  | nil => simp [onceOnly]
  | cons entry settings ih =>
    obtain ⟨s', value⟩ := entry
    rw [List.lookup_cons]
    by_cases hsame : s = s'
    · subst hsame
      simp [onceOnly_cons hs]
    · have hne : (s == s') = false := by simpa using hsame
      rw [hne, ih]
      by_cases hs' : s' = .ignore
      · rw [hs', onceOnly_cons_ignore]
      · simp [onceOnly_cons hs', hsame]

namespace Arguments

variable {g : Grammar} {a b : Arguments}

section Steps

theorem addSetting_eq (s : Setting) (value : String) :
    a.addSetting s value =
      if s ∈ onceOnly a.settings then .error .repeatedArgument
      else .ok { a with settings := a.settings ++ [(s, value)] } := by
  unfold addSetting
  by_cases hs : s = .ignore
  · simp [hs, onceOnly]
  · simp [hs, isSome_lookup_iff hs]

@[simp] theorem settle_of_not_pending (h : a.pending = none) : a.settle g = .ok a := by
  obtain ⟨words, switches, settings, pending⟩ := a
  cases h
  rfl

theorem pending_settle (h : a.settle g = .ok b) : b.pending = none := by
  unfold settle at h
  split at h
  · cases h
    rfl
  · split at h <;> cases h
    rfl
  · cases h
  · rw [addSetting_eq] at h
    split at h <;> cases h
    rfl

theorem settle_word {w : String} (h : g.accepts w = true) :
    { a with pending := some (.word w) }.settle g =
      .ok { a with words := a.words ++ [w], pending := none } := by
  simp [settle, h]

theorem word_eq (h : a.settle g = .ok b) (w : String) :
    a.word g w =
      if b.words.length < g.words then .ok { b with pending := some (.word w) }
      else .error .unknownArgument := by
  obtain ⟨words, switches, settings, pending⟩ := a
  rw [word, h]
  rcases pending with _ | ⟨w'⟩ | ⟨s, _ | value⟩
  · cases h
    rfl
  · by_cases hw : g.accepts w' = true
    · simp only [settle, hw, if_pos] at h
      cases h
      simp [pure, Except.pure]
    · simp [settle, hw] at h
  · cases h
  · simp only [settle, addSetting_eq] at h
    split at h
    · cases h
    · cases h
      rfl

theorem settle_words (words : List String) (h : a.settle g = .ok b)
    (hwords : ∀ w ∈ words, g.accepts w = true) (hlength : b.words.length + words.length ≤ g.words) :
    (words.foldlM (fun a w => a.word g w) a >>= settle g) =
      .ok { b with words := b.words ++ words } := by
  induction words generalizing a b with
  | nil => simpa [pure, Except.pure] using h
  | cons w words ih =>
    rw [List.forall_mem_cons] at hwords
    rw [List.length_cons] at hlength
    rw [List.foldlM_cons, word_eq h, if_pos (by omega), Except.ok_bind,
      ih (settle_word hwords.1) hwords.2 (by simp; omega)]
    simp [pending_settle h]

@[simp] theorem read_cons {arg : String} (h : arg ≠ "--") (rest : List String) :
    a.read g (arg :: rest) = a.argument g arg >>= fun a => a.read g rest := by
  rw [read]
  exact h

@[simp] theorem argument_long (s : String) : a.argument g ("--" ++ s) = a.longFlag g s.toList := by
  simp [argument]

theorem argument_name {name : String} {f : Flag} (hname : '=' ∉ name.toList)
    (hf : g.long.lookup name = some f) : a.argument g ("--" ++ name) = a.flag g f none := by
  have hall : name.toList.takeWhile (· != '=') = name.toList := by
    rw [List.takeWhile_eq_self_iff]
    intro c hc
    exact bne_iff_ne.2 (ne_of_mem_of_not_mem hc hname)
  simp [longFlag, hall, hf]

theorem argument_name_value {name : String} {f : Flag} (hname : '=' ∉ name.toList)
    (hf : g.long.lookup name = some f) (value : String) :
    a.argument g ("--" ++ name ++ "=" ++ value) = a.flag g f (some value) := by
  have hall : (name.toList ++ '=' :: value.toList).takeWhile (· != '=') = name.toList := by
    rw [List.takeWhile_append_of_pos, List.takeWhile_cons_of_neg (by simp), List.append_nil]
    intro c hc
    exact bne_iff_ne.2 (ne_of_mem_of_not_mem hc hname)
  rw [String.append_assoc, String.append_assoc, argument_long, longFlag]
  simp [hall, hf]

end Steps

structure WellFormed (g : Grammar) (a : Arguments) : Prop where
  words : ∀ w ∈ a.words, g.accepts w = true
  switches : a.switches.Nodup
  settings : (onceOnly a.settings).Nodup

theorem wellFormed_empty (g : Grammar) : empty.WellFormed g := ⟨by simp [empty], .nil, .nil⟩

namespace WellFormed

variable (h : a.WellFormed g)
include h

theorem pending (p : Option Pending) : { a with pending := p }.WellFormed g :=
  ⟨h.words, h.switches, h.settings⟩

theorem addSetting {s : Setting} {value : String} (hb : a.addSetting s value = .ok b) :
    b.WellFormed g := by
  rw [addSetting_eq] at hb
  split at hb
  · cases hb
  next hnew =>
    cases hb
    refine ⟨h.words, h.switches, ?_⟩
    by_cases hs : s = .ignore
    · simpa [hs, onceOnly] using h.settings
    · rw [onceOnly_append, onceOnly_cons hs]
      exact h.settings.append (List.nodup_singleton s) (List.disjoint_singleton.2 hnew)

theorem settle (hb : a.settle g = .ok b) : b.WellFormed g := by
  unfold Arguments.settle at hb
  split at hb
  · cases hb
    exact h.pending none
  · split at hb
    next hw =>
      cases hb
      refine ⟨?_, h.switches, h.settings⟩
      simpa [or_imp, forall_and] using ⟨h.words, hw⟩
    · cases hb
  · cases hb
  · exact (h.pending none).addSetting hb

theorem flag {f : Flag} {value : Option String} (hb : a.flag g f value = .ok b) :
    b.WellFormed g := by
  unfold Arguments.flag at hb
  split at hb
  · obtain ⟨a', hsettle, hadd⟩ := Except.bind_eq_ok_iff.1 hb
    exact (h.settle hsettle).addSetting hadd
  · obtain ⟨a', hsettle, hb⟩ := Except.bind_eq_ok_iff.1 hb
    cases hb
    exact (h.settle hsettle).pending _
  · cases hb
  · obtain ⟨a', hsettle, hb⟩ := Except.bind_eq_ok_iff.1 hb
    split at hb
    · cases hb
    next hnew =>
      cases hb
      have ha' := h.settle hsettle
      refine ⟨ha'.words, ?_, ha'.settings⟩
      exact ha'.switches.append (List.nodup_singleton _)
        (List.disjoint_singleton.2 (by simpa using hnew))
  · obtain ⟨a', -, hb⟩ := Except.bind_eq_ok_iff.1 hb
    cases hb
  · obtain ⟨a', -, hb⟩ := Except.bind_eq_ok_iff.1 hb
    cases hb

theorem longFlag {name : List Char} (hb : a.longFlag g name = .ok b) : b.WellFormed g := by
  simp only [Arguments.longFlag] at hb
  split at hb
  · exact h.flag hb
  · cases hb

theorem shortFlag {c : Char} {rest : List Char} (hb : a.shortFlag g c rest = .ok b) :
    b.WellFormed g := by
  unfold Arguments.shortFlag at hb
  split at hb
  · exact h.flag hb
  · exact h.flag hb
  · cases hb

theorem word {w : String} (hb : a.word g w = .ok b) : b.WellFormed g := by
  dsimp only [Arguments.word] at hb
  split_ifs at hb
  obtain ⟨a', hsettle, hb⟩ := Except.bind_eq_ok_iff.1 hb
  cases hb
  exact (h.settle hsettle).pending _

theorem wordOrValue {w : String} (hb : a.wordOrValue g w = .ok b) : b.WellFormed g := by
  unfold Arguments.wordOrValue at hb
  split at hb
  · cases hb
    exact h.pending _
  · exact h.word hb

theorem argument {arg : String} (hb : a.argument g arg = .ok b) : b.WellFormed g := by
  unfold Arguments.argument at hb
  split at hb
  · exact h.longFlag hb
  · exact h.shortFlag hb
  · exact h.wordOrValue hb

theorem words_read {words : List String}
    (hb : words.foldlM (fun a w => a.word g w) a = .ok b) : b.WellFormed g := by
  induction words generalizing a with
  | nil =>
    cases hb
    exact h
  | cons w words ih =>
    rw [List.foldlM_cons] at hb
    obtain ⟨a', hword, hb⟩ := Except.bind_eq_ok_iff.1 hb
    exact ih (h.word hword) hb

theorem read {args : List String} (hb : a.read g args = .ok b) : b.WellFormed g := by
  induction args generalizing a with
  | nil => exact h.settle hb
  | cons arg args ih =>
    by_cases hdashes : arg = "--"
    · subst hdashes
      obtain ⟨a', hwords, hb⟩ := Except.bind_eq_ok_iff.1 hb
      exact (h.words_read hwords).settle hb
    · rw [read_cons hdashes] at hb
      obtain ⟨a', harg, hb⟩ := Except.bind_eq_ok_iff.1 hb
      exact ih (h.argument harg) hb

end WellFormed

end Arguments

structure GenerateCommand.WellFormed (c : GenerateCommand) : Prop where
  input : c.input ≠ ""
  output : c.output ≠ some ""
  switches : c.switches.Nodup
  settings : (onceOnly c.settings).Nodup

def GenerateCommand.arguments (c : GenerateCommand) : List String :=
  c.switches.map Switch.argument ++ (c.settings.map (fun (s, value) => s.argument value) ++
    "--" :: c.input :: c.output.toList)

namespace Arguments

variable {a : Arguments}

theorem argument_switch (ha : a.pending = none) {s : Switch} (hs : s ∉ a.switches) :
    a.argument .generate s.argument = .ok { a with switches := a.switches ++ [s] } := by
  have hname : '=' ∉ s.name.toList := by cases s <;> decide
  have hf : Grammar.generate.long.lookup s.name = some (.switch s) := by cases s <;> rfl
  rw [Switch.argument, argument_name hname hf, flag, settle_of_not_pending ha]
  simp [hs, pure, Except.pure]

theorem argument_setting (ha : a.pending = none) {s : Setting} (hs : s ∉ onceOnly a.settings)
    (value : String) :
    a.argument .generate (s.argument value) =
      .ok { a with settings := a.settings ++ [(s, value)] } := by
  have hname : '=' ∉ s.name.toList := by cases s <;> decide
  have hf : Grammar.generate.long.lookup s.name = some (.setting s) := by cases s <;> rfl
  rw [Setting.argument, argument_name_value hname hf, flag, settle_of_not_pending ha,
    Except.ok_bind, addSetting_eq, if_neg hs]

theorem read_switches (ha : a.pending = none) (switches : List Switch)
    (hs : (a.switches ++ switches).Nodup) (rest : List String) :
    a.read .generate (switches.map Switch.argument ++ rest) =
      { a with switches := a.switches ++ switches }.read .generate rest := by
  induction switches generalizing a with
  | nil => simp
  | cons s switches ih =>
    have hdashes : s.argument ≠ "--" := by cases s <;> decide
    have hnew : s ∉ a.switches := fun h =>
      (List.nodup_append.1 hs).2.2 s h s List.mem_cons_self rfl
    have hnext : { a with switches := a.switches ++ [s] }.pending = none := ha
    rw [List.map_cons, List.cons_append, read_cons hdashes, argument_switch ha hnew,
      Except.ok_bind, ih hnext (by simpa using hs)]
    simp

theorem read_settings (ha : a.pending = none) (settings : List (Setting × String))
    (hs : (onceOnly (a.settings ++ settings)).Nodup) (rest : List String) :
    a.read .generate (settings.map (fun (s, value) => s.argument value) ++ rest) =
      { a with settings := a.settings ++ settings }.read .generate rest := by
  induction settings generalizing a with
  | nil => simp
  | cons setting settings ih =>
    obtain ⟨s, value⟩ := setting
    have hdashes : s.argument value ≠ "--" := by
      intro h
      have hlength := congrArg (·.toList.length) h
      simp [Setting.argument] at hlength
    have hnew : s ∉ onceOnly a.settings := by
      by_cases hignore : s = .ignore
      · simp [hignore, onceOnly]
      · rw [onceOnly_append, onceOnly_cons hignore] at hs
        exact fun h => (List.nodup_append.1 hs).2.2 s h s List.mem_cons_self rfl
    have hnext : { a with settings := a.settings ++ [(s, value)] }.pending = none := ha
    rw [List.map_cons, List.cons_append, read_cons hdashes, argument_setting ha hnew,
      Except.ok_bind, ih hnext (by simpa using hs)]
    simp

theorem read_words (ha : a.pending = none) {g : Grammar} (words : List String)
    (hwords : ∀ w ∈ words, g.accepts w = true) (hlength : a.words.length + words.length ≤ g.words) :
    a.read g ("--" :: words) = .ok { a with words := a.words ++ words } := by
  rw [read]
  exact settle_words words (settle_of_not_pending ha) hwords hlength

end Arguments

namespace Command

def WellFormed : Command → Prop
  | .generate c => c.WellFormed
  | .describe input => input ≠ ""
  | .completions shell => shell ∈ Grammar.shells

def arguments : Command → List String
  | .generate c => "generate" :: c.arguments
  | .describe input => ["describe", "--", input]
  | .completions shell => ["completions", "--", shell]

theorem read_arguments {c : GenerateCommand} (h : c.WellFormed) :
    Arguments.empty.read .generate c.arguments =
      .ok ⟨c.input :: c.output.toList, c.switches, c.settings, none⟩ := by
  have hwords : ∀ w ∈ c.input :: c.output.toList, Grammar.generate.accepts w = true := by
    rw [List.forall_mem_cons]
    refine ⟨by simpa [Grammar.generate, Grammar.isPath] using h.input, ?_⟩
    intro path hpath
    have hne : path ≠ "" := fun hempty => h.output (by simpa [hempty] using hpath)
    simpa [Grammar.generate, Grammar.isPath] using hne
  have hlength : (c.input :: c.output.toList).length ≤ Grammar.generate.words := by
    cases c.output <;> simp [Grammar.generate]
  calc Arguments.empty.read .generate c.arguments
    _ = Arguments.read .generate ⟨[], c.switches, [], none⟩
          (c.settings.map (fun (s, value) => s.argument value) ++
            "--" :: c.input :: c.output.toList) :=
      Arguments.read_switches (a := .empty) rfl c.switches h.switches _
    _ = Arguments.read .generate ⟨[], c.switches, c.settings, none⟩
          ("--" :: c.input :: c.output.toList) :=
      Arguments.read_settings (a := ⟨[], c.switches, [], none⟩) rfl c.settings h.settings _
    _ = .ok ⟨c.input :: c.output.toList, c.switches, c.settings, none⟩ :=
      Arguments.read_words rfl _ hwords (by simpa using hlength)

theorem ofArgs_arguments {c : Command} (h : c.WellFormed) : ofArgs c.arguments = .ok c := by
  cases c with
  | generate c =>
    have hname : ofArgs ("generate" :: c.arguments) = ofName "generate" c.arguments := rfl
    rw [arguments, hname, ofName, if_pos rfl, read_arguments h, Except.ok_bind]
    simp [ofGenerate]
  | describe input =>
    have hname : ofArgs ["describe", "--", input] = ofName "describe" ["--", input] := rfl
    have hwords : ∀ w ∈ [input], Grammar.describe.accepts w = true := by
      simpa [WellFormed, Grammar.describe, Grammar.isPath] using h
    rw [arguments, hname, ofName, if_neg (by decide), if_pos rfl,
      Arguments.read_words rfl _ hwords le_rfl]
    rfl
  | completions shell =>
    have hname : ofArgs ["completions", "--", shell] = ofName "completions" ["--", shell] := rfl
    have hwords : ∀ w ∈ [shell], Grammar.completions.accepts w = true := by
      simpa [WellFormed, Grammar.completions] using h
    rw [arguments, hname, ofName, if_neg (by decide), if_neg (by decide), if_pos rfl,
      Arguments.read_words rfl _ hwords le_rfl]
    rfl

theorem wellFormed_of_ofGenerate {a : Arguments} {c : Command}
    (ha : a.WellFormed .generate) (h : ofGenerate a = .ok c) : c.WellFormed := by
  obtain ⟨words, switches, settings, pending⟩ := a
  cases words with
  | nil => cases h
  | cons input rest =>
    cases h
    have hwords : ∀ w ∈ input :: rest, w ≠ "" := by
      simpa [Grammar.generate, Grammar.isPath] using ha.words
    rw [List.forall_mem_cons] at hwords
    refine ⟨hwords.1, ?_, ha.switches, ha.settings⟩
    intro hempty
    exact hwords.2 "" (List.mem_of_mem_head? hempty) rfl

theorem exists_word_of_ofWord {g : Grammar} {a : Arguments} {make : String → Command} {c : Command}
    (ha : a.WellFormed g) (h : ofWord make a = .ok c) : ∃ w, c = make w ∧ g.accepts w = true := by
  obtain ⟨words, switches, settings, pending⟩ := a
  cases words with
  | nil => cases h
  | cons w rest =>
    cases h
    exact ⟨w, rfl, ha.words w List.mem_cons_self⟩

theorem wellFormed_of_ofName {name : String} {args : List String} {c : Command}
    (h : ofName name args = .ok c) : c.WellFormed := by
  unfold ofName at h
  split_ifs at h
  · obtain ⟨a, hread, h⟩ := Except.bind_eq_ok_iff.1 h
    exact wellFormed_of_ofGenerate ((Arguments.wellFormed_empty _).read hread) h
  · obtain ⟨a, hread, h⟩ := Except.bind_eq_ok_iff.1 h
    obtain ⟨w, rfl, hw⟩ := exists_word_of_ofWord ((Arguments.wellFormed_empty _).read hread) h
    simpa [WellFormed, Grammar.describe, Grammar.isPath] using hw
  · obtain ⟨a, hread, h⟩ := Except.bind_eq_ok_iff.1 h
    obtain ⟨w, rfl, hw⟩ := exists_word_of_ofWord ((Arguments.wellFormed_empty _).read hread) h
    simpa [WellFormed, Grammar.completions] using hw

theorem exists_ofArgs_iff {c : Command} : (∃ args, ofArgs args = .ok c) ↔ c.WellFormed := by
  constructor
  · rintro ⟨args, h⟩
    unfold ofArgs at h
    split at h
    · cases h
    · cases h
    · cases h
    · split at h
      · split at h <;> cases h
      · exact wellFormed_of_ofName h
  · exact fun h => ⟨_, ofArgs_arguments h⟩

end Command

end AngularClient
