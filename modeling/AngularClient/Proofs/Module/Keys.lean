import AngularClient.Proofs.Module.Downlevel
import AngularClient.Proofs.Module.Factory
import AngularClient.Proofs.Relation.Accessors
import AngularClient.Proofs.Text.Literal
import AngularClient.Proofs.View.OfModels

namespace AngularClient

section Key

variable {name : String}

theorem not_mem_actionKey (name : String) : '.' ∉ (actionKey name).toList := by
  rw [actionKey, String.toList_ofList, List.mem_map]
  rintro ⟨c, -, hc⟩
  split at hc
  · cases hc
  · next h => exact h hc

@[simp] theorem actionKey_eq_self (h : '.' ∉ name.toList) : actionKey name = name := by
  have hm : name.toList.map (fun c => if c = '.' then '$' else c) = name.toList := by
    rw [List.map_congr_left (g := id), List.map_id]
    intro c hc
    rw [if_neg]
    · rfl
    · rintro rfl
      exact h hc
  rw [actionKey, hm, String.ofList_toList]

end Key

theorem not_mem_literal (s : String) : '\n' ∉ (Text.literal s).toList := by
  intro h
  rw [Text.literal, String.toList_ofList] at h
  cases Text.Literal.endsLine_of_mem_write h

section KeyLine

variable (key : String)

theorem not_mem_keyLine : '\n' ∉ (keyLine key).toList := by
  have hhead : '\n' ∉ "            ".toList := by simp
  have hbrace : '\n' ∉ ": \x7b".toList := by simp
  unfold keyLine
  simp only [String.toList_append, List.mem_append, not_or]
  exact ⟨⟨hhead, not_mem_literal _⟩, hbrace⟩

theorem lower_keyLine :
    Text.trimEnd (Module.lowerDeclaration (keyLine key).toList) = (keyLine key).toList := by
  have hhead : "            ".toList = List.replicate 12 ' ' := by simp [List.replicate]
  have hbrace : ": \x7b".toList = [':', ' '] ++ ['\x7b'] := by simp
  unfold keyLine
  simp only [String.toList_append, Text.literal, String.toList_ofList, Text.Literal.write, hhead,
    hbrace]
  have hm : ∀ c ∈ List.replicate 12 ' ', Module.isIndent c = true := by simp [Module.isIndent]
  generalize List.replicate 12 ' ' = margin, key.toList.flatMap Text.Literal.escape = body at hm ⊢
  have hlower : Module.lowerDeclaration
      (margin ++ '\x27' :: (body ++ ['\x27'] ++ [':', ' '] ++ ['\x7b'])) = _ :=
    Module.lowerDeclaration_of_ne hm rfl (by decide) (by decide)
  have htrim := Text.trimEnd_concat
    (margin ++ '\x27' :: (body ++ ['\x27'] ++ [':', ' '])) (c := '\x7b') rfl
  simp only [List.append_assoc, List.cons_append, List.nil_append] at hlower htrim ⊢
  rw [hlower, htrim]

theorem keyLine_ne_nil : (keyLine key).toList ≠ [] := by
  unfold keyLine
  simp

theorem ActionView.opening_eq (a : ActionView) : a.opening = keyLine (actionKey a.name) := rfl

end KeyLine

namespace OperationView

def lowered (op : OperationView) : String :=
  "          var action = TargetResource[" ++ Text.literal op.method ++ "];"

variable (op : OperationView)

theorem not_mem_lookup : '\n' ∉ op.lookup.toList := by
  have hhead : '\n' ∉ "          let action = TargetResource[".toList := by simp
  have hstop : '\n' ∉ "];".toList := by simp
  unfold OperationView.lookup
  simp only [String.toList_append, List.mem_append, not_or]
  exact ⟨⟨hhead, not_mem_literal _⟩, hstop⟩

theorem lower_lookup :
    Text.trimEnd (Module.lowerDeclaration op.lookup.toList) = op.lowered.toList := by
  have hlet : "          let action = TargetResource[".toList =
      List.replicate 10 ' ' ++ 'l' :: 'e' :: 't' :: ' ' :: 'a' :: "ction = TargetResource[".toList :=
    by simp [List.replicate]
  have hvar : "          var action = TargetResource[".toList =
      List.replicate 10 ' ' ++ 'v' :: 'a' :: 'r' :: ' ' :: 'a' :: "ction = TargetResource[".toList :=
    by simp [List.replicate]
  have hstop : "];".toList = [']'] ++ [';'] := by simp
  unfold OperationView.lookup OperationView.lowered
  simp only [String.toList_append, hlet, hvar, hstop]
  have hm : ∀ c ∈ List.replicate 10 ' ', Module.isIndent c = true := by simp [Module.isIndent]
  generalize List.replicate 10 ' ' = margin, "ction = TargetResource[".toList = rest,
    (Text.literal op.method).toList = literal at hm ⊢
  have ha : ∀ c, ('a' :: (rest ++ literal ++ [']', ';'])).head? = some c →
      Module.isIndent c = false := by
    intro c hc
    cases hc
    rfl
  have hlower := Module.lowerDeclaration_let hm ha
  have htrim := Text.trimEnd_concat
    (margin ++ 'v' :: 'a' :: 'r' :: ' ' :: 'a' :: (rest ++ literal ++ [']'])) (c := ';') rfl
  simp only [List.append_assoc, List.cons_append, List.nil_append] at hlower htrim ⊢
  rw [hlower, htrim]

theorem lowered_ne_nil : op.lowered.toList ≠ [] := by
  unfold OperationView.lowered
  simp

end OperationView

namespace Module

structure Shows (v : ModuleView) (script : List Char) (m : ModelView) (line lowered : String) :
    Prop where
  inFactory : ∃ t, Module.factory v m = .ok t ∧ t <:+: script ∧ '\n' :: line.toList ++ ['\n'] <:+: t
  inText : lowered.toList ++ ['\n'] <:+: downlevel script

variable {v : ModuleView} {script : List Char} {m : ModelView} {line lowered : String}

theorem Shows.of_factory (hm : ∃ t, Module.factory v m = .ok t ∧ t <:+: script)
    (hline : ∀ {t}, Module.factory v m = .ok t → '\n' :: line.toList ++ ['\n'] <:+: t)
    (hlower : Text.trimEnd (lowerDeclaration line.toList) = lowered.toList)
    (hbreak : '\n' ∉ line.toList) (hne : lowered.toList ≠ []) :
    Shows v script m line lowered where
  inFactory := by
    obtain ⟨t, ht, hinfix⟩ := hm
    exact ⟨t, ht, hinfix, hline ht⟩
  inText := by
    obtain ⟨t, ht, hinfix⟩ := hm
    rw [← hlower] at hne ⊢
    exact line_infix_downlevel hbreak ((hline ht).trans hinfix) hne

theorem shows_keyLine {key : String}
    (h : Template.renderNamed servicesName v.context = .ok script) (hm : m ∈ v.models)
    (hkey : ∀ {t}, Module.factory v m = .ok t → '\n' :: (keyLine key).toList ++ ['\n'] <:+: t) :
    Shows v script m (keyLine key) (keyLine key) :=
  .of_factory (exists_factory h hm) hkey (lower_keyLine key) (not_mem_keyLine key)
    (keyLine_ne_nil key)

theorem shows_opening {a : ActionView}
    (h : Template.renderNamed servicesName v.context = .ok script) (hm : m ∈ v.models)
    (ha : a ∈ m.actions) : Shows v script m a.opening a.opening := by
  rw [a.opening_eq]
  exact shows_keyLine h hm fun ht => opening_infix_factory ht ha

end Module

def Model.actionKeys (n : Model) : List String :=
  n.methods.map (actionKey ·.name) ++ if n.isUser then ["getCurrent"] else []

namespace Registry

variable {r : Registry} {o : Options} {v : ModuleView} {m : ModelView} {s : ScopeView}
  {op : OperationView} {text : String}

theorem exists_action_of_operation (h : r.view o = .ok v) (hm : m ∈ v.models) (hs : s ∈ m.scopes)
    (hop : op ∈ s.operations) :
    ∃ target ∈ v.models, target.name = s.target ∧ ∃ a ∈ target.actions, a.name = op.method := by
  have hviews := ModelSet.forall₂_view h
  obtain ⟨n, hn, hview⟩ := exists_of_mem_of_forall₂ hviews.flip hm
  obtain ⟨actions, -, rfl⟩ := Model.view_eq_ok hview
  obtain ⟨⟨relation, scope⟩, hscope, rfl⟩ := List.mem_map.1 hs
  obtain ⟨⟨api, c⟩, hc, rfl⟩ := List.mem_map.1 hop
  obtain ⟨t, ht, hname, y, hy, rfl⟩ := exists_target_of_operation hn hscope hc
  obtain ⟨target, htarget, hview⟩ := exists_of_mem_of_forall₂ hviews ht
  obtain ⟨actions', hactions, rfl⟩ := Model.view_eq_ok hview
  obtain ⟨a, ha, hay⟩ := exists_of_mem_of_forall₂ hactions hy
  obtain ⟨verb, url, -, -, rfl⟩ := Method.view_eq_ok hay
  exact ⟨_, htarget, hname, _, ha, rfl⟩

theorem nodup_names_view (h : r.view o = .ok v) : (v.models.map (·.name)).Nodup := by
  rw [ModelSet.names_view h]
  exact nodup_names_describe r o

theorem generate_eq_ok (h : r.generate o = .ok text) :
    ∃ v script, r.view o = .ok v ∧ Template.renderNamed Module.servicesName v.context = .ok script ∧
      text = String.ofList (Module.downlevel script) := by
  obtain ⟨-, -, h₁⟩ := Except.bind_eq_ok_iff.1 h
  obtain ⟨v, hv, h₂⟩ := Except.bind_eq_ok_iff.1 h₁
  obtain ⟨script, hscript, h₃⟩ := Except.bind_eq_ok_iff.1 h₂
  cases h₃
  exact ⟨v, script, Except.mapError_eq_ok_iff.1 hv, Except.mapError_eq_ok_iff.1 hscript, rfl⟩

theorem keyLine_infix {n : Model} {key : String} (h : r.generate o = .ok text)
    (hn : n ∈ r.describe o) (hkey : key ∈ n.actionKeys) :
    (keyLine key).toList ++ ['\n'] <:+: text.toList := by
  obtain ⟨v, script, hv, hscript, rfl⟩ := generate_eq_ok h
  obtain ⟨m, hm, hview⟩ := exists_of_mem_of_forall₂ (ModelSet.forall₂_view hv) hn
  obtain ⟨actions, hactions, rfl⟩ := Model.view_eq_ok hview
  rw [String.toList_ofList]
  rcases List.mem_append.1 hkey with hkey | hkey
  · obtain ⟨x, hx, rfl⟩ := List.mem_map.1 hkey
    obtain ⟨a, ha, hax⟩ := exists_of_mem_of_forall₂ hactions hx
    obtain ⟨verb, url, -, -, rfl⟩ := Method.view_eq_ok hax
    exact (Module.shows_opening hscript hm ha).inText
  · split at hkey
    · next huser =>
      rw [List.mem_singleton.1 hkey]
      exact (Module.shows_keyLine hscript hm fun ht =>
        Module.getCurrent_infix_factory ht huser).inText
    · cases hkey

/-- An accessor looks its action up under the very name of a method, and the factory that it leads to
has that action under its key; the two denote one string just if the name holds no dot. -/
theorem lookup_denotes_key_iff (h : r.generate o = .ok text) :
    ∃ v script, r.view o = .ok v ∧ text = String.ofList (Module.downlevel script) ∧
      ∀ m ∈ v.models, ∀ s ∈ m.scopes, ∀ op ∈ s.operations,
        Module.Shows v script m op.lookup op.lowered ∧
          ∃ target ∈ v.models, (∀ t ∈ v.models, t.name = s.target ↔ t = target) ∧
            (∀ a ∈ target.actions, Module.Shows v script target a.opening a.opening) ∧
              ((∃ a ∈ target.actions, Text.literalValue? (Text.literal (actionKey a.name)) =
                  Text.literalValue? (Text.literal op.method)) ↔ '.' ∉ op.method.toList) := by
  obtain ⟨v, script, hv, hscript, rfl⟩ := generate_eq_ok h
  refine ⟨v, script, hv, rfl, ?_⟩
  intro m hm s hs op hop
  obtain ⟨target, htarget, hname, a, ha, hmethod⟩ := exists_action_of_operation hv hm hs hop
  have hnodup := nodup_names_view hv
  refine ⟨?_, target, htarget, ?_, ?_, ?_⟩
  · exact .of_factory (Module.exists_factory hscript hm)
      (fun ht => Module.lookup_infix_factory ht hs hop) op.lower_lookup op.not_mem_lookup
      op.lowered_ne_nil
  · intro t ht
    constructor
    · intro heq
      exact List.inj_on_of_nodup_map hnodup ht htarget (heq.trans hname.symm)
    · rintro rfl
      exact hname
  · exact fun a ha => Module.shows_opening hscript htarget ha
  · simp only [Text.literalValue?_literal, Option.some.injEq]
    constructor
    · rintro ⟨a, -, hkey⟩
      rw [← hkey]
      exact not_mem_actionKey a.name
    · intro hdot
      refine ⟨a, ha, ?_⟩
      rw [hmethod, actionKey_eq_self hdot]

/-- Dots in the name of a declared model are enough for a relation whose accessors look up actions
that do not exist. -/
theorem lookup_denotes_no_key_of_parts :
    ∃ text, parts.generate .default = .ok text ∧ ∃ v, parts.view .default = .ok v ∧
      ∃ m ∈ v.models, ∃ s ∈ m.scopes, ∃ op ∈ s.operations,
        ∃ target ∈ v.models, target.name = s.target ∧
          ¬ ∃ a ∈ target.actions, Text.literalValue? (Text.literal (actionKey a.name)) =
            Text.literalValue? (Text.literal op.method) := by
  have hok : (parts.generate .default).isOk = true := by decide +kernel
  have hdot : ((parts.view .default).toOption.any fun v => v.models.any fun m => m.scopes.any fun s =>
      s.operations.any fun op => op.method.toList.contains '.') = true := by decide +kernel
  cases hgenerate : parts.generate .default with
  | error e => rw [hgenerate] at hok; cases hok
  | ok text =>
    obtain ⟨v, script, hv, -, hall⟩ := lookup_denotes_key_iff hgenerate
    rw [hv] at hdot
    simp only [Except.toOption, Option.any_some, List.any_eq_true, List.contains_iff_mem] at hdot
    obtain ⟨m, hm, s, hs, op, hop, hmem⟩ := hdot
    obtain ⟨-, target, htarget, hname, -, hiff⟩ := hall m hm s hs op hop
    refine ⟨text, rfl, v, hv, m, hm, s, hs, op, hop, target, htarget,
      (hname target htarget).2 rfl, ?_⟩
    intro hkey
    exact hiff.1 hkey hmem

end Registry

end AngularClient
