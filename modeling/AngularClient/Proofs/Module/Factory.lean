import AngularClient.Module.Services
import AngularClient.Proofs.Template.Rendering
import AngularClient.View.Basic

namespace AngularClient

def keyLine (key : String) : String := "            " ++ Text.literal key ++ ": \x7b"

def ActionView.opening (a : ActionView) : String :=
  "            " ++ Text.literal (actionKey a.name) ++ ": \x7b"

def OperationView.lookup (op : OperationView) : String :=
  "          let action = TargetResource[" ++ Text.literal op.method ++ "];"

namespace Module

variable {b : Bindings} {text : List Char}

theorem opening_infix_action {a : ActionView}
    (h : Template.render (("action", a.toJson) :: b) action = .ok text) :
    '\n' :: a.opening.toList ++ ['\n'] <:+: text := by
  obtain ⟨comment, _, -, h₁, rfl⟩ := Template.render_cons_eq_ok_iff.1 h
  obtain ⟨_, h₂, rfl⟩ :=
    Template.render_line_eq_ok (Bindings.find?_written rfl) (List.cons_ne_nil _ _) h₁
  obtain ⟨params, _, hparams, h₃, rfl⟩ := Template.render_cons_eq_ok_iff.1 h₂
  obtain ⟨login, _, hlogin, h₄, rfl⟩ := Template.render_cons_eq_ok_iff.1 h₃
  obtain ⟨array, url, harray, h₅, rfl⟩ := Template.render_cons_eq_ok_iff.1 h₄
  have hrest : (params ++ (login ++ (array ++ url))).head? = some '\n' := by
    apply Piece.head?_render_given hparams
    have hurl := Piece.head?_render_given harray (Template.head?_render_lines h₅)
    rcases Piece.render_choice_cases hlogin with hlogin | hlogin
    · rw [List.head?_append, Template.head?_render_lines hlogin]
      rfl
    · obtain ⟨logout, _, hlogout, hnil, rfl⟩ := Template.render_cons_eq_ok_iff.1 hlogin
      rw [Template.render] at hnil
      cases hnil
      rw [List.append_nil]
      exact Piece.head?_render_given hlogout hurl
  obtain ⟨after, hafter⟩ := List.head?_eq_some_iff.1 hrest
  have hline : "            " ++ [Filter.key, .literal].foldl (fun s f => f.apply s) a.name ++
      ": \x7b" = a.opening := rfl
  rw [hafter, hline]
  exact ⟨comment, after, by simp⟩

theorem lookup_infix_operation {op : OperationView}
    (h : Template.render (("op", op.toJson) :: b) operation = .ok text) :
    '\n' :: op.lookup.toList ++ ['\n'] <:+: text := by
  rw [← List.take_append_drop 8 operation] at h
  obtain ⟨before, _, -, h₁, rfl⟩ := Template.render_append_eq_ok_iff.1 h
  obtain ⟨rest, h₂, rfl⟩ :=
    Template.render_line_eq_ok (Bindings.find?_written rfl) (List.cons_ne_nil _ _) h₁
  obtain ⟨after, rfl⟩ := List.head?_eq_some_iff.1 (Template.head?_render_lines h₂)
  have hline : "          let action = TargetResource[" ++
      [Filter.literal].foldl (fun s f => f.apply s) op.method ++ "];" = op.lookup := rfl
  rw [hline]
  exact ⟨before, after, by simp⟩

def factory (v : ModuleView) (m : ModelView) : Except Template.Obstruction (List Char) :=
  Template.render (("model", m.toJson) :: v.context) resource

variable {v : ModuleView} {m : ModelView}

theorem opening_infix_factory {a : ActionView} (h : factory v m = .ok text) (ha : a ∈ m.actions) :
    '\n' :: a.opening.toList ++ ['\n'] <:+: text := by
  obtain ⟨actions, hactions, hinfix⟩ :=
    Template.exists_piece_infix h (List.mem_of_getElem? (i := 13) rfl)
  obtain ⟨body, hbody, hbodies⟩ :=
    Piece.exists_item_infix (Bindings.find?_written rfl) hactions (List.mem_map_of_mem ha)
  exact (opening_infix_action hbody).trans (hbodies.trans hinfix)

theorem lookup_infix_factory {s : ScopeView} {op : OperationView} (h : factory v m = .ok text)
    (hs : s ∈ m.scopes) (hop : op ∈ s.operations) :
    '\n' :: op.lookup.toList ++ ['\n'] <:+: text := by
  obtain ⟨scopes, hscopes, hinfix⟩ :=
    Template.exists_piece_infix h (List.mem_of_getElem? (i := 21) rfl)
  obtain ⟨scopeText, hscope, hscopeInfix⟩ :=
    Piece.exists_item_infix (Bindings.find?_written rfl) hscopes (List.mem_map_of_mem hs)
  obtain ⟨operations, hoperations, hopsInfix⟩ :=
    Template.exists_piece_infix hscope (List.mem_of_getElem? (i := 1) rfl)
  obtain ⟨body, hbody, hbodies⟩ :=
    Piece.exists_item_infix (Bindings.find?_written rfl) hoperations (List.mem_map_of_mem hop)
  exact (lookup_infix_operation hbody).trans
    (hbodies.trans (hopsInfix.trans (hscopeInfix.trans hinfix)))

theorem getCurrent_infix_factory (h : factory v m = .ok text) (hu : m.isUser = true) :
    '\n' :: (keyLine "getCurrent").toList ++ ['\n'] <:+: text := by
  obtain ⟨current, hcurrent, hinfix⟩ :=
    Template.exists_piece_infix h (List.mem_of_getElem? (i := 14) rfl)
  have hfind : Bindings.find? (("model", m.toJson) :: v.context) ["model", "is_user"] =
      some (.bool m.isUser) := Bindings.find?_written rfl
  have hholds := (Condition.eval_holds hfind).trans hu
  rw [Piece.given, Piece.render, if_pos hholds] at hcurrent
  obtain ⟨first, rest, hfirst, -, rfl⟩ := Template.render_cons_eq_ok_iff.1 hcurrent
  rw [Piece.render_lines] at hfirst
  cases hfirst
  have hline : keyLine "getCurrent" = "            'getCurrent': \x7b" := by decide
  rw [hline]
  refine List.IsInfix.trans ?_ hinfix
  exact ⟨['\n'], "              url: urlBase + ".toList ++ rest, by simp⟩

theorem exists_factory (h : Template.renderNamed servicesName v.context = .ok text)
    (hm : m ∈ v.models) : ∃ t, factory v m = .ok t ∧ t <:+: text := by
  have hlookup : templates.lookup servicesName = some services := by
    rw [templates, List.lookup_cons_self]
  simp only [Template.renderNamed, hlookup] at h
  have hr : Template.render v.context services = .ok text := by
    cases hr : Template.render v.context services with
    | error e => rw [hr] at h; cases h
    | ok t => rw [hr] at h; rw [Except.ok.inj h]
  obtain ⟨models, hmodels, hinfix⟩ := Template.exists_piece_infix hr
    (List.mem_append_left _ (List.mem_append_right _ (List.mem_singleton_self _)))
  obtain ⟨body, hbody, hbodies⟩ :=
    Piece.exists_item_infix (Bindings.find?_ofList rfl) hmodels (List.mem_map_of_mem hm)
  obtain ⟨blank, t, -, ht, rfl⟩ := Template.render_cons_eq_ok_iff.1 hbody
  exact ⟨t, ht, (List.suffix_append _ _).isInfix.trans (hbodies.trans hinfix)⟩

end Module

end AngularClient
