import AngularClient.Proofs.Module.Keys
import AngularClient.Proofs.Module.Lowering
import AngularClient.Proofs.Module.Rendering
import AngularClient.Proofs.Relation.ClassOrder
import AngularClient.Proofs.Template.Names

namespace AngularClient

def Template.text (b : Bindings) (t : Template) : List Char := (render b t).toOption.getD []

theorem Template.text_of_render {b : Bindings} {t : Template} {s : List Char}
    (h : render b t = .ok s) : text b t = s := by
  rw [text, h]
  rfl

theorem Template.text_only {b : Bindings} {t : Template} {names : List String}
    (h : Template.usesOnly names t = true) : text (b.only names) t = text b t := by
  rw [text, text, render_only b t h]

namespace Module

variable {b : Bindings} {s : List Char}

section Script

def modelBlock : Template := .lines ["", ""] :: resource

def headerNames : List String := ["comments", "module_name", "url_base"]

def blockNames : List String :=
  ["action", "comments", "include_schema", "line", "model", "module_name", "op", "param", "scope",
    "services"]

def footerNames : List String := ["comments", "include_common_modules", "module_name", "services"]

@[simp] theorem usesOnly_header : Template.usesOnly headerNames header = true := by decide

@[simp] theorem usesOnly_modelBlock : Template.usesOnly blockNames modelBlock = true := by decide

@[simp] theorem usesOnly_footer : Template.usesOnly footerNames footer = true := by decide

theorem closed_header (h : Template.render b header = .ok s) :
    (∃ rest, s = '(' :: rest) ∧ Closed s := by
  constructor
  · obtain ⟨first, rest, hfirst, -, rfl⟩ := Template.render_cons_eq_ok_iff.1 h
    rw [Piece.render_text] at hfirst
    cases hfirst
    exact ⟨_, rfl⟩
  · have hinit : header = header.dropLast ++ [.text ", ['ngResource']);"] := rfl
    rw [hinit, Template.render_append_eq_ok_iff] at h
    obtain ⟨first, _, -, hlast, rfl⟩ := h
    obtain ⟨last, _, htext, hnil, rfl⟩ := Template.render_cons_eq_ok_iff.1 hlast
    rw [Template.render_nil] at hnil
    rw [Piece.render_text] at htext
    cases hnil
    cases htext
    have hstop : ", ['ngResource']);".toList = ", ['ngResource'])".toList ++ [';'] := rfl
    rw [List.append_nil, hstop, ← List.append_assoc]
    exact closed_concat rfl _

theorem isBlock_modelBlock (h : Template.render b modelBlock = .ok s) : IsBlock s := by
  have hinit : resource = resource.dropLast ++
      [.lines ["", "        return R;", "      \x7d]);", ""]] := rfl
  obtain ⟨start, _, hstart, hresource, rfl⟩ := Template.render_cons_eq_ok_iff.1 h
  rw [hinit, Template.render_append_eq_ok_iff] at hresource
  obtain ⟨inner, _, -, hlast, rfl⟩ := hresource
  obtain ⟨last, _, hlines, hnil, rfl⟩ := Template.render_cons_eq_ok_iff.1 hlast
  rw [Template.render_nil] at hnil
  rw [Piece.render_lines] at hstart hlines
  cases hstart
  cases hnil
  cases hlines
  refine ⟨inner ++ "\n\n        return R;\n      \x7d])".toList ++ [';'], ?_, closed_concat rfl _⟩
  simp

theorem exists_footer (h : Template.render b footer = .ok s) : ∃ rest, s = '\n' :: rest := by
  obtain ⟨first, rest, hfirst, hrest, rfl⟩ := Template.render_cons_eq_ok_iff.1 h
  have hhead := Piece.head?_render_given hfirst (Template.head?_render_lines hrest)
  exact List.head?_eq_some_iff.1 hhead

end Script

section Blocks

def opening (moduleName urlBase : String) (comments : Bool) : List Char :=
  lowered <| Template.text
    [("comments", .bool comments), ("module_name", .string moduleName),
      ("url_base", .string urlBase)]
    header

def block (moduleName : String) (services : ServiceNames) (comments includeSchema : Bool)
    (m : ModelView) : List Char :=
  lowered <| Template.text
    [("model", m.toJson), ("comments", .bool comments), ("include_schema", .bool includeSchema),
      ("module_name", .string moduleName), ("services", services.toJson)]
    modelBlock

def closing (noModels includeCommonModules comments : Bool) (moduleName : String)
    (services : ServiceNames) : List Char :=
  let text := Template.text
    [("comments", .bool comments), ("include_common_modules", .bool includeCommonModules),
      ("module_name", .string moduleName), ("services", services.toJson)]
    footer
  lowered (if noModels then text.tail else text)

variable {v : ModuleView} {m : ModelView}

theorem opening_eq (h : Template.render v.context header = .ok s) :
    opening v.moduleName v.urlBase v.comments = lowered s := by
  rw [← Template.text_of_render h, ← Template.text_only usesOnly_header]
  rfl

theorem block_eq (h : Template.render (("model", m.toJson) :: v.context) modelBlock = .ok s) :
    block v.moduleName v.services v.comments v.includeSchema m = lowered s := by
  rw [← Template.text_of_render h, ← Template.text_only usesOnly_modelBlock]
  rfl

theorem closing_eq (h : Template.render v.context footer = .ok s) (noModels : Bool) :
    closing noModels v.includeCommonModules v.comments v.moduleName v.services =
      lowered (if noModels then s.tail else s) := by
  rw [← Template.text_of_render h, ← Template.text_only usesOnly_footer]
  rfl

theorem map_lowered_eq {models : List ModelView} {texts : List (List Char)}
    (h : List.Forall₂
      (fun m s => Template.render (("model", m.toJson) :: v.context) modelBlock = .ok s)
      models texts) :
    texts.map lowered =
      models.map (block v.moduleName v.services v.comments v.includeSchema) := by
  induction h with
  | nil => rfl
  | cons hm _ ih => rw [List.map_cons, List.map_cons, block_eq hm, ih]

def assembled (v : ModuleView) : List Char :=
  opening v.moduleName v.urlBase v.comments ++
    v.models.flatMap (block v.moduleName v.services v.comments v.includeSchema) ++
    closing v.models.isEmpty v.includeCommonModules v.comments v.moduleName v.services

theorem downlevel_eq_assembled {script : List Char}
    (h : Template.renderNamed servicesName v.context = .ok script) :
    downlevel script = assembled v := by
  have hrender : Template.render v.context services = .ok script :=
    Except.mapError_eq_ok_iff.1 h
  obtain ⟨_, foot, hfront, hfoot, rfl⟩ := Template.render_append_eq_ok_iff.1 hrender
  obtain ⟨head, _, hhead, heach, rfl⟩ := Template.render_append_eq_ok_iff.1 hfront
  obtain ⟨middle, _, hmiddle, hnil, rfl⟩ := Template.render_cons_eq_ok_iff.1 heach
  rw [Template.render_nil] at hnil
  cases hnil
  obtain ⟨texts, htexts, rfl⟩ :=
    (Piece.render_each_eq_ok_iff (Bindings.find?_ofList rfl)).1 hmiddle
  rw [List.forall₂_map_left_iff] at htexts
  obtain ⟨⟨rest, rfl⟩, hclosed⟩ := closed_header hhead
  obtain ⟨tail, rfl⟩ := exists_footer hfoot
  -- From here on only the shape of the parts counts, not what the views put into them.
  have hblocks : ∀ t ∈ texts, IsBlock t := by
    intro t ht
    obtain ⟨m, -, hm⟩ := exists_of_mem_of_forall₂ htexts.flip ht
    exact isBlock_modelBlock hm
  have hmap := map_lowered_eq htexts
  have hempty : texts.isEmpty = v.models.isEmpty := by
    simpa using congrArg List.isEmpty hmap
  rw [assembled, opening_eq hhead, closing_eq hfoot, List.flatMap_def, ← hmap, ← hempty,
    List.append_nil, List.append_assoc, List.cons_append, downlevel_eq_lowered rfl,
    ← List.cons_append, lowered_header_append hclosed hblocks, List.append_assoc, List.tail_cons]

end Blocks

end Module

namespace Registry

variable {r : Registry} {o : Options} {text : String}

/-- The generated text is an opening, a block for each described model, and a closing.  With other
views in the place of the models, and the common modules left out or taken in, it is made of the same
opening, the blocks of these views, and a closing that knows of them only whether there are any. -/
theorem generated_in_blocks (h : r.generate o = .ok text) :
    ∃ v, r.view o = .ok v ∧
      List.Forall₂ (fun n m => n.view r.dialect = .ok m) (r.describe o) v.models ∧
      text.toList = Module.opening o.moduleName o.urlBase o.comments ++
        v.models.flatMap (Module.block o.moduleName o.services o.comments o.includeSchema) ++
        Module.closing v.models.isEmpty o.includeCommonModules o.comments o.moduleName o.services ∧
      ∀ models common, ∃ script,
        Template.renderNamed Module.servicesName
            { v with models := models, includeCommonModules := common }.context = .ok script ∧
          Module.downlevel script = Module.opening o.moduleName o.urlBase o.comments ++
            models.flatMap (Module.block o.moduleName o.services o.comments o.includeSchema) ++
            Module.closing models.isEmpty common o.comments o.moduleName o.services := by
  obtain ⟨v, script, hv, hscript, rfl⟩ := generate_eq_ok h
  have htext := Module.downlevel_eq_assembled hscript
  have hmodels := ModelSet.forall₂_view hv
  refine ⟨v, hv, hmodels, ?_⟩
  obtain ⟨models, -, rfl⟩ := ModelSet.view_eq_ok hv
  rw [String.toList_ofList]
  refine ⟨htext, ?_⟩
  intro models' common
  obtain ⟨script', hscript'⟩ := Module.exists_renderNamed_context
    ⟨o.moduleName, o.urlBase, common, o.includeSchema, o.comments, o.services, models'⟩
    List.mem_cons_self
  have htext' := Module.downlevel_eq_assembled hscript'
  exact ⟨script', hscript', htext'⟩

/-- Three models, three blocks, one right after the other.  A shelf alone has the same block. -/
theorem generated_in_blocks_library :
    ∃ text v author book shelf, library.generate .default = .ok text ∧
      library.view .default = .ok v ∧ v.models = [author, book, shelf] ∧
      [author, book, shelf].map (·.name) = ["Author", "Book", "Shelf"] ∧
      let opening := Module.opening "lbServices" Options.default.urlBase false
      let block := Module.block "lbServices" Options.default.services false false
      let closing := Module.closing false true false "lbServices" Options.default.services
      text.toList = opening ++ (block author ++ block book ++ block shelf) ++ closing ∧
        ∃ script, Template.renderNamed Module.servicesName
            { v with models := [shelf], includeCommonModules := true }.context = .ok script ∧
          Module.downlevel script = opening ++ block shelf ++ closing := by
  have hok : (library.generate .default).isOk = true := by decide +kernel
  have hnames : (library.describe .default).map (·.name) = ["Author", "Book", "Shelf"] := by
    decide +kernel
  cases hgenerate : library.generate .default with
  | error e =>
    rw [hgenerate] at hok
    cases hok
  | ok text =>
    obtain ⟨v, hv, -, htext, hothers⟩ := generated_in_blocks hgenerate
    have hmodels := (ModelSet.names_view hv).trans hnames
    obtain ⟨author, book, shelf, hthree⟩ : ∃ a b c, v.models = [a, b, c] :=
      List.length_eq_three.1 (by simpa using congrArg List.length hmodels)
    rw [hthree] at hmodels htext
    refine ⟨text, v, author, book, shelf, rfl, hv, hthree, hmodels, ?_⟩
    intro opening block closing
    have hall : [author, book, shelf].flatMap block = block author ++ block book ++ block shelf := by
      simp
    have hone : [shelf].flatMap block = block shelf := List.flatMap_singleton ..
    rw [← hall, ← hone]
    exact ⟨htext, hothers [shelf] true⟩

end Registry

end AngularClient
