import AngularClient.Proofs.Dictionary
import AngularClient.Proofs.Except
import AngularClient.Proofs.Lists
import AngularClient.Template.Rendering

namespace AngularClient

namespace Bindings

variable {b : Bindings} {name : String} {j : Json} {path : ValuePath}

@[simp] theorem find?_cons_self {value : Json} (h : j.descend path = some value) :
    Bindings.find? ((name, j) :: b) (name :: path) = some value := by
  simp [Bindings.find?, h]

@[simp] theorem find?_cons_of_ne {root : String} (h : name ≠ root) :
    Bindings.find? ((name, j) :: b) (root :: path) = b.find? (root :: path) := by
  simp [Bindings.find?, h]

@[simp] theorem find?_singleton (b : Bindings) (name : String) :
    b.find? [name] = Dictionary.find? b name := by
  rw [Bindings.find?, Dictionary.find?]
  induction b with
  | nil => rfl
  | cons e b ih =>
    rw [List.findSome?_cons, List.lookup_cons, ih]
    by_cases h : e.1 = name
    · simp [h, Json.descend]
    · have hne : (name == e.1) = false := by rw [beq_eq_false_iff_ne]; exact Ne.symm h
      simp [h, hne]

@[simp] theorem find?_written {members : List (String × Json)} {key : String} {value : Json}
    (h : (Dictionary.given members key).getLast? = some value) :
    Bindings.find? ((name, .ofMembers members) :: b) [name, key] = some value := by
  apply find?_cons_self
  simp [Json.descend, Json.ofMembers, Json.member?, h]

@[simp] theorem find?_ofList {entries : List (String × Json)} {value : Json}
    (h : (Dictionary.given entries name).getLast? = some value) :
    Bindings.find? (Dictionary.ofList entries) [name] = some value := by
  simp [h]

end Bindings

@[simp] theorem Condition.eval_holds {b : Bindings} {path : ValuePath} {j : Json}
    (h : b.find? path = some j) : (Condition.holds path).eval b = j.holds := by
  rw [Condition.eval, h, Option.any_some]

namespace Template

variable {b : Bindings} {p : Piece} {t u : Template} {text : List Char}

@[simp] theorem render_cons_eq_ok_iff :
    render b (p :: t) = .ok text ↔
      ∃ first rest, p.render b = .ok first ∧ render b t = .ok rest ∧ text = first ++ rest := by
  rw [render, Except.bind_eq_ok_iff]
  constructor
  · rintro ⟨first, hp, h⟩
    obtain ⟨rest, ht, h⟩ := Except.bind_eq_ok_iff.1 h
    cases h
    exact ⟨first, rest, hp, ht, rfl⟩
  · rintro ⟨first, rest, hp, ht, rfl⟩
    exact ⟨first, hp, Except.bind_eq_ok_iff.2 ⟨rest, ht, rfl⟩⟩

@[simp] theorem render_nil (b : Bindings) : render b [] = .ok [] := by rw [render]

theorem render_cons {first rest : List Char} (hp : p.render b = .ok first)
    (ht : render b t = .ok rest) : render b (p :: t) = .ok (first ++ rest) :=
  render_cons_eq_ok_iff.2 ⟨first, rest, hp, ht, rfl⟩

@[simp] theorem render_append_eq_ok_iff :
    render b (t ++ u) = .ok text ↔
      ∃ first rest, render b t = .ok first ∧ render b u = .ok rest ∧ text = first ++ rest := by
  induction t generalizing text with
  | nil => simp [render, eq_comm]
  | cons p t ih =>
    simp only [List.cons_append, render_cons_eq_ok_iff, ih]
    constructor
    · rintro ⟨first, rest, hp, ⟨first', rest', ht, hu, rfl⟩, rfl⟩
      exact ⟨first ++ first', rest', ⟨first, first', hp, ht, rfl⟩, hu, by rw [List.append_assoc]⟩
    · rintro ⟨first, rest, ⟨first', rest', hp, ht, rfl⟩, hu, rfl⟩
      exact ⟨first', rest' ++ rest, hp, ⟨rest', rest, ht, hu, rfl⟩, by rw [List.append_assoc]⟩

theorem exists_piece_infix (h : render b t = .ok text) (hp : p ∈ t) :
    ∃ s, p.render b = .ok s ∧ s <:+: text := by
  obtain ⟨before, after, rfl⟩ := List.append_of_mem hp
  obtain ⟨first, _, -, h₁, rfl⟩ := render_append_eq_ok_iff.1 h
  obtain ⟨s, rest, hs, -, rfl⟩ := render_cons_eq_ok_iff.1 h₁
  exact ⟨s, hs, first, rest, by rw [List.append_assoc]⟩

end Template

namespace Piece

variable {b : Bindings} {path : ValuePath} {filters : List Filter} {name s : String}
  {line : String} {ls : List String} {body : Template} {text : List Char} {items : List Json}

@[simp] theorem render_text (s : String) : (Piece.text s).render b = .ok s.toList := by
  rw [Piece.render]

@[simp] theorem render_lines (ls : List String) :
    (Piece.lines ls).render b = .ok (ls.flatMap fun line => '\n' :: line.toList) := by
  rw [Piece.render]

@[simp] theorem render_slot_plain (h : b.find? path = some (.string s)) :
    (Piece.slot path []).render b = .ok s.toList := by
  simp [Piece.render, h, Filter.fill, Json.display]

theorem render_slot_of_string (h : b.find? path = some (.string s)) (hf : filters ≠ []) :
    (Piece.slot path filters).render b = .ok (filters.foldl (fun s f => f.apply s) s).toList := by
  have he : filters.isEmpty = false := by rw [List.isEmpty_eq_false_iff]; exact hf
  simp [Piece.render, h, Filter.fill, Json.str?, he]

theorem render_choice_cases {c : Condition} {yes no : Template}
    (h : (Piece.choice c yes no).render b = .ok text) :
    Template.render b yes = .ok text ∨ Template.render b no = .ok text := by
  rw [Piece.render] at h
  split at h
  · exact .inl h
  · exact .inr h

theorem render_each_eq_ok_iff (h : b.find? path = some (.array items)) :
    (Piece.each name path body).render b = .ok text ↔
      ∃ texts, List.Forall₂ (fun item text => Template.render ((name, item) :: b) body = .ok text)
        items texts ∧ text = texts.flatten := by
  rw [Piece.render, h, Option.bind_some]
  simp only [Json.items?]
  rw [Except.bind_eq_ok_iff]
  apply exists_congr
  intro texts
  rw [Except.mapM_eq_ok_iff, List.forall₂_map_left_iff]
  constructor
  · rintro ⟨htexts, h⟩
    cases h
    exact ⟨htexts, rfl⟩
  · rintro ⟨htexts, rfl⟩
    exact ⟨htexts, rfl⟩

theorem exists_item_infix {item : Json} (hp : b.find? path = some (.array items))
    (h : (Piece.each name path body).render b = .ok text) (hitem : item ∈ items) :
    ∃ s, Template.render ((name, item) :: b) body = .ok s ∧ s <:+: text := by
  obtain ⟨texts, htexts, rfl⟩ := (render_each_eq_ok_iff hp).1 h
  obtain ⟨s, hmem, hs⟩ := exists_of_mem_of_forall₂ htexts hitem
  exact ⟨s, hs, List.infix_of_mem_flatten hmem⟩

end Piece

section Lines

variable {b : Bindings} {t : Template} {path : ValuePath} {line : String} {ls : List String}
  {s text : List Char}

theorem Template.head?_render_lines (h : Template.render b (.lines (line :: ls) :: t) = .ok text) :
    text.head? = some '\n' := by
  obtain ⟨first, rest, hfirst, -, rfl⟩ := Template.render_cons_eq_ok_iff.1 h
  rw [Piece.render_lines] at hfirst
  cases hfirst
  rfl

theorem Template.render_line_eq_ok {filters : List Filter} {value close : String}
    (hv : b.find? path = some (.string value)) (hf : filters ≠ [])
    (h : Template.render b (.lines [line] :: .slot path filters :: .text close :: t) = .ok text) :
    ∃ rest, Template.render b t = .ok rest ∧
      text = '\n' ::
        (line ++ filters.foldl (fun s f => f.apply s) value ++ close).toList ++ rest := by
  obtain ⟨open', _, hopen, h₁, rfl⟩ := Template.render_cons_eq_ok_iff.1 h
  obtain ⟨filled, _, hfilled, h₂, rfl⟩ := Template.render_cons_eq_ok_iff.1 h₁
  obtain ⟨close', rest, hclose, h₃, rfl⟩ := Template.render_cons_eq_ok_iff.1 h₂
  rw [Piece.render_slot_of_string hv hf] at hfilled
  rw [Piece.render_lines] at hopen
  rw [Piece.render_text] at hclose
  cases hopen
  cases hfilled
  cases hclose
  exact ⟨rest, h₃, by simp⟩

theorem Piece.head?_render_given (h : (Piece.given path (.lines (line :: ls) :: t)).render b = .ok s)
    (htext : text.head? = some '\n') : (s ++ text).head? = some '\n' := by
  rcases Piece.render_choice_cases h with h | h
  · rw [List.head?_append, Template.head?_render_lines h]
    rfl
  · rw [Template.render] at h
    cases h
    exact htext

end Lines

inductive Template.Reaches : Bindings → List Piece → List Filter → Json → Prop
  | slot {b : Bindings} {path : ValuePath} {filters : List Filter} {j : Json} {t : List Piece} :
      b.find? path = some j → Reaches b (.slot path filters :: t) filters j
  | later {b : Bindings} {p : Piece} {t : List Piece} {filters : List Filter} {j : Json} :
      Reaches b t filters j → Reaches b (p :: t) filters j
  | yes {b : Bindings} {c : Condition} {yes no t : List Piece} {filters : List Filter} {j : Json} :
      c.eval b = true → Reaches b yes filters j → Reaches b (.choice c yes no :: t) filters j
  | no {b : Bindings} {c : Condition} {yes no t : List Piece} {filters : List Filter} {j : Json} :
      c.eval b = false → Reaches b no filters j → Reaches b (.choice c yes no :: t) filters j
  | each {b : Bindings} {name : String} {path : ValuePath} {body t : List Piece}
      {filters : List Filter} {items : List (Except Obstruction Json)} {item j : Json} :
      (b.find? path).bind (·.items?) = some items → .ok item ∈ items →
        Reaches ((name, item) :: b) body filters j → Reaches b (.each name path body :: t) filters j

namespace Template

variable {b : Bindings} {p : Piece} {t : List Piece} {filters : List Filter} {j : Json}
  {text : List Char}

theorem Reaches.of_mem (hp : p ∈ t) (h : Reaches b [p] filters j) : Reaches b t filters j := by
  induction t with
  | nil => cases hp
  | cons q t ih =>
    rcases List.mem_cons.1 hp with rfl | hp
    · cases h with
      | slot hj => exact .slot hj
      | later h => cases h
      | yes hc h => exact .yes hc h
      | no hc h => exact .no hc h
      | each hitems hitem h => exact .each hitems hitem h
    · exact .later (ih hp)

theorem Reaches.of_item {name : String} {path : ValuePath} {body : Template} {items : List Json}
    {item : Json} (hpath : b.find? path = some (.array items)) (hitem : item ∈ items)
    (h : Reaches ((name, item) :: b) body filters j) :
    Reaches b [.each name path body] filters j := by
  have hitems : (b.find? path).bind (·.items?) = some (items.map .ok) := by
    rw [hpath]
    rfl
  exact .each hitems (List.mem_map_of_mem hitem) h

theorem Reaches.fill_infix (h : Reaches b t filters j) (ht : render b t = .ok text) :
    ∃ s, Filter.fill filters j = some s ∧ s <:+: text := by
  induction h generalizing text with
  | @slot b path filters j t hj =>
    obtain ⟨first, rest, hfirst, -, rfl⟩ := render_cons_eq_ok_iff.1 ht
    rw [Piece.render, hj, Option.bind_some] at hfirst
    split at hfirst
    · next s hs =>
      cases hfirst
      exact ⟨_, hs, (List.prefix_append _ _).isInfix⟩
    · cases hfirst
  | later _ ih =>
    obtain ⟨first, rest, -, hrest, rfl⟩ := render_cons_eq_ok_iff.1 ht
    obtain ⟨s, hs, hinfix⟩ := ih hrest
    exact ⟨s, hs, hinfix.trans (List.suffix_append _ _).isInfix⟩
  | yes hc _ ih =>
    obtain ⟨first, rest, hfirst, -, rfl⟩ := render_cons_eq_ok_iff.1 ht
    rw [Piece.render, if_pos hc] at hfirst
    obtain ⟨s, hs, hinfix⟩ := ih hfirst
    exact ⟨s, hs, hinfix.trans (List.prefix_append _ _).isInfix⟩
  | no hc _ ih =>
    obtain ⟨first, rest, hfirst, -, rfl⟩ := render_cons_eq_ok_iff.1 ht
    rw [Piece.render, if_neg (by rw [hc]; exact Bool.false_ne_true)] at hfirst
    obtain ⟨s, hs, hinfix⟩ := ih hfirst
    exact ⟨s, hs, hinfix.trans (List.prefix_append _ _).isInfix⟩
  | @each b name path body t filters items item j hitems hitem _ ih =>
    obtain ⟨first, rest, hfirst, -, rfl⟩ := render_cons_eq_ok_iff.1 ht
    rw [Piece.render, hitems] at hfirst
    obtain ⟨texts, htexts, hflatten⟩ := Except.bind_eq_ok_iff.1 hfirst
    cases hflatten
    -- The round of the loop that leads to the slot has its own text among those of all rounds.
    obtain ⟨inner, hmem, hinner⟩ := exists_of_mem_of_forall₂ (Except.mapM_eq_ok_iff.1 htexts) hitem
    obtain ⟨s, hs, hinfix⟩ := ih hinner
    exact ⟨s, hs, hinfix.trans ((List.infix_of_mem_flatten hmem).trans
      (List.prefix_append _ _).isInfix)⟩

end Template

theorem Filter.fill_concat_literal {filters : List Filter} {j : Json} {text : List Char}
    (h : Filter.fill (filters ++ [.literal]) j = some text) :
    ∃ s, text = (Text.literal s).toList := by
  rw [Filter.fill, if_neg (by simp)] at h
  obtain ⟨s, -, rfl⟩ := Option.map_eq_some_iff.1 h
  exact ⟨filters.foldl (fun s f => f.apply s) s, by rw [List.foldl_append]; rfl⟩

end AngularClient
