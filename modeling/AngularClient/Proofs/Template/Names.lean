import AngularClient.Proofs.Template.Rendering

namespace AngularClient

namespace Bindings

def only (b : Bindings) (names : List String) : Bindings := b.filter (names.contains ·.1)

variable {b : Bindings} {names : List String} {path : ValuePath} {name : String} {j : Json}

@[simp] theorem only_cons (h : names.contains name = true) :
    Bindings.only ((name, j) :: b) names = (name, j) :: b.only names :=
  List.filter_cons_of_pos h

@[simp] theorem only_cons_of_not (h : ¬ names.contains name = true) :
    Bindings.only ((name, j) :: b) names = b.only names :=
  List.filter_cons_of_neg h

@[simp] theorem find?_only (h : path.head?.all (names.contains ·) = true) :
    (b.only names).find? path = b.find? path := by
  cases path with
  | nil => rfl
  | cons root rest =>
    have hroot : names.contains root = true := h
    induction b with
    | nil => rfl
    | cons e b ih =>
      obtain ⟨name, j⟩ := e
      by_cases hname : names.contains name = true
      · rw [find?, find?] at ih
        rw [only_cons hname, find?, find?, List.findSome?_cons, List.findSome?_cons, ih]
      · have hne : name ≠ root := by
          rintro rfl
          exact hname hroot
        rw [only_cons_of_not hname, find?_cons_of_ne hne, ih]

end Bindings

def Condition.usesOnly (names : List String) : Condition → Bool
  | .holds path => path.head?.all (names.contains ·)
  | .not c => c.usesOnly names
  | .both c d => c.usesOnly names && d.usesOnly names

mutual

def Piece.usesOnly (names : List String) : Piece → Bool
  | .text _ => true
  | .lines _ => true
  | .slot path _ => path.head?.all (names.contains ·)
  | .choice c yes no =>
    c.usesOnly names && Template.usesOnly names yes && Template.usesOnly names no
  | .each name path body =>
    path.head?.all (names.contains ·) && names.contains name && Template.usesOnly names body

def Template.usesOnly (names : List String) : List Piece → Bool
  | [] => true
  | piece :: rest => Piece.usesOnly names piece && Template.usesOnly names rest

end

variable {b : Bindings} {names : List String}

theorem Condition.eval_only (c : Condition) (h : c.usesOnly names = true) :
    c.eval (b.only names) = c.eval b := by
  induction c with
  | holds path => rw [eval, eval, Bindings.find?_only h]
  | not c ih => rw [eval, eval, ih h]
  | both c d ihc ihd =>
    rw [usesOnly, Bool.and_eq_true] at h
    rw [eval, eval, ihc h.1, ihd h.2]

mutual

theorem Piece.render_only (b : Bindings) :
    ∀ p : Piece, p.usesOnly names = true → p.render (b.only names) = p.render b
  | .text s, _ => by rw [Piece.render, Piece.render]
  | .lines ls, _ => by rw [Piece.render, Piece.render]
  | .slot path filters, h => by
    rw [Piece.usesOnly] at h
    rw [Piece.render, Piece.render, Bindings.find?_only h]
  | .choice c yes no, h => by
    simp only [Piece.usesOnly, Bool.and_eq_true] at h
    obtain ⟨⟨hc, hyes⟩, hno⟩ := h
    rw [Piece.render, Piece.render, c.eval_only hc, Template.render_only b yes hyes,
      Template.render_only b no hno]
  | .each name path body, h => by
    simp only [Piece.usesOnly, Bool.and_eq_true] at h
    obtain ⟨⟨hpath, hname⟩, hbody⟩ := h
    have hitem : ∀ j, Template.render ((name, j) :: b.only names) body =
        Template.render ((name, j) :: b) body := by
      intro j
      rw [← Bindings.only_cons hname]
      exact Template.render_only ((name, j) :: b) body hbody
    simp only [Piece.render, Bindings.find?_only hpath, hitem]

theorem Template.render_only (b : Bindings) :
    ∀ t : List Piece, Template.usesOnly names t = true →
      Template.render (b.only names) t = Template.render b t
  | [], _ => by rw [Template.render, Template.render]
  | p :: t, h => by
    rw [Template.usesOnly, Bool.and_eq_true] at h
    rw [Template.render, Template.render, Piece.render_only b p h.1, Template.render_only b t h.2]

end

end AngularClient
