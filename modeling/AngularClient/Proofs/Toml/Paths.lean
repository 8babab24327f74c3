import AngularClient.Proofs.Toml.Overlay

namespace AngularClient.Toml

def at? : List String → Toml → Option Toml
  | [], t => some t
  | key :: path, t => (t.find? key).bind (at? path)

/-- What `r` holds at every path if `top` has been laid over `base`. -/
structure LaidOver (base top r : Toml) : Prop where
  replaced : ∀ path t, top.at? path = some t → t.isTable = false → r.at? path = some t
  kept : ∀ path, top.at? path = none →
    (∀ before, before <+: path → before ≠ path → ∀ t, top.at? before = some t → t.isTable = true) →
    r.at? path = base.at? path
  merged : ∀ path t, top.at? path = some t → t.isTable = true →
    ∃ u, r.at? path = some u ∧ u.isTable = true

variable {base top t : Toml} {path : List String}

section Tables

@[simp]
theorem find?_of_not_isTable (h : t.isTable = false) (key : String) : t.find? key = none := by
  cases t with
  | table entries => cases h
  | _ => rfl

theorem isTable_of_find?_eq_some {u : Toml} {key : String} (h : t.find? key = some u) :
    t.isTable = true := by
  by_contra htable
  rw [find?_of_not_isTable (Bool.eq_false_of_not_eq_true htable)] at h
  cases h

@[simp] theorem overlay_of_not_isTable (h : top.isTable = false) : base.overlay top = top := by
  rcases overlay_cases base top with ⟨-, hover⟩ | ⟨_, _, -, rfl⟩
  · exact hover
  · cases h

@[simp] theorem isTable_overlay (h : top.isTable = true) : (base.overlay top).isTable = true := by
  rcases overlay_cases base top with ⟨-, hover⟩ | ⟨_, _, rfl, rfl⟩
  · rwa [hover]
  · rfl

theorem find?_overlay_of_isTable (htop : top.Ordered) (h : top.isTable = true) (key : String) :
    (base.overlay top).find? key = laid? (base.find? key) (top.find? key) := by
  rcases overlay_cases base top with ⟨hbase, hover⟩ | ⟨lower, upper, rfl, rfl⟩
  · rw [h, Bool.and_true] at hbase
    rw [hover, find?_of_not_isTable hbase]
    cases top.find? key <;> rfl
  · exact find?_overlayEntries htop.sorted key

theorem Ordered.isTable_eq_false (h : ∀ entries, t ≠ .table entries) : t.isTable = false := by
  cases t with
  | table entries => exact absurd rfl (h entries)
  | _ => rfl

theorem Ordered.of_not_isTable (h : t.isTable = false) : t.Ordered := by
  refine .other ?_
  rintro entries rfl
  cases h

theorem laid?_cases {b t : Option Toml} {u : Toml} (h : laid? b t = some u) :
    (t = none ∧ b = some u) ∨ (b = none ∧ t = some u) ∨
      ∃ b' t', b = some b' ∧ t = some t' ∧ u = b'.overlay t' := by
  cases b with
  | none =>
    cases t with
    | none => cases h
    | some t => exact .inr (.inl ⟨rfl, h⟩)
  | some b =>
    cases t with
    | none => exact .inl ⟨rfl, h⟩
    | some t => exact .inr (.inr ⟨b, t, rfl, rfl, (Option.some.inj h).symm⟩)

theorem Ordered.overlay (hbase : base.Ordered) (htop : top.Ordered) :
    (base.overlay top).Ordered := by
  induction htop generalizing base with
  | other h =>
    rw [overlay_of_not_isTable (Ordered.isTable_eq_false h)]
    exact .other h
  | @table upper sorted inner ih =>
    rcases overlay_cases base (.table upper) with ⟨-, hover⟩ | ⟨lower, _, rfl, heq⟩
    · rw [hover]
      exact .table sorted inner
    · have hsorted := sorted_overlayEntries hbase.sorted upper
      rw [overlay]
      refine .table hsorted ?_
      rintro ⟨key, value⟩ he
      have hfind := hsorted.find?_of_mem he
      rw [find?_overlayEntries sorted] at hfind
      rcases laid?_cases hfind with ⟨-, hb⟩ | ⟨-, ht⟩ | ⟨b, t, hb, ht, rfl⟩
      · exact hbase.find? hb
      · exact inner _ (Dictionary.mem_of_find?_eq_some ht)
      · exact ih _ (Dictionary.mem_of_find?_eq_some ht) (hbase.find? hb)

end Tables

section Paths

theorem at?_overlay_of_some (htop : top.Ordered) (h : top.at? path = some t) :
    (base.overlay top).at? path = laid? (base.at? path) (some t) := by
  induction path generalizing base top with
  | nil =>
    cases h
    rfl
  | cons key path ih =>
    obtain ⟨inner, hinner, h⟩ := Option.bind_eq_some_iff.1 h
    rw [at?, at?, find?_overlay_of_isTable htop (isTable_of_find?_eq_some hinner), hinner]
    cases base.find? key with
    | none => exact h
    | some b => exact ih (htop.find? hinner) h

theorem at?_overlay_of_none (htop : top.Ordered) (h : top.at? path = none)
    (htables : ∀ before, before <+: path → before ≠ path →
      ∀ t, top.at? before = some t → t.isTable = true) :
    (base.overlay top).at? path = base.at? path := by
  induction path generalizing base top with
  | nil => cases h
  | cons key path ih =>
    have htable : top.isTable = true := htables [] List.nil_prefix nofun top rfl
    rw [at?, at?, find?_overlay_of_isTable htop htable]
    cases hfind : top.find? key with
    | none => cases base.find? key <;> rfl
    | some inner =>
      rw [at?, hfind, Option.bind_some] at h
      have hinner : ∀ before, before <+: path → before ≠ path →
          ∀ t, inner.at? before = some t → t.isTable = true := by
        intro before hbefore hne t ht
        refine htables (key :: before) (List.cons_prefix_cons.2 ⟨rfl, hbefore⟩) (by simpa) t ?_
        rw [at?, hfind]
        exact ht
      cases base.find? key with
      | none => exact h
      | some b => exact ih (htop.find? hfind) h hinner

theorem laidOver_overlay (base : Toml) (htop : top.Ordered) :
    LaidOver base top (base.overlay top) where
  replaced path t h ht := by
    rw [at?_overlay_of_some htop h]
    cases base.at? path with
    | none => rfl
    | some b => exact congrArg some (overlay_of_not_isTable ht)
  kept _ := at?_overlay_of_none htop
  merged path t h ht := by
    rw [at?_overlay_of_some htop h]
    cases base.at? path with
    | none => exact ⟨t, rfl, ht⟩
    | some b => exact ⟨_, rfl, isTable_overlay ht⟩

end Paths

section Repeated

@[simp] theorem overlay_self (h : t.Ordered) : t.overlay t = t := by
  induction h with
  | other h => exact overlay_of_not_isTable (Ordered.isTable_eq_false h)
  | @table entries sorted _ ih =>
    rw [overlay]
    refine congrArg table ((sorted_overlayEntries sorted _).ext sorted fun key => ?_)
    rw [find?_overlayEntries sorted]
    cases hfind : Dictionary.find? entries key with
    | none => rfl
    | some v => exact congrArg some (ih _ (Dictionary.mem_of_find?_eq_some hfind))

@[simp] theorem overlay_overlay (hbase : base.Ordered) (htop : top.Ordered) :
    (base.overlay top).overlay top = base.overlay top := by
  induction htop generalizing base with
  | other h =>
    have hnot := Ordered.isTable_eq_false h
    rw [overlay_of_not_isTable hnot, overlay_of_not_isTable hnot]
  | @table upper sorted inner ih =>
    have htop := Ordered.table sorted inner
    rcases overlay_cases base (.table upper) with ⟨-, hover⟩ | ⟨lower, _, rfl, heq⟩
    · rw [hover, overlay_self htop]
    · have hlower := sorted_overlayEntries hbase.sorted upper
      rw [overlay, overlay]
      refine congrArg table ((sorted_overlayEntries hlower _).ext hlower fun key => ?_)
      rw [find?_overlayEntries sorted, find?_overlayEntries sorted]
      cases htop : Dictionary.find? upper key with
      | none => cases Dictionary.find? lower key <;> rfl
      | some t =>
        have hmem := Dictionary.mem_of_find?_eq_some htop
        cases hbase' : Dictionary.find? lower key with
        | none => exact congrArg some (overlay_self (inner _ hmem))
        | some b => exact congrArg some (ih _ hmem (hbase.find? hbase'))

@[simp] theorem overlay_empty (h : t.isTable = true) : t.overlay (.table []) = t := by
  cases t with
  | table entries => rw [overlay, overlayEntries]
  | _ => cases h

end Repeated

/-- Laying a value over another does to every path what it says there, and doing it again does nothing
more. -/
theorem overlaid_path_by_path (hbase : base.Ordered) (htop : top.Ordered) :
    LaidOver base top (base.overlay top) ∧
      (base.overlay top).overlay top = base.overlay top ∧
      base.overlay base = base ∧
      (base.isTable = true → base.overlay (.table []) = base) :=
  ⟨laidOver_overlay base htop, overlay_overlay hbase htop, overlay_self hbase, overlay_empty⟩

/-- The upper table makes a section of a word and a word of a section. -/
theorem overlaid_path_by_path_sections :
    let base := table [("generator", table [("comments", boolean true)]), ("output", string "a.js")]
    let top := table [("generator", string "none"), ("output", table [("path", string "b.js")])]
    base.Ordered ∧ top.Ordered ∧ LaidOver base top (base.overlay top) ∧
      (base.overlay top).at? ["generator", "comments"] = none ∧
      (base.overlay top).at? ["output", "path"] = some (string "b.js") := by
  intro base top
  have hkeys : List.Pairwise (· < ·) ["generator", "output"] := by decide
  have hinner : ∀ key value, value.isTable = false → (table [(key, value)]).Ordered := by
    intro key value hvalue
    refine .table (List.pairwise_singleton _ _) ?_
    intro e he
    rw [List.mem_singleton] at he
    rw [he]
    exact .of_not_isTable hvalue
  have hbase : base.Ordered := by
    refine .table hkeys ?_
    simp only [List.mem_cons, List.not_mem_nil, or_false, forall_eq_or_imp, forall_eq]
    exact ⟨hinner _ _ rfl, .of_not_isTable rfl⟩
  have htop : top.Ordered := by
    refine .table hkeys ?_
    simp only [List.mem_cons, List.not_mem_nil, or_false, forall_eq_or_imp, forall_eq]
    exact ⟨.of_not_isTable rfl, hinner _ _ rfl⟩
  have hlaid := (overlaid_path_by_path hbase htop).1
  refine ⟨hbase, htop, hlaid, rfl, ?_⟩
  exact hlaid.replaced ["output", "path"] _ rfl rfl

end AngularClient.Toml
