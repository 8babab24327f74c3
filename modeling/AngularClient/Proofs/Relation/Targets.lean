import AngularClient.Proofs.Relation.Accessors
import AngularClient.Proofs.Relation.Slots

namespace AngularClient

namespace ModelSet

variable {set : ModelSet} {target : Model} {p : String → Bool} {name : String}

theorem name_find?_eq_iff (h : set.find? (fun m => p m.name) = some target) (hp : p name = true) :
    target.name = name ↔ ∀ m ∈ set.takeWhile (·.name != name), p m.name = false := by
  obtain ⟨htarget, before, after, rfl, hbefore⟩ := List.find?_eq_some_iff_append.1 h
  have hne : ∀ m ∈ before, (m.name != name) = true := by
    intro m hm
    rw [bne_iff_ne]
    rintro rfl
    have hm := hbefore m hm
    rw [hp] at hm
    cases hm
  rw [List.takeWhile_append_of_pos hne]
  constructor
  · rintro rfl
    rw [List.takeWhile_cons_of_neg (by simp), List.append_nil]
    intro m hm
    simpa using hbefore m hm
  · intro hnone
    by_contra hdiffer
    have hmem : target ∈ before ++ (target :: after).takeWhile (·.name != name) := by
      rw [List.takeWhile_cons_of_pos (by simpa using hdiffer)]
      exact List.mem_append_right _ List.mem_cons_self
    rw [hnone target hmem] at htarget
    cases htarget

end ModelSet

namespace Registry

variable {r : Registry} {o : Options} {n : Model} {relation : String} {s : Scope}

theorem exists_destination (hn : n ∈ r.describe o) (hs : (relation, s) ∈ n.resolvedScopes) :
    ∃ target, n.destination? r o (r.describe o) relation = some target ∧
      target.name = s.target := by
  obtain ⟨m, -, h⟩ := exists_unresolved_of_mem hn
  have hslot := Model.find?_of_mem_resolvedScopes h.sorted hs
  have houtcome : n.outcome? relation = some (some s.target) := by
    rw [Model.outcome?, hslot]
    rfl
  rw [outcome?_eq h, Model.verdict_eq_resolved_iff] at houtcome
  obtain ⟨target, hd, hname, -⟩ := houtcome
  exact ⟨target, hd, hname⟩

/-- A resolved relation leads to the first model whose name is that of its target class up to case.
A model of exactly that name is the one just if none before it differs from it in case only. -/
theorem target_first_up_to_case (r : Registry) (o : Options) :
    ∀ n ∈ r.describe o, ∀ relation s, (relation, s) ∈ n.resolvedScopes →
      ∃ c, n.targetClass? r relation = some c ∧
        ((r.describe o).find? fun m => Text.lower m.name == Text.lower (o.displayName c)).map
          (·.name) = some s.target ∧
        ∀ t ∈ r.describe o, t.name = o.displayName c →
          (s.target = t.name ↔
            ∀ m ∈ (r.describe o).takeWhile (·.name != t.name),
              Text.lower m.name ≠ Text.lower t.name) := by
  intro n hn relation s hs
  obtain ⟨target, hd, hname⟩ := exists_destination hn hs
  obtain ⟨c, hc, hfind⟩ := Option.bind_eq_some_iff.1 hd
  refine ⟨c, hc, by rw [hfind, Option.map_some, hname], ?_⟩
  intro t _ ht
  rw [← ht] at hfind
  have hiff := ModelSet.name_find?_eq_iff
    (p := fun name => Text.lower name == Text.lower t.name) hfind (beq_self_eq_true _)
  simpa [← hname] using hiff

/-- Orders have lines, which are the second of two models whose names differ in case. -/
def orders : Registry where
  remotingVersion := 3
  classes :=
    let plain (name : String) : ModelClass :=
      { name := name
        ctor := some ⟨none⟩
        description := none
        httpPath := none
        prototypeChain := []
        relations := []
        exposedMethods := none
        methods := []
        properties := [] }
    [{ plain "order" with
        relations := [("lines", ⟨some "ORDERLINE", none⟩)]
        methods := [.served "prototype.__get__lines" "/orders/:id/lines"] },
      plain "orderLine", plain "ORDERLINE"]

theorem exists_lines : ∃ n ∈ orders.describe .default, ∃ s, ("lines", s) ∈ n.resolvedScopes ∧
    s.target = "OrderLine" ∧ n.targetClass? orders "lines" = some "ORDERLINE" := by
  have hany : ((orders.describe .default).any fun n =>
      n.targetClass? orders "lines" == some "ORDERLINE" &&
        n.resolvedScopes.any fun (relation, s) =>
          relation == "lines" && s.target == "OrderLine") = true := by decide
  simp only [List.any_eq_true, Bool.and_eq_true, beq_iff_eq, Prod.exists] at hany
  obtain ⟨n, hn, hc, _, s, hs, rfl, htarget⟩ := hany
  exact ⟨n, hn, s, hs, htarget, hc⟩

theorem exists_exact_lines : ∃ t ∈ orders.describe .default,
    t.name = Options.default.displayName "ORDERLINE" := by
  have hany : ((orders.describe .default).any fun t =>
      t.name == Options.default.displayName "ORDERLINE") = true := by decide
  simpa only [List.any_eq_true, beq_iff_eq] using hany

theorem target_first_up_to_case_orders :
    ∃ n ∈ orders.describe .default, ∃ s, ("lines", s) ∈ n.resolvedScopes ∧
      ∃ t ∈ orders.describe .default, t.name = Options.default.displayName "ORDERLINE" ∧
        ¬ ∀ m ∈ (orders.describe .default).takeWhile (·.name != t.name),
          Text.lower m.name ≠ Text.lower t.name := by
  obtain ⟨n, hn, s, hs, htarget, hclass⟩ := exists_lines
  obtain ⟨t, ht, hname⟩ := exists_exact_lines
  obtain ⟨c, hc, -, hexact⟩ := target_first_up_to_case orders .default n hn _ s hs
  obtain rfl := Option.some.inj (hclass.symm.trans hc)
  refine ⟨n, hn, s, hs, t, ht, hname, ?_⟩
  rw [← hexact t ht hname, htarget, hname]
  decide

/-- A model of exactly the name of a target class may be passed over. -/
theorem exact_target_passed_over :
    ¬ ∀ (r : Registry) (o : Options), ∀ n ∈ r.describe o, ∀ relation s,
      (relation, s) ∈ n.resolvedScopes → ∀ c, n.targetClass? r relation = some c →
        ∀ t ∈ r.describe o, t.name = o.displayName c → s.target = t.name := by
  intro h
  obtain ⟨n, hn, s, hs, htarget, hclass⟩ := exists_lines
  obtain ⟨t, ht, hname⟩ := exists_exact_lines
  have hwins := h orders .default n hn _ s hs _ hclass t ht hname
  rw [htarget, hname] at hwins
  exact absurd hwins (by decide)

end Registry

end AngularClient
