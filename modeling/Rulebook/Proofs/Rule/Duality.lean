import Rulebook.Proofs.Rule.Inversion

/-!
Laws of negation. On a value that some evaluations decide, with opposite verdicts plain and inverted, a
negation decides it the other way and a connective by how many of them pass. So two evaluations made of
these have the same verdict, plain and inverted, when they decide the value alike, and the laws of De
Morgan, double negation and indifference to order are laws of truth values.
-/

namespace Rulebook.Check

variable {s t : Check} {v : Value} {b : Bool}

/-- The evaluation returns plain and inverted, with opposite verdicts. -/
def InvertsExactly (t : Check) (v : Value) : Prop :=
  ∃ plain inverted : Outcome, (t v false).result = .ok plain ∧ (t v true).result = .ok inverted ∧
    inverted.valid = !plain.valid

/-- Two evaluations return with the same verdict. -/
def SameVerdict (s t : Check) (v : Value) (invert : Bool) : Prop :=
  ∃ o o' : Outcome, (s v invert).result = .ok o ∧ (t v invert).result = .ok o' ∧ o.valid = o'.valid

/-- Whether a value passes, plain. -/
def passes (v : Value) (t : Check) : Bool := (t v false).value.valid

/-- The evaluation returns with a verdict plain and with its opposite inverted. -/
def Decides (t : Check) (v : Value) (b : Bool) : Prop :=
  ∀ invert, (t v invert).Yields fun o => o.valid = differ b invert

/-! ### Decisions of the parts -/

theorem InvertsExactly.decides (h : t.InvertsExactly v) : t.Decides v (t.passes v) := by
  obtain ⟨plain, inverted, hplain, hinverted, hopposite⟩ := h
  have hpasses : t.passes v = plain.valid := by rw [passes, Run.value_of_ok hplain]
  intro invert
  rw [hpasses]
  cases invert with
  | false => exact ⟨plain, hplain, (differ_false _).symm⟩
  | true => exact ⟨inverted, hinverted, hopposite.trans (differ_true _).symm⟩

theorem Decides.passes_eq (h : t.Decides v b) : t.passes v = b := by
  obtain ⟨o, ho, hvalid⟩ := h false
  rw [passes, Run.value_of_ok ho, hvalid, differ_false]

theorem Decides.returns (h : t.Decides v b) (invert : Bool) : (t v invert).Returns := by
  obtain ⟨o, ho, -⟩ := h invert
  exact ⟨o, ho⟩

/-- What is decided alike has the same verdict. -/
theorem Decides.sameVerdict (h : s.Decides v b) (h' : t.Decides v b) (invert : Bool) :
    SameVerdict s t v invert := by
  obtain ⟨o, ho, hvalid⟩ := h invert
  obtain ⟨o', ho', hvalid'⟩ := h' invert
  exact ⟨o, o', ho, ho', hvalid.trans hvalid'.symm⟩

/-- A negation hands the other flag to its part. -/
theorem Decides.negate (hv : v.isEmpty = false) (h : t.Decides v b) :
    (Check.negate t).Decides v (!b) := by
  intro invert
  obtain ⟨o, ho, hvalid⟩ := h (!invert)
  refine ⟨_, (Check.negate_ok_iff hv).mpr ⟨o, ho, rfl⟩, ?_⟩
  rw [← differ_flip, ← hvalid]
  cases o.valid <;> rfl

/-- A connective counts the parts that pass and turns the decision over when it is inverted. -/
theorem Decides.connective (c : Connective) {checks : List Check}
    (parts : ∀ t ∈ checks, t.Decides v (t.passes v)) :
    (c.check checks).Decides v (c.accepts (checks.countP (passes v)) checks.length) := by
  intro invert
  obtain ⟨o, ho⟩ := c.check_returns (fun t ht i => (parts t ht).returns i) invert
  exact ⟨o, ho, Connective.check_valid ho⟩

/-! ### Laws -/

theorem accepts_allOf (p : Check → Bool) (checks : List Check) :
    Connective.allOf.accepts (checks.countP p) checks.length = checks.all p := by
  show (checks.countP p == checks.length) = _
  rw [Bool.eq_iff_iff, beq_iff_eq, List.countP_eq_length, List.all_eq_true]

theorem accepts_anyOf (p : Check → Bool) (checks : List Check) :
    Connective.anyOf.accepts (checks.countP p) checks.length = checks.any p := by
  show decide (0 < checks.countP p) = _
  rw [Bool.eq_iff_iff, decide_eq_true_iff, List.countP_pos_iff, List.any_eq_true]

theorem combine_map_some (c : Connective) {checks : List Check} (hne : checks ≠ []) :
    combine c (checks.map some) = c.check checks := by
  have hpresent := present_map_some checks
  rw [combine_of_some (hpresent.symm ▸ hne), hpresent]

section

variable {rs : List Check} (hv : v.isEmpty = false) (parts : ∀ r ∈ rs, r.Decides v (r.passes v))

include hv parts

theorem passes_negate : ∀ r ∈ rs, (Check.negate r).passes v = !r.passes v :=
  fun r hr => ((parts r hr).negate hv).passes_eq

theorem negations_decide : ∀ t ∈ rs.map Check.negate, t.Decides v (t.passes v) := by
  intro t ht
  obtain ⟨r, hr, rfl⟩ := List.mem_map.mp ht
  rw [passes_negate hv parts r hr]
  exact (parts r hr).negate hv

/-- Some negation passes unless all parts do. -/
theorem any_negate : (rs.map Check.negate).any (passes v) = !rs.all (passes v) := by
  rw [List.any_map, List.not_all_eq_any_not, Bool.eq_iff_iff, List.any_eq_true, List.any_eq_true]
  refine exists_congr fun r => and_congr_right fun hr => ?_
  rw [Function.comp_apply, passes_negate hv parts r hr]

/-- All negations pass unless some part does. -/
theorem all_negate : (rs.map Check.negate).all (passes v) = !rs.any (passes v) := by
  rw [List.all_map, List.not_any_eq_all_not, Bool.eq_iff_iff, List.all_eq_true, List.all_eq_true]
  refine forall₂_congr fun r hr => ?_
  rw [Function.comp_apply, passes_negate hv parts r hr]

end

/-- The laws of De Morgan, of double negation and of indifference to order, on a value that is not
empty, for evaluations that invert exactly on it. -/
theorem verdict_duality {v : Value} (hv : v.isEmpty = false) {rs : List Check} (nonempty : rs ≠ [])
    (inverts : ∀ r ∈ rs, r.InvertsExactly v) (invert : Bool) :
    SameVerdict (Check.negate (combine .allOf (rs.map some)))
      (combine .anyOf (rs.map fun r => some (Check.negate r))) v invert ∧
    SameVerdict (Check.negate (combine .anyOf (rs.map some)))
      (combine .allOf (rs.map fun r => some (Check.negate r))) v invert ∧
    (∀ r ∈ rs, SameVerdict (Check.negate (Check.negate r)) r v invert) ∧
    ∀ (c : Connective) (rs' : List Check), rs.Perm rs' →
      SameVerdict (combine c (rs.map some)) (combine c (rs'.map some)) v invert := by
  have parts : ∀ r ∈ rs, r.Decides v (r.passes v) := fun r hr => (inverts r hr).decides
  have negations := negations_decide hv parts
  have hnegations : rs.map (fun r => some (Check.negate r)) = (rs.map Check.negate).map some := by
    rw [List.map_map]
    rfl
  have hne : rs.map Check.negate ≠ [] := by simpa using nonempty
  rw [hnegations, combine_map_some .allOf nonempty, combine_map_some .anyOf nonempty,
    combine_map_some .allOf hne, combine_map_some .anyOf hne]
  refine ⟨?_, ?_, fun r hr => ?_, fun c rs' perm => ?_⟩
  · have hall := (Decides.connective .allOf parts).negate hv
    have hany := Decides.connective .anyOf negations
    rw [accepts_allOf] at hall
    rw [accepts_anyOf, any_negate hv parts] at hany
    exact hall.sameVerdict hany invert
  · have hany := (Decides.connective .anyOf parts).negate hv
    have hall := Decides.connective .allOf negations
    rw [accepts_anyOf] at hany
    rw [accepts_allOf, all_negate hv parts] at hall
    exact hany.sameVerdict hall invert
  · have htwice := ((parts r hr).negate hv).negate hv
    rw [Bool.not_not] at htwice
    exact htwice.sameVerdict (parts r hr) invert
  · have hne' : rs' ≠ [] := fun h => nonempty (h ▸ perm).eq_nil
    have parts' : ∀ r ∈ rs', r.Decides v (r.passes v) := fun r hr => parts r (perm.mem_iff.mpr hr)
    have hdecides := Decides.connective c parts'
    rw [← perm.countP_eq, ← perm.length_eq] at hdecides
    rw [combine_map_some c nonempty, combine_map_some c hne']
    exact (Decides.connective c parts).sameVerdict hdecides invert

/-- A text that is too short but of the right kind, inverted: the negation of both has the verdict of
either negation, and exactly one of them passes in either order. -/
theorem verdict_duality_short :
    let rs : List Check := [(Rule.leaf (.size .least .length (.int 3))).check,
      (Rule.leaf (.kind (.text "string") ["string"])).check]
    (∀ r ∈ rs, r.InvertsExactly (.text "ab")) ∧
    SameVerdict (Check.negate (combine .allOf (rs.map some)))
      (combine .anyOf (rs.map fun r => some (Check.negate r))) (.text "ab") true ∧
    SameVerdict (combine .oneOf (rs.map some)) (combine .oneOf (rs.reverse.map some)) (.text "ab")
      true := by
  intro rs
  have inverts : ∀ r ∈ rs, r.InvertsExactly (.text "ab") := by
    refine List.forall_mem_cons.mpr ⟨⟨_, _, rfl, rfl, rfl⟩, ?_⟩
    exact List.forall_mem_singleton.mpr ⟨_, _, rfl, rfl, rfl⟩
  have laws := verdict_duality (by decide : (Value.text "ab").isEmpty = false)
    (List.cons_ne_nil _ _) inverts true
  exact ⟨inverts, laws.1, laws.2.2.2 .oneOf rs.reverse (List.reverse_perm rs).symm⟩

end Rulebook.Check
