import Rulebook.Proofs.Rule.Returning
import Rulebook.Proofs.Rule.Verdict
import Rulebook.Proofs.Value.Answering
import Rulebook.Proofs.Value.Definite

/-!
Listed values. A definite value that is listed among allowed values is allowed, wherever it stands in the list and
whatever stands before it, and a definite constant meets itself. A list is the exception among the listed values:
it is allowed by its items, each of which must loosely equal a listed value, so a listed list need not be allowed.
-/

namespace Rulebook

namespace Value

variable {expected v : Value}

theorem looselyEqual_of_equal (h : expected.equal v = true) : expected.looselyEqual v = .ok true := by
  unfold looselyEqual
  rw [if_pos h]
  rfl

/-- No integer that stands in the value is too large for a float. -/
def IntsFit (v : Value) : Prop := ∀ z, v.Contains (.number (.int z)) → (Binary64.ofInt? z).isSome = true

theorem IntsFit.not_tooLarge (h : v.IntsFit) : ¬ v.TooLarge := by
  rintro ⟨z, rfl, hz⟩
  have hsome := h z .here
  rw [hz] at hsome
  cases hsome

/-- Values without too large an integer can be compared. -/
theorem IntsFit.looselyEqual (hexpected : expected.IntsFit) (hv : v.IntsFit) : ∃ b, expected.looselyEqual v = .ok b := by
  refine (looselyEqual_stoppedBy expected v).exists_ok fun w hw => ?_
  have hmem : w = expected ∨ w = v := by
    unfold looseNumbers at hw
    split at hw
    · cases hw
    · split at hw
      · simpa using hw
      · exact .inl (List.mem_singleton.mp hw)
  rcases hmem with rfl | rfl
  · exact hexpected.not_tooLarge
  · exact hv.not_tooLarge

end Value

namespace Leaf

theorem choice_verdict_list (allowed items : List Value) (invert : Bool) :
    (Rule.leaf (.choice allowed)).verdict (.list items) invert = (allAllowed allowed items).map (differ · invert) :=
  verdict_eq _ _ _

end Leaf

namespace Keyword

/-- A definite constant meets itself. -/
theorem constant_verdict_self {a : Value} (ha : a.Definite) : (Rule.leaf (.constant a)).verdict a false = .ok true := by
  rw [Leaf.constant_verdict, Value.looselyEqual_of_equal ha.equal_self]
  split <;> rfl

/-- A value that is no list and that is listed is allowed. -/
theorem choice_verdict_of_mem {allowed : List Value} (fit : ∀ v ∈ allowed, v.IntsFit) {a : Value} (ha : a ∈ allowed)
    (hdefinite : a.Definite) (hlist : a.isList = false) : (Rule.leaf (.choice allowed)).verdict a false = .ok true := by
  obtain ⟨b, hb, hiff⟩ := Leaf.anyEqual_ok fun w hw => (fit w hw).looselyEqual (fit a ha)
  obtain rfl : b = true := hiff.mpr ⟨a, ha, Value.looselyEqual_of_equal hdefinite.equal_self⟩
  rw [Leaf.choice_verdict hlist, hb]
  split <;> rfl

/-- Of listed values that hold no integer too large for a float, each definite one is a constant that meets itself.
It is allowed if it is no list, and if it is one it is allowed exactly when each of its items loosely equals a listed
value. -/
theorem listed_allowed (allowed : List Value) (fit : ∀ v ∈ allowed, v.IntsFit) (a : Value) (ha : a ∈ allowed)
    (hdefinite : a.Definite) :
    (∃ r, const.make false a = .ret r ∧ r.verdict a false = .ok true) ∧
    ∃ r, enum.make false (.list allowed) = .ret r ∧ (a.isList = false → r.verdict a false = .ok true) ∧
      ∀ items, a = .list items → ∃ b, r.verdict a false = .ok b ∧
        (b = true ↔ ∀ v ∈ items, ∃ w ∈ allowed, w.looselyEqual v = .ok true) := by
  refine ⟨⟨_, rfl, constant_verdict_self hdefinite⟩, _, rfl, choice_verdict_of_mem fit ha hdefinite, ?_⟩
  rintro items rfl
  have hitems : ∀ v ∈ items, v.IntsFit := fun v hv z hz => fit _ ha z (.item hv hz)
  obtain ⟨b, hb, hiff⟩ := Leaf.allAllowed_ok fun v hv w hw => (fit w hw).looselyEqual (hitems v hv)
  refine ⟨b, ?_, hiff⟩
  rw [Leaf.choice_verdict_list, hb]
  show Except.ok (differ b false) = .ok b
  rw [differ_false]

/-- A table and a list that stand after the indefinite number and beside a number that is a list's only item. -/
theorem listed_allowed_among :
    let one : Value := .int 1
    let table : Value := .object [(.text "k", .list [one, .null])]
    ∃ r, enum.make false (.list [.scalar .nan, .list [one], one, table]) = .ret r ∧
      r.verdict table false = .ok true ∧ r.verdict (.list [one]) false = .ok true := by
  intro one table
  have hone : one.Definite := .scalar (by simp)
  have hlist : (Value.list [one]).Definite := .list (List.forall_mem_singleton.mpr hone)
  have hvalue : (Value.list [one, .null]).Definite :=
    .list (List.forall_mem_cons.mpr ⟨hone, List.forall_mem_singleton.mpr (.scalar (by simp))⟩)
  have htable : table.Definite :=
    .object (by simp) (List.pairwise_singleton _ _) (List.forall_mem_singleton.mpr hvalue)
  have hfit : ∀ v ∈ [.scalar .nan, .list [one], one, table], v.IntsFit := by
    intro v hv z hz
    obtain rfl : z = 1 := by fin_cases hv <;> simp [one, table] at hz <;> exact hz
    decide
  obtain ⟨-, r, hr, hallowed, -⟩ := listed_allowed _ hfit table (by simp) htable
  obtain ⟨-, r', hr', -, hitems⟩ := listed_allowed _ hfit (.list [one]) (by simp) hlist
  obtain rfl : r = r' := Except.ok.inj (congrArg Run.result (hr.symm.trans hr'))
  obtain ⟨b, hb, hiff⟩ := hitems _ rfl
  obtain rfl : b = true := hiff.mpr (List.forall_mem_singleton.mpr ⟨one, by simp, by decide⟩)
  exact ⟨r, hr, hallowed rfl, hb⟩

/-- A listed list is not allowed where its items are not listed beside it. -/
theorem listed_list_not_allowed :
    let pair : Value := .list [.int 1, .int 2]
    (∀ v ∈ [pair], v.IntsFit) ∧ pair.Definite ∧
      ∃ r, enum.make false (.list [pair]) = .ret r ∧ r.verdict pair false = .ok false := by
  intro pair
  have hfit : pair.IntsFit := by
    intro z hz
    have hz : z = 1 ∨ z = 2 := by simpa [pair] using hz
    rcases hz with rfl | rfl <;> decide
  have hint (n : Int) : (Value.int n).Definite := .scalar (by simp)
  have hpair : pair.Definite := .list (List.forall_mem_cons.mpr ⟨hint 1, List.forall_mem_singleton.mpr (hint 2)⟩)
  exact ⟨List.forall_mem_singleton.mpr hfit, hpair, _, rfl, by decide⟩

end Keyword

end Rulebook
