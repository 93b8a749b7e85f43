import Rulebook.Run

/-!
Runs that return. A run returns when no fault stops it, and then it has a value. Whether a run made of
parts returns, and with what, is read off its parts: `bind_ok_iff` is the one lemma that takes a
computation apart. A run ensures a property when whatever it returns has it, and yields one when it
also returns; two runs agree on a relation when whatever they return is related. All these go through
the parts in the same way.
-/

namespace Rulebook

namespace Run

variable {α β : Type}

/-- No fault stops the run. -/
def Returns (x : Run α) : Prop := ∃ a, x.result = .ok a

/-- What a run that returns gives back. -/
def value [Inhabited α] (x : Run α) : α :=
  match x.result with
  | .ok a => a
  | .error _ => default

@[simp] theorem result_ret (a : α) : (ret a).result = .ok a := rfl

@[simp] theorem result_pure (a : α) : (pure a : Run α).result = .ok a := rfl

@[simp] theorem result_stop (f : Fault) : (stop f : Run α).result = .error f := rfl

@[simp] theorem result_lift (r : Except Fault α) : (liftM r : Run α).result = r := rfl

/-! How the parts of a run are put together changes neither what it sends nor how it ends. -/

theorem bind_pure (x : Run α) : x >>= pure = x := by
  show andThen x ret = x
  unfold andThen
  rcases x with ⟨ns, _ | a⟩
  · rfl
  · simp [ret]

theorem pure_bind (a : α) (f : α → Run β) : (pure a : Run α) >>= f = f a := by
  show andThen (ret a) f = f a
  simp [andThen, ret]

theorem bind_assoc {γ : Type} (x : Run α) (f : α → Run β) (g : β → Run γ) :
    x >>= f >>= g = x >>= fun a => f a >>= g := by
  show andThen (andThen x f) g = andThen x fun a => andThen (f a) g
  unfold andThen
  rcases x with ⟨ns, _ | a⟩
  · rfl
  · cases hf : (f a).result <;> simp [hf]

theorem bind_of_ok (ns : List Notice) (a : α) (f : α → Run β) :
    (⟨ns, .ok a⟩ : Run α) >>= f = ⟨ns ++ (f a).notices, (f a).result⟩ := rfl

/-- A run in two parts returns when the first does and then the second. -/
theorem bind_ok_iff {x : Run α} {f : α → Run β} {b : β} :
    (x >>= f).result = .ok b ↔ ∃ a, x.result = .ok a ∧ (f a).result = .ok b := by
  show (andThen x f).result = _ ↔ _
  unfold andThen
  cases x.result <;> simp

theorem result_bind (x : Run α) (f : α → Run β) : (x >>= f).result = x.result >>= fun a => (f a).result := by
  show (andThen x f).result = _
  unfold andThen
  cases x.result <;> rfl

/-- Only what the first part gives back matters for what follows. -/
theorem result_bind_congr {x y : Run α} {f g : α → Run β} (h : x.result = y.result)
    (hfg : ∀ a, (f a).result = (g a).result) : (x >>= f).result = (y >>= g).result := by
  rw [result_bind, result_bind, h, funext hfg]

theorem returns_bind_iff {x : Run α} {f : α → Run β} :
    (x >>= f).Returns ↔ ∃ a, x.result = .ok a ∧ (f a).Returns := by
  constructor
  · rintro ⟨b, hb⟩
    obtain ⟨a, ha, hf⟩ := bind_ok_iff.mp hb
    exact ⟨a, ha, b, hf⟩
  · rintro ⟨a, ha, b, hf⟩
    exact ⟨b, bind_ok_iff.mpr ⟨a, ha, hf⟩⟩

theorem value_of_ok [Inhabited α] {x : Run α} {a : α} (h : x.result = .ok a) : x.value = a := by
  rw [value, h]

theorem result_eq_ok_iff [Inhabited α] {x : Run α} {a : α} :
    x.result = .ok a ↔ x.Returns ∧ x.value = a := by
  constructor
  · intro h
    exact ⟨⟨a, h⟩, value_of_ok h⟩
  · rintro ⟨⟨b, hb⟩, rfl⟩
    rw [value_of_ok hb, hb]

theorem Returns.result_eq [Inhabited α] {x : Run α} (h : x.Returns) : x.result = .ok x.value :=
  result_eq_ok_iff.mpr ⟨h, rfl⟩

@[simp] theorem returns_ret (a : α) : (ret a).Returns := ⟨a, rfl⟩

@[simp] theorem returns_pure (a : α) : (pure a : Run α).Returns := ⟨a, rfl⟩

@[simp] theorem not_returns_stop (f : Fault) : ¬ (stop f : Run α).Returns := by
  rintro ⟨a, h⟩
  simp at h

end Run

namespace Except

variable {α β : Type}

/-- The same of a computation that sends nothing. -/
theorem bind_ok_iff {ε : Type} {x : Except ε α} {f : α → Except ε β} {b : β} :
    (x >>= f) = .ok b ↔ ∃ a, x = .ok a ∧ f a = .ok b := by
  show Except.bind x f = _ ↔ _
  cases x <;> simp [Except.bind]

/-- What two computations return is related, if both return. -/
def Agree (R : α → β → Prop) (x : Except Fault α) (y : Except Fault β) : Prop :=
  ∀ a b, x = .ok a → y = .ok b → R a b

namespace Agree

variable {γ δ : Type} {R : α → β → Prop}

theorem pure {a : α} {b : β} (h : R a b) : Agree R (pure a) (pure b) := by
  rintro _ _ ⟨⟩ ⟨⟩
  exact h

theorem refl {R : α → α → Prop} (x : Except Fault α) (h : ∀ a, R a a) : Agree R x x := by
  intro a b ha hb
  cases ha.symm.trans hb
  exact h a

theorem bind {S : γ → δ → Prop} {x : Except Fault α} {y : Except Fault β}
    {f : α → Except Fault γ} {g : β → Except Fault δ} (h : Agree R x y)
    (hfg : ∀ a b, R a b → Agree S (f a) (g b)) : Agree S (x >>= f) (y >>= g) := by
  intro c d hc hd
  obtain ⟨a, ha, hfa⟩ := bind_ok_iff.mp hc
  obtain ⟨b, hb, hgb⟩ := bind_ok_iff.mp hd
  exact hfg a b (h a b ha hb) c d hfa hgb

end Agree

end Except

namespace Run

variable {α β : Type}

/-- What a run returns has a property, if it returns. -/
def Ensures (P : α → Prop) (x : Run α) : Prop := ∀ a, x.result = .ok a → P a

namespace Ensures

variable {P : α → Prop}

theorem ret {a : α} (h : P a) : Ensures P (ret a) := by
  rintro _ ⟨⟩
  exact h

theorem pure {a : α} (h : P a) : Ensures P (pure a) := ret h

theorem stop (f : Fault) : Ensures P (stop f : Run α) := by
  rintro _ ⟨⟩

theorem bind {Q : β → Prop} {x : Run α} {f : α → Run β} (hx : Ensures P x)
    (hf : ∀ a, P a → Ensures Q (f a)) : Ensures Q (x >>= f) := by
  intro b hb
  obtain ⟨a, ha, hfa⟩ := bind_ok_iff.mp hb
  exact hf a (hx a ha) b hfa

/-- Where nothing is known of the first part. -/
theorem andThen {Q : β → Prop} {x : Run α} {f : α → Run β} (hf : ∀ a, Ensures Q (f a)) :
    Ensures Q (x >>= f) :=
  bind (P := fun _ => True) (fun _ _ => trivial) fun a _ => hf a

end Ensures

/-- A run returns, and what it returns has a property. -/
def Yields (P : α → Prop) (x : Run α) : Prop := ∃ a, x.result = .ok a ∧ P a

@[simp] theorem yields_ret_iff {P : α → Prop} {a : α} : Yields P (ret a) ↔ P a := by
  simp [Yields]

@[simp] theorem yields_pure_iff {P : α → Prop} {a : α} : Yields P (pure a) ↔ P a := by
  simp [Yields]

@[simp] theorem yields_note_iff {P : Unit → Prop} {n : Notice} : Yields P (note n) ↔ P () :=
  ⟨fun ⟨_, _, h⟩ => h, fun h => ⟨(), rfl, h⟩⟩

@[simp] theorem yields_notes_iff {P : Unit → Prop} {ns : List Notice} :
    Yields P (notes ns) ↔ P () :=
  ⟨fun ⟨_, _, h⟩ => h, fun h => ⟨(), rfl, h⟩⟩

@[simp] theorem not_yields_stop {P : α → Prop} {f : Fault} : ¬ Yields P (stop f) := by
  simp [Yields]

theorem yields_lift_iff {P : α → Prop} {r : Except Fault α} :
    Yields P (liftM r : Run α) ↔ ∃ a, r = .ok a ∧ P a := Iff.rfl

@[simp] theorem yields_bind_iff {P : β → Prop} {x : Run α} {f : α → Run β} :
    Yields P (x >>= f) ↔ Yields (fun a => Yields P (f a)) x := by
  constructor
  · rintro ⟨b, hb, hP⟩
    obtain ⟨a, ha, hfa⟩ := bind_ok_iff.mp hb
    exact ⟨a, ha, b, hfa, hP⟩
  · rintro ⟨a, ha, b, hfa, hP⟩
    exact ⟨b, bind_ok_iff.mpr ⟨a, ha, hfa⟩, hP⟩

/-- A run that returns yields what its value is. -/
theorem Returns.yields_iff [Inhabited α] {x : Run α} (h : x.Returns) {P : α → Prop} :
    x.Yields P ↔ P x.value := by
  rw [Yields, h.result_eq]
  simp

theorem returns_iff_yields {x : Run α} : x.Returns ↔ Yields (fun _ => True) x := by
  simp [Returns, Yields]

/-- What two runs return is related, if both return. -/
def Agree (R : α → β → Prop) (x : Run α) (y : Run β) : Prop := Except.Agree R x.result y.result

namespace Agree

variable {γ δ : Type} {R : α → β → Prop}

theorem ret {a : α} {b : β} (h : R a b) : Agree R (ret a) (ret b) := Except.Agree.pure h

theorem pure {a : α} {b : β} (h : R a b) : Agree R (pure a) (pure b) := Except.Agree.pure h

theorem refl {R : α → α → Prop} (x : Run α) (h : ∀ a, R a a) : Agree R x x :=
  Except.Agree.refl x.result h

theorem lift {x : Except Fault α} {y : Except Fault β} (h : Except.Agree R x y) :
    Agree R (liftM x : Run α) (liftM y : Run β) := h

theorem bind {S : γ → δ → Prop} {x : Run α} {y : Run β} {f : α → Run γ} {g : β → Run δ}
    (h : Agree R x y) (hfg : ∀ a b, R a b → Agree S (f a) (g b)) :
    Agree S (x >>= f) (y >>= g) := by
  intro c d hc hd
  obtain ⟨a, ha, hfa⟩ := bind_ok_iff.mp hc
  obtain ⟨b, hb, hgb⟩ := bind_ok_iff.mp hd
  exact hfg a b (h a b ha hb) c d hfa hgb

end Agree

end Run

end Rulebook
