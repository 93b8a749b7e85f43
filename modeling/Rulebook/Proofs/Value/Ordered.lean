import Mathlib
import Rulebook.Value.Basic

/-!
Ordered maps. Where the keys of a list of pairs are told apart by their equality test and stand once
each, looking a key up is membership of the pair; so a lookup does not depend on the order of the
pairs. The union of maps with no key in common writes one after the other. What a list of pairs adds to
a map is what the map of that list adds to it, so unions can be grouped at will.
-/

namespace Rulebook.Ordered

variable {κ α : Type} [BEq κ]

/-- The equality test tells each key of a list of pairs from every other key. -/
def Told (pairs : List (κ × α)) : Prop := ∀ p ∈ pairs, ∀ k, (p.1 == k) = true ↔ p.1 = k

theorem told_of_lawful [LawfulBEq κ] (pairs : List (κ × α)) : Told pairs := by
  intro p _ k
  exact beq_iff_eq

theorem mem_of_get? {k : κ} {a : α} : ∀ {pairs : List (κ × α)}, get? k pairs = some a →
    ∃ k', (k', a) ∈ pairs ∧ (k' == k) = true
  | [], h => by simp [get?] at h
  | (k', b) :: rest, h => by
    unfold get? at h
    split at h
    · cases h
      exact ⟨k', List.mem_cons_self .., ‹_›⟩
    · obtain ⟨k'', hmem, hk⟩ := mem_of_get? h
      exact ⟨k'', List.mem_cons_of_mem _ hmem, hk⟩

/-- A key is found with a value when the pair is in the map. -/
theorem get?_eq_some_iff {k : κ} {a : α} {pairs : List (κ × α)} (told : Told pairs)
    (nodup : (pairs.map (·.1)).Nodup) : get? k pairs = some a ↔ (k, a) ∈ pairs := by
  induction pairs with
  | nil => simp [get?]
  | cons p rest ih =>
    obtain ⟨k', b⟩ := p
    have hk : (k' == k) = true ↔ k' = k := told _ (List.mem_cons_self ..) k
    have hrest := ih (fun p hp => told p (List.mem_cons_of_mem _ hp)) (List.nodup_cons.mp nodup).2
    have hfresh : k' ∉ rest.map (·.1) := (List.nodup_cons.mp nodup).1
    unfold get?
    by_cases heq : k' = k
    · subst heq
      rw [if_pos (hk.mpr rfl)]
      constructor
      · rintro ⟨⟩
        exact List.mem_cons_self ..
      · intro hmem
        rcases List.mem_cons.mp hmem with h | h
        · cases h
          rfl
        · exact absurd (List.mem_map_of_mem h) hfresh
    · rw [if_neg (fun h => heq (hk.mp h)), hrest]
      constructor
      · exact List.mem_cons_of_mem _
      · intro hmem
        rcases List.mem_cons.mp hmem with h | h
        · cases h
          exact absurd rfl heq
        · exact h

theorem get?_eq_none_iff {k : κ} {pairs : List (κ × α)} (told : Told pairs) :
    get? k pairs = none ↔ k ∉ pairs.map (·.1) := by
  induction pairs with
  | nil => simp [get?]
  | cons p rest ih =>
    have hk : (p.1 == k) = true ↔ p.1 = k := told _ (List.mem_cons_self ..) k
    have hrest := ih (fun p hp => told p (List.mem_cons_of_mem _ hp))
    unfold get?
    by_cases heq : p.1 = k
    · rw [if_pos (hk.mpr heq)]
      simp [heq]
    · rw [if_neg (fun h => heq (hk.mp h)), hrest, List.map_cons, List.mem_cons, not_or]
      exact ⟨fun h => ⟨fun e => heq e.symm, h⟩, And.right⟩

theorem get?_append (k : κ) (pairs more : List (κ × α)) :
    get? k (pairs ++ more) = (get? k pairs).or (get? k more) := by
  induction pairs with
  | nil => rfl
  | cons p rest ih =>
    rw [List.cons_append, get?, get?]
    split
    · rfl
    · exact ih

/-- Pairs of other keys after a map are not found in it. -/
theorem get?_append_of_not_mem [LawfulBEq κ] {k : κ} {pairs more : List (κ × α)}
    (other : k ∉ more.map (·.1)) : get? k (pairs ++ more) = get? k pairs := by
  rw [get?_append, (get?_eq_none_iff (told_of_lawful more)).mpr other, Option.or_none]

/-- A lookup does not depend on the order of the pairs. -/
theorem get?_perm {k : κ} {pairs pairs' : List (κ × α)} (told : Told pairs)
    (nodup : (pairs.map (·.1)).Nodup) (perm : pairs.Perm pairs') :
    get? k pairs = get? k pairs' := by
  have told' : Told pairs' := fun p hp => told p (perm.mem_iff.mpr hp)
  have nodup' : (pairs'.map (·.1)).Nodup := (perm.map _).nodup_iff.mp nodup
  cases h : get? k pairs' with
  | some a => rw [get?_eq_some_iff told nodup, perm.mem_iff, ← get?_eq_some_iff told' nodup', h]
  | none =>
    rw [get?_eq_none_iff told, (perm.map (·.1)).mem_iff, ← get?_eq_none_iff told', h]

/-- The pairs of a key are one. -/
theorem filter_key [LawfulBEq κ] {k : κ} {a : α} {pairs : List (κ × α)}
    (nodup : (pairs.map (·.1)).Nodup) (hmem : (k, a) ∈ pairs) :
    pairs.filter (·.1 == k) = [(k, a)] := by
  induction pairs with
  | nil => cases hmem
  | cons p rest ih =>
    obtain ⟨hfresh, hrest⟩ := List.nodup_cons.mp nodup
    rw [List.filter_cons]
    rcases List.mem_cons.mp hmem with rfl | hmem
    · have hnone : rest.filter (·.1 == k) = [] := by
        refine List.filter_eq_nil_iff.mpr fun q hq hk => hfresh ?_
        exact List.mem_map.mpr ⟨q, hq, beq_iff_eq.mp hk⟩
      rw [if_pos (beq_self_eq_true k), hnone]
    · have hp : ¬ (p.1 == k) = true := by
        intro hk
        exact hfresh (List.mem_map.mpr ⟨_, hmem, (beq_iff_eq.mp hk).symm⟩)
      rw [if_neg hp, ih hrest hmem]

theorem insert_ne_nil (k : κ) (a : α) (pairs : List (κ × α)) : insert k a pairs ≠ [] := by
  cases pairs with
  | nil => simp [insert]
  | cons p rest =>
    unfold insert
    split <;> simp

/-- A new key is added at the end. -/
theorem insert_of_fresh {k : κ} {a : α} {pairs : List (κ × α)} (told : Told pairs)
    (fresh : k ∉ pairs.map (·.1)) : insert k a pairs = pairs ++ [(k, a)] := by
  induction pairs with
  | nil => rfl
  | cons p rest ih =>
    rw [List.map_cons, List.mem_cons, not_or] at fresh
    obtain ⟨hp, hrest⟩ := fresh
    have htold : (p.1 == k) = true ↔ p.1 = k := told p (List.mem_cons_self ..) k
    unfold insert
    rw [if_neg (fun h => hp (htold.mp h).symm), ih (fun q hq => told q (List.mem_cons_of_mem _ hq)) hrest,
      List.cons_append]

theorem union_eq_append {m new : List (κ × α)} (told : Told (m ++ new))
    (nodup : ((m ++ new).map (·.1)).Nodup) : union m new = m ++ new := by
  induction new generalizing m with
  | nil => exact (List.append_nil m).symm
  | cons p rest ih =>
    have hsplit : m ++ p :: rest = m ++ [p] ++ rest := by simp
    have hfresh : p.1 ∉ m.map (·.1) := by
      rw [List.map_append, List.map_cons] at nodup
      exact fun h => (List.nodup_append.mp nodup).2.2 _ h _ (List.mem_cons_self ..) rfl
    show union (insert p.1 p.2 m) rest = _
    rw [insert_of_fresh (fun q hq => told q (List.mem_append_left _ hq)) hfresh, hsplit]
    exact ih (hsplit ▸ told) (hsplit ▸ nodup)

/-- What a map holds after an insertion is what it held or what was inserted. -/
theorem value_of_mem_insert {k : κ} {a : α} {m : List (κ × α)} {p : κ × α} (h : p ∈ insert k a m) :
    p ∈ m ∨ p.2 = a := by
  induction m with
  | nil =>
    rw [insert, List.mem_singleton] at h
    exact .inr (congrArg Prod.snd h)
  | cons q rest ih =>
    unfold insert at h
    split at h
    · rcases List.mem_cons.mp h with rfl | h
      · exact .inr rfl
      · exact .inl (List.mem_cons_of_mem _ h)
    · rcases List.mem_cons.mp h with rfl | h
      · exact .inl (List.mem_cons_self ..)
      · exact (ih h).imp_left (List.mem_cons_of_mem _)

/-- An insertion adds no key but its own. -/
theorem key_of_mem_insert {k : κ} {a : α} {m : List (κ × α)} {p : κ × α} (h : p ∈ insert k a m) :
    p.1 = k ∨ ∃ q ∈ m, q.1 = p.1 := by
  induction m with
  | nil =>
    rw [insert, List.mem_singleton] at h
    exact .inl (congrArg Prod.fst h)
  | cons q rest ih =>
    unfold insert at h
    split at h
    · rcases List.mem_cons.mp h with rfl | h
      · exact .inr ⟨q, List.mem_cons_self .., rfl⟩
      · exact .inr ⟨p, List.mem_cons_of_mem _ h, rfl⟩
    · rcases List.mem_cons.mp h with rfl | h
      · exact .inr ⟨_, List.mem_cons_self .., rfl⟩
      · obtain hk | ⟨q', hq', hkey⟩ := ih h
        · exact .inl hk
        · exact .inr ⟨q', List.mem_cons_of_mem _ hq', hkey⟩

theorem value_of_mem_union {m new : List (κ × α)} {p : κ × α} (h : p ∈ union m new) :
    p ∈ m ∨ ∃ p' ∈ new, p'.2 = p.2 := by
  induction new generalizing m with
  | nil => exact .inl h
  | cons q rest ih =>
    rcases ih h with h | ⟨p', hp', hvalue⟩
    · rcases value_of_mem_insert h with h | h
      · exact .inl h
      · exact .inr ⟨q, List.mem_cons_self .., h.symm⟩
    · exact .inr ⟨p', List.mem_cons_of_mem _ hp', hvalue⟩

/-- The values of a map are those of the pairs that it is made of. -/
theorem value_of_mem_ofList {pairs : List (κ × α)} {p : κ × α} (h : p ∈ ofList pairs) :
    ∃ p' ∈ pairs, p'.2 = p.2 :=
  (value_of_mem_union h).resolve_left List.not_mem_nil

/-! ### Lookups -/

/-- The equality test tells a key from every other one, on either side. -/
structure Apart (k : κ) : Prop where
  left : ∀ k', (k' == k) = true ↔ k' = k
  right : ∀ k', (k == k') = true ↔ k = k'

theorem apart_of_lawful [LawfulBEq κ] (k : κ) : Apart k :=
  ⟨fun _ => beq_iff_eq, fun _ => beq_iff_eq⟩

/-- After an insertion such a key is found with what was inserted under it, and else as before. -/
theorem get?_insert {k : κ} (apart : Apart k) (k' : κ) (a : α) (m : List (κ × α)) :
    get? k (insert k' a m) = if k' == k then some a else get? k m := by
  induction m with
  | nil => rfl
  | cons p rest ih =>
    unfold insert
    by_cases hput : (p.1 == k') = true
    · by_cases hk : k' = k
      · subst hk
        simp [get?, hput, apart.left]
      · have hp : p.1 ≠ k := by
          rintro rfl
          exact hk ((apart.right k').mp hput).symm
        simp [get?, hput, hp, hk, apart.left]
    · by_cases hp : p.1 = k
      · subst hp
        have hk : k' ≠ p.1 := fun h => hput ((apart.right k').mpr h.symm)
        simp [get?, hput, hk, apart.left]
      · simp [get?, hput, hp, ih, apart.left]

/-- In a union the last of the new pairs under a key has the value. -/
theorem get?_union {k : κ} (apart : Apart k) (m new : List (κ × α)) :
    get? k (union m new) = (((new.filter (·.1 == k)).getLast?).map (·.2)).or (get? k m) := by
  induction new generalizing m with
  | nil => rfl
  | cons p rest ih =>
    show get? k (union (insert p.1 p.2 m) rest) = _
    rw [ih, get?_insert apart, List.filter_cons]
    cases hrest : rest.filter (·.1 == k) with
    | nil => by_cases hp : (p.1 == k) = true <;> simp [hp]
    | cons q more => by_cases hp : (p.1 == k) = true <;> simp [hp, List.getLast?_cons]

theorem get?_ofList {k : κ} (apart : Apart k) (pairs : List (κ × α)) :
    get? k (ofList pairs) = ((pairs.filter (·.1 == k)).getLast?).map (·.2) := by
  rw [ofList, get?_union apart]
  exact Option.or_none

theorem get?_ofList_cons {k : κ} (apart : Apart k) (p : κ × α) (rest : List (κ × α)) :
    get? k (ofList (p :: rest)) =
      (get? k (ofList rest)).or (if p.1 == k then some p.2 else none) := by
  rw [get?_ofList apart rest]
  exact get?_union apart [p] rest

/-! ### Grouping of unions -/

theorem mem_keys_insert [LawfulBEq κ] {k k' : κ} {a : α} {m : List (κ × α)} :
    k ∈ (insert k' a m).map (·.1) ↔ k = k' ∨ k ∈ m.map (·.1) := by
  induction m with
  | nil => simp [insert]
  | cons p rest ih =>
    unfold insert
    split
    · next hk =>
      have hp : p.1 = k' := beq_iff_eq.mp hk
      simp [hp]
    · rw [List.map_cons, List.mem_cons, ih, List.map_cons, List.mem_cons, or_left_comm]

theorem nodup_keys_insert [LawfulBEq κ] {k : κ} {a : α} {m : List (κ × α)}
    (nodup : (m.map (·.1)).Nodup) : ((insert k a m).map (·.1)).Nodup := by
  induction m with
  | nil => simp [insert]
  | cons p rest ih =>
    obtain ⟨hfresh, hrest⟩ := List.nodup_cons.mp nodup
    unfold insert
    split
    · exact nodup
    · next hk =>
      have hne : p.1 ≠ k := fun h => hk (beq_iff_eq.mpr h)
      refine List.nodup_cons.mpr ⟨fun hmem => ?_, ih hrest⟩
      rcases mem_keys_insert.mp hmem with h | h
      · exact hne h
      · exact hfresh h

/-- Of two values under one key the later stays, in the place of the first. -/
theorem insert_insert_self [LawfulBEq κ] (k : κ) (a b : α) (m : List (κ × α)) :
    insert k a (insert k b m) = insert k a m := by
  induction m with
  | nil => simp [insert]
  | cons p rest ih => by_cases hk : p.1 = k <;> simp [insert, hk, ih]

/-- A key that is in a map keeps its place, so its value can be replaced before another key is put. -/
theorem insert_comm_of_mem [LawfulBEq κ] {k k' : κ} (hne : k ≠ k') (a b : α) {m : List (κ × α)}
    (hmem : k ∈ m.map (·.1)) : insert k a (insert k' b m) = insert k' b (insert k a m) := by
  induction m with
  | nil => cases hmem
  | cons p rest ih =>
    by_cases hk : p.1 = k
    · have hk' : p.1 ≠ k' := fun h => hne (hk.symm.trans h)
      simp [insert, hk, hne]
    · have hrest : k ∈ rest.map (·.1) := by
        rcases List.mem_cons.mp hmem with h | h
        · exact absurd h.symm hk
        · exact h
      by_cases hk' : p.1 = k'
      · simp [insert, hk', hne.symm]
      · simp [insert, hk, hk', ih hrest]

theorem union_append (m new more : List (κ × α)) :
    union m (new ++ more) = union (union m new) more := List.foldl_append

theorem nodup_keys_union [LawfulBEq κ] {m : List (κ × α)} (nodup : (m.map (·.1)).Nodup)
    (new : List (κ × α)) : ((union m new).map (·.1)).Nodup := by
  induction new generalizing m with
  | nil => exact nodup
  | cons p rest ih => exact ih (nodup_keys_insert nodup)

theorem mem_keys_union [LawfulBEq κ] {k : κ} {m new : List (κ × α)} :
    k ∈ (union m new).map (·.1) ↔ k ∈ m.map (·.1) ∨ k ∈ new.map (·.1) := by
  induction new generalizing m with
  | nil => simp [union]
  | cons p rest ih =>
    show k ∈ (union (insert p.1 p.2 m) rest).map (·.1) ↔ _
    rw [ih, mem_keys_insert, List.map_cons, List.mem_cons, or_assoc, or_left_comm]

theorem get?_ofList_eq_none_iff [LawfulBEq κ] {k : κ} {pairs : List (κ × α)} :
    get? k (ofList pairs) = none ↔ k ∉ pairs.map (·.1) := by
  rw [get?_eq_none_iff (told_of_lawful _), ofList, mem_keys_union]
  simp

theorem insert_union_of_mem [LawfulBEq κ] {k : κ} (a : α) {m new : List (κ × α)}
    (hmem : k ∈ m.map (·.1)) (fresh : k ∉ new.map (·.1)) :
    insert k a (union m new) = union (insert k a m) new := by
  induction new generalizing m with
  | nil => rfl
  | cons p rest ih =>
    rw [List.map_cons, List.mem_cons, not_or] at fresh
    obtain ⟨hp, hrest⟩ := fresh
    show insert k a (union (insert p.1 p.2 m) rest) = union (insert p.1 p.2 (insert k a m)) rest
    rw [ih (mem_keys_insert.mpr (.inr hmem)) hrest, insert_comm_of_mem hp a p.2 hmem]

/-- What is put into a map is put last by a union with it. -/
theorem union_insert [LawfulBEq κ] (k : κ) (a : α) (m : List (κ × α)) {new : List (κ × α)}
    (nodup : (new.map (·.1)).Nodup) : union m (insert k a new) = insert k a (union m new) := by
  induction new generalizing m with
  | nil => rfl
  | cons p rest ih =>
    obtain ⟨hfresh, hrest⟩ := List.nodup_cons.mp nodup
    by_cases hk : p.1 = k
    · subst hk
      have hput : insert p.1 a (p :: rest) = (p.1, a) :: rest := by simp [insert]
      rw [hput]
      show union (insert p.1 a m) rest = insert p.1 a (union (insert p.1 p.2 m) rest)
      rw [insert_union_of_mem a (mem_keys_insert.mpr (.inl rfl)) hfresh, insert_insert_self]
    · have hput : insert k a (p :: rest) = p :: insert k a rest := by simp [insert, hk]
      rw [hput]
      exact ih (insert p.1 p.2 m) hrest

/-- A union with the map of some pairs is a union with the pairs. -/
theorem union_ofList [LawfulBEq κ] (m pairs : List (κ × α)) : union m (ofList pairs) = union m pairs := by
  induction pairs using List.reverseRecOn with
  | nil => rfl
  | append_singleton pairs p ih =>
    have hlast : ∀ m : List (κ × α), union m (pairs ++ [p]) = insert p.1 p.2 (union m pairs) :=
      fun m => union_append m pairs [p]
    have nodup : ((ofList pairs).map (·.1)).Nodup := nodup_keys_union (m := []) List.nodup_nil pairs
    rw [hlast, ← ih, ← union_insert p.1 p.2 m nodup]
    exact congrArg (union m) (hlast [])

end Rulebook.Ordered
