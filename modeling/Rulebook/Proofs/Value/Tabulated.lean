import Mathlib.Logic.Function.Basic
import Rulebook.Proofs.Value.Keyed

/-!
Tabulated maps. A map can be given by its keys, in order of first appearance, and a function for the
values. An insertion into such a map adds a key and changes the function in one place, so a map that is
filled step by step can be told from the keys alone.
-/

namespace Rulebook.Ordered

variable {κ α : Type} [DecidableEq κ]

/-- The map of some keys with the values of a function, in order of first appearance. -/
def tabulate (keys : List κ) (value : κ → α) : List (κ × α) := keys.eraseDups.map fun k => (k, value k)

theorem eraseDups_concat (keys : List κ) (k : κ) :
    (keys ++ [k]).eraseDups = if k ∈ keys then keys.eraseDups else keys.eraseDups ++ [k] := by
  rw [List.eraseDups_append]
  by_cases hk : k ∈ keys <;> simp [List.removeAll, hk, List.eraseDups_cons]

theorem nodup_eraseDups (keys : List κ) : keys.eraseDups.Nodup := by
  induction keys using List.reverseRecOn with
  | nil => simp
  | append_singleton keys k ih =>
    rw [eraseDups_concat]
    split
    · exact ih
    · next hfresh =>
      refine List.nodup_append.mpr ⟨ih, List.nodup_singleton k, ?_⟩
      rintro a ha b hb rfl
      rcases List.mem_singleton.mp hb with rfl
      exact hfresh (List.mem_eraseDups.mp ha)

/-- Repeated keys can be left out before others are. -/
theorem eraseDups_filter_eraseDups (keep : κ → Bool) (keys : List κ) :
    (keys.eraseDups.filter keep).eraseDups = (keys.filter keep).eraseDups := by
  induction keys using List.reverseRecOn with
  | nil => rfl
  | append_singleton keys k ih =>
    rw [eraseDups_concat, List.filter_append]
    by_cases hkeep : keep k = true <;> by_cases hk : k ∈ keys <;>
      simp [hkeep, hk, ih, eraseDups_concat]

@[simp] theorem map_fst_tabulate (keys : List κ) (value : κ → α) :
    (tabulate keys value).map (·.1) = keys.eraseDups := by
  simp [tabulate, Function.comp_def]

@[simp] theorem tabulate_eq_nil_iff {keys : List κ} {value : κ → α} :
    tabulate keys value = [] ↔ keys = [] := by
  cases keys <;> simp [tabulate, List.eraseDups_cons]

/-- Only the values of the keys matter. -/
theorem tabulate_congr {keys : List κ} {value value' : κ → α}
    (h : ∀ k ∈ keys, value k = value' k) : tabulate keys value = tabulate keys value' := by
  refine List.map_congr_left fun k hk => ?_
  rw [h k (List.mem_eraseDups.mp hk)]

theorem tabulate_filter_eraseDups (keep : κ → Bool) (keys : List κ) (value : κ → α) :
    tabulate (keys.eraseDups.filter keep) value = tabulate (keys.filter keep) value := by
  simp [tabulate, eraseDups_filter_eraseDups]

theorem get?_tabulate (k : κ) (keys : List κ) (value : κ → α) :
    get? k (tabulate keys value) = if k ∈ keys then some (value k) else none := by
  have told : Told (tabulate keys value) := told_of_lawful _
  split
  · next hk =>
    have nodup : ((tabulate keys value).map (·.1)).Nodup := by
      simpa using nodup_eraseDups keys
    rw [get?_eq_some_iff told nodup]
    exact List.mem_map.mpr ⟨k, List.mem_eraseDups.mpr hk, rfl⟩
  · next hk =>
    rw [get?_eq_none_iff told, map_fst_tabulate, List.mem_eraseDups]
    exact hk

/-- A key that is there is given its new value in its place. -/
theorem insert_map_of_mem {k : κ} (a : α) (value : κ → α) {keys : List κ} (hk : k ∈ keys)
    (nodup : keys.Nodup) : insert k a (keys.map fun x => (x, value x)) =
      keys.map fun x => (x, Function.update value k a x) := by
  induction keys with
  | nil => cases hk
  | cons x rest ih =>
    rcases List.nodup_cons.mp nodup with ⟨hfresh, hrest⟩
    by_cases hx : x = k
    · subst hx
      have hsame : ∀ y ∈ rest, (y, value y) = (y, Function.update value x a y) := by
        intro y hy
        have hne : y ≠ x := fun h => hfresh (h ▸ hy)
        simp [hne]
      simp [insert, List.map_congr_left hsame]
    · have hmem : k ∈ rest := (List.mem_cons.mp hk).resolve_left fun h => hx h.symm
      simp [insert, hx, ih hmem hrest]

theorem insert_tabulate (k : κ) (a : α) (keys : List κ) (value : κ → α) :
    insert k a (tabulate keys value) = tabulate (keys ++ [k]) (Function.update value k a) := by
  unfold tabulate
  rw [eraseDups_concat]
  split
  · next hk => exact insert_map_of_mem a value (List.mem_eraseDups.mpr hk) (nodup_eraseDups keys)
  · next hk =>
    have hsame : ∀ x ∈ keys.eraseDups, (x, value x) = (x, Function.update value k a x) := by
      intro x hx
      have hne : x ≠ k := fun h => hk (h ▸ List.mem_eraseDups.mp hx)
      simp [hne]
    have hfresh : k ∉ (keys.eraseDups.map fun x => (x, value x)).map (·.1) := by
      simpa [Function.comp_def] using hk
    rw [insert_of_fresh (told_of_lawful _) hfresh, List.map_append, List.map_congr_left hsame]
    simp

/-- A map of pairs whose values go with their keys. -/
theorem ofList_map_eq_tabulate (keys : List κ) (value : κ → α) :
    ofList (keys.map fun k => (k, value k)) = tabulate keys value := by
  induction keys using List.reverseRecOn with
  | nil => rfl
  | append_singleton keys k ih =>
    have hlast : ofList ((keys ++ [k]).map fun k => (k, value k)) =
        insert k (value k) (ofList (keys.map fun k => (k, value k))) := by
      rw [List.map_append, ofList, union_append]
      rfl
    rw [hlast, ih, insert_tabulate, Function.update_eq_self]

/-- Texts can be made keys of an object after an insertion as well as before it. -/
theorem insert_map_text (name : String) (a : α) (m : List (String × α)) :
    insert (.text name) a (m.map fun (k, b) => (Scalar.text k, b)) =
      (insert name a m).map fun (k, b) => (Scalar.text k, b) := by
  induction m with
  | nil => rfl
  | cons p rest ih =>
    have hkey : (Scalar.text p.1 == .text name) = (p.1 == name) := by
      rw [Bool.eq_iff_iff, Scalar.beq_text, beq_iff_eq, Scalar.text.injEq]
    by_cases hp : (p.1 == name) = true <;> simp [insert, hkey, hp, ih]

end Rulebook.Ordered
