import Mathlib
import Rulebook.Regex.Basic

/-!
The ends of a pattern. `ends r c` lists the places at which a match of `r` from the place `c` can end, in
the order in which the search comes to them. The search for a match after which a rest goes on takes the
first end from which the rest does (`run_eq`), so a pattern matches in a text when it has an end from some
place there.
-/

namespace Rulebook.Regex

/-- The ends of the iterations of a body that gives characters back. -/
def iterateEnds (body : Cursor → List Cursor) (lazy : Bool) (least : Nat) (most : Option Nat) :
    Nat → Nat → Option Nat → Cursor → List Cursor
  | 0, _, _, _ => []
  | fuel + 1, count, last, c =>
    if count < least then (body c).flatMap (iterateEnds body lazy least most fuel (count + 1) last)
    else
      let again :=
        if most.all (count < ·) && last != some c.position then
          (body c).flatMap (iterateEnds body lazy least most fuel (count + 1) (some c.position))
        else []
      if lazy then c :: again else again ++ [c]

/-- The places at which a match from a given place can end, in the order of the search. -/
def ends : Regex → Cursor → List Cursor
  | .empty, c => [c]
  | .one s, c =>
    match c.advance? with
    | some (x, d) => if s.contains x then [d] else []
    | none => []
  | .anchor a, c => if a.holds c then [c] else []
  | .seq r s, c => (ends r c).flatMap (ends s)
  | .alt r s, c => ends r c ++ ends s c
  | .loop greed least most r, c =>
    let fuel := least + c.after.length + 2
    match greed with
    | .greedy => iterateEnds (ends r) false least most fuel 0 none c
    | .lazy => iterateEnds (ends r) true least most fuel 0 none c
    | .possessive => (iterateOnce (fun c k => (ends r c).findSome? k) least most fuel 0 none c).toList
  | .group i r, c => (ends r (c.openGroup i)).map (·.closeGroup i)
  | .backref i fold, c => ((c.captured? i).bind fun cs => c.take? fold cs).toList
  | .ahead negated r, c =>
    match (ends r c).head? with
    | some d => if negated then [] else [c.withGroups d]
    | none => if negated then [c] else []
  | .behind negated width r, c =>
    match (c.back? width).bind fun b => (ends r b).head? with
    | some d => if negated then [] else [c.withGroups d]
    | none => if negated then [c] else []
  | .atomic r, c => (ends r c).head?.toList
  | .choose i yes no, c => if (c.captured? i).isSome then ends yes c else ends no c

/-! ### One step of the iterations -/

section Iterations

variable {body : Cursor → List Cursor} {lazy : Bool} {least : Nat} {most : Option Nat} {fuel count : Nat}
  {last : Option Nat} {c d : Cursor}

/-- Until the least count is reached, there has to be another iteration. -/
theorem mem_iterateEnds_of_lt (hleast : count < least) :
    d ∈ iterateEnds body lazy least most (fuel + 1) count last c ↔
      d ∈ (body c).flatMap (iterateEnds body lazy least most fuel (count + 1) last) := by
  rw [iterateEnds, if_pos hleast]

/-- From there on the iterations can end where they stand, or go on where the last one took something. -/
theorem mem_iterateEnds_of_le (hleast : least ≤ count) :
    d ∈ iterateEnds body lazy least most (fuel + 1) count last c ↔
      d = c ∨ most.all (count < ·) = true ∧ last ≠ some c.position ∧
        d ∈ (body c).flatMap (iterateEnds body lazy least most fuel (count + 1) (some c.position)) := by
  have hmem {again : List Cursor} : d ∈ (if lazy then c :: again else again ++ [c]) ↔ d = c ∨ d ∈ again := by
    cases lazy
    · simp [or_comm]
    · simp
  rw [iterateEnds, if_neg (Nat.not_lt.mpr hleast)]
  dsimp only
  rw [hmem, List.mem_ite_nil_right, Bool.and_eq_true, bne_iff_ne, and_assoc]

end Iterations

/-! ### The first result over ends -/

theorem findSome?_cons_or (k : Rest) (c : Cursor) (cs : List Cursor) :
    (c :: cs).findSome? k = (k c).or (cs.findSome? k) := by
  rw [List.findSome?_cons]
  cases k c <;> rfl

theorem findSome?_flatMap (k : Rest) (f : Cursor → List Cursor) (cs : List Cursor) :
    (cs.flatMap f).findSome? k = cs.findSome? fun c => (f c).findSome? k := by
  induction cs with
  | nil => rfl
  | cons c cs ih => rw [List.flatMap_cons, List.findSome?_append, ih, findSome?_cons_or]

theorem findSome?_some (cs : List Cursor) : cs.findSome? some = cs.head? := by
  cases cs <;> rfl

theorem findSome?_toList (o : Option Cursor) (k : Rest) : o.toList.findSome? k = o.bind k := by
  cases o with
  | none => rfl
  | some c => exact List.findSome?_singleton

/-- Iterating is searching through the ends of the iterations. -/
theorem iterate_eq {body : Cursor → List Cursor} (lazy : Bool) (least : Nat) (most : Option Nat) (k : Rest)
    (fuel count : Nat) (last : Option Nat) (c : Cursor) :
    iterate (fun c k => (body c).findSome? k) lazy least most k fuel count last c =
      (iterateEnds body lazy least most fuel count last c).findSome? k := by
  induction fuel generalizing count last c with
  | zero => rfl
  | succ fuel ih =>
    rw [iterate, iterateEnds]
    simp only [ih]
    split
    · rw [findSome?_flatMap]
    have hagain : (if most.all (count < ·) && last != some c.position then
          (body c).findSome? fun d =>
            (iterateEnds body lazy least most fuel (count + 1) (some c.position) d).findSome? k
        else none) =
        (if most.all (count < ·) && last != some c.position then
          (body c).flatMap (iterateEnds body lazy least most fuel (count + 1) (some c.position))
        else []).findSome? k := by
      split
      · rw [findSome?_flatMap]
      · rfl
    rw [hagain]
    cases lazy with
    | true => rw [if_pos rfl, if_pos rfl, Option.orElse_eq_or, findSome?_cons_or]
    | false =>
      rw [if_neg Bool.false_ne_true, if_neg Bool.false_ne_true, Option.orElse_eq_or, List.findSome?_append,
        List.findSome?_singleton]

/-- The search takes the first end from which the rest goes on. -/
theorem run_eq (r : Regex) (c : Cursor) (k : Rest) : r.run c k = (r.ends c).findSome? k := by
  induction r generalizing c k with
  | empty => exact List.findSome?_singleton.symm
  | one s =>
    rw [run, ends]
    cases c.advance? with
    | none => rfl
    | some p =>
      obtain ⟨x, d⟩ := p
      dsimp only
      split
      · exact List.findSome?_singleton.symm
      · rfl
  | anchor a =>
    rw [run, ends]
    split
    · exact List.findSome?_singleton.symm
    · rfl
  | seq r s ihr ihs => rw [run, ends, ihr, findSome?_flatMap, funext fun d => ihs d k]
  | alt r s ihr ihs => rw [run, ends, ihr, ihs, List.findSome?_append, Option.orElse_eq_or]
  | loop greed least most r ih =>
    have hbody : run r = fun c k => (ends r c).findSome? k := funext fun c => funext fun k => ih c k
    cases greed with
    | greedy =>
      rw [run, ends, hbody]
      exact iterate_eq _ _ _ _ _ _ _ _
    | lazy =>
      rw [run, ends, hbody]
      exact iterate_eq _ _ _ _ _ _ _ _
    | possessive =>
      rw [run, ends, hbody]
      exact (findSome?_toList _ k).symm
  | group i r ih =>
    rw [run, ends, ih, List.findSome?_map]
    rfl
  | backref i fold =>
    rw [run, ends, findSome?_toList]
    cases c.captured? i <;> rfl
  | ahead negated r ih =>
    rw [run, ends, ih, findSome?_some]
    cases (ends r c).head? <;> cases negated <;> simp
  | behind negated width r ih =>
    have hbody : (fun b => run r b some) = fun b => (ends r b).head? :=
      funext fun b => by rw [ih, findSome?_some]
    rw [run, ends, hbody]
    cases (c.back? width).bind fun b => (ends r b).head? <;> cases negated <;> simp
  | atomic r ih => rw [run, ends, ih, findSome?_some, findSome?_toList]
  | choose i yes no ihy ihn =>
    rw [run, ends, ihy, ihn]
    split <;> rfl

/-! ### Searching a text -/

/-- The place in a text between two parts, with no group opened. -/
def Cursor.between (passed rest : List Char) : Cursor := ⟨passed.reverse, rest, passed.length, [], []⟩

theorem matchesAt_iff (r : Regex) (c : Cursor) : (r.run c some).isSome = true ↔ r.ends c ≠ [] := by
  rw [run_eq, findSome?_some, List.isSome_head?]

theorem matchesFrom_iff (r : Regex) (passed rest : List Char) :
    r.matchesFrom passed.reverse passed.length rest = true ↔
      ∃ more left, rest = more ++ left ∧ r.ends (.between (passed ++ more) left) ≠ [] := by
  induction rest generalizing passed with
  | nil =>
    rw [matchesFrom, matchesAt_iff]
    constructor
    · intro h
      exact ⟨[], [], rfl, by rwa [List.append_nil]⟩
    · rintro ⟨more, left, heq, h⟩
      obtain ⟨rfl, rfl⟩ := List.append_eq_nil_iff.mp heq.symm
      rwa [List.append_nil] at h
  | cons x rest ih =>
    have hnext : r.matchesFrom (x :: passed.reverse) (passed.length + 1) rest = true ↔
        ∃ more left, rest = more ++ left ∧ r.ends (.between (passed ++ [x] ++ more) left) ≠ [] := by
      have h := ih (passed ++ [x])
      rwa [List.reverse_concat, List.length_append] at h
    rw [matchesFrom, Bool.or_eq_true, matchesAt_iff, hnext]
    constructor
    · rintro (h | ⟨more, left, rfl, h⟩)
      · exact ⟨[], x :: rest, rfl, by rwa [List.append_nil]⟩
      · exact ⟨x :: more, left, rfl, by rwa [List.append_assoc] at h⟩
    · rintro ⟨_ | ⟨y, more⟩, left, heq, h⟩
      · refine .inl ?_
        rw [List.append_nil] at h
        rwa [show left = x :: rest from heq.symm] at h
      · cases heq
        exact .inr ⟨more, left, rfl, by rwa [List.append_assoc]⟩

/-- A pattern matches in a text when it has an end from some place in it. -/
theorem matchesIn_iff (r : Regex) (cs : List Char) :
    r.matchesFrom [] 0 cs = true ↔ ∃ passed rest, cs = passed ++ rest ∧ r.ends (.between passed rest) ≠ [] :=
  r.matchesFrom_iff [] cs

end Rulebook.Regex
