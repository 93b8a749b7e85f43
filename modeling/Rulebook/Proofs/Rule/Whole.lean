import Rulebook.Proofs.Regex.Anchored
import Rulebook.Proofs.Run
import Rulebook.Rule.Keyword

/-!
Patterns for whole texts. A pattern that has been made before is put in parentheses between anchors, so a text
is accepted when a match goes from its start to its end. A pattern given as text is not: where it has
alternatives, the first is held to the start only and the last to the end only.
-/

namespace Rulebook

namespace Keyword

variable {flags : Regex.Flags} {source v : String} {r : Rule}

theorem check_pattern_iff (regex : Regex) (hv : v ≠ "") :
    ((Rule.leaf (.pattern source regex)).check (.text v) false).result = .ok .pass ↔
      regex.matchesFrom [] 0 v.toList = true := by
  have hskips : (Leaf.pattern source regex).skips (.text v) = false := by
    simpa [Leaf.skips, Value.isEmpty] using hv
  have hresult : ((Rule.leaf (.pattern source regex)).check (.text v) false).result =
      .ok ((Leaf.pattern source regex).finish (.text v) (regex.matchesFrom [] 0 v.toList) false) := by
    rw [Rule.check, Leaf.check, hskips]
    rfl
  rw [hresult]
  cases regex.matchesFrom [] 0 v.toList with
  | true => exact iff_of_true rfl rfl
  | false =>
    refine iff_of_false (fun h => ?_) Bool.false_ne_true
    cases h

theorem exists_of_compiles (flags : Regex.Flags) (source : String) (test : Regex.Compiled → Bool)
    (h : (match Regex.compile flags source with
      | .ok p => test p
      | .error _ => false) = true) : ∃ p, Regex.compile flags source = .ok p ∧ test p = true := by
  split at h
  · next p hp => exact ⟨p, hp, h⟩
  · cases h

theorem compilePattern_of_ok {p : Regex.Compiled} (h : Regex.compile flags source = .ok p) :
    (compilePattern flags source).result = .ok (.leaf (.pattern source p.regex)) := by
  rw [compilePattern, h]
  rfl

theorem makePattern_of_text (hsource : source ≠ "") :
    makePattern true (.text source) = compilePattern .none ("^" ++ source ++ "$") := by
  have htruthy : (Value.text source).truthy = true := by simpa [Value.truthy] using hsource
  rw [makePattern, htruthy]
  rfl

theorem makePattern_of_ok {p : Regex.Compiled} (hsource : source ≠ "")
    (h : Regex.compile .none ("^" ++ source ++ "$") = .ok p) :
    (makePattern true (.text source)).result = .ok (.leaf (.pattern ("^" ++ source ++ "$") p.regex)) := by
  rw [makePattern_of_text hsource]
  exact compilePattern_of_ok h

/-- The rule, held to both ends, of a pattern that has been made of a text without flags. -/
theorem ofPattern_of_ok {p q : Regex.Compiled} (hp : Regex.compile .none source = .ok p) (hflags : p.flags = .none)
    (hq : Regex.compile { Regex.Flags.none with unicode := true } ("^(?:" ++ source ++ ")$") = .ok q) :
    (ofPattern true p).result = .ok (.leaf (.pattern ("^(?:" ++ source ++ ")$") q.regex)) := by
  rw [ofPattern, hflags, (Regex.Parser.alternatives_of_compile hp).1]
  exact compilePattern_of_ok hq

/-- A pattern rule accepts the texts in which its pattern matches. -/
theorem check_of_compilePattern (made : (compilePattern flags source).result = .ok r) (given : r.isNull = false)
    (hv : v ≠ "") : ∃ p, Regex.compile flags source = .ok p ∧
      ((r.check (.text v) false).result = .ok .pass ↔ p.regex.matchesFrom [] 0 v.toList = true) := by
  unfold compilePattern at made
  split at made
  · next p hp =>
    cases made
    exact ⟨p, hp, check_pattern_iff p.regex hv⟩
  · cases made
    cases given
  · cases made

theorem not_spans_of_after {regex : Regex} {cs : List Char}
    (h : (regex.ends (.start cs)).all (·.after == ['x']) = true) : ¬ regex.Spans cs := by
  rintro ⟨d, hd, hlast⟩
  have hafter : d.after = ['x'] := by simpa using List.all_eq_true.mp h d hd
  rw [hafter] at hlast
  rcases hlast with h | h <;> cases h

/-- A text is accepted as a whole by a pattern that has been made before when a match spans it, and by a text of
a pattern when one of the alternatives matches in it, of which the first is held to its start and the last to its
end. So a text of a pattern with one alternative also takes a match that spans the whole. -/
theorem whole_accepts_iff {p : Regex.Compiled} (hp : Regex.compile flags source = .ok p) (hv : v ≠ "")
    (given : r.isNull = false) :
    (p.flags.multiline = false → (ofPattern true p).result = .ok r →
      ((r.check (.text v) false).result = .ok .pass ↔ p.regex.Spans v.toList)) ∧
    (flags = .none → (makePattern true (.text source)).result = .ok r →
      p.regex = Regex.firstOf (Regex.branchesOf .none source) ∧
      ((r.check (.text v) false).result = .ok .pass ↔
        Regex.MatchesBetween (Regex.branchesOf .none source) v.toList) ∧
      (Regex.branchesOf .none source = [p.regex] →
        ((r.check (.text v) false).result = .ok .pass ↔ p.regex.Spans v.toList))) := by
  constructor
  · intro hmultiline made
    obtain ⟨p', hp', hcheck⟩ := check_of_compilePattern made given hv
    rw [if_pos rfl, (Regex.Parser.alternatives_of_compile hp).1] at hp'
    rw [hcheck, Regex.regex_grouped hp hmultiline hp', Regex.entire_matches_iff]
  · rintro rfl made
    unfold makePattern at made
    split at made
    · cases made
      cases given
    · obtain ⟨p', hp', hcheck⟩ := check_of_compilePattern made given hv
      obtain ⟨hregex, hmatches⟩ := Regex.regex_anchored rfl rfl hp hp'
      have hbetween := hcheck.trans (hmatches v.toList)
      refine ⟨hregex, hbetween, fun hsingle => ?_⟩
      rw [hbetween, hsingle, Regex.matchesBetween_singleton]

/-- Of the pattern that has been made of two alternatives no match spans a text that an alternative only begins,
which the text of the pattern accepts. -/
theorem whole_accepts_begun : ∃ p r r', Regex.compile .none "a|b" = .ok p ∧
    (ofPattern true p).result = .ok r ∧ (makePattern true (.text "a|b")).result = .ok r' ∧
    (r.check (.text "ax") false).result ≠ .ok .pass ∧
    Regex.MatchesBetween (Regex.branchesOf .none "a|b") "ax".toList := by
  obtain ⟨p, hp, htest⟩ := exists_of_compiles .none "a|b" (fun p => p.flags == .none &&
    (p.regex.ends (.start "ax".toList)).all (·.after == ['x'])) (by decide +kernel)
  obtain ⟨q, hq, -⟩ := exists_of_compiles { Regex.Flags.none with unicode := true } ("^(?:" ++ "a|b" ++ ")$")
    (fun _ => true) (by decide +kernel)
  obtain ⟨q', hq', hmatches⟩ := exists_of_compiles .none ("^" ++ "a|b" ++ "$")
    (fun p => p.regex.matchesFrom [] 0 "ax".toList) (by decide +kernel)
  obtain ⟨hflags, hends⟩ := Bool.and_eq_true_iff.mp htest
  have hnone : p.flags = .none := beq_iff_eq.mp hflags
  have hmade := ofPattern_of_ok hp hnone hq
  have hmade' := makePattern_of_ok (by decide) hq'
  have hax : "ax" ≠ "" := by decide
  have hspans := (whole_accepts_iff hp hax rfl).1 (by rw [hnone]; rfl) hmade
  have hbetween := ((whole_accepts_iff hp hax rfl).2 rfl hmade').2.1
  refine ⟨p, _, _, hp, hmade, hmade', fun h => ?_, hbetween.mp ((check_pattern_iff _ hax).mpr hmatches)⟩
  exact not_spans_of_after hends (hspans.mp h)

/-- A text of a pattern with two alternatives, held to the ends of a text, accepts one that no match spans. -/
theorem whole_accepts_partly : ∃ p r, Regex.compile .none "a|b" = .ok p ∧
    (makePattern true (.text "a|b")).result = .ok r ∧ r.isNull = false ∧
    (r.check (.text "ax") false).result = .ok .pass ∧ ¬ p.regex.Spans "ax".toList := by
  obtain ⟨p, hp, hends⟩ := exists_of_compiles .none "a|b"
    (fun p => (p.regex.ends (.start "ax".toList)).all (·.after == ['x'])) (by decide +kernel)
  obtain ⟨p', hp', hmatches⟩ := exists_of_compiles .none ("^" ++ "a|b" ++ "$")
    (fun p => p.regex.matchesFrom [] 0 "ax".toList) (by decide +kernel)
  exact ⟨p, _, hp, makePattern_of_ok (by decide) hp', rfl, (check_pattern_iff p'.regex (by decide)).mpr hmatches,
    not_spans_of_after hends⟩

end Keyword

end Rulebook
