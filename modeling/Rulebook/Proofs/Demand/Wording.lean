import Rulebook.Proofs.Demand.Judging

/-!
Wordings of demands. That a trigger asks for fields can be written as a list of them, as an object that
requires them, or as an object with a document for each that makes it required. The first two are one
demand. The third runs through the registry and makes a rule for each field, and comes to the same when
the evaluation is not inverted, also where a field is named twice.
-/

namespace Rulebook

/-- A way to write that a trigger asks for fields. -/
inductive Wording where
  | list | required | properties

namespace Wording

/-- The document that makes a field required. -/
def presence : List (Scalar × Value) := [(.text "required", .bool true)]

/-- The entry of a trigger that asks for some fields. -/
def entry (fields : List String) : Wording → Value
  | .list => .texts fields
  | .required => .record [("required", .texts fields)]
  | .properties => .record [("properties",
      .record (Ordered.ofList (fields.map fun field => (field, .object presence))))]

/-- What the entry asks for. -/
def asked (fields : List String) : Wording → Asked
  | .list | .required => ⟨fields, []⟩
  | .properties => ⟨[], fields.eraseDups.map fun field => (field, presence)⟩

theorem asksFor_entry (fields : List String) (word : Wording) :
    AsksFor (word.entry fields) (word.asked fields) := by
  cases word with
  | list => exact .list fields
  | required => exact @AsksFor.object _ (some fields) none rfl rfl
  | properties =>
    have hfields : Ordered.ofList (fields.map fun field => (field, Value.object presence)) =
        (fields.eraseDups.map fun field => (field, presence)).map fun d => (d.1, .object d.2) := by
      simp [Ordered.ofList_map_eq_tabulate, Ordered.tabulate]
    exact @AsksFor.object _ none (some (fields.eraseDups.map fun field => (field, presence))) rfl
      (by rw [hfields]; rfl)

/-! ### Presence through the registry -/

/-- The rule that makes a field required, plain. -/
theorem check_required (w : Value) : ((Rule.leaf .required).check w false).result =
    .ok (if w.hasValue then .pass else .fail [("required", .bool true)]) := by
  cases hw : w.hasValue <;>
    simp [Rule.check, Leaf.check, Leaf.skips, Leaf.test, Leaf.finish, Leaf.name, Leaf.detail,
      Run.bind_ok_iff, differ, hw]

theorem build_presence : (Registry.builtin.build presence).result =
    .ok ⟨[("required", .leaf .required)], []⟩ := rfl

theorem returnsOn_presence (w : Value) : Registry.builtin.ReturnsOn presence w := by
  refine ⟨_, build_presence, fun p hp => ?_⟩
  rcases List.mem_singleton.mp hp with rfl
  exact ⟨_, check_required w⟩

theorem rejections_presence (w : Value) : Registry.builtin.rejections presence w =
    if w.hasValue then [] else [[("required", .bool true)]] := by
  rw [Registry.rejections, Run.value_of_ok build_presence]
  cases hw : w.hasValue <;>
    simp [Connective.failures, Run.value_of_ok (check_required w), hw, Outcome.pass, Outcome.fail]

/-! ### Entries that come to the same -/

section

variable {v : Value} {invert : Bool} (fields : List String)

/-- What is there once of some items is found once. -/
theorem flatMap_of_mem {α β : Type} [DecidableEq α] {xs : List α} (nodup : xs.Nodup) {x : α}
    (hx : x ∈ xs) (ys : α → List β) : (xs.flatMap fun y => if y = x then ys y else []) = ys x := by
  induction xs with
  | nil => cases hx
  | cons y rest ih =>
    rcases List.nodup_cons.mp nodup with ⟨hfresh, hrest⟩
    by_cases hy : y = x
    · subst hy
      have hnone : ∀ z ∈ rest, (if z = y then ys z else []) = [] := by
        intro z hz
        have hne : z ≠ y := fun h => hfresh (h ▸ hz)
        simp [hne]
      simp [List.flatMap_eq_nil_iff.mpr hnone]
    · have hmem : x ∈ rest := (List.mem_cons.mp hx).resolve_left fun h => hy h.symm
      simp [hy, ih hrest hmem]

theorem rejectionsOf_presence (field : String) :
    Asked.rejectionsOf Registry.builtin v (field, presence) =
      if (v.member (.text field)).hasValue then [] else [[("required", .bool true)]] :=
  rejections_presence _

/-- The fields whose documents fail are those that are not there. -/
theorem rejected_properties : (asked fields .properties).rejected Registry.builtin v =
    fields.eraseDups.filter fun field => (v.member (.text field)).hasValue == false := by
  have hfails : ∀ field ∈ fields.eraseDups,
      (!(Asked.rejectionsOf Registry.builtin v (field, presence)).isEmpty) =
        ((v.member (.text field)).hasValue == false) := by
    intro field _
    cases hfield : (v.member (.text field)).hasValue <;> simp [rejectionsOf_presence, hfield]
  rw [Asked.rejected, asked, List.filter_map, List.map_map, ← List.filter_congr hfails]
  simp [Function.comp_def]

/-- Plain, a document that makes each field required comes to the same as a list of the fields. -/
theorem report_properties : (asked fields .properties).report Registry.builtin v false =
    (asked fields .list).report Registry.builtin v false := by
  have hfailing : (asked fields .properties).failing v false = [] := rfl
  have hlist : (asked fields .list).failing v false =
    fields.filter fun field => (v.member (.text field)).hasValue == false := rfl
  rw [Asked.report, hfailing, List.nil_append, rejected_properties, Ordered.tabulate_filter_eraseDups]
  rw [asked, Asked.report_of_required, ← asked, hlist]
  refine Ordered.tabulate_congr fun field hfield => ?_
  rcases List.mem_filter.mp hfield with ⟨hmem, habsent⟩
  have hdocument : (asked fields .properties).failures Registry.builtin v false field =
      Asked.rejectionsOf Registry.builtin v (field, presence) := by
    rw [Asked.failures, hfailing, asked, List.flatMap_map]
    simpa using flatMap_of_mem (Ordered.nodup_eraseDups fields) (List.mem_eraseDups.mpr hmem)
      fun field => Asked.rejectionsOf Registry.builtin v (field, presence)
  have hnone : (v.member (.text field)).hasValue = false := by simpa using habsent
  rw [hdocument, rejectionsOf_presence, hnone]
  rfl

theorem report_asked {word : Wording} (plain : invert = true → word ≠ .properties) :
    (asked fields word).report Registry.builtin v invert =
      (asked fields .list).report Registry.builtin v invert := by
  cases word with
  | list => rfl
  | required => rfl
  | properties =>
    cases invert with
    | false => exact report_properties fields
    | true => exact absurd rfl (plain rfl)

theorem isMet_asked {word : Wording} (plain : invert = true → word ≠ .properties) :
    (asked fields word).isMet Registry.builtin v invert =
      (asked fields .list).isMet Registry.builtin v invert := by
  rw [Bool.eq_iff_iff, ← Asked.report_eq_nil_iff, ← Asked.report_eq_nil_iff, report_asked fields plain]

theorem returnsOn_asked (word : Wording) : (asked fields word).ReturnsOn Registry.builtin v := by
  intro d hd
  cases word with
  | list => cases hd
  | required => cases hd
  | properties =>
    rcases List.mem_map.mp hd with ⟨field, -, rfl⟩
    exact returnsOn_presence _

end

/-! ### Demands that come to the same -/

/-- Demands whose triggers ask for fields, each in a wording. -/
def demands (word : String → Wording) (asks : List (String × List String)) : Value :=
  .record (asks.map fun t => (t.1, (word t.1).entry t.2))

section

variable {asks : List (String × List String)} {word word' : String → Wording} {v : Value} {invert : Bool}

/-- Whatever the wording, demands are judged as if all were lists. -/
theorem check_demands_list (hv : v.isObject = true)
    (plain : invert = true → ∀ t ∈ asks, word t.1 ≠ .properties) :
    ((Rule.ofDemands (demands word asks)).check v invert).result =
      .ok (demandsOutcome ((Asked.unmet Registry.builtin v invert
        (asks.map fun t => (t.1, asked t.2 .list))).map fun t =>
          (.text t.1, Asked.reportValue (t.2.report Registry.builtin v invert)))) := by
  have spells : Asked.Spells (asks.map fun t => (.text t.1, (word t.1).entry t.2))
      (asks.map fun t => (t.1, asked t.2 (word t.1))) := by
    rw [Asked.Spells, List.forall₂_map_left_iff, List.forall₂_map_right_iff, List.forall₂_same]
    exact fun t _ => ⟨rfl, asksFor_entry t.2 (word t.1)⟩
  have returns : Asked.AllReturn Registry.builtin v (asks.map fun t => (t.1, asked t.2 (word t.1))) := by
    intro t ht _
    rcases List.mem_map.mp ht with ⟨ask, -, rfl⟩
    exact returnsOn_asked ask.2 (word ask.1)
  have hplain : ∀ t ∈ asks, invert = true → word t.1 ≠ .properties := fun t ht h => plain h t ht
  have hobject : demands word asks =
      .object (asks.map fun t => (.text t.1, (word t.1).entry t.2)) := by
    simp [demands, Value.record, Function.comp_def]
  rw [Rule.ofDemands, hobject, Registry.check_demands_ok_iff spells hv]
  refine ⟨returns, ?_⟩
  unfold Asked.unmet
  simp only [List.filter_map, List.map_map]
  have hunmet : asks.filter ((fun t => (v.member (.text t.1)).hasValue &&
        !t.2.isMet Registry.builtin v invert) ∘ fun t => (t.1, asked t.2 (word t.1))) =
      asks.filter ((fun t => (v.member (.text t.1)).hasValue &&
        !t.2.isMet Registry.builtin v invert) ∘ fun t => (t.1, asked t.2 .list)) := by
    refine List.filter_congr fun t ht => ?_
    simp [isMet_asked t.2 (hplain t ht)]
  rw [hunmet]
  refine congrArg demandsOutcome (List.map_congr_left fun t ht => ?_)
  simp [report_asked t.2 (hplain t (List.mem_of_mem_filter ht))]

/-- Demands for fields have one outcome in any two wordings, trigger by trigger, unless they are inverted
and a wording makes the fields required through the registry. -/
theorem check_demands_of_wording (asks : List (String × List String)) (hv : v.isObject = true)
    (plain : invert = true →
      ∀ t ∈ asks, word t.1 ≠ .properties ∧ word' t.1 ≠ .properties) :
    ∃ o, ((Rule.ofDemands (demands word asks)).check v invert).result = .ok o ∧
      ((Rule.ofDemands (demands word' asks)).check v invert).result = .ok o :=
  ⟨_, check_demands_list hv fun h t ht => (plain h t ht).1,
    check_demands_list hv fun h t ht => (plain h t ht).2⟩

/-- Beside a card that asks for a name twice there is a gift that asks for nothing. A list comes to the
same as an object that requires the fields, inverted, and as documents of the fields, plain. -/
theorem check_demands_of_wording_card :
    let asks : List (String × List String) := [("card", ["name", "address", "name"]), ("gift", [])]
    let v : Value := .record [("card", .int 1), ("gift", .int 0), ("address", .text "x")]
    let lists : Value := demands (fun _ => .list) asks
    let mixed : Value := demands (fun t => if t = "card" then .required else .list) asks
    let documents : Value := demands (fun _ => .properties) asks
    (∃ o, ((Rule.ofDemands lists).check v true).result = .ok o ∧
        ((Rule.ofDemands mixed).check v true).result = .ok o ∧ o.valid = false) ∧
      ∃ o, ((Rule.ofDemands lists).check v false).result = .ok o ∧
        ((Rule.ofDemands documents).check v false).result = .ok o ∧ o.valid = false := by
  intro asks v lists mixed documents
  have hinverted : ((Rule.ofDemands lists).check v true).result =
      .ok (demandsOutcome [(.text "card", .record [("address", .record [("required", .bool true)])])]) :=
    rfl
  have hplain : ((Rule.ofDemands lists).check v false).result =
      .ok (demandsOutcome [(.text "card", .record [("name", .record [("required", .bool true)])])]) :=
    rfl
  constructor
  · have hwords : true = true → ∀ t ∈ asks, Wording.list ≠ .properties ∧
        (if t.1 = "card" then Wording.required else .list) ≠ .properties := by
      intro _ t _
      constructor
      · exact nofun
      · split <;> exact nofun
    obtain ⟨o, ho, ho'⟩ := @check_demands_of_wording (fun _ => .list)
      (fun t => if t = "card" then .required else .list) v true asks rfl hwords
    obtain rfl := Except.ok.inj (hinverted.symm.trans ho)
    exact ⟨_, ho, ho', rfl⟩
  · obtain ⟨o, ho, ho'⟩ := @check_demands_of_wording (fun _ => .list) (fun _ => .properties) v false asks
      rfl nofun
    obtain rfl := Except.ok.inj (hplain.symm.trans ho)
    exact ⟨_, ho, ho', rfl⟩

end

end Wording

end Rulebook
