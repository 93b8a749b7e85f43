import Rulebook.Command.Run
import Rulebook.Proofs.Json.ReadingBack

/-!
Reports as documents. The command that checks a value reads documents, and what it reads from a report that is
written as a document is the report with all its parts, as long as its data are exact. So reports can be passed on
and checked themselves.
-/

namespace Rulebook

/-- A value made of exact ones by names that stand once each. -/
theorem Value.isExact_record {members : List (String × Value)} (names : (members.map (·.1)).Nodup)
    (each : ∀ m ∈ members, m.2.IsExact) : (Value.record members).IsExact := by
  refine .object ⟨fun m hm => ?_, ?_⟩ fun m hm => ?_
  · obtain ⟨m', -, rfl⟩ := List.mem_map.mp hm
    exact ⟨m'.1, rfl⟩
  · rw [List.map_map]
    show (members.map (Scalar.text ∘ (·.1))).Nodup
    rw [← List.map_map]
    exact names.map fun _ _ => Scalar.text.inj
  · obtain ⟨m', hm', rfl⟩ := List.mem_map.mp hm
    exact each m' hm'

theorem Value.isExact_texts (names : List String) : (Value.texts names).IsExact := by
  refine .list fun v hv => ?_
  obtain ⟨name, -, rfl⟩ := List.mem_map.mp hv
  exact .scalar trivial

namespace Report

/-- A report whose data, and the detail of its problem, are exact. -/
structure IsExact (r : Report) : Prop where
  data : (Value.record r.data).IsExact
  detail : ∀ p ∈ r.problem, (Value.record p.detail).IsExact

theorem IsExact.document {r : Report} (h : r.IsExact) : r.document.IsExact := by
  refine Value.isExact_record ?_ ?_
  · show ["ok", "op", "data", "warnings", "error"].Nodup
    decide
  simp only [List.forall_mem_cons, List.not_mem_nil, false_imp_iff, implies_true, and_true]
  refine ⟨.scalar trivial, .scalar trivial, h.data, Value.isExact_texts _, ?_⟩
  cases hproblem : r.problem with
  | none => exact .scalar trivial
  | some p =>
    refine Value.isExact_record ?_ ?_
    · show ["code", "message", "detail"].Nodup
      decide
    simp only [List.forall_mem_cons, List.not_mem_nil, false_imp_iff, implies_true, and_true]
    exact ⟨.scalar trivial, .scalar trivial, h.detail p hproblem⟩

/-- An exact report that is written as a document is read as one that holds whether it succeeded, the operation,
the data, the warnings and the problem, each as it was. -/
theorem document_of_text {r : Report} (exact : r.IsExact) {p : Presentation} (json : p.json = true)
    (name : String) : ∃ text, r.text p = .ok text ∧ Session.Source.document ⟨name, text⟩ =
      .ok (.record [("ok", .bool r.ok), ("op", .text r.operation), ("data", .record r.data),
        ("warnings", .texts r.warnings),
        ("error", match r.problem with
          | some p =>
            .record [("code", .text p.code), ("message", .text p.message), ("detail", .record p.detail)]
          | none => .null)]) := by
  have hread := Json.document_print Json.plain_indentedStyle exact.document
  refine ⟨Json.print Json.indentedStyle r.document, by rw [text, if_pos json], ?_⟩
  unfold Session.Source.document Json.parse
  rw [hread]
  rfl

/-- Nested data, a text with a line break in it and the detail of the problem are read as they were. -/
theorem document_of_text_failure :
    let r : Report := .failure "check" (.unknownRules ["lenght"])
      [("rules", .list []), ("bounds", .object [(.text "least", .int (-12)), (.text "\n", .null)])] ["a\tb"]
    r.IsExact ∧ ∃ text, r.text ⟨true, false, false⟩ = .ok text ∧ Session.Source.document ⟨"<stdin>", text⟩ =
      .ok (.record [("ok", .bool false), ("op", .text "check"),
        ("data", .record [("rules", .list []),
          ("bounds", .object [(.text "least", .int (-12)), (.text "\n", .null)])]),
        ("warnings", .texts ["a\tb"]),
        ("error", .record [("code", .text "UNKNOWN_RULE"), ("message", .text "Unknown rule(s): lenght"),
          ("detail", .record [("unknown", .list [.text "lenght"])])])]) := by
  intro r
  have hexact : r.IsExact := by
    have hdigits : (Nat.toDigits 10 (-12 : Int).natAbs).length ≤ maxDigits := by decide
    have hbounds : (Value.record [("least", .int (-12)), ("\n", .null)]).IsExact :=
      Value.isExact_record (by decide)
        (List.forall_mem_cons.mpr ⟨.scalar hdigits, List.forall_mem_singleton.mpr (.scalar trivial)⟩)
    constructor
    · exact Value.isExact_record (by decide)
        (List.forall_mem_cons.mpr ⟨Value.isExact_texts [], List.forall_mem_singleton.mpr hbounds⟩)
    · rintro p ⟨⟩
      exact Value.isExact_record (by decide) (List.forall_mem_singleton.mpr (Value.isExact_texts _))
  exact ⟨hexact, document_of_text hexact rfl "<stdin>"⟩

end Report

end Rulebook
