import Rulebook.Proofs.Rule.Merging
import Rulebook.Proofs.Value.Keyed

/-!
Making the rules of a document, entry by entry. Each entry makes at most one rule, under its own name,
and looks at the rest of the document only for the flag beside it. So the rules of a document are those
of its entries in order, and an entry alone, with its flag, makes what it makes in the whole document.
-/

namespace Rulebook

instance : Inhabited Built := ⟨⟨[], []⟩⟩

/-! ### Entries -/

/-- What a member of a document makes. -/
def entryRun (makers : List (String × Maker)) (document : List (Scalar × Value))
    (m : Scalar × Value) : Run Built :=
  buildEntry makers document m.1.plainText m.2 fun scope => demandsRule scope m.2

/-- A document is built when each of its members is, and has their rules in order. -/
theorem buildMembers_ok_iff {makers : List (String × Maker)} {document ms : List (Scalar × Value)}
    {b : Built} : (buildMembers makers document ms).result = .ok b ↔
      (∀ m ∈ ms, (entryRun makers document m).Returns) ∧
        b = ⟨ms.flatMap fun m => (entryRun makers document m).value.rules,
          ms.flatMap fun m => (entryRun makers document m).value.unknown⟩ := by
  induction ms generalizing b with
  | nil => simp [buildMembers, eq_comm]
  | cons m rest ih =>
    rw [buildMembers, Run.bind_ok_iff, List.forall_mem_cons]
    constructor
    · rintro ⟨here, hhere, h⟩
      obtain ⟨more, hmore, h⟩ := Run.bind_ok_iff.mp h
      obtain ⟨hrest, rfl⟩ := ih.mp hmore
      have hm : (entryRun makers document m).result = .ok here := hhere
      cases h
      rw [List.flatMap_cons, List.flatMap_cons, Run.value_of_ok hm]
      exact ⟨⟨⟨here, hm⟩, hrest⟩, rfl⟩
    · rintro ⟨⟨hm, hrest⟩, rfl⟩
      exact ⟨_, hm.result_eq, Run.bind_ok_iff.mpr ⟨_, ih.mpr ⟨hrest, rfl⟩, rfl⟩⟩

/-- What a maker makes of a parameter and what is beside it, with the makers of a registry around it. -/
def Maker.make (maker : Maker) (makers : List (String × Maker)) (second : Second) (param : Value) :
    Run Rule :=
  match maker with
  | .function make => make second param
  | .keyword .dependencies => .ret (demandsRule (scopeFor makers second) param)
  | .keyword k => k.makeWith second param

theorem Maker.make_keyword {k : Keyword} (hk : k ≠ .dependencies) (makers : List (String × Maker))
    (second : Second) (param : Value) :
    (Maker.keyword k).make makers second param = k.makeWith second param := by
  cases k with
  | dependencies => exact absurd rfl hk
  | _ => rfl

section

variable {makers : List (String × Maker)} {document : List (Scalar × Value)} {name : String}
  {param : Value}

/-- An entry looks at the document only for what is beside it. -/
theorem entryRun_of_second {document' : List (Scalar × Value)}
    (h : secondFor name document = secondFor name document') :
    entryRun makers document (.text name, param) = entryRun makers document' (.text name, param) := by
  show buildEntry makers document name param _ = buildEntry makers document' name param _
  unfold buildEntry
  rw [h]

theorem entryRun_of_flag (flag : isFlag name param = true) :
    entryRun makers document (.text name, param) = .ret ⟨[], []⟩ := by
  show buildEntry makers document name param _ = _
  unfold buildEntry
  rw [if_pos flag]

theorem entryRun_of_none (entry : isFlag name param = false)
    (absent : Ordered.get? name makers = none) :
    entryRun makers document (.text name, param) = .ret ⟨[], [name]⟩ := by
  show buildEntry makers document name param _ = _
  unfold buildEntry
  rw [entry, absent]
  rfl

theorem entryRun_of_maker (entry : isFlag name param = false) {maker : Maker}
    (found : Ordered.get? name makers = some maker) :
    entryRun makers document (.text name, param) =
      maker.make makers (secondFor name document) param >>= fun r => pure ⟨[(name, r)], []⟩ := by
  show buildEntry makers document name param _ = _
  unfold buildEntry
  rw [entry, found]
  cases maker with
  | function make => rfl
  | keyword k => cases k <;> rfl

end

/-- What an entry of a document comes to: nothing if it is the flag of another, an unknown name if no
maker has it, or a rule under its name. -/
inductive EntryBuilt (makers : List (String × Maker)) (document : List (Scalar × Value))
    (name : String) (param : Value) : Built → Prop
  | flag (flag : isFlag name param = true) : EntryBuilt makers document name param ⟨[], []⟩
  | unknown (entry : isFlag name param = false) (absent : Ordered.get? name makers = none) :
      EntryBuilt makers document name param ⟨[], [name]⟩
  | rule (entry : isFlag name param = false) {maker : Maker}
      (found : Ordered.get? name makers = some maker) {r : Rule}
      (made : (maker.make makers (secondFor name document) param).result = .ok r) :
      EntryBuilt makers document name param ⟨[(name, r)], []⟩

theorem entryRun_built (makers : List (String × Maker)) (document : List (Scalar × Value))
    (name : String) (param : Value) :
    Run.Ensures (EntryBuilt makers document name param)
      (entryRun makers document (.text name, param)) := by
  intro b h
  cases entry : isFlag name param with
  | true =>
    rw [entryRun_of_flag entry] at h
    cases h
    exact .flag entry
  | false =>
    cases found : Ordered.get? name makers with
    | none =>
      rw [entryRun_of_none entry found] at h
      cases h
      exact .unknown entry found
    | some maker =>
      rw [entryRun_of_maker entry found] at h
      obtain ⟨r, made, h⟩ := Run.bind_ok_iff.mp h
      cases h
      exact .rule entry found made

/-- A built-in maker is the keyword of its name. -/
theorem builtinMakers_get? {name : String} {maker : Maker}
    (h : Ordered.get? name builtinMakers = some maker) : ∃ k : Keyword, maker = .keyword k ∧ k.name = name := by
  obtain ⟨name', hmem, hname⟩ := Ordered.mem_of_get? h
  obtain ⟨k, -, hk⟩ := List.mem_map.mp hmem
  cases hk
  exact ⟨k, rfl, beq_iff_eq.mp hname⟩

theorem builtinMakers_get?_name (k : Keyword) :
    Ordered.get? k.name builtinMakers = some (.keyword k) := by
  cases k <;> rfl

theorem Keyword.name_injective {k k' : Keyword} (h : k.name = k'.name) : k = k' := by
  have hk := builtinMakers_get?_name k
  rw [h, builtinMakers_get?_name k'] at hk
  cases hk
  rfl

theorem demandsRule_reportsAs (scope : Option (List (String × Maker))) (spec : Value) :
    (demandsRule scope spec).ReportsAs "dependencies" := by
  unfold demandsRule
  split
  · exact .null
  · exact .demands _ rfl
  · exact .null

/-- A built-in maker makes what reports under the name of its keyword. -/
theorem Keyword.make_builtin_reportsAs (k : Keyword) (second : Second) (param : Value) :
    Run.Ensures (Rule.ReportsAs k.name) ((Maker.keyword k).make builtinMakers second param) := by
  by_cases hk : k = .dependencies
  · subst hk
    exact .ret (demandsRule_reportsAs _ param)
  · rw [Maker.make_keyword hk]
    exact makeWith_reportsAs k second param

theorem builtin_contains_iff {name : String} :
    Registry.builtin.contains name = true ↔ ∃ k : Keyword, k.name = name := by
  rw [Registry.contains, Option.isSome_iff_exists]
  constructor
  · rintro ⟨maker, hget⟩
    obtain ⟨k, -, hk⟩ := builtinMakers_get? hget
    exact ⟨k, hk⟩
  · rintro ⟨k, rfl⟩
    exact ⟨_, builtinMakers_get?_name k⟩

namespace EntryBuilt

variable {makers : List (String × Maker)} {document : List (Scalar × Value)} {name : String}
  {param : Value} {b : Built}

/-- A rule is made under the name of its entry by the maker of that name. -/
theorem of_mem (h : EntryBuilt makers document name param b) {p : String × Rule} (hp : p ∈ b.rules) :
    p.1 = name ∧ ∃ maker, Ordered.get? name makers = some maker ∧
      (maker.make makers (secondFor name document) param).result = .ok p.2 := by
  cases h with
  | flag flag => cases hp
  | unknown entry absent => cases hp
  | rule entry found made =>
    cases List.mem_singleton.mp hp
    exact ⟨rfl, _, found, made⟩

/-- A built-in rule reports under the name of its entry. -/
theorem reports (h : EntryBuilt builtinMakers document name param b) {p : String × Rule}
    (hp : p ∈ b.rules) : p.2.ReportsAs p.1 := by
  obtain ⟨rfl, maker, found, made⟩ := h.of_mem hp
  obtain ⟨k, rfl, hk⟩ := builtinMakers_get? found
  exact hk ▸ k.make_builtin_reportsAs _ param _ made

/-- Of the rules of an entry, those of a name are all or none. -/
theorem filter_name (h : EntryBuilt makers document name param b) (other : String) :
    b.rules.filter (·.1 == other) = if name == other then b.rules else [] := by
  cases hname : name == other with
  | true =>
    refine List.filter_eq_self.mpr fun p hp => ?_
    rw [(h.of_mem hp).1, hname]
  | false =>
    refine List.filter_eq_nil_iff.mpr fun p hp => ?_
    rw [(h.of_mem hp).1, hname]
    exact Bool.false_ne_true

/-- The name of an entry is that of its rule if some maker has it, unless the entry is a flag. -/
theorem rules_names {r : Registry Maker} (h : EntryBuilt r.entries document name param b) :
    b.rules.map (·.1) = if !isFlag name param && r.contains name then [name] else [] := by
  unfold Registry.contains Registry.lookup?
  cases h with
  | flag flag =>
    rw [flag]
    rfl
  | unknown entry absent =>
    rw [entry, absent]
    rfl
  | rule entry found made =>
    rw [entry, found]
    rfl

/-- It is unknown if no maker has it. -/
theorem unknown_eq {r : Registry Maker} (h : EntryBuilt r.entries document name param b) :
    b.unknown = if !isFlag name param && !r.contains name then [name] else [] := by
  unfold Registry.contains Registry.lookup?
  cases h with
  | flag flag =>
    rw [flag]
    rfl
  | unknown entry absent =>
    rw [entry, absent]
    rfl
  | rule entry found made =>
    rw [entry, found]
    rfl

end EntryBuilt

/-! ### Requirements -/

/-- A requirement document whose names are texts, each once. -/
structure Requirements where
  members : List (String × Value)
  nodup : (members.map (·.1)).Nodup

namespace Requirements

/-- The requirements as the members of a document. -/
def document (q : Requirements) : List (Scalar × Value) := q.members.map fun (k, v) => (.text k, v)

/-- Whether an entry is the flag of the keyword of a name. -/
def isFlagOf (name : String) (m : String × Value) : Bool :=
  flagBeside? name == some m.1 && isFlag m.1 m.2

/-- The entry of one name, with its flag if it has one. -/
def alone (q : Requirements) (name : String) : Requirements where
  members := q.members.filter fun m => m.1 == name || isFlagOf name m
  nodup := (List.Sublist.map _ List.filter_sublist).nodup q.nodup

/-- What an entry makes. -/
def entry (q : Requirements) (m : String × Value) : Run Built :=
  entryRun builtinMakers q.document (.text m.1, m.2)

theorem entry_built (q : Requirements) (m : String × Value) :
    Run.Ensures (EntryBuilt builtinMakers q.document m.1 m.2) (q.entry m) :=
  entryRun_built builtinMakers q.document m.1 m.2

theorem mem_document_iff (q : Requirements) {name : String} {param : Value} :
    (.text name, param) ∈ q.document ↔ (name, param) ∈ q.members := by
  simp [document]

theorem keyed_document (q : Requirements) : KeyedByTexts q.document := by
  have hkeys : q.document.map (·.1) = (q.members.map (·.1)).map Scalar.text := by
    simp [document, Function.comp_def]
  refine ⟨fun m hm => ?_, ?_⟩
  · obtain ⟨p, -, rfl⟩ := List.mem_map.mp hm
    exact ⟨p.1, rfl⟩
  · rw [hkeys]
    exact q.nodup.map fun _ _ => Scalar.text.inj

theorem get?_document (q : Requirements) (name : String) :
    Ordered.get? (.text name) q.document = Ordered.get? name q.members :=
  Ordered.get?_map_text q.members name

theorem get?_members_iff (q : Requirements) {name : String} {param : Value} :
    Ordered.get? name q.members = some param ↔ (name, param) ∈ q.members :=
  Ordered.get?_eq_some_iff (Ordered.told_of_lawful _) q.nodup

theorem flag_of_flagBeside? {name flag : String} (h : flagBeside? name = some flag) (on : Bool) :
    isFlag flag (.bool on) = true := by
  unfold flagBeside? at h
  split at h <;> cases h <;> rfl

/-- The second argument of a maker is the same when its flag is. -/
theorem secondFor_congr {q q' : Requirements} {name : String}
    (h : ∀ flag, flagBeside? name = some flag →
      ((flag, Value.bool true) ∈ q.members ↔ (flag, Value.bool true) ∈ q'.members)) :
    secondFor name q.document = secondFor name q'.document := by
  unfold secondFor
  cases hflag : flagBeside? name with
  | none => rfl
  | some flag =>
    have hiff := h flag hflag
    rw [← get?_members_iff, ← get?_members_iff] at hiff
    simp only [get?_document]
    split
    · next hon => rw [hiff.mp hon]
    · next hoff =>
      split
      · next hon => exact absurd (hiff.mpr hon) hoff
      · rfl

theorem secondFor_alone (q : Requirements) (name : String) :
    secondFor name (q.alone name).document = secondFor name q.document := by
  refine secondFor_congr fun flag hflag => ?_
  have hkeep : isFlagOf name (flag, .bool true) = true := by
    rw [isFlagOf, hflag, flag_of_flagBeside? hflag true, beq_self_eq_true]
    rfl
  unfold alone
  rw [List.mem_filter, hkeep, Bool.or_true]
  simp

theorem entry_perm {q q' : Requirements} (h : q.members.Perm q'.members) : q.entry = q'.entry := by
  funext m
  exact entryRun_of_second (secondFor_congr fun flag _ => h.mem_iff)

/-- The entries of a document that is built, with what they make. -/
theorem build_entries {r : Registry Maker} {q : Requirements} {b : Built}
    (h : (r.build q.document).result = .ok b) : ∃ made : String × Value → Built,
      (∀ m ∈ q.members, EntryBuilt r.entries q.document m.1 m.2 (made m)) ∧
        b = ⟨q.members.flatMap fun m => (made m).rules, q.members.flatMap fun m => (made m).unknown⟩ := by
  obtain ⟨returns, rfl⟩ := buildMembers_ok_iff.mp h
  refine ⟨fun m => (entryRun r.entries q.document (.text m.1, m.2)).value, fun m hm => ?_, ?_⟩
  · have hm' : (Scalar.text m.1, m.2) ∈ q.document := List.mem_map_of_mem hm
    exact entryRun_built r.entries q.document m.1 m.2 _ (returns _ hm').result_eq
  · rw [document, List.flatMap_map, List.flatMap_map]

theorem flatMap_filter {α β : Type} (keep : α → Bool) (f : α → List β) (xs : List α) :
    (xs.filter keep).flatMap f = xs.flatMap fun x => if keep x then f x else [] := by
  induction xs with
  | nil => rfl
  | cons x rest ih =>
    rw [List.filter_cons, List.flatMap_cons, ← ih]
    cases keep x <;> rfl

theorem flatMap_name_eq (q : Requirements) (keep : String × Value → Bool) :
    (q.members.flatMap fun m => if keep m then [m.1] else []) =
      (q.members.filter keep).map (·.1) := by
  rw [← flatMap_filter, List.map_eq_flatMap]

/-- The names of the rules and the unknown names of a document, in its order. -/
theorem build_names {r : Registry Maker} {q : Requirements} {b : Built}
    (h : (r.build q.document).result = .ok b) :
    b.rules.map (·.1) =
      (q.members.filter fun m => !isFlag m.1 m.2 && r.contains m.1).map (·.1) ∧
    b.unknown = (q.members.filter fun m => !isFlag m.1 m.2 && !r.contains m.1).map (·.1) := by
  obtain ⟨made, entries, rfl⟩ := build_entries h
  rw [← flatMap_name_eq, ← flatMap_name_eq, List.map_flatMap]
  exact ⟨List.flatMap_congr fun m hm => (entries m hm).rules_names,
    List.flatMap_congr fun m hm => (entries m hm).unknown_eq⟩

theorem build_ok_iff {q : Requirements} {b : Built} :
    (Registry.builtin.build q.document).result = .ok b ↔
      (∀ m ∈ q.members, (q.entry m).Returns) ∧
        b = ⟨q.members.flatMap fun m => (q.entry m).value.rules,
          q.members.flatMap fun m => (q.entry m).value.unknown⟩ := by
  show (buildMembers builtinMakers q.document q.document).result = .ok b ↔ _
  rw [buildMembers_ok_iff]
  unfold entry document
  rw [List.forall_mem_map, List.flatMap_map, List.flatMap_map]

/-- The rules of a document have names of their own. -/
theorem nodup_rules {r : Registry Maker} {q : Requirements} {b : Built}
    (h : (r.build q.document).result = .ok b) : (b.rules.map (·.1)).Nodup := by
  rw [(build_names h).1]
  exact (List.filter_sublist.map _).nodup q.nodup

/-- The rules of a document report apart. -/
theorem rules_apart {q : Requirements} {b : Built}
    (h : (Registry.builtin.build q.document).result = .ok b) : NamedApart b.rules := by
  refine ⟨fun p hp => ?_, nodup_rules h⟩
  obtain ⟨made, entries, rfl⟩ := build_entries h
  obtain ⟨m, hm, hp⟩ := List.mem_flatMap.mp hp
  exact (entries m hm).reports hp

/-- The order of the entries decides only the order of the rules. -/
theorem build_perm {q q' : Requirements} (hp : q.members.Perm q'.members) {b : Built}
    (h : (Registry.builtin.build q.document).result = .ok b) :
    ∃ b', (Registry.builtin.build q'.document).result = .ok b' ∧ b.rules.Perm b'.rules := by
  obtain ⟨returns, rfl⟩ := build_ok_iff.mp h
  rw [entry_perm hp] at returns ⊢
  refine ⟨_, build_ok_iff.mpr ⟨fun m hm => returns m (hp.mem_iff.mpr hm), rfl⟩, ?_⟩
  exact hp.flatMap_right _

/-- An entry alone makes what it makes in the whole document. -/
theorem build_alone {q : Requirements} {b : Built}
    (h : (Registry.builtin.build q.document).result = .ok b) (name : String) :
    ∃ b', (Registry.builtin.build (q.alone name).document).result = .ok b' ∧
      b'.rules = b.rules.filter (·.1 == name) := by
  obtain ⟨returns, rfl⟩ := build_ok_iff.mp h
  -- the entry of the name is built as before, and its flag makes nothing
  have hentry : ∀ m, m.1 = name → (q.alone name).entry m = q.entry m := by
    rintro m rfl
    exact entryRun_of_second (q.secondFor_alone m.1)
  have hflag : ∀ m, isFlagOf name m = true → (q.alone name).entry m = .ret ⟨[], []⟩ := by
    intro m hm
    exact entryRun_of_flag (Bool.and_eq_true_iff.mp hm).2
  refine ⟨_, build_ok_iff.mpr ⟨fun m hm => ?_, rfl⟩, ?_⟩
  · obtain ⟨hmem, hkeep⟩ := List.mem_filter.mp hm
    rcases Bool.or_eq_true_iff.mp hkeep with hname | hm
    · rw [hentry m (beq_iff_eq.mp hname)]
      exact returns m hmem
    · rw [hflag m hm]
      exact Run.returns_ret _
  · show (List.filter _ q.members).flatMap _ = List.filter _ (q.members.flatMap _)
    rw [flatMap_filter, List.filter_flatMap]
    refine List.flatMap_congr fun m hm => ?_
    have hbuilt := q.entry_built m _ (returns m hm).result_eq
    rw [hbuilt.filter_name]
    cases hname : m.1 == name with
    | true => rw [hentry m (beq_iff_eq.mp hname), Bool.true_or, if_pos rfl]
    | false =>
      rw [if_neg Bool.false_ne_true, Bool.false_or]
      split
      · next hkeep =>
        rw [hflag m hkeep]
        rfl
      · rfl

end Requirements

end Rulebook
