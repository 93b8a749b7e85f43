import Rulebook.Proofs.Json.Tokens

/-!
Reading back what is written. The characters written for a value denote it: whatever may follow them, the
reader takes off just these and gives the value. This goes by the structure of the value. The items of a list and
the members of an object are read by loops that differ in the brackets and in what a part is, so both are cases of
parts that are enclosed between two brackets.
-/

namespace Rulebook

/-- A scalar of which a document has an exact spelling: no float, and no integer that is too long. -/
def Scalar.IsExact : Scalar → Prop
  | .missing => False
  | .number (.int n) => (Nat.toDigits 10 n.natAbs).length ≤ maxDigits
  | .number (.float _) => False
  | _ => True

abbrev Value.IsExact : Value → Prop := Value.Over Scalar.IsExact

namespace Json

/-! ## Blanks -/

def Blank (cs : List Char) : Prop := ∀ c ∈ cs, isSpace c = true

theorem skipSpace_append {bs : List Char} (h : Blank bs) (cs : List Char) :
    skipSpace (bs ++ cs) = skipSpace cs :=
  List.dropWhile_append_of_pos h

theorem skipSpace_cons {c : Char} (h : isSpace c = false) (cs : List Char) : skipSpace (c :: cs) = c :: cs :=
  List.dropWhile_cons_of_neg (by rw [h]; exact Bool.false_ne_true)

theorem isDigit_of_isSpace {c : Char} (h : isSpace c = true) :
    c.isDigit = false ∧ c ≠ '.' ∧ c ≠ 'e' ∧ c ≠ 'E' := by
  simp only [isSpace, Bool.or_eq_true, beq_iff_eq] at h
  rcases h with ((rfl | rfl) | rfl) | rfl <;> decide

/-- Blanks and what may follow a number may follow it. -/
theorem ends_append {bs rest : List Char} (blank : Blank bs) (ends : Ends rest) : Ends (bs ++ rest) := by
  cases bs with
  | nil => exact ends
  | cons b bs =>
    intro c hc
    obtain rfl : b = c := Option.some.inj hc
    exact isDigit_of_isSpace (blank b (List.mem_cons_self ..))

theorem ends_cons {c : Char} (h : c ∈ [',', ']', '\x7d']) (rest : List Char) : Ends (c :: rest) := by
  intro d hd
  obtain rfl : c = d := Option.some.inj hd
  simp only [List.mem_cons, List.not_mem_nil, or_false] at h
  rcases h with rfl | rfl | rfl <;> decide

theorem skipSpace_blank_cons {bs : List Char} (blank : Blank bs) {c : Char} (h : isSpace c = false)
    (cs : List Char) : skipSpace (bs ++ c :: cs) = c :: cs := by
  rw [skipSpace_append blank, skipSpace_cons h]

/-! ## What is written for a value -/

/-- Whether a value can start with a character. -/
def opens (c : Char) : Bool := !isSpace c && c != ']' && c != '\ufeff'

/-- Characters that denote a value: they open one, and the reader takes off just these. -/
structure Denotes (cs : List Char) (v : Value) : Prop where
  head : ∃ c more, cs = c :: more ∧ opens c = true
  reads : ∀ {fuel : Nat} {rest : List Char}, cs.length ≤ fuel → Ends rest →
    value fuel (cs ++ rest) = .ok (v, rest)

theorem Denotes.skipSpace {cs : List Char} {v : Value} (h : Denotes cs v) (rest : List Char) :
    skipSpace (cs ++ rest) = cs ++ rest := by
  obtain ⟨c, more, rfl, hc⟩ := h.head
  simp only [opens, Bool.and_eq_true, Bool.not_eq_true'] at hc
  exact skipSpace_cons hc.1.1 _

/-- A whole document that denotes a value is read as it, with blanks around it. -/
theorem Denotes.document {cs : List Char} {v : Value} (h : Denotes cs v) : document cs = .ok v := by
  have hskip := h.skipSpace []
  have hreads : value (2 * cs.length + 1) (cs ++ []) = .ok (v, []) := h.reads (by omega) (by rintro c ⟨⟩)
  rw [List.append_nil] at hskip hreads
  obtain ⟨c, more, rfl, hc⟩ := h.head
  simp only [opens, Bool.and_eq_true, bne_iff_ne] at hc
  unfold Json.document
  split
  · next heq => exact absurd (List.cons.inj heq).1 hc.2
  · rw [hskip, hreads]
    rfl

/-! ### Scalars -/

theorem ne_of_isDigit {c : Char} (h : c.isDigit = true) {d : Char} (hd : d.isDigit = false) : c ≠ d := by
  rintro rfl
  exact Bool.false_ne_true (hd.symm.trans h)

/-- What starts with a digit, or a minus and a digit, is none of the words. -/
theorem scalar_of_isDigit {c : Char} (h : c.isDigit = true) (cs : List Char) :
    scalar (c :: cs) = number (c :: cs) ∧ scalar ('-' :: c :: cs) = number ('-' :: c :: cs) := by
  have hne {d : Char} (hd : d.isDigit = false) : d ≠ c := (ne_of_isDigit h hd).symm
  constructor <;>
    simp [scalar, words, afterWord?, hne (rfl : 'n'.isDigit = false), hne (rfl : 't'.isDigit = false),
      hne (rfl : 'f'.isDigit = false), hne (rfl : 'N'.isDigit = false), hne (rfl : 'I'.isDigit = false),
      hne (rfl : '-'.isDigit = false)]

theorem value_eq_scalar {c : Char} (h : c ∉ ['"', '[', '\x7b']) (fuel : Nat) (cs : List Char) :
    value (fuel + 1) (c :: cs) = scalar (c :: cs) := by
  simp only [List.mem_cons, List.not_mem_nil, or_false, not_or] at h
  obtain ⟨hquote, hbracket, hbrace⟩ := h
  rw [value]
  · exact fun _ heq => hquote (List.cons.inj heq).1
  · exact fun _ heq => hbracket (List.cons.inj heq).1
  · exact fun _ heq => hbrace (List.cons.inj heq).1

theorem denotes_cons {c : Char} {more : List Char} {v : Value} (head : opens c = true)
    (reads : ∀ {fuel : Nat} {rest : List Char}, more.length ≤ fuel → Ends rest →
      value (fuel + 1) (c :: (more ++ rest)) = .ok (v, rest)) : Denotes (c :: more) v := by
  refine ⟨⟨c, more, rfl, head⟩, fun {fuel rest} hfuel ends => ?_⟩
  obtain ⟨fuel, rfl⟩ := Nat.exists_eq_add_one_of_ne_zero (Nat.ne_of_gt (Nat.zero_lt_of_lt hfuel))
  exact reads (Nat.le_of_succ_le_succ hfuel) ends

theorem denotes_null : Denotes "null".toList .null := by
  show Denotes ['n', 'u', 'l', 'l'] .null
  exact denotes_cons rfl fun _ _ => rfl

theorem denotes_bool (b : Bool) : Denotes (if b then "true" else "false").toList (.bool b) := by
  cases b with
  | true =>
    show Denotes ['t', 'r', 'u', 'e'] (.bool true)
    exact denotes_cons rfl fun _ _ => rfl
  | false =>
    show Denotes ['f', 'a', 'l', 's', 'e'] (.bool false)
    exact denotes_cons rfl fun _ _ => rfl

theorem denotes_int {n : Int} (h : (Scalar.number (.int n)).IsExact) :
    Denotes (toString n).toList (.int n) := by
  have hnumber {rest : List Char} (ends : Ends rest) := number_toString n ends h
  obtain ⟨c, cs, hcs⟩ := List.exists_cons_of_ne_nil (Nat.toDigits_ne_nil (n := n.natAbs) (b := 10))
  have hdigit : c.isDigit = true := digits_toDigits n.natAbs c (by rw [hcs]; exact List.mem_cons_self ..)
  have hother {d : Char} (hd : d.isDigit = false) : c ≠ d := ne_of_isDigit hdigit hd
  rw [toList_toString, hcs] at hnumber ⊢
  by_cases hn : n < 0
  · rw [if_pos hn] at hnumber ⊢
    refine denotes_cons rfl fun _ ends => ?_
    rw [List.cons_append, value_eq_scalar (by decide), (scalar_of_isDigit hdigit _).2]
    exact hnumber ends
  · rw [if_neg hn] at hnumber ⊢
    refine denotes_cons ?_ fun _ ends => ?_
    · simp [opens, isSpace, hother (rfl : ' '.isDigit = false), hother (rfl : '\t'.isDigit = false),
        hother (rfl : '\n'.isDigit = false), hother (rfl : '\r'.isDigit = false),
        hother (rfl : ']'.isDigit = false), hother (rfl : '\ufeff'.isDigit = false)]
    · rw [value_eq_scalar, (scalar_of_isDigit hdigit _).1]
      · exact hnumber ends
      · simp [hother (rfl : '"'.isDigit = false), hother (rfl : '['.isDigit = false),
          hother (rfl : '\x7b'.isDigit = false)]

theorem toList_text (style : Style) (s : String) :
    (style.text s).toList = '"' :: (written style.asciiOnly s.toList ++ ['"']) := by
  rw [Style.text, String.toList_append, String.toList_append, String.toList_join, List.flatMap_map]
  rfl

theorem denotes_text (style : Style) (s : String) : Denotes (style.text s).toList (.text s) := by
  rw [toList_text]
  refine denotes_cons rfl fun {_ rest} _ _ => ?_
  rw [List.append_assoc, List.singleton_append, value, text_written]
  rfl

theorem denotes_scalar (style : Style) {s : Scalar} (h : s.IsExact) :
    Denotes (style.scalar s).toList (.scalar s) := by
  cases s with
  | missing => exact h.elim
  | null => exact denotes_null
  | bool b => exact denotes_bool b
  | number n =>
    cases n with
    | int n => exact denotes_int h
    | float x => exact h.elim
  | text s => exact denotes_text style s

/-! ### Lists and objects -/

/-- A reader of parts, given those before in reverse. -/
abbrev Loop (α : Type) := Nat → List α → List Char → Except Stop (Reading Value)

/-- What stands between two brackets: parts with commas between them, which a loop reads up to the closing
bracket. -/
structure Enclosed {α : Type} (opening close : Char) (loop : Loop α) (part : List Char → α → Prop)
    (finish : List α → Value) : Prop where
  opener : opens opening = true
  closer : close ∈ [']', '\x7d']
  enter : ∀ {fuel : Nat} {cs more : List Char} {c : Char}, skipSpace cs = c :: more → c ≠ close →
    value (fuel + 1) (opening :: cs) = loop fuel [] (c :: more)
  empty : ∀ (fuel : Nat) (rest : List Char),
    value (fuel + 1) (opening :: close :: rest) = .ok (finish [], rest)
  head : ∀ {cs : List Char} {a : α}, part cs a →
    ∃ c more, cs = c :: more ∧ isSpace c = false ∧ c ≠ close
  next : ∀ {cs : List Char} {a : α}, part cs a → ∀ {fuel : Nat} {tail more : List Char}, cs.length ≤ fuel →
    Ends tail → skipSpace tail = ',' :: more → ∀ before : List α,
      loop (fuel + 1) before (cs ++ tail) = loop fuel (a :: before) (skipSpace more)
  last : ∀ {cs : List Char} {a : α}, part cs a → ∀ {fuel : Nat} {tail rest : List Char}, cs.length ≤ fuel →
    Ends tail → skipSpace tail = close :: rest → ∀ before : List α,
      loop (fuel + 1) before (cs ++ tail) = .ok (finish (a :: before).reverse, rest)

namespace Enclosed

variable {α : Type} {opening close : Char} {loop : Loop α} {part : List Char → α → Prop}
  {finish : List α → Value} {before gap after : List Char}

theorem head_intercalate (h : Enclosed opening close loop part finish) {cs : List Char} {a : α}
    (first : part cs a) (gap : List Char) (parts : List (List Char)) (tail : List Char) :
    ∃ c more, (',' :: gap).intercalate (cs :: parts) ++ tail = c :: more ∧ isSpace c = false ∧ c ≠ close := by
  obtain ⟨c, more, rfl, hc⟩ := h.head first
  cases parts with
  | nil => exact ⟨c, _, rfl, hc⟩
  | cons next parts => exact ⟨c, _, rfl, hc⟩

theorem skipSpace_intercalate (h : Enclosed opening close loop part finish) {cs : List Char} {a : α}
    (first : part cs a) (gap : List Char) (parts : List (List Char)) (tail : List Char) :
    skipSpace ((',' :: gap).intercalate (cs :: parts) ++ tail) =
      (',' :: gap).intercalate (cs :: parts) ++ tail := by
  obtain ⟨c, more, heq, hc, -⟩ := h.head_intercalate first gap parts tail
  rw [heq, skipSpace_cons hc]

theorem skipSpace_closing (h : Enclosed opening close loop part finish) (hafter : Blank after)
    (rest : List Char) : skipSpace (after ++ close :: rest) = close :: rest := by
  have hclose := h.closer
  simp only [List.mem_cons, List.not_mem_nil, or_false] at hclose
  refine skipSpace_blank_cons hafter ?_ rest
  rcases hclose with rfl | rfl <;> decide

/-- The parts are read one after another, from the first that is left to the closing bracket. -/
theorem loop_intercalate (h : Enclosed opening close loop part finish) (hgap : Blank gap)
    (hafter : Blank after) {cs : List Char} {a : α} {parts : List (List Char)} {as : List α} (first : part cs a)
    (others : List.Forall₂ part parts as) (done : List α) (rest : List Char) {fuel : Nat}
    (hfuel : ((',' :: gap).intercalate (cs :: parts)).length < fuel) :
    loop fuel done ((',' :: gap).intercalate (cs :: parts) ++ (after ++ close :: rest)) =
      .ok (finish (done.reverse ++ a :: as), rest) := by
  induction others generalizing cs a done fuel with
  | nil =>
    have hends : Ends (after ++ close :: rest) :=
      ends_append hafter (ends_cons (List.mem_cons_of_mem _ h.closer) rest)
    obtain ⟨fuel, rfl⟩ := Nat.exists_eq_add_one_of_ne_zero (Nat.ne_of_gt (Nat.zero_lt_of_lt hfuel))
    rw [List.intercalate_singleton] at hfuel ⊢
    rw [h.last first (Nat.le_of_lt_succ hfuel) hends (h.skipSpace_closing hafter rest), List.reverse_cons]
  | @cons next b parts bs hnext others ih =>
    obtain ⟨fuel, rfl⟩ := Nat.exists_eq_add_one_of_ne_zero (Nat.ne_of_gt (Nat.zero_lt_of_lt hfuel))
    rw [List.intercalate_cons_cons, List.length_append, List.length_append, List.length_cons] at hfuel
    rw [List.intercalate_cons_cons, List.append_assoc, List.append_assoc, List.cons_append]
    rw [h.next first (by omega) (ends_cons (by decide) _) (skipSpace_cons rfl _), skipSpace_append hgap,
      h.skipSpace_intercalate hnext, ih hnext _ (by omega), List.reverse_cons, List.append_assoc,
      List.singleton_append]

/-- Parts between brackets denote the value that is made of them. -/
theorem denotes (h : Enclosed opening close loop part finish) (hbefore : Blank before) (hgap : Blank gap)
    (hafter : Blank after) {parts : List (List Char)} {as : List α} (each : List.Forall₂ part parts as)
    (nonempty : parts ≠ []) :
    Denotes (opening :: (before ++ ((',' :: gap).intercalate parts ++ (after ++ [close])))) (finish as) := by
  cases each with
  | nil => exact absurd rfl nonempty
  | @cons cs a parts as first others =>
    refine denotes_cons h.opener fun {fuel rest} hfuel _ => ?_
    have hshape : before ++ ((',' :: gap).intercalate (cs :: parts) ++ (after ++ [close])) ++ rest =
        before ++ ((',' :: gap).intercalate (cs :: parts) ++ (after ++ close :: rest)) := by simp
    have hlength : ((',' :: gap).intercalate (cs :: parts)).length < fuel := by
      simp only [List.length_append, List.length_singleton] at hfuel
      omega
    obtain ⟨c, more, heq, hspace, hclose⟩ := h.head_intercalate first gap parts (after ++ close :: rest)
    have hread := h.loop_intercalate hgap hafter first others [] rest hlength
    rw [heq] at hread
    rw [hshape, heq, h.enter (by rw [skipSpace_append hbefore, skipSpace_cons hspace]) hclose]
    exact hread

end Enclosed

theorem enclosed_items : Enclosed '[' ']' items Denotes .list where
  opener := by decide
  closer := by decide
  enter h hclose := by
    rw [value, h]
    split
    · next heq => exact absurd (List.cons.inj heq).1 hclose
    · rfl
  empty _ _ := rfl
  head h := by
    obtain ⟨c, more, heq, hc⟩ := h.head
    simp only [Json.opens, Bool.and_eq_true, Bool.not_eq_true', bne_iff_ne] at hc
    exact ⟨c, more, heq, hc.1.1, hc.1.2⟩
  next h _ _ _ hfuel ends hskip before := by
    rw [items, h.reads hfuel ends]
    simp only [bind, Except.bind, hskip]
  last h _ _ _ hfuel ends hskip before := by
    rw [items, h.reads hfuel ends]
    simp only [bind, Except.bind, hskip]
    rfl

/-- Characters that denote a member: its name as a text, a colon, and after blanks its value. -/
def DenotesMember (cs : List Char) (m : Scalar × Value) : Prop :=
  ∃ asciiOnly name blanks part, m.1 = .text name ∧ Blank blanks ∧ Denotes part m.2 ∧
    cs = '"' :: (written asciiOnly name.toList ++ '"' :: ':' :: (blanks ++ part))

theorem members_append {cs : List Char} {m : Scalar × Value} (h : DenotesMember cs m) {fuel : Nat}
    {tail : List Char} (hfuel : cs.length ≤ fuel) (ends : Ends tail) (before : List (Scalar × Value)) :
    members (fuel + 1) before (cs ++ tail) =
      match skipSpace tail with
      | '\x7d' :: rest => .ok (.object (Ordered.ofList (m :: before).reverse), rest)
      | ',' :: rest => members fuel (m :: before) (skipSpace rest)
      | rest => .error ⟨.expectingComma, rest.length⟩ := by
  obtain ⟨asciiOnly, name, blanks, part, hname, hblanks, hpart, rfl⟩ := h
  obtain ⟨key, v⟩ := m
  obtain rfl : key = .text name := hname
  have hshape : '"' :: (written asciiOnly name.toList ++ '"' :: ':' :: (blanks ++ part)) ++ tail =
      '"' :: (written asciiOnly name.toList ++ '"' :: ':' :: (blanks ++ (part ++ tail))) := by simp
  have hlength : part.length ≤ fuel := by
    simp only [List.length_cons, List.length_append] at hfuel
    omega
  have hcolon : skipSpace (':' :: (blanks ++ (part ++ tail))) = ':' :: (blanks ++ (part ++ tail)) := rfl
  rw [hshape, members, text_written]
  simp only [bind, Except.bind, hcolon, skipSpace_append hblanks, hpart.skipSpace, hpart.reads hlength ends]
  rfl

theorem enclosed_members :
    Enclosed '\x7b' '\x7d' members DenotesMember fun ms => .object (Ordered.ofList ms) where
  opener := by decide
  closer := by decide
  enter h hclose := by
    rw [value, h]
    split
    · next heq => exact absurd (List.cons.inj heq).1 hclose
    · rfl
  empty _ _ := rfl
  head h := by
    obtain ⟨asciiOnly, name, blanks, part, -, -, -, rfl⟩ := h
    exact ⟨'"', _, rfl, by decide, by decide⟩
  next h _ _ _ hfuel ends hskip before := by
    rw [members_append h hfuel ends, hskip]
    rfl
  last h _ _ _ hfuel ends hskip before := by
    rw [members_append h hfuel ends, hskip]
    rfl

/-! ## Styles -/

/-- A style that puts blanks alone around its commas and colons. -/
structure Style.Plain (style : Style) : Prop where
  comma : ∃ blanks, Blank blanks ∧ style.comma.toList = ',' :: blanks
  colon : ∃ blanks, Blank blanks ∧ style.colon.toList = ':' :: blanks

theorem plain_indentedStyle : indentedStyle.Plain where
  comma := ⟨[], by rintro c ⟨⟩, rfl⟩
  colon := ⟨[' '], List.forall_mem_singleton.mpr rfl, rfl⟩

variable {style : Style}

theorem blank_lineBreak (style : Style) (level : Nat) : Blank (style.lineBreak level).toList := by
  unfold Style.lineBreak
  split
  · rintro c ⟨⟩
  · intro c hc
    rw [String.toList_append, List.mem_append] at hc
    rcases hc with hc | hc
    · obtain rfl : c = '\n' := List.mem_singleton.mp hc
      rfl
    · rw [String.toList_ofList] at hc
      obtain rfl : c = ' ' := List.eq_of_mem_replicate hc
      rfl

theorem values_eq_map (style : Style) (level : Nat) (items : List Value) :
    style.values level items = items.map (style.value level) := by
  induction items with
  | nil => rfl
  | cons v items ih => rw [Style.values, ih, List.map_cons]

theorem members_eq_map (style : Style) (level : Nat) (members : List (Scalar × Value)) :
    style.members level members =
      members.map fun m => style.key m.1 ++ style.colon ++ style.value level m.2 := by
  induction members with
  | nil => rfl
  | cons m members ih => rw [Style.members, ih, List.map_cons]

theorem blank_append {bs cs : List Char} (hbs : Blank bs) (hcs : Blank cs) : Blank (bs ++ cs) :=
  List.forall_mem_append.mpr ⟨hbs, hcs⟩

/-- Parts that are enclosed in a style denote the value that is made of them. -/
theorem Style.Plain.denotes_enclose (plain : style.Plain) {α : Type} {opening close : Char}
    {loop : Loop α} {part : List Char → α → Prop} {finish : List α → Value}
    (h : Enclosed opening close loop part finish) {write : α → String} {as : List α}
    (each : ∀ a ∈ as, part (write a).toList a) (level : Nat) :
    Denotes (style.enclose level (String.singleton opening) (String.singleton close) (as.map write)).toList
      (finish as) := by
  obtain ⟨blanks, hblanks, hcomma⟩ := plain.comma
  unfold Style.enclose
  cases as with
  | nil =>
    rw [List.map_nil, List.isEmpty_nil, if_pos rfl, String.toList_append, String.toList_singleton,
      String.toList_singleton]
    exact denotes_cons h.opener fun _ _ => h.empty _ _
  | cons a as =>
    have hparts : List.Forall₂ part (((a :: as).map write).map String.toList) (a :: as) := by
      rw [List.map_map, List.forall₂_map_left_iff, List.forall₂_same]
      exact each
    have hdenotes := h.denotes (blank_lineBreak style (level + 1))
      (blank_append hblanks (blank_lineBreak style (level + 1))) (blank_lineBreak style level) hparts
      (List.cons_ne_nil _ _)
    rw [List.map_cons, List.isEmpty_cons, if_neg Bool.false_ne_true, ← List.map_cons]
    simp only [String.toList_append, String.toList_singleton, String.toList_intercalate, hcomma,
      List.cons_append, List.nil_append, List.append_assoc] at hdenotes ⊢
    exact hdenotes

theorem denotes_member (plain : style.Plain) {m : Scalar × Value} (hkey : ∃ name, m.1 = .text name)
    {s : String} (h : Denotes s.toList m.2) : DenotesMember (style.key m.1 ++ style.colon ++ s).toList m := by
  obtain ⟨blanks, hblanks, hcolon⟩ := plain.colon
  obtain ⟨name, hname⟩ := hkey
  refine ⟨style.asciiOnly, name, blanks, s.toList, hname, hblanks, h, ?_⟩
  rw [hname, Style.key, String.toList_append, String.toList_append, toList_text, hcolon]
  simp

/-- What a plain style writes for an exact value denotes it, at each level of nesting. -/
theorem denotes_value (plain : style.Plain) {v : Value} (h : v.IsExact) (level : Nat) :
    Denotes (style.value level v).toList v := by
  induction h generalizing level with
  | scalar h => exact denotes_scalar style h
  | list each ih =>
    rw [Style.value, values_eq_map]
    exact plain.denotes_enclose enclosed_items (fun v hv => ih v hv (level + 1)) level
  | @object members keyed each ih =>
    have hmap : Ordered.ofList members = members :=
      Ordered.union_eq_append (m := []) keyed.told keyed.nodup
    have hdenotes := plain.denotes_enclose enclosed_members
      (fun m hm => denotes_member plain (keyed.texts m hm) (ih m hm (level + 1))) level
    rw [hmap] at hdenotes
    rw [Style.value, members_eq_map]
    exact hdenotes

/-- So a printed document is read as what was printed. -/
theorem document_print (plain : style.Plain) {v : Value} (h : v.IsExact) :
    document (print style v).toList = .ok v :=
  (denotes_value plain h 0).document

end Json
end Rulebook
