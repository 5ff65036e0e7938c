/-
# A written value is read back

What `Value.compact` writes is read by `nodeAt` up to its own end, in front of whatever may follow
a value, and the tree that is read holds the value again. The induction is on the steps that the
reader has left, of which every character of the text is good for two.

Key definitions: `Json.Value.Exact`, `Json.ReadAs`.
Key theorems: `Json.nodeAt_compact`, `Json.ofText_compact`.
-/
import SchemaMap.Json.Shape
import SchemaMap.Proofs.Json.Lexeme

namespace SchemaMap
namespace Json

open Text

/-! ### Values without parts -/

/-- A value that is written as it is: its numbers are whole and have 64 bits. -/
inductive Value.Exact : Value → Prop
  | null : Exact .null
  | bool (b : Bool) : Exact (.bool b)
  | whole {n : Nat} (h : n ≤ Numeral.maxWhole) : Exact (.whole n)
  | string (s : String) : Exact (.string s)
  | array {items : List Value} (h : ∀ v ∈ items, Exact v) : Exact (.array items)
  | object {members : List (String × Value)} (h : ∀ m ∈ members, Exact m.2) :
    Exact (.object members)

/-- What is read at `s` is the value `v`, and `rest` is left. -/
def ReadAs (o : Outcome) (v : Value) (rest : List Char) : Prop :=
  ∃ node s', o = (node, some s') ∧ node.value? = some v ∧ s'.rest = rest

theorem leafAt_null {s : Cursor} {rest : List Char} (h : s.rest = "null".toList ++ rest) :
    ReadAs (leafAt s) .null rest := by
  obtain ⟨s', hread, hs'⟩ := wordAt_append "null".toList h
  refine ⟨.null ⟨s.place, s.first, s'.place⟩, s', ?_, rfl, hs'⟩
  unfold leafAt
  simp only [hread]
  rw [h]
  rfl

theorem leafAt_bool (b : Bool) {s : Cursor} {rest : List Char}
    (h : s.rest = (Value.bool b).leafText ++ rest) : ReadAs (leafAt s) (.bool b) rest := by
  cases b with
  | true =>
    obtain ⟨s', hread, hs'⟩ := wordAt_append "true".toList h
    refine ⟨.bool ⟨s.place, s.first, s'.place⟩ true, s', ?_, rfl, hs'⟩
    unfold leafAt
    simp only [hread]
    rw [h]
    rfl
  | false =>
    obtain ⟨s', hread, hs'⟩ := wordAt_append "false".toList h
    refine ⟨.bool ⟨s.place, s.first, s'.place⟩ false, s', ?_, rfl, hs'⟩
    unfold leafAt
    simp only [hread]
    rw [h]
    rfl

theorem leafAt_string {s : Cursor} {rest : List Char} {name : String}
    (h : s.rest = quoted name.toList ++ rest) : ReadAs (leafAt s) (.string name) rest := by
  obtain ⟨s', hread, hs'⟩ := readString_quoted name h
  refine ⟨.string ⟨s.place, s.first, s'.place⟩ (.ok name), s', ?_, rfl, hs'⟩
  unfold leafAt
  rw [h, quoted, List.cons_append]
  simp only [hread]

theorem leafAt_whole {s : Cursor} {rest : List Char} {n : Nat} (hn : n ≤ Numeral.maxWhole)
    (h : s.rest = Nat.toDigits 10 n ++ rest) (hrest : EndsValue rest) :
    ReadAs (leafAt s) (.whole n) rest := by
  obtain ⟨x, s', hread, hx, hs'⟩ := numeral_digits hn h hrest
  refine ⟨.number ⟨s.place, s.first, s'.place⟩ x, s', ?_, ?_, hs'⟩
  · obtain ⟨d, ds, hd⟩ := List.exists_cons_of_ne_nil (Nat.toDigits_ne_nil (n := n) (b := 10))
    have hdigit : isAsciiDigit d = true :=
      isAsciiDigit_of_mem_toDigits (by rw [hd]; exact List.mem_cons_self)
    unfold leafAt
    rw [h, hd, List.cons_append]
    split
    · rename_i heq; cases heq
    · rename_i heq; rw [(List.cons.inj heq).1] at hdigit; exact absurd hdigit (by decide)
    · rename_i heq; rw [(List.cons.inj heq).1] at hdigit; exact absurd hdigit (by decide)
    · rename_i heq; rw [(List.cons.inj heq).1] at hdigit; exact absurd hdigit (by decide)
    · rename_i heq; rw [(List.cons.inj heq).1] at hdigit; exact absurd hdigit (by decide)
    · rename_i c cs _ _ _ _ heq
      obtain ⟨rfl, -⟩ := List.cons.inj heq
      simp only [hdigit, Bool.or_true, if_true, hread]
  · rw [Node.value?, Numeral.value?, hx]

/-! ### Lists of items and members -/

/-- Items as they stand in an array, with a comma in front of each but the first. -/
def itemsText (isFirst : Bool) : List Value → List Char
  | [] => []
  | v :: more => (if isFirst then [] else [',']) ++ (v.compact ++ itemsText false more)

/-- Members as they stand in an object, with a comma in front of each but the first. -/
def membersText (isFirst : Bool) : List (String × Value) → List Char
  | [] => []
  | (k, v) :: more =>
    (if isFirst then [] else [',']) ++
      (quoted k.toList ++ ':' :: (v.compact ++ membersText false more))

theorem compactItems_eq : ∀ items : List Value, Value.compactItems items = itemsText true items
  | [] => by rw [Value.compactItems, itemsText]
  | [v] => by simp [Value.compactItems, itemsText]
  | v :: w :: more => by
    have ih := compactItems_eq (w :: more)
    simp only [Value.compactItems, ih]
    simp [itemsText]

theorem compactMembers_eq : ∀ members : List (String × Value),
    Value.compactMembers members = membersText true members
  | [] => by rw [Value.compactMembers, membersText]
  | [(k, v)] => by simp [Value.compactMembers, membersText]
  | (k, v) :: (l, w) :: more => by
    have ih := compactMembers_eq ((l, w) :: more)
    simp only [Value.compactMembers, ih]
    simp [membersText]

/-- Whether a character starts a value. -/
def startsValue (c : Char) : Bool :=
  isAsciiDigit c || ['n', 't', 'f', '"', '[', '\x7b'].contains c

theorem compact_head {v : Value} (hv : v.Exact) :
    ∃ c cs, v.compact = c :: cs ∧ startsValue c = true := by
  cases hv with
  | null => exact ⟨'n', _, rfl, by decide⟩
  | bool b => cases b with
    | true => exact ⟨'t', _, rfl, by decide⟩
    | false => exact ⟨'f', _, rfl, by decide⟩
  | @whole n _ =>
    obtain ⟨d, ds, hd⟩ := List.exists_cons_of_ne_nil (Nat.toDigits_ne_nil (n := n) (b := 10))
    have hdigit : isAsciiDigit d = true :=
      isAsciiDigit_of_mem_toDigits (by rw [hd]; exact List.mem_cons_self)
    refine ⟨d, ds, ?_, by rw [startsValue, hdigit, Bool.true_or]⟩
    rw [← hd]
    rfl
  | string s => exact ⟨'"', _, rfl, by decide⟩
  | @array items _ => exact ⟨'[', _, by rw [Value.compact], by decide⟩
  | @object members _ => exact ⟨'\x7b', _, by rw [Value.compact], by decide⟩

theorem isSpace_of_startsValue {c : Char} (h : startsValue c = true) : Cursor.isSpace c = false := by
  unfold Cursor.isSpace
  simp only [Bool.or_eq_false_iff, beq_eq_false_iff_ne]
  refine ⟨⟨⟨?_, ?_⟩, ?_⟩, ?_⟩ <;> exact fun he => absurd h (by rw [he]; decide)

/-- An item comes next: right behind the bracket, or behind a comma. -/
theorem itemAt_of_head {isFirst : Bool} {s : Cursor} {c : Char} {cs : List Char}
    (h : s.rest = (if isFirst then [] else [',']) ++ c :: cs) (hc : startsValue c = true) :
    ∃ s', itemAt isFirst s = .ok s' ∧ s'.rest = c :: cs := by
  have hspace : Cursor.isSpace c = false := isSpace_of_startsValue hc
  have hclose : c ≠ ']' := fun he => absurd hc (by rw [he]; decide)
  cases isFirst with
  | true =>
    rw [if_pos rfl, List.nil_append] at h
    refine ⟨s, ?_, h⟩
    unfold itemAt
    rw [Cursor.skipSpace_of_head h hspace]
    simp [h]
  | false =>
    have hcomma : s.rest = ',' :: c :: cs := h
    have hnext : (s.advance 1).rest = c :: cs := by rw [Cursor.advance_rest, hcomma]; rfl
    refine ⟨s.advance 1, ?_, hnext⟩
    unfold itemAt
    rw [Cursor.skipSpace_of_head hcomma (by decide)]
    simp only [hcomma]
    rw [Cursor.skipSpace_of_head hnext hspace]
    simp [hnext, hclose]

/-- A key comes next: right behind the bracket, or behind a comma. -/
theorem keyAt_of_head {isFirst : Bool} {s : Cursor} {cs : List Char}
    (h : s.rest = (if isFirst then [] else [',']) ++ '"' :: cs) :
    ∃ s', keyAt isFirst s = .ok s' ∧ s'.rest = '"' :: cs := by
  cases isFirst with
  | true =>
    rw [if_pos rfl, List.nil_append] at h
    refine ⟨s, ?_, h⟩
    unfold keyAt
    rw [Cursor.skipSpace_of_head h (by decide)]
    simp [h]
  | false =>
    have hcomma : s.rest = ',' :: '"' :: cs := h
    have hnext : (s.advance 1).rest = '"' :: cs := by rw [Cursor.advance_rest, hcomma]; rfl
    refine ⟨s.advance 1, ?_, hnext⟩
    unfold keyAt
    rw [Cursor.skipSpace_of_head hcomma (by decide)]
    simp only [hcomma]
    rw [Cursor.skipSpace_of_head hnext (by decide)]
    simp [hnext]

/-- The closing bracket comes next. -/
theorem itemAt_close (isFirst : Bool) {s : Cursor} {rest : List Char} (h : s.rest = ']' :: rest) :
    itemAt isFirst s = .error (.closed (s.advance 1).place) := by
  unfold itemAt
  rw [Cursor.skipSpace_of_head h (by decide)]
  simp [h]

theorem keyAt_close (isFirst : Bool) {s : Cursor} {rest : List Char}
    (h : s.rest = '\x7d' :: rest) : keyAt isFirst s = .error (.closed (s.advance 1).place) := by
  unfold keyAt
  rw [Cursor.skipSpace_of_head h (by decide)]
  simp [h]

/-- Behind the bracket that closes a list. -/
theorem endOf_closed {s : Cursor} {c : Char} {rest : List Char} (h : s.rest = c :: rest)
    (hc : Cursor.isSpace c = false) (m : Mark) :
    endOf s (.closed m) = some (s.advance 1) := by
  unfold endOf
  rw [Cursor.skipSpace_of_head h hc]

theorem behindColon_of_head {s : Cursor} {c : Char} {cs : List Char} (h : s.rest = ':' :: c :: cs)
    (hc : Cursor.isSpace c = false) :
    ∃ s', behindColon s = .ok s' ∧ s'.rest = c :: cs := by
  have hnext : (s.advance 1).rest = c :: cs := by rw [Cursor.advance_rest, h]; rfl
  refine ⟨s.advance 1, ?_, hnext⟩
  unfold behindColon
  rw [Cursor.skipSpace_of_head hnext hc]
  simp [h]

/-! ### Whole values -/

theorem itemsText_endsValue {items : List Value} (rest : List Char) :
    EndsValue (itemsText false items ++ ']' :: rest) := by
  cases items with
  | nil => exact endsValue_cons (by decide) rest
  | cons v more => exact endsValue_cons (by decide) _

theorem membersText_endsValue {members : List (String × Value)} (rest : List Char) :
    EndsValue (membersText false members ++ '\x7d' :: rest) := by
  cases members with
  | nil => exact endsValue_cons (by decide) rest
  | cons m more => exact endsValue_cons (by decide) _

/-- The reader takes what starts like a value without parts for one. -/
theorem nodeAt_leaf {fuel : Nat} {s : Cursor} {c : Char} {cs : List Char} (h : s.rest = c :: cs)
    (harray : c ≠ '[') (hobject : c ≠ '\x7b') : nodeAt (fuel + 1) s = leafAt s := by
  rw [nodeAt, h]
  split
  · rename_i heq; exact absurd (List.cons.inj heq).1 harray
  · rename_i heq; exact absurd (List.cons.inj heq).1 hobject
  · rfl

mutual

/-- **A written value is read as it was written**, in front of whatever may follow a value. Each
character of the text is good for two steps of the reader. -/
theorem nodeAt_compact : ∀ (fuel : Nat) {v : Value} {s : Cursor} {rest : List Char}, v.Exact →
    s.rest = v.compact ++ rest → EndsValue rest → 2 * v.compact.length ≤ fuel →
    ReadAs (nodeAt fuel s) v rest
  | 0, v, _, _, hv, _, _, hf => by
    obtain ⟨c, cs, hc, -⟩ := compact_head hv
    rw [hc, List.length_cons] at hf
    omega
  | fuel + 1, v, s, rest, hv, h, hrest, hf => by
    cases hv with
    | null =>
      rw [nodeAt_leaf (c := 'n') h (by decide) (by decide)]
      exact leafAt_null h
    | bool b =>
      have hleaf : nodeAt (fuel + 1) s = leafAt s := by
        cases b with
        | true => exact nodeAt_leaf (c := 't') h (by decide) (by decide)
        | false => exact nodeAt_leaf (c := 'f') h (by decide) (by decide)
      rw [hleaf]
      exact leafAt_bool b h
    | @whole n hn =>
      obtain ⟨d, ds, hd⟩ := List.exists_cons_of_ne_nil (Nat.toDigits_ne_nil (n := n) (b := 10))
      have hdigit : isAsciiDigit d = true :=
        isAsciiDigit_of_mem_toDigits (by rw [hd]; exact List.mem_cons_self)
      have htext : (Value.whole n).compact = Nat.toDigits 10 n := rfl
      have hfirst : s.rest = d :: (ds ++ rest) := by rw [h, htext, hd, List.cons_append]
      rw [nodeAt_leaf hfirst (ne_of_class (by decide) hdigit) (ne_of_class (by decide) hdigit)]
      exact leafAt_whole hn h hrest
    | string name =>
      rw [nodeAt_leaf (c := '"') h (by decide) (by decide)]
      exact leafAt_string h
    | @array items hitems =>
      rw [Value.compact, compactItems_eq] at h hf
      have hfirst : s.rest = '[' :: (itemsText true items ++ ']' :: rest) := by simp [h]
      have hnext : (s.advance 1).rest = itemsText true items ++ ']' :: rest := by
        rw [Cursor.advance_rest, hfirst]
        rfl
      have hfuel : 2 * (itemsText true items).length + 1 ≤ fuel := by
        simp only [List.length_cons, List.length_append, List.length_nil] at hf
        omega
      obtain ⟨nodes, m, s', hread, hvalues, hs'⟩ := itemsAt_text fuel hitems hnext hfuel
      refine ⟨.array ⟨s.place, s.first, s'.place⟩ nodes (.closed m), s', ?_, ?_, hs'⟩
      · rw [nodeAt, hfirst]
        simp only [hread]
        rfl
      · rw [Node.value?, hvalues]
        rfl
    | @object members hmembers =>
      rw [Value.compact, compactMembers_eq] at h hf
      have hfirst : s.rest = '\x7b' :: (membersText true members ++ '\x7d' :: rest) := by simp [h]
      have hnext : (s.advance 1).rest = membersText true members ++ '\x7d' :: rest := by
        rw [Cursor.advance_rest, hfirst]
        rfl
      have hfuel : 2 * (membersText true members).length + 1 ≤ fuel := by
        simp only [List.length_cons, List.length_append, List.length_nil] at hf
        omega
      obtain ⟨nodes, m, s', hread, hvalues, hs'⟩ := membersAt_text fuel hmembers hnext hfuel
      refine ⟨.object ⟨s.place, s.first, s'.place⟩ nodes (.closed m), s', ?_, ?_, hs'⟩
      · rw [nodeAt, hfirst]
        simp only [hread]
        rfl
      · rw [Node.value?, hvalues]
        rfl

/-- Items are read up to the bracket that closes them. -/
theorem itemsAt_text : ∀ (fuel : Nat) {isFirst : Bool} {items : List Value} {s : Cursor}
    {rest : List Char}, (∀ v ∈ items, v.Exact) → s.rest = itemsText isFirst items ++ ']' :: rest →
    2 * (itemsText isFirst items).length + 1 ≤ fuel →
    ∃ nodes m s', itemsAt fuel isFirst s = (nodes, .closed m, some s') ∧
      itemValues? nodes = some items ∧ s'.rest = rest
  | 0, _, _, _, _, _, _, hf => absurd hf (by omega)
  | fuel + 1, isFirst, [], s, rest, _, h, _ => by
    rw [itemsText, List.nil_append] at h
    have hnext : (s.advance 1).rest = rest := by rw [Cursor.advance_rest, h]; rfl
    refine ⟨[], (s.advance 1).place, s.advance 1, ?_, rfl, hnext⟩
    rw [itemsAt, itemAt_close isFirst h]
    simp only [endOf_closed h (by decide)]
  | fuel + 1, isFirst, v :: more, s, rest, hitems, h, hf => by
    obtain ⟨hv, hmore⟩ := List.forall_mem_cons.1 hitems
    obtain ⟨c, cs, hc, hstart⟩ := compact_head hv
    have hlen : 2 * v.compact.length ≤ fuel ∧ 2 * (itemsText false more).length + 1 ≤ fuel := by
      have hpos : 0 < v.compact.length := by rw [hc]; exact Nat.succ_pos _
      simp only [itemsText, List.length_append] at hf
      omega
    have hfirst : s.rest = (if isFirst then [] else [',']) ++
        c :: (cs ++ (itemsText false more ++ ']' :: rest)) := by
      rw [h, itemsText, hc]
      simp
    obtain ⟨s₁, hitem, hs₁⟩ := itemAt_of_head hfirst hstart
    have hvalue : s₁.rest = v.compact ++ (itemsText false more ++ ']' :: rest) := by
      rw [hs₁, hc, List.cons_append]
    obtain ⟨node, s₂, hnode, hnodeValue, hs₂⟩ :=
      nodeAt_compact fuel hv hvalue (itemsText_endsValue rest) hlen.1
    obtain ⟨nodes, m, s₃, hread, hvalues, hs₃⟩ := itemsAt_text fuel hmore hs₂ hlen.2
    refine ⟨node :: nodes, m, s₃, ?_, ?_, hs₃⟩
    · rw [itemsAt, hitem]
      simp only [hnode, hread]
    · rw [itemValues?, hnodeValue, hvalues]

/-- Members are read up to the bracket that closes them. -/
theorem membersAt_text : ∀ (fuel : Nat) {isFirst : Bool} {members : List (String × Value)}
    {s : Cursor} {rest : List Char}, (∀ m ∈ members, m.2.Exact) →
    s.rest = membersText isFirst members ++ '\x7d' :: rest →
    2 * (membersText isFirst members).length + 1 ≤ fuel →
    ∃ nodes m s', membersAt fuel isFirst s = (nodes, .closed m, some s') ∧
      memberValues? nodes = some members ∧ s'.rest = rest
  | 0, _, _, _, _, _, _, hf => absurd hf (by omega)
  | fuel + 1, isFirst, [], s, rest, _, h, _ => by
    rw [membersText, List.nil_append] at h
    have hnext : (s.advance 1).rest = rest := by rw [Cursor.advance_rest, h]; rfl
    refine ⟨[], (s.advance 1).place, s.advance 1, ?_, rfl, hnext⟩
    rw [membersAt, keyAt_close isFirst h]
    simp only [endOf_closed h (by decide)]
  | fuel + 1, isFirst, (k, v) :: more, s, rest, hmembers, h, hf => by
    obtain ⟨hv, hmore⟩ := List.forall_mem_cons.1 hmembers
    obtain ⟨c, cs, hc, hstart⟩ := compact_head hv
    have hlen : 2 * v.compact.length ≤ fuel ∧ 2 * (membersText false more).length + 1 ≤ fuel := by
      have hpos : 0 < v.compact.length := by rw [hc]; exact Nat.succ_pos _
      simp only [membersText, List.length_append, List.length_cons] at hf
      omega
    have hfirst : s.rest = (if isFirst then [] else [',']) ++ '"' ::
        (k.toList.flatMap escapedChar ++ ('"' :: ':' ::
          (v.compact ++ (membersText false more ++ '\x7d' :: rest)))) := by
      rw [h, membersText, quoted]
      simp
    obtain ⟨s₁, hkey, hs₁⟩ := keyAt_of_head hfirst
    have hquoted : s₁.rest = quoted k.toList ++ (':' ::
        (v.compact ++ (membersText false more ++ '\x7d' :: rest))) := by
      rw [hs₁, quoted]
      simp
    obtain ⟨s₂, hname, hs₂⟩ := readString_quoted k hquoted
    have hcolonText : s₂.rest = ':' :: c :: (cs ++ (membersText false more ++ '\x7d' :: rest)) := by
      rw [hs₂, hc, List.cons_append]
    obtain ⟨s₃, hcolon, hs₃⟩ := behindColon_of_head hcolonText (isSpace_of_startsValue hstart)
    have hvalue : s₃.rest = v.compact ++ (membersText false more ++ '\x7d' :: rest) := by
      rw [hs₃, hc, List.cons_append]
    obtain ⟨node, s₄, hnode, hnodeValue, hs₄⟩ :=
      nodeAt_compact fuel hv hvalue (membersText_endsValue rest) hlen.1
    obtain ⟨nodes, m, s₅, hread, hvalues, hs₅⟩ := membersAt_text fuel hmore hs₄ hlen.2
    refine ⟨(.text (.ok k) s₂.place (behindKey s₂) s₄.skipSpace.place, node) :: nodes, m, s₅, ?_, ?_,
      hs₅⟩
    · rw [membersAt, hkey]
      simp only [hs₁, hname, Cursor.skipSpace_of_head hs₂ (by decide), hcolon, hnode, hread]
    · rw [memberValues?, hnodeValue, hvalues]

end

/-- **A text that was written for a value is read as one document that holds the value.** -/
theorem ofText_compact {v : Value} (hv : v.Exact) :
    ∃ node, Document.ofText v.compact = ⟨node, none⟩ ∧ node.value? = some v := by
  obtain ⟨c, cs, hc, hstart⟩ := compact_head hv
  have hspace : Cursor.skipSpace ⟨⟨1, 0⟩, v.compact⟩ = ⟨⟨1, 0⟩, v.compact⟩ :=
    Cursor.skipSpace_of_head hc (isSpace_of_startsValue hstart)
  have hrest : (⟨⟨1, 0⟩, v.compact⟩ : Cursor).rest = v.compact ++ [] := (List.append_nil _).symm
  obtain ⟨node, s', hread, hvalue, hs'⟩ :=
    nodeAt_compact (2 * v.compact.length + 2) hv hrest endsValue_nil (by omega)
  refine ⟨node, ?_, hvalue⟩
  have hend : s'.skipSpace.rest = [] := by
    rw [Cursor.skipSpace, Cursor.advance_rest, hs', List.drop_nil]
  unfold Document.ofText
  rw [hspace, hread]
  simp [hend]

end Json
end SchemaMap
