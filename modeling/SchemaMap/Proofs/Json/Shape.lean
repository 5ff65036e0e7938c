/-
# What a shape makes of a value

A tree is read against a shape by the value that it holds (`Shape.Reads`): a text, a number or a
word is itself, the items of a list are read one by one, and the members of a record are completed
by the values of the fields that are missing (`Filled`). Where the members of a record stand in
the order of its fields, its fields are its members with the missing ones filled in.

The other way round, a number that is found in what was read is one that stood in the text, or in
the value of a missing field (`Traced`), and so has 64 bits (`count_le`).

Key definitions: `Json.Shape.Reads`, `Json.Filled`, `Json.Traced`.
Key theorems: `Json.reads_list`, `Json.reads_record`, `Json.record_traced`, `Json.count_le`.
-/
import SchemaMap.Json.Codec
import Mathlib.Data.List.Forall2
import Mathlib.Data.List.Nodup

namespace SchemaMap
namespace Json

/-! ### Trees that hold a value -/

/-- What a tree is that holds a value. -/
def Node.Holds (v : Node) : Value → Prop
  | .null => ∃ s, v = .null s
  | .bool b => ∃ s, v = .bool s b
  | .whole n => ∃ s x, v = .number s x ∧ x.kind = .natural n
  | .decimal _ => ∃ s x, v = .number s x
  | .string t => ∃ s, v = .string s (.ok t)
  | .array items => ∃ s nodes m, v = .array s nodes (.closed m) ∧ itemValues? nodes = some items
  | .object members =>
    ∃ s nodes m, v = .object s nodes (.closed m) ∧ memberValues? nodes = some members

theorem holds_of_value? {v : Node} {x : Value} (h : v.value? = some x) : v.Holds x := by
  cases v with
  | null s => cases h; exact ⟨s, rfl⟩
  | bool s b => cases h; exact ⟨s, rfl⟩
  | number s y =>
    rw [Node.value?, Numeral.value?] at h
    split at h
    · rename_i n hn
      cases h
      exact ⟨s, y, rfl, hn⟩
    · cases h
      exact ⟨s, y, rfl⟩
    · obtain ⟨z, -, rfl⟩ := Option.map_eq_some_iff.1 h
      exact ⟨s, y, rfl⟩
    · cases h
  | string s body =>
    cases body with
    | error f => cases h
    | ok t => cases h; exact ⟨s, rfl⟩
  | array s nodes ending =>
    cases ending with
    | faulty b => simp [Node.value?] at h
    | closed m =>
      rw [Node.value?] at h
      obtain ⟨items, hitems, rfl⟩ := Option.map_eq_some_iff.1 h
      exact ⟨s, nodes, m, rfl, hitems⟩
  | object s nodes ending =>
    cases ending with
    | faulty b => simp [Node.value?] at h
    | closed m =>
      rw [Node.value?] at h
      obtain ⟨members, hmembers, rfl⟩ := Option.map_eq_some_iff.1 h
      exact ⟨s, nodes, m, rfl, hmembers⟩
  | broken s b => simp [Node.value?] at h

theorem itemValues?_eq_some : ∀ {nodes : List Node} {items : List Value},
    itemValues? nodes = some items → List.Forall₂ (fun n v => n.value? = some v) nodes items
  | [], items, h => by
    rw [itemValues?] at h
    cases h
    exact .nil
  | n :: nodes, items, h => by
    rw [itemValues?] at h
    split at h
    · rename_i v vs hv hvs
      cases h
      exact .cons hv (itemValues?_eq_some hvs)
    · cases h

/-- What a member of a tree is that holds a member. -/
def HoldsMember (n : Key × Node) (m : String × Value) : Prop :=
  (∃ stop behind next, n.1 = .text (.ok m.1) stop behind next) ∧ n.2.value? = some m.2

theorem memberValues?_eq_some : ∀ {nodes : List (Key × Node)} {members : List (String × Value)},
    memberValues? nodes = some members → List.Forall₂ HoldsMember nodes members
  | [], members, h => by
    rw [memberValues?] at h
    cases h
    exact .nil
  | (key, n) :: nodes, members, h => by
    unfold memberValues? at h
    split at h
    · rename_i heq; cases heq
    · rename_i name stop behind next v more heq
      obtain ⟨hkey, rfl⟩ := List.cons.inj heq
      obtain ⟨rfl, rfl⟩ := Prod.mk.inj hkey
      split at h
      · rename_i x xs hx hxs
        cases h
        exact .cons ⟨⟨stop, behind, next, rfl⟩, hx⟩ (memberValues?_eq_some hxs)
      · cases h
    · cases h

/-! ### Reading by value -/

/-- What the shape makes of a value, wherever the value stands. -/
def Shape.Reads (shape : Shape) (v w : Value) : Prop :=
  ∀ (fuel : Nat) (node : Node), shape.depth ≤ fuel → node.value? = some v →
    shape.readNode fuel node = .ok w

theorem Shape.depth_pos (shape : Shape) : 0 < shape.depth := by
  cases shape <;> simp [depth]

theorem reads_of_succ {shape : Shape} {v w : Value}
    (h : ∀ (fuel : Nat) (node : Node), shape.depth ≤ fuel + 1 → node.value? = some v →
      shape.readNode (fuel + 1) node = .ok w) : shape.Reads v w := by
  intro fuel node hf hv
  obtain ⟨n, rfl⟩ := Nat.exists_eq_succ_of_ne_zero (Nat.pos_iff_ne_zero.1
    (Nat.lt_of_lt_of_le shape.depth_pos hf))
  exact h n node hf hv

theorem reads_flag (b : Bool) : Shape.flag.Reads (.bool b) (.bool b) :=
  reads_of_succ fun fuel node _ hv => by
    obtain ⟨s, rfl⟩ := holds_of_value? hv
    rw [Shape.readNode]

theorem reads_count (n : Nat) : Shape.count.Reads (.whole n) (.whole n) :=
  reads_of_succ fun fuel node _ hv => by
    obtain ⟨s, x, rfl, hx⟩ := holds_of_value? hv
    simp only [Shape.readNode, Node.count, hx]
    rfl

theorem reads_text {expected refused : String} {test : String → Bool} {t : String}
    (ht : test t = true) : (Shape.text expected test refused).Reads (.string t) (.string t) :=
  reads_of_succ fun fuel node _ hv => by
    obtain ⟨s, rfl⟩ := holds_of_value? hv
    simp only [Shape.readNode, Node.text, ht, if_true]

theorem reads_anyText (t : String) : Shape.anyText.Reads (.string t) (.string t) :=
  reads_text rfl

theorem reads_choice {words : List String} {t : String} (ht : t ∈ words) :
    (Shape.choice words).Reads (.string t) (.string t) :=
  reads_of_succ fun fuel node _ hv => by
    obtain ⟨s, rfl⟩ := holds_of_value? hv
    have hknown : words.contains t = true := List.contains_iff_mem.2 ht
    simp only [Shape.readNode, Node.choice, hknown, if_true]
    rfl

theorem reads_optional {inner : Shape} {v w : Value} (hv : v ≠ .null) (h : inner.Reads v w) :
    (Shape.optional inner).Reads v w :=
  reads_of_succ fun fuel node hf hnode => by
    have hinner : inner.depth ≤ fuel := Nat.le_of_succ_le_succ hf
    have hnull : ∀ s, node = .null s → False := by
      rintro s rfl
      exact hv (Option.some.inj hnode).symm
    rw [Shape.readNode]
    · exact h fuel node hinner hnode
    · exact hnull

/-- The items of a list are read one by one. -/
theorem reads_list {item : Shape} {vs ws : List Value} (h : List.Forall₂ item.Reads vs ws) :
    (Shape.list item).Reads (.array vs) (.array ws) :=
  reads_of_succ fun fuel node hf hnode => by
    obtain ⟨s, nodes, m, rfl, hitems⟩ := holds_of_value? hnode
    have hdepth : item.depth ≤ fuel := Nat.le_of_succ_le_succ hf
    have hread : readItems (item.readNode fuel) (.closed m) nodes = .ok ws := by
      have hvalues := itemValues?_eq_some hitems
      clear hitems hnode
      induction hvalues generalizing ws with
      | nil =>
        cases h
        rfl
      | cons hv _ ih =>
        cases h with
        | cons hw hws =>
          rw [readItems, hw fuel _ hdepth hv, ih hws]
          rfl
    rw [Shape.readNode, hread]
    rfl

/-! ### Records -/

/-- The members of a record in the order of its fields, and its fields with the missing ones
filled in. -/
inductive Filled : List (String × Shape × Option Value) → List (String × Value) →
    List (String × Value) → Prop
  | nil : Filled [] [] []
  | member {k : String} {shape : Shape} {default : Option Value} {v w : Value}
    {fields : List (String × Shape × Option Value)} {ms ws : List (String × Value)}
    (hv : shape.Reads v w) (h : Filled fields ms ws) :
    Filled ((k, shape, default) :: fields) ((k, v) :: ms) ((k, w) :: ws)
  | missing {k : String} {shape : Shape} {w : Value}
    {fields : List (String × Shape × Option Value)} {ms ws : List (String × Value)}
    (h : Filled fields ms ws) :
    Filled ((k, shape, some w) :: fields) ms ((k, w) :: ws)

/-- An optional member that is written or left out. -/
theorem Filled.optional {k : String} {shape : Shape} {default w : Value} {o : Option Value}
    {fields : List (String × Shape × Option Value)} {ms ws : List (String × Value)}
    (hnone : o = none → w = default) (hsome : ∀ v ∈ o, shape.Reads v w) (h : Filled fields ms ws) :
    Filled ((k, shape, some default) :: fields) (optionalMember k o ++ ms) ((k, w) :: ws) := by
  cases o with
  | none =>
    rw [hnone rfl]
    exact .missing h
  | some v => exact .member (hsome v rfl) h

theorem Filled.fst_mem {fields : List (String × Shape × Option Value)}
    {ms ws : List (String × Value)} (h : Filled fields ms ws) :
    ∀ m ∈ ms, m.1 ∈ fields.map (·.1) := by
  induction h with
  | nil => exact fun m hm => absurd hm List.not_mem_nil
  | member _ _ ih =>
    intro m hm
    rcases List.mem_cons.1 hm with rfl | hm
    · exact List.mem_cons_self
    · exact List.mem_cons_of_mem _ (ih m hm)
  | missing _ ih => exact fun m hm => List.mem_cons_of_mem _ (ih m hm)

theorem lookup_of_mem_nodup {β : Type} {k : String} {b : β} : ∀ {xs : List (String × β)},
    (xs.map (·.1)).Nodup → (k, b) ∈ xs → xs.lookup k = some b
  | (l, c) :: xs, hn, h => by
    rw [List.map_cons, List.nodup_cons] at hn
    rcases List.mem_cons.1 h with he | h
    · obtain ⟨rfl, rfl⟩ := Prod.mk.inj he
      simp
    · have hne : k ≠ l := fun he => hn.1 (List.mem_map.2 ⟨(k, b), h, he⟩)
      rw [List.lookup_cons, beq_false_of_ne hne]
      exact lookup_of_mem_nodup hn.2 h

/-- What is known of the members of a tree once they are read, each against the shape of its
field. -/
def ReadMember (read : Shape → Node → Except Failure Value)
    (fields : List (String × Shape × Option Value)) (n : Key × Node) (x : String × Value) : Prop :=
  (∃ stop behind next, n.1 = .text (.ok x.1) stop behind next) ∧
    ∃ shape, fieldShape? fields x.1 = some shape ∧ read shape n.2 = .ok x.2

/-- Members with different names are read one by one, and then completed. -/
theorem readMembers_eq {read : Shape → Node → Except Failure Value}
    {fields : List (String × Shape × Option Value)} {ws : List (String × Value)} {behind : Mark}
    {nodes : List (Key × Node)} {xs : List (String × Value)}
    (h : List.Forall₂ (ReadMember read fields) nodes xs) :
    ∀ {found : List (String × Value)}, ((found ++ xs).map (·.1)).Nodup →
      complete (found ++ xs) fields = .ok ws →
      readMembers read fields found nodes (.closed behind) = .ok ws := by
  induction h with
  | nil =>
    intro found _ hc
    rw [List.append_nil] at hc
    rw [readMembers, hc]
  | @cons n x nodes xs hx _ ih =>
    intro found hn hc
    obtain ⟨key, node⟩ := n
    obtain ⟨name, value⟩ := x
    obtain ⟨⟨stop, place, next, rfl⟩, shape, hshape, hread⟩ := hx
    have hnew : found.lookup name = none := by
      rw [List.lookup_eq_none_iff]
      intro p hp
      rw [List.map_append, List.nodup_append] at hn
      have hne := hn.2.2 p.1 (List.mem_map_of_mem hp) name List.mem_cons_self
      simpa using fun he => hne he.symm
    rw [List.append_cons] at hc hn
    have hmore := ih hn hc
    simp only [readMembers, hshape, hnew, Option.isSome_none, Bool.false_eq_true, if_false, hread]
    exact hmore

theorem depth_le_fieldsDepth {name : String} {shape : Shape} {default : Option Value} :
    ∀ {fields : List (String × Shape × Option Value)}, (name, shape, default) ∈ fields →
      shape.depth ≤ fieldsDepth fields
  | (_, s, _) :: more, h => by
    rw [fieldsDepth]
    rcases List.mem_cons.1 h with he | h
    · obtain ⟨-, he⟩ := Prod.mk.inj he
      obtain ⟨rfl, -⟩ := Prod.mk.inj he
      exact Nat.le_max_left _ _
    · exact Nat.le_trans (depth_le_fieldsDepth h) (Nat.le_max_right _ _)

theorem lookup_eq_none {β : Type} {k : String} {xs : List (String × β)}
    (h : k ∉ xs.map (·.1)) : xs.lookup k = none := by
  rw [List.lookup_eq_none_iff]
  intro x hx
  have hne : k ≠ x.1 := fun he => h (he ▸ List.mem_map_of_mem hx)
  simpa using hne

/-- Members in the order of the fields are read against the shapes of their fields, and what is
read of them is completed to the fields. -/
theorem Filled.exists_read {fields : List (String × Shape × Option Value)}
    {ms ws : List (String × Value)} (h : Filled fields ms ws) (hn : (fields.map (·.1)).Nodup) :
    ∃ xs, xs.map (·.1) = ms.map (·.1) ∧
      List.Forall₂ (fun m x => x.1 = m.1 ∧ ∃ shape default, (m.1, shape, default) ∈ fields ∧
        shape.Reads m.2 x.2) ms xs ∧
      ∀ found : List (String × Value), (∀ k ∈ fields.map (·.1), found.lookup k = xs.lookup k) →
        complete found fields = .ok ws := by
  induction h with
  | nil => exact ⟨[], rfl, .nil, fun _ _ => rfl⟩
  | @member k shape default v w fields ms ws hv h ih =>
    rw [List.map_cons, List.nodup_cons] at hn
    obtain ⟨xs, hkeys, hxs, hcomplete⟩ := ih hn.2
    refine ⟨(k, w) :: xs, by rw [List.map_cons, List.map_cons, hkeys],
      .cons ⟨rfl, shape, default, List.mem_cons_self, hv⟩ ?_, ?_⟩
    · exact hxs.imp fun m x ⟨he, s, d, hm, hr⟩ => ⟨he, s, d, List.mem_cons_of_mem _ hm, hr⟩
    · intro found hfound
      have hk : found.lookup k = some w := by
        rw [hfound k List.mem_cons_self, List.lookup_cons_self]
      have hmore : complete found fields = .ok ws := by
        refine hcomplete found fun l hl => ?_
        have hne : l ≠ k := fun he => hn.1 (he ▸ hl)
        rw [hfound l (List.mem_cons_of_mem _ hl), List.lookup_cons, beq_false_of_ne hne]
      simp only [complete, hk, hmore]
      rfl
  | @missing k shape w fields ms ws h ih =>
    rw [List.map_cons, List.nodup_cons] at hn
    obtain ⟨xs, hkeys, hxs, hcomplete⟩ := ih hn.2
    refine ⟨xs, hkeys, ?_, ?_⟩
    · exact hxs.imp fun m x ⟨he, s, d, hm, hr⟩ => ⟨he, s, d, List.mem_cons_of_mem _ hm, hr⟩
    · intro found hfound
      have hnew : k ∉ xs.map (·.1) := by
        rw [hkeys]
        intro hk
        obtain ⟨m, hm, rfl⟩ := List.mem_map.1 hk
        exact hn.1 (h.fst_mem m hm)
      have hk : found.lookup k = none := by
        rw [hfound k List.mem_cons_self, lookup_eq_none hnew]
      have hmore : complete found fields = .ok ws :=
        hcomplete found fun l hl => hfound l (List.mem_cons_of_mem _ hl)
      simp only [complete, hk, hmore]
      rfl

theorem Filled.nodup {fields : List (String × Shape × Option Value)}
    {ms ws : List (String × Value)} (h : Filled fields ms ws) (hn : (fields.map (·.1)).Nodup) :
    (ms.map (·.1)).Nodup := by
  induction h with
  | nil => exact List.nodup_nil
  | member _ h ih =>
    rw [List.map_cons, List.nodup_cons] at hn ⊢
    refine ⟨fun hk => ?_, ih hn.2⟩
    obtain ⟨m, hm, he⟩ := List.mem_map.1 hk
    exact hn.1 (he ▸ h.fst_mem m hm)
  | missing _ ih =>
    rw [List.map_cons, List.nodup_cons] at hn
    exact ih hn.2

theorem forall₂_comp {α β γ : Type} {R : α → β → Prop} {S : β → γ → Prop} {T : α → γ → Prop}
    (h : ∀ a b c, R a b → S b c → T a c) {as : List α} {bs : List β} (hab : List.Forall₂ R as bs) :
    ∀ {cs : List γ}, List.Forall₂ S bs cs → List.Forall₂ T as cs := by
  induction hab with
  | nil =>
    intro cs hbc
    cases hbc
    exact .nil
  | cons ha _ ih =>
    intro cs hbc
    cases hbc with
    | cons hb hbc => exact .cons (h _ _ _ ha hb) (ih hbc)

/-- **A record with its members in order is read with the missing fields filled in.** -/
theorem reads_record {name : String} {fields : List (String × Shape × Option Value)}
    {ms ws : List (String × Value)} (hn : (fields.map (·.1)).Nodup) (h : Filled fields ms ws) :
    (Shape.record name fields).Reads (.object ms) (.object ws) :=
  reads_of_succ fun fuel node hf hnode => by
    obtain ⟨s, nodes, m, rfl, hmembers⟩ := holds_of_value? hnode
    obtain ⟨xs, hkeys, hxs, hcomplete⟩ := h.exists_read hn
    have hdepth : fieldsDepth fields ≤ fuel := Nat.le_of_succ_le_succ hf
    have hread : List.Forall₂ (ReadMember (Shape.readNode fuel) fields) nodes xs := by
      refine forall₂_comp ?_ (memberValues?_eq_some hmembers) hxs
      rintro n m x ⟨hkey, hvalue⟩ ⟨he, shape, default, hfield, hr⟩
      have hshape : fieldShape? fields x.1 = some shape := by
        rw [fieldShape?, he, lookup_of_mem_nodup hn hfield]
        rfl
      have hle : shape.depth ≤ fuel := Nat.le_trans (depth_le_fieldsDepth hfield) hdepth
      exact ⟨he ▸ hkey, shape, hshape, hr fuel n.2 hle hvalue⟩
    have hdone : readMembers (Shape.readNode fuel) fields [] nodes (.closed m) = .ok ws :=
      readMembers_eq hread (by rw [List.nil_append, hkeys]; exact h.nodup hn)
        (hcomplete xs fun _ _ => rfl)
    rw [Shape.readNode, hdone]
    rfl

/-! ### Where what was read comes from -/

/-- A field that has been read: its value was read from some tree against the shape of the field,
or it is the one that the field has when it is missing. -/
def Traced (read : Shape → Node → Except Failure Value)
    (fields : List (String × Shape × Option Value)) (x : String × Value) : Prop :=
  ∃ shape default, (x.1, shape, default) ∈ fields ∧
    (default = some x.2 ∨ ∃ node, read shape node = .ok x.2)

theorem mem_of_lookup {β : Type} {k : String} {b : β} {xs : List (String × β)}
    (h : xs.lookup k = some b) : (k, b) ∈ xs := by
  obtain ⟨l, l', rfl, -⟩ := List.lookup_eq_some_iff.1 h
  exact List.mem_append_right _ List.mem_cons_self

theorem exists_of_map_ok {ε α β : Type} {f : α → β} {e : Except ε α} {b : β}
    (h : e.map f = .ok b) : ∃ a, e = .ok a ∧ f a = b := by
  cases e with
  | error e => cases h
  | ok a => exact ⟨a, rfl, Except.ok.inj h⟩

/-- What is completed has been found, or is the value of a missing field. -/
theorem complete_mem {found : List (String × Value)} :
    ∀ {fields : List (String × Shape × Option Value)} {ws : List (String × Value)},
      complete found fields = .ok ws →
      ∀ x ∈ ws, x ∈ found ∨ ∃ shape, (x.1, shape, some x.2) ∈ fields
  | [], ws, h, x, hx => by
    cases h
    exact absurd hx List.not_mem_nil
  | (k, s, d) :: fields, ws, h, x, hx => by
    have hcons (w : Value) (hw : (k, w) ∈ found ∨ d = some w)
        (h : (complete found fields).map ((k, w) :: ·) = .ok ws) :
        x ∈ found ∨ ∃ shape, (x.1, shape, some x.2) ∈ (k, s, d) :: fields := by
      obtain ⟨more, hc, rfl⟩ := exists_of_map_ok h
      rcases List.mem_cons.1 hx with rfl | hx
      · exact hw.imp id fun hd => ⟨s, by rw [hd]; exact List.mem_cons_self⟩
      · exact (complete_mem hc x hx).imp id fun ⟨t, ht⟩ => ⟨t, List.mem_cons_of_mem _ ht⟩
    cases hl : found.lookup k with
    | some v =>
      simp only [complete, hl] at h
      exact hcons v (.inl (mem_of_lookup hl)) h
    | none =>
      cases d with
      | some v =>
        simp only [complete, hl] at h
        exact hcons v (.inr rfl) h
      | none =>
        simp only [complete, hl] at h
        cases h

theorem readMembers_traced {read : Shape → Node → Except Failure Value}
    {fields : List (String × Shape × Option Value)} {nodes : List (Key × Node)} {ending : Ending}
    {found ws : List (String × Value)} (hfound : ∀ x ∈ found, Traced read fields x)
    (h : readMembers read fields found nodes ending = .ok ws) : ∀ x ∈ ws, Traced read fields x := by
  fun_induction readMembers read fields found nodes ending with
  | case1 => cases h
  | case2 found behind members hc =>
    cases h
    intro x hx
    rcases complete_mem hc x hx with hm | ⟨shape, hf⟩
    · exact hfound x hm
    · exact ⟨shape, _, hf, .inl rfl⟩
  | case3 => cases h
  | case4 => cases h
  | case5 => cases h
  | case6 => cases h
  | case7 found name stop behind next v more ending hshape hskip ih => exact ih hfound h
  | case8 => cases h
  | case9 => cases h
  | case10 found name stop behind next v more ending shape hshape hnew value hv ih =>
    refine ih (fun x hx => ?_) h
    rcases List.mem_append.1 hx with hx | hx
    · exact hfound x hx
    · obtain rfl := List.mem_singleton.1 hx
      obtain ⟨⟨s, d⟩, hd, rfl⟩ := Option.map_eq_some_iff.1 hshape
      exact ⟨s, d, mem_of_lookup hd, .inr ⟨v, hv⟩⟩

theorem Traced.cons {read : Shape → Node → Except Failure Value}
    {fields : List (String × Shape × Option Value)} {x : String × Value}
    (f : String × Shape × Option Value) (h : Traced read fields x) : Traced read (f :: fields) x := by
  obtain ⟨shape, default, hm, hx⟩ := h
  exact ⟨shape, default, List.mem_cons_of_mem f hm, hx⟩

theorem readFields_traced {read : Shape → Node → Except Failure Value} {record : String}
    {total index : Nat} {ending : Ending} {fields : List (String × Shape × Option Value)}
    {nodes : List Node} {ws : List (String × Value)}
    (h : readFields read record total index ending fields nodes = .ok ws) :
    ∀ x ∈ ws, Traced read fields x := by
  fun_induction readFields read record total index ending fields nodes generalizing ws with
  | case1 index more =>
    obtain ⟨_, -, rfl⟩ := exists_of_map_ok h
    exact fun x hx => absurd hx List.not_mem_nil
  | case2 => cases h
  | case3 index name shape default fields v more value hv ih =>
    obtain ⟨rest, hrest, rfl⟩ := exists_of_map_ok h
    intro x hx
    rcases List.mem_cons.1 hx with rfl | hx
    · exact ⟨shape, default, List.mem_cons_self, .inr ⟨v, hv⟩⟩
    · exact (ih hrest x hx).cons _
  | case4 => cases h
  | case5 index name shape fields behind value hclosed ih =>
    rw [← hclosed] at h
    obtain ⟨rest, hrest, rfl⟩ := exists_of_map_ok h
    intro x hx
    rcases List.mem_cons.1 hx with rfl | hx
    · exact ⟨shape, some value, List.mem_cons_self, .inl rfl⟩
    · exact (ih hrest x hx).cons _
  | case6 => cases h

/-- **Every field of a record that was read is traced.** -/
theorem record_traced {fuel : Nat} {name : String} {fields : List (String × Shape × Option Value)}
    {node : Node} {w : Value} (h : (Shape.record name fields).readNode fuel node = .ok w) :
    ∃ n ws, w = .object ws ∧ ∀ x ∈ ws, Traced (Shape.readNode n) fields x := by
  cases fuel with
  | zero => cases h
  | succ n =>
    unfold Shape.readNode at h
    simp only at h
    split at h
    · obtain ⟨ws, hws, rfl⟩ := exists_of_map_ok h
      exact ⟨n, ws, rfl, readMembers_traced (fun x hx => absurd hx List.not_mem_nil) hws⟩
    · obtain ⟨ws, hws, rfl⟩ := exists_of_map_ok h
      exact ⟨n, ws, rfl, readFields_traced hws⟩
    · cases h

theorem readItems_traced {read : Node → Except Failure Value} {ending : Ending} :
    ∀ {nodes : List Node} {ws : List Value}, readItems read ending nodes = .ok ws →
      ∀ w ∈ ws, ∃ node, read node = .ok w
  | [], ws, h, w, hw => by
    cases ending with
    | closed m => cases h; exact absurd hw List.not_mem_nil
    | faulty b => cases h
  | v :: nodes, ws, h, w, hw => by
    rw [readItems] at h
    split at h
    · cases h
    · rename_i x hx
      obtain ⟨more, hmore, rfl⟩ := exists_of_map_ok h
      rcases List.mem_cons.1 hw with rfl | hw
      · exact ⟨v, hx⟩
      · exact readItems_traced hmore w hw

theorem list_traced {fuel : Nat} {item : Shape} {node : Node} {w : Value}
    (h : (Shape.list item).readNode fuel node = .ok w) :
    ∃ n ws, w = .array ws ∧ ∀ v ∈ ws, ∃ node, item.readNode n node = .ok v := by
  cases fuel with
  | zero => cases h
  | succ n =>
    unfold Shape.readNode at h
    simp only at h
    split at h
    · obtain ⟨ws, hws, rfl⟩ := exists_of_map_ok h
      exact ⟨n, ws, rfl, readItems_traced hws⟩
    · cases h

theorem optional_traced {fuel : Nat} {inner : Shape} {node : Node} {w : Value}
    (h : (Shape.optional inner).readNode fuel node = .ok w) :
    w = .null ∨ ∃ n, inner.readNode n node = .ok w := by
  cases fuel with
  | zero => cases h
  | succ n =>
    unfold Shape.readNode at h
    simp only at h
    split at h
    · cases h; exact .inl rfl
    · exact .inr ⟨n, h⟩

/-- **A number that is read has 64 bits.** -/
theorem count_le {fuel : Nat} {node : Node} {n : Nat}
    (h : Shape.count.readNode fuel node = .ok (.whole n)) : n ≤ Numeral.maxWhole := by
  have hkind {x : Numeral} (hx : x.kind = .natural n) : n ≤ Numeral.maxWhole := by
    unfold Numeral.kind at hx
    simp only at hx
    split at hx
    · rename_i hcond
      cases hx
      simp only [Bool.and_eq_true, decide_eq_true_eq] at hcond
      exact hcond.2
    · split at hx
      · cases hx
      · split at hx <;> cases hx
  cases fuel with
  | zero => cases h
  | succ fuel =>
    rw [Shape.readNode] at h
    obtain ⟨m, hm, he⟩ := exists_of_map_ok h
    cases he
    unfold Node.count at hm
    split at hm
    · split at hm
      · rename_i hx
        cases hm
        exact hkind hx
      · cases hm
      · cases hm
    · cases hm

end Json
end SchemaMap
