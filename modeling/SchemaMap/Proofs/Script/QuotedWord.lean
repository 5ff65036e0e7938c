/-
# The words that a bracketed name is read from

A word of a script is read as the name between its outermost brackets, with doubled closing brackets
made single. Of the words that start as a bracketed name does, no other is read as that name: one that
ends in the middle of the name or goes on behind it gives another name, and so does one in which a
comment stood. There is one exception, the bracketed name without its last bracket, if the name itself
ends with a closing bracket.

Key definitions: `Script.bracketQuoted`, `Script.IsMarks`, `Script.StartsAs`.
Key theorems: `Script.unquoted_marked`, `Script.unquoted_beyond_ne`, `Script.unquoted_prefix`,
`Script.unquoted_blanked`, `Script.unquoted_ne_of_blanked`, `Script.eq_of_unquoted`.
-/
import SchemaMap.Script.Declaration
import SchemaMap.Proofs.Text.Basic

namespace SchemaMap
namespace Script

open Text (doubled undouble)

/-- A name in square brackets, with every closing bracket in it doubled. -/
def bracketQuoted (n : List Char) : List Char :=
  '[' :: (doubled ']' n ++ [']'])

/-- The marks in front of a name and behind it. -/
inductive IsMarks : (opening closing : Char) → Prop
  | double : IsMarks '"' '"'
  | back : IsMarks '`' '`'
  | brackets : IsMarks '[' ']'

theorem unquoted_marked {o e : Char} (h : IsMarks o e) (cs : List Char) :
    unquoted (o :: cs) = if cs.getLast? = some e then undouble e cs.dropLast else o :: cs := by
  have hopen : between? o e (o :: cs) =
      if cs.getLast? = some e then some (undouble e cs.dropLast) else none := by
    simp [between?, Text.char?]
  -- the marks of the other two kinds do not open the text
  have hother (p q : Char) (hp : p ≠ o) : between? p q (o :: cs) = none := by
    simp [between?, Text.char?, hp]
  have hread : unquoted (o :: cs) = (between? o e (o :: cs)).getD (o :: cs) := by
    unfold unquoted
    cases h with
    | double =>
      rw [hother '[' ']' (by decide), hother '`' '`' (by decide), Option.or_none, Option.or_none]
    | back =>
      rw [hother '"' '"' (by decide), hother '[' ']' (by decide), Option.none_or, Option.none_or]
    | brackets =>
      rw [hother '"' '"' (by decide), hother '`' '`' (by decide), Option.none_or, Option.or_none]
  rw [hread, hopen]
  split <;> rfl

/-- A name between its marks is read without them. -/
theorem unquoted_between {o e : Char} (h : IsMarks o e) (n : List Char) :
    unquoted (o :: (doubled e n ++ [e])) = n := by
  rw [unquoted_marked h, if_pos List.getLast?_concat, List.dropLast_concat, Text.undouble_doubled]

/-- The last character of a text is behind its front. -/
theorem dropLast_behind (x y : List Char) (c d : Char) :
    (x ++ c :: y.concat d).dropLast = x ++ c :: y := by
  rw [List.concat_eq_append, ← List.cons_append, ← List.append_assoc, List.dropLast_concat]

/-- What goes on behind a name between its marks is read as a longer name, or with all marks. -/
theorem unquoted_beyond {o e : Char} (h : IsMarks o e) (n : List Char) {z : List Char}
    (hz : z ≠ []) :
    (∃ more, more ≠ [] ∧ unquoted (o :: (doubled e n ++ e :: z)) = n ++ more) ∨
      unquoted (o :: (doubled e n ++ e :: z)) = o :: (doubled e n ++ e :: z) := by
  rw [unquoted_marked h]
  split
  · obtain ⟨y, d, rfl⟩ := (List.eq_nil_or_concat z).resolve_left hz
    refine .inl ⟨undouble e (e :: y), fun hnil => ?_, ?_⟩
    · exact List.cons_ne_nil e y (Text.undouble_eq_nil.1 hnil)
    · rw [dropLast_behind, Text.undouble_doubled_append]
  · exact .inr rfl

theorem unquoted_open (cs : List Char) :
    unquoted ('[' :: cs) = if cs.getLast? = some ']' then undouble ']' cs.dropLast else '[' :: cs :=
  unquoted_marked .brackets cs

theorem unquoted_bracketQuoted (n : List Char) : unquoted (bracketQuoted n) = n :=
  unquoted_between .brackets n

/-! ### Texts that start alike -/

/-- A text that goes on as it did one place before has the same character everywhere. -/
theorem eq_of_cons_eq_concat {b e : Char} : ∀ {m : List Char}, b :: m = m ++ [e] → e = b
  | [], h => (List.cons.inj h).1.symm
  | c :: m, h => by
    obtain ⟨rfl, hm⟩ := List.cons.inj h
    exact eq_of_cons_eq_concat hm

/-- A text that starts with `m` and with a mark in front of `m` has the mark behind `m`. -/
theorem eq_of_prefixes {b e : Char} {m n : List Char} (h : b :: m <+: n) (h' : m ++ [e] <+: n) :
    e = b := by
  have hlen : (b :: m).length = (m ++ [e]).length := by simp
  have hstart : b :: m <+: m ++ [e] := List.prefix_of_prefix_length_le h h' (Nat.le_of_eq hlen)
  exact eq_of_cons_eq_concat (hstart.eq_of_length hlen)

/-- What a name has in front of its first closing bracket, its doubled form has. -/
theorem exists_front {n : List Char} (h : ']' ∈ n) :
    ∃ m, m ++ [']'] <+: n ∧ ∀ rest, m <+: doubled ']' n ++ rest := by
  obtain ⟨m, more, rfl, hm⟩ := List.eq_append_cons_of_mem h
  refine ⟨m, ⟨more, by simp⟩, fun rest => ?_⟩
  rw [Text.doubled_append, Text.doubled_of_notMem hm, List.append_assoc]
  exact List.prefix_append _ _

/-- A name with a closing bracket is not the bracketed name itself, up to some place in it. -/
theorem ne_open_of_start {n cs rest : List Char} (h : ']' ∈ n)
    (hcs : cs <+: doubled ']' n ++ rest) : n ≠ '[' :: cs := by
  intro hn
  obtain ⟨m, hclose, hfront⟩ := exists_front h
  have hlen : m.length ≤ cs.length := by
    have hle := hclose.length_le
    rw [List.length_append, hn, List.length_singleton, List.length_cons] at hle
    omega
  have hstart : '[' :: m <+: n := by
    rw [hn]
    exact List.cons_prefix_cons.2
      ⟨rfl, List.prefix_of_prefix_length_le (hfront rest) hcs hlen⟩
  exact absurd (eq_of_prefixes hstart hclose) (by decide)

/-! ### Shorter words -/

/-- A character of a doubled text stands behind a doubled front of the text, or is the second one of
two marks. -/
theorem exists_of_doubled_eq {q d : Char} : ∀ {n a b : List Char}, doubled q n = a ++ d :: b →
    ∃ m more, n = m ++ d :: more ∧
      (a = doubled q m ∨ d = q ∧ a = doubled q m ++ [q] ∧ b = doubled q more)
  | [], a, b, h => by
    rw [Text.doubled_nil] at h
    cases a <;> cases h
  | c :: n, a, b, h => by
    by_cases hc : c = q
    · subst hc
      rw [Text.doubled_same] at h
      rcases a with _ | ⟨x, _ | ⟨y, a⟩⟩
      · simp only [List.nil_append, List.cons.injEq] at h
        obtain ⟨rfl, -⟩ := h
        exact ⟨[], n, rfl, .inl rfl⟩
      · simp only [List.cons_append, List.nil_append, List.cons.injEq] at h
        obtain ⟨rfl, rfl, rfl⟩ := h
        exact ⟨[], n, rfl, .inr ⟨rfl, rfl, rfl⟩⟩
      · simp only [List.cons_append, List.cons.injEq] at h
        obtain ⟨rfl, rfl, h⟩ := h
        obtain ⟨m, more, rfl, hcase⟩ := exists_of_doubled_eq h
        refine ⟨c :: m, more, rfl, ?_⟩
        rw [Text.doubled_same]
        rcases hcase with rfl | ⟨hd, rfl, hb⟩
        · exact .inl rfl
        · exact .inr ⟨hd, rfl, hb⟩
    · rw [Text.doubled_cons_of_ne hc] at h
      rcases a with _ | ⟨x, a⟩
      · simp only [List.nil_append, List.cons.injEq] at h
        obtain ⟨rfl, -⟩ := h
        exact ⟨[], n, rfl, .inl rfl⟩
      · simp only [List.cons_append, List.cons.injEq] at h
        obtain ⟨rfl, h⟩ := h
        obtain ⟨m, more, rfl, hcase⟩ := exists_of_doubled_eq h
        refine ⟨c :: m, more, rfl, ?_⟩
        rw [Text.doubled_cons_of_ne hc]
        rcases hcase with rfl | ⟨hd, rfl, hb⟩
        · exact .inl rfl
        · exact .inr ⟨hd, rfl, hb⟩

/-- What is read of a part of the doubled name in front of a closing bracket is the name only if the
bracket is the last one. -/
theorem eq_nil_of_undouble {n x y : List Char} (h : doubled ']' n = x ++ ']' :: y)
    (hx : undouble ']' x = n) : y = [] := by
  obtain ⟨m, more, rfl, rfl | ⟨-, rfl, rfl⟩⟩ := exists_of_doubled_eq h
  · rw [Text.undouble_doubled] at hx
    exact absurd hx (by simp)
  · have hlast : undouble ']' [']'] = [']'] := rfl
    rw [Text.undouble_doubled_append, hlast] at hx
    obtain rfl : more = [] := by simpa using hx
    rfl

/-- Of the texts that a bracketed name starts with, only the whole one is read as the name, and the
one without the last bracket. -/
theorem unquoted_prefix {n f : List Char} (h : ']' ∈ n) (hne : f ≠ [])
    (hf : f <+: bracketQuoted n) (hu : unquoted f = n) :
    f = bracketQuoted n ∨ f ++ [']'] = bracketQuoted n := by
  obtain ⟨a, cs, rfl⟩ := List.exists_cons_of_ne_nil hne
  obtain ⟨rfl, hcs⟩ := List.cons_prefix_cons.1 hf
  rw [unquoted_open] at hu
  split at hu
  · rename_i hlast
    obtain ⟨x, rfl⟩ := List.getLast?_eq_some_iff.1 hlast
    rw [List.dropLast_concat] at hu
    rcases List.prefix_concat_iff.1 hcs with hall | hpart
    · exact .inl (congrArg _ hall)
    · obtain ⟨y, hy⟩ := hpart
      rw [List.append_assoc, List.singleton_append] at hy
      obtain rfl := eq_nil_of_undouble hy.symm hu
      exact .inr (by rw [bracketQuoted, ← hy]; simp)
  · exact absurd hu.symm (ne_open_of_start h hcs)

/-! ### Longer words -/

/-- What goes on behind a name between its marks is read as another name. -/
theorem unquoted_beyond_ne {o e : Char} (h : IsMarks o e) (n : List Char) {z : List Char}
    (hz : z ≠ []) : unquoted (o :: (doubled e n ++ e :: z)) ≠ n := by
  intro hu
  rcases unquoted_beyond h n hz with ⟨more, hmore, hread⟩ | hread
  · rw [hu] at hread
    exact hmore (List.append_right_eq_self.1 hread.symm)
  · have hlen := congrArg List.length (hu.symm.trans hread)
    have hle := Text.length_le_doubled e n
    simp only [List.length_cons, List.length_append] at hlen
    omega

theorem unquoted_longer {n z : List Char} (hz : z ≠ []) : unquoted (bracketQuoted n ++ z) ≠ n := by
  have hword : bracketQuoted n ++ z = '[' :: (doubled ']' n ++ ']' :: z) := by
    simp [bracketQuoted]
  rw [hword]
  exact unquoted_beyond_ne .brackets n hz

/-! ### Words with a blank in them -/

/-- A character of a bracketed name that is no bracket is one of the name. -/
theorem exists_of_bracketQuoted_eq {n a b : List Char} {d : Char} (hopen : d ≠ '[')
    (hclose : d ≠ ']') (h : bracketQuoted n = a ++ d :: b) :
    ∃ m more, n = m ++ d :: more ∧ a = '[' :: doubled ']' m := by
  rcases a with _ | ⟨x, a⟩
  · exact absurd (List.cons.inj h).1.symm hopen
  · simp only [bracketQuoted, List.cons_append, List.cons.injEq] at h
    obtain ⟨rfl, h⟩ := h
    rcases List.append_eq_append_iff.1 h with ⟨as, -, has⟩ | ⟨bs, hbs, hlast⟩
    · have hmem : d ∈ [']'] := has ▸ List.mem_append_right as List.mem_cons_self
      exact absurd (List.mem_singleton.1 hmem) hclose
    · rcases bs with _ | ⟨e, bs⟩
      · exact absurd (List.cons.inj hlast).1 hclose
      · obtain rfl : d = e := (List.cons.inj hlast).1
        obtain ⟨m, more, hn, rfl | ⟨hd, -⟩⟩ := exists_of_doubled_eq hbs
        · exact ⟨m, more, hn, rfl⟩
        · exact absurd hd hclose

/-- A bracketed name in which a dash or a slash is blanked out is read as another name. -/
theorem unquoted_blanked {n a b z : List Char} {d : Char} (hn : bracketQuoted n = a ++ d :: b)
    (hd : d = '-' ∨ d = '/') : unquoted (a ++ ' ' :: z) ≠ n := by
  have hclose : d ≠ ']' := by rcases hd with rfl | rfl <;> decide
  have hblank : ' ' ≠ d := by rcases hd with rfl | rfl <;> decide
  have hopen : d ≠ '[' := by rcases hd with rfl | rfl <;> decide
  obtain ⟨m, more, rfl, rfl⟩ := exists_of_bracketQuoted_eq hopen hclose hn
  intro hu
  rw [List.cons_append, unquoted_open] at hu
  split at hu
  · rename_i hlast
    rcases List.eq_nil_or_concat z with rfl | ⟨y, e, rfl⟩
    · rw [List.getLast?_concat] at hlast
      exact absurd (Option.some.inj hlast) (by decide)
    · rw [dropLast_behind, Text.undouble_doubled_append, Text.undouble_cons_of_ne (by decide)] at hu
      exact hblank (List.cons.inj (List.append_cancel_left hu)).1
  · have hname : m <+: m ++ d :: more := List.prefix_append _ _
    by_cases hm : ']' ∈ m
    · obtain ⟨front, hend, hfront⟩ := exists_front hm
      have hstart : '[' :: front <+: m ++ d :: more := by
        rw [← hu]
        exact List.cons_prefix_cons.2 ⟨rfl, hfront _⟩
      exact absurd (eq_of_prefixes hstart (hend.trans hname)) (by decide)
    · rw [Text.doubled_of_notMem hm] at hu
      have hstart : '[' :: m <+: m ++ d :: more := by
        rw [← hu]
        exact List.cons_prefix_cons.2 ⟨rfl, List.prefix_append _ _⟩
      have hend : m ++ [d] <+: m ++ d :: more := ⟨more, by simp⟩
      exact hopen (eq_of_prefixes hstart hend)

/-! ### Words of a script -/

/-- A text that starts as `t` does, up to a dash or a slash that is blanked out. -/
inductive StartsAs (t : List Char) : List Char → Prop
  | whole (rest : List Char) : StartsAs t (t ++ rest)
  | blanked {a b : List Char} {d : Char} (ht : t = a ++ d :: b) (hd : d = '-' ∨ d = '/')
    (rest : List Char) : StartsAs t (a ++ ' ' :: rest)

theorem StartsAs.cons (c : Char) {t w : List Char} (h : StartsAs t w) :
    StartsAs (c :: t) (c :: w) := by
  cases h with
  | whole rest => exact .whole rest
  | @blanked a b d ht hd rest => exact .blanked (a := c :: a) (by rw [ht]; rfl) hd rest

/-- Of the words that start with a bracketed name or are a part of it, only the whole one is read as
the name, and the one without the last bracket. -/
theorem eq_of_unquoted_whole {n f rest : List Char} (h : ']' ∈ n) (hf : f <+: bracketQuoted n ++ rest)
    (hu : unquoted f = n) : f = bracketQuoted n ∨ f ++ [']'] = bracketQuoted n := by
  have hne : f ≠ [] := by
    rintro rfl
    obtain rfl : [] = n := hu
    cases h
  obtain ⟨z, hz⟩ := hf
  rcases List.append_eq_append_iff.1 hz with ⟨as, has, -⟩ | ⟨bs, hbs, -⟩
  · exact unquoted_prefix h hne ⟨as, has.symm⟩ hu
  · rcases List.eq_nil_or_concat bs with rfl | ⟨y, e, rfl⟩
    · exact .inl (by rw [hbs, List.append_nil])
    · rw [hbs] at hu
      exact absurd hu (unquoted_longer (by simp))

/-- No word is read as the name where a dash or a slash of the name is blanked out. -/
theorem unquoted_ne_of_blanked {n f a b rest : List Char} {d : Char} (h : ']' ∈ n)
    (hn : bracketQuoted n = a ++ d :: b) (hd : d = '-' ∨ d = '/') (hf : f <+: a ++ ' ' :: rest) :
    unquoted f ≠ n := by
  intro hu
  -- a word that ends in front of the blank is not long enough
  have hshort (as : List Char) (has : a = f ++ as) : False := by
    have hclose : bracketQuoted n = f ++ (as ++ d :: b) := by rw [hn, has, List.append_assoc]
    rcases eq_of_unquoted_whole h ⟨as ++ d :: b, by rw [← hclose, List.append_nil]⟩ hu with
      hall | hlast
    · rw [← hall] at hclose
      simp at hclose
    · rw [← hlast] at hclose
      have hmem : d ∈ [']'] := List.append_cancel_left hclose ▸
        List.mem_append_right as List.mem_cons_self
      rw [List.mem_singleton.1 hmem] at hd
      exact absurd hd (by decide)
  obtain ⟨z, hz⟩ := hf
  rcases List.append_eq_append_iff.1 hz with ⟨as, has, -⟩ | ⟨_ | ⟨e, bs⟩, hbs, hrest⟩
  · exact hshort as has
  · exact hshort [] (by rw [hbs, List.append_nil, List.append_nil])
  · obtain rfl : ' ' = e := (List.cons.inj hrest).1
    rw [hbs] at hu
    exact unquoted_blanked hn hd hu

/-- **Which words are read as a name.** Where a script starts as a bracketed name and what follows
it, up to a comment, a word that no closing bracket follows is read as the name only if it is the
bracketed name, and no comment starts in it. -/
theorem eq_of_unquoted {n f u w : List Char} {c : Char} (h : ']' ∈ n)
    (hu : ∀ d ∈ u, d ≠ '-' ∧ d ≠ '/') (hw : StartsAs (bracketQuoted n ++ u) w) (hf : f ++ [c] <+: w)
    (hc : c ≠ ']') (hq : unquoted f = n) : f = bracketQuoted n ∧ bracketQuoted n ++ u <+: w := by
  have hstart : f <+: w := (List.prefix_append f [c]).trans hf
  cases hw with
  | whole rest =>
    refine ⟨?_, List.prefix_append _ _⟩
    rw [List.append_assoc] at hstart hf
    rcases eq_of_unquoted_whole h hstart hq with hall | hlast
    · exact hall
    · rw [← hlast, List.append_assoc] at hf
      have hclose := (List.prefix_append_right_inj f).1 hf
      exact absurd (List.cons_prefix_cons.1 hclose).1 hc
  | @blanked a b d ht hd rest =>
    exfalso
    have hout : d ∉ u := fun hmem => by
      rcases hd with rfl | rfl
      · exact (hu _ hmem).1 rfl
      · exact (hu _ hmem).2 rfl
    rcases List.append_eq_append_iff.1 ht with ⟨as, -, hbehind⟩ | ⟨_ | ⟨e, bs⟩, hbs, hfront⟩
    · exact hout (hbehind ▸ List.mem_append_right as List.mem_cons_self)
    · rw [List.nil_append] at hfront
      exact hout (hfront ▸ List.mem_cons_self)
    · obtain ⟨rfl, -⟩ := List.cons.inj hfront
      exact unquoted_ne_of_blanked h hbs hd hstart hq

end Script
end SchemaMap
