/-
# What stands behind a column list

The column list of a table ends with the parenthesis that closes it, and what stands behind it is not
looked at. Nor does it reach back into the list: the parenthesis is in code, opens nothing and goes on
with nothing, so the regions up to it are the same whatever follows, in the statement as in the
statement without its comments. And the words in front of the name are read as they are in front of
the parenthesis that opens the list.

Key definitions: `Script.Leaves`, `Script.ReadsInFront`.
Key theorems: `Script.tableHead?_leaves`, `Script.tableHead?_in_front`, `Script.mark_closed`,
`Script.tableDeclared?_closed`, `Script.tableDeclared?_append`.
-/
import SchemaMap.Proofs.Script.Statements
import SchemaMap.Proofs.Script.Parts
import SchemaMap.Proofs.Text.Pattern

namespace SchemaMap
namespace Script

open Text

/-! ### What the head of a table is read from -/

/-- What is left of a text behind characters that open nothing, of which the last one is a blank. -/
def Leaves (cs r : List Char) : Prop :=
  ∃ front, cs = front ++ r ∧ (∀ c ∈ front, IsCalm c) ∧ ∀ c ∈ front.getLast?, isBlank c = true

theorem Leaves.refl (cs : List Char) : Leaves cs cs :=
  ⟨[], rfl, List.forall_mem_nil _, fun _ h => nomatch h⟩

theorem Leaves.trans {cs ds r : List Char} (h : Leaves cs ds) (h' : Leaves ds r) : Leaves cs r := by
  obtain ⟨front, rfl, hcalm, hlast⟩ := h
  obtain ⟨more, rfl, hcalm', hlast'⟩ := h'
  refine ⟨front ++ more, (List.append_assoc _ _ _).symm,
    List.forall_mem_append.2 ⟨hcalm, hcalm'⟩, fun c hc => ?_⟩
  rw [List.getLast?_append, Option.mem_def, Option.or_eq_some_iff] at hc
  rcases hc with hc | ⟨-, hc⟩
  · exact hlast' c hc
  · exact hlast c hc

theorem leaves_skipBlanks (cs : List Char) : Leaves cs (skipBlanks cs) := by
  have hblank : ∀ c ∈ cs.takeWhile isBlank, isBlank c = true := fun c hc =>
    List.all_eq_true.1 List.all_takeWhile c hc
  exact ⟨cs.takeWhile isBlank, List.takeWhile_append_dropWhile.symm,
    fun c hc => isCalm_of_isBlank (hblank c hc), fun c hc => hblank c (List.mem_of_getLast? hc)⟩

/-- The letters of a word, in either case, open nothing. -/
theorem isCalm_of_letter {c : Char} (h : isAsciiLetter (caseFold c) = true) : IsCalm c :=
  isCalm_of_class (p := fun c => isAsciiLetter (caseFold c)) (by decide) h

/-- A word of letters. -/
def IsKeyword (w : String) : Prop :=
  ∀ c ∈ w.toList, isAsciiLetter c = true

instance (w : String) : Decidable (IsKeyword w) :=
  List.decidableBAll _ w.toList

theorem keywords?_leaves : ∀ {words : List String} {cs r : List Char},
    (∀ w ∈ words, IsKeyword w) → keywords? words cs = some r → Leaves cs r
  | [], cs, r, _, h => by
    obtain rfl := Option.some.inj h
    exact .refl cs
  | w :: ws, cs, r, hw, h => by
    obtain ⟨front, gap, b, hcs, hfront, hne, hgap, h⟩ := keywords?_eq_some h
    have hletters : ∀ c ∈ front, IsCalm c := fun c hc =>
      isCalm_of_letter (hw w List.mem_cons_self _ (hfront ▸ List.mem_map_of_mem hc))
    have hblanks : ∀ c ∈ gap, IsCalm c := fun c hc => isCalm_of_isBlank (hgap c hc)
    have hword : Leaves cs b := by
      refine ⟨front ++ gap, by rw [hcs, List.append_assoc],
        List.forall_mem_append.2 ⟨hletters, hblanks⟩, fun c hc => ?_⟩
      rw [List.getLast?_append_of_ne_nil _ hne] at hc
      exact hgap c (List.mem_of_getLast? hc)
    exact hword.trans (keywords?_leaves (fun v hv => hw v (List.mem_cons_of_mem w hv)) h)

theorem oneKeyword?_leaves : ∀ {words : List String} {cs r : List Char},
    (∀ w ∈ words, IsKeyword w) → oneKeyword? words cs = some r → Leaves cs r
  | [], _, _, _, h => nomatch h
  | w :: ws, cs, r, hw, h => by
    rw [oneKeyword?, Option.or_eq_some_iff] at h
    rcases h with h | ⟨-, h⟩
    · exact keywords?_leaves (List.forall_mem_singleton.2 (hw w List.mem_cons_self)) h
    · exact oneKeyword?_leaves (fun v hv => hw v (List.mem_cons_of_mem w hv)) h

theorem orSkip_leaves {p : List Char → Option (List Char)} {cs : List Char}
    (h : ∀ r, p cs = some r → Leaves cs r) : Leaves cs (orSkip p cs) := by
  unfold orSkip
  cases hp : p cs with
  | none => exact .refl cs
  | some r => exact h r hp

/-- The name of a table stands behind words and white space. -/
theorem tableHead?_leaves {cs r : List Char} (h : tableHead? cs = some r) : Leaves cs r := by
  unfold tableHead? at h
  obtain ⟨a, ha, h⟩ := Option.bind_eq_some_iff.1 h
  obtain ⟨b, hb, h⟩ := Option.bind_eq_some_iff.1 h
  obtain rfl := Option.some.inj h
  have hcreate : Leaves cs a := (leaves_skipBlanks cs).trans (keywords?_leaves (by decide) ha)
  have hreplace (t : List Char) : Leaves t (orSkip (keywords? ["OR", "REPLACE"]) t) :=
    orSkip_leaves fun _ => keywords?_leaves (by decide)
  have hscope (t : List Char) : Leaves t (orSkip (oneKeyword? ["GLOBAL", "LOCAL"]) t) :=
    orSkip_leaves fun _ => oneKeyword?_leaves (by decide)
  have hkind (t : List Char) :
      Leaves t (orSkip (oneKeyword? ["TEMP", "TEMPORARY", "UNLOGGED"]) t) :=
    orSkip_leaves fun _ => oneKeyword?_leaves (by decide)
  have htable : Leaves _ b := keywords?_leaves (by decide) hb
  have hexists : Leaves b (orSkip (keywords? ["IF", "NOT", "EXISTS"]) b) :=
    orSkip_leaves fun _ => keywords?_leaves (by decide)
  exact hcreate.trans
    ((hreplace _).trans ((hscope _).trans ((hkind _).trans (htable.trans hexists))))

/-! ### In front of a parenthesis -/

/-- A pattern reads in front of an opening parenthesis what it reads in front of nothing. -/
def ReadsInFront (p : List Char → Option (List Char)) : Prop :=
  ∀ cs z, p (cs ++ '(' :: z) = (p cs).map (· ++ '(' :: z)

theorem skipBlanks_in_front : ∀ cs z : List Char,
    skipBlanks (cs ++ '(' :: z) = skipBlanks cs ++ '(' :: z
  | [], _ => rfl
  | c :: cs, z => by
    by_cases hc : isBlank c = true
    · rw [List.cons_append, skipBlanks_blank hc, skipBlanks_blank hc, skipBlanks_in_front cs z]
    · rw [Bool.not_eq_true] at hc
      rw [List.cons_append, skipBlanks_of_head hc, skipBlanks_of_head hc, List.cons_append]

theorem blanks?_in_front : ReadsInFront blanks?
  | [], _ => rfl
  | c :: cs, z => by
    rw [List.cons_append, blanks?, blanks?, skipBlanks_in_front]
    split <;> rfl

theorem keyword?_in_front : ∀ {word : List Char}, '(' ∉ word → ReadsInFront (keyword? word)
  | [], _, _, _ => rfl
  | w :: ws, h, [], z => if_neg fun he : '(' = w => h (he ▸ List.mem_cons_self)
  | w :: ws, h, c :: cs, z => by
    have ih := keyword?_in_front (fun hm => h (List.mem_cons_of_mem w hm)) cs z
    rw [List.cons_append, keyword?, keyword?, ih]
    split <;> rfl

theorem keywords?_in_front : ∀ {words : List String}, (∀ w ∈ words, '(' ∉ w.toList) →
    ReadsInFront (keywords? words)
  | [], _, _, _ => rfl
  | w :: ws, h, cs, z => by
    have ih := keywords?_in_front fun v hv => h v (List.mem_cons_of_mem w hv)
    rw [keywords?, keywords?, keyword?_in_front (h w List.mem_cons_self)]
    cases keyword? w.toList cs with
    | none => rfl
    | some a =>
      rw [Option.map_some, Option.bind_some, Option.bind_some, blanks?_in_front]
      cases blanks? a with
      | none => rfl
      | some b => exact ih b z

theorem oneKeyword?_in_front : ∀ {words : List String}, (∀ w ∈ words, '(' ∉ w.toList) →
    ReadsInFront (oneKeyword? words)
  | [], _, _, _ => rfl
  | w :: ws, h, cs, z => by
    have ih := oneKeyword?_in_front fun v hv => h v (List.mem_cons_of_mem w hv)
    rw [oneKeyword?, oneKeyword?, ih,
      keywords?_in_front (List.forall_mem_singleton.2 (h w List.mem_cons_self)), Option.map_or]

theorem ReadsInFront.orSkip_eq {p : List Char → Option (List Char)} (h : ReadsInFront p)
    (cs z : List Char) : orSkip p (cs ++ '(' :: z) = orSkip p cs ++ '(' :: z := by
  unfold orSkip
  rw [h]
  cases p cs <;> rfl

theorem tableHead?_in_front : ReadsInFront tableHead? := by
  intro cs z
  unfold tableHead?
  rw [skipBlanks_in_front, keywords?_in_front (by decide)]
  cases keywords? ["CREATE"] (skipBlanks cs) with
  | none => rfl
  | some a =>
    simp only [Option.map_some, Option.bind_eq_bind, Option.bind_some]
    rw [(keywords?_in_front (by decide)).orSkip_eq, (oneKeyword?_in_front (by decide)).orSkip_eq,
      (oneKeyword?_in_front (by decide)).orSkip_eq, keywords?_in_front (by decide)]
    cases keywords? ["TABLE"] _ with
    | none => rfl
    | some b => exact congrArg some ((keywords?_in_front (by decide)).orSkip_eq b z)

/-! ### Regions up to a parenthesis -/

theorem reads_code (rest : List Char) : ∀ {t : List Char} (p : Option Char),
    (∀ c ∈ t, IsCalm c) → Reads rest (.code p) t (allIn .code t) (.code (t.getLast?.or p))
  | [], p, _ => .nil _
  | c :: t, p, h => by
    have ih := reads_code rest (some c) fun d hd => h d (List.mem_cons_of_mem c hd)
    have hlast : (c :: t).getLast?.or p = t.getLast?.or (some c) := by
      rw [List.getLast?_cons]
      cases t.getLast? <;> rfl
    rw [hlast]
    exact .cons_of_step (opened_of_isCalm (h c List.mem_cons_self) p (t ++ rest)) ih

/-- What is left behind words and white space has the regions it has by itself. -/
theorem Leaves.tagged_eq {cs r : List Char} (h : Leaves cs r) :
    ∃ front, cs = front ++ r ∧ tagged cs = allIn .code front ++ tagged r := by
  obtain ⟨front, rfl, hcalm, hlast⟩ := h
  have hword : (front.getLast?.or none).any continuesWord = false := by
    rw [Option.or_none]
    cases hc : front.getLast? with
    | none => rfl
    | some c => exact continuesWord_of_isBlank (hlast c hc)
  refine ⟨front, rfl, ?_⟩
  rw [tagged, (reads_code _ none hcalm).mark_eq, mark_code_congr (q := none) hword, tagged]

/-- **Up to a closing parenthesis in code, regions do not depend on what follows it.** -/
theorem mark_closed {m : Mark} (hm : Opened m) {cs : List Char} {g post : Tagged}
    (h : mark m cs = g ++ (')', .code) :: post) :
    ∃ v, cs = chars g ++ ')' :: v ∧
      ∀ w, mark m (chars g ++ ')' :: w) = g ++ (')', .code) :: mark (.code (some ')')) w := by
  obtain ⟨t, rest, n, rfl, hreads, hrest⟩ := reads_of_mark h
  obtain rfl := hreads.chars_eq
  cases rest with
  | nil => cases hrest
  | cons c v =>
    obtain ⟨hx, -⟩ := List.cons.inj hrest
    obtain ⟨rfl, hregion⟩ := Prod.mk.inj hx
    obtain ⟨-, hnext⟩ := code_of_region (hreads.opened hm) hregion (by decide)
    have hclosed := hreads.concat
    rw [hregion, hnext] at hclosed
    refine ⟨v, rfl, fun w => ?_⟩
    have hw := (hclosed.ended (by decide) (by decide) w).mark_eq
    rwa [List.append_assoc, List.append_assoc] at hw

/-! ### The column list -/

/-- What `splitAtOpen?` cuts off holds no opening parenthesis in code. -/
theorem splitAtOpen?_eq_some : ∀ {g more : Tagged} {before : List Char},
    splitAtOpen? g = some (before, more) →
      ∃ front, g = front ++ ('(', .code) :: more ∧ before = chars front ∧
        ∀ x ∈ front, x ≠ ('(', .code)
  | [], _, _, h => nomatch h
  | x :: g, more, before, h => by
    rw [splitAtOpen?] at h
    split at h
    · rename_i hx
      cases h
      exact ⟨[], by rw [hx]; rfl, rfl, List.forall_mem_nil _⟩
    · rename_i hx
      obtain ⟨⟨b, m⟩, hb, hbm⟩ := Option.map_eq_some_iff.1 h
      obtain ⟨rfl, rfl⟩ := Prod.mk.inj hbm
      obtain ⟨front, rfl, rfl, hfree⟩ := splitAtOpen?_eq_some hb
      exact ⟨x :: front, rfl, rfl, List.forall_mem_cons.2 ⟨hx, hfree⟩⟩

/-- The body of a column list stands in front of a closing parenthesis in code, and is the body
whatever follows that. -/
theorem bodyUpToClose?_eq_some : ∀ {g : Tagged} {d : Nat} {body : List Char},
    bodyUpToClose? d g = some body →
      ∃ inner post, g = inner ++ (')', .code) :: post ∧ chars inner = body ∧
        ∀ more, bodyUpToClose? d (inner ++ (')', .code) :: more) = some body
  | [], _, _, h => nomatch h
  | x :: g, d, body, h => by
    by_cases hx : x = (')', .code)
    · subst hx
      cases d with
      | zero => exact ⟨[], g, rfl, Option.some.inj h, fun _ => h⟩
      | succ d =>
        have hclose (g : Tagged) : bodyUpToClose? (d + 1) ((')', .code) :: g) =
            (bodyUpToClose? d g).map (')' :: ·) := rfl
        rw [hclose] at h
        obtain ⟨b, hb, rfl⟩ := Option.map_eq_some_iff.1 h
        obtain ⟨inner, post, rfl, rfl, hinner⟩ := bodyUpToClose?_eq_some hb
        refine ⟨(')', .code) :: inner, post, rfl, rfl, fun more => ?_⟩
        rw [List.cons_append, hclose, hinner, Option.map_some]
    · rw [bodyUpToClose?_cons hx] at h
      obtain ⟨b, hb, rfl⟩ := Option.map_eq_some_iff.1 h
      obtain ⟨inner, post, rfl, rfl, hinner⟩ := bodyUpToClose?_eq_some hb
      refine ⟨x :: inner, post, rfl, rfl, fun more => ?_⟩
      rw [List.cons_append, bodyUpToClose?_cons hx, hinner, Option.map_some]

/-! ### Statements -/

theorem chars_uncommented (g : Tagged) : chars (g.map uncommented) = g.map blanked := by
  rw [chars, List.map_map]
  rfl

theorem uncommented_eq_close {x : Char × Region} (h : uncommented x = (')', .code)) :
    x = (')', .code) := by
  obtain ⟨c, region⟩ := x
  cases region with
  | comment =>
    have hchar : blanked (c, .comment) = ')' := congrArg Prod.fst h
    rcases blanked_comment c with hb | hb
    · rw [hb] at hchar
      exact absurd hchar (by decide)
    · rw [hb] at hchar
      exact absurd hchar (by decide)
  | quoted => cases congrArg Prod.snd h
  | code => exact h

/-- Up to a parenthesis that is in code without the comments, a statement reads alike whatever
follows. -/
theorem withoutComments_closed {s : List Char} {g post : Tagged}
    (h : tagged (withoutComments s) = g ++ (')', .code) :: post) :
    ∃ u v, s = u ++ ')' :: v ∧
      ∀ w, ∃ y, withoutComments (u ++ ')' :: w) = chars g ++ ')' :: y := by
  rw [tagged_withoutComments, List.map_eq_append_iff] at h
  obtain ⟨front, more, hs, rfl, hmore⟩ := h
  obtain ⟨x, back, rfl, hx, -⟩ := List.map_eq_cons_iff.1 hmore
  obtain rfl := uncommented_eq_close hx
  obtain ⟨v, hv, hclosed⟩ := mark_closed (.inl ⟨none, rfl⟩) hs
  refine ⟨chars front, v, hv, fun w => ⟨(mark (.code (some ')')) w).map blanked, ?_⟩⟩
  rw [withoutComments, tagged, hclosed w, List.map_append, chars_uncommented]
  rfl

/-- What is read of a table is read behind the head of the statement, up to the parenthesis that
closes the column list. -/
theorem tableDeclared?_eq_some {s : List Char} {r : TableText} (h : tableDeclared? s = some r) :
    ∃ rest name list post, tableHead? (withoutComments s) = some rest ∧
      tagged rest = name ++ ('(', .code) :: (list ++ (')', .code) :: post) ∧
      ∀ t back more, tableHead? (withoutComments t) = some back →
        tagged back = name ++ ('(', .code) :: (list ++ (')', .code) :: more) →
          tableDeclared? t = some r := by
  unfold tableDeclared? at h
  obtain ⟨rest, hhead, hbehind⟩ := Option.bind_eq_some_iff.1 h
  obtain ⟨⟨before, more⟩, hsplit, hnamed⟩ := Option.bind_eq_some_iff.1 hbehind
  obtain ⟨⟨⟩, hone, hcut⟩ := Option.bind_eq_some_iff.1 hnamed
  obtain ⟨body, hbody, hr⟩ := Option.bind_eq_some_iff.1 hcut
  obtain ⟨name, hrest, rfl, hfree⟩ := splitAtOpen?_eq_some hsplit
  obtain ⟨list, post, rfl, -, hlist⟩ := bodyUpToClose?_eq_some hbody
  refine ⟨rest, name, list, post, hhead, hrest, fun t back more hback htagged => ?_⟩
  have hsplit' : splitAtOpen? (tagged back) = some (chars name, list ++ (')', .code) :: more) := by
    rw [htagged, splitAtOpen?_append _ hfree]
  unfold tableDeclared?
  refine Option.bind_eq_some_iff.2 ⟨back, hback, ?_⟩
  refine Option.bind_eq_some_iff.2 ⟨_, hsplit', ?_⟩
  refine Option.bind_eq_some_iff.2 ⟨(), hone, ?_⟩
  exact Option.bind_eq_some_iff.2 ⟨body, hlist more, hr⟩

/-- A table is read up to the parenthesis that closes its column list, whatever follows. -/
theorem tableDeclared?_closed {s : List Char} {r : TableText} (h : tableDeclared? s = some r) :
    ∃ u v, s = u ++ ')' :: v ∧ ∀ w, tableDeclared? (u ++ ')' :: w) = some r := by
  obtain ⟨rest, name, list, post, hhead, hrest, hread⟩ := tableDeclared?_eq_some h
  have hclose (more : Tagged) : name ++ ('(', .code) :: (list ++ (')', .code) :: more) =
      name ++ ('(', .code) :: list ++ (')', .code) :: more := by
    rw [List.append_assoc, List.cons_append]
  obtain ⟨v, rfl, hafter⟩ := mark_closed (.inl ⟨none, rfl⟩) (hrest.trans (hclose post))
  -- the statement up to the same parenthesis, comments included
  obtain ⟨words, hwords, hregions⟩ := (tableHead?_leaves hhead).tagged_eq
  rw [hrest, hclose, ← List.append_assoc] at hregions
  obtain ⟨u, v', hs, hu⟩ := withoutComments_closed hregions
  refine ⟨u, v', hs, fun w => ?_⟩
  obtain ⟨y, hy⟩ := hu w
  refine hread _ _ _ ?_ ((hafter y).trans (hclose _).symm)
  -- its head is read in front of the parenthesis that opens the list
  have hopen (z : List Char) : words ++ (chars (name ++ ('(', .code) :: list) ++ ')' :: z) =
      words ++ chars name ++ '(' :: (chars list ++ ')' :: z) := by
    simp [chars]
  rw [hwords, hopen, tableHead?_in_front] at hhead
  obtain ⟨named, hnamed, hsame⟩ := Option.map_eq_some_iff.1 hhead
  have hname : named = chars name := by
    simpa [chars] using hsame
  have hy' : withoutComments (u ++ ')' :: w) =
      words ++ chars name ++ '(' :: (chars list ++ ')' :: y) := by
    rw [hy]
    simp [chars, allIn, Function.comp_def]
  rw [hy', tableHead?_in_front, hnamed, hname]
  simp [chars]

/-- White space in front of a statement does not change what is read of it. -/
theorem tableDeclared?_behind_blanks {gap : List Char} (h : ∀ c ∈ gap, isBlank c = true)
    (cs : List Char) : tableDeclared? (gap ++ cs) = tableDeclared? cs := by
  have hleaves : Leaves (gap ++ cs) cs := ⟨gap, rfl, fun c hc => isCalm_of_isBlank (h c hc),
    fun c hc => h c (List.mem_of_getLast? hc)⟩
  obtain ⟨front, hfront, htagged⟩ := hleaves.tagged_eq
  obtain rfl := List.append_cancel_right hfront
  have hkept : (allIn .code gap).map blanked = gap := by
    rw [allIn, List.map_map]
    exact List.map_id gap
  have hcomments : withoutComments (gap ++ cs) = gap ++ withoutComments cs := by
    rw [withoutComments, htagged, List.map_append, hkept, ← withoutComments]
  have hhead : tableHead? (withoutComments (gap ++ cs)) = tableHead? (withoutComments cs) := by
    rw [hcomments, tableHead?, skipBlanks_append h, ← tableHead?]
  rw [tableDeclared?, hhead, ← tableDeclared?]

/-- **What follows the column list is ignored.** -/
theorem tableDeclared?_append {s : List Char} {r : TableText} (h : tableDeclared? s = some r)
    (t : List Char) : tableDeclared? (s ++ t) = some r := by
  obtain ⟨u, v, rfl, hu⟩ := tableDeclared?_closed h
  rw [List.append_assoc, List.cons_append]
  exact hu (v ++ t)

/-- A parenthesis, a quotation and a comment that are not closed behind the list. -/
theorem tableDeclared?_append_open :
    tableDeclared? "CREATE TABLE t (a int)".toList = some ⟨["t"], [⟨"a", some "int"⟩]⟩ ∧
    tableDeclared? ("CREATE TABLE t (a int)".toList ++ ")) ( 'x /* $q$ --".toList) =
      some ⟨["t"], [⟨"a", some "int"⟩]⟩ := by
  have h : tableDeclared? "CREATE TABLE t (a int)".toList =
      some ⟨["t"], [⟨"a", some "int"⟩]⟩ := by decide +kernel
  exact ⟨h, tableDeclared?_append h _⟩

end Script
end SchemaMap
