/-
# Reading the regions of a script by places

The regions of a script can be read by jumping from place to place: what starts at a place tells
how far it goes, by a search for what closes it, and reading goes on behind that. Each kind of
region has a search of its own, which may find nothing or start at the end of the text. All the
same no search asks for a character that is not there, and every turn takes at least one character
and at most all that are left (`turnAt_eq`). So the turns come to the end of the text, and they give
every character the region that the reader of regions gives it (`regions_eq`), with its position.

Key definitions: `Script.Located`, `Script.regionAt`, `Script.turnAt`, `Script.regions`,
`Script.Mark.reach`.
Key theorems: `Script.findText_eq`, `Script.regionAt_eq`, `Script.mark_reach`, `Script.turnAt_eq`,
`Script.length_le_of_turns`, `Script.regions_eq`.
-/
import SchemaMap.Proofs.Script.Ahead
import SchemaMap.Proofs.Script.PostgresStatements
import SchemaMap.Proofs.Text.Slice

namespace SchemaMap
namespace Script

open Postgres (lengthThrough mark_line mark_opening mark_through)

/-! ### Places -/

/-- The characters of a text with their positions. -/
abbrev Located := List (Nat × Char)

/-- The characters of a text, each with the number of bytes in front of it. -/
def located (text : List Char) : Located :=
  positioned Char.utf8Size 0 text

section

variable {cs : Located} {i : Nat} {c : Char} {t : List Char}

/-- The text from a place on. -/
def textFrom (cs : Located) (i : Nat) : List Char :=
  (cs.drop i).map (·.2)

/-- The character at a place. -/
def charAt (cs : Located) (i : Nat) : Except Stray Char :=
  match cs[i]? with
  | some x => .ok x.2
  | none => .error (.character i)

/-- The characters from one place up to another. -/
def between (cs : Located) (start stop : Nat) : Except Stray Located :=
  if start ≤ stop ∧ stop ≤ cs.length then .ok (cs.extract start stop)
  else .error (.characters start stop)

/-- The character in front of a place. -/
def previous (cs : Located) (i : Nat) : Option Char :=
  if i = 0 then none else cs[i - 1]?.map (·.2)

theorem length_textFrom (cs : Located) (i : Nat) : (textFrom cs i).length = cs.length - i := by
  simp [textFrom]

theorem textFrom_add (cs : Located) (i k : Nat) : textFrom cs (i + k) = (textFrom cs i).drop k := by
  rw [textFrom, textFrom, ← List.map_drop, List.drop_drop]

theorem getElem?_textFrom (cs : Located) (i k : Nat) :
    (textFrom cs i)[k]? = cs[i + k]?.map (·.2) := by
  rw [textFrom, List.getElem?_map, List.getElem?_drop]

theorem exists_textFrom_eq_cons (h : i < cs.length) : ∃ c t, textFrom cs i = c :: t := by
  refine List.exists_cons_of_ne_nil (List.ne_nil_of_length_pos ?_)
  rw [length_textFrom]
  omega

theorem length_eq_of_textFrom (h : textFrom cs i = c :: t) : cs.length = i + (t.length + 1) := by
  have hlen := length_textFrom cs i
  rw [h, List.length_cons] at hlen
  omega

theorem lt_length_of_textFrom (h : textFrom cs i = c :: t) : i < cs.length := by
  have hlen := length_eq_of_textFrom h
  omega

theorem textFrom_succ (h : textFrom cs i = c :: t) : textFrom cs (i + 1) = t := by
  rw [textFrom_add, h]
  rfl

theorem charAt_eq (h : textFrom cs i = c :: t) : charAt cs i = .ok c := by
  have hc := getElem?_textFrom cs i 0
  rw [h, Nat.add_zero] at hc
  obtain ⟨x, hx, rfl⟩ := Option.map_eq_some_iff.1 hc.symm
  rw [charAt, hx]

/-- Behind some characters, the one before is the last of them. -/
theorem previous_add {k : Nat} (hk : k < (textFrom cs i).length) :
    previous cs (i + (k + 1)) = ((textFrom cs i).take (k + 1)).getLast? := by
  have hchar : (textFrom cs i)[k]? = cs[i + k]?.map (·.2) := getElem?_textFrom cs i k
  rw [List.getElem?_eq_getElem hk] at hchar
  rw [previous, if_neg (by omega), List.getLast?_take, if_neg (Nat.succ_ne_zero k),
    ← Nat.add_assoc, Nat.add_sub_cancel, Nat.add_sub_cancel, ← hchar,
    List.getElem?_eq_getElem hk, Option.some_or]

/-! ### Searches -/

/-- The place of the first character `c` from the place `start` on. -/
def findChar? (cs : Located) (start : Nat) (c : Char) : Option Nat :=
  ((textFrom cs start).findIdx? (· == c)).map (start + ·)

/-- Whether the characters of `part` stand from a place on. -/
def standsAt (cs : Located) : (part : List Char) → Nat → Except Stray Bool
  | [], _ => .ok true
  | c :: part, i => do
    if (← charAt cs i) = c then standsAt cs part (i + 1) else return false

/-- Whether `part` occurs at a place; where the text is too short for it, nothing is looked at. -/
def occursAt (cs : Located) (part : List Char) (i : Nat) : Except Stray Bool :=
  if part.length ≤ cs.length - i then standsAt cs part i else .ok false

/-- The place of the first occurrence of `part` from the place `start` on. -/
def findText (cs : Located) (part : List Char) (start : Nat) : Except Stray (Option Nat) :=
  if start < cs.length then do
    if ← occursAt cs part start then return some start
    else findText cs part (start + 1)
  else .ok none
termination_by cs.length - start

/-- The place behind `length` characters from what was found, or the end of the text. -/
def stopBehind (cs : Located) (length : Nat) (found : Option Nat) : Nat :=
  found.elim cs.length (· + length)

theorem standsAt_eq : ∀ {part : List Char} {i : Nat}, part.length ≤ (textFrom cs i).length →
    standsAt cs part i = .ok (decide (part <+: textFrom cs i))
  | [], i, _ => by simp [standsAt]
  | d :: part, i, h => by
    obtain ⟨c, t, ht⟩ := List.exists_cons_of_length_pos (Nat.lt_of_lt_of_le (Nat.succ_pos _) h)
    rw [ht] at h
    have hmore := textFrom_succ ht
    have ih : standsAt cs part (i + 1) = .ok (decide (part <+: t)) := by
      rw [standsAt_eq (by rw [hmore]; exact Nat.le_of_succ_le_succ h), hmore]
    rw [standsAt, charAt_eq ht, ok_bind, ht]
    by_cases hc : c = d
    · simp [hc, ih]
    · have hnot : ¬d :: part <+: c :: t := fun h => hc (List.cons_prefix_cons.1 h).1.symm
      rw [if_neg hc, decide_eq_false hnot]
      rfl

theorem occursAt_eq (cs : Located) (part : List Char) (i : Nat) :
    occursAt cs part i = .ok (decide (part <+: textFrom cs i)) := by
  have hlen := length_textFrom cs i
  rw [occursAt]
  split
  · exact standsAt_eq (by omega)
  · rename_i hlong
    have hnot : ¬part <+: textFrom cs i := fun h => hlong (hlen ▸ h.length_le)
    rw [decide_eq_false hnot]

theorem findText_eq {part : List Char} (hne : part ≠ []) : ∀ {t : List Char} {i : Nat},
    textFrom cs i = t → i ≤ cs.length →
      ∃ found, findText cs part i = .ok found ∧
        stopBehind cs part.length found = i + lengthThrough part t
  | [], i, ht, hi => by
    have hlen := length_textFrom cs i
    rw [ht, List.length_nil] at hlen
    refine ⟨none, ?_, ?_⟩
    · rw [findText, if_neg (by omega)]
    · rw [stopBehind, Option.elim_none, lengthThrough]
      omega
  | c :: t, i, ht, hi => by
    rw [findText, if_pos (lt_length_of_textFrom ht), occursAt_eq, ok_bind, ht, lengthThrough]
    by_cases hpre : part <+: c :: t
    · refine ⟨some i, ?_, ?_⟩
      · rw [decide_eq_true hpre, if_pos rfl]
        rfl
      · rw [if_pos hpre]
        rfl
    · obtain ⟨found, hfound, hstop⟩ := findText_eq hne (textFrom_succ ht) (lt_length_of_textFrom ht)
      refine ⟨found, ?_, ?_⟩
      · rw [decide_eq_false hpre, if_neg Bool.false_ne_true, hfound]
      · rw [hstop, if_neg hpre]
        omega

theorem elim_findIdx? (c : Char) : ∀ t : List Char,
    (t.findIdx? (· == c)).elim t.length (· + 1) = lengthThrough [c] t
  | [] => rfl
  | d :: t => by
    rw [List.findIdx?_cons, lengthThrough, ← elim_findIdx? c t]
    by_cases hd : d = c
    · simp [hd]
    · cases List.findIdx? (· == c) t <;> simp [hd, Ne.symm hd]

theorem getD_findIdx? (c : Char) : ∀ t : List Char,
    (t.findIdx? (· == c)).getD t.length = (t.takeWhile (· != c)).length
  | [] => rfl
  | d :: t => by
    rw [List.findIdx?_cons, List.takeWhile_cons]
    by_cases hd : d = c
    · simp [hd]
    · have hne : (d != c) = true := bne_iff_ne.2 hd
      rw [if_neg (by simpa using hd), if_pos hne, List.length_cons, List.length_cons,
        ← getD_findIdx? c t]
      cases List.findIdx? (· == c) t <;> rfl

theorem stopBehind_findChar? (hi : i ≤ cs.length) (ht : textFrom cs i = t) (c : Char) :
    stopBehind cs 1 (findChar? cs i c) = i + lengthThrough [c] t := by
  have hlen := length_textFrom cs i
  rw [ht] at hlen
  rw [findChar?, ht, ← elim_findIdx?, stopBehind]
  cases List.findIdx? (· == c) t with
  | none =>
    change cs.length = i + t.length
    omega
  | some k => exact Nat.add_assoc i k 1

/-- Where what is found is not taken in, the text in front of it is. -/
theorem stopBehind_line (hi : i ≤ cs.length) (ht : textFrom cs i = t) (c : Char) :
    stopBehind cs 0 (findChar? cs i c) = i + (t.takeWhile (· != c)).length := by
  have hlen := length_textFrom cs i
  rw [ht] at hlen
  rw [findChar?, ht, ← getD_findIdx?, stopBehind]
  cases List.findIdx? (· == c) t with
  | none =>
    change cs.length = i + t.length
    omega
  | some k => rfl

/-! ### What starts at a place -/

/-- The dollar tag that opens at a place. -/
def tagAt (cs : Located) (i : Nat) : Except Stray (Option (List Char)) :=
  if i = 0 then .ok (dollarTag? none (textFrom cs (i + 1)))
  else do
    let before ← charAt cs (i - 1)
    return dollarTag? (some before) (textFrom cs (i + 1))

/-- The region that starts at a place with the character `c` in front of `next`, and the place where
it stops. -/
def regionOf (cs : Located) (i : Nat) (c : Char) (next : Option Char) :
    Except Stray (Region × Nat) := do
  if c = '-' ∧ next = some '-' then
    return (.comment, stopBehind cs 0 (findChar? cs (i + 2) '\n'))
  else if c = '/' ∧ next = some '*' then
    return (.comment, stopBehind cs 2 (← findText cs ['*', '/'] (i + 2)))
  else if c = '\'' ∨ c = '"' ∨ c = '`' then
    return (.quoted, stopBehind cs 1 (findChar? cs (i + 1) c))
  else if c = '[' then
    return (.quoted, stopBehind cs 1 (findChar? cs (i + 1) ']'))
  else if c = '$' then
    match ← tagAt cs i with
    | some tag =>
      return (.quoted, stopBehind cs tag.length (← findText cs tag (i + tag.length)))
    | none => return (.code, i + 1)
  else return (.code, i + 1)

/-- The region that starts at a place, and the place where it stops. -/
def regionAt (cs : Located) (i : Nat) : Except Stray (Region × Nat) := do
  let c ← charAt cs i
  regionOf cs i c (cs[i + 1]?.map (·.2))

/-- The number of characters of a text that belong to what the reader is inside of. -/
def Mark.reach : Mark → List Char → Nat
  | .code _, _ => 0
  | .inside _ n stop, t => n + lengthThrough stop (t.drop n)
  | .closing _ n, _ => n + 1
  | .line n, t => n + ((t.drop n).takeWhile (· != '\n')).length

theorem tagAt_eq (h : textFrom cs i = c :: t) :
    tagAt cs i = .ok (dollarTag? (previous cs i) t) := by
  have hi := lt_length_of_textFrom h
  rw [tagAt, textFrom_succ h]
  by_cases h0 : i = 0
  · rw [if_pos h0, previous, if_pos h0]
  · have hx : cs[i - 1]? = some cs[i - 1] := List.getElem?_eq_getElem (by omega)
    rw [if_neg h0, previous, if_neg h0, charAt, hx]
    rfl

theorem exists_tagRest?_append : ∀ {first : Bool} {t r : List Char}, tagRest? first t = some r →
    ∃ rest, t = r ++ rest
  | _, [], _, h => nomatch h
  | first, c :: t, r, h => by
    by_cases hc : c = '$'
    · subst hc
      cases h
      exact ⟨t, rfl⟩
    · rw [tagRest?.eq_3 _ _ _ hc] at h
      split at h
      · obtain ⟨r, hr, rfl⟩ := Option.map_eq_some_iff.1 h
        obtain ⟨rest, rfl⟩ := exists_tagRest?_append hr
        exact ⟨rest, rfl⟩
      · cases h

/-- A dollar tag starts with the dollar sign, and goes on with the text behind that. -/
theorem exists_dollarTag?_append {p : Option Char} {tag : List Char}
    (h : dollarTag? p t = some tag) : ∃ r rest, tag = '$' :: r ∧ t = r ++ rest := by
  rw [dollarTag?] at h
  split at h
  · cases h
  · obtain ⟨r, hr, rfl⟩ := Option.map_eq_some_iff.1 h
    obtain ⟨rest, rfl⟩ := exists_tagRest?_append hr
    exact ⟨r, rest, rfl, rfl⟩

theorem regionOf_line {rest : List Char} (h : textFrom cs i = '-' :: '-' :: rest) :
    regionOf cs i '-' (some '-') = .ok (.comment, i + 1 + (Mark.line 1).reach ('-' :: rest)) := by
  have hlen := length_eq_of_textFrom h
  have hrest : textFrom cs (i + 2) = rest := by rw [textFrom_add, h]; rfl
  have hle : i + 2 ≤ cs.length := by rw [hlen, List.length_cons]; omega
  rw [regionOf, if_pos ⟨rfl, rfl⟩, stopBehind_line hle hrest]
  exact congrArg (fun n => Except.ok (Region.comment, n)) (Nat.add_assoc (i + 1) 1 _)

theorem regionOf_block {rest : List Char} (h : textFrom cs i = '/' :: '*' :: rest) :
    regionOf cs i '/' (some '*') =
      .ok (.comment, i + 1 + (Mark.inside .comment 1 ['*', '/']).reach ('*' :: rest)) := by
  have hlen := length_eq_of_textFrom h
  have hrest : textFrom cs (i + 2) = rest := by rw [textFrom_add, h]; rfl
  have hle : i + 2 ≤ cs.length := by rw [hlen, List.length_cons]; omega
  obtain ⟨found, hfound, hstop⟩ := findText_eq (List.cons_ne_nil '*' ['/']) hrest hle
  rw [regionOf, if_neg (by simp), if_pos ⟨rfl, rfl⟩, hfound, ok_bind]
  exact congrArg (fun n => Except.ok (Region.comment, n))
    (hstop.trans (Nat.add_assoc (i + 1) 1 _))

theorem reach_closer (q : Char) (t : List Char) :
    (Mark.inside .quoted 0 [q]).reach t = lengthThrough [q] t := by
  rw [Mark.reach, List.drop_zero, Nat.zero_add]

theorem regionOf_dollar (h : textFrom cs i = '$' :: t) :
    regionOf cs i '$' t.head? = .ok ((opened (previous cs i) '$' t).1,
      i + 1 + (opened (previous cs i) '$' t).2.reach t) := by
  have hlen := length_eq_of_textFrom h
  have hother : ¬('$' = '\'' ∨ '$' = '"' ∨ '$' = '`') := by decide
  have hopen : opened (previous cs i) '$' t =
    match dollarTag? (previous cs i) t with
    | some tag => (.quoted, .inside .quoted (tag.length - 1) tag)
    | none => (.code, .code (some '$')) := rfl
  rw [regionOf, if_neg (by simp), if_neg (by simp), if_neg hother, if_neg (by decide), if_pos rfl,
    tagAt_eq h, ok_bind, hopen]
  cases htag : dollarTag? (previous cs i) t with
  | none => rfl
  | some tag =>
    obtain ⟨r, rest, rfl, rfl⟩ := exists_dollarTag?_append htag
    have hrest : textFrom cs (i + ('$' :: r).length) = rest := by
      rw [textFrom_add, h, List.length_cons, List.drop_succ_cons, List.drop_left]
    have hle : i + ('$' :: r).length ≤ cs.length := by
      rw [hlen, List.length_cons, List.length_append]
      omega
    obtain ⟨found, hfound, hstop⟩ := findText_eq (List.cons_ne_nil '$' r) hrest hle
    have hreach : (Mark.inside .quoted (('$' :: r).length - 1) ('$' :: r)).reach (r ++ rest) =
        r.length + lengthThrough ('$' :: r) rest := by
      rw [Mark.reach, List.length_cons, Nat.add_sub_cancel, List.drop_left]
    change (findText cs ('$' :: r) (i + ('$' :: r).length) >>= fun found =>
      pure (Region.quoted, stopBehind cs ('$' :: r).length found)) = _
    rw [hfound, ok_bind, hstop, hreach, List.length_cons]
    exact congrArg (fun n => Except.ok (Region.quoted, n)) (by omega)

/-- A character that starts no comment and no quotation is code. -/
theorem opened_code {p : Option Char} (hs : startsComment (c :: t) = false)
    (hq : ¬(c = '\'' ∨ c = '"' ∨ c = '`')) (hb : c ≠ '[') (hd : c ≠ '$') :
    opened p c t = (.code, .code (some c)) := by
  by_cases hdash : c = '-' ∨ c = '/'
  · exact opened_of_not_startsComment hdash hs
  · refine opened_of_isCalm (fun hm => ?_) p t
    simp only [openers, List.mem_cons, List.not_mem_nil, or_false] at hm
    tauto

/-- **What starts at a place goes as far as the reader of regions goes.** -/
theorem regionAt_eq (h : textFrom cs i = c :: t) :
    regionAt cs i = .ok ((opened (previous cs i) c t).1,
      i + 1 + (opened (previous cs i) c t).2.reach t) := by
  have hi : i + 1 ≤ cs.length := lt_length_of_textFrom h
  have hsucc := textFrom_succ h
  have hnext : cs[i + 1]?.map (·.2) = t.head? := by
    rw [← getElem?_textFrom, h, List.getElem?_cons_succ, List.head?_eq_getElem?]
  rw [regionAt, charAt_eq h, ok_bind, hnext]
  by_cases hs : startsComment (c :: t) = true
  · obtain ⟨rest, ⟨rfl, rfl⟩ | ⟨rfl, rfl⟩⟩ := startsComment_cases hs
    · exact regionOf_line h
    · exact regionOf_block h
  · by_cases hd : c = '$'
    · subst hd
      exact regionOf_dollar h
    · rw [Bool.not_eq_true] at hs
      have hline : ¬(c = '-' ∧ t.head? = some '-') := by
        rintro ⟨rfl, ht⟩
        obtain ⟨rest, rfl⟩ := List.head?_eq_some_iff.1 ht
        cases hs
      have hblock : ¬(c = '/' ∧ t.head? = some '*') := by
        rintro ⟨rfl, ht⟩
        obtain ⟨rest, rfl⟩ := List.head?_eq_some_iff.1 ht
        cases hs
      rw [regionOf, if_neg hline, if_neg hblock]
      by_cases hq : c = '\'' ∨ c = '"' ∨ c = '`'
      · have hquote : IsQuote c := by
          unfold IsQuote
          tauto
        rw [if_pos hq, stopBehind_findChar? hi hsucc, opened_quote hquote, reach_closer]
        rfl
      · by_cases hb : c = '['
        · subst hb
          have hopen : opened (previous cs i) '[' t = (.quoted, .inside .quoted 0 [']']) := rfl
          rw [if_neg hq, if_pos rfl, stopBehind_findChar? hi hsucc, hopen, reach_closer]
          rfl
        · rw [if_neg hq, if_neg hb, if_neg hd, opened_code hs hq hb hd]
          rfl

/-! ### How far the reader goes on -/

theorem lengthThrough_le (stop : List Char) : ∀ t : List Char, lengthThrough stop t ≤ t.length
  | [] => Nat.le_refl 0
  | c :: t => by
    rw [lengthThrough]
    split
    · rename_i hpre
      exact hpre.length_le
    · exact Nat.succ_le_succ (lengthThrough_le stop t)

/-- What is gone through ends with the text that was looked for, or with the text. -/
theorem suffix_of_lengthThrough_lt {stop : List Char} : ∀ {t : List Char},
    lengthThrough stop t < t.length → stop <:+ t.take (lengthThrough stop t)
  | c :: t, h => by
    rw [lengthThrough] at h ⊢
    split
    · rename_i hpre
      rw [← List.prefix_iff_eq_take.1 hpre]
    · rename_i hpre
      rw [if_neg hpre] at h
      exact (suffix_of_lengthThrough_lt (Nat.lt_of_succ_lt_succ h)).trans (List.suffix_cons c _)

theorem reach_inside_le {region : Region} {n : Nat} {stop : List Char} (hn : n ≤ t.length) :
    (Mark.inside region n stop).reach t ≤ t.length := by
  have hle := lengthThrough_le stop (t.drop n)
  rw [List.length_drop] at hle
  rw [Mark.reach]
  omega

/-- The reader inside of a region goes through it, and is in code behind the text that closes it. -/
theorem mark_inside {region : Region} {n : Nat} {stop : List Char} (hs : stop ≠ [])
    (hn : n ≤ t.length) (c : Char) :
    mark (.inside region n stop) t =
      allIn region (t.take ((Mark.inside region n stop).reach t)) ++
        mark (.code ((c :: t).take ((Mark.inside region n stop).reach t + 1)).getLast?)
          (t.drop ((Mark.inside region n stop).reach t)) := by
  obtain ⟨front, back, rfl, rfl⟩ : ∃ front back, t = front ++ back ∧ front.length = n :=
    ⟨t.take n, t.drop n, (List.take_append_drop n t).symm, List.length_take_of_le hn⟩
  rw [mark_opening, mark_through region hs, Mark.reach, List.drop_left, List.take_append,
    List.drop_append, List.take_succ_cons, List.take_append, Nat.add_sub_cancel_left,
    List.take_of_length_le (Nat.le_add_right _ _), List.drop_of_length_le (Nat.le_add_right _ _),
    List.nil_append, allIn, allIn, allIn, List.map_append, List.append_assoc]
  congr 2
  rcases Nat.lt_or_ge (lengthThrough stop back) back.length with hlt | hge
  · obtain ⟨u, hu⟩ := suffix_of_lengthThrough_lt hlt
    rw [← hu, ← List.append_assoc, ← List.cons_append, List.getLast?_append_of_ne_nil _ hs]
  · rw [List.drop_of_length_le hge]
    rfl

theorem reach_line (rest : List Char) :
    (Mark.line 1).reach ('-' :: rest) = (rest.takeWhile (· != '\n')).length + 1 :=
  Nat.add_comm 1 _

theorem mark_line_comment (rest : List Char) (p : Option Char) :
    mark (.line 1) ('-' :: rest) =
      allIn .comment (('-' :: rest).take ((Mark.line 1).reach ('-' :: rest))) ++
        mark (.code p) (('-' :: rest).drop ((Mark.line 1).reach ('-' :: rest))) := by
  have htake : rest.take (rest.takeWhile (· != '\n')).length = rest.takeWhile (· != '\n') :=
    (List.prefix_iff_eq_take.1 (List.takeWhile_prefix _)).symm
  have hdrop : (rest.takeWhile (· != '\n') ++ rest.dropWhile (· != '\n')).drop
      (rest.takeWhile (· != '\n')).length = rest.dropWhile (· != '\n') := List.drop_left
  rw [List.takeWhile_append_dropWhile] at hdrop
  rw [reach_line, List.take_succ_cons, List.drop_succ_cons, htake, hdrop, mark, step, mark_line p]
  rfl

/-- **Behind the first character of a region, the reader goes on as far as the region reaches**, and
is in code behind it. -/
theorem mark_reach (p : Option Char) (c : Char) (t : List Char) :
    (opened p c t).2.reach t ≤ t.length ∧
      mark (opened p c t).2 t =
        allIn (opened p c t).1 (t.take ((opened p c t).2.reach t)) ++
          mark (.code ((c :: t).take ((opened p c t).2.reach t + 1)).getLast?)
            (t.drop ((opened p c t).2.reach t)) := by
  unfold opened
  split
  · rename_i rest
    refine ⟨?_, mark_line_comment rest _⟩
    rw [reach_line]
    exact Nat.succ_le_succ (List.takeWhile_prefix _).length_le
  · exact ⟨reach_inside_le (Nat.succ_le_succ (Nat.zero_le _)),
      mark_inside (List.cons_ne_nil _ _) (Nat.succ_le_succ (Nat.zero_le _)) _⟩
  · exact ⟨reach_inside_le (Nat.zero_le _), mark_inside (List.cons_ne_nil _ _) (Nat.zero_le _) _⟩
  · exact ⟨reach_inside_le (Nat.zero_le _), mark_inside (List.cons_ne_nil _ _) (Nat.zero_le _) _⟩
  · exact ⟨reach_inside_le (Nat.zero_le _), mark_inside (List.cons_ne_nil _ _) (Nat.zero_le _) _⟩
  · exact ⟨reach_inside_le (Nat.zero_le _), mark_inside (List.cons_ne_nil _ _) (Nat.zero_le _) _⟩
  · split
    · rename_i tag htag
      obtain ⟨r, rest, rfl, rfl⟩ := exists_dollarTag?_append htag
      have hn : ('$' :: r).length - 1 ≤ (r ++ rest).length := by simp
      exact ⟨reach_inside_le hn, mark_inside (List.cons_ne_nil _ _) hn _⟩
    · exact ⟨Nat.zero_le _, rfl⟩
  · exact ⟨Nat.zero_le _, rfl⟩

/-! ### Turn by turn -/

/-- One turn of the reader: the characters of the region that starts at a place, each with its
position and the region, and the place behind them. -/
def turnAt (cs : Located) (i : Nat) : Except Stray (List (Nat × Char × Region) × Nat) := do
  let (region, stop) ← regionAt cs i
  let part ← between cs i stop
  return (part.map fun x => (x.1, x.2, region), stop)

/-- Tagged characters with the positions of the same characters. -/
def withPositions (cs : Located) (g : Tagged) : List (Nat × Char × Region) :=
  List.zipWith (fun x y => (x.1, y)) cs g

/-- What the reader of regions gives from a place on. -/
def ahead (cs : Located) (i : Nat) : List (Nat × Char × Region) :=
  withPositions (cs.drop i) (mark (.code (previous cs i)) (textFrom cs i))

theorem withPositions_allIn (region : Region) (l : Located) :
    withPositions l (allIn region (l.map (·.2))) = l.map fun x => (x.1, x.2, region) := by
  rw [withPositions, allIn, List.map_map, List.zipWith_map_right, List.zipWith_self]
  rfl

theorem ahead_eq {k : Nat} {region : Region} (hk : k < (textFrom cs i).length)
    (hmark : mark (.code (previous cs i)) (textFrom cs i) =
      allIn region ((textFrom cs i).take (k + 1)) ++
        mark (.code ((textFrom cs i).take (k + 1)).getLast?) ((textFrom cs i).drop (k + 1))) :
    ahead cs i = ((cs.drop i).take (k + 1)).map (fun x => (x.1, x.2, region)) ++
      ahead cs (i + (k + 1)) := by
  have hlen : ((cs.drop i).take (k + 1)).length =
      (allIn region ((textFrom cs i).take (k + 1))).length := by simp [allIn, textFrom]
  have hpart : (textFrom cs i).take (k + 1) = ((cs.drop i).take (k + 1)).map (·.2) := by
    rw [textFrom, List.map_take]
  have hrest : cs.drop (i + (k + 1)) = (cs.drop i).drop (k + 1) := List.drop_drop.symm
  calc ahead cs i
    _ = withPositions ((cs.drop i).take (k + 1) ++ (cs.drop i).drop (k + 1))
          (allIn region ((textFrom cs i).take (k + 1)) ++
            mark (.code ((textFrom cs i).take (k + 1)).getLast?)
              ((textFrom cs i).drop (k + 1))) := by
      rw [ahead, hmark, List.take_append_drop]
    _ = withPositions ((cs.drop i).take (k + 1)) (allIn region ((textFrom cs i).take (k + 1))) ++
          ahead cs (i + (k + 1)) := by
      rw [ahead, hrest, previous_add hk, textFrom_add]
      exact List.zipWith_append hlen
    _ = _ := by rw [hpart, withPositions_allIn]

/-- **A turn takes at least one character and stops within the text**, and what it gives is what the
reader of regions gives. -/
theorem turnAt_eq (hi : i < cs.length) : ∃ part stop, turnAt cs i = .ok (part, stop) ∧
    i < stop ∧ stop ≤ cs.length ∧ ahead cs i = part ++ ahead cs stop := by
  obtain ⟨c, t, ht⟩ := exists_textFrom_eq_cons hi
  have hlen := length_eq_of_textFrom ht
  have hregion := regionAt_eq ht
  obtain ⟨hreach, hmark⟩ := mark_reach (previous cs i) c t
  have hfirst : mark (.code (previous cs i)) (c :: t) = (c, (opened (previous cs i) c t).1) ::
    mark (opened (previous cs i) c t).2 t := rfl
  generalize (opened (previous cs i) c t).1 = region at hregion hmark hfirst
  generalize (opened (previous cs i) c t).2 = m at hregion hreach hmark hfirst
  have hstop : i + 1 + m.reach t = i + (m.reach t + 1) := by omega
  have hbetween : between cs i (i + (m.reach t + 1)) = .ok ((cs.drop i).take (m.reach t + 1)) := by
    rw [between, if_pos (by omega), List.extract_eq_take_drop, Nat.add_sub_cancel_left]
  refine ⟨((cs.drop i).take (m.reach t + 1)).map fun x => (x.1, x.2, region), i + (m.reach t + 1),
    ?_, by omega, by omega, ahead_eq ?_ ?_⟩
  · rw [turnAt, hregion, ok_bind, hstop]
    change (between cs i (i + (m.reach t + 1)) >>= _) = _
    rw [hbetween, ok_bind]
    rfl
  · rw [length_textFrom]
    omega
  · rw [ht, hfirst, hmark]
    rfl

/-- A quotation that is not closed, and a dash with nothing behind it. -/
example : (turnAt (located "é'(".toList) 1).map (·.2) = .ok 3 ∧
    (turnAt (located "é-".toList) 1).map (·.2) = .ok 2 := by decide

/-- A turn of the reader leads from one place to another. -/
def TurnsTo (cs : Located) (i j : Nat) : Prop :=
  i < cs.length ∧ ∃ part, turnAt cs i = .ok (part, j)

theorem TurnsTo.bounds {j : Nat} (h : TurnsTo cs i j) : i < j ∧ j ≤ cs.length := by
  obtain ⟨hi, part, hpart⟩ := h
  obtain ⟨part', stop, hturn, hlt, hle, -⟩ := turnAt_eq hi
  rw [hpart] at hturn
  cases hturn
  exact ⟨hlt, hle⟩

/-- **The turns come to an end**: from a place on there are no more of them than characters. -/
theorem length_le_of_turns : ∀ {js : List Nat} {i : Nat}, i ≤ cs.length →
    (i :: js).IsChain (TurnsTo cs) → i + js.length ≤ cs.length
  | [], i, hi, _ => hi
  | j :: js, i, _, h => by
    rw [List.isChain_cons_cons] at h
    have hbounds := h.1.bounds
    have hmore := length_le_of_turns hbounds.2 h.2
    rw [List.length_cons]
    omega

/-- The characters of a text from a place on, each with its position and its region. -/
def regionsFrom (cs : Located) (i : Nat) : Except Stray (List (Nat × Char × Region)) :=
  if _ : i < cs.length then
    match _ : turnAt cs i with
    | .error e => .error e
    | .ok (part, stop) => do
      let more ← regionsFrom cs stop
      return part ++ more
  else .ok []
termination_by cs.length - i
decreasing_by
  have hbounds := TurnsTo.bounds ⟨‹i < cs.length›, part, ‹turnAt cs i = _›⟩
  omega

theorem regionsFrom_eq (cs : Located) (i : Nat) : regionsFrom cs i = .ok (ahead cs i) := by
  rw [regionsFrom]
  split
  · rename_i hi
    obtain ⟨part, stop, hturn, hlt, -, hahead⟩ := turnAt_eq hi
    split
    · rename_i e he
      rw [hturn] at he
      cases he
    · rename_i part' stop' h
      rw [hturn] at h
      cases h
      rw [regionsFrom_eq cs stop, ok_bind, hahead]
      rfl
  · rename_i hi
    have hnil : cs.drop i = [] := List.drop_of_length_le (by omega)
    rw [ahead, hnil]
    rfl
termination_by cs.length - i

end

/-- The number of bytes of a tagged character. -/
def bytes (x : Char × Region) : Nat :=
  x.1.utf8Size

/-- The characters of a text, each with its position and its region. -/
def regions (text : List Char) : Except Stray (List (Nat × Char × Region)) :=
  regionsFrom (located text) 0

theorem chars_tagged (text : List Char) : chars (tagged text) = text :=
  chars_mark _ text

theorem sum_bytes (g : Tagged) : (g.map bytes).sum = String.utf8Len (chars g) := by
  rw [← Text.sum_utf8Size, chars, List.map_map]
  rfl

theorem withPositions_positioned : ∀ (g : Tagged) (n : Nat),
    withPositions (positioned Char.utf8Size n (chars g)) g = positioned bytes n g
  | [], _ => rfl
  | x :: g, n => congrArg ((n, x) :: ·) (withPositions_positioned g (n + bytes x))

/-- The position of a character is the length of the text in front of it. -/
theorem position_eq {text : List Char} {k : Nat} {x : Nat × Char × Region}
    (h : (positioned bytes 0 (tagged text))[k]? = some x) : x.1 = String.utf8Len (text.take k) := by
  rw [getElem?_positioned] at h
  obtain ⟨y, -, rfl⟩ := Option.map_eq_some_iff.1 h
  rw [sum_bytes, Nat.zero_add, chars, List.map_take, ← chars, chars_tagged]

/-- **Read by places, a text has the regions that the reader of regions gives it.** -/
theorem regions_eq (text : List Char) : regions text = .ok (positioned bytes 0 (tagged text)) := by
  have htext : textFrom (located text) 0 = text := by
    rw [textFrom, List.drop_zero, located, map_snd_positioned]
  have hpositions := withPositions_positioned (tagged text) 0
  rw [chars_tagged] at hpositions
  rw [regions, regionsFrom_eq, ahead, htext, List.drop_zero, ← hpositions]
  rfl

end Script
end SchemaMap
