/-
# Reading a table by positions

The declaration of a table can be read by slicing its text between positions. The positions come
from the regions of the text: those of the separators, of the parenthesis that opens the column list
and of the one that closes it. They are kept while characters are left out, and a text that was cut
off is read anew with positions of its own; the search for the closing parenthesis counts the open
ones down. All the same no slice leaves its text, no count goes below zero, and what is read is what
is read without positions (`tableAt_eq`).

Key definitions: `Script.partsAt`, `Script.closeAt`, `Script.tableAt`.
Key theorems: `Script.cutsAt_eq`, `Script.partsAt_eq`, `Script.closeAt_eq`, `Script.tableAt_eq`,
`Script.reading_stays_within`.
-/
import SchemaMap.Proofs.Script.FirstPart
import SchemaMap.Proofs.Script.Places

namespace SchemaMap
namespace Script

open String (utf8Len)
open Text (isBlank trim slice slice_parts)

/-! ### Comments -/

/-- A text with its comments blanked out, by the regions of its places. -/
def uncommentedAt (cs : List Char) : Except Stray (List Char) := do
  let m ← regions cs
  return m.map fun x => blanked x.2

theorem uncommentedAt_eq (cs : List Char) : uncommentedAt cs = .ok (withoutComments cs) := by
  have hblanked : (positioned bytes 0 (tagged cs)).map (fun x => blanked x.2) =
      ((positioned bytes 0 (tagged cs)).map (·.2)).map blanked := by
    rw [List.map_map]
    rfl
  rw [map_snd_positioned] at hblanked
  rw [uncommentedAt, regions_eq, ok_bind, hblanked]
  rfl

/-! ### Parts -/

/-- The slices of a text between the separators that stand in code at the depth zero, where the one
begun starts at the position `start`. -/
def cutsAt (sep : Char → Bool) (text : List Char) (depth start : Nat) :
    List (Nat × Char × Region) → Except Stray (List (List Char))
  | [] => do
    let last ← slice text start (utf8Len text)
    return [last]
  | (position, x) :: more =>
    if separates sep depth x then do
      let part ← slice text start position
      let parts ← cutsAt sep text depth (position + bytes x) more
      return part :: parts
    else cutsAt sep text (depthAfter x depth) start more

/-- The parts of a text between its separators, by positions. -/
def partsAt (sep : Char → Bool) (text : List Char) : Except Stray (List (List Char)) := do
  let m ← regions text
  let cuts ← cutsAt sep text 0 0 m
  return (cuts.map trim).filter fun part => !part.isEmpty

/-- Behind what has been cut off and what is begun, the slices are the parts that the rest is cut
into. -/
theorem cutsAt_eq {sep : Char → Bool} {text : List Char} :
    ∀ {g : Tagged} {d : Nat} {front begun part : List Char} {ps : List (List Char)},
      text = front ++ (begun ++ chars g) → cutAt sep d g = part :: ps →
        cutsAt sep text d (utf8Len front) (positioned bytes (utf8Len front + utf8Len begun) g) =
          .ok ((begun ++ part) :: ps)
  | [], d, front, begun, part, ps, htext, hcut => by
    obtain ⟨rfl, rfl⟩ := List.cons.inj hcut
    have hstop : utf8Len text = utf8Len front + utf8Len begun := by
      rw [htext, chars, List.map_nil, List.append_nil, String.utf8Len_append]
    rw [positioned, cutsAt, hstop, htext, slice_parts, List.append_nil]
    rfl
  | x :: g, d, front, begun, part, ps, htext, hcut => by
    have htext' : text = front ++ (begun ++ [x.1]) ++ chars g := by
      rw [htext, List.append_assoc, List.append_assoc]
      rfl
    rw [positioned, cutsAt]
    rcases cutAt_eq_cons hcut with ⟨hx, rfl, rfl⟩ | ⟨hx, rest, rfl, hrest⟩
    · -- what is begun is cut off, and nothing is begun behind the separator
      obtain ⟨part, ps, hmore⟩ := exists_cutAt_eq_cons sep d g
      have hfront : utf8Len (front ++ (begun ++ [x.1])) =
          utf8Len front + utf8Len begun + bytes x := by
        rw [String.utf8Len_append, String.utf8Len_append, String.utf8Len_cons, String.utf8Len_nil,
          bytes]
        omega
      have hbehind : text = front ++ (begun ++ [x.1]) ++ ([] ++ chars g) := htext'
      have ih := cutsAt_eq hbehind hmore
      rw [hfront, String.utf8Len_nil, Nat.add_zero] at ih
      rw [if_pos hx, ih, htext, slice_parts, ok_bind, ok_bind, hmore, List.append_nil]
      rfl
    · -- the character joins what is begun
      have hbegun : utf8Len front + utf8Len begun + bytes x =
          utf8Len front + utf8Len (begun ++ [x.1]) := by
        rw [String.utf8Len_append, String.utf8Len_cons, String.utf8Len_nil, bytes]
        omega
      rw [List.append_assoc] at htext'
      have ih := cutsAt_eq htext' hrest
      rw [hx, if_neg Bool.false_ne_true, hbegun, ih, List.append_assoc]
      rfl

/-- **The slices between separators are the parts of the text.** -/
theorem partsAt_eq (sep : Char → Bool) (text : List Char) :
    partsAt sep text = .ok (parts sep text) := by
  obtain ⟨part, ps, hcut⟩ := exists_cutAt_eq_cons sep 0 (tagged text)
  have htext : text = [] ++ ([] ++ chars (tagged text)) := (chars_tagged text).symm
  have hcuts := cutsAt_eq htext hcut
  rw [String.utf8Len_nil] at hcuts
  rw [partsAt, regions_eq, ok_bind, hcuts, ok_bind, parts, hcut]
  rfl

/-! ### Columns -/

/-- The column that an element of a column list declares, by positions. -/
def columnAt (element : List Char) : Except Stray (Option Column) := do
  let words ← partsAt isBlank element
  return columnOfWords? words

/-- The columns of a column list, by positions. -/
def columnsAt (body : List Char) : Except Stray (List Column) := do
  let elements ← partsAt (· == ',') body
  let columns ← elements.mapM columnAt
  return columns.filterMap id

theorem columnAt_eq (element : List Char) : columnAt element = .ok (columnOf? element) := by
  rw [columnAt, partsAt_eq, ok_bind]
  rfl

theorem columnsAt_eq (body : List Char) :
    columnsAt body = .ok ((parts (· == ',') body).filterMap columnOf?) := by
  have hcolumns : columnAt = fun element => pure (columnOf? element) := funext columnAt_eq
  rw [columnsAt, partsAt_eq, ok_bind, hcolumns, List.mapM_pure]
  change Except.ok _ = _
  rw [List.filterMap_map]
  rfl

/-! ### The column list -/

/-- The characters in code, with their positions. -/
def codeOf (m : List (Nat × Char × Region)) : List (Nat × Char) :=
  (m.filter fun x => x.2.2 == .code).map fun x => (x.1, x.2.1)

/-- One less, where there is one. -/
def lessOne : Nat → Except Stray Nat
  | 0 => .error .count
  | n + 1 => .ok n

/-- The position of the parenthesis behind which none is open, where `depth` of them are. -/
def closeAt (depth : Nat) : List (Nat × Char) → Except Stray (Option Nat)
  | [] => .ok none
  | (position, c) :: more =>
    if c = '(' then closeAt (depth + 1) more
    else if c = ')' then do
      let less ← lessOne depth
      if less = 0 then return some position else closeAt less more
    else closeAt depth more

theorem codeOf_append (m more : List (Nat × Char × Region)) :
    codeOf (m ++ more) = codeOf m ++ codeOf more := by
  rw [codeOf, List.filter_append, List.map_append]
  rfl

theorem codeOf_cons (n : Nat) (c : Char) (m : List (Nat × Char × Region)) :
    codeOf ((n, c, .code) :: m) = (n, c) :: codeOf m :=
  rfl

theorem codeOf_cons_of_ne {region : Region} (h : region ≠ .code) (n : Nat) (c : Char)
    (m : List (Nat × Char × Region)) : codeOf ((n, c, region) :: m) = codeOf m := by
  rw [codeOf, List.filter_cons_of_neg (by simpa using h)]
  rfl

theorem mem_of_mem_codeOf {n : Nat} {c : Char} {m : List (Nat × Char × Region)}
    (h : (n, c) ∈ codeOf m) : (n, c, .code) ∈ m := by
  obtain ⟨⟨n, c, region⟩, hx, hnc⟩ := List.mem_map.1 h
  obtain ⟨hm, hcode⟩ := List.mem_filter.1 hx
  obtain ⟨rfl, rfl⟩ := Prod.mk.inj hnc
  obtain rfl : region = .code := by simpa using hcode
  exact hm

/-- **The count of open parentheses never goes below zero**, and comes to zero behind the body of
the list: with the parenthesis that opened the list closed, the search is over. -/
theorem closeAt_eq : ∀ (g : Tagged) (d n : Nat),
    closeAt (d + 1) (codeOf (positioned bytes n g)) =
      .ok ((bodyUpToClose? d g).map fun body => n + utf8Len body)
  | [], _, _ => rfl
  | (c, region) :: g, d, n => by
    have hbody (o : Option (List Char)) : o.map (fun body => n + c.utf8Size + utf8Len body) =
        (o.map (c :: ·)).map fun body => n + utf8Len body := by
      rw [Option.map_map]
      refine Option.map_congr fun body _ => ?_
      rw [Function.comp_apply, String.utf8Len_cons]
      omega
    rw [positioned]
    change closeAt (d + 1) (codeOf ((n, c, region) :: positioned bytes (n + c.utf8Size) g)) = _
    by_cases hcode : region = .code
    · subst hcode
      rw [codeOf_cons, closeAt]
      by_cases ho : c = '('
      · subst ho
        rw [if_pos rfl, closeAt_eq g, bodyUpToClose?_cons (by decide), if_pos rfl, hbody]
      · rw [if_neg ho]
        by_cases hc : c = ')'
        · subst hc
          rw [if_pos rfl, lessOne, ok_bind]
          cases d with
          | zero => rfl  -- it closes the list, and the search stops here
          | succ d =>
            rw [if_neg (Nat.succ_ne_zero d), closeAt_eq g, hbody]
            rfl
        · have hclose : (c, Region.code) ≠ (')', .code) := fun h => hc (congrArg Prod.fst h)
          have hopen : (c, Region.code) ≠ ('(', .code) := fun h => ho (congrArg Prod.fst h)
          rw [if_neg hc, closeAt_eq g, bodyUpToClose?_cons hclose, if_neg hopen, hbody]
    · have hclose : (c, region) ≠ (')', .code) := fun h => hcode (congrArg Prod.snd h)
      have hopen : (c, region) ≠ ('(', .code) := fun h => hcode (congrArg Prod.snd h)
      rw [codeOf_cons_of_ne hcode, closeAt_eq g, bodyUpToClose?_cons hclose, if_neg hopen, hbody]

/-- Where no parenthesis has been opened, a closing one leaves nothing to count down. -/
example : closeAt 0 [(0, ')')] = .error .count := rfl

/-- The text between a parenthesis and the one that closes it, where `code` is in code. -/
def bodyAt (rest : List Char) (code : List (Nat × Char)) (opening : Nat) :
    Except Stray (Option (List Char)) := do
  match ← closeAt 0 (code.dropWhile fun x => x.1 < opening) with
  | none => return none
  | some closing =>
    let body ← slice rest (opening + 1) closing
    return some body

section

variable {rest : List Char} {front more : Tagged}

/-- The first opening parenthesis in code, and the code from it on. -/
theorem codeOf_opening (hfree : ∀ x ∈ front, x ≠ ('(', .code)) (more : Tagged) :
    ((codeOf (positioned bytes 0 (front ++ ('(', .code) :: more))).find? fun x => x.2 == '(') =
        some (utf8Len (chars front), '(') ∧
      ((codeOf (positioned bytes 0 (front ++ ('(', .code) :: more))).dropWhile
          fun x => x.1 < utf8Len (chars front)) =
        (utf8Len (chars front), '(') ::
          codeOf (positioned bytes (utf8Len (chars front) + 1) more) := by
  have hcode : codeOf (positioned bytes 0 (front ++ ('(', .code) :: more)) =
      codeOf (positioned bytes 0 front) ++ (utf8Len (chars front), '(') ::
        codeOf (positioned bytes (utf8Len (chars front) + 1) more) := by
    rw [positioned_append, sum_bytes, Nat.zero_add, codeOf_append]
    rfl
  have hother : ∀ x ∈ codeOf (positioned bytes 0 front), ¬(x.2 == '(') = true := by
    rintro ⟨n, c⟩ hx hc
    obtain rfl : c = '(' := by simpa using hc
    have hmem := List.mem_map_of_mem (f := (·.2)) (mem_of_mem_codeOf hx)
    rw [map_snd_positioned] at hmem
    exact hfree _ hmem rfl
  have hbefore : ∀ x ∈ codeOf (positioned bytes 0 front),
      decide (x.1 < utf8Len (chars front)) = true := by
    rintro ⟨n, c⟩ hx
    have hlt := lt_of_mem_positioned bytes (fun x => x.1.utf8Size_pos) (mem_of_mem_codeOf hx)
    rw [sum_bytes, Nat.zero_add] at hlt
    exact decide_eq_true hlt
  rw [hcode, List.find?_append, List.find?_eq_none.2 hother, Option.none_or,
    List.dropWhile_append_of_pos hbefore, List.dropWhile_cons_of_neg (by simp)]
  exact ⟨rfl, rfl⟩

/-- Without an opening parenthesis in code there is none to be found. -/
theorem codeOf_without_opening : ∀ {g : Tagged} {n : Nat}, splitAtOpen? g = none →
    ((codeOf (positioned bytes n g)).find? fun x => x.2 == '(') = none
  | [], _, _ => rfl
  | (c, region) :: g, n, h => by
    rw [splitAtOpen?] at h
    split at h
    · cases h
    · rename_i hx
      have ih := codeOf_without_opening (n := n + bytes (c, region)) (Option.map_eq_none_iff.1 h)
      rw [positioned]
      by_cases hcode : region = .code
      · subst hcode
        have hc : ¬((n, c).2 == '(') = true := fun hc => hx (by rw [← beq_iff_eq.1 hc])
        rw [codeOf_cons]
        exact (List.find?_cons_of_neg (p := fun x : Nat × Char => x.2 == '(') hc).trans ih
      · rw [codeOf_cons_of_ne hcode, ih]

/-- **The slice between the parentheses is the body of the list.** -/
theorem bodyAt_eq (h : tagged rest = front ++ ('(', .code) :: more)
    (hfree : ∀ x ∈ front, x ≠ ('(', .code)) :
    bodyAt rest (codeOf (positioned bytes 0 (tagged rest))) (utf8Len (chars front)) =
      .ok (bodyUpToClose? 0 more) := by
  rw [bodyAt, h, (codeOf_opening hfree more).2, closeAt, if_pos rfl, closeAt_eq more, ok_bind]
  cases hbody : bodyUpToClose? 0 more with
  | none => rfl
  | some body =>
    obtain ⟨inner, post, rfl, rfl, -⟩ := bodyUpToClose?_eq_some hbody
    have hrest : rest = (chars front ++ ['(']) ++ (chars inner ++ ')' :: chars post) := by
      rw [← chars_tagged rest, h]
      simp [chars]
    have hopening : utf8Len (chars front ++ ['(']) = utf8Len (chars front) + 1 :=
      String.utf8Len_append _ _
    have hslice := slice_parts (chars front ++ ['(']) (chars inner) (')' :: chars post)
    rw [← hrest, hopening] at hslice
    rw [Option.map_some]
    change (slice rest (utf8Len (chars front) + 1) _ >>= _) = _
    rw [hslice]
    rfl

end

/-! ### Tables -/

/-- The parts of the name in front of the column list, if it is one word. -/
def nameAt (before : List Char) : Except Stray (Option (List String)) := do
  let words ← partsAt isBlank (trim before)
  if words.length = 1 then
    let names ← partsAt (· == '.') (trim before)
    return some (names.map fun p => String.ofList (unquoted p))
  else return none

/-- The table whose name and column list follow the words in front of a name. -/
def tableBehind (rest : List Char) : Except Stray (Option TableText) := do
  let m ← regions rest
  match (codeOf m).find? fun x => x.2 == '(' with
  | none => return none
  | some (opening, _) =>
    let before ← slice rest 0 opening
    match ← nameAt before with
    | none => return none
    | some nameParts =>
      match ← bodyAt rest (codeOf m) opening with
      | none => return none
      | some body =>
        let columns ← columnsAt body
        return some ⟨nameParts, columns⟩

/-- The position behind the words in front of the name of a created table. -/
def headEnd? (text : List Char) : Option Nat :=
  (tableHead? text).map fun rest => utf8Len text - utf8Len rest

/-- The table that a statement creates, by positions. -/
def tableAt (cs : List Char) : Except Stray (Option TableText) := do
  let text ← uncommentedAt cs
  match headEnd? text with
  | none => return none
  | some stop =>
    let rest ← slice text stop (utf8Len text)
    tableBehind rest

theorem nameAt_eq (before : List Char) :
    nameAt before = .ok (
      if (parts isBlank (trim before)).length = 1 then
        some ((parts (· == '.') (trim before)).map fun p => String.ofList (unquoted p))
      else none) := by
  rw [nameAt, partsAt_eq, ok_bind]
  split
  · rw [partsAt_eq]
    rfl
  · rfl

/-- Behind the words in front of its name, a table is read as without positions. -/
theorem tableBehind_eq (rest : List Char) :
    tableBehind rest = .ok (do
      let (before, more) ← splitAtOpen? (tagged rest)
      let name := trim before
      guard ((parts isBlank name).length = 1)
      let body ← bodyUpToClose? 0 more
      return {
        nameParts := (parts (· == '.') name).map fun p => String.ofList (unquoted p)
        columns := (parts (· == ',') body).filterMap columnOf? }) := by
  rw [tableBehind, regions_eq, ok_bind]
  cases hsplit : splitAtOpen? (tagged rest) with
  | none =>
    rw [codeOf_without_opening hsplit]
    rfl
  | some p =>
    obtain ⟨before, more⟩ := p
    obtain ⟨front, htagged, rfl, hfree⟩ := splitAtOpen?_eq_some hsplit
    have hname : slice rest 0 (utf8Len (chars front)) = .ok (chars front) := by
      refine Text.slice_eq_ok_iff.2 ⟨[], '(' :: chars more, ?_, rfl, rfl⟩
      rw [← chars_tagged rest, htagged, chars, List.map_append]
      rfl
    have hbody := bodyAt_eq htagged hfree
    have hopening := (codeOf_opening hfree more).1
    rw [← htagged] at hopening
    rw [hopening]
    change (slice rest 0 (utf8Len (chars front)) >>= _) = _
    rw [hname, ok_bind, nameAt_eq, ok_bind]
    change _ = Except.ok (guard ((parts isBlank (trim (chars front))).length = 1) >>= fun _ =>
      bodyUpToClose? 0 more >>= fun body => some (TableText.mk
        ((parts (· == '.') (trim (chars front))).map fun p => String.ofList (unquoted p))
        ((parts (· == ',') body).filterMap columnOf?)))
    rw [guard]
    by_cases hone : (parts isBlank (trim (chars front))).length = 1
    · rw [if_pos hone, if_pos hone]
      change (bodyAt rest _ (utf8Len (chars front)) >>= _) = _
      rw [hbody, ok_bind]
      cases bodyUpToClose? 0 more with
      | none => rfl
      | some body =>
        change (columnsAt body >>= _) = _
        rw [columnsAt_eq]
        rfl
    · rw [if_neg hone, if_neg hone]
      rfl

/-- **Read by positions, a statement creates the table that it creates.** -/
theorem tableAt_eq (cs : List Char) : tableAt cs = .ok (tableDeclared? cs) := by
  rw [tableAt, uncommentedAt_eq, ok_bind, tableDeclared?, headEnd?]
  cases hhead : tableHead? (withoutComments cs) with
  | none => rfl
  | some rest =>
    obtain ⟨front, htext, -⟩ := tableHead?_leaves hhead
    have hslice : slice (withoutComments cs) (utf8Len (withoutComments cs) - utf8Len rest)
        (utf8Len (withoutComments cs)) = .ok rest := by
      refine Text.slice_eq_ok_iff.2 ⟨front, [], ?_, ?_, ?_⟩
      · rw [List.append_nil, htext]
      · rw [htext, String.utf8Len_append, Nat.add_sub_cancel]
      · rw [htext]
    rw [Option.map_some]
    change (slice _ _ _ >>= _) = _
    rw [hslice, ok_bind, tableBehind_eq]
    rfl

/-- **Reading stays within the text.** Whatever the text, a turn of the reader takes at least one
character and stops at the end at the latest, and the turns come to an end. They give every
character once, in order, in its region and with the number of bytes in front of it. And where a
table is read by these positions, every slice is one of its text, no count of open parentheses goes
below zero, and the table is the one that the statement creates. -/
theorem reading_stays_within (cs : List Char) :
    (∀ i < cs.length, ∃ part stop, turnAt (located cs) i = .ok (part, stop) ∧
      i < stop ∧ stop ≤ cs.length) ∧
    (∀ js, (0 :: js).IsChain (TurnsTo (located cs)) → js.length ≤ cs.length) ∧
    (∃ out, regions cs = .ok out ∧ out.map (·.2) = tagged cs ∧ out.map (·.2.1) = cs ∧
      ∀ k x, out[k]? = some x → x.1 = utf8Len (cs.take k)) ∧
    tableAt cs = .ok (tableDeclared? cs) := by
  have hlen : (located cs).length = cs.length := length_positioned _ cs 0
  have htagged := map_snd_positioned bytes (tagged cs) 0
  refine ⟨fun i hi => ?_, fun js hjs => ?_, ⟨_, regions_eq cs, htagged, ?_, fun k x => position_eq⟩,
    tableAt_eq cs⟩
  · obtain ⟨part, stop, hturn, hlt, hle, -⟩ := turnAt_eq (hlen ▸ hi)
    exact ⟨part, stop, hturn, hlt, hlen ▸ hle⟩
  · have hle := length_le_of_turns (Nat.zero_le _) hjs
    omega
  · have hchars := chars_tagged cs
    rw [← htagged, chars, List.map_map] at hchars
    exact hchars

end Script
end SchemaMap
