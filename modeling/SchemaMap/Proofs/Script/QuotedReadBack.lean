/-
# Which names in square brackets are read back

A table whose names are written in square brackets is read back just where the names hold together:
every part of its name in front of a dot, white space or a parenthesis, every name of a column in
front of a comma or white space. That this is enough is `tableDeclared?_quoted`. It is needed, too:
the word that is read as a name is the bracketed name itself (`eq_of_unquoted`), so the character
behind it is in code, which closes the name off, and nothing in the name has cut the text. From the
first name that was read the others follow, one after the other.

Key theorems: `Script.startsAs_blanked`, `Script.holdsInName_of_first`, `Script.holdsInName_of_read`,
`Script.eq_of_first_word`, `Script.holdsInList_of_first`, `Script.holdsInList_of_read`,
`Script.tableDeclared?_quoted_iff`.
-/
import SchemaMap.Proofs.Script.FirstPart
import SchemaMap.Proofs.Script.QuotedTable
import Mathlib.Data.Option.Basic

namespace SchemaMap
namespace Script

open Text (isBlank trim)

/-! ### Without comments -/

/-- Without its comments, a script starts as it did, up to the first character of the first one. -/
theorem startsAs_blanked (v : List Char) : ∀ (t : List Char) {m : Mark}, Visible m →
    StartsAs t ((mark m (t ++ v)).map blanked)
  | [], _, _ => .whole _
  | c :: t, m, h => by
    rw [List.cons_append, mark, List.map_cons]
    by_cases hc : (step m c (t ++ v)).1 = .comment
    · have hd := startsComment_of_visible h hc
      have hb : blanked (c, (step m c (t ++ v)).1) = ' ' := by
        rw [hc]
        rcases hd with rfl | rfl <;> rfl
      rw [hb]
      exact .blanked (a := []) rfl hd _
    · rw [blanked_of_ne hc]
      exact (startsAs_blanked v t (visible_step h hc)).cons c

theorem startsAs_withoutComments (t v : List Char) : StartsAs t (withoutComments (t ++ v)) :=
  startsAs_blanked v t (.inl ⟨none, rfl⟩)

/-- Behind a text without comments and a character that nothing goes on from, the script has the
regions it has by itself. -/
theorem Scans.tagged_append {t : List Char} {g : Tagged} (h : Scans t g) {c : Char}
    (hc : IsCalm c) (hword : continuesWord c = false) (cs : List Char) :
    tagged (t ++ c :: cs) = g ++ (c, .code) :: tagged cs := by
  obtain ⟨p, hp⟩ := h none (c :: cs)
  rw [tagged, hp, mark_isCalm hc, mark_code_apart hword]

theorem Commentless.withoutComments_append {t : List Char} (h : Commentless t) {c : Char}
    (hc : IsCalm c) (hword : continuesWord c = false) (cs : List Char) :
    withoutComments (t ++ c :: cs) = t ++ c :: withoutComments cs := by
  obtain ⟨g, hg, hgc⟩ := h
  have hkept : g.map blanked = t := by
    have hsame := hg.withoutComments_eq hgc
    rwa [withoutComments, hg.tagged_eq] at hsame
  have hchar : blanked (c, .code) = c := blanked_of_ne (by simp)
  rw [withoutComments, hg.tagged_append hc hword, List.map_append, List.map_cons, hkept, hchar,
    ← withoutComments]

/-! ### Closed off -/

theorem eq_chars_append {w : List Char} {g k : Tagged} (h : tagged w = g ++ k) :
    w = chars g ++ chars k := by
  rw [chars, chars, ← List.map_append, ← h, ← chars, tagged, chars_mark]

/-- In front of a character in code that joins nothing, a text is closed off. -/
theorem closedOff_of_tagged {w : List Char} {c : Char} {g k : Tagged} (hjoins : joins c = false)
    (hline : c ≠ '\n') (h : tagged w = g ++ (c, .code) :: k) : ClosedOff (chars g) := by
  obtain ⟨t, rest, n, rfl, hreads, hrest⟩ := reads_of_mark h
  cases rest with
  | nil => cases hrest
  | cons d v =>
    obtain ⟨hx, -⟩ := List.cons.inj hrest
    obtain ⟨rfl, hregion⟩ := Prod.mk.inj hx
    obtain ⟨⟨p, rfl⟩, -⟩ := code_of_region (hreads.opened (.inl ⟨none, rfl⟩)) hregion hline
    have hblank : Reads [' '] (.code none) t g (.code p) :=
      hreads.in_front (startsApart_cons hjoins v) (startsApart_cons (by decide) [])
    rw [hreads.chars_eq, ClosedOff, tagged, hblank.mark_eq, mark_isCalm (by decide), mark,
      List.getLast?_concat]

section Closed

variable {n w : List Char} (h : ClosedOff (bracketQuoted n))
include h

/-- Where a name that is closed off starts a text, its regions are those that it has by itself. -/
theorem tagged_of_start (hw : bracketQuoted n <+: w) :
    ∃ p z, w = bracketQuoted n ++ z ∧
      tagged w = tagged (bracketQuoted n) ++ mark (.code p) z := by
  obtain ⟨z, rfl⟩ := hw
  obtain ⟨p, hp⟩ := scans_of_closed h none z
  exact ⟨p, z, rfl, hp⟩

/-- A name that stands closed off in a script without comments holds none. -/
theorem commentless_of_start (hw : bracketQuoted n <+: withoutComments w) :
    ∀ x ∈ tagged (bracketQuoted n), x.2 ≠ .comment := by
  obtain ⟨p, z, -, htagged⟩ := tagged_of_start h hw
  intro x hx
  have hmem : x ∈ tagged (withoutComments w) := htagged ▸ List.mem_append_left _ hx
  rw [tagged_withoutComments] at hmem
  obtain ⟨y, -, rfl⟩ := List.mem_map.1 hmem
  exact uncommented_ne_comment y

end Closed

/-- Where a character that is no white space follows, no white space does. -/
theorem eq_nil_of_next {t gap w : List Char} {c d : Char} (hgap : ∀ a ∈ gap, isBlank a = true)
    (h : t ++ (gap ++ [c]) <+: w) (hd : t ++ [d] <+: w) (hblank : isBlank d = false) :
    gap = [] := by
  obtain ⟨z, rfl⟩ := hd
  rw [List.append_assoc, List.prefix_append_right_inj] at h
  cases gap with
  | nil => rfl
  | cons a gap =>
    obtain rfl : a = d := (List.cons_prefix_cons.1 h).1
    exact absurd (hgap a List.mem_cons_self) (by simp [hblank])

/-- What follows is white space, or else the character behind it. -/
theorem exists_next {t gap w : List Char} {c : Char} (hgap : ∀ a ∈ gap, isBlank a = true)
    (h : t ++ (gap ++ [c]) <+: w) (hc : c ≠ ']') : ∃ e, t ++ [e] <+: w ∧ e ≠ ']' := by
  cases gap with
  | nil => exact ⟨c, h, hc⟩
  | cons a gap =>
    refine ⟨a, List.IsPrefix.trans ?_ h, Text.ne_of_class (by decide) (hgap a List.mem_cons_self)⟩
    exact (List.prefix_append_right_inj t).2 (List.cons_prefix_cons.2 ⟨rfl, List.nil_prefix⟩)

/-! ### The name of a table -/

section Names

variable {n w before : List Char} {d : Char} {more : Tagged}

/-- A text that starts with a bracket starts a name that does. -/
theorem exists_before_eq {cs : List Char}
    (h : splitAtOpen? (tagged ('[' :: cs)) = some (before, more)) : ∃ rest, before = '[' :: rest := by
  have hopen : tagged ('[' :: cs) =
      ('[', .quoted) :: mark (.inside .quoted 0 [']']) cs := rfl
  rw [hopen, splitAtOpen?, if_neg (by decide)] at h
  obtain ⟨⟨rest, back⟩, -, hpair⟩ := Option.map_eq_some_iff.1 h
  exact ⟨rest, (Prod.mk.inj hpair).1.symm⟩

/-- Behind the first part of a name, up to white space, there is a dot or a parenthesis, which closes
the part off. -/
theorem exists_behind_first {t gap f behind : List Char} {ps : List (List Char)}
    (hsplit : splitAtOpen? (tagged w) = some (t ++ gap, more))
    (hgap : ∀ a ∈ gap, isBlank a = true)
    (hcut : cutAt (· == '.') 0 (tagged t) = (f ++ behind) :: ps)
    (hbehind : ∀ a ∈ behind, isBlank a = true) :
    ∃ blanks e, (∀ a ∈ blanks, isBlank a = true) ∧ (e = '.' ∨ e = '(') ∧
      f ++ (blanks ++ [e]) <+: w ∧ (blanks = [] → ClosedOff f) := by
  obtain ⟨front, hfront, hchars, -⟩ := splitAtOpen?_eq_some hsplit
  have hw := eq_chars_append hfront
  rw [← hchars] at hw
  rcases eq_or_ne ps [] with rfl | hps
  · have ht := chars_eq_of_cutAt hcut
    rw [tagged, chars_mark] at ht
    subst ht
    refine ⟨behind ++ gap, '(', List.forall_mem_append.2 ⟨hbehind, hgap⟩, .inr rfl, ?_, fun hnil => ?_⟩
    · exact ⟨chars more, by rw [hw]; simp [chars]⟩
    · obtain ⟨rfl, rfl⟩ := List.append_eq_nil_iff.1 hnil
      have hclosed := closedOff_of_tagged (by decide) (by decide) hfront
      rwa [← hchars, List.append_nil, List.append_nil] at hclosed
  · obtain ⟨first, c, rest, hfirst, hpart, hdot, -⟩ := exists_separator hcut hps
    obtain rfl : c = '.' := by simpa using hdot
    have ht := eq_chars_append hfirst
    rw [hpart] at ht
    refine ⟨behind, '.', hbehind, .inl rfl, ?_, fun hnil => ?_⟩
    · exact ⟨chars rest ++ gap ++ '(' :: chars more, by rw [hw, ht]; simp [chars]⟩
    · have hclosed := closedOff_of_tagged (by decide) (by decide) hfirst
      rwa [hpart, hnil, List.append_nil] at hclosed

/-- What starts the text in front of the first parenthesis opens none. -/
theorem opens_none_of_start {g k : Tagged} (hsplit : splitAtOpen? (g ++ k) = some (before, more))
    (hlen : g.length ≤ before.length) : ∀ x ∈ g, x ≠ ('(', .code) := by
  obtain ⟨front, hfront, rfl, hfree⟩ := splitAtOpen?_eq_some hsplit
  rw [chars, List.length_map] at hlen
  have hstart : g <+: front :=
    List.prefix_of_prefix_length_le ⟨k, rfl⟩ ⟨('(', .code) :: more, hfront.symm⟩ hlen
  exact fun x hx => hfree x (hstart.subset hx)

/-- A name that closes itself off holds together where it is not cut: neither the text in front of the
column list, nor the name in this, nor its first part ends in it. -/
theorem holdsInName_of_uncut {w t gap behind : List Char} {ps : List (List Char)}
    (h : ClosedOff (bracketQuoted n))
    (hsplit : splitAtOpen? (tagged (withoutComments w)) = some (t ++ gap, more))
    (hone : cutAt isBlank 0 (tagged t) = [t])
    (hcut : cutAt (· == '.') 0 (tagged t) = (bracketQuoted n ++ behind) :: ps) :
    HoldsInName n := by
  have hlen : (tagged (bracketQuoted n)).length = (bracketQuoted n).length := length_tagged _
  obtain ⟨front, hfront, hchars, -⟩ := splitAtOpen?_eq_some hsplit
  have ht : t <+: withoutComments w := by
    rw [eq_chars_append hfront, ← hchars, List.append_assoc]
    exact List.prefix_append _ _
  have hin : bracketQuoted n <+: t := (List.prefix_append _ _).trans (cutAt_isPrefix hcut)
  -- it has the same regions in the statement and in the name
  obtain ⟨p, z, -, hregions⟩ := tagged_of_start h (hin.trans ht)
  rw [hregions] at hsplit
  have hopen : ∀ x ∈ tagged (bracketQuoted n), x ≠ ('(', .code) :=
    opens_none_of_start hsplit (hlen ▸ (hin.trans (List.prefix_append t gap)).length_le)
  obtain ⟨q, y, -, hregions⟩ := tagged_of_start h hin
  rw [hregions] at hone hcut
  have hblank := cutAt_through_plain (by decide) hone hopen (hlen ▸ hin.length_le)
  have hdot := cutAt_through_plain (by decide) hcut hopen
    (hlen ▸ (List.prefix_append (bracketQuoted n) behind).length_le)
  refine ⟨h, commentless_of_start h (hin.trans ht), fun x hx hcode => ⟨fun ho => ?_, ?_, ?_⟩⟩
  · exact hopen x hx (Prod.ext ho hcode)
  · simpa using hdot x hx hcode
  · exact hblank x hx hcode

/-- **The first part of a name that is read back** holds together. -/
theorem holdsInName_of_first {v : List Char} (hd : d = '.' ∨ d = '(')
    (hsplit : splitAtOpen? (tagged (withoutComments (bracketQuoted n ++ d :: v))) =
      some (before, more))
    (hone : cutAt isBlank 0 (tagged (trim before)) = [trim before]) {ns : List (List Char)}
    (hread : (parts (· == '.') (trim before)).map unquoted = n :: ns) : HoldsInName n := by
  by_cases hclose : ']' ∈ n
  swap
  · exact holdsInName_of_notMem hclose
  have hstart : StartsAs (bracketQuoted n ++ [d]) (withoutComments (bracketQuoted n ++ d :: v)) := by
    have h := startsAs_withoutComments (bracketQuoted n ++ [d]) v
    rwa [List.append_assoc] at h
  obtain ⟨rest, rfl⟩ := exists_before_eq hsplit
  obtain ⟨name, gap, htrim, -, rfl, hgap⟩ := Text.exists_trim_append (c := '[') (by decide) rest
  rw [htrim] at hone hread
  obtain ⟨f, behind, ps, hcut, hbehind, hparts⟩ := parts_open (· == '.') name
  rw [hparts, List.map_cons] at hread
  -- the first part is the bracketed name, and what stands behind it closes it off
  obtain ⟨blanks, e, hblanks, he, hnext, hclosed⟩ :=
    exists_behind_first (t := '[' :: name) (f := '[' :: f) hsplit hgap hcut hbehind
  have hdots : isBlank d = false ∧ d ≠ '-' ∧ d ≠ '/' := by rcases hd with rfl | rfl <;> decide
  have hends : e ≠ ']' := by rcases he with rfl | rfl <;> decide
  obtain ⟨c, hword, hc⟩ := exists_next hblanks hnext hends
  obtain ⟨hf, hw⟩ := eq_of_unquoted hclose (List.forall_mem_singleton.2 hdots.2) hstart hword hc
    (List.cons.inj hread).1
  rw [hf] at hnext hclosed
  have hoff : ClosedOff (bracketQuoted n) := hclosed (eq_nil_of_next hblanks hnext hw hdots.1)
  rw [← List.cons_append, hf] at hcut
  exact holdsInName_of_uncut (t := '[' :: name) hoff hsplit hone hcut

/-- With the dot behind it, a name that holds together opens no parenthesis and has no white space in
code. -/
theorem HoldsInName.plain_dot (h : HoldsInName n) :
    ∀ x ∈ tagged (bracketQuoted n) ++ [('.', .code)], x.2 = .code →
      x.1 ≠ '(' ∧ isBlank x.1 = false :=
  List.forall_mem_append.2
    ⟨fun x hx hcode => ⟨(h.plain x hx hcode).1, (h.plain x hx hcode).2.2⟩,
      List.forall_mem_singleton.2 fun _ => by decide⟩

/-- What stands in front of a parenthesis behind a name that holds together and a dot. -/
theorem HoldsInName.splitAtOpen?_eq (h : HoldsInName n) {cs : List Char}
    (hsplit : splitAtOpen? (tagged (withoutComments (bracketQuoted n ++ '.' :: cs))) =
      some (before, more)) :
    ∃ rest, before = bracketQuoted n ++ '.' :: rest ∧
      splitAtOpen? (tagged (withoutComments cs)) = some (rest, more) := by
  have hscans := scans_of_closed h.closedOff
  have hnone : ∀ x ∈ tagged (bracketQuoted n) ++ [('.', .code)], x ≠ ('(', .code) := fun x hx he =>
    (h.plain_dot x hx (by rw [he])).1 (by rw [he])
  rw [Commentless.withoutComments_append ⟨_, hscans, h.commentless⟩ (by decide) (by decide),
    hscans.tagged_append (by decide) (by decide), List.append_cons, splitAtOpen?_behind _ hnone]
    at hsplit
  obtain ⟨⟨rest, back⟩, hrest, hpair⟩ := Option.map_eq_some_iff.1 hsplit
  obtain ⟨rfl, rfl⟩ := Prod.mk.inj hpair
  refine ⟨rest, ?_, hrest⟩
  rw [chars, List.map_append, ← chars, hscans.chars_eq, List.append_assoc]
  rfl

/-- Behind a name that holds together and a dot, what is one word with these is one word. -/
theorem HoldsInName.cutAt_isBlank_eq (h : HoldsInName n) {cs : List Char}
    (hone : cutAt isBlank 0 (tagged (bracketQuoted n ++ '.' :: cs)) = [bracketQuoted n ++ '.' :: cs]) :
    cutAt isBlank 0 (tagged cs) = [cs] := by
  have hscans := scans_of_closed h.closedOff
  obtain ⟨part, ps, hcut⟩ := exists_cutAt_eq_cons isBlank 0 (tagged cs)
  rw [hscans.tagged_append (by decide) (by decide), List.append_cons,
    cutAt_append_of_plain h.plain_dot hcut] at hone
  obtain ⟨hpart, rfl⟩ := List.cons.inj hone
  rw [chars, List.map_append, ← chars, hscans.chars_eq, List.append_assoc] at hpart
  obtain ⟨-, rfl⟩ := List.cons.inj (List.append_cancel_left hpart)
  exact hcut

/-- Behind its first part and a dot, a name that is read back is one that is read back. -/
theorem HoldsInName.read_behind (h : HoldsInName n) {cs : List Char}
    (hsplit : splitAtOpen? (tagged (withoutComments (bracketQuoted n ++ '.' :: '[' :: cs))) =
      some (before, more))
    (hone : cutAt isBlank 0 (tagged (trim before)) = [trim before]) {ns : List (List Char)}
    (hread : (parts (· == '.') (trim before)).map unquoted = n :: ns) :
    ∃ rest, splitAtOpen? (tagged (withoutComments ('[' :: cs))) = some (rest, more) ∧
      cutAt isBlank 0 (tagged (trim rest)) = [trim rest] ∧
      (parts (· == '.') (trim rest)).map unquoted = ns := by
  obtain ⟨rest, rfl, hrest⟩ := h.splitAtOpen?_eq hsplit
  obtain ⟨front, rfl⟩ := exists_before_eq hrest
  obtain ⟨name, gap, htrim, htrimmed, rfl, hgap⟩ :=
    Text.exists_trim_append (c := '[') (by decide) front
  have hall : trim (bracketQuoted n ++ '.' :: '[' :: (name ++ gap)) =
      bracketQuoted n ++ '.' :: '[' :: name := by
    have hends := (isTrimmed_bracketQuoted n).append_between htrimmed ['.']
    simpa using hends.trim_before hgap
  have hpart : OnePart (· == '.') (bracketQuoted n) :=
    h.onePart fun d hdot _ => beq_eq_false_iff_ne.2 hdot
  have hbehind := parts_behind hpart (isTrimmed_bracketQuoted n) (c := '.') (by decide) (by decide)
    (by decide) (by decide) (by decide) whole_nil (List.forall_mem_nil _) ('[' :: name)
  rw [hall] at hone hread
  rw [List.nil_append] at hbehind
  rw [hbehind, List.map_cons, unquoted_bracketQuoted] at hread
  refine ⟨_, hrest, ?_, ?_⟩
  · rw [htrim]
    exact h.cutAt_isBlank_eq hone
  · rw [htrim]
    exact (List.cons.inj hread).2

/-- **The parts of a name that is read back** hold together. -/
theorem holdsInName_of_read {v : List Char} : ∀ {names : List String} {before : List Char},
    names ≠ [] →
    splitAtOpen? (tagged (withoutComments (quotedName names ++ '(' :: v))) = some (before, more) →
    cutAt isBlank 0 (tagged (trim before)) = [trim before] →
    (parts (· == '.') (trim before)).map unquoted = names.map String.toList →
      ∀ n ∈ names, HoldsInName n.toList
  | [], _, hne, _, _, _ => absurd rfl hne
  | [n], before, _, hsplit, hone, hread => by
    rw [quotedName, List.map_singleton, List.intercalate_singleton] at hsplit
    exact List.forall_mem_singleton.2 (holdsInName_of_first (.inr rfl) hsplit hone hread)
  | n :: m :: ns, before, _, hsplit, hone, hread => by
    obtain ⟨cs, hcs⟩ : ∃ cs, quotedName (m :: ns) = '[' :: cs := by
      cases ns <;> exact ⟨_, rfl⟩
    have htext : quotedName (n :: m :: ns) ++ '(' :: v =
        bracketQuoted n.toList ++ '.' :: '[' :: (cs ++ '(' :: v) := by
      rw [← List.cons_append, ← hcs]
      simp [quotedName, List.intercalate_cons_cons]
    rw [htext] at hsplit
    have hn : HoldsInName n.toList := holdsInName_of_first (.inl rfl) hsplit hone hread
    obtain ⟨rest, hrest, hword, hparts⟩ := hn.read_behind hsplit hone hread
    rw [← List.cons_append, ← hcs] at hrest
    exact List.forall_mem_cons.2
      ⟨hn, holdsInName_of_read (List.cons_ne_nil _ _) hrest hword hparts⟩

end Names

/-! ### A column list -/

/-- What is read of an element that starts with a bracket. -/
theorem columnOf?_open {e f : List Char} {fs : List (List Char)}
    (h : parts isBlank e = ('[' :: f) :: fs) :
    ∃ c, columnOf? e = some c ∧ c.name = String.ofList (unquoted ('[' :: f)) ∧
      (fs = [] → c.typeName = none) := by
  have hfirst : isOneOf elementWords ('[' :: f) = false := isOneOf_bracket _ _
  unfold columnOf? columnOfWords?
  rw [h]
  simp only [hfirst, Bool.false_eq_true, if_false]
  cases htake : fs.takeWhile fun t => !isOneOf typeStopWords t with
  | nil => exact ⟨_, rfl, rfl, fun _ => rfl⟩
  | cons t ts => exact ⟨_, rfl, rfl, fun hnil => by rw [hnil] at htake; cases htake⟩

theorem bodyUpToClose?_isPrefix {w body : List Char}
    (h : bodyUpToClose? 0 (tagged w) = some body) : body <+: w := by
  obtain ⟨inner, post, hinner, rfl, -⟩ := bodyUpToClose?_eq_some h
  exact ⟨_, (eq_chars_append hinner).symm⟩

theorem exists_body_eq {cs body : List Char} (h : bodyUpToClose? 0 (tagged ('[' :: cs)) = some body) :
    ∃ rest, body = '[' :: rest := by
  have hopen : tagged ('[' :: cs) =
      ('[', .quoted) :: mark (.inside .quoted 0 [']']) cs := rfl
  rw [hopen, bodyUpToClose?_cons (by decide)] at h
  obtain ⟨rest, -, rfl⟩ := Option.map_eq_some_iff.1 h
  exact ⟨rest, rfl⟩

/-- Where white space follows, and a character that is none behind one blank, the white space is that
blank. -/
theorem eq_blank_of_next {t u gap w : List Char} {c d : Char}
    (hgap : ∀ a ∈ gap ++ [c], isBlank a = true) (h : t ++ (gap ++ [c]) <+: w)
    (hd : t ++ ' ' :: d :: u <+: w) (hblank : isBlank d = false) : gap = [] ∧ c = ' ' := by
  obtain ⟨z, rfl⟩ := hd
  rw [List.append_assoc, List.prefix_append_right_inj] at h
  rcases gap with _ | ⟨a, gap⟩
  · exact ⟨rfl, (List.cons_prefix_cons.1 h).1⟩
  · have hnext : gap ++ [c] <+: d :: (u ++ z) := (List.cons_prefix_cons.1 h).2
    have hin : d ∈ gap ++ [c] := by
      rcases gap with _ | ⟨b, gap⟩
      · rw [(List.cons_prefix_cons.1 hnext).1]
        exact List.mem_cons_self
      · rw [List.cons_append] at hnext
        rw [(List.cons_prefix_cons.1 hnext).1]
        exact List.mem_cons_self
    exact absurd (hgap d (List.mem_cons_of_mem a hin)) (by simp [hblank])

section Columns

variable {c : QuotedColumn}

theorem QuotedColumn.text_eq (c : QuotedColumn) :
    c.text = bracketQuoted c.name.toList ++ ' ' :: c.type.word := by
  simp [QuotedColumn.text, List.intercalate_cons_cons]

/-- A name that closes itself off holds together where it is not cut: neither the body of the list,
nor its first element, nor the first word of that ends in it. -/
theorem holdsInList_of_uncut {n w body e mo : List Char} {x : Char} {ps es : List (List Char)}
    {first : List Char} (h : ClosedOff (bracketQuoted n))
    (hbody : bodyUpToClose? 0 (tagged (withoutComments w)) = some body)
    (hcomma : cutAt (· == ',') 0 (tagged body) = first :: es) (hword : e <+: first)
    (hcut : cutAt isBlank 0 (tagged e) = bracketQuoted n :: ps)
    (he : e = bracketQuoted n ++ x :: mo) (hx : isBlank x = true) : HoldsInList n := by
  have hlen : (tagged (bracketQuoted n)).length = (bracketQuoted n).length := length_tagged _
  have hin : bracketQuoted n <+: e := he ▸ List.prefix_append _ _
  have hinFirst : bracketQuoted n <+: first := hin.trans hword
  have hinBody : bracketQuoted n <+: body := hinFirst.trans (cutAt_isPrefix hcomma)
  have hinText : bracketQuoted n <+: withoutComments w := hinBody.trans (bodyUpToClose?_isPrefix hbody)
  refine ⟨h, commentless_of_start h hinText, ?_⟩
  -- it has the same regions in all of them
  obtain ⟨p, z, -, hregions⟩ := tagged_of_start h hinText
  rw [hregions] at hbody
  obtain ⟨d, hd⟩ := bodyUpToClose?_through hbody (hlen ▸ hinBody.length_le)
  obtain ⟨q, y, -, hregions⟩ := tagged_of_start h hinBody
  rw [hregions] at hcomma
  obtain ⟨hnocomma, -⟩ := cutAt_through hcomma hd (hlen ▸ hinFirst.length_le)
  obtain ⟨r, u, hu, hregions⟩ := tagged_of_start h hin
  rw [hregions] at hcut
  obtain ⟨hnoblank, back, hback, hend⟩ := cutAt_through hcut hd (Nat.le_of_eq hlen)
  -- behind the name a word ends, so no parenthesis of it is open there
  obtain rfl : x :: mo = u := List.append_cancel_left (he.symm.trans hu)
  rw [tagged, chars_mark] at hback
  obtain rfl : [] = back := List.append_cancel_left ((List.append_nil _).trans hback)
  rw [mark_isCalm (isCalm_of_isBlank hx)] at hend
  rcases cutAt_eq_cons hend with ⟨hsep, -, -⟩ | ⟨-, _, hnil, -⟩
  · obtain ⟨-, rfl, -⟩ := separates_eq_true hsep
    exact hnocomma.or hnoblank
  · cases hnil

/-- A word that is read as the name of a column is the bracketed name, and the white space behind it
the blank in front of the type. -/
theorem eq_of_first_word {v f gap : List Char} {x : Char} (hclose : ']' ∈ c.name.toList)
    (hgap : ∀ a ∈ gap, isBlank a = true) (hx : isBlank x = true)
    (hnext : f ++ (gap ++ [x]) <+: withoutComments (c.text ++ v))
    (hread : unquoted f = c.name.toList) :
    f = bracketQuoted c.name.toList ∧ gap = [] ∧ x = ' ' := by
  have hstart : StartsAs (bracketQuoted c.name.toList ++ ' ' :: c.type.word)
      (withoutComments (c.text ++ v)) := by
    rw [← c.text_eq]
    exact startsAs_withoutComments _ _
  have hplain : ∀ d ∈ ' ' :: c.type.word, d ≠ '-' ∧ d ≠ '/' :=
    List.forall_mem_cons.2 ⟨by decide, fun d hd =>
      ⟨Text.ne_of_class (by decide) (c.type.word_chars d hd),
        Text.ne_of_class (by decide) (c.type.word_chars d hd)⟩⟩
  obtain ⟨d, hd, hdclose⟩ := exists_next hgap hnext (Text.ne_of_class (by decide) hx)
  obtain ⟨rfl, hbegins⟩ := eq_of_unquoted hclose hplain hstart hd hdclose hread
  obtain ⟨t, ts, hword⟩ := List.exists_cons_of_ne_nil c.type.word_ne_nil
  have ht : isBlank t = false :=
    Text.isBlank_of_isWord (c.type.word_chars t (hword ▸ List.mem_cons_self))
  rw [hword] at hbegins
  exact ⟨rfl, eq_blank_of_next
    (List.forall_mem_append.2 ⟨hgap, List.forall_mem_singleton.2 hx⟩) hnext hbegins ht⟩

/-- **The first column of a list that is read back** has a name that holds together. -/
theorem holdsInList_of_first {v body : List Char}
    (hbody : bodyUpToClose? 0 (tagged (withoutComments (c.text ++ v))) = some body)
    {columns : List Column} (hread : (parts (· == ',') body).filterMap columnOf? = c.column :: columns) :
    HoldsInList c.name.toList := by
  by_cases hclose : ']' ∈ c.name.toList
  swap
  · exact holdsInList_of_notMem hclose
  obtain ⟨rest, rfl⟩ := exists_body_eq hbody
  obtain ⟨e, behind, es, hcomma, -, helements⟩ := parts_open (· == ',') rest
  obtain ⟨f, gap, ps, hcut, hgap, hwords⟩ := parts_open isBlank e
  obtain ⟨column, hcolumn, hname, htype⟩ := columnOf?_open hwords
  rw [helements, List.filterMap_cons_some hcolumn] at hread
  obtain ⟨rfl, -⟩ := List.cons.inj hread
  have hquoted : unquoted ('[' :: f) = c.name.toList := by
    have hsame : c.name = String.ofList (unquoted ('[' :: f)) := hname
    rw [hsame, String.toList_ofList]
  -- there is a type behind the name, so white space in code
  have hps : ps ≠ [] := fun hnil => by
    have hnone := htype (by rw [hnil]; rfl)
    cases hnone
  obtain ⟨front, x, more, hregions, hfront, hx, -⟩ := exists_separator hcut hps
  have he := eq_chars_append hregions
  rw [hfront] at he
  have hin : '[' :: e <+: '[' :: (e ++ behind) := ⟨behind, rfl⟩
  have hnext : ('[' :: f) ++ (gap ++ [x]) <+: withoutComments (c.text ++ v) :=
    List.IsPrefix.trans ⟨chars more, by rw [he]; simp [chars]⟩
      (hin.trans ((cutAt_isPrefix hcomma).trans (bodyUpToClose?_isPrefix hbody)))
  obtain ⟨hf, rfl, rfl⟩ := eq_of_first_word hclose hgap hx hnext hquoted
  rw [List.append_nil, hf] at hfront he hcut
  have hoff := closedOff_of_tagged (by decide) (by decide) hregions
  rw [hfront] at hoff
  exact holdsInList_of_uncut hoff hbody hcomma hin hcut he hx

/-- Behind its first column and a comma, a list that is read back is one that is read back. -/
theorem HoldsInList.read_behind (h : HoldsInList c.name.toList) {cs body : List Char}
    (hbody : bodyUpToClose? 0 (tagged (withoutComments (c.text ++ ',' :: ' ' :: cs))) = some body)
    {columns : List Column} (hread : (parts (· == ',') body).filterMap columnOf? = c.column :: columns) :
    ∃ rest, bodyUpToClose? 0 (tagged (withoutComments cs)) = some rest ∧
      (parts (· == ',') rest).filterMap columnOf? = columns := by
  have helement := QuotedColumn.isElement h
  have hgap : withoutComments (' ' :: cs) = ' ' :: withoutComments cs :=
    commentless_nil.withoutComments_append (by decide) (by decide) cs
  have hblank : tagged (' ' :: withoutComments cs) = (' ', .code) :: tagged (withoutComments cs) :=
    scans_nil.tagged_append (by decide) (by decide) _
  obtain ⟨g, hg, hunsplit, hgc⟩ := helement.whole
  rw [Commentless.withoutComments_append ⟨g, hg, hgc⟩ (by decide) (by decide), hgap,
    hg.tagged_append (by decide) (by decide), hblank, hunsplit.bodyUpToClose?_append,
    bodyUpToClose?_cons (by decide), if_neg (by decide), bodyUpToClose?_cons (by decide),
    if_neg (by decide), Option.map_map, Option.map_map, hg.chars_eq] at hbody
  obtain ⟨rest, hrest, rfl⟩ := Option.map_eq_some_iff.1 hbody
  refine ⟨rest, hrest, ?_⟩
  have hparts : parts (· == ',') (c.text ++ ',' :: ([' '] ++ rest)) =
      c.text :: parts (· == ',') rest :=
    parts_behind helement.whole.onePart helement.trimmed (by decide) (by decide) (by decide)
      (by decide) (by decide) (whole_plain (by decide)) (List.forall_mem_singleton.2 (by decide)) rest
  have hbehind : parts (· == ',') (c.text ++ ',' :: ' ' :: rest) =
      c.text :: parts (· == ',') rest := hparts
  have hall : (c.text :: parts (· == ',') rest).filterMap columnOf? = c.column :: columns := by
    rw [← hbehind]
    exact hread
  rw [List.filterMap_cons_some (columnOf?_quoted h)] at hall
  exact (List.cons.inj hall).2

/-- **The columns of a list that is read back** have names that hold together. -/
theorem holdsInList_of_read : ∀ {columns : List QuotedColumn} {body : List Char},
    bodyUpToClose? 0 (tagged (withoutComments (quotedList columns ++ [')']))) = some body →
    (parts (· == ',') body).filterMap columnOf? = columns.map QuotedColumn.column →
      ∀ c ∈ columns, HoldsInList c.name.toList
  | [], _, _, _ => List.forall_mem_nil _
  | [c], body, hbody, hread => by
    rw [quotedList, List.map_singleton, List.intercalate_singleton] at hbody
    exact List.forall_mem_singleton.2 (holdsInList_of_first hbody hread)
  | c :: b :: cs, body, hbody, hread => by
    have htext : quotedList (c :: b :: cs) ++ [')'] =
        c.text ++ ',' :: ' ' :: (quotedList (b :: cs) ++ [')']) := by
      simp [quotedList, List.intercalate_cons_cons]
    rw [htext] at hbody
    have hc : HoldsInList c.name.toList := holdsInList_of_first hbody hread
    obtain ⟨rest, hrest, hcolumns⟩ := hc.read_behind hbody hread
    exact List.forall_mem_cons.2 ⟨hc, holdsInList_of_read hrest hcolumns⟩

end Columns

/-! ### A table -/

/-- Without its comments, a statement is read behind the words in front of the name. -/
theorem tableHead?_quoted {cs : List Char} (names : List String) (hne : names ≠ []) :
    tableHead? (withoutComments ("CREATE TABLE ".toList ++ (quotedName names ++ cs))) =
      some (withoutComments (quotedName names ++ cs)) := by
  have hwords : Commentless "CREATE TABLE".toList :=
    commentless_code (Text.forall_mem_of_all (by decide))
  have hkept := hwords.withoutComments_append (c := ' ') (by decide) (by decide) (quotedName names ++ cs)
  have hopen : ∃ rest, withoutComments (quotedName names ++ cs) = '[' :: rest := by
    obtain ⟨n, ns, rfl⟩ := List.exists_cons_of_ne_nil hne
    cases ns <;> exact ⟨_, rfl⟩
  obtain ⟨rest, hrest⟩ := hopen
  have hfront : "CREATE TABLE ".toList ++ (quotedName names ++ cs) =
      "CREATE TABLE".toList ++ ' ' :: (quotedName names ++ cs) := rfl
  rw [hfront, hkept, hrest]
  rfl

/-- Behind a name that holds together and a parenthesis, the column list is read by itself. -/
theorem splitAtOpen?_quoted {names : List String} (hne : names ≠ [])
    (h : ∀ n ∈ names, HoldsInName n.toList) (cs : List Char) :
    splitAtOpen? (tagged (withoutComments (quotedName names ++ '(' :: cs))) =
      some (quotedName names, tagged (withoutComments cs)) := by
  have hname := isTableName_quoted hne h
  rw [hname.commentless.withoutComments_append (by decide) (by decide), hname.flat.splitAtOpen?_eq,
    mark_code_apart (by decide)]

/-- The name of a table that is read with the names that were written. -/
theorem holdsInName_of_tableDeclared? {names : List String} (hne : names ≠ []) {cs before : List Char}
    {more : Tagged}
    (hsplit : splitAtOpen? (tagged (withoutComments (quotedName names ++ '(' :: cs))) =
      some (before, more))
    (hone : (parts isBlank (trim before)).length = 1)
    (hread : (parts (· == '.') (trim before)).map (fun p => String.ofList (unquoted p)) = names) :
    ∀ n ∈ names, HoldsInName n.toList := by
  have hopen : ∃ rest, withoutComments (quotedName names ++ '(' :: cs) = '[' :: rest := by
    obtain ⟨n, ns, rfl⟩ := List.exists_cons_of_ne_nil hne
    cases ns <;> exact ⟨_, rfl⟩
  obtain ⟨start, hstart⟩ := hopen
  obtain ⟨rest, rfl⟩ := exists_before_eq (hstart ▸ hsplit)
  obtain ⟨name, gap, htrim, htrimmed, -, -⟩ := Text.exists_trim_append (c := '[') (by decide) rest
  have hword : cutAt isBlank 0 (tagged (trim ('[' :: rest))) = [trim ('[' :: rest)] := by
    rw [htrim] at hone ⊢
    exact cutAt_isBlank_of_word htrimmed hone
  refine holdsInName_of_read hne hsplit hword ?_
  calc (parts (· == '.') (trim ('[' :: rest))).map unquoted
      = ((parts (· == '.') (trim ('[' :: rest))).map fun p =>
          String.ofList (unquoted p)).map String.toList := by simp [List.map_map, Function.comp_def]
    _ = names.map String.toList := by rw [hread]

/-- **Which names in square brackets are read back.** A table is read with its names, its columns and
their types just where each name holds together in its place. -/
theorem tableDeclared?_quoted_iff {names : List String} {columns : List QuotedColumn}
    (hne : names ≠ []) :
    tableDeclared? (quotedTable names columns) =
        some ⟨names, columns.map QuotedColumn.column⟩ ↔
      (∀ n ∈ names, HoldsInName n.toList) ∧ ∀ c ∈ columns, HoldsInList c.name.toList := by
  refine ⟨fun h => ?_, fun ⟨hn, hc⟩ => tableDeclared?_quoted hne hn hc⟩
  unfold tableDeclared? quotedTable at h
  obtain ⟨start, hhead, hbehind⟩ := Option.bind_eq_some_iff.1 h
  rw [tableHead?_quoted names hne] at hhead
  obtain rfl := Option.some.inj hhead
  obtain ⟨⟨before, more⟩, hsplit, hnamed⟩ := Option.bind_eq_some_iff.1 hbehind
  obtain ⟨⟨⟩, hone, hlist⟩ := Option.bind_eq_some_iff.1 hnamed
  obtain ⟨body, hbody, hr⟩ := Option.bind_eq_some_iff.1 hlist
  obtain ⟨hnames, hcolumns⟩ := TableText.mk.inj (Option.some.inj hr)
  have hn : ∀ n ∈ names, HoldsInName n.toList :=
    holdsInName_of_tableDeclared? hne hsplit ((Option.guard_eq_some' ()).1 hone) hnames
  rw [splitAtOpen?_quoted hne hn] at hsplit
  obtain ⟨rfl, rfl⟩ := Prod.mk.inj (Option.some.inj hsplit)
  exact ⟨hn, holdsInList_of_read hbody hcolumns⟩

/-- The type `int`. -/
def PlainType.int : PlainType where
  word := "int".toList
  word_ne_nil := by decide
  word_chars := Text.forall_mem_of_all (by decide)
  word_continues := by decide

/-- Names with closing brackets, in which what is read as code cuts nothing. -/
theorem tableDeclared?_quoted_brackets :
    ["a]b", "t"] ≠ [] ∧
      tableDeclared? (quotedTable ["a]b", "t"] [⟨"id", .int⟩, ⟨"x](y, z)[(--", .int⟩]) =
        some ⟨["a]b", "t"], [⟨"id", some "int"⟩, ⟨"x](y, z)[(--", some "int"⟩]⟩ :=
  ⟨by decide, (tableDeclared?_quoted_iff (by decide)).2 ⟨by decide +kernel, by decide +kernel⟩⟩

/-- A name that is cut at the white space behind its closing bracket: the rest of it is read as part
of the type. -/
theorem tableDeclared?_quoted_cut :
    quotedTable ["t"] [⟨"a] b", .int⟩] = "CREATE TABLE [t]([a]] b] int)".toList ∧
      tableDeclared? (quotedTable ["t"] [⟨"a] b", .int⟩]) =
        some ⟨["t"], [⟨"a]", some "b int"⟩]⟩ ∧
      tableDeclared? (quotedTable ["t"] [⟨"a] b", .int⟩]) ≠
        some ⟨["t"], [⟨"a] b", some "int"⟩]⟩ := by
  decide +kernel

end Script
end SchemaMap
