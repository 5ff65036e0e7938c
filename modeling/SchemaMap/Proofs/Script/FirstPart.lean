/-
# What the first part of a text tells of the text

The reader cuts a text from the front. So where the first part that it gives is known to go on for so
many characters, nothing in these cuts the text: they hold no separator in code outside their own
parentheses. In the same way, the body of a column list shows that no parenthesis in it closes the
list. And what stands between the first part and the next one is a separator in code, so the text is
cut behind it as if it stood alone.

Key theorems: `Script.cutAt_eq_cons`, `Script.exists_separator`, `Script.cutAt_through`,
`Script.cutAt_through_plain`, `Script.bodyUpToClose?_through`, `Script.parts_open`,
`Script.parts_behind`.
-/
import SchemaMap.Proofs.Script.Followed

namespace SchemaMap
namespace Script

open Text (isBlank trim IsTrimmed)

variable {sep : Char → Bool}

/-! ### Cutting -/

/-- Whether the character `x` separates parts at the depth `d`. -/
def separates (sep : Char → Bool) (d : Nat) (x : Char × Region) : Bool :=
  x.2 == .code && d == 0 && x.1 != '(' && x.1 != ')' && sep x.1

theorem cutAt_ne_nil (d : Nat) : ∀ g : Tagged, cutAt sep d g ≠ []
  | [] => List.cons_ne_nil _ _
  | x :: more => by
    rw [cutAt]
    split
    · exact List.cons_ne_nil _ _
    · split <;> exact List.cons_ne_nil _ _

theorem exists_cutAt_eq_cons (sep : Char → Bool) (d : Nat) (g : Tagged) :
    ∃ part ps, cutAt sep d g = part :: ps :=
  List.exists_cons_of_ne_nil (cutAt_ne_nil d g)

/-- The first character separates parts, or it is the first one of the first part. -/
theorem cutAt_eq_cons {d : Nat} {x : Char × Region} {more : Tagged} {part : List Char}
    {ps : List (List Char)} (h : cutAt sep d (x :: more) = part :: ps) :
    (separates sep d x = true ∧ part = [] ∧ ps = cutAt sep d more) ∨
      (separates sep d x = false ∧
        ∃ rest, part = x.1 :: rest ∧ cutAt sep (depthAfter x d) more = rest :: ps) := by
  rw [cutAt] at h
  change (if separates sep d x = true then _ else _) = _ at h
  by_cases hx : separates sep d x = true
  · rw [if_pos hx] at h
    obtain ⟨hpart, hps⟩ := List.cons.inj h
    exact .inl ⟨hx, hpart.symm, hps.symm⟩
  · rw [if_neg hx] at h
    obtain ⟨rest, qs, hrest⟩ := exists_cutAt_eq_cons sep (depthAfter x d) more
    rw [hrest] at h
    obtain ⟨rfl, rfl⟩ := List.cons.inj h
    exact .inr ⟨Bool.eq_false_iff.2 hx, rest, rfl, hrest⟩

theorem separates_eq_true {d : Nat} {x : Char × Region} (h : separates sep d x = true) :
    x.2 = .code ∧ d = 0 ∧ sep x.1 = true := by
  simp only [separates, Bool.and_eq_true, beq_iff_eq] at h
  exact ⟨h.1.1.1.1, h.1.1.1.2, h.2⟩

/-- **Behind the first part of several there is a separator in code**, and the rest is cut as if it
stood alone. -/
theorem exists_separator : ∀ {g : Tagged} {d : Nat} {part : List Char} {ps : List (List Char)},
    cutAt sep d g = part :: ps → ps ≠ [] →
      ∃ front c more, g = front ++ (c, .code) :: more ∧ chars front = part ∧ sep c = true ∧
        cutAt sep 0 more = ps
  | [], d, part, ps, h, hne => by
    obtain ⟨-, rfl⟩ := List.cons.inj h
    exact absurd rfl hne
  | (c, region) :: g, d, part, ps, h, hne => by
    rcases cutAt_eq_cons h with ⟨hx, rfl, hps⟩ | ⟨-, rest, rfl, hrest⟩
    · obtain ⟨rfl, rfl, hc⟩ := separates_eq_true hx
      exact ⟨[], c, g, rfl, rfl, hc, hps.symm⟩
    · obtain ⟨front, e, more, rfl, rfl, he, hmore⟩ := exists_separator hrest hne
      exact ⟨(c, region) :: front, e, more, rfl, rfl, he, hmore⟩

/-- Where there is one part only, it is the text. -/
theorem chars_eq_of_cutAt : ∀ {g : Tagged} {d : Nat} {part : List Char},
    cutAt sep d g = [part] → chars g = part
  | [], d, part, h => (List.cons.inj h).1
  | x :: g, d, part, h => by
    rcases cutAt_eq_cons h with ⟨-, -, hps⟩ | ⟨-, rest, rfl, hrest⟩
    · exact absurd hps.symm (cutAt_ne_nil d g)
    · exact congrArg (x.1 :: ·) (chars_eq_of_cutAt hrest)

theorem cutAt_isPrefix {cs part : List Char} {ps : List (List Char)}
    (h : cutAt sep 0 (tagged cs) = part :: ps) : part <+: cs := by
  have hcs : chars (tagged cs) = cs := chars_mark _ _
  rcases eq_or_ne ps [] with rfl | hne
  · rw [← chars_eq_of_cutAt h, hcs]
  · obtain ⟨front, c, more, hregions, rfl, -⟩ := exists_separator h hne
    rw [← hcs, hregions, chars, chars, List.map_append]
    exact List.prefix_append _ _

/-- Where only white space is cut off at white space, nothing follows the first part but white
space. -/
theorem exists_blanks_behind : ∀ {ps : List (List Char)} {g : Tagged} {d : Nat} {part : List Char},
    cutAt isBlank d g = part :: ps → (∀ p ∈ ps, trim p = []) →
      ∃ gap, chars g = part ++ gap ∧ (∀ c ∈ gap, isBlank c = true) ∧ (gap = [] → ps = [])
  | [], g, d, part, h, _ =>
    ⟨[], by rw [chars_eq_of_cutAt h, List.append_nil], List.forall_mem_nil _, fun _ => rfl⟩
  | q :: qs, g, d, part, h, hps => by
    obtain ⟨hq, hqs⟩ := List.forall_mem_cons.1 hps
    obtain ⟨front, c, more, rfl, rfl, hc, hmore⟩ := exists_separator h (List.cons_ne_nil _ _)
    obtain ⟨gap, hgap, hblank, -⟩ := exists_blanks_behind hmore hqs
    have hall : ∀ a ∈ c :: (q ++ gap), isBlank a = true :=
      List.forall_mem_cons.2
        ⟨hc, List.forall_mem_append.2 ⟨Text.forall_isBlank_of_trim_eq_nil hq, hblank⟩⟩
    refine ⟨c :: (q ++ gap), ?_, hall, fun hnil => absurd hnil (List.cons_ne_nil _ _)⟩
    rw [← hgap]
    simp [chars]

/-! ### Texts in front of a first part's end -/

/-- A text that closes nothing that it did not find open, in the first part of what it starts. -/
theorem cutAt_through : ∀ {g more : Tagged} {d e : Nat} {part : List Char} {ps : List (List Char)},
    cutAt sep d (g ++ more) = part :: ps → Unsplit (fun _ => false) d g e →
      g.length ≤ part.length →
        Unsplit sep d g e ∧ ∃ rest, part = chars g ++ rest ∧ cutAt sep e more = rest :: ps
  | [], more, d, e, part, ps, h, hg, _ => by
    cases hg
    exact ⟨.nil d, part, rfl, h⟩
  | x :: g, more, d, e, part, ps, h, hg, hlen => by
    rcases cutAt_eq_cons h with ⟨-, rfl, -⟩ | ⟨hx, rest, rfl, hrest⟩
    · exact absurd hlen (Nat.not_succ_le_zero _)
    · have hlen' : g.length ≤ rest.length := Nat.le_of_succ_le_succ hlen
      cases hg with
      | hidden hcode hmore =>
        have hdepth : depthAfter x d = d := if_pos hcode
        rw [hdepth] at hrest
        obtain ⟨hunsplit, back, rfl, hback⟩ := cutAt_through hrest hmore hlen'
        exact ⟨.hidden hcode hunsplit, back, rfl, hback⟩
      | @plain _ _ c _ ho hc _ hmore =>
        have hdepth : depthAfter (c, .code) d = d := by simp [depthAfter, ho, hc]
        rw [hdepth] at hrest
        obtain ⟨hunsplit, back, rfl, hback⟩ := cutAt_through hrest hmore hlen'
        refine ⟨.plain ho hc (fun h0 => ?_) hunsplit, back, rfl, hback⟩
        simpa [separates, h0, ho, hc] using hx
      | opening hmore =>
        obtain ⟨hunsplit, back, rfl, hback⟩ := cutAt_through hrest hmore hlen'
        exact ⟨.opening hunsplit, back, rfl, hback⟩
      | closing hmore =>
        obtain ⟨hunsplit, back, rfl, hback⟩ := cutAt_through hrest hmore hlen'
        exact ⟨.closing hunsplit, back, rfl, hback⟩

/-- Outside of parentheses, only an opening one leads into them. -/
theorem depthAfter_zero {x : Char × Region} (h : x ≠ ('(', .code)) : depthAfter x 0 = 0 := by
  obtain ⟨c, region⟩ := x
  unfold depthAfter
  split
  · rfl
  · rename_i hcode
    rw [ne_eq, not_not] at hcode
    rw [if_neg fun ho : c = '(' => h (by rw [← ho, ← hcode])]
    split <;> rfl

/-- A text that opens no parenthesis, in the first part of what it starts. -/
theorem cutAt_through_plain (hclose : sep ')' = false) :
    ∀ {g more : Tagged} {part : List Char} {ps : List (List Char)},
      cutAt sep 0 (g ++ more) = part :: ps → (∀ x ∈ g, x ≠ ('(', .code)) →
        g.length ≤ part.length → ∀ x ∈ g, x.2 = .code → sep x.1 = false
  | [], more, part, ps, _, _, _ => List.forall_mem_nil _
  | x :: g, more, part, ps, h, hopen, hlen => by
    obtain ⟨hxo, hgo⟩ := List.forall_mem_cons.1 hopen
    rcases cutAt_eq_cons h with ⟨-, rfl, -⟩ | ⟨hx, rest, rfl, hrest⟩
    · exact absurd hlen (Nat.not_succ_le_zero _)
    · rw [depthAfter_zero hxo] at hrest
      refine List.forall_mem_cons.2 ⟨fun hcode => ?_,
        cutAt_through_plain hclose hrest hgo (Nat.le_of_succ_le_succ hlen)⟩
      have ho : x.1 ≠ '(' := fun ho => hxo (Prod.ext ho hcode)
      by_cases hc : x.1 = ')'
      · rw [hc, hclose]
      · simpa [separates, hcode, ho, hc] using hx

/-- No parenthesis in the body of a column list closes it. -/
theorem bodyUpToClose?_through : ∀ {g more : Tagged} {d : Nat} {body : List Char},
    bodyUpToClose? d (g ++ more) = some body → g.length ≤ body.length →
      ∃ e, Unsplit (fun _ => false) d g e
  | [], more, d, body, _, _ => ⟨d, .nil d⟩
  | x :: g, more, d, body, h, hlen => by
    by_cases hx : x = (')', .code)
    · subst hx
      cases d with
      | zero =>
        obtain rfl := Option.some.inj h
        exact absurd hlen (Nat.not_succ_le_zero _)
      | succ d =>
        obtain ⟨rest, hrest, rfl⟩ := Option.map_eq_some_iff.1 h
        obtain ⟨e, hg⟩ := bodyUpToClose?_through hrest (Nat.le_of_succ_le_succ hlen)
        exact ⟨e, .closing hg⟩
    · rw [List.cons_append, bodyUpToClose?_cons hx] at h
      obtain ⟨rest, hrest, rfl⟩ := Option.map_eq_some_iff.1 h
      obtain ⟨e, hg⟩ := bodyUpToClose?_through hrest (Nat.le_of_succ_le_succ hlen)
      refine ⟨e, ?_⟩
      obtain ⟨c, region⟩ := x
      by_cases hcode : region = .code
      · subst hcode
        by_cases ho : c = '('
        · subst ho
          exact .opening hg
        · rw [if_neg fun h => ho (congrArg Prod.fst h)] at hg
          exact .plain ho (fun hc => hx (by rw [hc])) (fun _ => rfl) hg
      · rw [if_neg fun h => hcode (congrArg Prod.snd h)] at hg
        exact .hidden hcode hg

/-! ### Parts -/

/-- Of a text that starts with a bracket, the first part starts there, and is what the text is first
cut into, up to white space behind it. -/
theorem parts_open (sep : Char → Bool) (cs : List Char) :
    ∃ f gap ps, cutAt sep 0 (tagged ('[' :: cs)) = ('[' :: (f ++ gap)) :: ps ∧
      (∀ c ∈ gap, isBlank c = true) ∧
      parts sep ('[' :: cs) = ('[' :: f) :: (ps.map trim).filter fun part => !part.isEmpty := by
  obtain ⟨part, ps, hcut⟩ := exists_cutAt_eq_cons sep 0 (tagged ('[' :: cs))
  rcases cutAt_eq_cons hcut with ⟨hx, -⟩ | ⟨-, rest, rfl, -⟩
  · cases hx
  · obtain ⟨f, gap, htrim, -, rfl, hgap⟩ :=
      Text.exists_trim_append (c := '[') (by decide) rest
    refine ⟨f, gap, ps, hcut, hgap, ?_⟩
    rw [parts, hcut, List.map_cons, htrim, List.filter_cons_of_pos (by simp)]

/-- A trimmed text that is one word is not cut at all. -/
theorem cutAt_isBlank_of_word {cs : List Char} (ht : IsTrimmed ('[' :: cs))
    (h : (parts isBlank ('[' :: cs)).length = 1) :
    cutAt isBlank 0 (tagged ('[' :: cs)) = ['[' :: cs] := by
  obtain ⟨f, gap, ps, hcut, -, hparts⟩ := parts_open isBlank cs
  have hnone : (ps.map trim).filter (fun part => !part.isEmpty) = [] := by
    rw [hparts, List.length_cons, Nat.add_eq_right] at h
    exact List.eq_nil_of_length_eq_zero h
  have hblank : ∀ p ∈ ps, trim p = [] := fun p hp => by
    simpa using List.filter_eq_nil_iff.1 hnone (trim p) (List.mem_map_of_mem hp)
  obtain ⟨behind, hchars, hbehind, hps⟩ := exists_blanks_behind hcut hblank
  rw [tagged, chars_mark] at hchars
  obtain ⟨front, c, hlast, hc⟩ := ht.last
  have hnil : behind = [] := by
    rcases List.eq_nil_or_concat behind with hnil | ⟨b, d, rfl⟩
    · exact hnil
    · rw [hlast, List.concat_eq_append, ← List.append_assoc] at hchars
      obtain rfl : c = d := List.singleton_inj.1 (List.append_inj' hchars rfl).2
      exact absurd (hbehind c (by simp)) (by simp [hc])
  rw [hcut, hps hnil, hchars, hnil, List.append_nil]

/-- **The first part of a joined text**: what stands behind the separator and white space has its
own parts. -/
theorem parts_behind {t gap : List Char} (h : OnePart sep t) (ht : IsTrimmed t) {c : Char}
    (hcalm : IsCalm c) (ho : c ≠ '(') (hc : c ≠ ')') (hs : sep c = true)
    (hword : continuesWord c = false) (hgap : Whole sep gap) (hblank : ∀ a ∈ gap, isBlank a = true)
    (rest : List Char) : parts sep (t ++ c :: (gap ++ rest)) = t :: parts sep rest := by
  obtain ⟨g, hg, hunsplit, -⟩ := hgap
  have hleaves : Leaves (gap ++ rest) rest := ⟨gap, rfl, fun a ha => isCalm_of_isBlank (hblank a ha),
    fun a ha => hblank a (List.mem_of_getLast? ha)⟩
  obtain ⟨front, hfront, htagged⟩ := hleaves.tagged_eq
  obtain rfl := List.append_cancel_right hfront
  have hcode : g = allIn .code gap := by
    rw [← hg.tagged_eq, (scans_code fun a ha => isCalm_of_isBlank (hblank a ha)).tagged_eq]
  rw [hcode] at hunsplit
  obtain ⟨part, ps, hcut⟩ := exists_cutAt_eq_cons sep 0 (tagged rest)
  have hbehind : cutAt sep 0 (tagged (gap ++ rest)) = (gap ++ part) :: ps := by
    rw [htagged, hunsplit.cutAt_append hcut, ← hcode, hg.chars_eq]
  have htrim : trim (gap ++ part) = trim part := by
    rw [trim, trim, List.dropWhile_append_of_pos hblank]
  rw [parts, tagged, h.cutAt_mark_separator hcalm ho hc hs, mark_code_apart hword, hbehind, parts,
    hcut, List.map_cons, List.map_cons, List.map_cons, htrim, ht.trim_eq,
    List.filter_cons_of_pos (by simpa using ht.ne_nil)]

end Script
end SchemaMap
