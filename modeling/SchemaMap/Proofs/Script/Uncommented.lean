/-
# A script without its comments

Blanking out a comment changes what stands next to the characters around it. Nothing comes of that:
a blank is no part of the two characters that open a comment, ends a dollar tag as the comment did,
and stands in no quotation. So the reader of a script and the reader of the script without its
comments go on in step (`InStep`), and where the first is in a comment the second is in code.

Key definitions: `Script.uncommented`, `Script.InStep`.
Key theorems: `Script.step_inStep`, `Script.mark_blanked`, `Script.tagged_withoutComments`,
`Script.withoutComments_stable`.
-/
import SchemaMap.Script.Declaration
import SchemaMap.Proofs.Script.Ahead

namespace SchemaMap
namespace Script

/-- A character of a script as it stands in the script without comments: what was in a comment is
blanked out and in code. -/
def uncommented (x : Char × Region) : Char × Region :=
  (blanked x, if x.2 = .comment then .code else x.2)

/-! ### Blanked characters -/

theorem blanked_comment (c : Char) : blanked (c, .comment) = ' ' ∨ blanked (c, .comment) = '\n' := by
  by_cases hc : c = '\n'
  · exact .inr (by rw [hc]; rfl)
  · exact .inl (if_pos ⟨rfl, hc⟩)

theorem blanked_cases (x : Char × Region) : blanked x = x.1 ∨ blanked x = ' ' := by
  unfold blanked
  split
  · exact .inr rfl
  · exact .inl rfl

theorem blanked_eq_newline {x : Char × Region} : blanked x = '\n' ↔ x.1 = '\n' := by
  unfold blanked
  split
  · rename_i h
    simp [h.2]
  · rfl

/-! ### What is looked at ahead

A reader in code looks one character ahead for a comment, and for a dollar tag as far as it goes; in
a quotation it looks ahead for the text that closes it. -/

/-- No comment opens in front of blanked characters that does not open in front of the script's. -/
theorem startsComment_blanked {c : Char} {cs : List Char} (m : Mark)
    (h : startsComment (c :: cs) = false) :
    startsComment (c :: (mark m cs).map blanked) = false := by
  cases cs with
  | nil => exact h
  | cons d ds =>
    rw [mark, List.map_cons]
    rcases blanked_cases (d, (step m d ds).1) with hb | hb
    · rw [hb]
      unfold startsComment at h ⊢
      split at h <;> simp_all
    · rw [hb]
      unfold startsComment
      split <;> simp_all

/-- The reader is in code or in a quotation. -/
def Visible (m : Mark) : Prop :=
  (∃ p, m = .code p) ∨ Within .quoted m

theorem visible_step {m : Mark} (h : Visible m) {c : Char} {cs : List Char}
    (hc : (step m c cs).1 ≠ .comment) : Visible (step m c cs).2 := by
  rcases h with ⟨p, rfl⟩ | h
  · rcases opened_cases p c cs with ho | ⟨m, ho, -⟩ | ⟨m, ho, hm, -⟩
    · exact .inl ⟨some c, by rw [step, ho]⟩
    · exact absurd (by rw [step, ho]) hc
    · exact .inr (by rw [step, ho]; exact hm)
  · rcases step_within h c cs with ⟨-, hw | hp⟩ | ⟨-, hs⟩
    · exact .inr hw
    · exact .inl hp
    · exact .inl ⟨some c, by rw [hs]⟩

/-- In code or in a quotation, what is in a comment opens it. -/
theorem startsComment_of_visible {m : Mark} (h : Visible m) {c : Char} {cs : List Char}
    (hc : (step m c cs).1 = .comment) : c = '-' ∨ c = '/' := by
  rcases h with ⟨p, rfl⟩ | h
  · have hs := (opened_comment_iff p c cs).1 hc
    unfold startsComment at hs
    split at hs <;> simp_all
  · rcases step_within h c cs with ⟨hr, -⟩ | ⟨-, hs⟩
    · rw [hr] at hc
      cases hc
    · rw [hs] at hc
      cases hc

/-- A dollar tag is read alike: a comment ends it where the blank in its place does. -/
theorem tagRest?_blanked : ∀ (cs : List Char) {m : Mark} (first : Bool), Visible m →
    tagRest? first ((mark m cs).map blanked) = tagRest? first cs
  | [], _, _, _ => rfl
  | c :: cs, m, first, h => by
    rw [mark, List.map_cons]
    by_cases hc : (step m c cs).1 = .comment
    · rw [hc]
      rcases startsComment_of_visible h hc with rfl | rfl
      · rfl
      · rfl
    · have hb : blanked (c, (step m c cs).1) = c := blanked_of_ne hc
      have ih := tagRest?_blanked cs false (visible_step h hc)
      rw [hb]
      by_cases hd : c = '$'
      · subst hd
        rfl
      · rw [tagRest?.eq_3 _ _ _ hd, tagRest?.eq_3 _ _ _ hd, ih]

/-- A character of a quotation is one of those held, and no other is let go. -/
theorem held_step {m : Mark} (h : Within .quoted m) (c : Char) (cs : List Char) :
    (step m c cs).1 = .quoted ∧ m.held ≤ (step m c cs).2.held + 1 := by
  refine ⟨?_, held_le_step m c cs⟩
  cases h with
  | inside n stop =>
    cases n with
    | succ n => rfl
    | zero =>
      rw [step]
      split
      · rfl
      · split <;> rfl
  | closing n => cases n <;> rfl
  | line n hl => cases hl

/-- What a quotation holds for certain is not blanked out. -/
theorem take_blanked : ∀ (cs : List Char) {m : Mark} {k : Nat}, Visible m → k ≤ m.held →
    ((mark m cs).map blanked).take k = cs.take k
  | [], _, _, _, _ => rfl
  | _ :: _, _, 0, _, _ => rfl
  | c :: cs, m, k + 1, h, hk => by
    have hquoted : Within .quoted m := by
      rcases h with ⟨p, rfl⟩ | h
      · exact absurd hk (Nat.not_succ_le_zero k)
      · exact h
    obtain ⟨hregion, hheld⟩ := held_step hquoted c cs
    have hc : (step m c cs).1 ≠ .comment := by rw [hregion]; decide
    have ih := take_blanked cs (k := k) (visible_step h hc) (by omega)
    rw [mark, List.map_cons, List.take_succ_cons, List.take_succ_cons, ih, blanked_of_ne hc]

/-- The text that closes a quotation is found at the same place. -/
theorem after?_blanked {stop : List Char} (c : Char) (cs : List Char) {m : Mark} (h : Visible m)
    (hm : stop.length ≤ m.held + 1) :
    (Text.after? stop (c :: (mark m cs).map blanked)).isSome =
      (Text.after? stop (c :: cs)).isSome := by
  rw [Bool.eq_iff_iff, Text.after?_isSome, Text.after?_isSome]
  cases stop with
  | nil => simp
  | cons d t =>
    have htake : ((mark m cs).map blanked).take t.length = cs.take t.length :=
      take_blanked cs h (Nat.le_of_succ_le_succ hm)
    rw [List.cons_prefix_cons, List.cons_prefix_cons, List.prefix_iff_eq_take,
      List.prefix_iff_eq_take, htake]

/-- In a quotation the next step is the same. -/
theorem step_within_blanked {m : Mark} (h : Within .quoted m) (c : Char) (cs : List Char) :
    step m c ((mark (step m c cs).2 cs).map blanked) = step m c cs := by
  obtain ⟨hregion, hheld⟩ := held_step h c cs
  have hvisible : Visible (step m c cs).2 := visible_step (.inr h) (by rw [hregion]; decide)
  cases h with
  | inside n stop =>
    cases n with
    | succ n => rfl
    | zero =>
      have hstop : stop.length ≤ (step (.inside .quoted 0 stop) c cs).2.held + 1 := by
        simpa [Mark.held] using hheld
      exact step_inside_congr (after?_blanked c cs hvisible hstop)
  | closing n => cases n <;> rfl
  | line n hl => cases hl

/-! ### In step -/

/-- The reader is in a comment: one that runs to the next `*/`, the last character of that, or one
that runs to the end of the line. -/
inductive InComment : Mark → List Char → Prop
  | inside (n : Nat) (cs : List Char) : InComment (.inside .comment n ['*', '/']) cs
  | closing (cs : List Char) : InComment (.closing .comment 0) ('/' :: cs)
  | line (n : Nat) (cs : List Char) : InComment (.line n) cs

/-- Where the reader of a script stands in front of the characters `cs`, and where the reader of the
script without its comments stands there. In code they may stand behind different characters, as
long as a word goes on behind both or behind none. -/
inductive InStep : Mark → Mark → List Char → Prop
  | code {p p' : Option Char} (h : p.any continuesWord = p'.any continuesWord) (cs : List Char) :
    InStep (.code p) (.code p') cs
  | quoted {m : Mark} (h : Within .quoted m) (cs : List Char) : InStep m m cs
  | comment {m : Mark} {p : Option Char} {cs : List Char} (h : InComment m cs)
    (hp : p.any continuesWord = false) : InStep m (.code p) cs

theorem opened_inComment {p : Option Char} {c : Char} {cs : List Char}
    (h : (opened p c cs).1 = .comment) : InComment (opened p c cs).2 cs := by
  have hs := (opened_comment_iff p c cs).1 h
  unfold startsComment at hs
  split at hs
  · rename_i hdash
    obtain ⟨rfl, rfl⟩ := List.cons.inj hdash
    exact .line 1 _
  · rename_i hslash
    obtain ⟨rfl, rfl⟩ := List.cons.inj hslash
    exact .inside 1 _
  · cases hs

/-- In a comment, a character leaves the reader in it or behind its end, where no word goes on. -/
theorem inComment_step {m : Mark} {c : Char} {cs : List Char} (h : InComment m (c :: cs)) :
    ((step m c cs).1 = .comment ∧
        (InComment (step m c cs).2 cs ∨ step m c cs = (.comment, .code (some '/')))) ∨
      (c = '\n' ∧ step m c cs = (.code, .code (some '\n'))) := by
  cases h with
  | inside n cs =>
    refine .inl ?_
    cases n with
    | succ n => exact ⟨rfl, .inl (.inside n _)⟩
    | zero =>
      cases hstop : Text.after? ['*', '/'] (c :: cs) with
      | none =>
        have hstep : step (.inside .comment 0 ['*', '/']) c cs =
            (.comment, .inside .comment 0 ['*', '/']) := by
          simp only [step, hstop]
        rw [hstep]
        exact ⟨rfl, .inl (.inside 0 _)⟩
      | some rest =>
        have hstep : step (.inside .comment 0 ['*', '/']) c cs = (.comment, .closing .comment 0) := by
          simp only [step, hstop]
          rfl
        have hpre : ['*', '/'] <+: c :: cs :=
          (Text.after?_isSome _ _).1 (Option.isSome_of_eq_some hstop)
        obtain ⟨t, ht⟩ := hpre
        obtain ⟨-, rfl⟩ := List.cons.inj ht
        rw [hstep]
        exact ⟨rfl, .inl (.closing _)⟩
  | closing cs => exact .inl ⟨rfl, .inr rfl⟩
  | line n cs =>
    cases n with
    | succ n => exact .inl ⟨rfl, .inl (.line n _)⟩
    | zero =>
      rw [step]
      split
      · rename_i hc
        exact .inr ⟨hc, by rw [hc]⟩
      · exact .inl ⟨rfl, .inl (.line 0 _)⟩

/-- In a comment's place, the reader is in code, and no word goes on there. -/
theorem step_blank (p : Option Char) (c : Char) (ds : List Char) :
    step (.code p) (blanked (c, .comment)) ds = (.code, .code (some (blanked (c, .comment)))) ∧
      (some (blanked (c, .comment))).any continuesWord = false := by
  have hcalm : IsCalm (blanked (c, .comment)) ∧ continuesWord (blanked (c, .comment)) = false := by
    rcases blanked_comment c with hb | hb
    · rw [hb]
      decide
    · rw [hb]
      decide
  exact ⟨opened_of_isCalm hcalm.1 p ds, hcalm.2⟩

/-- A step from code. -/
theorem opened_inStep {p p' : Option Char} (hp : p.any continuesWord = p'.any continuesWord)
    (c : Char) (cs : List Char) :
    ∃ n, step (.code p') (blanked (c, (opened p c cs).1)) ((mark (opened p c cs).2 cs).map blanked) =
        ((uncommented (c, (opened p c cs).1)).2, n) ∧ InStep (opened p c cs).2 n cs := by
  by_cases hc : (opened p c cs).1 = .comment
  · obtain ⟨hstep, hword⟩ := step_blank p' c ((mark (opened p c cs).2 cs).map blanked)
    rw [hc]
    exact ⟨_, hstep, .comment (opened_inComment hc) hword⟩
  · have hstart : startsComment (c :: cs) = false :=
      Bool.eq_false_iff.2 fun hs => hc ((opened_comment_iff p c cs).2 hs)
    have hvisible : Visible (opened p c cs).2 := visible_step (.inl ⟨p, rfl⟩) hc
    have hopened : opened p' c ((mark (opened p c cs).2 cs).map blanked) = opened p c cs := by
      refine opened_congr ((startsComment_blanked _ hstart).trans hstart.symm) fun _ => ?_
      rw [dollarTag?, dollarTag?, hp, tagRest?_blanked cs true hvisible]
    have hb : blanked (c, (opened p c cs).1) = c := blanked_of_ne hc
    rw [hb, step, hopened]
    refine ⟨_, Prod.ext (if_neg hc).symm rfl, ?_⟩
    rcases opened_cases p c cs with ho | ⟨m, ho, -⟩ | ⟨m, ho, hm, -⟩
    · rw [ho]
      exact .code rfl cs
    · exact absurd (by rw [ho]) hc
    · rw [ho]
      exact .quoted hm cs

/-- **One step.** The two readers go on in step, and give a character the same region, with code in
place of a comment. -/
theorem step_inStep {m m' : Mark} {c : Char} {cs : List Char} (h : InStep m m' (c :: cs)) :
    ∃ n, step m' (blanked (c, (step m c cs).1)) ((mark (step m c cs).2 cs).map blanked) =
        ((uncommented (c, (step m c cs).1)).2, n) ∧ InStep (step m c cs).2 n cs := by
  cases h with
  | code hp _ => exact opened_inStep hp c cs
  | quoted hm _ =>
    have hregion : (step m c cs).1 ≠ .comment := by
      rw [(held_step hm c cs).1]
      decide
    have hb : blanked (c, (step m c cs).1) = c := blanked_of_ne hregion
    rw [hb, step_within_blanked hm]
    refine ⟨(step m c cs).2, Prod.ext (if_neg hregion).symm rfl, ?_⟩
    rcases step_within hm c cs with ⟨-, hw | ⟨p, hp⟩⟩ | ⟨-, hs⟩
    · exact .quoted hw cs
    · rw [hp]
      exact .code rfl cs
    · rw [hs]
      exact .code rfl cs
  | @comment _ p _ hm hp =>
    rcases inComment_step hm with ⟨hregion, hnext⟩ | ⟨rfl, hstep⟩
    · obtain ⟨hstep, hword⟩ := step_blank p c ((mark (step m c cs).2 cs).map blanked)
      rw [hregion]
      refine ⟨_, hstep, ?_⟩
      rcases hnext with hin | hend
      · exact .comment hin hword
      · rw [hend]
        exact .code (by rw [hword]; decide) cs
    · have hcalm : IsCalm '\n' := by decide
      have hnext := opened_of_isCalm hcalm p ((mark (.code (some '\n')) cs).map blanked)
      rw [hstep]
      exact ⟨_, hnext, .code rfl cs⟩

/-- **A whole script.** The reader of a script without its comments gives every character the region
that it has in the script, with code in place of a comment. -/
theorem mark_blanked : ∀ (cs : List Char) {m m' : Mark}, InStep m m' cs →
    mark m' ((mark m cs).map blanked) = (mark m cs).map uncommented
  | [], _, _, _ => rfl
  | c :: cs, m, m', h => by
    obtain ⟨n, hstep, hnext⟩ := step_inStep h
    have ih := mark_blanked cs hnext
    rw [mark, List.map_cons, List.map_cons, mark, hstep, ih]
    rfl

theorem tagged_withoutComments (cs : List Char) :
    tagged (withoutComments cs) = (tagged cs).map uncommented :=
  mark_blanked cs (.code rfl cs)

/-! ### A script and the script without its comments -/

theorem uncommented_ne_comment (x : Char × Region) : (uncommented x).2 ≠ .comment := by
  by_cases h : x.2 = .comment
  · simp [uncommented, h]
  · simp [uncommented, h]

/-- Blanking out comments a second time changes nothing. -/
theorem withoutComments_idem (cs : List Char) :
    withoutComments (withoutComments cs) = withoutComments cs := by
  have htwice (x : Char × Region) : blanked (uncommented x) = blanked x :=
    blanked_of_ne (uncommented_ne_comment x)
  calc withoutComments (withoutComments cs)
      = ((tagged cs).map uncommented).map blanked := by
        rw [← tagged_withoutComments]
        rfl
    _ = (tagged cs).map blanked := by
        rw [List.map_map]
        exact List.map_congr_left fun x _ => htwice x

theorem getElem?_withoutComments (cs : List Char) (i : Nat) :
    (withoutComments cs)[i]? = (tagged cs)[i]?.map blanked :=
  List.getElem?_map

theorem getElem?_chars (cs : List Char) (i : Nat) : (tagged cs)[i]?.map (·.1) = cs[i]? := by
  rw [← List.getElem?_map]
  exact congrArg (·[i]?) (chars_mark (.code none) cs)

/-- **A script without its comments.** It is as long as the script, with its line feeds at the same
places and every character outside comments where it was. It holds no comment: its regions are those
of the script, with code in place of comments. So blanking out comments twice is blanking them out
once, and what is declared is the same with the comments and without. -/
theorem withoutComments_stable (cs : List Char) :
    (withoutComments cs).length = cs.length ∧
      (∀ i : Nat, (withoutComments cs)[i]? = some '\n' ↔ cs[i]? = some '\n') ∧
      (∀ (i : Nat) c region, (tagged cs)[i]? = some (c, region) → region ≠ .comment →
        cs[i]? = some c ∧ (withoutComments cs)[i]? = some c) ∧
      (∀ x ∈ tagged (withoutComments cs), x.2 ≠ .comment) ∧
      (tagged (withoutComments cs)).map (·.2) =
        (tagged cs).map (fun x => if x.2 = Region.comment then Region.code else x.2) ∧
      withoutComments (withoutComments cs) = withoutComments cs ∧
      isCreateTable (withoutComments cs) = isCreateTable cs ∧
      schemaDeclared? (withoutComments cs) = schemaDeclared? cs ∧
      tableDeclared? (withoutComments cs) = tableDeclared? cs := by
  have hidem := withoutComments_idem cs
  have hregions := tagged_withoutComments cs
  refine ⟨?_, fun i => ?_, fun i c region hi hr => ?_, fun x hx => ?_, ?_, hidem, ?_, ?_, ?_⟩
  · calc (withoutComments cs).length
        = (chars (tagged cs)).length := by rw [withoutComments, chars, List.length_map, List.length_map]
      _ = cs.length := by rw [tagged, chars_mark]
  · rw [getElem?_withoutComments, ← getElem?_chars, Option.map_eq_some_iff, Option.map_eq_some_iff]
    simp only [blanked_eq_newline]
  · have hchar := getElem?_chars cs i
    rw [hi] at hchar
    refine ⟨hchar.symm, ?_⟩
    rw [getElem?_withoutComments, hi, Option.map_some, blanked_of_ne hr]
  · rw [hregions] at hx
    obtain ⟨y, -, rfl⟩ := List.mem_map.1 hx
    exact uncommented_ne_comment y
  · rw [hregions, List.map_map]
    rfl
  · rw [isCreateTable, hidem, isCreateTable]
  · rw [schemaDeclared?, hidem, schemaDeclared?]
  · rw [tableDeclared?, hidem, tableDeclared?]

/-- A comment between two dashes, and one in what would be a dollar tag. -/
example : withoutComments "-/* */- $/**/t$ -".toList = "-     - $    t$ -".toList := by
  decide +kernel

end Script
end SchemaMap
