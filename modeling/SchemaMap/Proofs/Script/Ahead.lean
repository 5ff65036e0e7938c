/-
# What the reader of regions looks ahead for

In code the reader of regions looks one character ahead for a comment and as far as a tag goes for
a dollar quote; in a quotation it looks ahead for the text that closes it. So what stands behind a
text may change the regions in it, or its last ones. It does not where the text leaves the reader in
code and nothing of it goes on in what follows (`Reads.congr`): a quotation that is closed in the text
is closed there whatever follows, and for the rest it is enough that what follows starts with a
character that joins nothing (`Reads.in_front`) or that the text ends with one (`Reads.ended`).

Key definitions: `Script.Reads`, `Script.Mark.held`, `Script.Indifferent`, `Script.joins`,
`Script.StartsApart`.
Key theorems: `Script.Reads.mark_eq`, `Script.reads_of_mark`, `Script.opened_congr`,
`Script.Reads.congr`, `Script.Reads.in_front`, `Script.Reads.ended`, `Script.mark_code_congr`.
-/
import SchemaMap.Proofs.Script.Region
import SchemaMap.Proofs.Script.Chunks
import SchemaMap.Proofs.Text.Occurrence

namespace SchemaMap
namespace Script

/-! ### A text and what stands behind it -/

/-- In front of `rest`, a reader that stands at a mark gives a text its regions and stands at another
mark behind it. -/
inductive Reads (rest : List Char) : Mark → List Char → Tagged → Mark → Prop
  | nil (m : Mark) : Reads rest m [] [] m
  | cons {m n : Mark} {c : Char} {t : List Char} {g : Tagged}
      (h : Reads rest (step m c (t ++ rest)).2 t g n) :
      Reads rest m (c :: t) ((c, (step m c (t ++ rest)).1) :: g) n

theorem Reads.cons_of_step {rest t : List Char} {m l n : Mark} {c : Char} {region : Region}
    {g : Tagged} (hs : step m c (t ++ rest) = (region, l)) (h : Reads rest l t g n) :
    Reads rest m (c :: t) ((c, region) :: g) n := by
  have hcons : Reads rest m (c :: t) ((c, (step m c (t ++ rest)).1) :: g) n :=
    .cons (by rw [hs]; exact h)
  rwa [hs] at hcons

theorem Reads.mark_eq {rest t : List Char} {m n : Mark} {g : Tagged} (h : Reads rest m t g n) :
    mark m (t ++ rest) = g ++ mark n rest := by
  induction h with
  | nil m => rfl
  | cons _ ih => rw [List.cons_append, mark, ih, List.cons_append]

theorem Reads.chars_eq {rest t : List Char} {m n : Mark} {g : Tagged} (h : Reads rest m t g n) :
    chars g = t := by
  induction h with
  | nil m => rfl
  | cons _ ih => exact congrArg _ ih

theorem Reads.append {rest t u : List Char} {m l n : Mark} {g k : Tagged}
    (ht : Reads (u ++ rest) m t g l) (hu : Reads rest l u k n) :
    Reads rest m (t ++ u) (g ++ k) n := by
  induction ht with
  | nil m => exact hu
  | @cons m _ c t g _ ih =>
    have hstep : step m c (t ++ u ++ rest) = step m c (t ++ (u ++ rest)) := by
      rw [List.append_assoc]
    exact Reads.cons_of_step hstep (ih hu)

/-- The front part of what a reader reads is what it reads of the front of the text. -/
theorem reads_of_mark : ∀ {g k : Tagged} {m : Mark} {cs : List Char}, mark m cs = g ++ k →
    ∃ t rest n, cs = t ++ rest ∧ Reads rest m t g n ∧ mark n rest = k
  | [], _, m, cs, h => ⟨[], cs, m, rfl, .nil m, h⟩
  | x :: g, k, m, [], h => nomatch h
  | x :: g, k, m, c :: cs, h => by
    rw [mark, List.cons_append] at h
    obtain ⟨rfl, hmore⟩ := List.cons.inj h
    obtain ⟨t, rest, n, rfl, ht, hn⟩ := reads_of_mark hmore
    exact ⟨c :: t, rest, n, rfl, .cons ht, hn⟩

/-- By itself a text is read as it is in front of nothing. -/
theorem Reads.tagged_eq {t : List Char} {n : Mark} {g : Tagged} (h : Reads [] (.code none) t g n) :
    tagged t = g := by
  have hmark := h.mark_eq
  rwa [List.append_nil, mark, List.append_nil] at hmark

theorem Reads.opened {rest t : List Char} {m n : Mark} {g : Tagged} (h : Reads rest m t g n)
    (hm : Opened m) : Opened n := by
  induction h with
  | nil m => exact hm
  | @cons m _ c t g _ ih => exact ih (step_opened hm c _).1

/-! ### In code -/

theorem startsComment_cases {c : Char} {cs : List Char} (h : startsComment (c :: cs) = true) :
    ∃ rest, (c = '-' ∧ cs = '-' :: rest) ∨ (c = '/' ∧ cs = '*' :: rest) := by
  unfold startsComment at h
  split at h
  · rename_i rest hdash
    obtain ⟨rfl, rfl⟩ := List.cons.inj hdash
    exact ⟨rest, .inl ⟨rfl, rfl⟩⟩
  · rename_i rest hslash
    obtain ⟨rfl, rfl⟩ := List.cons.inj hslash
    exact ⟨rest, .inr ⟨rfl, rfl⟩⟩
  · cases h

/-- A dash or slash that starts no comment is code. -/
theorem opened_of_not_startsComment {c : Char} (hc : c = '-' ∨ c = '/') {p : Option Char}
    {cs : List Char} (h : startsComment (c :: cs) = false) :
    opened p c cs = (.code, .code (some c)) := by
  unfold opened
  rcases hc with rfl | rfl
  · split <;> simp_all [startsComment]
  · split <;> simp_all [startsComment]

/-- What opens at a character depends on the text behind it only for a comment and a dollar tag. -/
theorem opened_congr {p q : Option Char} {c : Char} {cs ds : List Char}
    (hs : startsComment (c :: cs) = startsComment (c :: ds))
    (htag : c = '$' → dollarTag? p cs = dollarTag? q ds) : opened p c cs = opened q c ds := by
  by_cases hds : startsComment (c :: ds) = true
  · obtain ⟨rest, ⟨rfl, rfl⟩ | ⟨rfl, rfl⟩⟩ := startsComment_cases (hs.trans hds)
    · obtain ⟨rest', ⟨-, rfl⟩ | ⟨hc, -⟩⟩ := startsComment_cases hds
      · rfl
      · exact absurd hc (by decide)
    · obtain ⟨rest', ⟨hc, -⟩ | ⟨-, rfl⟩⟩ := startsComment_cases hds
      · exact absurd hc (by decide)
      · rfl
  · rw [Bool.not_eq_true] at hds
    have hcs : startsComment (c :: cs) = false := hs.trans hds
    by_cases hcalm : IsCalm c
    · rw [opened_of_isCalm hcalm, opened_of_isCalm hcalm]
    · have hopener : c ∈ openers := not_not.1 hcalm
      simp only [openers, List.mem_cons, List.not_mem_nil, or_false] at hopener
      rcases hopener with rfl | rfl | rfl | rfl | rfl | rfl | rfl
      · rw [opened_of_not_startsComment (.inl rfl) hcs, opened_of_not_startsComment (.inl rfl) hds]
      · rw [opened_of_not_startsComment (.inr rfl) hcs, opened_of_not_startsComment (.inr rfl) hds]
      · rfl
      · rfl
      · rfl
      · rfl
      · have htag' := htag rfl
        simp only [opened, htag']

/-- Of the character before it, a text in code depends only on whether a word goes on behind it. -/
theorem mark_code_congr {p q : Option Char} (h : p.any continuesWord = q.any continuesWord) :
    ∀ cs : List Char, mark (.code p) cs = mark (.code q) cs
  | [] => rfl
  | c :: cs => by
    have hopened : opened p c cs = opened q c cs :=
      opened_congr rfl fun _ => by rw [dollarTag?, dollarTag?, h]
    rw [mark, mark, step, step, hopened]

/-- Behind a character that no word goes on from, a text is read as by itself. -/
theorem mark_code_apart {c : Char} (h : continuesWord c = false) (cs : List Char) :
    mark (.code (some c)) cs = tagged cs :=
  mark_code_congr (q := none) (by simpa using h) cs

/-! ### In quotations and comments -/

/-- The number of characters that a region goes on for certain, unless the script ends. -/
def Mark.held : Mark → Nat
  | .inside _ n stop => n + stop.length
  | .closing _ n => n + 1
  | _ => 0

/-- Of the characters held, a step lets go no more than one. -/
theorem held_le_step : ∀ (m : Mark) (c : Char) (cs : List Char),
    m.held ≤ (step m c cs).2.held + 1
  | .code _, _, _ => Nat.zero_le _
  | .line _, _, _ => Nat.zero_le _
  | .closing _ 0, _, _ => Nat.le_refl 1
  | .closing _ (n + 1), _, _ => Nat.le_refl (n + 2)
  | .inside region (n + 1) stop, c, cs => by
    have hheld : Mark.held (.inside region (n + 1) stop) = n + 1 + stop.length := rfl
    have hnext : Mark.held (.inside region n stop) = n + stop.length := rfl
    rw [step, hheld, hnext]
    omega
  | .inside region 0 stop, c, cs => by
    have hheld : Mark.held (.inside region 0 stop) = stop.length := Nat.zero_add _
    rw [step, hheld]
    split
    · rw [hheld]
      omega
    · split <;> simp only [Mark.held] <;> omega

/-- A reader that is in code behind a text has let go in it of all that it held. -/
theorem Reads.held_le {rest t : List Char} {m n : Mark} {g : Tagged} (h : Reads rest m t g n) :
    n.held = 0 → m.held ≤ t.length := by
  induction h with
  | nil m => exact fun hn => Nat.le_of_eq hn
  | @cons m _ c t g _ ih =>
    intro hn
    have hstep := held_le_step m c (t ++ rest)
    have htail := ih hn
    rw [List.length_cons]
    omega

/-- Inside of a quotation, a step depends on the text behind only for whether it closes there. -/
theorem step_inside_congr {region : Region} {stop : List Char} {c : Char} {cs ds : List Char}
    (h : (Text.after? stop (c :: cs)).isSome = (Text.after? stop (c :: ds)).isSome) :
    step (.inside region 0 stop) c cs = step (.inside region 0 stop) c ds := by
  rw [step, step]
  cases hcs : Text.after? stop (c :: cs) <;> cases hds : Text.after? stop (c :: ds) <;> simp_all

/-- What is no longer than a text starts it alike whatever follows. -/
theorem after?_append_isSome {stop t : List Char} (h : stop.length ≤ t.length)
    (v : List Char) : (Text.after? stop (t ++ v)).isSome = (Text.after? stop t).isSome := by
  rw [Bool.eq_iff_iff, Text.after?_isSome, Text.after?_isSome]
  exact ⟨fun hs => List.prefix_of_prefix_length_le hs (List.prefix_append t v) h,
    fun hs => hs.trans (List.prefix_append t v)⟩

/-! ### Other texts behind -/

/-- In code, every character of a text opens the same in front of `v` and in front of `w`. -/
def Indifferent (t v w : List Char) : Prop :=
  ∀ c u, c :: u <:+ t → ∀ p, opened p c (u ++ v) = opened p c (u ++ w)

theorem Indifferent.tail {c : Char} {t v w : List Char} (h : Indifferent (c :: t) v w) :
    Indifferent t v w :=
  fun d u hd => h d u (hd.trans (List.suffix_cons c t))

/-- **What stands behind a text that leaves the reader in code does not matter**, if nothing of the
text goes on there. -/
theorem Reads.congr {v w t : List Char} {m : Mark} {p : Option Char} {g : Tagged}
    (h : Reads v m t g (.code p)) (hvw : Indifferent t v w) : Reads w m t g (.code p) := by
  generalize hn : Mark.code p = n at h
  induction h with
  | nil m => exact .nil m
  | @cons m n c t g ht ih =>
    have htail := ih hvw.tail hn
    have hstep : step m c (t ++ w) = step m c (t ++ v) := by
      cases m with
      | code q => exact (hvw c t List.suffix_rfl q).symm
      | closing region k => cases k <;> rfl
      | line k => cases k <;> rfl
      | inside region k stop =>
        cases k with
        | succ k => rfl
        | zero =>
          have hheld : stop.length ≤ (c :: t).length := by
            have hall := (Reads.cons ht).held_le (by rw [← hn]; rfl)
            rwa [Mark.held, Nat.zero_add] at hall
          refine step_inside_congr ?_
          rw [← List.cons_append, ← List.cons_append, after?_append_isSome hheld,
            after?_append_isSome hheld]
    exact Reads.cons_of_step hstep htail

/-- Whether a character may go on with what a character of code before it begins: a comment or a
dollar tag. -/
def joins (c : Char) : Bool :=
  c == '-' || c == '*' || c == '$' || isTagChar false c

/-- A text that goes on with nothing that stands before it. -/
def StartsApart (v : List Char) : Prop :=
  ∀ c ∈ v.head?, joins c = false

theorem startsApart_nil : StartsApart [] :=
  fun _ h => nomatch h

theorem startsApart_cons {c : Char} (h : joins c = false) (v : List Char) : StartsApart (c :: v) :=
  Text.forall_mem_some h

theorem StartsApart.tagRest?_eq {v : List Char} (h : StartsApart v) (first : Bool) :
    tagRest? first v = none := by
  cases v with
  | nil => rfl
  | cons c v =>
    have hc := h c rfl
    simp only [joins, Bool.or_eq_false_iff, beq_eq_false_iff_ne] at hc
    obtain ⟨⟨-, hdollar⟩, htag⟩ := hc
    have hfirst : isTagChar first c = false := by
      cases first
      · exact htag
      · simp only [isTagChar, Bool.or_eq_false_iff] at htag ⊢
        exact ⟨htag.1, by simp⟩
    rw [tagRest?.eq_3 _ _ _ hdollar, hfirst]
    rfl

/-- A dollar tag that is not closed in front of such a text is not closed at all. -/
theorem tagRest?_append_congr {v w : List Char} (hv : StartsApart v) (hw : StartsApart w) :
    ∀ (t : List Char) (first : Bool), tagRest? first (t ++ v) = tagRest? first (t ++ w)
  | [], first => (hv.tagRest?_eq first).trans (hw.tagRest?_eq first).symm
  | c :: t, first => by
    have ih := tagRest?_append_congr hv hw t false
    rw [List.cons_append, List.cons_append]
    by_cases hc : c = '$'
    · subst hc
      rfl
    · rw [tagRest?.eq_3 _ _ _ hc, tagRest?.eq_3 _ _ _ hc, ih]

theorem StartsApart.startsComment_eq {v : List Char} (h : StartsApart v) (c : Char) :
    startsComment (c :: v) = false := by
  rw [Bool.eq_false_iff]
  intro hs
  obtain ⟨rest, ⟨-, rfl⟩ | ⟨-, rfl⟩⟩ := startsComment_cases hs
  · exact absurd (h '-' rfl) (by decide)
  · exact absurd (h '*' rfl) (by decide)

theorem indifferent_of_startsApart {v w : List Char} (hv : StartsApart v) (hw : StartsApart w)
    (t : List Char) : Indifferent t v w := by
  intro c u _ p
  refine opened_congr ?_ fun _ => ?_
  · cases u with
    | nil => exact (hv.startsComment_eq c).trans (hw.startsComment_eq c).symm
    | cons d u => unfold startsComment; split <;> simp_all
  · rw [dollarTag?, dollarTag?, tagRest?_append_congr hv hw]

theorem indifferent_of_last {b : Char} (hcalm : IsCalm b) (hb : joins b = false)
    (t v w : List Char) : Indifferent (t ++ [b]) v w := by
  intro c u hu p
  have happart (x : List Char) : StartsApart (b :: x) := startsApart_cons hb x
  obtain ⟨s, hs⟩ := hu
  rcases List.eq_nil_or_concat' u with rfl | ⟨u, d, rfl⟩
  · obtain rfl : c = b := List.singleton_inj.1 (List.append_inj' hs rfl).2
    rw [opened_of_isCalm hcalm, opened_of_isCalm hcalm]
  · rw [← List.cons_append, ← List.append_assoc] at hs
    obtain rfl : d = b := List.singleton_inj.1 (List.append_inj' hs rfl).2
    rw [List.append_assoc, List.append_assoc]
    exact indifferent_of_startsApart (happart v) (happart w) (c :: u) c u List.suffix_rfl p

/-- Two texts behind that go on with nothing can be put for each other. -/
theorem Reads.in_front {v w t : List Char} {m : Mark} {p : Option Char} {g : Tagged}
    (h : Reads v m t g (.code p)) (hv : StartsApart v) (hw : StartsApart w) :
    Reads w m t g (.code p) :=
  h.congr (indifferent_of_startsApart hv hw t)

/-- Behind a text that ends with a character that nothing joins, any text can be put. -/
theorem Reads.ended {b : Char} {v t : List Char} {m : Mark} {p : Option Char} {g : Tagged}
    (h : Reads v m (t ++ [b]) g (.code p)) (hcalm : IsCalm b) (hb : joins b = false)
    (w : List Char) : Reads w m (t ++ [b]) g (.code p) :=
  h.congr (indifferent_of_last hcalm hb t v w)

end Script
end SchemaMap
