/-
# The parts of a text that was joined

A text is one part for a class of separators if none of its characters is a separator in code
outside its own parentheses, and its regions are the same wherever it stands. Such texts are
closed under appending, so what they are built from decides; joined by a separator they are
given back by `Script.parts`, and in front of a closing parenthesis by `Script.bodyUpToClose?`.

Key definitions: `Script.Unsplit`, `Script.depthBehind?`, `Script.Whole`, `Script.OnePart`,
`Script.Flat`.
Key theorems: `Script.Unsplit.cutAt_append`, `Script.Whole.append`,
`Script.parts_intercalate_of_onePart`, `Script.Whole.bodyUpToClose?_eq`,
`Script.Flat.splitAtOpen?_eq`.
-/
import SchemaMap.Script.Declaration
import SchemaMap.Proofs.Script.Region

namespace SchemaMap
namespace Script

open Text (isBlank trim quotation IsTrimmed forall_mem_of_all)

variable {sep : Char → Bool}

/-! ### Tagged texts without a separator -/

/-- From the depth `d` to the depth `e`, a tagged text has no separator in code outside
parentheses, and closes no parenthesis that it did not find open. -/
inductive Unsplit (sep : Char → Bool) : Nat → Tagged → Nat → Prop
  | nil (d : Nat) : Unsplit sep d [] d
  | hidden {d e : Nat} {x : Char × Region} {more : Tagged} (hx : x.2 ≠ .code)
      (h : Unsplit sep d more e) : Unsplit sep d (x :: more) e
  | plain {d e : Nat} {c : Char} {more : Tagged} (ho : c ≠ '(') (hc : c ≠ ')')
      (hs : d = 0 → sep c = false) (h : Unsplit sep d more e) :
      Unsplit sep d ((c, .code) :: more) e
  | opening {d e : Nat} {more : Tagged} (h : Unsplit sep (d + 1) more e) :
      Unsplit sep d (('(', .code) :: more) e
  | closing {d e : Nat} {more : Tagged} (h : Unsplit sep d more e) :
      Unsplit sep (d + 1) ((')', .code) :: more) e

/-- One parenthesis further in, separators do not count. -/
theorem Unsplit.deeper {inner : Char → Bool} {d e : Nat} {g : Tagged} (h : Unsplit inner d g e) :
    Unsplit sep (d + 1) g (e + 1) := by
  induction h with
  | nil d => exact .nil _
  | hidden hx _ ih => exact .hidden hx ih
  | plain ho hc _ _ ih => exact .plain ho hc (fun h0 => absurd h0 (Nat.succ_ne_zero _)) ih
  | opening _ ih => exact .opening ih
  | closing _ ih => exact .closing ih

theorem Unsplit.append {d e k : Nat} {g more : Tagged} (h : Unsplit sep d g e)
    (hm : Unsplit sep e more k) : Unsplit sep d (g ++ more) k := by
  induction h with
  | nil d => exact hm
  | hidden hx _ ih => exact .hidden hx (ih hm)
  | plain ho hc hs _ ih => exact .plain ho hc hs (ih hm)
  | opening _ ih => exact .opening (ih hm)
  | closing _ ih => exact .closing (ih hm)

theorem unsplit_quoted (d : Nat) : ∀ t : List Char, Unsplit sep d (allIn .quoted t) d
  | [] => .nil d
  | _ :: t => .hidden (by simp) (unsplit_quoted d t)

/-- Characters that are neither parentheses nor separators. -/
theorem unsplit_code {d : Nat} : ∀ {t : List Char},
    (∀ c ∈ t, c ≠ '(' ∧ c ≠ ')' ∧ sep c = false) → Unsplit sep d (allIn .code t) d
  | [], _ => .nil d
  | c :: _, h =>
    have hc := h c List.mem_cons_self
    .plain hc.1 hc.2.1 (fun _ => hc.2.2) (unsplit_code fun a ha => h a (List.mem_cons_of_mem c ha))

/-- What separates less cuts less. -/
theorem Unsplit.mono {inner : Char → Bool} (hsep : ∀ c, sep c = true → inner c = true) {d e : Nat}
    {g : Tagged} (h : Unsplit inner d g e) : Unsplit sep d g e := by
  induction h with
  | nil d => exact .nil d
  | hidden hx _ ih => exact .hidden hx ih
  | plain ho hc hs _ ih =>
    exact .plain ho hc (fun h0 => Bool.eq_false_iff.2 fun ht =>
      Bool.eq_false_iff.1 (hs h0) (hsep _ ht)) ih
  | opening _ ih => exact .opening ih
  | closing _ ih => exact .closing ih

/-- A text that separators of neither class cut. -/
theorem Unsplit.or {more : Char → Bool} {d k e : Nat} {g : Tagged} (h : Unsplit sep d g e) :
    Unsplit more d g k → Unsplit (fun c => sep c || more c) d g e := by
  induction h with
  | nil d => exact fun _ => .nil d
  | hidden hx _ ih =>
    intro h'
    cases h' with
    | hidden _ hm => exact .hidden hx (ih hm)
    | plain _ _ _ hm => exact absurd rfl hx
    | opening hm => exact absurd rfl hx
    | closing hm => exact absurd rfl hx
  | plain ho hc hs _ ih =>
    intro h'
    cases h' with
    | hidden hx _ => exact absurd rfl hx
    | plain _ _ hs' hm => exact .plain ho hc (fun h0 => by rw [hs h0, hs' h0]; rfl) (ih hm)
    | opening _ => exact absurd rfl ho
    | closing _ => exact absurd rfl hc
  | opening _ ih =>
    intro h'
    cases h' with
    | hidden hx _ => exact absurd rfl hx
    | plain ho _ _ _ => exact absurd rfl ho
    | opening hm => exact .opening (ih hm)
  | closing _ ih =>
    intro h'
    cases h' with
    | hidden hx _ => exact absurd rfl hx
    | plain _ hc _ _ => exact absurd rfl hc
    | closing hm => exact .closing (ih hm)

/-- The depth behind a tagged text that starts at the depth `d`, if it is not cut in it and closes
nothing that it did not find open. -/
def depthBehind? (sep : Char → Bool) : Nat → Tagged → Option Nat
  | d, [] => some d
  | d, x :: more =>
    if x.2 ≠ .code then depthBehind? sep d more
    else if x.1 = '(' then depthBehind? sep (d + 1) more
    else if x.1 = ')' then
      match d with
      | 0 => none
      | d + 1 => depthBehind? sep d more
    else if d = 0 ∧ sep x.1 = true then none
    else depthBehind? sep d more

theorem Unsplit.depthBehind?_eq {d e : Nat} {g : Tagged} (h : Unsplit sep d g e) :
    depthBehind? sep d g = some e := by
  induction h with
  | nil d => rfl
  | hidden hx _ ih => simp [depthBehind?, hx, ih]
  | @plain d e c g ho hc hs _ ih =>
    have hcut : ¬(d = 0 ∧ sep c = true) := fun ⟨h0, ht⟩ => Bool.eq_false_iff.1 (hs h0) ht
    simp [depthBehind?, ho, hc, hcut, ih]
  | opening _ ih => simp [depthBehind?, ih]
  | closing _ ih => simp [depthBehind?, ih]

theorem unsplit_of_depthBehind? : ∀ {g : Tagged} {d e : Nat}, depthBehind? sep d g = some e →
    Unsplit sep d g e
  | [], d, e, h => by
    obtain rfl := Option.some.inj h
    exact .nil d
  | (c, region) :: g, d, e, h => by
    rw [depthBehind?.eq_def] at h
    by_cases hr : region = .code
    · subst hr
      by_cases ho : c = '('
      · subst ho
        exact .opening (unsplit_of_depthBehind? h)
      · by_cases hc : c = ')'
        · subst hc
          cases d with
          | zero => cases h
          | succ d => exact .closing (unsplit_of_depthBehind? h)
        · by_cases hs : d = 0 ∧ sep c = true
          · simp [ho, hc, hs] at h
          · simp only [ho, hc, hs, ne_eq, not_true_eq_false, if_false] at h
            exact .plain ho hc (fun h0 => Bool.eq_false_iff.2 fun ht => hs ⟨h0, ht⟩)
              (unsplit_of_depthBehind? h)
    · simp only [ne_eq, hr, not_false_eq_true, if_true] at h
      exact .hidden hr (unsplit_of_depthBehind? h)

instance (d : Nat) (g : Tagged) (e : Nat) : Decidable (Unsplit sep d g e) :=
  decidable_of_iff (depthBehind? sep d g = some e) ⟨unsplit_of_depthBehind?, Unsplit.depthBehind?_eq⟩

/-! ### Cutting and closing behind such a text -/

theorem cutAt_separator {c : Char} (ho : c ≠ '(') (hc : c ≠ ')') (hs : sep c = true)
    (more : Tagged) : cutAt sep 0 ((c, .code) :: more) = [] :: cutAt sep 0 more := by
  simp [cutAt, ho, hc, hs]

/-- A character that is no separator belongs to the part behind it. -/
theorem cutAt_cons {x : Char × Region} {d : Nat} {more : Tagged} {part : List Char}
    {ps : List (List Char)}
    (hx : (x.2 == .code && d == 0 && x.1 != '(' && x.1 != ')' && sep x.1) = false)
    (hm : cutAt sep (depthAfter x d) more = part :: ps) :
    cutAt sep d (x :: more) = (x.1 :: part) :: ps := by
  rw [cutAt, hx, if_neg Bool.false_ne_true, hm]

/-- What stands behind a text without separators is cut as if it stood alone. -/
theorem Unsplit.cutAt_append {d e : Nat} {g : Tagged} (h : Unsplit sep d g e) {more : Tagged}
    {part : List Char} {ps : List (List Char)} (hm : cutAt sep e more = part :: ps) :
    cutAt sep d (g ++ more) = (chars g ++ part) :: ps := by
  induction h with
  | nil d => exact hm
  | hidden hx _ ih => exact cutAt_cons (by simp [hx]) (by rw [depthAfter, if_pos hx]; exact ih hm)
  | @plain d e c g ho hc hs _ ih =>
    have hd : depthAfter (c, .code) d = d := by simp [depthAfter, ho, hc]
    exact cutAt_cons (by cases d <;> simp [hs]) (by rw [hd]; exact ih hm)
  | opening _ ih => exact cutAt_cons (by simp) (ih hm)
  | closing _ ih => exact cutAt_cons (by simp) (ih hm)

/-- A character that does not close a parenthesis is part of the body. -/
theorem bodyUpToClose?_cons {x : Char × Region} (hx : x ≠ (')', .code)) (d : Nat)
    (more : Tagged) :
    bodyUpToClose? d (x :: more) =
      (bodyUpToClose? (if x = ('(', .code) then d + 1 else d) more).map (x.1 :: ·) := by
  rw [bodyUpToClose?.eq_def]
  simp only [if_neg hx]

/-- Up to the closing parenthesis, all of a text without separators is body. -/
theorem Unsplit.bodyUpToClose?_append {d e : Nat} {g : Tagged} (h : Unsplit sep d g e)
    (more : Tagged) :
    bodyUpToClose? d (g ++ more) = (bodyUpToClose? e more).map (chars g ++ ·) := by
  induction h with
  | nil d => simp [chars]
  | @hidden d e x g hx _ ih =>
    have hne : ∀ c, x ≠ (c, .code) := fun c hc => hx (congrArg Prod.snd hc)
    rw [List.cons_append, bodyUpToClose?_cons (hne _), if_neg (hne _), ih, Option.map_map]
    rfl
  | @plain d e c g ho hc hs _ ih =>
    rw [List.cons_append, bodyUpToClose?_cons (by simp [hc]), if_neg (by simp [ho]), ih,
      Option.map_map]
    rfl
  | @opening d e g _ ih =>
    rw [List.cons_append, bodyUpToClose?_cons (by simp), if_pos rfl, ih, Option.map_map]
    rfl
  | @closing d e g _ ih =>
    rw [List.cons_append, bodyUpToClose?.eq_def]
    simp only [if_true, ih, Option.map_map]
    rfl

/-! ### Texts that are one part -/

/-- A character that is neither an opener, nor a parenthesis, nor a separator. -/
def isPlain (sep : Char → Bool) (c : Char) : Bool :=
  decide (IsCalm c ∧ c ≠ '(' ∧ c ≠ ')' ∧ sep c = false)

/-- A text that is one part wherever it stands in code. -/
def Whole (sep : Char → Bool) (t : List Char) : Prop :=
  ∃ g, Scans t g ∧ Unsplit sep 0 g 0 ∧ ∀ x ∈ g, x.2 ≠ .comment

theorem whole_nil : Whole sep [] :=
  ⟨[], scans_nil, .nil 0, by simp⟩

theorem Whole.append {t u : List Char} (ht : Whole sep t) (hu : Whole sep u) :
    Whole sep (t ++ u) := by
  obtain ⟨g, hg, hgs, hgc⟩ := ht
  obtain ⟨k, hk, hks, hkc⟩ := hu
  exact ⟨g ++ k, hg.append hk, hgs.append hks, List.forall_mem_append.2 ⟨hgc, hkc⟩⟩

/-- A text that is quoted wherever it stands. -/
theorem whole_quoted {t : List Char} (h : Scans t (allIn .quoted t)) : Whole sep t :=
  ⟨_, h, unsplit_quoted 0 _, by simp [allIn]⟩

theorem whole_quotation {q : Char} (hq : IsQuote q) (s : List Char) :
    Whole sep (quotation q s) :=
  whole_quoted (scans_quotation hq s)

theorem whole_code {t : List Char} (ht : ∀ c ∈ t, IsCalm c)
    (h : ∀ c ∈ t, c ≠ '(' ∧ c ≠ ')' ∧ sep c = false) : Whole sep t :=
  ⟨_, scans_code ht, unsplit_code h, by simp [allIn]⟩

theorem whole_plain {t : List Char} (h : t.all (isPlain sep) = true) : Whole sep t :=
  whole_code (fun c hc => (forall_mem_of_all h c hc).1) fun c hc => (forall_mem_of_all h c hc).2

theorem whole_dash {t : List Char} (hne : t ≠ []) (ht : ∀ c ∈ t, IsCalm c)
    (h : ∀ c ∈ '-' :: t, c ≠ '(' ∧ c ≠ ')' ∧ sep c = false) : Whole sep ('-' :: t) :=
  ⟨_, scans_dash hne ht, unsplit_code h, by simp [allIn]⟩

/-- In parentheses, a text may hold any separators in code. -/
theorem Whole.parenthesised {inner : Char → Bool} {t : List Char} (h : Whole inner t) :
    Whole sep ('(' :: (t ++ [')'])) := by
  obtain ⟨g, hg, hgs, hgc⟩ := h
  have hopen : Scans ['('] (allIn .code ['(']) := scans_code (forall_mem_of_all (by decide))
  have hclose : Scans [')'] (allIn .code [')']) := scans_code (forall_mem_of_all (by decide))
  refine ⟨_, hopen.append (hg.append hclose), ?_, ?_⟩
  · exact .opening (hgs.deeper.append (.closing (.nil 0)))
  · simpa [allIn, or_imp, forall_and] using hgc

theorem Whole.withoutComments_eq {t : List Char} (h : Whole sep t) : withoutComments t = t := by
  obtain ⟨g, hg, -, hgc⟩ := h
  exact hg.withoutComments_eq hgc

/-- A text behind which every text is cut as if it stood alone, and which is itself part of the
first part of it. -/
def OnePart (sep : Char → Bool) (t : List Char) : Prop :=
  ∃ g, Scans t g ∧ ∀ {more : Tagged} {part : List Char} {ps : List (List Char)},
    cutAt sep 0 more = part :: ps → cutAt sep 0 (g ++ more) = (chars g ++ part) :: ps

theorem Whole.onePart {t : List Char} (h : Whole sep t) : OnePart sep t := by
  obtain ⟨g, hg, hgs, -⟩ := h
  exact ⟨g, hg, hgs.cutAt_append⟩

theorem OnePart.append {t u : List Char} (ht : OnePart sep t) (hu : OnePart sep u) :
    OnePart sep (t ++ u) := by
  obtain ⟨g, hg, hgs⟩ := ht
  obtain ⟨k, hk, hks⟩ := hu
  refine ⟨g ++ k, hg.append hk, fun {more part ps} hmore => ?_⟩
  have hfront := hgs (hks hmore)
  rwa [← List.append_assoc, ← List.append_assoc, chars, chars, ← List.map_append, ← chars]
    at hfront

theorem OnePart.cutAt_mark {t : List Char} (h : OnePart sep t) (p : Option Char) :
    cutAt sep 0 (mark (.code p) t) = [t] := by
  obtain ⟨g, hg, hgs⟩ := h
  obtain ⟨p', hp⟩ := hg p []
  rw [List.append_nil] at hp
  rw [hp, hgs rfl, hg.chars_eq, List.append_nil]

/-- A trimmed text that is one part. -/
theorem OnePart.parts_eq {t : List Char} (h : OnePart sep t) (ht : IsTrimmed t) :
    parts sep t = [t] := by
  unfold parts tagged
  rw [h.cutAt_mark, List.map_singleton, ht.trim_eq]
  simp [ht.ne_nil]

/-- A part ends at the first separator behind it. -/
theorem OnePart.cutAt_mark_separator {t : List Char} (h : OnePart sep t) {c : Char}
    (hcalm : IsCalm c) (ho : c ≠ '(') (hc : c ≠ ')') (hs : sep c = true) (p : Option Char)
    (rest : List Char) :
    cutAt sep 0 (mark (.code p) (t ++ c :: rest)) =
      t :: cutAt sep 0 (mark (.code (some c)) rest) := by
  obtain ⟨g, hg, hgs⟩ := h
  obtain ⟨p', hp⟩ := hg p (c :: rest)
  calc cutAt sep 0 (mark (.code p) (t ++ c :: rest))
      = cutAt sep 0 (g ++ (c, .code) :: mark (.code (some c)) rest) := by
        rw [hp, mark_isCalm hcalm]
    _ = (chars g ++ []) :: cutAt sep 0 (mark (.code (some c)) rest) :=
        hgs (cutAt_separator ho hc hs _)
    _ = t :: cutAt sep 0 (mark (.code (some c)) rest) := by rw [hg.chars_eq, List.append_nil]

theorem Whole.parts_eq {t : List Char} (h : Whole sep t) (ht : IsTrimmed t) :
    parts sep t = [t] :=
  h.onePart.parts_eq ht

/-- In front of a closing parenthesis, a text that is one part for no separators at all is the
body that the parenthesis closes. -/
theorem Whole.bodyUpToClose?_eq {t : List Char} (h : Whole sep t) (p : Option Char)
    (rest : List Char) : bodyUpToClose? 0 (mark (.code p) (t ++ ')' :: rest)) = some t := by
  obtain ⟨g, hg, hgs, -⟩ := h
  obtain ⟨p', hp⟩ := hg p (')' :: rest)
  rw [hp, mark_isCalm (by decide), hgs.bodyUpToClose?_append, hg.chars_eq]
  simp [bodyUpToClose?]

/-! ### Texts in front of a parenthesis -/

/-- A text that opens no parenthesis in code, wherever it stands. -/
def Flat (t : List Char) : Prop :=
  ∃ g, Scans t g ∧ ∀ x ∈ g, x ≠ ('(', .code)

theorem flat_nil : Flat [] :=
  ⟨[], scans_nil, by simp⟩

theorem Flat.append {t u : List Char} (ht : Flat t) (hu : Flat u) : Flat (t ++ u) := by
  obtain ⟨g, hg, hgo⟩ := ht
  obtain ⟨k, hk, hko⟩ := hu
  exact ⟨g ++ k, hg.append hk, List.forall_mem_append.2 ⟨hgo, hko⟩⟩

theorem flat_quoted {t : List Char} (h : Scans t (allIn .quoted t)) : Flat t :=
  ⟨_, h, by simp [allIn]⟩

theorem flat_quotation {q : Char} (hq : IsQuote q) (s : List Char) : Flat (quotation q s) :=
  flat_quoted (scans_quotation hq s)

theorem flat_plain {t : List Char} (h : t.all (isPlain fun _ => false) = true) : Flat t := by
  have ho : ∀ c ∈ t, c ≠ '(' := fun c hc => (forall_mem_of_all h c hc).2.1
  exact ⟨_, scans_code fun c hc => (forall_mem_of_all h c hc).1, by simpa [allIn] using ho⟩

/-- A text that opens no parenthesis stands in front of the first one whatever follows. -/
theorem splitAtOpen?_behind (more : Tagged) : ∀ {g : Tagged}, (∀ x ∈ g, x ≠ ('(', .code)) →
    splitAtOpen? (g ++ more) = (splitAtOpen? more).map fun p => (chars g ++ p.1, p.2)
  | [], _ => (congrFun Option.map_id (splitAtOpen? more)).symm
  | x :: g, h => by
    have ih := splitAtOpen?_behind more fun y hy => h y (List.mem_cons_of_mem x hy)
    rw [List.cons_append, splitAtOpen?, if_neg (h x List.mem_cons_self), ih, Option.map_map]
    rfl

theorem splitAtOpen?_append (more : Tagged) {g : Tagged} (h : ∀ x ∈ g, x ≠ ('(', .code)) :
    splitAtOpen? (g ++ ('(', .code) :: more) = some (chars g, more) := by
  rw [splitAtOpen?_behind _ h]
  simp [splitAtOpen?]

/-- The first parenthesis behind such a text is the first in code. -/
theorem Flat.splitAtOpen?_eq {t : List Char} (h : Flat t) (rest : List Char) :
    splitAtOpen? (tagged (t ++ '(' :: rest)) = some (t, mark (.code (some '(')) rest) := by
  obtain ⟨g, hg, hgo⟩ := h
  obtain ⟨p', hp⟩ := hg none ('(' :: rest)
  rw [tagged, hp, mark_isCalm (by decide), splitAtOpen?_append _ hgo, hg.chars_eq]

/-! ### Joined parts -/

/-- Behind white space, texts joined by a separator and white space are cut into themselves. -/
theorem trim_cutAt_intercalate {c : Char} {gap : List Char} (hcalm : IsCalm c) (ho : c ≠ '(')
    (hc : c ≠ ')') (hs : sep c = true) (hgap : OnePart sep gap)
    (hblank : ∀ a ∈ gap, isBlank a = true) :
    ∀ (ts : List (List Char)), ts ≠ [] → (∀ t ∈ ts, OnePart sep t ∧ IsTrimmed t) →
      ∀ (p : Option Char) (front : List Char), OnePart sep front →
        (∀ a ∈ front, isBlank a = true) →
        (cutAt sep 0 (mark (.code p) (front ++ (c :: gap).intercalate ts))).map trim = ts
  | [], hne, _, _, _, _, _ => absurd rfl hne
  | [t], _, h, p, front, hf, hfb => by
    obtain ⟨hw, ht⟩ := h t List.mem_cons_self
    rw [List.intercalate_singleton, (hf.append hw).cutAt_mark]
    rw [List.map_singleton, ht.trim_behind hfb]
  | t :: u :: ts, _, h, p, front, hf, hfb => by
    obtain ⟨hw, ht⟩ := h t List.mem_cons_self
    have ih := trim_cutAt_intercalate hcalm ho hc hs hgap hblank (u :: ts)
      (List.cons_ne_nil _ _) (fun v hv => h v (List.mem_cons_of_mem t hv)) (some c) gap hgap hblank
    have htext : front ++ (c :: gap).intercalate (t :: u :: ts) =
        (front ++ t) ++ c :: (gap ++ (c :: gap).intercalate (u :: ts)) := by
      rw [List.intercalate_cons_cons]; simp
    rw [htext, (hf.append hw).cutAt_mark_separator hcalm ho hc hs, List.map_cons, ih,
      ht.trim_behind hfb]

/-- **Texts that are one part each, joined by a separator with white space behind it, are the
parts of what they make.** -/
theorem parts_intercalate_of_onePart {c : Char} {gap : List Char} (hcalm : IsCalm c)
    (ho : c ≠ '(') (hc : c ≠ ')') (hs : sep c = true) (hgap : OnePart sep gap)
    (hblank : ∀ a ∈ gap, isBlank a = true) {ts : List (List Char)}
    (h : ∀ t ∈ ts, OnePart sep t ∧ IsTrimmed t) : parts sep ((c :: gap).intercalate ts) = ts := by
  by_cases hne : ts = []
  · subst hne; rfl
  · have hcut := trim_cutAt_intercalate hcalm ho hc hs hgap hblank ts hne h none []
      whole_nil.onePart (List.forall_mem_nil _)
    unfold parts tagged
    rw [← List.nil_append ((c :: gap).intercalate ts), hcut, List.filter_eq_self]
    intro t ht
    simp [(h t ht).2.ne_nil]

theorem parts_intercalate {c : Char} {gap : List Char} (hcalm : IsCalm c) (ho : c ≠ '(')
    (hc : c ≠ ')') (hs : sep c = true) (hgap : Whole sep gap)
    (hblank : ∀ a ∈ gap, isBlank a = true) {ts : List (List Char)}
    (h : ∀ t ∈ ts, Whole sep t ∧ IsTrimmed t) : parts sep ((c :: gap).intercalate ts) = ts :=
  parts_intercalate_of_onePart hcalm ho hc hs hgap.onePart hblank fun t ht =>
    ⟨(h t ht).1.onePart, (h t ht).2⟩

end Script
end SchemaMap
