/-
# How the statements of a script begin

The reader cuts a script into statements while it reads the regions. A statement is begun at a
character that is neither white space nor in a comment, and every statement starts outside of
all quotations. So its text, read anew from its first character, starts with that character in
code or in a quotation, and the words that a statement starts with are the same in the text as
in the text without its comments.

Key definitions: `Script.Begins`, `Script.Outside`, `Script.Ready`.
Key theorems: `Script.begins_of_mem_chunks`, `Script.Begins.skipBlanks_withoutComments`,
`Script.takeWhile_letter_withoutComments`.
-/
import SchemaMap.Script.Statement
import SchemaMap.Proofs.Script.Region
import SchemaMap.Proofs.Text.Pattern

namespace SchemaMap
namespace Script

open Text (isBlank isAsciiLetter)

/-! ### Texts that begin a statement -/

/-- A text whose first character is neither white space nor the start of a comment. -/
def Begins (t : List Char) : Prop :=
  (∃ c rest, t = c :: rest ∧ isBlank c = false) ∧ startsComment t = false

theorem startsComment_append {a : List Char} (h : startsComment a = true) (b : List Char) :
    startsComment (a ++ b) = true := by
  unfold startsComment at h
  split at h
  · rfl
  · rfl
  · cases h

/-- The start of a text that begins a statement begins one. -/
theorem Begins.of_append {a b : List Char} (h : Begins (a ++ b)) (hne : a ≠ []) : Begins a := by
  obtain ⟨⟨c, rest, he, hc⟩, hs⟩ := h
  obtain ⟨d, a, rfl⟩ := List.exists_cons_of_ne_nil hne
  obtain ⟨rfl, -⟩ := List.cons.inj he
  refine ⟨⟨d, a, rfl, hc⟩, ?_⟩
  cases hd : startsComment (d :: a) with
  | false => rfl
  | true => exact absurd ((startsComment_append hd b).symm.trans hs) (by decide)

/-! ### Where the reader stands -/

/-- The reader is inside of something of the given region. -/
inductive Within (region : Region) : Mark → Prop
  | inside (n : Nat) (stop : List Char) : Within region (.inside region n stop)
  | closing (n : Nat) : Within region (.closing region n)
  | line (n : Nat) (h : region = .comment) : Within region (.line n)

/-- The reader is in code or in a comment. -/
def Outside (m : Mark) : Prop :=
  (∃ p, m = .code p) ∨ Within .comment m

/-- The reader is in code, or inside of something that is not code. -/
def Opened (m : Mark) : Prop :=
  (∃ p, m = .code p) ∨ ∃ region, region ≠ .code ∧ Within region m

theorem Outside.opened {m : Mark} : Outside m → Opened m
  | .inl hp => .inl hp
  | .inr hw => .inr ⟨.comment, by decide, hw⟩

/-- Inside of something, a character belongs to it, and the reader stays there or is back in
code; only the end of a line is not part of the comment before it. -/
theorem step_within {region : Region} {m : Mark} (h : Within region m) (c : Char)
    (rest : List Char) :
    ((step m c rest).1 = region ∧ (Within region (step m c rest).2 ∨
        ∃ p, (step m c rest).2 = .code p)) ∨
      (c = '\n' ∧ step m c rest = (.code, .code (some c))) := by
  cases h with
  | inside n stop =>
    refine .inl ?_
    cases n with
    | succ n => exact ⟨rfl, .inl (.inside n stop)⟩
    | zero =>
      rw [step]
      split
      · exact ⟨rfl, .inl (.inside 0 stop)⟩
      · split
        · exact ⟨rfl, .inr ⟨_, rfl⟩⟩
        · exact ⟨rfl, .inl (.closing _)⟩
  | closing n =>
    refine .inl ?_
    cases n with
    | zero => exact ⟨rfl, .inr ⟨_, rfl⟩⟩
    | succ n => exact ⟨rfl, .inl (.closing n)⟩
  | line n h =>
    cases n with
    | succ n => exact .inl ⟨h.symm, .inl (.line n h)⟩
    | zero =>
      rw [step]
      split
      · exact .inr ⟨‹_›, rfl⟩
      · exact .inl ⟨h.symm, .inl (.line 0 h)⟩

/-- In code, a character is code, or opens a comment, or opens a quotation and is not white
space. -/
theorem opened_cases (p : Option Char) (c : Char) (rest : List Char) :
    opened p c rest = (.code, .code (some c)) ∨
      (∃ m, opened p c rest = (.comment, m) ∧ Within .comment m) ∨
      (∃ m, opened p c rest = (.quoted, m) ∧ Within .quoted m ∧ isBlank c = false) := by
  unfold opened
  split
  · exact .inr (.inl ⟨_, rfl, .line 1 rfl⟩)
  · exact .inr (.inl ⟨_, rfl, .inside 1 _⟩)
  · exact .inr (.inr ⟨_, rfl, .inside 0 _, by decide⟩)
  · exact .inr (.inr ⟨_, rfl, .inside 0 _, by decide⟩)
  · exact .inr (.inr ⟨_, rfl, .inside 0 _, by decide⟩)
  · exact .inr (.inr ⟨_, rfl, .inside 0 _, by decide⟩)
  · split
    · exact .inr (.inr ⟨_, rfl, .inside _ _, by decide⟩)
    · exact .inl rfl
  · exact .inl rfl

/-- Outside of quotations, a character that is white space or no quotation leaves the reader
outside. -/
theorem step_outside {m : Mark} (h : Outside m) {c : Char} {rest : List Char}
    (hc : (step m c rest).1 ≠ .quoted ∨ isBlank c = true) : Outside (step m c rest).2 := by
  rcases h with ⟨p, rfl⟩ | h
  · rcases opened_cases p c rest with ho | ⟨m, ho, hm⟩ | ⟨m, ho, -, hblank⟩
    · exact .inl ⟨some c, by rw [step, ho]⟩
    · exact .inr (by rw [step, ho]; exact hm)
    · rw [step, ho, hblank] at hc
      simp at hc
  · rcases step_within h c rest with ⟨-, hw | hp⟩ | ⟨-, hs⟩
    · exact .inr hw
    · exact .inl hp
    · exact .inl ⟨some c, by rw [hs]⟩

/-- A character leaves the reader in code or inside of something that is not, and outside of
quotations if it is code itself. -/
theorem step_opened {m : Mark} (h : Opened m) (c : Char) (rest : List Char) :
    Opened (step m c rest).2 ∧ ((step m c rest).1 = .code → Outside (step m c rest).2) := by
  rcases h with ⟨p, rfl⟩ | ⟨region, hne, h⟩
  · rcases opened_cases p c rest with ho | ⟨m, ho, hm⟩ | ⟨m, ho, hm, -⟩ <;> rw [step, ho]
    · exact ⟨.inl ⟨_, rfl⟩, fun _ => .inl ⟨_, rfl⟩⟩
    · exact ⟨.inr ⟨.comment, by decide, hm⟩, by simp⟩
    · exact ⟨.inr ⟨.quoted, by decide, hm⟩, by simp⟩
  · rcases step_within h c rest with ⟨hr, hw | hp⟩ | ⟨-, hs⟩
    · exact ⟨.inr ⟨region, hne, hw⟩, fun hc => absurd (hr.symm.trans hc) hne⟩
    · exact ⟨.inl hp, fun _ => .inl hp⟩
    · rw [hs]
      exact ⟨.inl ⟨_, rfl⟩, fun _ => .inl ⟨_, rfl⟩⟩

/-- Outside of quotations, a character that is neither white space nor in a comment does not
start one. -/
theorem startsComment_of_outside {m : Mark} (h : Outside m) {c : Char} {rest : List Char}
    (hs : (step m c rest).1 ≠ .comment) (hc : isBlank c = false) :
    startsComment (c :: rest) = false := by
  rcases h with ⟨p, rfl⟩ | h
  · exact Bool.eq_false_iff.2 fun hcomment => hs ((opened_comment_iff p c rest).2 hcomment)
  · rcases step_within h c rest with ⟨hr, -⟩ | ⟨rfl, -⟩
    · exact absurd hr hs
    · exact absurd hc (by decide)

/-! ### One more character -/

section ChunksFrom

variable {x : Char × Region} (line : Nat) (more : Tagged)

theorem chunksFrom_ends (h : endsStatement x = true) (current : Option (Nat × List Char)) :
    chunksFrom line current (x :: more) =
      closeChunk current ++ chunksFrom (lineAfter x.1 line) none more := by
  rw [chunksFrom.eq_def]
  exact if_pos h

theorem chunksFrom_goesOn (h : ¬endsStatement x = true) (n : Nat) (seen : List Char) :
    chunksFrom line (some (n, seen)) (x :: more) =
      chunksFrom (lineAfter x.1 line) (some (n, x.1 :: seen)) more := by
  rw [chunksFrom.eq_def]
  exact if_neg h

theorem chunksFrom_starts (h : ¬endsStatement x = true) (hs : startsStatement x = true) :
    chunksFrom line none (x :: more) =
      chunksFrom (lineAfter x.1 line) (some (line, [x.1])) more := by
  rw [chunksFrom.eq_def]
  exact (if_neg h).trans (if_pos hs)

theorem chunksFrom_skips (h : ¬endsStatement x = true) (hs : ¬startsStatement x = true) :
    chunksFrom line none (x :: more) = chunksFrom (lineAfter x.1 line) none more := by
  rw [chunksFrom.eq_def]
  exact (if_neg h).trans (if_neg hs)

end ChunksFrom

/-- Without an end in it, a text goes on with the statement that has begun. -/
theorem chunksFrom_within {t : Tagged} (ht : ∀ x ∈ t, endsStatement x = false) (more : Tagged)
    (n : Nat) : ∀ (line : Nat) (seen : List Char),
      chunksFrom line (some (n, seen)) (t ++ more) =
        chunksFrom ((chars t).foldl (fun l c => lineAfter c l) line)
          (some (n, (chars t).reverse ++ seen)) more := by
  induction t with
  | nil => exact fun _ _ => rfl
  | cons x t ih =>
    intro line seen
    obtain ⟨hx, ht⟩ := List.forall_mem_cons.1 ht
    rw [List.cons_append, chunksFrom_goesOn line _ (by simp [hx]), ih ht]
    simp [chars]

theorem endsStatement_iff {x : Char × Region} :
    endsStatement x = true ↔ x.2 = .code ∧ x.1 = ';' := by
  simp [endsStatement]

theorem startsStatement_iff {x : Char × Region} :
    startsStatement x = true ↔ x.2 ≠ .comment ∧ isBlank x.1 = false := by
  simp [startsStatement]

/-! ### Every statement begins one -/

/-- What holds in front of the characters `cs` with the statement `current` begun: without one
the reader is outside of quotations, and with one its text so far and all that follows begin a
statement. -/
def Ready : Option (Nat × List Char) → Mark → List Char → Prop
  | none, m, _ => Outside m
  | some (_, seen), m, cs => Opened m ∧ seen ≠ [] ∧ Begins (seen.reverse ++ cs)

theorem Ready.opened {m : Mark} {cs : List Char} :
    ∀ {current : Option (Nat × List Char)}, Ready current m cs → Opened m
  | none, h => Outside.opened h
  | some _, h => h.1

theorem begins_of_mem_closeChunk {m : Mark} {cs : List Char} :
    ∀ {current : Option (Nat × List Char)}, Ready current m cs →
      ∀ chunk ∈ closeChunk current, Begins chunk.text
  | none, _, _, hm => absurd hm List.not_mem_nil
  | some (n, seen), ⟨_, hne, hb⟩, chunk, hm => by
    rw [closeChunk, List.mem_singleton] at hm
    subst hm
    exact hb.of_append (by simpa using hne)

theorem begins_of_mem_chunksFrom : ∀ (cs : List Char) {m : Mark} (line : Nat)
    {current : Option (Nat × List Char)}, Ready current m cs →
      ∀ chunk ∈ chunksFrom line current (mark m cs), Begins chunk.text
  | [], _, _, _, h => begins_of_mem_closeChunk h
  | c :: cs, m, line, current, h => by
    intro chunk hm
    obtain ⟨hopened, hcode⟩ := step_opened h.opened c cs
    rw [mark] at hm
    by_cases hend : endsStatement (c, (step m c cs).1) = true
    · rw [chunksFrom_ends line _ hend] at hm
      have hr : (step m c cs).1 = .code := (endsStatement_iff.1 hend).1
      have hready : Ready none (step m c cs).2 cs := hcode hr
      rcases List.mem_append.1 hm with hm | hm
      · exact begins_of_mem_closeChunk h chunk hm
      · exact begins_of_mem_chunksFrom cs _ hready chunk hm
    · rcases current with _ | ⟨n, seen⟩
      · by_cases hstart : startsStatement (c, (step m c cs).1) = true
        · rw [chunksFrom_starts line _ hend hstart] at hm
          obtain ⟨hs, hc⟩ := startsStatement_iff.1 hstart
          have hbegins : Begins (c :: cs) := ⟨⟨c, cs, rfl, hc⟩, startsComment_of_outside h hs hc⟩
          have hready : Ready (some (line, [c])) (step m c cs).2 cs :=
            ⟨hopened, List.cons_ne_nil _ _, hbegins⟩
          exact begins_of_mem_chunksFrom cs _ hready chunk hm
        · rw [chunksFrom_skips line _ hend hstart] at hm
          have hq : (step m c cs).1 ≠ .quoted ∨ isBlank c = true := by
            cases hc : isBlank c with
            | true => exact .inr rfl
            | false =>
              exact .inl fun hq => hstart (startsStatement_iff.2 ⟨by simp [hq], hc⟩)
          have hready : Ready none (step m c cs).2 cs := step_outside h hq
          exact begins_of_mem_chunksFrom cs _ hready chunk hm
      · rw [chunksFrom_goesOn line _ hend] at hm
        have hready : Ready (some (n, c :: seen)) (step m c cs).2 cs :=
          ⟨hopened, List.cons_ne_nil _ _, by simpa using h.2.2⟩
        exact begins_of_mem_chunksFrom cs _ hready chunk hm

/-- **Every statement of a script begins with a character that is neither white space nor in a
comment, also when its text is read on its own.** -/
theorem begins_of_mem_chunks {cs : List Char} {chunk : Chunk} (h : chunk ∈ chunks cs) :
    Begins chunk.text := by
  have hready : Ready none (.code none) cs := .inl ⟨none, rfl⟩
  exact begins_of_mem_chunksFrom cs 1 hready chunk h

/-! ### The first word of a statement -/

theorem blanked_of_ne {x : Char × Region} (h : x.2 ≠ .comment) : blanked x = x.1 :=
  if_neg fun hx => h hx.1

/-- Nothing is dropped in front of a text that begins a statement. -/
theorem Begins.skipBlanks_withoutComments {t : List Char} (h : Begins t) :
    Text.skipBlanks (withoutComments t) = withoutComments t := by
  obtain ⟨⟨c, rest, rfl, hc⟩, hs⟩ := h
  have hr : (step (.code none) c rest).1 ≠ .comment := fun he =>
    Bool.false_ne_true (hs.symm.trans ((opened_comment_iff none c rest).1 he))
  unfold withoutComments tagged
  rw [mark, List.map_cons, blanked_of_ne hr]
  exact Text.skipBlanks_of_head hc _

/-- The letters in front of a text are the same without its comments. -/
theorem takeWhile_letter_blanked : ∀ (t : List Char) (p : Option Char),
    ((mark (.code p) t).map blanked).takeWhile isAsciiLetter = t.takeWhile isAsciiLetter
  | [], _ => rfl
  | c :: t, p => by
    by_cases hc : isAsciiLetter c = true
    · rw [mark_isCalm (isCalm_of_class (by decide) hc), List.map_cons, blanked_of_ne (by simp),
        List.takeWhile_cons_of_pos hc, List.takeWhile_cons_of_pos hc,
        takeWhile_letter_blanked t (some c)]
    · have hb : ¬isAsciiLetter (blanked (c, (step (.code p) c t).1)) = true := by
        unfold blanked
        split
        · decide
        · exact hc
      rw [mark, List.map_cons, List.takeWhile_cons_of_neg hb, List.takeWhile_cons_of_neg hc]

theorem takeWhile_letter_withoutComments (t : List Char) :
    (withoutComments t).takeWhile isAsciiLetter = t.takeWhile isAsciiLetter :=
  takeWhile_letter_blanked t none

end Script
end SchemaMap
