/-
# The statements of a script in their places

Each statement of a script is a part of it, and the parts lie one behind the other. Between them
stand only white space, comments and the semicolons that end them, and none of these semicolons is in
a statement. A statement begins where the reader of regions is in code, behind nothing that a word
could go on from, and ends in code, too. So read by itself it has the regions that it has in the
script, and is one statement, the same as before.

Key definitions: `Script.Placed`, `Script.Placed.StandsIn`, `Script.Aside`, `Script.Stage`.
Key theorems: `Script.placed_of_stage`, `Script.Placed.StandsIn.chunks_eq`, `Script.chunks_placed`.
-/
import SchemaMap.Proofs.Placewise
import SchemaMap.Proofs.Script.Uncommented

namespace SchemaMap
namespace Script

open Text (isBlank)

/-! ### Places -/

/-- A statement and the number of characters in front of it. -/
structure Placed where
  start : Nat
  chunk : Chunk
deriving DecidableEq, Repr

namespace Placed

/-- The statement with the given characters behind those of `front`. -/
def behind (front body : Tagged) : Placed :=
  ⟨front.length, ⟨1 + (chars front).count '\n', chars body⟩⟩

/-- The place behind the last character. -/
def stop (p : Placed) : Nat :=
  p.start + p.chunk.text.length

/-- Whether the character at the place `i` belongs to the statement. -/
def Holds (p : Placed) (i : Nat) : Prop :=
  p.start ≤ i ∧ i < p.stop

/-- A tagged script is what stands in front of the statement, the statement with the regions that it
has when it is read by itself, and what follows. The statement begins with a character that is neither
white space nor in a comment, on the line that it is said to be on, and no character ends it. -/
structure StandsIn (script : Tagged) (p : Placed) : Prop where
  script_eq : ∃ before after, script = before ++ (tagged p.chunk.text ++ after) ∧
    p.start = before.length ∧ p.chunk.line = 1 + (chars before).count '\n'
  starts : ∃ x more, tagged p.chunk.text = x :: more ∧ startsStatement x = true
  whole : ∀ x ∈ tagged p.chunk.text, endsStatement x = false

end Placed

theorem length_tagged (cs : List Char) : (tagged cs).length = cs.length := by
  have hchars := congrArg List.length (chars_mark (.code none) cs)
  rwa [chars, List.length_map] at hchars

theorem Placed.StandsIn.lt_stop {script : Tagged} {p : Placed} (h : p.StandsIn script) :
    p.start < p.stop := by
  obtain ⟨x, more, hx, -⟩ := h.starts
  have hlen := congrArg List.length hx
  rw [length_tagged, List.length_cons] at hlen
  unfold Placed.stop
  omega

/-- **A statement by itself is one statement**, on the first line. -/
theorem Placed.StandsIn.chunks_eq {script : Tagged} {p : Placed} (h : p.StandsIn script) :
    chunks p.chunk.text = [⟨1, p.chunk.text⟩] := by
  obtain ⟨x, more, hx, hstarts⟩ := h.starts
  have hwhole := h.whole
  have htext : chars (x :: more) = p.chunk.text := by rw [← hx, tagged, chars_mark]
  rw [hx] at hwhole
  obtain ⟨hends, hmore⟩ := List.forall_mem_cons.1 hwhole
  have hrun := chunksFrom_within hmore [] 1 (lineAfter x.1 1) [x.1]
  rw [List.append_nil] at hrun
  rw [chunks, hx, chunksFrom_starts 1 more (by simp [hends]) hstarts, hrun]
  simp [chunksFrom, closeChunk, ← htext, chars]

/-! ### Between statements -/

/-- The reader is in code, where no word goes on, or in a comment. -/
def Aside (m : Mark) (cs : List Char) : Prop :=
  (∃ p, m = .code p ∧ p.any continuesWord = false) ∨ InComment m cs

theorem continuesWord_of_isBlank {c : Char} (h : isBlank c = true) : continuesWord c = false :=
  Text.class_of_isBlank (by decide +kernel) h

/-- A character that starts no statement leaves the reader between statements. -/
theorem aside_step {m : Mark} {c : Char} {cs : List Char} (h : Aside m (c :: cs))
    (hc : ¬startsStatement (c, (step m c cs).1) = true) : Aside (step m c cs).2 cs := by
  rw [startsStatement_iff, not_and, Bool.not_eq_false] at hc
  rcases h with ⟨p, rfl, -⟩ | h
  · rcases opened_cases p c cs with ho | ⟨m, ho, -⟩ | ⟨m, ho, -, hblank⟩
    · have hcode : (step (.code p) c cs).1 ≠ .comment := by rw [step, ho]; simp
      exact .inl ⟨some c, by rw [step, ho], continuesWord_of_isBlank (hc hcode)⟩
    · exact .inr (opened_inComment (by rw [ho]))
    · have hquoted : (step (.code p) c cs).1 ≠ .comment := by rw [step, ho]; simp
      exact absurd (hblank.symm.trans (hc hquoted)) Bool.false_ne_true
  · rcases inComment_step h with ⟨-, hin | hend⟩ | ⟨-, hs⟩
    · exact .inr hin
    · exact .inl ⟨some '/', by rw [hend], by decide⟩
    · exact .inl ⟨some '\n', by rw [hs], by decide⟩

/-- A statement starts where the reader is in code, and no word goes on. -/
theorem code_of_starts {m : Mark} {c : Char} {cs : List Char} (h : Aside m (c :: cs))
    (hc : startsStatement (c, (step m c cs).1) = true) :
    ∃ p, m = .code p ∧ p.any continuesWord = false := by
  obtain ⟨hregion, hblank⟩ := startsStatement_iff.1 hc
  rcases h with hp | h
  · exact hp
  · rcases inComment_step h with ⟨hcomment, -⟩ | ⟨rfl, -⟩
    · exact absurd hcomment hregion
    · cases hblank

/-- A character in code that ends no line was read in code. -/
theorem code_of_region {m : Mark} (h : Opened m) {c : Char} {cs : List Char}
    (hc : (step m c cs).1 = .code) (hline : c ≠ '\n') :
    (∃ p, m = .code p) ∧ (step m c cs).2 = .code (some c) := by
  rcases h with ⟨p, rfl⟩ | ⟨region, hne, h⟩
  · rcases opened_cases p c cs with ho | ⟨m, ho, -⟩ | ⟨m, ho, -, -⟩
    · exact ⟨⟨p, rfl⟩, by rw [step, ho]⟩
    · rw [step, ho] at hc
      cases hc
    · rw [step, ho] at hc
      cases hc
  · rcases step_within h c cs with ⟨hr, -⟩ | ⟨hc, -⟩
    · exact absurd (hr.symm.trans hc) hne
    · exact absurd hc hline

/-! ### One place after another -/

/-- Whether a character must belong to a statement: it is neither in a comment nor white space, and
ends no statement. -/
def Kept (x : Char × Region) : Prop :=
  startsStatement x = true ∧ endsStatement x = false

/-- The statements that stand in a script from the place `k` on, one behind the other, with every
character that must belong to one. -/
structure Placement (script : Tagged) (k : Nat) (ps : List Placed) : Prop where
  stand : ∀ p ∈ ps, p.StandsIn script
  behind : ∀ p ∈ ps, k ≤ p.start
  ordered : ps.Pairwise fun p q => p.stop ≤ q.start
  covers : ∀ i x, k ≤ i → script[i]? = some x → Kept x → ∃ p ∈ ps, p.Holds i

theorem placement_iff {script : Tagged} {k : Nat} {ps : List Placed} :
    Placement script k ps ↔ (∀ p ∈ ps, p.StandsIn script) ∧
      Covers Placed.start Placed.stop (fun i => ∃ x, script[i]? = some x ∧ Kept x) k ps :=
  ⟨fun h => ⟨h.stand, h.behind, h.ordered, fun i hi ⟨x, hx, hk⟩ => h.covers i x hi hx hk⟩,
    fun ⟨hstand, h⟩ => ⟨hstand, h.behind, h.ordered, fun i x hi hx hk => h.holds i hi ⟨x, hx, hk⟩⟩⟩

theorem Placement.nil {script : Tagged} {k : Nat} (hk : script.length ≤ k) :
    Placement script k [] := by
  refine placement_iff.2 ⟨List.forall_mem_nil _, .nil ?_⟩
  rintro i hi ⟨x, hx, -⟩
  have hlt := (List.getElem?_eq_some_iff.1 hx).1
  omega

/-- A character that need not belong to a statement is passed over. -/
theorem Placement.skip {script : Tagged} {k : Nat} {ps : List Placed} {x : Char × Region}
    (hx : script[k]? = some x) (hkept : ¬Kept x) (h : Placement script (k + 1) ps) :
    Placement script k ps := by
  obtain ⟨hstand, hcovers⟩ := placement_iff.1 h
  refine placement_iff.2 ⟨hstand, .skip ?_ hcovers⟩
  rintro ⟨y, hy, hk⟩
  rw [hx] at hy
  cases hy
  exact hkept hk

theorem Placement.cons {script : Tagged} {p : Placed} {ps : List Placed}
    (hp : p.StandsIn script) (h : Placement script p.stop ps) :
    Placement script p.start (p :: ps) := by
  obtain ⟨hstand, hcovers⟩ := placement_iff.1 h
  exact placement_iff.2 ⟨List.forall_mem_cons.2 ⟨hp, hstand⟩, .cons hp.lt_stop hcovers⟩

/-- A place belongs to one statement at most. -/
theorem Placement.unique {script : Tagged} {k : Nat} {ps : List Placed}
    (h : Placement script k ps) {p q : Placed} (hp : p ∈ ps) (hq : q ∈ ps) {i : Nat}
    (hpi : p.Holds i) (hqi : q.Holds i) : p = q :=
  (placement_iff.1 h).2.unique hp hq hpi hqi

/-! ### The statements of a script -/

/-- What is known behind the characters `before` of a script, in front of `cs`, where the places are
counted from the last statement begun: without one the reader is between statements; one that is begun
is read as by itself, from a character that starts it, and nothing has ended it. -/
inductive Stage : (before : Tagged) → (k : Nat) → Option (Nat × List Char) → Mark → List Char → Prop
  | aside (before : Tagged) {m : Mark} {cs : List Char} (h : Aside m cs) :
    Stage before before.length none m cs
  | begun (front : Tagged) {body : Tagged} {m : Mark} {cs : List Char}
      (hread : Reads cs (.code none) (chars body) body m)
      (hstarts : ∃ x more, body = x :: more ∧ startsStatement x = true)
      (hwhole : ∀ x ∈ body, endsStatement x = false) :
    Stage (front ++ body) front.length
      (some ((Placed.behind front body).chunk.line, (chars body).reverse)) m cs

theorem line_concat (before : Tagged) (x : Char × Region) :
    1 + (chars (before ++ [x])).count '\n' = lineAfter x.1 (1 + (chars before).count '\n') := by
  rw [chars, List.map_append, List.count_append, ← chars]
  unfold lineAfter
  split <;> simp_all [Nat.add_assoc]

theorem chars_append (g k : Tagged) : chars (g ++ k) = chars g ++ chars k :=
  List.map_append

/-- One more character of a statement that is begun. -/
theorem Reads.concat {c : Char} {cs t : List Char} {m n : Mark} {g : Tagged}
    (h : Reads (c :: cs) m t g n) :
    Reads cs m (t ++ [c]) (g ++ [(c, (step n c cs).1)]) (step n c cs).2 :=
  h.append (.cons (.nil _))

theorem Stage.opened {before : Tagged} {k : Nat} {current : Option (Nat × List Char)} {m : Mark}
    {cs : List Char} (h : Stage before k current m cs) : Opened m := by
  cases h with
  | aside _ h =>
    rcases h with ⟨p, rfl, -⟩ | h
    · exact .inl ⟨p, rfl⟩
    · refine .inr ⟨.comment, by decide, ?_⟩
      cases h with
      | inside n cs => exact .inside n _
      | closing cs => exact .closing 0
      | line n cs => exact .line n rfl
  | begun _ hread _ _ => exact hread.opened (.inl ⟨none, rfl⟩)

/-- Behind a semicolon that ends a statement, the reader is between statements. -/
theorem aside_of_ends {m : Mark} (h : Opened m) {c : Char} {cs : List Char}
    (hc : endsStatement (c, (step m c cs).1) = true) :
    (∃ p, m = .code p) ∧ c = ';' ∧ Aside (step m c cs).2 cs := by
  obtain ⟨hregion, rfl⟩ := endsStatement_iff.1 hc
  obtain ⟨hcode, hnext⟩ := code_of_region h hregion (by decide)
  exact ⟨hcode, rfl, .inl ⟨some ';', hnext, by decide⟩⟩

/-- Where the script ends, and in front of a semicolon in code, a statement that is begun is
complete. -/
theorem Stage.close {before : Tagged} {k : Nat} {current : Option (Nat × List Char)}
    {m : Mark} {cs : List Char} (h : Stage before k current m cs) (after : Tagged)
    (hend : cs = [] ∨ (∃ p, m = .code p) ∧ StartsApart cs) :
    ∃ qs : List Placed, closeChunk current = qs.map (·.chunk) ∧
      ∀ ps, Placement (before ++ after) before.length ps →
        Placement (before ++ after) k (qs ++ ps) := by
  cases h with
  | aside _ _ => exact ⟨[], rfl, fun ps hps => hps⟩
  | @begun front body m cs hread hstarts hwhole =>
    have halone : tagged (chars body) = body := by
      rcases hend with rfl | ⟨⟨p, rfl⟩, hcs⟩
      · exact hread.tagged_eq
      · exact (hread.in_front hcs startsApart_nil).tagged_eq
    have hstands : (Placed.behind front body).StandsIn (front ++ body ++ after) :=
      ⟨⟨front, after, by rw [Placed.behind, halone, List.append_assoc], rfl, rfl⟩,
        by rwa [Placed.behind, halone], by rwa [Placed.behind, halone]⟩
    have hstop : (Placed.behind front body).stop = (front ++ body).length := by
      simp [Placed.stop, Placed.behind, chars]
    refine ⟨[Placed.behind front body], ?_, fun ps hps => ?_⟩
    · simp [closeChunk, Placed.behind]
    · rw [← hstop] at hps
      exact .cons hstands hps

/-- **The statements from one character on.** -/
theorem placed_of_stage : ∀ (cs : List Char) {before : Tagged} {k : Nat}
    {current : Option (Nat × List Char)} {m : Mark}, Stage before k current m cs →
      ∃ ps : List Placed,
        chunksFrom (1 + (chars before).count '\n') current (mark m cs) = ps.map (·.chunk) ∧
        Placement (before ++ mark m cs) k ps
  | [], before, k, current, m, h => by
    obtain ⟨qs, hqs, hclose⟩ := h.close [] (.inl rfl)
    have hnil : Placement (before ++ []) before.length [] := .nil (by simp)
    refine ⟨qs ++ [], ?_, hclose [] hnil⟩
    rw [List.append_nil, ← hqs]
    rfl
  | c :: cs, before, k, current, m, h => by
    have hsplit : before ++ mark m (c :: cs) =
        before ++ [(c, (step m c cs).1)] ++ mark (step m c cs).2 cs := by
      rw [mark, List.append_assoc, List.singleton_append]
    have hplace : (before ++ mark m (c :: cs))[before.length]? = some (c, (step m c cs).1) := by
      rw [mark, List.getElem?_append_right (Nat.le_refl _), Nat.sub_self]
      rfl
    have hline := line_concat before (c, (step m c cs).1)
    have hlen : (before ++ [(c, (step m c cs).1)]).length = before.length + 1 := by simp
    by_cases hend : endsStatement (c, (step m c cs).1) = true
    · -- a statement that was begun ends here
      obtain ⟨hcode, rfl, haside⟩ := aside_of_ends h.opened hend
      obtain ⟨ps, hps, hplaced⟩ := placed_of_stage cs (.aside (before ++ [_]) haside)
      obtain ⟨qs, hqs, hclose⟩ := h.close (mark m (';' :: cs))
        (.inr ⟨hcode, startsApart_cons (by decide) cs⟩)
      rw [hline] at hps
      rw [hlen, ← hsplit] at hplaced
      have hskip := hplaced.skip hplace fun hk => by rw [hk.2] at hend; cases hend
      refine ⟨qs ++ ps, ?_, hclose ps hskip⟩
      rw [mark, chunksFrom_ends _ _ hend, hps, hqs, List.map_append]
    · cases h with
      | aside _ h =>
        by_cases hstart : startsStatement (c, (step m c cs).1) = true
        · -- a statement begins here, and is read as by itself
          obtain ⟨p, rfl, hp⟩ := code_of_starts h hstart
          have hread : Reads cs (.code none) (chars [(c, (step (.code p) c cs).1)])
              [(c, (step (.code p) c cs).1)] (step (.code p) c cs).2 := by
            have hstep : step (.code none) c cs = step (.code p) c cs :=
              opened_congr rfl fun _ => by rw [dollarTag?, dollarTag?, hp]; rfl
            exact Reads.cons_of_step hstep (.nil _)
          obtain ⟨ps, hps, hplaced⟩ := placed_of_stage cs (.begun before hread
            ⟨_, [], rfl, hstart⟩ (List.forall_mem_singleton.2 (Bool.not_eq_true _ ▸ hend)))
          rw [hline] at hps
          rw [← hsplit] at hplaced
          refine ⟨ps, ?_, hplaced⟩
          rw [mark, chunksFrom_starts _ _ hend hstart, ← hps]
          rfl
        · obtain ⟨ps, hps, hplaced⟩ :=
            placed_of_stage cs (.aside (before ++ [_]) (aside_step h hstart))
          rw [hline] at hps
          rw [hlen, ← hsplit] at hplaced
          refine ⟨ps, ?_, hplaced.skip hplace fun hk => hstart hk.1⟩
          rw [mark, chunksFrom_skips _ _ hend hstart, ← hps]
      | @begun front body m _ hread hstarts hwhole =>
        have hmore : Reads cs (.code none) (chars (body ++ [(c, (step m c cs).1)]))
            (body ++ [(c, (step m c cs).1)]) (step m c cs).2 := by
          rw [chars_append]
          exact hread.concat
        have hstarts' : ∃ x more, body ++ [(c, (step m c cs).1)] = x :: more ∧
            startsStatement x = true := by
          obtain ⟨x, more, rfl, hx⟩ := hstarts
          exact ⟨x, more ++ [_], rfl, hx⟩
        have hwhole' : ∀ x ∈ body ++ [(c, (step m c cs).1)], endsStatement x = false :=
          List.forall_mem_append.2
            ⟨hwhole, List.forall_mem_singleton.2 (Bool.not_eq_true _ ▸ hend)⟩
        obtain ⟨ps, hps, hplaced⟩ :=
          placed_of_stage cs (.begun front hmore hstarts' hwhole')
        rw [← List.append_assoc, hline] at hps
        rw [← List.append_assoc, ← hsplit] at hplaced
        refine ⟨ps, ?_, hplaced⟩
        rw [mark, chunksFrom_goesOn _ _ hend, ← hps]
        simp [Placed.behind, chars]

/-- **The statements of a script in their places.** -/
theorem chunks_placed (cs : List Char) :
    ∃ ps : List Placed, ps.map (·.chunk) = chunks cs ∧
      (∀ p ∈ ps, p.StandsIn (tagged cs)) ∧
      ps.Pairwise (fun p q => p.stop ≤ q.start) ∧
      (∀ i x, (tagged cs)[i]? = some x → x.2 ≠ .comment → isBlank x.1 = false →
        endsStatement x = false → ∃! p, p ∈ ps ∧ p.Holds i) ∧
      ∀ chunk ∈ chunks cs, chunks chunk.text = [⟨1, chunk.text⟩] := by
  have hstage : Stage [] 0 none (.code none) cs := .aside [] (.inl ⟨none, rfl, rfl⟩)
  obtain ⟨ps, hps, hplaced⟩ := placed_of_stage cs hstage
  have hchunks : chunks cs = ps.map (·.chunk) := hps
  refine ⟨ps, hchunks.symm, hplaced.stand, hplaced.ordered, ?_, ?_⟩
  · intro i x hx hcomment hblank hend
    obtain ⟨p, hp, hi⟩ := hplaced.covers i x (Nat.zero_le i) hx
      ⟨startsStatement_iff.2 ⟨hcomment, hblank⟩, hend⟩
    exact ⟨p, ⟨hp, hi⟩, fun q ⟨hq, hqi⟩ => hplaced.unique hq hp hqi hi⟩
  · intro chunk hchunk
    rw [hchunks] at hchunk
    obtain ⟨p, hp, rfl⟩ := List.mem_map.1 hchunk
    exact (hplaced.stand p hp).chunks_eq

end Script
end SchemaMap
