/-
# Batches with and without separators

The lines of a script are read one by one, and a line that holds only `GO` leaves nothing of what
was begun. So the batches behind such a line are those that its rest has by itself, only further
down (`batches_separated`). Where a batch stands does not matter to how it is cut: its pieces
move with it (`pieces_moved`).

A script without such a line is one batch, from its first line that is not blank on
(`batches_unseparated`), which is cut just where a later line begins a statement
(`two_le_length_pieces_iff`).

Key definitions: `Chunk.moved`, `Script.bodyLines`, `Script.wholeBatch`, `Script.IsCut`.
Key theorems: `Script.batchesFrom_append`, `Script.batchesFrom_moved`,
`Script.batches_separated`, `Script.pieces_moved`, `Script.batches_unseparated`,
`Script.two_le_length_pieces_iff`.
-/
import SchemaMap.Script.Batch
import SchemaMap.Proofs.Text.Lines

namespace SchemaMap

/-- A part of a script, `k` lines further down. -/
def Chunk.moved (k : Nat) (c : Chunk) : Chunk :=
  { c with line := c.line + k }

@[simp] theorem Chunk.moved_text (k : Nat) (c : Chunk) : (c.moved k).text = c.text := rfl

namespace Script

open Text (lines isBlankText)

/-! ### One more line -/

section BatchesFrom

variable {line : List Char} (n : Nat) (more : List (List Char))

theorem batchesFrom_separator (h : isSeparator line = true) (current : Option (Nat × List Char)) :
    batchesFrom n current (line :: more) = closeBatch current ++ batchesFrom (n + 1) none more := by
  rw [batchesFrom.eq_def]
  exact if_pos h

theorem batchesFrom_goesOn (h : ¬isSeparator line = true) (start : Nat) (text : List Char) :
    batchesFrom n (some (start, text)) (line :: more) =
      batchesFrom (n + 1) (some (start, addLine text line)) more := by
  rw [batchesFrom.eq_def]
  exact if_neg h

theorem batchesFrom_none (h : ¬isSeparator line = true) :
    batchesFrom n none (line :: more) =
      if isBlankText line then batchesFrom (n + 1) none more
      else batchesFrom (n + 1) (some (n, addLine [] line)) more := by
  rw [batchesFrom.eq_def]
  exact if_neg h

end BatchesFrom

/-! ### Batches -/

/-- A separator ends the batch that was begun, and the lines behind it are read from the start. -/
theorem batchesFrom_append {sep : List Char} (hsep : isSeparator sep = true)
    (behind : List (List Char)) :
    ∀ (ahead : List (List Char)) (n : Nat) (current : Option (Nat × List Char)),
      batchesFrom n current (ahead ++ sep :: behind) =
        batchesFrom n current ahead ++ batchesFrom (n + ahead.length + 1) none behind
  | [], n, current => by
    rw [List.nil_append, batchesFrom_separator n behind hsep, List.length_nil, Nat.add_zero]
    cases current <;> rfl
  | line :: ahead, n, current => by
    have ih := batchesFrom_append hsep behind ahead (n + 1)
    have hn : n + 1 + ahead.length + 1 = n + (line :: ahead).length + 1 := by
      rw [List.length_cons]; omega
    rw [hn] at ih
    rw [List.cons_append]
    by_cases hs : isSeparator line = true
    · rw [batchesFrom_separator _ _ hs, batchesFrom_separator _ _ hs, ih, List.append_assoc]
    · cases current with
      | some begun => rw [batchesFrom_goesOn _ _ hs, batchesFrom_goesOn _ _ hs, ih]
      | none =>
        rw [batchesFrom_none _ _ hs, batchesFrom_none _ _ hs]
        split
        · exact ih none
        · exact ih _

/-- Where the lines are counted from shows in the places of the batches and nowhere else. -/
theorem batchesFrom_moved (k : Nat) :
    ∀ (ls : List (List Char)) (n : Nat) (current : Option (Nat × List Char)),
      batchesFrom (n + k) (current.map fun (start, text) => (start + k, text)) ls =
        (batchesFrom n current ls).map (Chunk.moved k)
  | [], n, current => by cases current <;> rfl
  | line :: ls, n, current => by
    have ih := batchesFrom_moved k ls (n + 1)
    rw [Nat.add_right_comm n 1 k] at ih
    by_cases hs : isSeparator line = true
    · rw [batchesFrom_separator _ _ hs, batchesFrom_separator _ _ hs, List.map_append, ← ih none]
      cases current <;> rfl
    · cases current with
      | some begun =>
        rw [batchesFrom_goesOn _ _ hs, ← ih]
        exact batchesFrom_goesOn _ _ hs _ _
      | none =>
        rw [Option.map_none, batchesFrom_none _ _ hs, batchesFrom_none _ _ hs]
        split
        · exact ih none
        · exact ih (some (n, addLine [] line))

/-- **The batches of a script with a separator are those of its two sides**, the second ones
moved down by the lines of the first side and the separator. -/
theorem batches_separated {a : List Char} (ha : Text.WholeLines a) {sep : List Char}
    (hsep : isSeparator (Text.dropReturn sep) = true) (hline : '\n' ∉ sep) (b : List Char) :
    batches (a ++ (sep ++ '\n' :: b)) =
      batches a ++ (batches b).map (Chunk.moved ((lines a).length + 1)) := by
  have hlines : lines (a ++ (sep ++ '\n' :: b)) =
      lines a ++ Text.dropReturn sep :: lines b := by
    rw [Text.lines_append ha, Text.lines_line hline]
  have hmoved := batchesFrom_moved ((lines a).length + 1) (lines b) 1 none
  unfold batches
  rw [hlines, batchesFrom_append hsep, ← hmoved, ← Nat.add_assoc]
  rfl

/-! ### Pieces -/

theorem closePiece_moved (k start : Nat) (text : List Char) :
    closePiece (start + k) text = (closePiece start text).map (Chunk.moved k) := by
  unfold closePiece
  split <;> rfl

theorem piecesFrom_moved (k : Nat) :
    ∀ (ls : List (List Char)) (n start : Nat) (text : List Char),
      piecesFrom (n + k) (start + k) text ls = (piecesFrom n start text ls).map (Chunk.moved k)
  | [], _, start, text => closePiece_moved k start text
  | line :: ls, n, start, text => by
    have ih := piecesFrom_moved k ls (n + 1)
    rw [Nat.add_right_comm n 1 k] at ih
    rw [piecesFrom, piecesFrom]
    by_cases hb : isBlankText text = true
    · rw [if_pos hb, if_pos hb, ih]
    · rw [if_neg hb, if_neg hb]
      by_cases hw : beginsStatement line = true
      · rw [if_pos hw, if_pos hw, List.map_append, closePiece_moved, ih]
      · rw [if_neg hw, if_neg hw, ih]

/-- The pieces of a batch move with it. -/
theorem pieces_moved (k : Nat) (batch : Chunk) :
    pieces (batch.moved k) = (pieces batch).map (Chunk.moved k) :=
  piecesFrom_moved k (lines batch.text) batch.line batch.line []

/-! ### A script without separators -/

/-- The lines of a script from the first that is not blank on. -/
def bodyLines (cs : List Char) : List (List Char) :=
  (lines cs).dropWhile isBlankText

/-- The lines of a script from the first that is not blank on, as one batch. -/
def wholeBatch (cs : List Char) : Chunk :=
  ⟨1 + ((lines cs).takeWhile isBlankText).length, Text.unlines (bodyLines cs)⟩

theorem batchesFrom_begun : ∀ {ls : List (List Char)}, (∀ l ∈ ls, isSeparator l = false) →
    ∀ (n start : Nat) (text : List Char),
      batchesFrom n (some (start, text)) ls = [⟨start, text.reverse ++ Text.unlines ls⟩]
  | [], _, n, start, text => by simp [batchesFrom, closeBatch]
  | line :: ls, h, n, start, text => by
    obtain ⟨hline, hls⟩ := List.forall_mem_cons.1 h
    rw [batchesFrom_goesOn _ _ (by rw [hline]; decide), batchesFrom_begun hls]
    simp [addLine]

theorem batchesFrom_unseparated : ∀ {ls : List (List Char)}, (∀ l ∈ ls, isSeparator l = false) →
    ∀ n : Nat, ls.dropWhile isBlankText ≠ [] →
      batchesFrom n none ls =
        [⟨n + (ls.takeWhile isBlankText).length, Text.unlines (ls.dropWhile isBlankText)⟩]
  | [], _, _, hne => absurd rfl hne
  | line :: ls, h, n, hne => by
    obtain ⟨hline, hls⟩ := List.forall_mem_cons.1 h
    rw [batchesFrom_none _ _ (by rw [hline]; decide)]
    by_cases hb : isBlankText line = true
    · rw [List.dropWhile_cons_of_pos hb] at hne
      rw [if_pos hb, batchesFrom_unseparated hls (n + 1) hne, List.takeWhile_cons_of_pos hb,
        List.dropWhile_cons_of_pos hb, List.length_cons, Nat.add_right_comm, Nat.add_assoc]
    · rw [if_neg hb, batchesFrom_begun hls, List.takeWhile_cons_of_neg hb,
        List.dropWhile_cons_of_neg hb]
      simp [addLine]

/-- **A script without separators is one batch.** -/
theorem batches_unseparated {cs : List Char} (h : ∀ l ∈ lines cs, isSeparator l = false)
    (hne : bodyLines cs ≠ []) : batches cs = [wholeBatch cs] :=
  batchesFrom_unseparated h 1 hne

/-! ### Where a batch is cut -/

/-- A line behind the first one that is not blank begins a statement. -/
def IsCut (cs : List Char) : Prop :=
  ∃ l ∈ (bodyLines cs).tail, beginsStatement l = true

instance (cs : List Char) : Decidable (IsCut cs) :=
  inferInstanceAs (Decidable (∃ l ∈ (bodyLines cs).tail, beginsStatement l = true))

theorem isBlankText_addLine (text line : List Char) :
    isBlankText (addLine text line) = (isBlankText line && isBlankText text) := by
  have hfeed : Text.isBlank '\n' = true := by decide
  simp [isBlankText, addLine, hfeed]

theorem beginsStatement_dropReturn (line : List Char) :
    beginsStatement (Text.dropReturn line) = beginsStatement line := by
  rw [beginsStatement, beginsStatement, Text.words_dropReturn]

theorem isBlankText_of_beginsStatement {line : List Char} (h : beginsStatement line = true) :
    isBlankText line = false := by
  rw [Bool.eq_false_iff]
  intro hblank
  have hwords : Text.words line = [] := Text.runs_eq_nil (List.all_eq_true.1 hblank)
  rw [beginsStatement, hwords] at h
  cases h

/-- Lines that begin no statement are not cut. -/
theorem length_piecesFrom_le : ∀ {ls : List (List Char)}, (∀ l ∈ ls, beginsStatement l = false) →
    ∀ (n start : Nat) (text : List Char), (piecesFrom n start text ls).length ≤ 1
  | [], _, n, start, text => by
    rw [piecesFrom, closePiece]
    split
    · exact Nat.zero_le 1
    · exact Nat.le_refl 1
  | line :: ls, h, n, start, text => by
    obtain ⟨hline, hls⟩ := List.forall_mem_cons.1 h
    rw [piecesFrom, hline, if_neg Bool.false_ne_true]
    split
    · exact length_piecesFrom_le hls _ _ _
    · exact length_piecesFrom_le hls _ _ _

/-- What is begun is a piece at least. -/
theorem piecesFrom_pos : ∀ (ls : List (List Char)) (n start : Nat) {text : List Char},
    isBlankText text = false → 0 < (piecesFrom n start text ls).length
  | [], n, start, text, h => by
    rw [piecesFrom, closePiece, h]
    exact Nat.one_pos
  | line :: ls, n, start, text, h => by
    have hnext : isBlankText (addLine text line) = false := by
      rw [isBlankText_addLine, h, Bool.and_false]
    rw [piecesFrom, h, if_neg Bool.false_ne_true]
    split
    · rw [closePiece, h]
      exact Nat.succ_pos _
    · exact piecesFrom_pos ls (n + 1) start hnext

/-- A line that begins a statement is cut off what is begun in front of it. -/
theorem two_le_length_piecesFrom : ∀ {ls : List (List Char)},
    (∃ l ∈ ls, beginsStatement l = true) → ∀ (n start : Nat) {text : List Char},
      isBlankText text = false → 2 ≤ (piecesFrom n start text ls).length
  | [], h, _, _, _, _ => absurd h (by simp)
  | line :: ls, h, n, start, text, ht => by
    rw [piecesFrom, ht, if_neg Bool.false_ne_true]
    by_cases hline : beginsStatement line = true
    · have hblank : isBlankText (addLine [] line) = false := by
        rw [isBlankText_addLine, isBlankText_of_beginsStatement hline, Bool.false_and]
      have hpos := piecesFrom_pos ls (n + 1) n hblank
      rw [if_pos hline, closePiece, ht, List.length_append]
      exact Nat.add_le_add (Nat.le_refl 1) hpos
    · have hmore : ∃ l ∈ ls, beginsStatement l = true := by
        obtain ⟨l, hl, hbegins⟩ := h
        rcases List.mem_cons.1 hl with rfl | hl
        · exact absurd hbegins hline
        · exact ⟨l, hl, hbegins⟩
      have hnext : isBlankText (addLine text line) = false := by
        rw [isBlankText_addLine, ht, Bool.and_false]
      rw [if_neg hline]
      exact two_le_length_piecesFrom hmore (n + 1) start hnext

theorem lines_wholeBatch (cs : List Char) :
    lines (wholeBatch cs).text = (bodyLines cs).map Text.dropReturn :=
  Text.lines_unlines fun l hl =>
    Text.newline_notMem_lines cs l (List.dropWhile_subset _ hl)

/-- **A batch is cut just where a line behind its first one begins a statement.** -/
theorem two_le_length_pieces_iff {cs : List Char} (hne : bodyLines cs ≠ []) :
    2 ≤ (pieces (wholeBatch cs)).length ↔ IsCut cs := by
  obtain ⟨first, more, hbody⟩ := List.exists_cons_of_ne_nil hne
  have hfirst : isBlankText first = false := by
    have hhead : (bodyLines cs).head? = some first := by rw [hbody]; rfl
    have hnot := List.head?_dropWhile_not isBlankText (lines cs)
    rw [bodyLines] at hhead
    rwa [hhead] at hnot
  have hbegun : isBlankText (addLine [] (Text.dropReturn first)) = false := by
    rw [isBlankText_addLine, Text.isBlankText_dropReturn, hfirst, Bool.false_and]
  have hpieces : pieces (wholeBatch cs) = piecesFrom ((wholeBatch cs).line + 1)
      (wholeBatch cs).line (addLine [] (Text.dropReturn first)) (more.map Text.dropReturn) := by
    rw [pieces, lines_wholeBatch, hbody]
    rfl
  have hcut : IsCut cs ↔ ∃ l ∈ more.map Text.dropReturn, beginsStatement l = true := by
    simp [IsCut, hbody, beginsStatement_dropReturn]
  rw [hpieces, hcut]
  constructor
  · intro hlen
    by_contra hnone
    have hall : ∀ l ∈ more.map Text.dropReturn, beginsStatement l = false := fun l hl =>
      Bool.eq_false_iff.2 fun hb => hnone ⟨l, hl, hb⟩
    have hle := length_piecesFrom_le hall ((wholeBatch cs).line + 1) (wholeBatch cs).line
      (addLine [] (Text.dropReturn first))
    omega
  · exact fun h => two_le_length_piecesFrom h _ _ hbegun

end Script
end SchemaMap
