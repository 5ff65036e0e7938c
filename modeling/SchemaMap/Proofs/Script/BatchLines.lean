/-
# The lines of batches and pieces

A batch is a range of the lines of its script, counted from the first one that is not blank behind a
separator to the next separator or the end, and each of its pieces is a range of them, too
(`LineRange`). The batches lie one behind the other and leave out nothing but blank lines and
separators. The pieces of a batch follow each other without a gap, and they meet just where a line
begins a statement. So what is said of the place of a batch or of a piece is the place of its first
line in the script.

A line keeps a carriage return at its end where it has two, or one and no line feed. It loses this one
when it is read from the text of its batch, so what is said of pieces is said of batches without
carriage returns.

Key definitions: `Script.LineRange`, `Script.LineRange.IsBatch`, `Script.Tiles`,
`Script.LineRange.IsCut`, `Script.BatchStage`, `Script.PieceStage`.
Key theorems: `Script.batchesFrom_of_stage`, `Script.piecesFrom_of_stage`, `Script.batches_lines`.
-/
import SchemaMap.Proofs.Placewise
import SchemaMap.Proofs.Script.Batches
import Mathlib.Data.List.DropRight

namespace SchemaMap
namespace Script

open Text (lines unlines isBlankText)

/-! ### Ranges of lines -/

/-- The lines of a text from the place `start` up to the place `stop`. -/
structure LineRange where
  start : Nat
  stop : Nat
deriving DecidableEq, Repr

namespace LineRange

/-- Whether the line at the place `i` is one of them. -/
def Holds (r : LineRange) (i : Nat) : Prop :=
  r.start ≤ i ∧ i < r.stop

/-- The lines of the range. -/
def select (r : LineRange) (ls : List (List Char)) : List (List Char) :=
  ls.extract r.start r.stop

/-- The lines of the range in one text, each ended by a line feed, at the place of the first one. -/
def chunk (r : LineRange) (ls : List (List Char)) : Chunk :=
  ⟨r.start + 1, unlines (r.select ls)⟩

@[simp] theorem select_append (front body behind : List (List Char)) :
    select ⟨front.length, front.length + body.length⟩ (front ++ (body ++ behind)) = body := by
  simp [select]

/-- Two ranges that meet are one. -/
theorem select_append_select {a m b : Nat} (ham : a ≤ m) (hmb : m ≤ b) (ls : List (List Char)) :
    select ⟨a, m⟩ ls ++ select ⟨m, b⟩ ls = select ⟨a, b⟩ ls := by
  have hlen : b - a = (m - a) + (b - m) := by omega
  have hdrop : ls.drop m = (ls.drop a).drop (m - a) := by
    rw [List.drop_drop, Nat.add_sub_cancel' ham]
  simp only [select, List.extract_eq_take_drop]
  rw [hlen, List.take_add, hdrop]

/-- What stands in front of a range and what follows it. -/
theorem exists_select (r : LineRange) {ls : List (List Char)} (hr : r.start < r.stop)
    (hstop : r.stop ≤ ls.length) :
    ∃ front behind, ls = front ++ (r.select ls ++ behind) ∧ front.length = r.start ∧
      r.stop = front.length + (r.select ls).length := by
  refine ⟨ls.take r.start, ls.drop r.stop, ?_, ?_, ?_⟩
  · have hrest : (ls.drop r.start).drop (r.stop - r.start) = ls.drop r.stop := by
      rw [List.drop_drop, Nat.add_sub_cancel' (Nat.le_of_lt hr)]
    rw [select, List.extract_eq_take_drop, ← hrest, List.take_append_drop, List.take_append_drop]
  · simp only [List.length_take]
    omega
  · simp only [select, List.extract_eq_take_drop, List.length_take, List.length_drop]
    omega

end LineRange

/-! ### Batches of lines -/

/-- The last lines of `before`, behind its last separator. -/
def openLines (before : List (List Char)) : List (List Char) :=
  before.rtakeWhile fun l => !isSeparator l

theorem openLines_separator {line : List Char} (h : isSeparator line = true)
    (before : List (List Char)) : openLines (before ++ [line]) = [] :=
  List.rtakeWhile_concat_neg _ _ _ (by simp [h])

theorem openLines_concat {line : List Char} (h : isSeparator line = false)
    (before : List (List Char)) : openLines (before ++ [line]) = openLines before ++ [line] :=
  List.rtakeWhile_concat_pos _ _ _ (by simp [h])

/-- The range is a batch: it starts with the first line that is not blank behind a separator, and goes
on up to the next separator or the end. -/
structure LineRange.IsBatch (ls : List (List Char)) (r : LineRange) : Prop where
  lead : ∀ l ∈ openLines (ls.take r.start), isBlankText l = true
  first : ∃ l, (r.select ls).head? = some l ∧ isBlankText l = false
  unseparated : ∀ l ∈ r.select ls, isSeparator l = false
  stop_le : r.stop ≤ ls.length
  ended : ∀ l, ls[r.stop]? = some l → isSeparator l = true

theorem LineRange.IsBatch.lt_stop {ls : List (List Char)} {r : LineRange} (h : r.IsBatch ls) :
    r.start < r.stop := by
  obtain ⟨l, hl, -⟩ := h.first
  by_contra hle
  have hnil : r.select ls = [] := by
    rw [select, List.extract_eq_take_drop, Nat.sub_eq_zero_of_le (Nat.le_of_not_lt hle),
      List.take_zero]
  rw [hnil] at hl
  cases hl

/-- Whether a line must belong to a batch: it is neither blank nor a separator. -/
def Batched (line : List Char) : Prop :=
  isBlankText line = false ∧ isSeparator line = false

/-- The ranges `rs` are batches that stand in a script from the place `k` on, one behind the other,
with every line that must belong to one. -/
structure Batching (ls : List (List Char)) (k : Nat) (rs : List LineRange) : Prop where
  batch : ∀ r ∈ rs, r.IsBatch ls
  covers : Covers LineRange.start LineRange.stop (fun i => ∃ l, ls[i]? = some l ∧ Batched l) k rs

theorem Batching.nil {ls : List (List Char)} {k : Nat} (hk : ls.length ≤ k) :
    Batching ls k [] := by
  refine ⟨List.forall_mem_nil _, .nil ?_⟩
  rintro i hi ⟨l, hl, -⟩
  have hlt := (List.getElem?_eq_some_iff.1 hl).1
  omega

/-- A line that need not belong to a batch is passed over. -/
theorem Batching.skip {ls : List (List Char)} {k : Nat} {rs : List LineRange} {line : List Char}
    (hline : ls[k]? = some line) (hout : ¬Batched line) (h : Batching ls (k + 1) rs) :
    Batching ls k rs := by
  refine ⟨h.batch, h.covers.skip ?_⟩
  rintro ⟨l, hl, hb⟩
  rw [hline] at hl
  cases hl
  exact hout hb

theorem Batching.cons {ls : List (List Char)} {r : LineRange} {rs : List LineRange}
    (hr : r.IsBatch ls) (h : Batching ls r.stop rs) : Batching ls r.start (r :: rs) :=
  ⟨List.forall_mem_cons.2 ⟨hr, h.batch⟩, h.covers.cons hr.lt_stop⟩

/-- A line that must belong to a batch belongs to one and no other. -/
theorem Batching.existsUnique {ls : List (List Char)} {rs : List LineRange} (h : Batching ls 0 rs)
    {i : Nat} {l : List Char} (hl : ls[i]? = some l) (hb : Batched l) :
    ∃! r, r ∈ rs ∧ r.Holds i := by
  obtain ⟨r, hr, hholds⟩ := h.covers.holds i (Nat.zero_le i) ⟨l, hl, hb⟩
  exact ⟨r, ⟨hr, hholds⟩, fun s hs => h.covers.unique hs.1 hr hs.2 hholds⟩

/-! ### One line after another -/

/-- What is known behind the lines `before`, where the places are counted from the batch that is
begun: without one only blank lines stand behind the last separator; one that is begun starts behind
such lines with one that is not blank, and no separator is in it. -/
inductive BatchStage : (before : List (List Char)) → (k : Nat) → Option (Nat × List Char) → Prop
  | blank (before : List (List Char)) (h : ∀ l ∈ openLines before, isBlankText l = true) :
    BatchStage before before.length none
  | begun (front : List (List Char)) {body : List (List Char)}
      (hlead : ∀ l ∈ openLines front, isBlankText l = true)
      (hfirst : ∃ l, body.head? = some l ∧ isBlankText l = false)
      (hbody : ∀ l ∈ body, isSeparator l = false) :
    BatchStage (front ++ body) front.length (some (front.length + 1, (unlines body).reverse))

theorem addLine_unlines (body : List (List Char)) (line : List Char) :
    addLine (unlines body).reverse line = (unlines (body ++ [line])).reverse := by
  simp [addLine]

theorem addLine_nil (line : List Char) : addLine [] line = (unlines [line]).reverse :=
  addLine_unlines [] line

/-- In front of a separator, and at the end, a batch that is begun is complete. -/
theorem BatchStage.close {before : List (List Char)} {k : Nat} {current : Option (Nat × List Char)}
    (h : BatchStage before k current) (behind : List (List Char))
    (hend : ∀ l, behind.head? = some l → isSeparator l = true) :
    ∃ qs : List LineRange, closeBatch current = qs.map (·.chunk (before ++ behind)) ∧
      ∀ rs, Batching (before ++ behind) before.length rs →
        Batching (before ++ behind) k (qs ++ rs) := by
  cases h with
  | blank _ _ => exact ⟨[], rfl, fun rs hrs => hrs⟩
  | @begun front body hlead hfirst hbody =>
    rw [List.append_assoc, List.length_append]
    have hbatch : LineRange.IsBatch (front ++ (body ++ behind))
        ⟨front.length, front.length + body.length⟩ :=
      { lead := by simpa using hlead
        first := by simpa using hfirst
        unseparated := by simpa using hbody
        stop_le := by simp
        ended := by
          intro l hl
          rw [← List.append_assoc, ← List.length_append,
            List.getElem?_append_right (Nat.le_refl _), Nat.sub_self,
            ← List.head?_eq_getElem?] at hl
          exact hend l hl }
    refine ⟨[⟨front.length, front.length + body.length⟩], ?_, fun rs hrs => .cons hbatch hrs⟩
    simp [closeBatch, LineRange.chunk]

/-- **The batches from one line on.** -/
theorem batchesFrom_of_stage : ∀ (more : List (List Char)) {before : List (List Char)} {k : Nat}
    {current : Option (Nat × List Char)}, BatchStage before k current →
      ∃ rs : List LineRange,
        batchesFrom (before.length + 1) current more = rs.map (·.chunk (before ++ more)) ∧
        Batching (before ++ more) k rs
  | [], before, k, current, h => by
    obtain ⟨qs, hqs, hclose⟩ := h.close [] nofun
    have hnil : Batching (before ++ []) before.length [] := .nil (by simp)
    refine ⟨qs ++ [], ?_, hclose [] hnil⟩
    rw [List.append_nil qs, ← hqs]
    rfl
  | line :: more, before, k, current, h => by
    have hsplit : before ++ line :: more = before ++ [line] ++ more := by simp
    have hlen : (before ++ [line]).length = before.length + 1 := by simp
    have hplace : (before ++ line :: more)[before.length]? = some line := by simp
    by_cases hsep : isSeparator line = true
    · -- a batch that was begun ends here
      obtain ⟨qs, hqs, hclose⟩ := h.close (line :: more) (by simp [hsep])
      obtain ⟨rs, hrs, hbatching⟩ := batchesFrom_of_stage more
        (.blank (before ++ [line]) (by simp [openLines_separator hsep]))
      rw [hlen, ← hsplit] at hrs hbatching
      have hskip := hbatching.skip hplace fun hb => by rw [hb.2] at hsep; cases hsep
      refine ⟨qs ++ rs, ?_, hclose rs hskip⟩
      rw [batchesFrom_separator _ _ hsep, hqs, hrs, List.map_append]
    · have hgoes : isSeparator line = false := Bool.not_eq_true _ ▸ hsep
      cases h with
      | blank _ h =>
        rw [batchesFrom_none _ _ hsep]
        by_cases hblank : isBlankText line = true
        · obtain ⟨rs, hrs, hbatching⟩ := batchesFrom_of_stage more
            (.blank (before ++ [line]) (by
              rw [openLines_concat hgoes]
              exact List.forall_mem_append.2 ⟨h, List.forall_mem_singleton.2 hblank⟩))
          rw [hlen, ← hsplit] at hrs hbatching
          refine ⟨rs, ?_, hbatching.skip hplace fun hb => by rw [hb.1] at hblank; cases hblank⟩
          rw [if_pos hblank, hrs]
        · -- a batch begins here
          have hfirst : ∃ l, [line].head? = some l ∧ isBlankText l = false :=
            ⟨line, rfl, Bool.not_eq_true _ ▸ hblank⟩
          obtain ⟨rs, hrs, hbatching⟩ := batchesFrom_of_stage more
            (.begun before h hfirst (List.forall_mem_singleton.2 hgoes))
          rw [← hsplit] at hrs hbatching
          refine ⟨rs, ?_, hbatching⟩
          rw [if_neg hblank, ← hrs, hlen, addLine_nil]
      | @begun front body hlead hfirst hbody =>
        have hnext : ∃ l, (body ++ [line]).head? = some l ∧ isBlankText l = false := by
          obtain ⟨l, hl, hblank⟩ := hfirst
          exact ⟨l, by rw [List.head?_append, hl]; rfl, hblank⟩
        obtain ⟨rs, hrs, hbatching⟩ := batchesFrom_of_stage more
          (.begun front hlead hnext
            (List.forall_mem_append.2 ⟨hbody, List.forall_mem_singleton.2 hgoes⟩))
        rw [← List.append_assoc, ← hsplit] at hrs hbatching
        refine ⟨rs, ?_, hbatching⟩
        rw [batchesFrom_goesOn _ _ hsep, addLine_unlines, ← hrs, hlen]

/-! ### Pieces of a batch -/

/-- The ranges `ps` follow each other without a gap from the place `start` up to the place `stop`. -/
inductive Tiles : (start stop : Nat) → List LineRange → Prop
  | done (stop : Nat) : Tiles stop stop []
  | next {start m stop : Nat} {ps : List LineRange} (h : start < m) (hps : Tiles m stop ps) :
    Tiles start stop (⟨start, m⟩ :: ps)

theorem Tiles.le {start stop : Nat} {ps : List LineRange} (h : Tiles start stop ps) :
    start ≤ stop := by
  induction h with
  | done => exact Nat.le_refl _
  | next h _ ih => exact Nat.le_trans (Nat.le_of_lt h) ih

/-- Ranges that follow each other hold the lines from the first to the last. -/
theorem Tiles.unlines_select {start stop : Nat} {ps : List LineRange} (h : Tiles start stop ps)
    (ls : List (List Char)) :
    (ps.flatMap fun p => unlines (p.select ls)) = unlines (LineRange.select ⟨start, stop⟩ ls) := by
  induction h with
  | done stop => simp [LineRange.select]
  | next h hps ih =>
    rw [List.flatMap_cons, ih, ← Text.unlines_append,
      LineRange.select_append_select (Nat.le_of_lt h) hps.le]

/-- The ranges `ps` are what the range `r` is cut into: each but the first begins with a line that
begins a statement, and no other line in them does, but for the first of all. -/
structure LineRange.IsCut (ls : List (List Char)) (r : LineRange) (ps : List LineRange) : Prop where
  tiles : Tiles r.start r.stop ps
  begins : ∀ p ∈ ps.tail, ∃ l, (p.select ls).head? = some l ∧ beginsStatement l = true
  whole : ∀ p ∈ ps, ∀ l ∈ (p.select ls).tail, beginsStatement l = false

theorem LineRange.IsCut.single {ls : List (List Char)} {r : LineRange} (hr : r.start < r.stop)
    (hwhole : ∀ l ∈ (r.select ls).tail, beginsStatement l = false) : r.IsCut ls [r] where
  tiles := .next hr (.done r.stop)
  begins := List.forall_mem_nil _
  whole := List.forall_mem_singleton.2 hwhole

/-- A piece in front of others, where the line that follows it begins a statement. -/
theorem LineRange.IsCut.cons {ls : List (List Char)} {start m stop : Nat} {p : LineRange}
    {ps : List LineRange} (hm : start < m)
    (hwhole : ∀ l ∈ (select ⟨start, m⟩ ls).tail, beginsStatement l = false)
    (h : IsCut ls ⟨m, stop⟩ (p :: ps))
    (hbegins : ∃ l, (p.select ls).head? = some l ∧ beginsStatement l = true) :
    IsCut ls ⟨start, stop⟩ (⟨start, m⟩ :: p :: ps) where
  tiles := .next hm h.tiles
  begins := List.forall_mem_cons.2 ⟨hbegins, h.begins⟩
  whole := List.forall_mem_cons.2 ⟨hwhole, h.whole⟩

/-- What is known where the lines `body` behind the lines `front` are begun, in front of `more`: they
are not all blank, and none but the first begins a statement. -/
structure PieceStage (ls : List (List Char)) (stop : Nat) (front body more : List (List Char)) :
    Prop where
  lines_eq : ∃ behind, ls = front ++ (body ++ (more ++ behind))
  stop_eq : stop = front.length + (body.length + more.length)
  notBlank : body.all isBlankText = false
  whole : ∀ l ∈ body.tail, beginsStatement l = false

namespace PieceStage

variable {ls front body more : List (List Char)} {stop : Nat} {line : List Char}

theorem select_eq (h : PieceStage ls stop front body more) :
    LineRange.select ⟨front.length, front.length + body.length⟩ ls = body := by
  obtain ⟨behind, hls⟩ := h.lines_eq
  rw [hls, LineRange.select_append]

theorem ne_nil (h : PieceStage ls stop front body more) : body ≠ [] := by
  rintro rfl
  cases h.notBlank

theorem lt_add (h : PieceStage ls stop front body more) :
    front.length < front.length + body.length :=
  Nat.lt_add_of_pos_right (List.length_pos_of_ne_nil h.ne_nil)

theorem isBlankText_eq (h : PieceStage ls stop front body more) :
    isBlankText (unlines body).reverse = false := by
  rw [isBlankText, List.all_reverse, ← h.notBlank, ← Text.isBlankText_unlines]
  rfl

/-- What is begun is a piece where it ends. -/
theorem closePiece_eq (h : PieceStage ls stop front body more) :
    closePiece (front.length + 1) (unlines body).reverse =
      [LineRange.chunk ⟨front.length, front.length + body.length⟩ ls] := by
  rw [closePiece, h.isBlankText_eq, if_neg Bool.false_ne_true, List.reverse_reverse,
    LineRange.chunk, h.select_eq]

/-- A line that begins a statement begins a piece. -/
theorem begins (h : PieceStage ls stop front body (line :: more))
    (hline : beginsStatement line = true) : PieceStage ls stop (front ++ body) [line] more where
  lines_eq := by
    obtain ⟨behind, hls⟩ := h.lines_eq
    exact ⟨behind, by rw [hls, List.append_assoc]; rfl⟩
  stop_eq := by
    rw [h.stop_eq, List.length_append, List.length_cons, List.length_singleton]
    omega
  notBlank := by rw [List.all_cons, isBlankText_of_beginsStatement hline, Bool.false_and]
  whole := List.forall_mem_nil _

/-- Any other line belongs to the piece that is begun. -/
theorem goesOn (h : PieceStage ls stop front body (line :: more))
    (hline : beginsStatement line = false) : PieceStage ls stop front (body ++ [line]) more where
  lines_eq := by
    obtain ⟨behind, hls⟩ := h.lines_eq
    exact ⟨behind, by rw [hls, List.append_assoc body]; rfl⟩
  stop_eq := by
    rw [h.stop_eq, List.length_append, List.length_cons, List.length_singleton]
    omega
  notBlank := by rw [List.all_append, h.notBlank, Bool.false_and]
  whole := by
    rw [List.tail_append_of_ne_nil h.ne_nil]
    exact List.forall_mem_append.2 ⟨h.whole, List.forall_mem_singleton.2 hline⟩

end PieceStage

/-- **The pieces from one line on.** The first piece starts with the lines that are begun. -/
theorem piecesFrom_of_stage {ls : List (List Char)} {stop : Nat} :
    ∀ (more : List (List Char)) {front body : List (List Char)},
      PieceStage ls stop front body more → ∃ (p : LineRange) (ps : List LineRange),
        piecesFrom (front.length + body.length + 1) (front.length + 1) (unlines body).reverse more =
          (p :: ps).map (·.chunk ls) ∧
        (p.select ls).head? = body.head? ∧ LineRange.IsCut ls ⟨front.length, stop⟩ (p :: ps)
  | [], front, body, h => by
    obtain rfl : stop = front.length + body.length := h.stop_eq
    refine ⟨_, [], h.closePiece_eq, by rw [h.select_eq], .single h.lt_add ?_⟩
    rw [h.select_eq]
    exact h.whole
  | line :: more, front, body, h => by
    rw [piecesFrom, h.isBlankText_eq, if_neg Bool.false_ne_true]
    by_cases hline : beginsStatement line = true
    · -- the piece that was begun ends here
      obtain ⟨p, ps, hps, hhead, hcut⟩ := piecesFrom_of_stage more (h.begins hline)
      rw [List.length_append] at hps hcut
      refine ⟨⟨front.length, front.length + body.length⟩, p :: ps, ?_, by rw [h.select_eq],
        .cons h.lt_add ?_ hcut ⟨line, hhead, hline⟩⟩
      · rw [if_pos hline, h.closePiece_eq, List.map_cons, ← hps, addLine_nil]
        rfl
      · rw [h.select_eq]
        exact h.whole
    · obtain ⟨p, ps, hps, hhead, hcut⟩ :=
        piecesFrom_of_stage more (h.goesOn (Bool.not_eq_true _ ▸ hline))
      refine ⟨p, ps, ?_, ?_, hcut⟩
      · rw [if_neg hline, addLine_unlines, ← hps, List.length_append]
        rfl
      · rw [hhead, List.head?_append_of_ne_nil _ h.ne_nil]

/-! ### Batches and their pieces -/

/-- Lines without carriage returns are read again from their text. -/
theorem LineRange.lines_chunk {r : LineRange} {cs : List Char}
    (hreturn : '\r' ∉ (r.chunk (lines cs)).text) :
    lines (r.chunk (lines cs)).text = r.select (lines cs) := by
  have hfeed : ∀ l ∈ r.select (lines cs), '\n' ∉ l := fun l hl =>
    Text.newline_notMem_lines cs l (List.mem_of_mem_drop (List.mem_of_mem_take hl))
  have hkept : ∀ l ∈ r.select (lines cs), Text.dropReturn l = l := by
    intro l hl
    refine Text.dropReturn_of_not_suffix fun hsuffix => hreturn ?_
    exact List.mem_flatMap.2 ⟨l, hl, List.mem_append_left _ (hsuffix.subset List.mem_cons_self)⟩
  rw [chunk, Text.lines_unlines hfeed, List.map_congr_left hkept, List.map_id']

/-- A batch without carriage returns is cut into ranges of its lines. -/
theorem LineRange.IsBatch.pieces_eq {cs : List Char} {r : LineRange} (h : r.IsBatch (lines cs))
    (hreturn : '\r' ∉ (r.chunk (lines cs)).text) :
    ∃ ps : List LineRange, pieces (r.chunk (lines cs)) = ps.map (·.chunk (lines cs)) ∧
      r.IsCut (lines cs) ps := by
  obtain ⟨first, hhead, hblank⟩ := h.first
  obtain ⟨more, hselect⟩ := List.head?_eq_some_iff.1 hhead
  obtain ⟨front, behind, hls, hfront, hstop⟩ := r.exists_select h.lt_stop h.stop_le
  rw [hselect] at hls hstop
  have hstage : PieceStage (lines cs) r.stop front [first] more :=
    { lines_eq := ⟨behind, hls⟩
      stop_eq := by rw [hstop, List.length_cons, List.length_singleton, Nat.add_comm 1]
      notBlank := by rw [List.all_cons, hblank, Bool.false_and]
      whole := List.forall_mem_nil _ }
  obtain ⟨p, ps, hps, -, hcut⟩ := piecesFrom_of_stage more hstage
  rw [hfront] at hps hcut
  refine ⟨p :: ps, ?_, hcut⟩
  rw [pieces, r.lines_chunk hreturn, hselect, ← hps, ← addLine_nil]
  rfl

/-- **The batches of a script by its lines, and their pieces.** Each batch is a range of the lines,
from the first that is not blank behind a separator up to the next separator or the end, and is said
to be on its first line. They are in order, and every line that is neither blank nor a separator is in
one of them and no other. A batch without carriage returns is what its pieces are together. They are
ranges of lines that meet where a line begins a statement, and nowhere else is there such a line. -/
theorem batches_lines (cs : List Char) :
    ∃ rs : List LineRange, batches cs = rs.map (·.chunk (lines cs)) ∧
      (∀ r ∈ rs, r.IsBatch (lines cs)) ∧
      (rs.Pairwise fun a b => a.stop ≤ b.start) ∧
      (∀ i l, (lines cs)[i]? = some l → isBlankText l = false → isSeparator l = false →
        ∃! r, r ∈ rs ∧ r.Holds i) ∧
      ∀ r ∈ rs, '\r' ∉ (r.chunk (lines cs)).text →
        (pieces (r.chunk (lines cs))).flatMap (·.text) = (r.chunk (lines cs)).text ∧
        ∃ ps : List LineRange, pieces (r.chunk (lines cs)) = ps.map (·.chunk (lines cs)) ∧
          r.IsCut (lines cs) ps := by
  obtain ⟨rs, hrs, hbatching⟩ := batchesFrom_of_stage (lines cs) (.blank [] (List.forall_mem_nil _))
  refine ⟨rs, hrs, hbatching.batch, hbatching.covers.ordered,
    fun i l hl hblank hsep => hbatching.existsUnique hl ⟨hblank, hsep⟩, fun r hr hreturn => ?_⟩
  obtain ⟨ps, hps, hcut⟩ := (hbatching.batch r hr).pieces_eq hreturn
  refine ⟨?_, ps, hps, hcut⟩
  rw [hps, List.flatMap_map]
  exact hcut.tiles.unlines_select (lines cs)

example : batches "\nCREATE TABLE a (x INT)\ngo\n\nSET x\nUSE y\nGO 2\n".toList =
    [⟨2, "CREATE TABLE a (x INT)\n".toList⟩, ⟨5, "SET x\nUSE y\n".toList⟩] := by
  decide +kernel

end Script
end SchemaMap
