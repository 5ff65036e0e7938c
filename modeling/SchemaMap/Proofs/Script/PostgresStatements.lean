/-
# Where the statements of a PostgreSQL script end

The reader of regions takes square brackets and back quotes for quotations, as other dialects do,
and looks only at the character before a dollar sign to tell whether a name goes on. For PostgreSQL
brackets and back quotes are characters in code. All the same a script is cut at the semicolons
that PostgreSQL reads in code, and nowhere else, if every bracket and back quote in code is closed
in code again before such a semicolon (`Enclosing`), and no string in dollar quotes begins right
behind a number or a dollar sign (`DollarsApart`).

Key definitions: `Postgres.Enclosing`, `Postgres.DollarsApart`, `Postgres.Alike`.
Key theorems: `Postgres.Takes.mark_eq`, `Postgres.mark_alike`, `Postgres.chunks_eq_reading`.
-/
import SchemaMap.Proofs.Script.PostgresLexemes
import SchemaMap.Proofs.Script.Chunks
import SchemaMap.Proofs.Text.Occurrence
import Mathlib.Data.List.Chain

namespace SchemaMap
namespace Postgres

open Script

/-! ### Scripts that are read alike -/

/-- Whether a dollar quote may begin right behind a lexeme: this is neither a number nor a dollar
sign. -/
def Lexeme.endsApart : Lexeme → Bool
  | char c => !(Text.isNumeric c || c == '$')
  | dollar _ => false
  | _ => true

/-- No string in dollar quotes begins right behind a number or a dollar sign. -/
def DollarsApart (xs : List Lexeme) : Prop :=
  xs.IsChain fun a b => (∃ t, b = .dollar t) → a.endsApart = true

/-- Two marks that are a quotation in other dialects. -/
def Brackets (o c : Char) : Prop :=
  (o = '[' ∧ c = ']') ∨ (o = '`' ∧ c = '`')

/-- Every square bracket and back quote in code is closed by the next closing mark in the text,
which is in code, too, without a semicolon in code between them; or neither follows. -/
inductive Enclosing : List Lexeme → Prop
  | nil : Enclosing []
  | other {x : Lexeme} {more : List Lexeme} (hopen : x ≠ .char '[') (hback : x ≠ .char '`')
    (h : Enclosing more) : Enclosing (x :: more)
  | enclosed {o c : Char} {within more : List Lexeme} (hoc : Brackets o c)
    (hc : ∀ x ∈ within, c ∉ x.text) (hs : .char ';' ∉ within) (h : Enclosing more) :
    Enclosing (.char o :: (within ++ .char c :: more))
  | unclosed {o c : Char} {within : List Lexeme} (hoc : Brackets o c)
    (hc : ∀ x ∈ within, c ∉ x.text) (hs : .char ';' ∉ within) :
    Enclosing (.char o :: within)

/-- Two readings of a script with the same ends of statements, and the same statements. -/
structure Alike (g k : Tagged) : Prop where
  ends : g.map endsStatement = k.map endsStatement
  chunks : ∀ line current, chunksFrom line current g = chunksFrom line current k

namespace Alike

variable {g k : Tagged}

theorem refl (g : Tagged) : Alike g g :=
  ⟨rfl, fun _ _ => rfl⟩

theorem cons (x : Char × Region) (h : Alike g k) : Alike (x :: g) (x :: k) := by
  refine ⟨by rw [List.map_cons, List.map_cons, h.ends], fun line current => ?_⟩
  rw [chunksFrom.eq_def, chunksFrom.eq_def line current (x :: k)]
  simp only [h.chunks]

theorem append (h : Alike g k) : ∀ t : Tagged, Alike (t ++ g) (t ++ k)
  | [] => h
  | x :: t => (h.append t).cons x

/-- Of a text that begins a statement and does not end it, only the characters count. -/
theorem within {x y : Char × Region} {a b : Tagged} (hx : startsStatement x = true)
    (hy : startsStatement y = true) (hxy : x.1 = y.1) (hab : chars a = chars b)
    (hxa : ∀ z ∈ x :: a, endsStatement z = false) (hyb : ∀ z ∈ y :: b, endsStatement z = false)
    (h : Alike g k) : Alike (x :: (a ++ g)) (y :: (b ++ k)) := by
  have hends {z : Char × Region} {t : Tagged} (ht : ∀ w ∈ z :: t, endsStatement w = false) :
      (z :: t).map endsStatement = List.replicate (t.length + 1) false := by
    rw [List.eq_replicate_iff]
    exact ⟨by simp, fun w hw => by
      obtain ⟨v, hv, rfl⟩ := List.mem_map.1 hw
      exact ht v hv⟩
  have hlen : a.length = b.length := by
    have := congrArg List.length hab
    simpa [chars] using this
  constructor
  · rw [← List.cons_append, ← List.cons_append, List.map_append, List.map_append, hends hxa,
      hends hyb, h.ends, hlen]
  · intro line current
    obtain ⟨hx', ha⟩ := List.forall_mem_cons.1 hxa
    obtain ⟨hy', hb⟩ := List.forall_mem_cons.1 hyb
    cases current with
    | none =>
      rw [chunksFrom_starts line _ (by simp [hx']) hx, chunksFrom_starts line _ (by simp [hy']) hy,
        chunksFrom_within ha, chunksFrom_within hb, hab, hxy, h.chunks]
    | some current =>
      obtain ⟨n, seen⟩ := current
      rw [chunksFrom_goesOn line _ (by simp [hx']), chunksFrom_goesOn line _ (by simp [hy']),
        chunksFrom_within ha, chunksFrom_within hb, hab, hxy, h.chunks]

end Alike

/-! ### Quotations and comments in the reader of regions -/

/-- The reader behind the opening quote of a literal: a doubled quote leaves the literal and opens
it again. -/
theorem mark_literal {q : Char} (hq : IsQuote q) : ∀ cs : List Char,
    mark (.inside .quoted 0 [q]) cs =
      allIn .quoted (cs.take (literalLength q cs)) ++
        mark (.code (some q)) (cs.drop (literalLength q cs))
  | [] => rfl
  | [c] => by
    by_cases hc : c = q
    · subst hc
      rw [mark, step_inside_quote]
      rfl
    · rw [mark, step_inside_other hc]
      rfl
  | c :: d :: cs => by
    by_cases hc : c = q
    · subst hc
      rw [mark, step_inside_quote]
      by_cases hd : d = c
      · subst hd
        have hlen : literalLength d (d :: d :: cs) = literalLength d cs + 2 := by
          simp [literalLength]
        rw [hlen, mark, step, opened_quote hq, mark_literal hq cs]
        rfl
      · have hlen : literalLength c (c :: d :: cs) = 1 := by simp [literalLength, hd]
        rw [hlen]
        rfl
    · have hlen : literalLength q (c :: d :: cs) = literalLength q (d :: cs) + 1 := by
        simp [literalLength, hc]
      rw [hlen, mark, step_inside_other hc, mark_literal hq (d :: cs)]
      rfl

/-- The reader inside of the text that closes a region. -/
theorem mark_closing (region : Region) (rest : List Char) : ∀ (n : Nat) {t : List Char},
    t.length = n + 1 →
      mark (.closing region n) (t ++ rest) = allIn region t ++ mark (.code t.getLast?) rest
  | 0, t, ht => by
    obtain ⟨c, rfl⟩ := List.length_eq_one_iff.1 ht
    rfl
  | n + 1, t, ht => by
    obtain ⟨c, t, rfl⟩ := List.exists_cons_of_length_eq_add_one ht
    have hlen : t.length = n + 1 := by simpa using ht
    obtain ⟨d, u, rfl⟩ := List.exists_cons_of_length_eq_add_one hlen
    have ih := mark_closing region rest n hlen
    rw [List.cons_append, mark, step, ih, List.getLast?_cons_cons]
    rfl

/-- The reader inside of a region up to the first occurrence of the text that closes it. -/
theorem mark_through (region : Region) {stop : List Char} (hs : stop ≠ []) : ∀ cs : List Char,
    mark (.inside region 0 stop) cs =
      allIn region (cs.take (lengthThrough stop cs)) ++
        mark (.code stop.getLast?) (cs.drop (lengthThrough stop cs))
  | [] => rfl
  | c :: cs => by
    by_cases hpre : stop <+: c :: cs
    · have hsome := (Text.after?_isSome stop (c :: cs)).2 hpre
      obtain ⟨r, hr⟩ := Option.isSome_iff_exists.1 hsome
      have hlen : lengthThrough stop (c :: cs) = stop.length := by rw [lengthThrough, if_pos hpre]
      obtain ⟨rest, hrest⟩ := hpre
      rw [hlen, ← hrest, List.take_left, List.drop_left]
      obtain ⟨d, t, rfl⟩ := List.exists_cons_of_ne_nil hs
      obtain ⟨rfl, rfl⟩ := List.cons.inj hrest
      have hfound : Text.after? (d :: t) (d :: (t ++ rest)) = some r := hr
      rw [List.cons_append, mark]
      cases t with
      | nil =>
        have hstep : step (.inside region 0 [d]) d ([] ++ rest) = (region, .code (some d)) := by
          simp only [step, hfound, List.length_singleton, Nat.sub_self]
        rw [hstep]
        rfl
      | cons e t =>
        have hstep : step (.inside region 0 (d :: e :: t)) d (e :: t ++ rest) =
            (region, .closing region t.length) := by
          simp only [step, hfound, List.length_cons, Nat.add_sub_cancel]
        rw [hstep, mark_closing region rest t.length rfl, List.getLast?_cons_cons]
        rfl
    · have hnone : Text.after? stop (c :: cs) = none := by
        rw [← Option.not_isSome_iff_eq_none, Text.after?_isSome]
        exact hpre
      have hstep : step (.inside region 0 stop) c cs = (region, .inside region 0 stop) := by
        simp only [step, hnone]
      have hlen : lengthThrough stop (c :: cs) = lengthThrough stop cs + 1 := by
        rw [lengthThrough, if_neg hpre]
      rw [mark, hstep, mark_through region hs cs, hlen]
      rfl

/-- The reader inside of the text that opens a region. -/
theorem mark_opening (region : Region) (stop rest : List Char) : ∀ t : List Char,
    mark (.inside region t.length stop) (t ++ rest) =
      allIn region t ++ mark (.inside region 0 stop) rest
  | [] => rfl
  | c :: t => by
    rw [List.cons_append, List.length_cons, mark, step, mark_opening region stop rest t]
    rfl

/-- The reader in a comment to the end of the line. -/
theorem mark_line (p : Option Char) : ∀ cs : List Char,
    mark (.line 0) cs = allIn .comment (cs.takeWhile (· != '\n')) ++
      mark (.code p) (cs.dropWhile (· != '\n'))
  | [] => rfl
  | c :: cs => by
    by_cases hc : c = '\n'
    · subst hc
      have hcalm : IsCalm '\n' := by decide
      have hnewline := mark_isCalm hcalm p cs
      exact hnewline.symm
    · have hne : (c != '\n') = true := by simpa using hc
      rw [mark, step, if_neg hc, mark_line p cs]
      simp only [List.takeWhile_cons, List.dropWhile_cons, hne, if_true]
      rfl

/-! ### Dollar signs -/

theorem isTagChar_first (c : Char) : isTagChar true c = startsName c := by
  simp [isTagChar, startsName, Bool.or_comm]

theorem isTagChar_later (c : Char) : isTagChar false c = isNameChar c := by
  simp [isTagChar, isNameChar, startsName, Bool.or_comm]

theorem isNameChar_dollar : isNameChar '$' = false := by decide

/-- Behind its first character, a tag goes on to the next dollar sign. -/
theorem tagRest?_later : ∀ cs : List Char, tagRest? false cs =
    if (cs.dropWhile isNameChar).head? == some '$' then some (cs.takeWhile isNameChar ++ ['$'])
    else none
  | [] => rfl
  | c :: cs => by
    by_cases hd : c = '$'
    · subst hd
      simp [tagRest?, isNameChar_dollar]
    · rw [tagRest?.eq_3 _ _ _ hd, isTagChar_later, tagRest?_later cs]
      cases hc : isNameChar c with
      | false => simp [hc, hd]
      | true =>
        simp only [List.dropWhile_cons, List.takeWhile_cons, hc, if_true]
        split <;> rfl

/-- The two readers agree on the delimiter of a dollar quote. -/
theorem tagRest?_eq_delimiter? (cs : List Char) :
    (tagRest? true cs).map ('$' :: ·) = delimiter? ('$' :: cs) := by
  cases cs with
  | nil => rfl
  | cons c cs =>
    by_cases hd : c = '$'
    · subst hd
      simp [tagRest?, delimiter?, isNameChar_dollar]
    · rw [tagRest?.eq_3 _ _ _ hd, isTagChar_first, tagRest?_later]
      unfold delimiter?
      cases hs : startsName c with
      | true =>
        have hc : isNameChar c = true := by simp [isNameChar, hs]
        simp only [List.dropWhile_cons, List.takeWhile_cons, hc, if_true, List.head?_cons,
          Option.all_some, hs, Bool.true_and]
        split <;> rfl
      | false =>
        cases hc : isNameChar c with
        | true => simp [hc, hs]
        | false => simp [hc, hd]

/-! ### Lexeme by lexeme -/

/-- What is known of the character behind which a lexeme is read: a name goes on behind it, or it
is neither a letter nor an underscore. -/
structure Behind (inName : Bool) (p : Option Char) : Prop where
  goesOn : inName = true → p.any continuesWord = true
  stops : inName = false → ∀ c ∈ p, startsName c = false

/-- Neither a number nor a dollar sign stands before. -/
def Apart (p : Option Char) : Prop :=
  ∀ c ∈ p, (Text.isNumeric c || c == '$') = false

/-- Where no name goes on, the character before is known to start none. -/
theorem Behind.other {p : Option Char} (h : ∀ c ∈ p, startsName c = false) : Behind false p :=
  ⟨fun hname => absurd hname Bool.false_ne_true, fun _ => h⟩

theorem Behind.continuesWord {p : Option Char} (h : Behind false p) (hp : Apart p) :
    p.any continuesWord = false := by
  cases p with
  | none => rfl
  | some c =>
    have hstops := h.stops rfl c rfl
    have hapart := hp c rfl
    simp only [startsName, Bool.or_eq_false_iff] at hstops hapart
    simp [Script.continuesWord, Text.isAlphanumeric, hstops, hapart]

theorem isNumeric_of_isAsciiDigit {c : Char} (h : Text.isAsciiDigit c = true) :
    Text.isNumeric c = true := by
  have hn := Text.toNat_of_isAsciiDigit h
  rw [Text.isNumeric, if_pos (by omega)]
  exact h

theorem Behind.char {inName : Bool} (c : Char) :
    Behind (staysInName inName c) (some c) := by
  constructor
  · intro h
    simp only [staysInName, startsName, Bool.or_eq_true, Bool.and_eq_true] at h
    simp only [Option.any_some, Script.continuesWord, Text.isAlphanumeric, Bool.or_eq_true]
    rcases h with (h | h) | ⟨-, h | h⟩
    · exact .inl (.inl (.inl h))
    · exact .inl (.inr h)
    · exact .inl (.inl (.inr (isNumeric_of_isAsciiDigit h)))
    · exact .inr h
  · intro h d hd
    cases hd
    simp only [staysInName, Bool.or_eq_false_iff] at h
    exact h.1

/-- A lexeme of more than one character is read alike, and what follows it is read from code. -/
theorem Takes.mark_eq {inName : Bool} {cs rest : List Char} {x : Lexeme}
    (h : Takes inName cs x rest) {p : Option Char} (hp : Behind inName p)
    (hdollar : (∃ t, x = .dollar t) → Apart p) :
    ∃ p', Behind false p' ∧ ((∃ t, x = .dollar t) ∨ Apart p') ∧
      mark (.code p) cs = x.tagged ++ mark (.code p') rest := by
  cases h with
  | @literal q hq cs =>
    have hquote : IsQuote q := hq.elim (fun h => .inr (.inr h)) .inl
    refine ⟨some q, .other ?_, .inr ?_, ?_⟩
    · rcases hq with rfl | rfl <;> exact Text.forall_mem_some (by decide)
    · rcases hq with rfl | rfl <;> exact Text.forall_mem_some (by decide)
    · rw [mark, step, opened_quote hquote, mark_literal hquote]
      rfl
  | line cs =>
    refine ⟨none, .other (by simp), .inr (by simp [Apart]), ?_⟩
    have hopen : step (.code p) '-' ('-' :: cs) = (.comment, .line 1) := rfl
    rw [mark, hopen, mark, step, mark_line none cs]
    rfl
  | block cs =>
    refine ⟨some '/', .other (Text.forall_mem_some (by decide)),
      .inr (Text.forall_mem_some (by decide)), ?_⟩
    have hopen : step (.code p) '/' ('*' :: cs) = (.comment, .inside .comment 1 ['*', '/']) := rfl
    rw [mark, hopen, mark, step, mark_through .comment (List.cons_ne_nil _ _) cs]
    rfl
  | @dollar tag hname cs htag =>
    subst hname
    obtain ⟨name, -, rfl, -⟩ := delimiter?_eq_some htag
    have hbehind : p.any Script.continuesWord = false := hp.continuesWord (hdollar ⟨_, rfl⟩)
    have htext : '$' :: (name ++ ['$']) ++ cs = '$' :: (name ++ ['$'] ++ cs) := rfl
    rw [htext] at htag ⊢
    have hopen : step (.code p) '$' (name ++ ['$'] ++ cs) =
        (.quoted, .inside .quoted (name ++ ['$']).length ('$' :: (name ++ ['$']))) := by
      have htag' : dollarTag? p (name ++ ['$'] ++ cs) = some ('$' :: (name ++ ['$'])) := by
        rw [dollarTag?, hbehind, if_neg Bool.false_ne_true, tagRest?_eq_delimiter?, htag]
      simp only [step, opened, htag', List.length_cons, Nat.add_sub_cancel]
    refine ⟨some '$', .other (Text.forall_mem_some (by decide)), .inl ⟨_, rfl⟩, ?_⟩
    rw [mark, hopen, mark_opening, mark_through .quoted (List.cons_ne_nil _ _) cs]
    simp [Lexeme.tagged, Lexeme.text, Lexeme.region, allIn, List.getLast?_cons]

/-- Outside of other quotations, a character that starts no lexeme is code. -/
theorem opened_char {inName : Bool} {p : Option Char} (hp : Behind inName p) {c : Char}
    {cs : List Char} (h : lexeme? inName (c :: cs) = none) (hopen : c ≠ '[') (hback : c ≠ '`') :
    opened p c cs = (.code, .code (some c)) := by
  unfold opened
  split
  · cases h
  · cases h
  · cases h
  · cases h
  · exact absurd rfl hback
  · exact absurd rfl hopen
  · have hnone : dollarTag? p cs = none := by
      cases inName with
      | true => rw [dollarTag?, hp.goesOn rfl, if_pos rfl]
      | false =>
        have hdelimiter : delimiter? ('$' :: cs) = none := by
          simpa [lexeme?] using h
        rw [dollarTag?, tagRest?_eq_delimiter?, hdelimiter]
        split <;> rfl
    rw [hnone]
  · rfl

/-! ### Brackets -/

theorem lengthThrough_of_mem {c : Char} (rest : List Char) : ∀ {t : List Char}, c ∉ t →
    lengthThrough [c] (t ++ c :: rest) = t.length + 1
  | [], _ => by simp [lengthThrough]
  | d :: t, h => by
    rw [List.mem_cons, not_or] at h
    rw [List.cons_append, lengthThrough, if_neg (by simp [h.1]), lengthThrough_of_mem rest h.2]
    rfl

theorem lengthThrough_of_notMem {c : Char} : ∀ {t : List Char}, c ∉ t →
    lengthThrough [c] t = t.length
  | [], _ => rfl
  | d :: t, h => by
    rw [List.mem_cons, not_or] at h
    rw [lengthThrough, if_neg (by simp [h.1]), lengthThrough_of_notMem h.2]
    rfl

theorem chars_tagged (xs : List Lexeme) :
    chars (xs.flatMap Lexeme.tagged) = xs.flatMap Lexeme.text := by
  simp [chars, Lexeme.tagged, List.map_flatMap, Function.comp_def]

/-- Lexemes without a semicolon in code end no statement. -/
theorem endsStatement_tagged {xs : List Lexeme} (hs : .char ';' ∉ xs) :
    ∀ y ∈ xs.flatMap Lexeme.tagged, endsStatement y = false := by
  intro y hy
  obtain ⟨x, hx, hy⟩ := List.mem_flatMap.1 hy
  obtain ⟨c, hc, rfl⟩ := List.mem_map.1 hy
  rw [Bool.eq_false_iff, ne_eq, endsStatement_iff]
  rintro ⟨hr, rfl⟩
  cases x with
  | char d =>
    obtain rfl := List.mem_singleton.1 hc
    exact hs hx
  | literal t => cases hr
  | dollar t => cases hr
  | comment t => cases hr

/-- Quoted characters end no statement. -/
theorem endsStatement_quoted (t : List Char) :
    ∀ y ∈ allIn .quoted t, endsStatement y = false := by
  intro y hy
  obtain ⟨c, -, rfl⟩ := List.mem_map.1 hy
  rfl

namespace Brackets

variable {o c : Char}

theorem opened_eq (h : Brackets o c) (p : Option Char) (rest : List Char) :
    opened p o rest = (.quoted, .inside .quoted 0 [c]) := by
  rcases h with ⟨rfl, rfl⟩ | ⟨rfl, rfl⟩ <;> rfl

theorem starts (h : Brackets o c) :
    startsStatement (o, .quoted) = true ∧ startsStatement (o, .code) = true := by
  rcases h with ⟨rfl, rfl⟩ | ⟨rfl, rfl⟩ <;> decide

theorem ends (h : Brackets o c) :
    endsStatement (o, .quoted) = false ∧ endsStatement (o, .code) = false ∧
      endsStatement (c, .code) = false := by
  rcases h with ⟨rfl, rfl⟩ | ⟨rfl, rfl⟩ <;> decide

/-- Behind the closing mark, no name goes on, and it is no number. -/
theorem closes (h : Brackets o c) (inName : Bool) :
    staysInName inName c = false ∧ Apart (some c) := by
  rcases h with ⟨rfl, rfl⟩ | ⟨rfl, rfl⟩
  · exact ⟨by cases inName <;> decide, Text.forall_mem_some (by decide)⟩
  · exact ⟨by cases inName <;> decide, Text.forall_mem_some (by decide)⟩

/-- What the closing mark does not stand in, it does not stand in as a whole. -/
theorem notMem_text {c : Char} {xs : List Lexeme} (hc : ∀ x ∈ xs, c ∉ x.text) :
    c ∉ xs.flatMap Lexeme.text := by
  intro hm
  obtain ⟨x, hx, hm⟩ := List.mem_flatMap.1 hm
  exact hc x hx hm

/-- Between two marks, only the characters count. -/
theorem alike (h : Brackets o c) {within : List Lexeme} (hc : ∀ x ∈ within, c ∉ x.text)
    (hs : .char ';' ∉ within) (p : Option Char) {rest : List Char} {k : Tagged}
    (hk : Alike (mark (.code (some c)) rest) k) :
    Alike (mark (.code p) (o :: (within.flatMap Lexeme.text ++ c :: rest)))
      ((o, .code) :: (within.flatMap Lexeme.tagged ++ (c, .code) :: k)) := by
  have hlen := lengthThrough_of_mem rest (notMem_text hc)
  have hmark : mark (.code p) (o :: (within.flatMap Lexeme.text ++ c :: rest)) =
      (o, .quoted) :: (allIn .quoted (within.flatMap Lexeme.text ++ [c]) ++
        mark (.code (some c)) rest) := by
    rw [mark, step, h.opened_eq, mark_through .quoted (List.cons_ne_nil _ _), hlen,
      List.append_cons, ← List.length_singleton (a := c), ← List.length_append, List.take_left,
      List.drop_left]
    rfl
  have hread : (o, .code) :: (within.flatMap Lexeme.tagged ++ (c, .code) :: k) =
      (o, .code) :: (within.flatMap Lexeme.tagged ++ [(c, .code)] ++ k) := by simp
  rw [hmark, hread]
  have hends := h.ends
  have hquoted := endsStatement_quoted (within.flatMap Lexeme.text ++ [c])
  have hcode := endsStatement_tagged hs
  refine Alike.within h.starts.1 h.starts.2 rfl ?_ ?_ ?_ hk
  · simp [chars, allIn, Lexeme.tagged, List.map_flatMap, Function.comp_def]
  · exact List.forall_mem_cons.2 ⟨hends.1, hquoted⟩
  · refine List.forall_mem_cons.2 ⟨hends.2.1, List.forall_mem_append.2 ⟨hcode, ?_⟩⟩
    exact List.forall_mem_singleton.2 hends.2.2

/-- Behind a mark that is not closed, only the characters count. -/
theorem alike_unclosed (h : Brackets o c) {within : List Lexeme} (hc : ∀ x ∈ within, c ∉ x.text)
    (hs : .char ';' ∉ within) (p : Option Char) :
    Alike (mark (.code p) (o :: within.flatMap Lexeme.text))
      ((o, .code) :: within.flatMap Lexeme.tagged) := by
  have hlen := lengthThrough_of_notMem (notMem_text hc)
  have hmark : mark (.code p) (o :: within.flatMap Lexeme.text) =
      (o, .quoted) :: (allIn .quoted (within.flatMap Lexeme.text) ++ []) := by
    rw [mark, step, h.opened_eq, mark_through .quoted (List.cons_ne_nil _ _), hlen,
      List.take_length, List.drop_length]
    rfl
  rw [hmark, ← List.append_nil (within.flatMap Lexeme.tagged)]
  have hends := h.ends
  have hquoted := endsStatement_quoted (within.flatMap Lexeme.text)
  have hcode := endsStatement_tagged hs
  refine Alike.within h.starts.1 h.starts.2 rfl ?_ ?_ ?_ (Alike.refl [])
  · rw [chars_tagged]
    simp [chars, allIn, Function.comp_def]
  · exact List.forall_mem_cons.2 ⟨hends.1, hquoted⟩
  · exact List.forall_mem_cons.2 ⟨hends.2.1, hcode⟩

end Brackets

/-! ### Scripts -/

/-- **The two readers agree on the statements** of a text in code whose brackets are closed in code
and whose dollar quotes stand apart. -/
theorem mark_alike {xs : List Lexeme} (henclosing : Enclosing xs) :
    ∀ {inName : Bool} {cs : List Char} {p : Option Char}, lexemes inName cs = xs →
      Behind inName p → DollarsApart xs →
      (∀ x ∈ xs.head?, (∃ t, x = .dollar t) → Apart p) →
      Alike (mark (.code p) cs) (xs.flatMap Lexeme.tagged) := by
  induction henclosing with
  | nil =>
    intro inName cs p hxs _ _ _
    have htext := text_lexemes inName cs
    rw [hxs] at htext
    rw [← htext]
    exact Alike.refl []
  | @other x more hopen hback _ ih =>
    intro inName cs p hxs hbehind hdollars hhead
    obtain ⟨hnext, hmore⟩ := List.isChain_cons.1 hdollars
    cases cs with
    | nil => simp [lexemes] at hxs
    | cons c cs =>
      rcases lexemes_cases inName c cs with ⟨y, rest, hy, he⟩ | ⟨hnone, he⟩
      · rw [he] at hxs
        obtain ⟨rfl, hrest⟩ := List.cons.inj hxs
        obtain ⟨p', hbehind', hp', hmark⟩ := hy.mark_eq hbehind (hhead y rfl)
        rw [hmark, List.flatMap_cons]
        refine (ih hrest hbehind' hmore fun z hz hdollar => ?_).append _
        rcases hp' with ⟨t, rfl⟩ | hp'
        · exact absurd (hnext z hz hdollar) Bool.false_ne_true
        · exact hp'
      · rw [he] at hxs
        obtain ⟨rfl, hrest⟩ := List.cons.inj hxs
        have hc := opened_char hbehind hnone (fun h => hopen (h ▸ rfl)) (fun h => hback (h ▸ rfl))
        rw [mark, step, hc, List.flatMap_cons]
        refine (ih hrest (Behind.char c) hmore fun z hz hdollar => ?_).cons _
        have happart := hnext z hz hdollar
        intro d hd
        cases hd
        simpa [Lexeme.endsApart] using happart
  | @enclosed o c within more hoc hc hs _ ih =>
    intro inName cs p hxs hbehind hdollars _
    have hmore : DollarsApart more := (hdollars.tail.right_of_append).tail
    have hopened : lexemes inName cs = [] ++ .char o :: (within ++ .char c :: more) := hxs
    obtain ⟨before, rest, rfl, hrest⟩ := lexemes_split hopened
    obtain ⟨before', rest', rfl, hrest'⟩ := lexemes_split hrest.symm
    obtain ⟨hstays, happart⟩ := hoc.closes before'
    rw [hstays] at hrest'
    have hread : (Lexeme.char o :: (within ++ .char c :: more)).flatMap Lexeme.tagged =
        (o, .code) :: (within.flatMap Lexeme.tagged ++ (c, .code) ::
          more.flatMap Lexeme.tagged) := by
      simp [Lexeme.tagged, Lexeme.text, Lexeme.region]
    rw [hread]
    have hbehind' : Behind false (some c) := hstays ▸ Behind.char c
    exact hoc.alike hc hs p (ih hrest'.symm hbehind' hmore fun _ _ _ => happart)
  | @unclosed o c within hoc hc hs =>
    intro inName cs p hxs _ _ _
    have htext := text_lexemes inName cs
    rw [hxs, List.flatMap_cons] at htext
    rw [← htext]
    exact hoc.alike_unclosed hc hs p

/-- **Where the statements of a PostgreSQL script end.** If the brackets and back quotes of a
script are closed in code, and its dollar quotes stand apart, then the characters that end a
statement are the semicolons in code as PostgreSQL reads the script, and the statements are those
of this reading. -/
theorem chunks_eq_reading (cs : List Char) (henclosing : Enclosing (lexemes false cs))
    (hdollars : DollarsApart (lexemes false cs)) :
    (tagged cs).map endsStatement = (reading cs).map endsStatement ∧
      chunks cs = chunksFrom 1 none (reading cs) := by
  have hbehind : Behind false none := .other (by simp)
  have halike : Alike (tagged cs) (reading cs) :=
    mark_alike henclosing rfl hbehind hdollars fun _ _ _ => nofun
  exact ⟨halike.ends, halike.chunks 1 none⟩

/-- A subscript, a semicolon in a string and one in dollar quotes. -/
theorem chunks_eq_reading_subscript :
    chunks "a[1];';'$$;$$".toList = chunksFrom 1 none (reading "a[1];';'$$;$$".toList) := by
  have hlexemes : lexemes false "a[1];';'$$;$$".toList =
      .char 'a' :: .char '[' :: ([.char '1'] ++ .char ']' :: [.char ';', .literal "';'".toList,
        .dollar "$$;$$".toList]) := by decide +kernel
  have henclosing : Enclosing (lexemes false "a[1];';'$$;$$".toList) := by
    rw [hlexemes]
    refine .other (by decide) (by decide) (.enclosed (.inl ⟨rfl, rfl⟩) (by decide) (by decide) ?_)
    refine .other (by decide) (by decide) (.other (by decide) (by decide) ?_)
    exact .other (by decide) (by decide) .nil
  have hdollars : DollarsApart (lexemes false "a[1];';'$$;$$".toList) := by
    rw [hlexemes]
    simp [DollarsApart, Lexeme.endsApart]
  exact (chunks_eq_reading _ henclosing hdollars).2

/-- A bracket in a string that stands in brackets: the reader of regions is back in code behind
it, and cuts the string at its semicolon. -/
theorem bracket_cuts_string :
    (chunks "SELECT ARRAY['];'];".toList).map (·.text) =
        ["SELECT ARRAY[']".toList, "'];".toList] ∧
      (chunksFrom 1 none (reading "SELECT ARRAY['];'];".toList)).map (·.text) =
        ["SELECT ARRAY['];']".toList] ∧
      ¬ ∀ cs, (tagged cs).map endsStatement = (reading cs).map endsStatement := by
  refine ⟨by decide +kernel, by decide +kernel, fun h => ?_⟩
  have hends : (tagged "SELECT ARRAY['];'];".toList).map endsStatement ≠
      (reading "SELECT ARRAY['];'];".toList).map endsStatement := by decide +kernel
  exact hends (h _)

end Postgres
end SchemaMap
