/-
# How PostgreSQL reads the quotations of a script

PostgreSQL reads a script from left to right as characters in code, literals in single or double
quotes, in which the quote itself is doubled, strings in dollar quotes, and comments, which are
taken not to nest. A name starts with a letter or an underscore and goes on with letters, digits,
underscores and dollar signs; only a dollar sign outside of names starts a dollar quote. Square
brackets and back quotes are characters like any other.

These are the words of PostgreSQL's manual, taken literally: two dashes run to the end of the line,
which is its line feed, and a letter is an alphabetic character. The lexer of PostgreSQL differs from
them at two places that are not followed here. It ends a comment at a carriage return too, and it
takes every character outside of ASCII for a letter.

Key definitions: `Postgres.Lexeme`, `Postgres.lexeme?`, `Postgres.lexemes`, `Postgres.reading`.
Key theorems: `Postgres.text_lexemes`, `Postgres.lexemes_split`.
-/
import SchemaMap.Script.Region

namespace SchemaMap
namespace Postgres

open Script (Tagged)

/-! ### Lexemes -/

/-- What a script is read in. -/
inductive Lexeme where
  /-- A character in code. -/
  | char (c : Char)
  /-- A string or a name in quotes, with the quotes. -/
  | literal (text : List Char)
  /-- A string in dollar quotes, with these. -/
  | dollar (text : List Char)
  | comment (text : List Char)
deriving DecidableEq, Repr

namespace Lexeme

/-- The characters of a lexeme. -/
def text : Lexeme → List Char
  | char c => [c]
  | literal t => t
  | dollar t => t
  | comment t => t

/-- The region of a lexeme. -/
def region : Lexeme → Region
  | char _ => .code
  | literal _ => .quoted
  | dollar _ => .quoted
  | comment _ => .comment

/-- The characters of a lexeme with its region. -/
def tagged (x : Lexeme) : Tagged :=
  x.text.map fun c => (c, x.region)

end Lexeme

/-- Whether a name may start with a character: a letter, as the manual has it, or an underscore. The
lexer of PostgreSQL lets every character outside of ASCII pass for a letter. -/
def startsName (c : Char) : Bool :=
  Text.isAlphabetic c || c == '_'

/-- Whether a character may stand in the tag of a dollar quote. -/
def isNameChar (c : Char) : Bool :=
  startsName c || Text.isAsciiDigit c

/-- Whether the reader is inside of a name behind a character, if it was there before it or not. -/
def staysInName (inName : Bool) (c : Char) : Bool :=
  startsName c || (inName && (Text.isAsciiDigit c || c == '$'))

/-- The number of characters up to the quote that closes a literal, and with it; a doubled quote
is one of the literal. Without a closing quote these are all characters. -/
def literalLength (q : Char) : List Char → Nat
  | [] => 0
  | [_] => 1
  | c :: d :: cs =>
    if c ≠ q then literalLength q (d :: cs) + 1
    else if d = q then literalLength q cs + 2
    else 1

/-- The number of characters up to the first occurrence of a text, and with it; without one these
are all characters. -/
def lengthThrough (stop : List Char) : List Char → Nat
  | [] => 0
  | c :: cs => if stop <+: c :: cs then stop.length else lengthThrough stop cs + 1

/-- The delimiter of a string in dollar quotes at the front of a text: two dollar signs, and
between them a tag or nothing. -/
def delimiter? : List Char → Option (List Char)
  | '$' :: cs =>
    let tag := cs.takeWhile isNameChar
    if tag.head?.all startsName && (cs.dropWhile isNameChar).head? == some '$' then
      some ('$' :: (tag ++ ['$']))
    else none
  | _ => none

/-- The literal, the string in dollar quotes or the comment that a text in code starts with. A comment
behind two dashes runs up to the line feed, as the manual has it; the lexer of PostgreSQL ends it at
a carriage return too. -/
def lexeme? (inName : Bool) : List Char → Option Lexeme
  | '\'' :: cs => some (.literal ('\'' :: cs.take (literalLength '\'' cs)))
  | '"' :: cs => some (.literal ('"' :: cs.take (literalLength '"' cs)))
  | '-' :: '-' :: cs => some (.comment ('-' :: '-' :: cs.takeWhile (· != '\n')))
  | '/' :: '*' :: cs => some (.comment ('/' :: '*' :: cs.take (lengthThrough ['*', '/'] cs)))
  | '$' :: cs =>
    if inName then none
    else (delimiter? ('$' :: cs)).map fun tag =>
      .dollar (('$' :: cs).take (tag.length + lengthThrough tag (('$' :: cs).drop tag.length)))
  | _ => none

/-- The lexemes of a text in code, inside of a name or not. -/
def lexemes (inName : Bool) : List Char → List Lexeme
  | [] => []
  | c :: cs =>
    match lexeme? inName (c :: cs) with
    | some x => x :: lexemes false (cs.drop (x.text.length - 1))
    | none => .char c :: lexemes (staysInName inName c) cs
termination_by cs => cs.length
decreasing_by all_goals simp; try omega

/-- Every character of a script with the region it has for PostgreSQL. -/
def reading (cs : List Char) : Tagged :=
  (lexemes false cs).flatMap Lexeme.tagged

example : lexemes false "a'b;''c' $d$;$d$--".toList =
    [.char 'a', .literal "'b;''c'".toList, .char ' ', .dollar "$d$;$d$".toList,
      .comment "--".toList] := by
  decide +kernel

/-! ### Lexemes and the text they are read from -/

/-- A lexeme of more than one character at the front of a text, and what follows it. -/
inductive Takes (inName : Bool) : List Char → Lexeme → List Char → Prop
  | literal {q : Char} (hq : q = '\'' ∨ q = '"') (cs : List Char) :
    Takes inName (q :: cs) (.literal (q :: cs.take (literalLength q cs)))
      (cs.drop (literalLength q cs))
  | line (cs : List Char) :
    Takes inName ('-' :: '-' :: cs) (.comment ('-' :: '-' :: cs.takeWhile (· != '\n')))
      (cs.dropWhile (· != '\n'))
  | block (cs : List Char) :
    Takes inName ('/' :: '*' :: cs)
      (.comment ('/' :: '*' :: cs.take (lengthThrough ['*', '/'] cs)))
      (cs.drop (lengthThrough ['*', '/'] cs))
  | dollar {tag : List Char} (hname : inName = false) (cs : List Char)
    (htag : delimiter? (tag ++ cs) = some tag) :
    Takes inName (tag ++ cs) (.dollar (tag ++ cs.take (lengthThrough tag cs)))
      (cs.drop (lengthThrough tag cs))

/-- A delimiter is two dollar signs around a tag, at the front of the text. -/
theorem delimiter?_eq_some {cs tag : List Char} (h : delimiter? cs = some tag) :
    ∃ name rest, tag = '$' :: (name ++ ['$']) ∧ cs = tag ++ rest := by
  unfold delimiter? at h
  split at h
  · rename_i cs
    simp only at h
    split at h
    · rename_i hcond
      cases h
      simp only [Bool.and_eq_true, beq_iff_eq] at hcond
      obtain ⟨rest, hrest⟩ := List.head?_eq_some_iff.1 hcond.2
      have hcs : cs.takeWhile isNameChar ++ '$' :: rest = cs := by
        rw [← hrest, List.takeWhile_append_dropWhile]
      refine ⟨cs.takeWhile isNameChar, rest, rfl, ?_⟩
      rw [List.cons_append, List.append_assoc, List.singleton_append, hcs]
    · cases h
  · cases h

theorem takes_of_lexeme? {inName : Bool} {cs : List Char} {x : Lexeme}
    (h : lexeme? inName cs = some x) : ∃ rest, Takes inName cs x rest := by
  unfold lexeme? at h
  split at h
  · cases h
    exact ⟨_, .literal (.inl rfl) _⟩
  · cases h
    exact ⟨_, .literal (.inr rfl) _⟩
  · cases h
    exact ⟨_, .line _⟩
  · cases h
    exact ⟨_, .block _⟩
  · rename_i cs
    split at h
    · cases h
    · rename_i hname
      obtain ⟨tag, htag, rfl⟩ := Option.map_eq_some_iff.1 h
      obtain ⟨name, rest, -, hcs⟩ := delimiter?_eq_some htag
      rw [hcs] at htag ⊢
      rw [List.drop_left, List.take_length_add_append]
      exact ⟨_, .dollar (Bool.eq_false_iff.2 hname) rest htag⟩
  · cases h

namespace Takes

variable {inName : Bool} {cs rest : List Char} {x : Lexeme}

theorem text_append (h : Takes inName cs x rest) : x.text ++ rest = cs := by
  cases h with
  | literal hq cs => simp [Lexeme.text]
  | line cs => simp [Lexeme.text, List.takeWhile_append_dropWhile]
  | block cs => simp [Lexeme.text]
  | dollar hname cs htag => simp [Lexeme.text]

theorem text_ne_nil (h : Takes inName cs x rest) : x.text ≠ [] := by
  cases h with
  | literal hq cs => exact List.cons_ne_nil _ _
  | line cs => exact List.cons_ne_nil _ _
  | block cs => exact List.cons_ne_nil _ _
  | dollar hname cs htag =>
    obtain ⟨name, rest, rfl, -⟩ := delimiter?_eq_some htag
    exact List.cons_ne_nil _ _

theorem ne_char (h : Takes inName cs x rest) (c : Char) : x ≠ .char c := by
  cases h <;> exact nofun

end Takes

/-- The lexemes of a text: it starts with a lexeme of more than one character, or with a character
in code. -/
theorem lexemes_cases (inName : Bool) (c : Char) (cs : List Char) :
    (∃ x rest, Takes inName (c :: cs) x rest ∧
        lexemes inName (c :: cs) = x :: lexemes false rest) ∨
      (lexeme? inName (c :: cs) = none ∧
        lexemes inName (c :: cs) = .char c :: lexemes (staysInName inName c) cs) := by
  cases h : lexeme? inName (c :: cs) with
  | none =>
    refine .inr ⟨rfl, ?_⟩
    rw [lexemes, h]
  | some x =>
    obtain ⟨rest, hx⟩ := takes_of_lexeme? h
    obtain ⟨d, t, ht⟩ := List.exists_cons_of_ne_nil hx.text_ne_nil
    have hrest : cs.drop (x.text.length - 1) = rest := by
      have happend := hx.text_append
      rw [ht, List.cons_append] at happend
      obtain ⟨-, rfl⟩ := List.cons.inj happend
      rw [ht, List.length_cons, Nat.add_sub_cancel, List.drop_left]
    refine .inl ⟨x, rest, hx, ?_⟩
    rw [lexemes, h]
    simp only [hrest]

/-- The lexemes of a text make up the text. -/
theorem text_lexemes (inName : Bool) (cs : List Char) :
    (lexemes inName cs).flatMap Lexeme.text = cs := by
  induction hn : cs.length using Nat.strongRecOn generalizing inName cs with
  | _ n ih =>
    cases cs with
    | nil => simp [lexemes]
    | cons c cs =>
      rcases lexemes_cases inName c cs with ⟨x, rest, hx, he⟩ | ⟨-, he⟩
      · have hlen : rest.length < n := by
          have happend := congrArg List.length hx.text_append
          have hpos := List.length_pos_iff.2 hx.text_ne_nil
          rw [List.length_append] at happend
          omega
        rw [he, List.flatMap_cons, ih _ hlen _ _ rfl, hx.text_append]
      · have hlen : cs.length < n := by rw [← hn]; simp
        rw [he, List.flatMap_cons, ih _ hlen _ _ rfl]
        rfl

/-- Behind a character in code, the lexemes are those of the text behind it. -/
theorem lexemes_split {c : Char} : ∀ {before more : List Lexeme} {inName : Bool} {cs : List Char},
    lexemes inName cs = before ++ .char c :: more →
      ∃ within rest, cs = before.flatMap Lexeme.text ++ c :: rest ∧
        more = lexemes (staysInName within c) rest
  | before, more, inName, [], h => by
    rw [lexemes] at h
    exact absurd h.symm (by simp)
  | [], more, inName, d :: cs, h => by
    rcases lexemes_cases inName d cs with ⟨x, rest, hx, he⟩ | ⟨-, he⟩
    · rw [he] at h
      exact absurd (List.cons.inj h).1 (hx.ne_char c)
    · rw [he] at h
      obtain ⟨hd, rfl⟩ := List.cons.inj h
      cases hd
      exact ⟨inName, cs, rfl, rfl⟩
  | y :: before, more, inName, d :: cs, h => by
    rcases lexemes_cases inName d cs with ⟨x, rest, hx, he⟩ | ⟨-, he⟩
    · rw [he] at h
      obtain ⟨rfl, hrest⟩ := List.cons.inj h
      obtain ⟨within, rest', rfl, hmore⟩ := lexemes_split hrest
      refine ⟨within, rest', ?_, hmore⟩
      rw [List.flatMap_cons, List.append_assoc, hx.text_append]
    · rw [he] at h
      obtain ⟨rfl, hrest⟩ := List.cons.inj h
      obtain ⟨within, rest', rfl, hmore⟩ := lexemes_split hrest
      exact ⟨within, rest', rfl, hmore⟩

end Postgres
end SchemaMap
