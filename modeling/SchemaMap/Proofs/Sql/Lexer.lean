/-
# Texts written lexeme by lexeme

A text that is written as a list of lexemes is cut back into them if each is scanned as itself in
front of what follows it. The tokens are then those of the lexemes, at the places where they
start.

Key definitions: `Sql.Spelled`, `Sql.spelledText`, `Sql.placedFrom`, `Sql.Spells`.
Key theorems: `Sql.spells_append`, `Sql.tokens_spelled`, `Sql.scan_bracketed`.
-/
import SchemaMap.Sql.Lexer

namespace SchemaMap
namespace Sql

/-- A lexeme as it is written, and its token, if it has one. -/
structure Spelled where
  text : List Char
  token : Option Token
deriving DecidableEq, Repr

/-- Lexemes one behind the other. -/
def spelledText (ls : List Spelled) : List Char :=
  ls.flatMap (·.text)

@[simp] theorem spelledText_nil : spelledText [] = [] := rfl

@[simp] theorem spelledText_cons (l : Spelled) (ls : List Spelled) :
    spelledText (l :: ls) = l.text ++ spelledText ls := rfl

@[simp] theorem spelledText_append (ls ms : List Spelled) :
    spelledText (ls ++ ms) = spelledText ls ++ spelledText ms :=
  List.flatMap_append

theorem spelledText_flatMap {α : Type} (f : α → List Spelled) (as : List α) :
    spelledText (as.flatMap f) = as.flatMap fun a => spelledText (f a) :=
  List.flatMap_assoc

/-- The tokens of lexemes that start at a place. -/
def placedFrom (p : Place) : List Spelled → List Placed
  | [] => []
  | l :: ls =>
    match l.token with
    | some t => ⟨t, p⟩ :: placedFrom (l.text.foldl Place.after p) ls
    | none => placedFrom (l.text.foldl Place.after p) ls

theorem map_token_placedFrom : ∀ (ls : List Spelled) (p : Place),
    (placedFrom p ls).map (·.token) = ls.filterMap (·.token)
  | [], _ => rfl
  | l :: ls, p => by
    have ih := map_token_placedFrom ls (l.text.foldl Place.after p)
    rw [placedFrom]
    cases ht : l.token with
    | none => rw [List.filterMap_cons_none ht, ← ih]
    | some t => rw [List.filterMap_cons_some ht, ← ih]; rfl

/-- In front of `rest`, the lexeme is scanned as itself. -/
def Spelled.ScansBefore (d : Dialect) (l : Spelled) (rest : List Char) : Prop :=
  ∃ c cs, l.text = c :: cs ∧ scan d c (cs ++ rest) = .ok ⟨l.text.length, l.token⟩

/-- In front of `rest`, each of the lexemes is scanned as itself. -/
def Spells (d : Dialect) (rest : List Char) : List Spelled → Prop
  | [] => True
  | l :: ls => l.ScansBefore d (spelledText ls ++ rest) ∧ Spells d rest ls

theorem spells_append {d : Dialect} {rest : List Char} {ms : List Spelled}
    (hm : Spells d rest ms) : ∀ {ls : List Spelled}, Spells d (spelledText ms ++ rest) ls →
      Spells d rest (ls ++ ms)
  | [], _ => hm
  | l :: ls, h => by
    have hl : l.ScansBefore d (spelledText (ls ++ ms) ++ rest) := by
      rw [spelledText_append, List.append_assoc]
      exact h.1
    exact ⟨hl, spells_append hm h.2⟩

theorem tokensFrom_spelled {d : Dialect} : ∀ {ls : List Spelled}, Spells d [] ls →
    ∀ (fuel : Nat) (p : Place), (spelledText ls).length ≤ fuel →
      tokensFrom d fuel p (spelledText ls) = .ok (placedFrom p ls)
  | [], _, fuel, p, _ => by cases fuel <;> rfl
  | l :: ls, h, fuel, p, hf => by
    obtain ⟨⟨c, cs, htext, hscan⟩, hls⟩ := h
    rw [List.append_nil] at hscan
    have hcons : spelledText (l :: ls) = c :: (cs ++ spelledText ls) := by
      rw [spelledText_cons, htext, List.cons_append]
    have htake : (c :: (cs ++ spelledText ls)).take l.text.length = l.text := by
      rw [← hcons, spelledText_cons, List.take_left]
    have hdrop : (c :: (cs ++ spelledText ls)).drop l.text.length = spelledText ls := by
      rw [← hcons, spelledText_cons, List.drop_left]
    have hlen : l.text.length + (spelledText ls).length ≤ fuel := by
      rwa [spelledText_cons, List.length_append] at hf
    cases fuel with
    | zero =>
      rw [htext, List.length_cons] at hlen
      omega
    | succ fuel =>
      have hrest : (spelledText ls).length ≤ fuel := by
        rw [htext, List.length_cons] at hlen
        omega
      have ih := tokensFrom_spelled hls fuel (l.text.foldl Place.after p) hrest
      rw [hcons, tokensFrom, hscan]
      dsimp only
      rw [htake, hdrop, ih, placedFrom]
      cases l.token <;> rfl

/-- **The tokens of a text are those of the lexemes it is written in.** -/
theorem tokens_spelled {d : Dialect} {ls : List Spelled} (h : Spells d [] ls) :
    tokens d (spelledText ls) = .ok (placedFrom ⟨1, 1⟩ ls) :=
  tokensFrom_spelled h _ _ (Nat.le_refl _)

/-! ### Quotations -/

/-- A quotation without its closing mark inside ends at the first one, unless that is doubled. -/
theorem quotation?_closed {close : Char} {rest : List Char} (hr : rest.head? ≠ some close) :
    ∀ {body : List Char}, close ∉ body →
      quotation? close (body ++ close :: rest) = some (body, body.length + 1)
  | [], _ => by
    cases rest with
    | nil => simp [quotation?]
    | cons d rest =>
      have hd : d ≠ close := fun h => hr (by rw [h]; rfl)
      simp [quotation?, hd]
  | c :: body, h => by
    rw [List.mem_cons, not_or] at h
    have hc : ¬c = close := fun he => h.1 he.symm
    rw [List.cons_append, quotation?.eq_def]
    dsimp only
    rw [if_neg hc, quotation?_closed hr h.2]
    rfl

/-- A word between square brackets ends at the first closing one. -/
theorem scan_bracketed {body rest : List Char} (hb : ']' ∉ body) (hr : rest.head? ≠ some ']') :
    scan .tsql '[' (body ++ ']' :: rest) =
      .ok ⟨body.length + 2, some (.word (String.ofList body) (some '[') none)⟩ := by
  have hbody : quotation? (closingQuote '[') (body ++ ']' :: rest) = some (body, body.length + 1) :=
    quotation?_closed hr hb
  unfold scan
  rw [hbody]
  rfl

end Sql
end SchemaMap
