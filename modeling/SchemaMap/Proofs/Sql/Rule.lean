/-
# What a rule takes

`Takes n r ts rest taken` says that with fuel `n` or more the rule `r` takes the tokens of `ts` up
to `rest`, and which trees it keeps, whatever was kept before. A rule is followed through its
parts by one lemma for each form; where a form tests the tokens ahead, the outcome of the test is
a hypothesis, which on given tokens computes.

Key definitions: `Sql.leaves`, `Sql.Rule.Takes`.
Key theorems: `Sql.Rule.Takes.seq_cons`, `Sql.Rule.Takes.seq_skip`,
`Sql.Rule.Takes.choose_hit`, `Sql.Rule.Takes.choose_miss`, `Sql.Rule.Takes.loop_step`,
`Sql.Rule.Takes.read_eq`.
-/
import SchemaMap.Sql.Rule

namespace SchemaMap
namespace Sql

/-- Tokens that are taken one by one. -/
def leaves (ts : List Placed) : List Tree :=
  ts.map fun t => .leaf t.token

namespace Rule

variable {σ : Type} {g : σ → Rule σ} {depth : Nat} {walk : Bool}

/-- The rule takes the tokens `ts` up to `rest` and keeps `taken`, with any fuel from `n` on. -/
def Takes (g : σ → Rule σ) (depth : Nat) (walk : Bool) (n : Nat) (r : Rule σ)
    (ts rest : List Placed) (taken : List Tree) : Prop :=
  ∀ fuel before, n ≤ fuel →
    run g fuel depth walk r ⟨ts, before⟩ = .ok ⟨rest, taken.reverse ++ before⟩

namespace Takes

variable {n m : Nat} {r a b hit miss body inner other : Rule σ} {ts us vs : List Placed}
  {xs ys : List Tree} {test : Ahead} {k : Nat}

theorem mono (h : Takes g depth walk n r ts us xs) (hnm : n ≤ m) :
    Takes g depth walk m r ts us xs :=
  fun fuel before hf => h fuel before (Nat.le_trans hnm hf)

/-- What holds of every run with one more step of fuel. -/
theorem of_succ
    (h : ∀ fuel before, n ≤ fuel →
      run g (fuel + 1) depth walk r ⟨ts, before⟩ = .ok ⟨us, xs.reverse ++ before⟩) :
    Takes g depth walk (n + 1) r ts us xs := by
  intro fuel before hf
  obtain ⟨fuel, rfl⟩ := Nat.exists_eq_add_of_lt (Nat.lt_of_succ_le hf)
  exact h (n + fuel) before (Nat.le_add_right n fuel)

/-! ### Single forms -/

theorem done : Takes g depth walk 1 .done ts ts [] :=
  of_succ fun _ _ _ => rfl

theorem take {p : Token → Bool} {what : String} {t : Placed} (h : p t.token = true) :
    Takes g depth walk 1 (.take p what) (t :: ts) ts [.leaf t.token] := by
  refine of_succ fun fuel before _ => ?_
  rw [run]
  exact if_pos h

theorem both (ha : Takes g depth walk n a ts us xs) (hb : Takes g depth walk m b us vs ys) :
    Takes g depth walk (max n m + 1) (.both a b) ts vs (xs ++ ys) := by
  refine of_succ fun fuel before hf => ?_
  rw [run, ha fuel before (by omega)]
  dsimp only
  rw [hb fuel _ (by omega), List.reverse_append, List.append_assoc]

theorem look_hit (h : test ts = some k) (hr : Takes g depth walk n hit (ts.drop k) us xs) :
    Takes g depth walk (n + 1) (.look test hit miss) ts us (leaves (ts.take k) ++ xs) := by
  refine of_succ fun fuel before hf => ?_
  rw [run, h]
  dsimp only
  rw [Reading.advance, hr fuel _ hf, List.reverse_append, List.append_assoc]
  rfl

theorem look_miss (h : test ts = none) (hr : Takes g depth walk n miss ts us xs) :
    Takes g depth walk (n + 1) (.look test hit miss) ts us xs := by
  refine of_succ fun fuel before hf => ?_
  rw [run, h]
  exact hr fuel before hf

theorem loop_stop (h : test ts = none) : Takes g depth walk 1 (.loop test body) ts ts [] := by
  refine of_succ fun fuel before _ => ?_
  rw [run, h]
  rfl

theorem loop_step (h : test ts = some k) (hb : Takes g depth walk n body (ts.drop k) us xs)
    (hl : Takes g depth walk m (.loop test body) us vs ys) :
    Takes g depth walk (max n m + 1) (.loop test body) ts vs
      (leaves (ts.take k) ++ (xs ++ ys)) := by
  refine of_succ fun fuel before hf => ?_
  rw [run, h]
  dsimp only
  rw [Reading.advance, hb fuel _ (by omega)]
  dsimp only
  rw [hl fuel _ (by omega), List.reverse_append, List.reverse_append, List.append_assoc,
    List.append_assoc]
  rfl

theorem call {s : σ} (h : Takes g depth walk n (g s) ts us xs) :
    Takes g depth walk (n + 1) (.call s) ts us xs :=
  of_succ fun fuel before hf => h fuel before hf

theorem nested (h : Takes g depth walk n inner ts us xs) :
    Takes g (depth + 1) walk (n + 1) (.nested inner) ts us xs :=
  of_succ fun fuel before hf => h fuel before hf

/-- What the inner rule keeps becomes one tree. -/
theorem node {label : Label} (h : Takes g depth walk n inner ts us xs) :
    Takes g depth walk (n + 1) (.node label inner) ts us [.node label xs] := by
  refine of_succ fun fuel before hf => ?_
  rw [run, h fuel [] hf]
  simp

/-! ### Rules one after another, and choices -/

theorem seq_cons {rs : List (Rule σ)} (ha : Takes g depth walk n a ts us xs)
    (hs : Takes g depth walk m (seq (b :: rs)) us vs ys) :
    Takes g depth walk (max n m + 1) (seq (a :: b :: rs)) ts vs (xs ++ ys) :=
  both ha hs

theorem opt_miss (h : test ts = none) : Takes g depth walk 2 (opt test r) ts ts [] :=
  look_miss h done

/-- A rule that takes no part is passed over. -/
theorem seq_skip {rs : List (Rule σ)} (h : test ts = none)
    (hs : Takes g depth walk m (seq (b :: rs)) ts us xs) :
    Takes g depth walk (max 2 m + 1) (seq (opt test r :: b :: rs)) ts us xs :=
  seq_cons (opt_miss h) hs

/-- Rules of which none takes a token. -/
theorem seq_nothing : ∀ {rs : List (Rule σ)},
    (∀ r ∈ rs, Takes g depth walk n r ts ts []) →
      Takes g depth walk (n + rs.length + 1) (seq rs) ts ts []
  | [], _ => done.mono (by omega)
  | [r], h => (h r List.mem_cons_self).mono (by omega)
  | r :: q :: rs, h => by
    have hrest := seq_nothing fun p hp => h p (List.mem_cons_of_mem r hp)
    exact (seq_cons (h r List.mem_cons_self) hrest).mono (by simp only [List.length_cons]; omega)

theorem choose_miss : ∀ {arms : List (Ahead × Rule σ)}, firstOf ts arms = none →
    Takes g depth walk n other ts us xs →
      Takes g depth walk (n + arms.length) (choose arms other) ts us xs
  | [], _, ho => ho
  | (test, r) :: arms, h, ho => by
    rw [firstOf] at h
    cases ht : test ts with
    | some k => rw [ht] at h; cases h
    | none =>
      rw [ht] at h
      exact look_miss ht (choose_miss h ho)

/-- The first rule whose test passes is gone on with. -/
theorem choose_hit : ∀ {arms : List (Ahead × Rule σ)}, firstOf ts arms = some (k, hit) →
    Takes g depth walk n hit (ts.drop k) us xs →
      Takes g depth walk (n + arms.length) (choose arms other) ts us (leaves (ts.take k) ++ xs)
  | [], h, _ => by cases h
  | (test, r) :: arms, h, hr => by
    rw [firstOf] at h
    cases ht : test ts with
    | some j =>
      rw [ht] at h
      obtain ⟨rfl, rfl⟩ := Prod.mk.inj (Option.some.inj h)
      exact (look_hit ht hr).mono (by simp)
    | none =>
      rw [ht] at h
      exact look_miss ht (choose_hit h hr)

/-- A rule that takes all tokens of a text gives their trees. -/
theorem read_eq (h : Takes g maxDepth false n r ts [] xs) (hn : n ≤ enoughFuel ts.length) :
    read g r ts = .ok xs := by
  unfold read
  rw [h _ [] hn]
  simp

end Takes
end Rule
end Sql
end SchemaMap
