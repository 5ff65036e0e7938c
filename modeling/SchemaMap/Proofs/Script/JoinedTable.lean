/-
# A table put together of the texts of its parts

The name of a table and its column list are cut where no quotation and no parenthesis is open. So
if the name is one word that opens no parenthesis, and the elements of the list are one part each,
then a statement that is put together of them is taken apart into them again, and what is read of
the table is what is read of each part by itself.

Key definitions: `Script.Commentless`, `Script.IsTableName`, `Script.IsElement`.
Key theorems: `Script.IsTableName.tableDeclared?_eq`, `Script.parts_comma_joined`,
`Script.parts_joined`.
-/
import SchemaMap.Proofs.Script.Parts

namespace SchemaMap
namespace Script

open Text (isBlank IsTrimmed forall_mem_of_all)

variable {sep : Char → Bool}

/-! ### A name and a column list -/

/-- A text that holds no comment, wherever it stands. -/
def Commentless (t : List Char) : Prop :=
  ∃ g, Scans t g ∧ ∀ x ∈ g, x.2 ≠ .comment

theorem commentless_nil : Commentless [] :=
  ⟨[], scans_nil, List.forall_mem_nil _⟩

theorem Commentless.append {t u : List Char} (ht : Commentless t) (hu : Commentless u) :
    Commentless (t ++ u) := by
  obtain ⟨g, hg, hgc⟩ := ht
  obtain ⟨k, hk, hkc⟩ := hu
  exact ⟨g ++ k, hg.append hk, List.forall_mem_append.2 ⟨hgc, hkc⟩⟩

theorem Whole.commentless {t : List Char} (h : Whole sep t) : Commentless t := by
  obtain ⟨g, hg, -, hgc⟩ := h
  exact ⟨g, hg, hgc⟩

theorem commentless_code {t : List Char} (h : ∀ c ∈ t, IsCalm c) : Commentless t :=
  ⟨_, scans_code h, by simp [allIn]⟩

theorem Commentless.withoutComments_eq {t : List Char} (h : Commentless t) :
    withoutComments t = t := by
  obtain ⟨g, hg, hgc⟩ := h
  exact hg.withoutComments_eq hgc

/-- A text that is read as the name of a table: it opens no parenthesis in code, holds no comment, and
is one word. -/
structure IsTableName (name : List Char) : Prop where
  flat : Flat name
  commentless : Commentless name
  one : parts isBlank name = [name]
  trimmed : IsTrimmed name

/-- A statement holds no comment if none stands in its head, its name and its column list. -/
theorem IsTableName.statement_commentless {front name gap body : List Char} (h : IsTableName name)
    (hfront : Commentless front) (hgap : ∀ c ∈ gap, isBlank c = true)
    (hbody : Whole (fun _ => false) body) :
    Commentless (front ++ (name ++ gap ++ '(' :: (body ++ [')']))) := by
  have hblanks : Commentless gap := commentless_code fun c hc => isCalm_of_isBlank (hgap c hc)
  have hlist : Whole (fun _ => false) ('(' :: (body ++ [')'])) := hbody.parenthesised
  exact hfront.append ((h.commentless.append hblanks).append hlist.commentless)

/-- **A table is read from its name and its column list**, behind the words of its head and up to
where the list is closed. -/
theorem IsTableName.tableDeclared?_eq {front name gap body : List Char} (h : IsTableName name)
    (hfront : Commentless front) (hgap : ∀ c ∈ gap, isBlank c = true)
    (hhead : tableHead? (front ++ (name ++ gap ++ '(' :: (body ++ [')']))) =
      some (name ++ gap ++ '(' :: (body ++ [')'])))
    (hbody : Whole (fun _ => false) body) :
    tableDeclared? (front ++ (name ++ gap ++ '(' :: (body ++ [')']))) =
      some ⟨(parts (· == '.') name).map fun t => String.ofList (unquoted t),
        (parts (· == ',') body).filterMap columnOf?⟩ := by
  have hblanks : ∀ c ∈ gap, IsCalm c := fun c hc => isCalm_of_isBlank (hgap c hc)
  have hflat : Flat (name ++ gap) := by
    refine h.flat.append ⟨_, scans_code hblanks, List.forall_mem_map.2 fun c hc he => ?_⟩
    exact Text.ne_of_class (by decide) (hgap c hc) (congrArg Prod.fst he)
  have hstatement := (h.statement_commentless hfront hgap hbody).withoutComments_eq
  have htrim : Text.trim (name ++ gap) = name := h.trimmed.trim_before hgap
  unfold tableDeclared?
  rw [hstatement]
  refine Option.bind_eq_some_iff.2 ⟨_, hhead, ?_⟩
  refine Option.bind_eq_some_iff.2 ⟨_, hflat.splitAtOpen?_eq (body ++ [')']), ?_⟩
  refine Option.bind_eq_some_iff.2 ⟨(), if_pos (by rw [htrim, h.one]; rfl), ?_⟩
  refine Option.bind_eq_some_iff.2 ⟨_, hbody.bodyUpToClose?_eq (some '(') [], ?_⟩
  rw [htrim]
  rfl

/-! ### The column list -/

/-- A text that is one element of a column list. -/
structure IsElement (t : List Char) : Prop where
  whole : Whole (· == ',') t
  trimmed : IsTrimmed t

/-- What is one part for some separators is one for none. -/
theorem Whole.withoutSeparators {t : List Char} (h : Whole sep t) : Whole (fun _ => false) t := by
  obtain ⟨g, hg, hgs, hgc⟩ := h
  exact ⟨g, hg, hgs.mono fun _ hnone => absurd hnone Bool.false_ne_true, hgc⟩

theorem joinedColumns_whole {gap : List Char} (hgap : Whole (fun _ => false) (',' :: gap))
    {columns : List (List Char)} (h : ∀ t ∈ columns, Whole (· == ',') t) :
    Whole (fun _ => false) (List.intercalate (',' :: gap) columns) :=
  Text.intercalate_closed whole_nil Whole.append hgap fun t ht => (h t ht).withoutSeparators

theorem parts_comma_joined {columns : List (List Char)} (h : ∀ t ∈ columns, IsElement t) :
    parts (· == ',') (List.intercalate [',', ' '] columns) = columns :=
  parts_intercalate (by decide) (by decide) (by decide) (by decide) (whole_plain (by decide))
    (forall_mem_of_all (by decide)) fun t ht => ⟨(h t ht).whole, (h t ht).trimmed⟩

/-- Texts that are one part each are cut at the separators they are joined by. -/
theorem cutAt_joined {c : Char} (hcalm : IsCalm c) (ho : c ≠ '(') (hc : c ≠ ')')
    (hs : sep c = true) : ∀ {ts : List (List Char)}, ts ≠ [] → (∀ t ∈ ts, OnePart sep t) →
      ∀ p, cutAt sep 0 (mark (.code p) ([c].intercalate ts)) = ts
  | [], hne, _, _ => absurd rfl hne
  | [t], _, h, p => by
    rw [List.intercalate_singleton]
    exact (h t List.mem_cons_self).cutAt_mark p
  | t :: u :: ts, _, h, p => by
    have ih := cutAt_joined hcalm ho hc hs (List.cons_ne_nil u ts)
      (fun v hv => h v (List.mem_cons_of_mem t hv)) (some c)
    rw [List.intercalate_cons_cons, List.append_assoc, List.singleton_append,
      (h t List.mem_cons_self).cutAt_mark_separator hcalm ho hc hs, ih]

/-- The parts of a joined text are the texts without the white space around them. -/
theorem parts_joined {c : Char} (hcalm : IsCalm c) (ho : c ≠ '(') (hc : c ≠ ')')
    (hs : sep c = true) {ts : List (List Char)}
    (h : ∀ t ∈ ts, OnePart sep t ∧ Text.trim t ≠ []) :
    parts sep ([c].intercalate ts) = ts.map Text.trim := by
  by_cases hne : ts = []
  · subst hne
    rfl
  · have hcut := cutAt_joined hcalm ho hc hs hne (fun t ht => (h t ht).1) none
    unfold parts tagged
    rw [hcut, List.filter_eq_self]
    exact List.forall_mem_map.2 fun t ht => by simp [(h t ht).2]

end Script
end SchemaMap
