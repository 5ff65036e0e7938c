/-
# Which request lists are accepted

A list of requests is gone through once, with the folders seen so far. What is found on the way is
told here by places alone: a request is refused for its blank folder, else for its blank script, else
for a folder that an earlier request has (`Request.RefusedAt`). The list is accepted if it is not
empty and no request of it is refused, and else the failure is that of the first refused one
(`Request.checkAll_first`).

Folders count as equal if their components are, without the slashes at their ends. So a slash too
many and a `.` between two slashes make no other folder (`Request.Respelled`).

Key definitions: `Request.HasText`, `Request.RefusedAt`, `Request.FirstRefused`,
`Request.Respelled`.
Key theorems: `Request.checkFrom_first`, `Request.FirstRefused.unique`,
`Request.forall_not_refused_iff`, `Request.folderKeys_pairwise`, `Request.checkAll_first`.
-/
import SchemaMap.Proofs.Text.Basic
import SchemaMap.Proofs.Text.Lines
import SchemaMap.Request.Basic

namespace SchemaMap
namespace Request

/-! ### Requests that are refused -/

/-- A text with a character that is no white space. -/
def HasText (s : String) : Prop :=
  ∃ c ∈ s.toList, Text.isBlank c = false

theorem isBlankText_eq_false {s : String} : Text.isBlankText s.toList = false ↔ HasText s := by
  simp [Text.isBlankText, HasText]

theorem isBlankText_eq_true {s : String} : Text.isBlankText s.toList = true ↔ ¬HasText s := by
  rw [← isBlankText_eq_false, Bool.not_eq_false]

/-- The failure of a request whose folder an earlier one has. -/
def repetition (first index : Nat) (folder : String) : Fault :=
  .configuration ("requests " ++ toString first ++ " and " ++ toString index
    ++ " both target folder '" ++ folder ++ "'")

/-- The failure for which the request at a place is refused. -/
inductive RefusedAt (rs : List Request) (i : Nat) : Fault → Prop where
  | folder {r : Request} : rs[i]? = some r → ¬HasText r.folder →
      RefusedAt rs i (refusal i "folder is required")
  | script {r : Request} : rs[i]? = some r → HasText r.folder → ¬HasText r.sqlFile →
      RefusedAt rs i (refusal i "sql_file is required")
  | repeated {r q : Request} {j : Nat} : rs[i]? = some r → HasText r.folder → HasText r.sqlFile →
      j < i → rs[j]? = some q → q.folderKey = r.folderKey →
      RefusedAt rs i (repetition j i r.folder)

/-- The request at the place `i` is the first that is refused. -/
structure FirstRefused (rs : List Request) (i : Nat) (fault : Fault) : Prop where
  refused : RefusedAt rs i fault
  first : ∀ j < i, ∀ f, ¬RefusedAt rs j f

variable {rs before more : List Request} {r p q : Request} {i j k : Nat}

theorem RefusedAt.lt_length {fault : Fault} (h : RefusedAt rs i fault) : i < rs.length := by
  cases h with
  | folder hr _ => exact (List.getElem?_eq_some_iff.1 hr).1
  | script hr _ _ => exact (List.getElem?_eq_some_iff.1 hr).1
  | repeated hr _ _ _ _ _ => exact (List.getElem?_eq_some_iff.1 hr).1

/-- A request that is not refused has a folder and a script, and its folder is new. -/
theorem not_refused_iff (hr : rs[i]? = some r) : (∀ f, ¬RefusedAt rs i f) ↔
    HasText r.folder ∧ HasText r.sqlFile ∧
      ∀ j < i, ∀ q, rs[j]? = some q → q.folderKey ≠ r.folderKey := by
  constructor
  · intro h
    have hfolder : HasText r.folder := by
      by_contra hno
      exact h _ (.folder hr hno)
    have hscript : HasText r.sqlFile := by
      by_contra hno
      exact h _ (.script hr hfolder hno)
    exact ⟨hfolder, hscript, fun j hj q hq hkey => h _ (.repeated hr hfolder hscript hj hq hkey)⟩
  · rintro ⟨hfolder, hscript, hnew⟩ f h
    cases h with
    | folder hr' hno =>
      obtain rfl : _ = r := Option.some.inj (hr'.symm.trans hr)
      exact hno hfolder
    | script hr' _ hno =>
      obtain rfl : _ = r := Option.some.inj (hr'.symm.trans hr)
      exact hno hscript
    | repeated hr' _ _ hj hq hkey =>
      obtain rfl : _ = r := Option.some.inj (hr'.symm.trans hr)
      exact hnew _ hj _ hq hkey

/-- In front of the first refused request, no two folders are equal. -/
theorem eq_of_folderKey (hfirst : ∀ l < i, ∀ f, ¬RefusedAt rs l f) (hj : j < i) (hk : k < i)
    (hq : rs[j]? = some q) (hp : rs[k]? = some p) (hkey : q.folderKey = p.folderKey) : j = k := by
  rcases Nat.lt_trichotomy j k with h | h | h
  · exact absurd hkey (((not_refused_iff hp).1 (hfirst k hk)).2.2 j h q hq)
  · exact h
  · exact absurd hkey.symm (((not_refused_iff hq).1 (hfirst j hj)).2.2 k h p hp)

/-- There is one first refused request at most, and one failure for it. -/
theorem FirstRefused.unique {fault fault' : Fault} (h : FirstRefused rs i fault)
    (h' : FirstRefused rs j fault') : i = j ∧ fault = fault' := by
  obtain rfl : i = j := by
    rcases Nat.lt_trichotomy i j with hlt | heq | hlt
    · exact absurd h.refused (h'.first i hlt _)
    · exact heq
    · exact absurd h'.refused (h.first j hlt _)
  refine ⟨rfl, ?_⟩
  obtain ⟨hrefused, hfirst⟩ := h
  have hrefused' := h'.refused
  cases hrefused with
  | folder hr hno =>
    cases hrefused' with
    | folder _ _ => rfl
    | script hr' hyes _ => exact absurd (Option.some.inj (hr.symm.trans hr') ▸ hyes) hno
    | repeated hr' hyes _ _ _ _ => exact absurd (Option.some.inj (hr.symm.trans hr') ▸ hyes) hno
  | script hr hyes hno =>
    cases hrefused' with
    | folder hr' hno' => exact absurd (Option.some.inj (hr.symm.trans hr') ▸ hyes) hno'
    | script _ _ _ => rfl
    | repeated hr' _ hyes' _ _ _ => exact absurd (Option.some.inj (hr.symm.trans hr') ▸ hyes') hno
  | repeated hr hyes hyes₂ hj hq hkey =>
    cases hrefused' with
    | folder hr' hno => exact absurd (Option.some.inj (hr.symm.trans hr') ▸ hyes) hno
    | script hr' _ hno => exact absurd (Option.some.inj (hr.symm.trans hr') ▸ hyes₂) hno
    | repeated hr' _ _ hk hp hkey' =>
      obtain rfl := Option.some.inj (hr.symm.trans hr')
      rw [eq_of_folderKey hfirst hj hk hq hp (hkey.trans hkey'.symm)]

/-! ### The folders seen so far -/

/-- The folders of the requests `before` are noted with their places. -/
def Notes (before : List Request) (seen : List (List Path.Component × Nat)) : Prop :=
  ∀ key j, seen.lookup key = some j ↔ ∃ q, before[j]? = some q ∧ q.folderKey = key

theorem notes_nil : Notes [] [] := by
  intro key j
  simp

/-- A new folder is noted with the place of its request. -/
theorem Notes.concat {seen : List (List Path.Component × Nat)} (h : Notes before seen)
    (hnew : ∀ j < before.length, ∀ q, before[j]? = some q → q.folderKey ≠ r.folderKey) :
    Notes (before ++ [r]) ((r.folderKey, before.length) :: seen) := by
  intro key j
  rw [List.lookup_cons]
  by_cases hkey : key = r.folderKey
  · subst hkey
    rw [beq_self_eq_true]
    constructor
    · rintro hj
      obtain rfl : before.length = j := Option.some.inj hj
      exact ⟨r, List.getElem?_concat_length, rfl⟩
    · rintro ⟨q, hq, hqkey⟩
      rcases Nat.lt_or_ge j before.length with hlt | hge
      · rw [List.getElem?_append_left hlt] at hq
        exact absurd hqkey (hnew j hlt q hq)
      · have hlength := (List.getElem?_eq_some_iff.1 hq).1
        rw [List.length_append, List.length_singleton] at hlength
        have hj : before.length = j := by omega
        rw [hj]
  · have hbeq : (key == r.folderKey) = false := by simpa using hkey
    rw [hbeq]
    constructor
    · intro hj
      obtain ⟨q, hq, hqkey⟩ := (h key j).1 hj
      have hlt := (List.getElem?_eq_some_iff.1 hq).1
      exact ⟨q, by rw [List.getElem?_append_left hlt, hq], hqkey⟩
    · rintro ⟨q, hq, hqkey⟩
      rcases Nat.lt_or_ge j before.length with hlt | hge
      · rw [List.getElem?_append_left hlt] at hq
        exact (h key j).2 ⟨q, hq, hqkey⟩
      · have hlength := (List.getElem?_eq_some_iff.1 hq).1
        rw [List.length_append, List.length_singleton] at hlength
        obtain rfl : j = before.length := by omega
        rw [List.getElem?_concat_length] at hq
        exact absurd ((Option.some.inj hq) ▸ hqkey).symm hkey

/-! ### The whole list -/

/-- What the check does with one request: it ends with the failure for which that is refused, or goes
on with its folder noted. -/
theorem checkFrom_step {seen : List (List Path.Component × Nat)} (hseen : Notes before seen)
    (r : Request) (more : List Request) :
    (∃ fault, RefusedAt (before ++ r :: more) before.length fault ∧
      checkFrom before.length seen (r :: more) = .error fault) ∨
    (∀ f, ¬RefusedAt (before ++ r :: more) before.length f) ∧
      Notes (before ++ [r]) ((r.folderKey, before.length) :: seen) ∧
      checkFrom before.length seen (r :: more) =
        checkFrom (before.length + 1) ((r.folderKey, before.length) :: seen) more := by
  have hr : (before ++ r :: more)[before.length]? = some r := by
    rw [List.getElem?_append_right (Nat.le_refl _), Nat.sub_self]
    rfl
  have hearlier {j : Nat} (hj : j < before.length) :
      (before ++ r :: more)[j]? = before[j]? := List.getElem?_append_left hj
  -- the three tests come in the order of the constructors of `RefusedAt`
  by_cases hfolder : ¬HasText r.folder
  · left
    refine ⟨_, .folder hr hfolder, ?_⟩
    rw [checkFrom, if_pos (isBlankText_eq_true.2 hfolder)]
  rw [Classical.not_not] at hfolder
  have hfolderText := isBlankText_eq_false.2 hfolder
  by_cases hscript : ¬HasText r.sqlFile
  · left
    refine ⟨_, .script hr hfolder hscript, ?_⟩
    rw [checkFrom, hfolderText, if_neg Bool.false_ne_true, if_pos (isBlankText_eq_true.2 hscript)]
  rw [Classical.not_not] at hscript
  have hscriptText := isBlankText_eq_false.2 hscript
  cases hlookup : seen.lookup r.folderKey with
  | some j =>
    obtain ⟨q, hq, hkey⟩ := (hseen r.folderKey j).1 hlookup
    have hj := (List.getElem?_eq_some_iff.1 hq).1
    rw [← hearlier hj] at hq
    left
    refine ⟨_, .repeated hr hfolder hscript hj hq hkey, ?_⟩
    rw [checkFrom, hfolderText, hscriptText, hlookup]
    rfl
  | none =>
    have hnew : ∀ j < before.length, ∀ q, before[j]? = some q → q.folderKey ≠ r.folderKey := by
      intro j _ q hq hkey
      rw [(hseen r.folderKey j).2 ⟨q, hq, hkey⟩] at hlookup
      cases hlookup
    right
    refine ⟨(not_refused_iff hr).2 ⟨hfolder, hscript, fun j hj q hq => ?_⟩, hseen.concat hnew, ?_⟩
    · rw [hearlier hj] at hq
      exact hnew j hj q hq
    · rw [checkFrom, hfolderText, hscriptText, hlookup]
      rfl

/-- **What the check finds.** Behind requests of which none is refused, it ends with the failure of
the first refused one, or well if there is none. -/
theorem checkFrom_first : ∀ (more before : List Request) {seen : List (List Path.Component × Nat)}
    (_ : Notes before seen) (_ : ∀ j < before.length, ∀ f, ¬RefusedAt (before ++ more) j f),
    (checkFrom before.length seen more = .ok () ∧ ∀ j f, ¬RefusedAt (before ++ more) j f) ∨
      ∃ i fault, checkFrom before.length seen more = .error fault ∧
        FirstRefused (before ++ more) i fault
  | [], before, seen, _, hgood => by
    left
    refine ⟨rfl, fun j f h => ?_⟩
    have hj := h.lt_length
    rw [List.append_nil] at hj
    exact hgood j hj f h
  | r :: more, before, seen, hseen, hgood => by
    rcases checkFrom_step hseen r more with ⟨fault, hrefused, hcheck⟩ | ⟨hhere, hnotes, hcheck⟩
    · exact .inr ⟨_, _, hcheck, hrefused, hgood⟩
    · have hlist : (before ++ [r]) ++ more = before ++ r :: more := by simp
      have hlength : (before ++ [r]).length = before.length + 1 := by simp
      have ih := checkFrom_first more (before ++ [r]) hnotes
      rw [hlist, hlength] at ih
      rw [hcheck]
      refine ih fun j hj => ?_
      rcases Nat.lt_succ_iff_lt_or_eq.1 hj with hlt | rfl
      · exact hgood j hlt
      · exact hhere

/-- No request is refused if all have folders and scripts and no two folders are equal. -/
theorem forall_not_refused_iff : (∀ i f, ¬RefusedAt rs i f) ↔
    (∀ r ∈ rs, HasText r.folder ∧ HasText r.sqlFile) ∧
      rs.Pairwise fun q r => q.folderKey ≠ r.folderKey := by
  rw [List.pairwise_iff_getElem]
  constructor
  · intro h
    constructor
    · intro r hr
      obtain ⟨i, hi⟩ := List.mem_iff_getElem?.1 hr
      obtain ⟨hfolder, hscript, -⟩ := (not_refused_iff hi).1 (h i)
      exact ⟨hfolder, hscript⟩
    · intro i j hi hj hij
      have hnew := ((not_refused_iff (List.getElem?_eq_getElem hj)).1 (h j)).2.2
      exact hnew i hij _ (List.getElem?_eq_getElem hi)
  · rintro ⟨htexts, hkeys⟩ i f h
    have hi := h.lt_length
    obtain ⟨hfolder, hscript⟩ := htexts _ (List.getElem_mem hi)
    refine (not_refused_iff (List.getElem?_eq_getElem hi)).2 ⟨hfolder, hscript, ?_⟩ f h
    intro j hj q hq
    obtain ⟨hj', rfl⟩ := List.getElem?_eq_some_iff.1 hq
    exact hkeys j i hj' hi hj

/-! ### Spellings of a folder -/

/-- A folder with a slash too many, with a `.` between two slashes, or with a slash at its end, and
the folder without it. -/
inductive Respelled : List Char → List Char → Prop where
  | slash (a b : List Char) : Respelled (a ++ '/' :: '/' :: b) (a ++ '/' :: b)
  | dot (a b : List Char) : (∃ c ∈ b, c ≠ '/') →
      Respelled (a ++ '/' :: '.' :: '/' :: b) (a ++ '/' :: b)
  | ending (a : List Char) : Respelled (a ++ ['/']) a

/-- A part that does not count can be left out between two slashes. -/
theorem components_skip (part : List Char) (hpart : Path.component? part = none)
    (hslash : '/' ∉ part) (a b : List Char) :
    Path.components (a ++ '/' :: (part ++ '/' :: b)) = Path.components (a ++ '/' :: b) := by
  have habs (x y : List Char) :
      Path.isAbsolute (a ++ '/' :: x) = Path.isAbsolute (a ++ '/' :: y) := by
    cases a <;> rfl
  obtain ⟨first, more, hsplit⟩ := List.exists_cons_of_ne_nil (Text.splitOn_ne_nil '/' a)
  simp only [Path.components, Text.splitOn_append, Text.splitOn_of_notMem hslash, hsplit,
    List.cons_append, List.nil_append, List.filterMap_append, List.filterMap_cons_none hpart,
    habs (part ++ '/' :: b) b]

/-- Only behind its last other character can a text lose slashes. -/
theorem dropEndWhile_slash {b : List Char} (h : ∃ c ∈ b, c ≠ '/') (a : List Char) :
    Text.dropEndWhile (· == '/') (a ++ b) = a ++ Text.dropEndWhile (· == '/') b := by
  obtain ⟨c, hc, hne⟩ := h
  obtain ⟨front, rest, rfl⟩ := List.append_of_mem hc
  have hneg : (c == '/') = false := by simpa using hne
  have hlast := Text.dropEndWhile_append_of_neg (p := (· == '/')) hneg rest
  rw [← List.append_assoc, hlast, hlast, List.append_assoc]

/-- **Two spellings of a folder count as one.** -/
theorem folderKey_of_respelled (h : Respelled q.folder.toList r.folder.toList) :
    q.folderKey = r.folderKey := by
  unfold folderKey
  generalize q.folder.toList = x at h
  generalize r.folder.toList = y at h
  cases h with
  | slash a b =>
    by_cases hb : ∃ c ∈ b, c ≠ '/'
    · have hdouble := dropEndWhile_slash hb (a ++ ['/', '/'])
      have hsingle := dropEndWhile_slash hb (a ++ ['/'])
      rw [List.append_assoc, List.append_assoc] at hdouble hsingle
      have hskip := components_skip [] rfl List.not_mem_nil a (Text.dropEndWhile (· == '/') b)
      calc Path.components (Text.dropEndWhile (· == '/') (a ++ '/' :: '/' :: b))
          = Path.components (a ++ '/' :: '/' :: Text.dropEndWhile (· == '/') b) :=
            congrArg Path.components hdouble
        _ = Path.components (a ++ '/' :: Text.dropEndWhile (· == '/') b) := hskip
        _ = Path.components (Text.dropEndWhile (· == '/') (a ++ '/' :: b)) :=
            (congrArg Path.components hsingle).symm
    · -- slashes to the end are all dropped
      have hall : ∀ c ∈ '/' :: '/' :: b, (c == '/') = true := by
        simpa using hb
      have hmore : ∀ c ∈ '/' :: b, (c == '/') = true := fun c hc =>
        hall c (List.mem_cons_of_mem _ hc)
      rw [Text.dropEndWhile_append_of_pos hall, Text.dropEndWhile_append_of_pos hmore]
  | dot a b hb =>
    have hdotted := dropEndWhile_slash hb (a ++ ['/', '.', '/'])
    have hsingle := dropEndWhile_slash hb (a ++ ['/'])
    rw [List.append_assoc, List.append_assoc] at hdotted hsingle
    have hskip := components_skip ['.'] rfl (by decide) a (Text.dropEndWhile (· == '/') b)
    calc Path.components (Text.dropEndWhile (· == '/') (a ++ '/' :: '.' :: '/' :: b))
        = Path.components (a ++ '/' :: '.' :: '/' :: Text.dropEndWhile (· == '/') b) :=
          congrArg Path.components hdotted
      _ = Path.components (a ++ '/' :: Text.dropEndWhile (· == '/') b) := hskip
      _ = Path.components (Text.dropEndWhile (· == '/') (a ++ '/' :: b)) :=
          (congrArg Path.components hsingle).symm
  | ending a =>
    have hslash : ∀ c ∈ ['/'], (c == '/') = true := by simp
    rw [Text.dropEndWhile_append_of_pos hslash]

/-! ### What is accepted -/

/-- A list that is not empty is accepted, or has a first request that is refused. -/
theorem checkAll_cases (hne : rs ≠ []) :
    (checkAll rs = .ok () ∧ ∀ i f, ¬RefusedAt rs i f) ∨
      ∃ i fault, checkAll rs = .error fault ∧ FirstRefused rs i fault := by
  have hcheck : checkAll rs = checkFrom 0 [] rs := by
    rw [checkAll, List.isEmpty_eq_false_iff.2 hne, if_neg Bool.false_ne_true]
  rw [hcheck]
  exact checkFrom_first rs [] notes_nil fun j hj => absurd hj (Nat.not_lt_zero j)

/-- The folders of accepted requests differ in words. -/
theorem folderKeys_pairwise (h : checkAll rs = .ok ()) :
    rs.Pairwise fun q r => q.folderKey ≠ r.folderKey := by
  by_cases hne : rs = []
  · rw [hne]
    exact .nil
  · rcases checkAll_cases hne with ⟨-, hnone⟩ | ⟨i, fault, herror, -⟩
    · exact (forall_not_refused_iff.1 hnone).2
    · rw [h] at herror
      cases herror

/-- **Which lists of requests are accepted, and what is said of the others.** A list is accepted if
it is not empty, each folder and each script has a character that is no white space, and no two
folders are equal, in whatever spelling. Else the failure is that of the first request that is
refused, and if that is for its folder, just one request before it has that folder. -/
theorem checkAll_first (rs : List Request) :
    (checkAll rs = .ok () ↔ rs ≠ [] ∧ (∀ r ∈ rs, HasText r.folder ∧ HasText r.sqlFile) ∧
      rs.Pairwise fun q r => q.folderKey ≠ r.folderKey) ∧
    (∀ fault, checkAll rs = .error fault ↔
      (rs = [] ∧ fault = .configuration "request list is empty") ∨
        ∃ i, FirstRefused rs i fault) ∧
    (∀ i fault, FirstRefused rs i fault → ∀ j < i, ∀ k < i, ∀ q p : Request,
      rs[j]? = some q → rs[k]? = some p → q.folderKey = p.folderKey → j = k) ∧
    ∀ q r : Request, Respelled q.folder.toList r.folder.toList → q.folderKey = r.folderKey := by
  rw [← forall_not_refused_iff]
  refine ⟨?_, ?_, fun i fault h j hj k hk q p hq hp => eq_of_folderKey h.first hj hk hq hp,
    fun q r => folderKey_of_respelled⟩
  · by_cases hne : rs = []
    · simp [hne, checkAll]
    · rcases checkAll_cases hne with ⟨hok, hnone⟩ | ⟨i, fault, herror, hfirst⟩
      · exact iff_of_true hok ⟨hne, hnone⟩
      · refine iff_of_false (by simp [herror]) fun h => h.2 i fault hfirst.refused
  · intro fault
    by_cases hne : rs = []
    · subst hne
      have hnone : ¬∃ i, FirstRefused [] i fault := by
        rintro ⟨i, hi⟩
        exact absurd hi.refused.lt_length (Nat.not_lt_zero i)
      simp [checkAll, hnone, eq_comm]
    · rcases checkAll_cases hne with ⟨hok, hnone⟩ | ⟨i, fault', herror, hfirst⟩
      · refine iff_of_false (by simp [hok]) ?_
        rintro (⟨hnil, -⟩ | ⟨i, hi⟩)
        · exact hne hnil
        · exact hnone i fault hi.refused
      · rw [herror, Except.error.injEq]
        constructor
        · rintro rfl
          exact .inr ⟨i, hfirst⟩
        · rintro (⟨hnil, -⟩ | ⟨j, hj⟩)
          · exact absurd hnil hne
          · exact (hfirst.unique hj).2

/-- The third request has the folder of the first, in another spelling; that the fourth has no script
is not said. -/
example : checkAll [⟨"a/b", "x.sql", "mysql"⟩, ⟨"c", "x.sql", "mysql"⟩, ⟨"a//./b/", "y.sql", "mysql"⟩,
    ⟨"d", " ", "mysql"⟩] = .error (repetition 0 2 "a//./b/") := by
  decide

end Request
end SchemaMap
