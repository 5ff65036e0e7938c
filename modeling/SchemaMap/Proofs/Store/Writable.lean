/-
# When a file can be written

The folder of a path is entered once in the words of the path and once by its components, and the
one leads where the other does, since the parts that do not count lead nowhere else
(`enters_components`). So a file can be written at a path that ends in a name just where the text in
front of the name leads to a folder and the path itself does not (`placeFor_isOk_iff`), within the
limits for names and paths.

Key definitions: `Store.Enters`, `Store.IsFolder`, `Store.parentOf`, `Store.EndsInName`,
`Store.WithinLimits`.
Key theorems: `Store.enters_components`, `Store.checkFolder_eq_ok_iff`, `Store.targetOf_of_enters`,
`Store.placeFor_isOk_iff`.
-/
import SchemaMap.Proofs.Store.Path

namespace SchemaMap
namespace Store

/-! ### Entering folders -/

/-- Parts that can be followed from a folder to a folder. -/
def Enters (s : Store) (l : Location) (parts : List (List Char)) (k : Location) : Prop :=
  s.follow l parts = .ok k ∧ s.get? k = some .folder

section Enters

variable {s : Store} {l k : Location} {part : List Char} {parts : List (List Char)}

theorem enters_nil : s.Enters l [] k ↔ k = l ∧ s.get? l = some .folder := by
  constructor
  · rintro ⟨hk, hfolder⟩
    obtain rfl : l = k := Except.ok.inj hk
    exact ⟨rfl, hfolder⟩
  · rintro ⟨rfl, hfolder⟩
    exact ⟨rfl, hfolder⟩

theorem follow_cons_eq_ok : s.follow l (part :: parts) = .ok k ↔
    s.get? l = some .folder ∧ byteLength part ≤ nameLimit ∧ s.follow (into l part) parts = .ok k := by
  rw [follow, ← requireFolder_eq_ok, ← Nat.not_lt]
  rcases s.requireFolder l with e | ⟨⟨⟩⟩
  · simp
  · by_cases hlong : nameLimit < byteLength part
    · simp [hlong]
    · simp [hlong]

theorem enters_cons : s.Enters l (part :: parts) k ↔
    s.get? l = some .folder ∧ byteLength part ≤ nameLimit ∧ s.Enters (into l part) parts k := by
  simp only [Enters, follow_cons_eq_ok, and_assoc]

/-- Where parts are followed from to a folder, a folder is. -/
theorem Enters.folder (h : s.Enters l parts k) : s.get? l = some .folder := by
  cases parts with
  | nil => exact (enters_nil.1 h).2
  | cons part parts => exact (enters_cons.1 h).1

/-- An empty part and a point lead nowhere else. -/
theorem enters_skip (hpart : Path.component? part = none) :
    s.Enters l (part :: parts) k ↔ s.Enters l parts k := by
  have hshort : byteLength part ≤ nameLimit := by
    rcases skipped_of_component? hpart with rfl | rfl <;> decide
  rw [enters_cons, into_of_component? hpart]
  constructor
  · exact fun h => h.2.2
  · exact fun h => ⟨h.folder, hshort, h⟩

/-- An empty part at the end leads nowhere else. -/
theorem enters_concat_nil : ∀ {parts : List (List Char)} {l : Location},
    s.Enters l (parts ++ [[]]) k ↔ s.Enters l parts k
  | [], l => enters_skip rfl
  | part :: parts, l => by
    rw [List.cons_append, enters_cons, enters_cons, enters_concat_nil]

/-- The last of some parts is followed from a folder, which need not hold anything of that name. -/
theorem follow_concat_eq_ok {name : List Char} : ∀ {parts : List (List Char)} {l k : Location},
    s.follow l (parts ++ [name]) = .ok k ↔
      ∃ folder, s.Enters l parts folder ∧ byteLength name ≤ nameLimit ∧ k = into folder name
  | [], l, k => by
    rw [List.nil_append, follow_cons_eq_ok, follow, Except.ok.injEq]
    constructor
    · rintro ⟨hfolder, hshort, rfl⟩
      exact ⟨l, enters_nil.2 ⟨rfl, hfolder⟩, hshort, rfl⟩
    · rintro ⟨folder, hentered, hshort, rfl⟩
      obtain ⟨rfl, hfolder⟩ := enters_nil.1 hentered
      exact ⟨hfolder, hshort, rfl⟩
  | part :: parts, l, k => by
    rw [List.cons_append, follow_cons_eq_ok, follow_concat_eq_ok]
    constructor
    · rintro ⟨hfolder, hpart, folder, hentered, hshort, rfl⟩
      exact ⟨folder, enters_cons.2 ⟨hfolder, hpart, hentered⟩, hshort, rfl⟩
    · rintro ⟨folder, hentered, hshort, rfl⟩
      obtain ⟨hfolder, hpart, hmore⟩ := enters_cons.1 hentered
      exact ⟨hfolder, hpart, folder, hmore, hshort, rfl⟩

/-- Parts and those of them that count lead to the same folder. -/
theorem enters_filterMap : ∀ {parts : List (List Char)} {l : Location},
    s.Enters l ((parts.filterMap Path.component?).map partOf) k ↔ s.Enters l parts k
  | [], _ => Iff.rfl
  | part :: parts, l => by
    cases hpart : Path.component? part with
    | none => rw [List.filterMap_cons_none hpart, enters_filterMap, enters_skip hpart]
    | some c =>
      rw [List.filterMap_cons_some hpart, List.map_cons, partOf_of_component? hpart, enters_cons,
        enters_cons, enters_filterMap]

end Enters

/-! ### The name that a path ends in -/

/-- What stands behind the last slash of a path. -/
def lastPart (cs : List Char) : List Char :=
  (Text.splitOn '/' cs).getLastD []

/-- A path that ends in the name of a file. -/
def EndsInName (cs : List Char) : Prop :=
  lastPart cs ∉ [[], ['.'], ['.', '.']]

instance (cs : List Char) : Decidable (EndsInName cs) :=
  inferInstanceAs (Decidable (lastPart cs ∉ [[], ['.'], ['.', '.']]))

/-- The text of the folder of a path: what stands up to its last slash, or a point if it has none. -/
def parentOf (cs : List Char) : List Char :=
  let front := Text.dropEndWhile (· != '/') cs
  if front = [] then ['.'] else front

/-- The parts of a path in front of the last. -/
def frontParts (cs : List Char) : List (List Char) :=
  (Text.splitOn '/' cs).dropLast

theorem splitOn_eq_frontParts (cs : List Char) :
    Text.splitOn '/' cs = frontParts cs ++ [lastPart cs] :=
  Text.splitOn_eq_concat '/' cs

/-- A path is a bare name, or a folder, a slash and a name. -/
theorem parentOf_cases (cs : List Char) :
    ('/' ∉ cs ∧ parentOf cs = ['.'] ∧ frontParts cs = [] ∧ lastPart cs = cs) ∨
      ∃ folder, cs = folder ++ '/' :: lastPart cs ∧ parentOf cs = folder ++ ['/'] ∧
        frontParts cs = Text.splitOn '/' folder := by
  obtain ⟨name, hcs, hname⟩ := Text.exists_append_dropEndWhile (· != '/') cs
  have hno : '/' ∉ name := fun hmem => absurd (hname _ hmem) (by decide)
  rcases List.eq_nil_or_concat (Text.dropEndWhile (· != '/') cs) with hnil | ⟨folder, d, hfolder⟩
  · rw [hnil, List.nil_append] at hcs
    subst hcs
    have hsplit := Text.splitOn_of_notMem hno
    refine .inl ⟨hno, ?_, ?_, ?_⟩
    · rw [parentOf, hnil]
      rfl
    · rw [frontParts, hsplit, List.dropLast_singleton]
    · rw [lastPart, hsplit]
      rfl
  · rw [List.concat_eq_append] at hfolder
    have hd : d = '/' := by simpa using Text.neg_of_dropEndWhile_eq_concat hfolder
    rw [hfolder, hd, List.append_assoc, List.singleton_append] at hcs
    have hsplit : Text.splitOn '/' cs = Text.splitOn '/' folder ++ [name] := by
      rw [hcs, Text.splitOn_append, Text.splitOn_of_notMem hno]
    have hlast : lastPart cs = name := by
      rw [lastPart, hsplit, List.getLastD_concat]
    refine .inr ⟨folder, by rw [hlast, ← hcs], ?_, ?_⟩
    · rw [parentOf, hfolder, hd]
      simp
    · rw [frontParts, hsplit, List.dropLast_concat]

section Name

variable {cs : List Char}

theorem EndsInName.ne_nil (h : EndsInName cs) : cs ≠ [] := by
  rintro rfl
  exact h List.mem_cons_self

/-- Nothing is cut off at the end of such a path. -/
theorem EndsInName.dropEndWhile_eq (h : EndsInName cs) : Text.dropEndWhile (· == '/') cs = cs := by
  obtain ⟨gap, hcs, hgap⟩ := Text.exists_append_dropEndWhile (· == '/') cs
  rcases List.eq_nil_or_concat gap with rfl | ⟨more, c, rfl⟩
  · rw [List.append_nil] at hcs
    exact hcs.symm
  · -- a slash at the end leaves nothing behind it
    obtain rfl : c = '/' := by simpa using hgap c (by simp)
    rw [List.concat_eq_append, ← List.append_assoc] at hcs
    have hlast : lastPart cs = [] := by
      rw [lastPart, hcs, Text.splitOn_append]
      exact List.getLastD_concat ..
    exact absurd (hlast ▸ List.mem_cons_self) h

theorem EndsInName.into_lastPart (h : EndsInName cs) (l : Location) :
    into l (lastPart cs) = l ++ [lastPart cs] :=
  into_of_notMem h l

theorem EndsInName.component? (h : EndsInName cs) :
    Path.component? (lastPart cs) = some (.normal (lastPart cs)) :=
  component?_of_notMem h

end Name

/-! ### The folder of a path by its components -/

/-- The text of the folder of a path by its components. -/
def folderText (cs : List Char) : List Char :=
  List.intercalate ['/'] (((Path.components cs).dropLast).map partOf)

/-- The components of a path lead to its folder, as the parts in front of its name do. -/
theorem enters_components {s : Store} {l k : Location} {cs : List Char} (hname : EndsInName cs) :
    s.Enters l (((Path.components cs).dropLast).map partOf) k ↔
      s.Enters l (frontParts cs) k := by
  have hsplit := splitOn_eq_frontParts cs
  have hlast := hname.component?
  cases hfront : frontParts cs with
  | nil =>
    -- a bare name is its only component
    rw [hfront, List.nil_append] at hsplit
    rcases components_cases hsplit with ⟨-, hmore, -⟩ | ⟨hdot, -⟩ | hall
    · exact absurd rfl hmore
    · rw [hdot] at hlast
      cases hlast
    · rw [hall, List.filterMap_cons_some hlast]
      rfl
  | cons first mid =>
    rw [hfront, List.cons_append] at hsplit
    have hmid : (mid ++ [lastPart cs]).filterMap Path.component? =
        mid.filterMap Path.component? ++ [.normal (lastPart cs)] := by
      rw [List.filterMap_append, List.filterMap_cons_some hlast, List.filterMap_nil]
    rcases components_cases hsplit with ⟨rfl, -, hall⟩ | ⟨rfl, hall⟩ | hall
    · rw [hall, hmid, ← List.cons_append, List.dropLast_concat, List.map_cons, partOf,
        enters_skip rfl, enters_skip rfl, enters_filterMap]
    · rw [hall, hmid, ← List.cons_append, List.dropLast_concat, List.map_cons, partOf,
        enters_skip rfl, enters_skip rfl, enters_filterMap]
    · rw [hall, ← List.cons_append, List.filterMap_append, List.filterMap_cons_some hlast,
        List.filterMap_nil, List.dropLast_concat, enters_filterMap]

/-- A component stands for a part of the path, or for a point in front of it. -/
theorem partOf_of_mem_components {cs : List Char} {c : Path.Component}
    (h : c ∈ Path.components cs) : partOf c = ['.'] ∨ partOf c ∈ Text.splitOn '/' cs := by
  obtain ⟨first, more, hsplit⟩ := List.exists_cons_of_ne_nil (Text.splitOn_ne_nil '/' cs)
  have hpart {parts : List (List Char)} (hsub : parts ⊆ first :: more)
      (hc : c ∈ parts.filterMap Path.component?) : partOf c ∈ Text.splitOn '/' cs := by
    obtain ⟨part, hmem, hcomponent⟩ := List.mem_filterMap.1 hc
    rw [hsplit, partOf_of_component? hcomponent]
    exact hsub hmem
  rcases components_cases hsplit with ⟨-, -, hall⟩ | ⟨-, hall⟩ | hall <;> rw [hall] at h
  · rcases List.mem_cons.1 h with rfl | h
    · exact .inl rfl
    · exact .inr (hpart (List.subset_cons_self _ _) h)
  · rcases List.mem_cons.1 h with rfl | h
    · exact .inl rfl
    · exact .inr (hpart (List.subset_cons_self _ _) h)
  · exact .inr (hpart (List.Subset.refl _) h)

/-- A character of the text is one of the path, or one that such texts are put together with. -/
theorem notMem_folderText {c : Char} {cs : List Char} (hslash : c ≠ '/') (hdot : c ≠ '.')
    (h : c ∉ cs) : c ∉ folderText cs := by
  refine Text.intercalate_closed (P := (c ∉ ·)) List.not_mem_nil ?_ (by simpa using hslash) ?_
  · exact fun ha hb hmem => (List.mem_append.1 hmem).elim ha hb
  · intro part hpart
    obtain ⟨comp, hcomp, rfl⟩ := List.mem_map.1 hpart
    rcases partOf_of_mem_components ((List.dropLast_sublist _).subset hcomp) with hpoint | hmem
    · rw [hpoint]
      simpa using hdot
    · exact fun hc => h (Text.subset_of_mem_splitOn hmem hc)

/-! ### Folders, and files in their places -/

theorem byteLength_append (a b : List Char) :
    byteLength (a ++ b) = byteLength a + byteLength b := by
  have hsum : ∀ cs : List Char, byteLength cs = (cs.map Char.utf8Size).sum := by
    intro cs
    rw [byteLength, List.sum_eq_foldl, List.foldl_map]
  rw [hsum, hsum, hsum, List.map_append, List.sum_append]

/-- A path that leads to a folder. -/
def IsFolder (s : Store) (cs : List Char) : Prop :=
  ∃ k, s.locate cs = .ok k ∧ s.get? k = some .folder

instance (s : Store) (cs : List Char) : Decidable (s.IsFolder cs) :=
  decidable_of_iff ((s.locate cs).toOption.bind s.get? = some .folder) (by
    rw [IsFolder]
    cases s.locate cs <;> simp [Except.toOption])

/-- Texts and names that a system takes, for the path and for the file that is made beside it. -/
def WithinLimits (cs : List Char) : Prop :=
  '\x00' ∉ cs ∧ byteLength cs ≤ pathLimit ∧ byteLength (folderText cs) + asideLength ≤ pathLimit ∧
    byteLength (lastPart cs) ≤ nameLimit

instance (cs : List Char) : Decidable (WithinLimits cs) :=
  inferInstanceAs (Decidable ('\x00' ∉ cs ∧ byteLength cs ≤ pathLimit ∧
    byteLength (folderText cs) + asideLength ≤ pathLimit ∧ byteLength (lastPart cs) ≤ nameLimit))

section Place

variable {s : Store} {cs : List Char}

theorem locate_eq_ok_iff {l : Location} : s.locate cs = .ok l ↔
    '\x00' ∉ cs ∧ cs ≠ [] ∧ byteLength cs ≤ pathLimit ∧
      s.follow (startOf s.home cs) (Text.splitOn '/' cs) = .ok l := by
  unfold locate
  split_ifs with hzero hnil hlong
  · simp [List.contains_iff_mem.1 hzero]
  · simp [hnil]
  · simp [Nat.not_le.2 hlong]
  · have hno : '\x00' ∉ cs := fun h => hzero (List.contains_iff_mem.2 h)
    simp [hno, hnil, Nat.le_of_not_lt hlong]

theorem isFolder_iff : s.IsFolder cs ↔ '\x00' ∉ cs ∧ cs ≠ [] ∧ byteLength cs ≤ pathLimit ∧
    ∃ k, s.Enters (startOf s.home cs) (Text.splitOn '/' cs) k := by
  simp only [IsFolder, Enters, locate_eq_ok_iff]
  constructor
  · rintro ⟨k, ⟨hzero, hnil, hshort, hfollow⟩, hfolder⟩
    exact ⟨hzero, hnil, hshort, k, hfollow, hfolder⟩
  · rintro ⟨hzero, hnil, hshort, k, hfollow, hfolder⟩
    exact ⟨k, ⟨hzero, hnil, hshort, hfollow⟩, hfolder⟩

theorem startOf_append (home : Location) (folder rest : List Char) :
    startOf home (folder ++ '/' :: rest) = startOf home (folder ++ ['/']) := by
  cases folder <;> rfl

/-- The text in front of the name of a path leads to a folder if and only if its parts do. -/
theorem isFolder_parentOf_iff (hzero : '\x00' ∉ cs) (hshort : byteLength cs ≤ pathLimit) :
    s.IsFolder (parentOf cs) ↔ ∃ k, s.Enters (startOf s.home cs) (frontParts cs) k := by
  rw [isFolder_iff]
  rcases parentOf_cases cs with ⟨hbare, hparent, hfront, -⟩ | ⟨folder, hcs, hparent, hfront⟩
  · have hrelative : Path.isAbsolute cs = false := isAbsolute_of_notMem hbare
    have hstart : startOf s.home cs = s.home := by simp [startOf, hrelative]
    have hpoint : startOf s.home ['.'] = s.home := rfl
    have hsplit : Text.splitOn '/' ['.'] = [['.']] := rfl
    have hskip : ∀ k, s.Enters s.home [['.']] k ↔ s.Enters s.home [] k := fun k => enters_skip rfl
    have hlimit : byteLength ['.'] ≤ pathLimit := by decide
    rw [hparent, hfront, hstart, hpoint, hsplit]
    simp [hskip, hlimit]
  · -- the empty part behind the slash is a folder where the parts before it are
    have hsplit : Text.splitOn '/' (folder ++ ['/']) = Text.splitOn '/' folder ++ [[]] :=
      Text.splitOn_append '/' [] folder
    have hmem : '\x00' ∉ folder ++ ['/'] := by
      rw [hcs] at hzero
      simp only [List.mem_append, List.mem_cons, List.not_mem_nil, not_or] at hzero ⊢
      exact ⟨hzero.1, hzero.2.1, not_false⟩
    have hlimit : byteLength (folder ++ ['/']) ≤ pathLimit := by
      rw [hcs, List.append_cons, byteLength_append] at hshort
      omega
    have hstart : startOf s.home (folder ++ ['/']) = startOf s.home cs := calc
      startOf s.home (folder ++ ['/']) = startOf s.home (folder ++ '/' :: lastPart cs) :=
        (startOf_append s.home folder (lastPart cs)).symm
      _ = startOf s.home cs := congrArg (startOf s.home) hcs.symm
    rw [hparent, hfront, hsplit, hstart]
    simp only [enters_concat_nil, hmem, hlimit, List.append_ne_nil_of_right_ne_nil _
      (List.cons_ne_nil _ _), not_false_iff, ne_eq, true_and]

theorem checkFolder_eq_ok_iff (hname : EndsInName cs) : s.checkFolder cs = .ok () ↔
    '\x00' ∉ folderText cs ∧ byteLength (folderText cs) + asideLength ≤ pathLimit ∧
      ∃ k, s.Enters (startOf s.home cs) (frontParts cs) k := by
  simp only [← enters_components hname]
  rw [checkFolder, folderText]
  set parts := ((Path.components cs).dropLast).map partOf
  by_cases hzero : '\x00' ∈ List.intercalate ['/'] parts
  · simp [hzero]
  by_cases hlong : pathLimit < byteLength (List.intercalate ['/'] parts) + asideLength
  · simp [hzero, hlong, Nat.not_le.2 hlong]
  cases hfollow : s.follow (startOf s.home cs) parts with
  | error e => simp [hzero, hlong, Enters, hfollow]
  | ok k => simp [hzero, hlong, Nat.le_of_not_lt hlong, Enters, hfollow, requireFolder_eq_ok]

/-- Where the folder of a path is, the path leads into it. -/
theorem locate_of_enters {folder : Location} (hname : EndsInName cs) (hzero : '\x00' ∉ cs)
    (hshort : byteLength cs ≤ pathLimit) (hlength : byteLength (lastPart cs) ≤ nameLimit)
    (hfolder : s.Enters (startOf s.home cs) (frontParts cs) folder) :
    s.locate cs = .ok (folder ++ [lastPart cs]) := by
  rw [locate_eq_ok_iff, splitOn_eq_frontParts, follow_concat_eq_ok]
  exact ⟨hzero, hname.ne_nil, hshort, folder, hfolder, hlength, (hname.into_lastPart folder).symm⟩

/-- The place of a file whose folder can be entered. -/
theorem targetOf_of_enters {folder : Location} (hname : EndsInName cs)
    (hfolder : s.Enters (startOf s.home cs) (frontParts cs) folder) :
    s.targetOf cs =
      if '\x00' ∈ cs then .error .invalidArgument
      else if pathLimit < byteLength cs then .error .nameTooLong
      else if nameLimit < byteLength (lastPart cs) then .error .nameTooLong
      else if s.get? (folder ++ [lastPart cs]) = some .folder then .error .isADirectory
      else .ok (folder ++ [lastPart cs]) := by
  have hlast : ¬(lastPart cs = [] ∨ lastPart cs = ['.'] ∨ lastPart cs = ['.', '.']) := by
    simpa [EndsInName] using hname
  rw [targetOf, hname.dropEndWhile_eq, ← lastPart, ← frontParts]
  simp only [List.contains_iff_mem, hname.ne_nil, hfolder.1, requireFolder_eq_ok.2 hfolder.2, hlast,
    hname.into_lastPart, if_false, ne_eq, not_true_eq_false]
  rcases s.get? (folder ++ [lastPart cs]) with _ | _ | _ | _ <;> simp

/-- **When a file can be written** at a path that ends in a name: where the text in front of the
name leads to a folder and the path does not, within the limits for names and paths. -/
theorem placeFor_isOk_iff {path : String} (hname : EndsInName path.toList) :
    (∃ l, s.placeFor path = .ok l) ↔ WithinLimits path.toList ∧
      s.IsFolder (parentOf path.toList) ∧ ¬s.IsFolder path.toList := by
  simp only [placeFor]
  set cs := path.toList
  constructor
  · rintro ⟨l, h⟩
    split at h
    · cases h
    · rename_i hcheck
      obtain ⟨-, haside, folder, hfolder⟩ := (checkFolder_eq_ok_iff hname).1 hcheck
      rw [targetOf_of_enters hname hfolder] at h
      split_ifs at h with hzero hlong hlength hitem
      have hshort := Nat.le_of_not_lt hlong
      have hfits := Nat.le_of_not_lt hlength
      refine ⟨⟨hzero, hshort, haside, hfits⟩,
        (isFolder_parentOf_iff hzero hshort).2 ⟨folder, hfolder⟩, ?_⟩
      rintro ⟨k, hk, hget⟩
      rw [locate_of_enters hname hzero hshort hfits hfolder] at hk
      obtain rfl := Except.ok.inj hk
      exact hitem hget
  · rintro ⟨⟨hzero, hshort, haside, hfits⟩, hparent, hno⟩
    obtain ⟨folder, hfolder⟩ := (isFolder_parentOf_iff hzero hshort).1 hparent
    have hplace := locate_of_enters hname hzero hshort hfits hfolder
    have hcheck := (checkFolder_eq_ok_iff hname).2
      ⟨notMem_folderText (by decide) (by decide) hzero, haside, folder, hfolder⟩
    rw [hcheck]
    simp only [targetOf_of_enters hname hfolder]
    rw [if_neg hzero, if_neg (Nat.not_lt.2 hshort), if_neg (Nat.not_lt.2 hfits),
      if_neg fun hget => hno ⟨_, hplace, hget⟩]
    exact ⟨_, rfl⟩

end Place

end Store
end SchemaMap
