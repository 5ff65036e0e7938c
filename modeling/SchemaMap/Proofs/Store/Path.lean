/-
# Where a path leads

Where a path leads follows from its text alone, since each part leads into a folder or out of
one (`walk`). Whether it can be followed depends on the store, but on no more of it than the
locations on the way (`trail`): two stores that agree there read the same at a path
(`readText_congr`) and take a file at it in the same way (`placeFor_congr`).

A file is written where its path leads, and never in place of a folder (`placeFor_eq_ok`). So
after a write every path that could be followed can still be followed (`locate_put`), and the new
text is read at its path (`readText_put`).

Key definitions: `Store.walk`, `Store.trail`, `Store.placeOf`, `Store.trailOf`.
Key theorems: `Store.readText_congr`, `Store.placeFor_congr`, `Store.placeFor_eq_ok`,
`Store.locate_put`, `Store.readText_put`.
-/
import Mathlib.Tactic.Set
import Mathlib.Tactic.SplitIfs
import SchemaMap.Proofs.Store.Basic
import SchemaMap.Proofs.Text.Basic
import SchemaMap.Proofs.Text.Lines

namespace SchemaMap
namespace Store

/-! ### Following parts -/

/-- Where parts lead from a folder, if they can be followed. -/
def walk (l : Location) (parts : List (List Char)) : Location :=
  parts.foldl into l

/-- The locations on the way of parts from a folder, with both ends. -/
def trail (l : Location) : List (List Char) → List Location
  | [] => [l]
  | part :: more => l :: trail (into l part) more

theorem mem_trail_self (l : Location) : ∀ parts : List (List Char), l ∈ trail l parts
  | [] => List.mem_singleton.2 rfl
  | _ :: _ => List.mem_cons_self

theorem walk_mem_trail : ∀ (l : Location) (parts : List (List Char)),
    walk l parts ∈ trail l parts
  | _, [] => List.mem_singleton.2 rfl
  | l, part :: more => List.mem_cons_of_mem l (walk_mem_trail (into l part) more)

theorem trail_append_subset (more : List (List Char)) : ∀ (l : Location)
    (parts : List (List Char)), trail l parts ⊆ trail l (parts ++ more)
  | l, [] => by
    intro k hk
    rw [List.mem_singleton.1 hk]
    exact mem_trail_self l _
  | l, part :: parts => by
    have ih := trail_append_subset more (into l part) parts
    exact List.cons_subset_cons l ih

theorem walk_concat (l : Location) (parts : List (List Char)) (last : List Char) :
    walk l (parts ++ [last]) = into (walk l parts) last := by
  simp [walk]

theorem requireFolder_eq_ok {s : Store} {l : Location} :
    s.requireFolder l = .ok () ↔ s.get? l = some .folder := by
  unfold requireFolder
  rcases s.get? l with _ | _ | _ | _ <;> simp

theorem requireFolder_congr {s s' : Store} {l : Location} (h : s'.get? l = s.get? l) :
    s'.requireFolder l = s.requireFolder l := by
  unfold requireFolder
  rw [h]

theorem follow_eq_ok {s : Store} : ∀ {parts : List (List Char)} {l k : Location},
    s.follow l parts = .ok k → k = walk l parts
  | [], l, k, h => by
    simpa [follow, walk, eq_comm] using h
  | part :: more, l, k, h => by
    rw [follow] at h
    split at h
    · cases h
    · split at h
      · cases h
      · have ih := follow_eq_ok h
        simpa [walk] using ih

theorem follow_concat (s : Store) (last : List Char) : ∀ (parts : List (List Char))
    (l : Location) {k : Location}, s.follow l parts = .ok k → s.requireFolder k = .ok () →
    byteLength last ≤ nameLimit → s.follow l (parts ++ [last]) = .ok (into k last)
  | [], l, k, hk, hfolder, hlength => by
    obtain rfl : l = k := by simpa [follow] using hk
    have hshort : ¬nameLimit < byteLength last := by omega
    simp [follow, hfolder, hshort]
  | part :: more, l, k, hk, hfolder, hlength => by
    rw [follow] at hk
    split at hk
    · cases hk
    · rename_i hstart
      split at hk
      · cases hk
      · rename_i hpart
        have ih := follow_concat s last more (into l part) hk hfolder hlength
        simp [follow, hstart, hpart, ih]

/-- What following parts gives depends on the locations on the way alone. -/
theorem follow_congr {s s' : Store} : ∀ {parts : List (List Char)} {l : Location},
    (∀ k ∈ trail l parts, s'.get? k = s.get? k) → s'.follow l parts = s.follow l parts
  | [], _, _ => rfl
  | part :: more, l, h => by
    have hl := requireFolder_congr (h l (mem_trail_self l _))
    have ih := follow_congr (l := into l part) fun k hk => h k (List.mem_cons_of_mem l hk)
    rw [follow, follow, hl, ih]

/-- Where all folders are still in their places, the same parts can be followed. -/
theorem follow_of_folders {s s' : Store}
    (h : ∀ k, s.get? k = some .folder → s'.get? k = some .folder) :
    ∀ {parts : List (List Char)} {l k : Location},
      s.follow l parts = .ok k → s'.follow l parts = .ok k
  | [], _, _, hk => hk
  | part :: more, l, k, hk => by
    rw [follow] at hk ⊢
    split at hk
    · cases hk
    · rename_i hstart
      rw [requireFolder_eq_ok.2 (h l (requireFolder_eq_ok.1 hstart))]
      split at hk
      · cases hk
      · rename_i hpart
        rw [if_neg hpart]
        exact follow_of_folders h hk

/-! ### Paths -/

/-- Where a path leads, if it can be followed. -/
def placeOf (home : Location) (path : String) : Location :=
  walk (startOf home path.toList) (Text.splitOn '/' path.toList)

/-- The locations on the way of a path. -/
def trailOf (home : Location) (path : String) : List Location :=
  trail (startOf home path.toList) (Text.splitOn '/' path.toList)

theorem placeOf_mem_trailOf (home : Location) (path : String) :
    placeOf home path ∈ trailOf home path :=
  walk_mem_trail _ _

theorem locate_eq_ok {s : Store} {path : String} {l : Location}
    (h : s.locate path.toList = .ok l) : l = placeOf s.home path := by
  unfold locate at h
  split at h
  · cases h
  · split at h
    · cases h
    · split at h
      · cases h
      · exact follow_eq_ok h

theorem locate_congr {s s' : Store} {path : String} (h : AgreeOn (trailOf s.home path) s s') :
    s'.locate path.toList = s.locate path.toList := by
  unfold locate
  rw [h.home, follow_congr h.get?]

theorem locate_of_folders {s s' : Store} (hhome : s'.home = s.home)
    (h : ∀ k, s.get? k = some .folder → s'.get? k = some .folder) {path : String}
    {l : Location} (hl : s.locate path.toList = .ok l) : s'.locate path.toList = .ok l := by
  unfold locate at hl ⊢
  split_ifs at hl ⊢ with h1 h2 h3
  rw [hhome]
  exact follow_of_folders h hl

/-- A file put where no folder is leaves every path that could be followed. -/
theorem locate_put {s : Store} {l : Location} (hl : s.get? l ≠ some .folder) (x : Item)
    {path : String} {k : Location} (hk : s.locate path.toList = .ok k) :
    (s.put l x).locate path.toList = .ok k :=
  locate_of_folders (put_home s l x) (fun _ h => get?_put_folder hl x h) hk

/-- What is read at a path depends on the locations on its way alone. -/
theorem readText_congr {s s' : Store} {path : String}
    (h : AgreeOn (trailOf s.home path) s s') : s'.readText path = s.readText path := by
  unfold readText
  rw [locate_congr h]
  rcases hl : s.locate path.toList with e | l
  · rfl
  · have hmem : l ∈ trailOf s.home path := by
      rw [locate_eq_ok hl]
      exact placeOf_mem_trailOf _ _
    simp only [h.get? l hmem]

theorem readText_of_locate {s : Store} {path : String} {l : Location} {contents : String}
    (hl : s.locate path.toList = .ok l) (hg : s.get? l = some (.text contents)) :
    s.readText path = .ok contents := by
  simp [readText, hl, hg]

/-! ### The folder of a path -/

theorem into_dot (l : Location) : into l ['.'] = l := by
  simp [into]

theorem partOf_of_component? {part : List Char} {c : Path.Component}
    (h : Path.component? part = some c) : partOf c = part := by
  unfold Path.component? at h
  split_ifs at h with hskip hup
  · obtain rfl := Option.some.inj h
    exact hup.symm
  · obtain rfl := Option.some.inj h
    rfl

theorem skipped_of_component? {part : List Char} (h : Path.component? part = none) :
    part = [] ∨ part = ['.'] := by
  unfold Path.component? at h
  split_ifs at h with hskip hup
  exact hskip

theorem into_of_component? {part : List Char} (h : Path.component? part = none) (l : Location) :
    into l part = l := by
  rw [into, if_pos (skipped_of_component? h)]

/-- A part that counts as a name is a component with that name. -/
theorem component?_of_notMem {part : List Char} (h : part ∉ [[], ['.'], ['.', '.']]) :
    Path.component? part = some (.normal part) := by
  simp only [List.mem_cons, List.not_mem_nil, or_false, not_or] at h
  rw [Path.component?, if_neg (not_or.2 ⟨h.1, h.2.1⟩), if_neg h.2.2]

/-- A part that counts as a name leads to an item of that name. -/
theorem into_of_notMem {part : List Char} (h : part ∉ [[], ['.'], ['.', '.']]) (l : Location) :
    into l part = l ++ [part] := by
  simp only [List.mem_cons, List.not_mem_nil, or_false, not_or] at h
  rw [into, if_neg (not_or.2 ⟨h.1, h.2.1⟩), if_neg h.2.2]

theorem isAbsolute_of_notMem {cs : List Char} (h : '/' ∉ cs) : Path.isAbsolute cs = false := by
  rw [Path.isAbsolute, beq_eq_false_iff_ne]
  exact fun hhead => h (List.mem_of_head? hhead)

/-- The parts that do not count lead nowhere else. -/
theorem trail_components_subset : ∀ (parts : List (List Char)) (l : Location),
    trail l ((parts.filterMap Path.component?).map partOf) ⊆ trail l parts
  | [], l => fun k hk => hk
  | part :: more, l => by
    have ih := trail_components_subset more
    cases hpart : Path.component? part with
    | none =>
      rw [List.filterMap_cons_none hpart, trail, into_of_component? hpart]
      exact fun k hk => List.mem_cons_of_mem l (ih l hk)
    | some c =>
      rw [List.filterMap_cons_some hpart, List.map_cons, partOf_of_component? hpart, trail, trail]
      exact List.cons_subset_cons l (ih (into l part))

/-- The components of a path are those of its parts, with one for the root or for a point in front. -/
theorem components_cases {cs first : List Char} {more : List (List Char)}
    (hsplit : Text.splitOn '/' cs = first :: more) :
    (first = [] ∧ more ≠ [] ∧
        Path.components cs = .root :: more.filterMap Path.component?) ∨
      (first = ['.'] ∧ Path.components cs = .current :: more.filterMap Path.component?) ∨
      Path.components cs = (first :: more).filterMap Path.component? := by
  rw [Path.components, hsplit]
  by_cases habsolute : Path.isAbsolute cs = true
  · left
    rcases cs with _ | ⟨c, cs⟩
    · simp [Path.isAbsolute] at habsolute
    · obtain rfl : c = '/' := by simpa [Path.isAbsolute] using habsolute
      have hcut : Text.splitOn '/' ('/' :: cs) = [] :: Text.splitOn '/' cs :=
        Text.splitOn_append '/' cs []
      rw [hcut] at hsplit
      obtain ⟨rfl, rfl⟩ := List.cons.inj hsplit
      exact ⟨rfl, Text.splitOn_ne_nil '/' cs, by simp [habsolute]⟩
  · right
    by_cases hdot : first = ['.']
    · exact .inl ⟨hdot, by simp [habsolute, hdot]⟩
    · right
      cases hfirst : Path.component? first <;> simp [habsolute, hdot, hfirst]

/-- The folder in which a file is made stands on the way of its path. -/
theorem trail_folder_subset (home : Location) (path : String) :
    trail (startOf home path.toList) (((Path.components path.toList).dropLast).map partOf) ⊆
      trailOf home path := by
  set cs := path.toList with hcs
  set l := startOf home cs with hl
  have hall : trail l ((Path.components cs).map partOf) ⊆ trailOf home path := by
    obtain ⟨first, more, hsplit⟩ := List.exists_cons_of_ne_nil (Text.splitOn_ne_nil '/' cs)
    have htrail : trailOf home path = trail l (first :: more) := by
      rw [trailOf, ← hcs, hsplit]
    have hmore := trail_components_subset more
    rw [htrail]
    rcases components_cases hsplit with ⟨rfl, -, hall⟩ | ⟨rfl, hall⟩ | hall
    · have hempty : into l [] = l := into_of_component? rfl l
      rw [hall, List.map_cons, partOf, trail, trail, into_dot, hempty]
      exact List.cons_subset_cons l (hmore l)
    · rw [hall, List.map_cons, partOf, trail, trail, into_dot]
      exact List.cons_subset_cons l (hmore l)
    · rw [hall]
      exact trail_components_subset (first :: more) l
  have hdrop : trail l (((Path.components cs).dropLast).map partOf) ⊆
      trail l ((Path.components cs).map partOf) := by
    rcases List.eq_nil_or_concat (Path.components cs) with hnil | ⟨front, last, hfront⟩
    · simp [hnil]
    · rw [hfront, List.concat_eq_append, List.dropLast_concat, List.map_append]
      exact trail_append_subset _ _ _
  exact fun k hk => hall (hdrop hk)

theorem checkFolder_congr {s s' : Store} {path : String}
    (h : AgreeOn (trailOf s.home path) s s') :
    s'.checkFolder path.toList = s.checkFolder path.toList := by
  have hsub := trail_folder_subset s.home path
  have hfollow : s'.follow (startOf s.home path.toList)
      (((Path.components path.toList).dropLast).map partOf) =
      s.follow (startOf s.home path.toList)
        (((Path.components path.toList).dropLast).map partOf) :=
    follow_congr fun k hk => h.get? k (hsub hk)
  unfold checkFolder
  simp only [h.home, hfollow]
  rcases hk : s.follow (startOf s.home path.toList)
      (((Path.components path.toList).dropLast).map partOf) with e | k
  · rfl
  · have hmem : k ∈ trailOf s.home path := by
      rw [follow_eq_ok hk]
      exact hsub (walk_mem_trail _ _)
    simp only [requireFolder_congr (h.get? k hmem)]

/-! ### The place of a file -/

/-- The way of a path without the slashes at its end is the beginning of its way. -/
theorem trail_plain_subset (home : Location) (path : String) :
    trail (startOf home path.toList)
        (Text.splitOn '/' (Text.dropEndWhile (· == '/') path.toList)) ⊆ trailOf home path := by
  obtain ⟨gap, hpath, hgap⟩ := Text.exists_append_dropEndWhile (· == '/') path.toList
  rcases gap with _ | ⟨c, gap⟩
  · rw [List.append_nil] at hpath
    rw [← hpath]
    exact fun k hk => hk
  · obtain rfl : c = '/' := by simpa using hgap c List.mem_cons_self
    have hsplit := Text.splitOn_append '/' gap (Text.dropEndWhile (· == '/') path.toList)
    rw [← hpath] at hsplit
    rw [trailOf, hsplit]
    exact trail_append_subset _ _ _

theorem targetOf_congr {s s' : Store} {path : String}
    (h : AgreeOn (trailOf s.home path) s s') :
    s'.targetOf path.toList = s.targetOf path.toList := by
  set plain := Text.dropEndWhile (· == '/') path.toList with hplain
  set start := startOf s.home path.toList with hstart
  have hsub : trail start (Text.splitOn '/' plain) ⊆ trailOf s.home path :=
    trail_plain_subset s.home path
  have hfront : trail start (Text.splitOn '/' plain).dropLast ⊆ trailOf s.home path := by
    intro k hk
    apply hsub
    rw [Text.splitOn_eq_concat]
    exact trail_append_subset _ _ _ hk
  have hfollow : s'.follow start (Text.splitOn '/' plain).dropLast =
      s.follow start (Text.splitOn '/' plain).dropLast :=
    follow_congr fun k hk => h.get? k (hfront hk)
  unfold targetOf
  simp only [h.home, ← hplain, ← hstart, hfollow]
  rcases hk : s.follow start (Text.splitOn '/' plain).dropLast with e | k
  · rfl
  · have hwalk := follow_eq_ok hk
    have hmem : k ∈ trailOf s.home path := by
      rw [hwalk]
      exact hfront (walk_mem_trail _ _)
    have hlast : into k ((Text.splitOn '/' plain).getLastD []) ∈ trailOf s.home path := by
      apply hsub
      rw [hwalk, ← walk_concat, ← Text.splitOn_eq_concat]
      exact walk_mem_trail _ _
    simp only [requireFolder_congr (h.get? k hmem), h.get? _ hlast]

/-- Whether and where a file can be written depends on the locations on the way of its path
alone. -/
theorem placeFor_congr {s s' : Store} {path : String}
    (h : AgreeOn (trailOf s.home path) s s') : s'.placeFor path = s.placeFor path := by
  unfold placeFor
  rw [checkFolder_congr h, targetOf_congr h]

theorem targetOf_eq_ok {s : Store} {path : String} {l : Location}
    (h : s.targetOf path.toList = .ok l) :
    s.locate path.toList = .ok l ∧ s.get? l ≠ some .folder := by
  simp only [targetOf] at h
  set start := startOf s.home path.toList with hstart
  set parts := Text.splitOn '/' (Text.dropEndWhile (· == '/') path.toList) with hparts
  rcases hfolder : s.follow start parts.dropLast with e | folder
  · simp only [hfolder] at h
    split_ifs at h
  rcases hrequire : s.requireFolder folder with e | _
  · simp only [hfolder, hrequire] at h
    split_ifs at h
  simp only [hfolder, hrequire] at h
  split_ifs at h with hzero hnil hlong hname hlength hplain
  have hitem : s.get? (into folder (parts.getLastD [])) ≠ some .folder := by
    intro hget
    rw [hget] at h
    cases h
  have hl : into folder (parts.getLastD []) = l := by
    split at h
    · cases h
    · exact Except.ok.inj h
  -- Nothing was cut off from the path, so its last part is the name of the file.
  have hsplit : Text.splitOn '/' path.toList = parts.dropLast ++ [parts.getLastD []] := by
    rw [hparts, Classical.not_not.1 hplain]
    exact Text.splitOn_eq_concat _ _
  have hfollow := follow_concat s (parts.getLastD []) _ _ hfolder hrequire
    (Nat.le_of_not_lt hlength)
  refine ⟨?_, hl ▸ hitem⟩
  unfold locate
  rw [if_neg hzero, if_neg hnil, if_neg hlong, ← hstart, hsplit, hfollow, hl]

/-- A file is written where its path leads, and never in place of a folder. -/
theorem placeFor_eq_ok {s : Store} {path : String} {l : Location}
    (h : s.placeFor path = .ok l) :
    s.locate path.toList = .ok l ∧ l = placeOf s.home path ∧ s.get? l ≠ some .folder := by
  unfold placeFor at h
  split at h
  · cases h
  · obtain ⟨hlocate, hitem⟩ := targetOf_eq_ok h
    exact ⟨hlocate, locate_eq_ok hlocate, hitem⟩

/-- A text that was written at a path is read there. -/
theorem readText_put {s : Store} {path : String} {l : Location} (h : s.placeFor path = .ok l)
    (contents : String) : (s.put l (.text contents)).readText path = .ok contents := by
  obtain ⟨hlocate, -, hitem⟩ := placeFor_eq_ok h
  have hget : (s.put l (.text contents)).get? l = some (.text contents) := by
    rw [get?_put hitem, if_pos rfl]
  exact readText_of_locate (locate_put hitem _ hlocate) hget

end Store
end SchemaMap
