/-
# Where generated files are put

The name of the generated files is checked by itself, before there is any folder to put it behind.
What is accepted is a single part of a path that counts as a name (`Path.isFileName_iff`). Behind a
folder that is not empty such a part is one component more (`Path.components_join`), and it leads
from where the folder leads to an item of that name (`Store.placeOf_join`).

The other way round, a text that adds just itself to the components of any folder is such a part:
it does not start at the root, or it would not stand behind the folder, and it holds no slash, since
no component does (`Path.isFileName_of_components`). So the check refuses no more than it has to,
apart from backslashes (`Options.check_iff_adds_name`).

Key theorems: `Path.isFileName_iff`, `Path.components_join`, `Path.isFileName_of_components`,
`Store.placeOf_join`, `Options.check_iff_adds_name`.
-/
import SchemaMap.Proofs.Run.Check
import SchemaMap.Proofs.Store.Writable
import Mathlib.Tactic.SplitIfs

namespace SchemaMap

/-! ### Components of joined paths -/

namespace Path

variable {folder file : List Char}

theorem isAbsolute_append (hne : folder ≠ []) (rest : List Char) :
    isAbsolute (folder ++ rest) = isAbsolute folder := by
  obtain ⟨c, cs, rfl⟩ := List.exists_cons_of_ne_nil hne
  rfl

/-- Behind a slash, the parts that count are components, whatever stands in front. -/
theorem components_behind (front file : List Char) :
    components (front ++ '/' :: file) = components (front ++ ['/']) ++ counted file := by
  have habs : isAbsolute (front ++ '/' :: file) = isAbsolute (front ++ ['/']) := by
    cases front <;> rfl
  obtain ⟨first, more, hsplit⟩ := List.exists_cons_of_ne_nil (Text.splitOn_ne_nil '/' front)
  have hnil : Text.splitOn '/' [] = [[]] := rfl
  have hempty : component? [] = none := rfl
  simp only [components, Text.splitOn_append, hsplit, List.cons_append, habs, counted, hnil,
    List.filterMap_append, List.filterMap_cons_none hempty, List.filterMap_nil, List.append_nil,
    List.append_assoc]

/-- A slash at the end of a path that is not empty adds no component. -/
theorem components_slash (hne : folder ≠ []) :
    components (folder ++ ['/']) = components folder := by
  obtain ⟨first, more, hsplit⟩ := List.exists_cons_of_ne_nil (Text.splitOn_ne_nil '/' folder)
  have hnil : Text.splitOn '/' [] = [[]] := rfl
  have hempty : component? [] = none := rfl
  simp only [components, Text.splitOn_append, hsplit, List.cons_append, isAbsolute_append hne, hnil,
    List.filterMap_append, List.filterMap_cons_none hempty, List.filterMap_nil, List.append_nil]

/-- A file behind a folder stands behind a slash, which is the folder's own if it ends with one. -/
theorem join_cases (hne : folder ≠ []) (hfile : isAbsolute file = false) :
    (∃ front, folder = front ++ ['/'] ∧ join folder file = front ++ '/' :: file) ∨
      join folder file = folder ++ '/' :: file := by
  have hempty : folder.isEmpty = false := List.isEmpty_eq_false_iff.2 hne
  unfold join
  rw [hfile, hempty, Bool.or_false, if_neg Bool.false_ne_true]
  by_cases hlast : folder.getLast? = some '/'
  · obtain ⟨front, rfl⟩ := List.getLast?_eq_some_iff.1 hlast
    rw [if_pos hlast]
    exact .inl ⟨front, rfl, by simp⟩
  · rw [if_neg hlast]
    exact .inr rfl

/-- **A file behind a folder** has the components of the folder, and behind them those of its own
parts that count. -/
theorem components_join (hne : folder ≠ []) (hfile : isAbsolute file = false) :
    components (join folder file) = components folder ++ counted file := by
  rcases join_cases hne hfile with ⟨front, rfl, hjoin⟩ | hjoin
  · rw [hjoin, components_behind]
  · rw [hjoin, components_behind, components_slash hne]

/-! ### Names of files -/

theorem counted_of_notMem {cs : List Char} (h : '/' ∉ cs) :
    counted cs = (component? cs).toList := by
  rw [counted, Text.splitOn_of_notMem h]
  cases hc : component? cs <;> simp [hc]

theorem component?_eq_normal {cs name : List Char} (h : component? cs = some (.normal name)) :
    name = cs ∧ cs ∉ [[], ['.'], ['.', '.']] := by
  refine ⟨Store.partOf_of_component? h, fun hmem => ?_⟩
  simp only [List.mem_cons, List.not_mem_nil, or_false] at hmem
  rcases hmem with rfl | rfl | rfl <;> simp [component?] at h

/-- The name of a file is a part of a path that counts as a name, without a backslash. -/
theorem isFileName_iff {cs : List Char} : isFileName cs = true ↔
    cs ∉ [[], ['.'], ['.', '.']] ∧ '/' ∉ cs ∧ '\\' ∉ cs := by
  simp only [isFileName, Bool.and_eq_true, Bool.not_eq_true', List.contains_eq_mem,
    decide_eq_false_iff_not, beq_iff_eq]
  constructor
  · rintro ⟨⟨hcomponents, hslash⟩, hback⟩
    have hnames : IsNames cs [cs] := isNames_of_components hcomponents
    have hcounted := hnames.counted
    rw [counted_of_notMem hslash] at hcounted
    have hcomponent : component? cs = some (.normal cs) := by
      cases hc : component? cs <;> simp_all
    exact ⟨(component?_eq_normal hcomponent).2, hslash, hback⟩
  · rintro ⟨hcounts, hslash, hback⟩
    refine ⟨⟨?_, hslash⟩, hback⟩
    have hdot : cs ≠ ['.'] := fun h => hcounts (by simp [h])
    simp [components, Text.splitOn_of_notMem hslash, Store.isAbsolute_of_notMem hslash, hdot,
      Store.component?_of_notMem hcounts]

theorem head?_components {cs : List Char} (h : isAbsolute cs = true) :
    (components cs).head? = some .root := by
  obtain ⟨first, more, hsplit⟩ := List.exists_cons_of_ne_nil (Text.splitOn_ne_nil '/' cs)
  simp [components, hsplit, h]

/-- A text that stands behind a folder as just one more component, itself, is the name of a file
unless it holds a backslash. -/
theorem isFileName_of_components {cs : List Char} (hback : '\\' ∉ cs)
    (h : components (join ['a'] cs) = [.normal ['a'], .normal cs]) : isFileName cs = true := by
  have hrelative : isAbsolute cs = false := by
    rw [Bool.eq_false_iff]
    intro habs
    -- a path from the root does not keep the folder in front of it
    rw [join, habs, Bool.true_or, if_pos rfl] at h
    have hhead := head?_components habs
    rw [h] at hhead
    cases hhead
  have hcounted : counted cs = [.normal cs] := by
    rw [components_join (List.cons_ne_nil _ _) hrelative] at h
    exact (List.cons.inj h).2
  have hmem : .normal cs ∈ counted cs := hcounted ▸ List.mem_singleton_self _
  obtain ⟨part, hpart, hcomponent⟩ := List.mem_filterMap.1 hmem
  obtain ⟨rfl, hcounts⟩ := component?_eq_normal hcomponent
  exact isFileName_iff.2 ⟨hcounts, Text.notMem_of_mem_splitOn hpart, hback⟩

end Path

/-! ### Where joined paths lead -/

namespace Store

open SchemaMap.Path

/-- **The name of a file behind a folder** leads to an item of that name in the place to which the
folder leads. -/
theorem placeOf_join {folder name : String} (home : Location) (hne : folder ≠ "")
    (hname : isFileName name.toList = true) :
    placeOf home (String.ofList (join folder.toList name.toList)) =
      placeOf home folder ++ [name.toList] := by
  obtain ⟨hcounts, hslash, -⟩ := isFileName_iff.1 hname
  have hfolder : folder.toList ≠ [] := fun h => hne (String.toList_eq_nil_iff.1 h)
  have hsplit := Text.splitOn_of_notMem hslash
  rw [placeOf, placeOf, String.toList_ofList]
  rcases join_cases hfolder (isAbsolute_of_notMem hslash) with ⟨front, hfront, hjoin⟩ | hjoin
  · -- the slash at the end of the folder has an empty part behind it, which leads nowhere else
    have hnil : Text.splitOn '/' [] = [[]] := rfl
    have hempty (l : Location) : into l [] = l := into_of_component? rfl l
    rw [hjoin, hfront, startOf_append, Text.splitOn_append, Text.splitOn_append, hsplit, hnil,
      walk_concat, walk_concat, into_of_notMem hcounts, hempty]
  · have hstart : startOf home (folder.toList ++ '/' :: name.toList) =
        startOf home folder.toList := by
      rw [startOf, startOf, isAbsolute_append hfolder]
    rw [hjoin, hstart, Text.splitOn_append, hsplit, walk_concat, into_of_notMem hcounts]

end Store

/-! ### The check of the name -/

namespace Options

open SchemaMap.Path Store

theorem check_eq_ok_iff {o : Options} : o.check = .ok () ↔
    o.workers ≠ some 0 ∧ isFileName o.outputFileName.toList = true := by
  unfold check
  split_ifs with hworkers hname
  · exact iff_of_false nofun fun h => h.1 hworkers
  · exact iff_of_true rfl ⟨hworkers, hname⟩
  · exact iff_of_false nofun fun h => hname h.2

theorem components_outputPath {r : Request} {fileName : String} (hne : r.folder ≠ "")
    (hname : isFileName fileName.toList = true) :
    components (r.outputPath fileName).toList =
      components r.folder.toList ++ [.normal fileName.toList] := by
  obtain ⟨hcounts, hslash, -⟩ := isFileName_iff.1 hname
  have hfolder : r.folder.toList ≠ [] := fun h => hne (String.toList_eq_nil_iff.1 h)
  rw [Request.outputPath, String.toList_ofList,
    components_join hfolder (isAbsolute_of_notMem hslash), counted_of_notMem hslash,
    component?_of_notMem hcounts]
  rfl

/-- **Generated files stay in the folders of their requests.** With at least one worker, a name is
accepted just where it holds no backslash and adds itself, as a name, to the components of every
folder that is not empty. A file of that name then is put right into the folder of its request,
wherever that leads. -/
theorem check_iff_adds_name (o : Options) :
    (o.check = .ok () ↔ o.workers ≠ some 0 ∧ '\\' ∉ o.outputFileName.toList ∧
      ∀ r : Request, r.folder ≠ "" →
        components (r.outputPath o.outputFileName).toList =
          components r.folder.toList ++ [.normal o.outputFileName.toList]) ∧
    (o.check = .ok () → ∀ (home : Location) (r : Request), r.folder ≠ "" →
      placeOf home (r.outputPath o.outputFileName) =
        placeOf home r.folder ++ [o.outputFileName.toList]) := by
  rw [check_eq_ok_iff]
  refine ⟨⟨?_, ?_⟩, ?_⟩
  · rintro ⟨hworkers, hname⟩
    exact ⟨hworkers, (isFileName_iff.1 hname).2.2, fun r hne => components_outputPath hne hname⟩
  · rintro ⟨hworkers, hback, hadds⟩
    have hone := hadds ⟨"a", "", ""⟩ (by decide)
    rw [Request.outputPath, String.toList_ofList] at hone
    exact ⟨hworkers, isFileName_of_components hback hone⟩
  · rintro ⟨-, hname⟩ home r hne
    exact placeOf_join home hne hname

end Options
end SchemaMap
