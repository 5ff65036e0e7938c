/-
# What the check of a run is good for

A run can start only if it has a worker, if its generated file has a plain name and if the folders
of its requests differ in words. Two folders that differ in words can be one folder all the same;
not so where they are written as names, without a slash or a `.` in front and without any `..`.
If besides no folder and no script has the name of the generated file, any two requests of the run
are apart (`Run.apart_of_check`), and no script is in the place of a generated file
(`Run.script_not_target`).

Key definitions: `Path.counted`, `Path.IsNames`, `Request.Plain`.
Key theorems: `Store.trailOf_of_names`, `Run.options_of_check`, `Run.apart_of_check`,
`Run.script_not_target`.
-/
import SchemaMap.Proofs.Request.Check
import SchemaMap.Proofs.Run.Order

namespace SchemaMap

/-! ### Paths that are made of names -/

namespace Path

/-- The components of a path apart from what it starts with. -/
def counted (cs : List Char) : List Component :=
  (Text.splitOn '/' cs).filterMap component?

theorem counted_append (a b : List Char) : counted (a ++ '/' :: b) = counted a ++ counted b := by
  simp [counted, Text.splitOn_append]

theorem counted_nil : counted [] = [] := by
  simp [counted, Text.splitOn, component?]

theorem counted_slashes : ∀ {gap : List Char}, (∀ c ∈ gap, (c == '/') = true) →
    counted gap = []
  | [], _ => counted_nil
  | c :: gap, h => by
    obtain rfl : c = '/' := by simpa using h c List.mem_cons_self
    have ih := counted_slashes fun d hd => h d (List.mem_cons_of_mem _ hd)
    have happend := counted_append [] gap
    rwa [List.nil_append, counted_nil, List.nil_append, ih] at happend

/-- Slashes at the end do not count. -/
theorem counted_dropEndWhile (cs : List Char) :
    counted (Text.dropEndWhile (· == '/') cs) = counted cs := by
  obtain ⟨gap, hcs, hgap⟩ := Text.exists_append_dropEndWhile (· == '/') cs
  rcases gap with _ | ⟨c, gap⟩
  · rw [List.append_nil] at hcs
    rw [← hcs]
  · obtain rfl : c = '/' := by simpa using hgap c List.mem_cons_self
    have hslashes := counted_slashes fun d hd => hgap d (List.mem_cons_of_mem _ hd)
    have happend := counted_append (Text.dropEndWhile (· == '/') cs) gap
    rw [← hcs, hslashes, List.append_nil] at happend
    exact happend.symm

/-- A path that goes down by some names, from where it starts. -/
structure IsNames (cs : List Char) (names : List (List Char)) : Prop where
  relative : isAbsolute cs = false
  counted : counted cs = names.map .normal

/-- A path whose components are names goes down by them. -/
theorem isNames_of_components {cs : List Char} {names : List (List Char)}
    (h : components cs = names.map .normal) : IsNames cs names := by
  obtain ⟨first, more, hsplit⟩ := List.exists_cons_of_ne_nil (Text.splitOn_ne_nil '/' cs)
  simp only [components, hsplit] at h
  by_cases habs : isAbsolute cs = true
  · rcases names with _ | ⟨name, names⟩ <;> simp [habs] at h
  · by_cases hdot : first = ['.']
    · rcases names with _ | ⟨name, names⟩ <;> simp [habs, hdot] at h
    · refine ⟨by simpa using habs, ?_⟩
      rw [← h, counted, hsplit]
      rcases hfirst : component? first with _ | c <;> simp [habs, hdot, hfirst]

theorem isNames_of_isFileName {cs : List Char} (h : isFileName cs = true) : IsNames cs [cs] := by
  simp only [isFileName, Bool.and_eq_true, beq_iff_eq] at h
  exact isNames_of_components h.1.1

theorem IsNames.join {folder file : List Char} {names more : List (List Char)}
    (hfolder : IsNames folder names) (hfile : IsNames file more) :
    IsNames (join folder file) (names ++ more) := by
  constructor
  · unfold Path.join
    rcases folder with _ | ⟨c, folder⟩
    · simpa using hfile.relative
    · have hhead : (some c == some '/') = false := hfolder.relative
      simp only [hfile.relative, Bool.false_or, List.isEmpty_cons, Bool.false_eq_true, if_false]
      split <;> simpa [isAbsolute] using hhead
  · rw [List.map_append, ← hfolder.counted, ← hfile.counted]
    unfold Path.join
    rcases List.eq_nil_or_concat folder with rfl | ⟨front, last, rfl⟩
    · simp [counted_nil]
    · have hne : (front.concat last).isEmpty = false := by simp
      simp only [hfile.relative, hne, Bool.false_or, Bool.false_eq_true, if_false]
      split
      · rename_i hlast
        obtain rfl : last = '/' := by simpa using hlast
        have hfront := counted_append front []
        rw [counted_nil, List.append_nil] at hfront
        rw [List.concat_eq_append, hfront, List.append_assoc]
        exact counted_append front file
      · exact counted_append _ file

end Path

namespace Store

open SchemaMap.Path

/-- Parts that are names, apart from those that do not count, lead from one name to the next. -/
theorem trail_of_names : ∀ (parts : List (List Char)) {names : List (List Char)} (l : Location),
    parts.filterMap component? = names.map .normal →
      walk l parts = l ++ names ∧ ∀ k ∈ trail l parts, ∃ front, front <+: names ∧ k = l ++ front
  | [], names, l, h => by
    obtain rfl : names = [] := by simpa [eq_comm] using h
    simp [walk, trail]
  | part :: parts, names, l, h => by
    by_cases hskip : part = [] ∨ part = ['.']
    · have hinto : into l part = l := by simp [into, hskip]
      have hnone : component? part = none := by simp [component?, hskip]
      rw [List.filterMap_cons_none hnone] at h
      obtain ⟨hwalk, htrail⟩ := trail_of_names parts l h
      refine ⟨by simpa [walk, hinto] using hwalk, ?_⟩
      rintro k hk
      rcases List.mem_cons.1 hk with rfl | hk
      · exact ⟨[], List.nil_prefix, (List.append_nil k).symm⟩
      · rw [hinto] at hk
        exact htrail k hk
    · by_cases hup : part = ['.', '.']
      · have hsome : component? part = some .parent := by simp [component?, hup]
        rw [List.filterMap_cons_some hsome] at h
        rcases names with _ | ⟨name, names⟩ <;> simp at h
      · have hsome : component? part = some (.normal part) := by
          simp [component?, hskip, hup]
        rw [List.filterMap_cons_some hsome] at h
        rcases names with _ | ⟨name, names⟩
        · simp at h
        obtain ⟨hname, hnames⟩ := List.cons.inj h
        obtain rfl : part = name := by simpa using hname
        have hinto : into l part = l ++ [part] := by simp [into, hskip, hup]
        obtain ⟨hwalk, htrail⟩ := trail_of_names parts (l ++ [part]) hnames
        refine ⟨by simpa [walk, hinto] using hwalk, ?_⟩
        rintro k hk
        rcases List.mem_cons.1 hk with rfl | hk
        · exact ⟨[], List.nil_prefix, (List.append_nil k).symm⟩
        · rw [hinto] at hk
          obtain ⟨front, hfront, rfl⟩ := htrail k hk
          exact ⟨part :: front, List.cons_prefix_cons.2 ⟨rfl, hfront⟩, by simp⟩

/-- A path that is made of names leads from the folder of the program from one name to the
next. -/
theorem trailOf_of_names (home : Location) {path : String} {names : List (List Char)}
    (h : IsNames path.toList names) :
    placeOf home path = home ++ names ∧
      ∀ k ∈ trailOf home path, ∃ front, front <+: names ∧ k = home ++ front := by
  have hstart : startOf home path.toList = home := by simp [startOf, h.relative]
  rw [placeOf, trailOf, hstart]
  exact trail_of_names _ home h.counted

end Store

/-! ### Requests that are written plainly -/

namespace Request

open SchemaMap.Path Store

/-- A request whose folder and script are written as names that are not the name `out`. -/
structure Plain (out : String) (r : Request) (folder script : List (List Char)) : Prop where
  relative : isAbsolute r.folder.toList = false
  folderKey : r.folderKey = folder.map .normal
  sqlFile : IsNames r.sqlFile.toList script
  notMem : out.toList ∉ folder ++ script

namespace Plain

variable {out : String} {r : Request} {folder script : List (List Char)}

theorem isNames_folder (h : r.Plain out folder script) : IsNames r.folder.toList folder := by
  refine ⟨h.relative, ?_⟩
  rw [← counted_dropEndWhile]
  exact (isNames_of_components h.folderKey).counted

theorem isNames_source (h : r.Plain out folder script) :
    IsNames r.sourcePath.toList (folder ++ script) := by
  rw [sourcePath, String.toList_ofList]
  exact h.isNames_folder.join h.sqlFile

theorem isNames_output (h : r.Plain out folder script) (hout : isFileName out.toList = true) :
    IsNames (r.outputPath out).toList (folder ++ [out.toList]) := by
  rw [outputPath, String.toList_ofList]
  exact h.isNames_folder.join (isNames_of_isFileName hout)

end Plain

/-- The file of a request is not on the way of the script of another one. -/
theorem Plain.target_notMem_source {home : Location} {o : Options}
    (hout : isFileName o.outputFileName.toList = true) {q r : Request}
    {folder script folder' script' : List (List Char)}
    (hq : q.Plain o.outputFileName folder script)
    (hr : r.Plain o.outputFileName folder' script') {l : Location}
    (hl : q.target? home o = some l) : l ∉ trailOf home r.sourcePath := by
  intro hmem
  obtain ⟨front, hfront, hsame⟩ := (trailOf_of_names home hr.isNames_source).2 l hmem
  rw [target?_eq_some hl, (trailOf_of_names home (hq.isNames_output hout)).1] at hsame
  apply hr.notMem
  apply hfront.subset
  rw [← List.append_cancel_left hsame]
  simp

/-- The file of a request is not on the way of the file of another one with another folder. -/
theorem Plain.target_notMem_output {home : Location} {o : Options}
    (hout : isFileName o.outputFileName.toList = true) {q r : Request}
    {folder script folder' script' : List (List Char)}
    (hq : q.Plain o.outputFileName folder script)
    (hr : r.Plain o.outputFileName folder' script') (hkey : q.folderKey ≠ r.folderKey)
    {l : Location} (hl : q.target? home o = some l) :
    l ∉ trailOf home (r.outputPath o.outputFileName) := by
  intro hmem
  obtain ⟨front, hfront, hsame⟩ :=
    (trailOf_of_names home (hr.isNames_output hout)).2 l hmem
  rw [target?_eq_some hl, (trailOf_of_names home (hq.isNames_output hout)).1] at hsame
  obtain rfl := List.append_cancel_left hsame
  rcases List.prefix_concat_iff.1 hfront with hwhole | hpart
  · obtain ⟨hfolder, -⟩ := List.append_inj' hwhole rfl
    exact hkey (by rw [hq.folderKey, hr.folderKey, hfolder])
  · exact hr.notMem (List.mem_append_left _ (hpart.subset (by simp)))

end Request

namespace Run

open Request Store

/-! ### What the check accepts -/

theorem check_eq_ok {o : Options} {requests : List Request} (h : check o requests = .ok ()) :
    checkAll requests = .ok () ∧ o.check = .ok () := by
  unfold check at h
  split at h
  · cases h
  · exact ⟨‹_›, h⟩

/-- A run can start only if it has a worker and its files have a plain name. -/
theorem options_of_check {o : Options} {requests : List Request} (h : check o requests = .ok ()) :
    0 < o.workerCount ∧ Path.isFileName o.outputFileName.toList = true := by
  have hoptions := (check_eq_ok h).2
  unfold Options.check at hoptions
  split at hoptions
  · cases hoptions
  · rename_i hworkers
    split at hoptions
    · rename_i hname
      refine ⟨?_, hname⟩
      unfold Options.workerCount
      rcases hn : o.workers with _ | n
      · simp
      · rcases n with _ | n
        · exact absurd hn hworkers
        · simp
    · cases hoptions

/-- **Accepted requests that are written plainly are apart.** So they can be executed in any
order. -/
theorem apart_of_check {o : Options} {requests : List Request} (h : check o requests = .ok ())
    (hplain : ∀ r ∈ requests, ∃ folder script, r.Plain o.outputFileName folder script)
    (s : Store) : requests.Pairwise (Apart s o) := by
  have hout := (options_of_check h).2
  have hkeys := folderKeys_pairwise (check_eq_ok h).1
  have hdisjoint : ∀ {q r : Request}, q ∈ requests → r ∈ requests → q.folderKey ≠ r.folderKey →
      ∀ file ∈ q.written? s o, file.1 ∉ r.footprint s.home o := by
    rintro q r hq hr hkey ⟨l, contents⟩ hfile hmem
    obtain ⟨folder, script, hqPlain⟩ := hplain q hq
    obtain ⟨folder', script', hrPlain⟩ := hplain r hr
    have htarget := (written?_eq_some hfile).1
    rcases mem_footprint hmem with hmem | hmem
    · exact hqPlain.target_notMem_source hout hrPlain htarget hmem
    · exact hqPlain.target_notMem_output hout hrPlain hkey htarget hmem
  exact hkeys.imp_of_mem fun hq hr hkey => ⟨hdisjoint hq hr hkey, hdisjoint hr hq hkey.symm⟩

/-- No script of such requests is in the place of a generated file, so a run keeps them all. -/
theorem script_not_target {o : Options} {requests : List Request}
    (h : check o requests = .ok ())
    (hplain : ∀ r ∈ requests, ∃ folder script, r.Plain o.outputFileName folder script)
    {q r : Request} (hq : q ∈ requests) (hr : r ∈ requests) (home : Location) :
    q.target? home o ≠ some (placeOf home r.sourcePath) := by
  intro htarget
  obtain ⟨folder, script, hqPlain⟩ := hplain q hq
  obtain ⟨folder', script', hrPlain⟩ := hplain r hr
  exact hqPlain.target_notMem_source (options_of_check h).2 hrPlain htarget
    (placeOf_mem_trailOf home r.sourcePath)

end Run
end SchemaMap
