/-
# Replacing files at once

While a file is written, the store is the store before with one file more, whose name nothing had
(`Stage.Reached`), and each step keeps it so (`Stage.step_reached`). When the write has ended, that
file is in the place of the path or gone. So a write changes the file at its path and nothing else, or
nothing at all, and at every moment of a series of writes each file holds what it held at first, or
what the last successful write put there (`Writer.Reaches.held`). If the medium refuses nothing, the
steps together are `Store.writeText` (`replace_eq_writeText`).

Key definitions: `Stage.Reached`, `Writer.held`, `Writer.Reaches`, `Medium.spare`.
Key theorems: `Store.rename_put`, `Stage.step_reached`, `Store.replace_cases`,
`Store.replace_eq_writeText`, `Writer.Reaches.held`, `Store.replace_whole_or_nothing`.
-/
import SchemaMap.Store.Replacement
import SchemaMap.Proofs.Store.Writable

namespace SchemaMap
namespace Store

/-! ### The new file -/

section NewFile

variable {s : Store} {temp : Location}

theorem putItem_putItem (l : Location) (x y : Item) : ∀ items : List (Location × Item),
    putItem l y (putItem l x items) = putItem l y items
  | [] => by simp [putItem]
  | (k, z) :: more => by
    by_cases hk : k = l
    · simp [putItem, hk]
    · simp [putItem, hk, putItem_putItem l x y more]

/-- Of two items that are put at a location the last one counts. -/
theorem put_put (s : Store) (l : Location) (x y : Item) : (s.put l x).put l y = s.put l y := by
  simp only [put, putItem_putItem]

theorem filter_putItem (l : Location) (x : Item) : ∀ {items : List (Location × Item)},
    items.lookup l = none → (putItem l x items).filter (fun item => item.1 ≠ l) = items
  | [], _ => by simp [putItem]
  | (k, z) :: more, h => by
    have hk : k ≠ l := by
      rintro rfl
      simp at h
    have hmore : more.lookup l = none := by
      rwa [List.lookup_cons, beq_eq_false_iff_ne.2 hk.symm] at h
    have hkept : decide (k ≠ l) = true := decide_eq_true hk
    rw [putItem, if_neg hk, List.filter_cons, if_pos hkept, filter_putItem l x hmore]

/-- Without the new file the store is as it was. -/
theorem remove_put (h : s.get? temp = none) (x : Item) : (s.put temp x).remove temp = s := by
  have hlookup : s.items.lookup temp = none := by
    unfold get? at h
    split at h
    · cases h
    · exact h
  simp only [put, remove, filter_putItem temp x hlookup]

theorem get?_put_new (h : s.get? temp = none) (x : Item) : (s.put temp x).get? temp = some x := by
  have hfree : s.get? temp ≠ some .folder := by simp [h]
  rw [get?_put hfree, if_pos rfl]

/-- The new file in the place of another is that file with new contents. -/
theorem rename_put (h : s.get? temp = none) (x : Item) (target : Location) :
    (s.put temp x).rename temp target = s.put target x := by
  by_cases hsame : temp = target
  · rw [rename, if_pos hsame, hsame]
  · rw [rename, if_neg hsame, get?_put_new h]
    simp only [remove_put h]

/-- A new file is in the way of nothing that could be entered. -/
theorem Enters.put {l k : Location} {parts : List (List Char)} (h : s.Enters l parts k)
    (hfree : s.get? temp = none) (x : Item) : (s.put temp x).Enters l parts k := by
  have hno : s.get? temp ≠ some .folder := by simp [hfree]
  have hfolders : ∀ k, s.get? k = some .folder → (s.put temp x).get? k = some .folder :=
    fun _ => get?_put_folder hno x
  exact ⟨follow_of_folders hfolders h.1, hfolders k h.2⟩

end NewFile

/-- Where a file may be put while the new file is there, it may be put before. -/
theorem targetOf_put_eq_ok {s : Store} {temp target : Location} {path contents : String}
    (hfree : s.get? temp = none)
    (h : (s.put temp (.text contents)).targetOf path.toList = .ok target) :
    s.locate path.toList = .ok target ∧ s.get? target ≠ some .folder := by
  obtain ⟨hlocate, hitem⟩ := targetOf_eq_ok h
  have hfolders (k : Location) (hk : (s.put temp (.text contents)).get? k = some .folder) :
      s.get? k = some .folder := by
    by_cases hsame : k = temp
    · rw [hsame, get?_put_new hfree] at hk
      cases hk
    · rwa [get?_put_of_ne hsame] at hk
  have hplace : s.locate path.toList = .ok target :=
    locate_of_folders (put_home s temp (.text contents)).symm hfolders hlocate
  refine ⟨hplace, ?_⟩
  by_cases hsame : target = temp
  · simp [hsame, hfree]
  · rwa [get?_put_of_ne hsame] at hitem

/-- The folder in which a new file is made. -/
theorem folderFor_eq (s : Store) (cs : List Char) :
    (∃ e, s.checkFolder cs = .error e ∧ s.folderFor cs = .error e) ∨
      ∃ folder, s.checkFolder cs = .ok () ∧ s.folderFor cs = .ok folder := by
  rcases hcheck : s.checkFolder cs with e | ⟨⟨⟩⟩
  · exact .inl ⟨e, rfl, by rw [folderFor, hcheck]⟩
  · have hfolder : s.folderFor cs =
        s.follow (startOf s.home cs) (((Path.components cs).dropLast).map partOf) := by
      rw [folderFor, hcheck]
    rw [hfolder]
    simp only [checkFolder] at hcheck
    split_ifs at hcheck
    split at hcheck
    · cases hcheck
    · rename_i folder hfollow
      exact .inr ⟨folder, rfl, hfollow⟩

end Store

/-! ### The steps of a write -/

namespace Stage

/-- What holds of the store during a write that started in the store `base`. -/
def Reached (base : Store) (d : Draft) : Stage → Store → Prop
  | start, s => s = base
  | created temp, s | refused temp _, s => base.get? temp = none ∧ ∃ x, s = base.put temp x
  | filled temp, s | synced temp, s =>
    base.get? temp = none ∧ s = base.put temp (.text d.contents)
  | ended (.ok ()), s => ∃ l, base.locate d.path.toList = .ok l ∧ base.get? l ≠ some .folder ∧
    s = base.put l (.text d.contents)
  | ended (.error f), s => (∃ cause, f = .write d.path cause) ∧ s = base

variable {base s : Store} {d : Draft}

/-- **What one step keeps**: the store is the store before with one new file more, or with the file
in its place, or as before. -/
theorem step_reached (m : Medium) {stage : Stage} (h : Reached base d stage s) :
    Reached base d (stage.step m d s).1 (stage.step m d s).2 := by
  cases stage with
  | start =>
    obtain rfl : s = base := h
    rw [step]
    split
    · exact ⟨⟨_, rfl⟩, rfl⟩
    · exact ⟨m.unused s _, _, rfl⟩
  | created temp =>
    obtain ⟨hfree, x, rfl⟩ := h
    rw [step]
    split
    · rename_i left e _
      exact ⟨hfree, left, Store.put_put base temp x left⟩
    · exact ⟨hfree, Store.put_put base temp x _⟩
  | filled temp =>
    obtain ⟨hfree, rfl⟩ := h
    rw [step]
    split
    · exact ⟨hfree, _, rfl⟩
    · exact ⟨hfree, rfl⟩
  | synced temp =>
    obtain ⟨hfree, rfl⟩ := h
    rw [step]
    split
    · exact ⟨hfree, _, rfl⟩
    · rename_i target htarget
      obtain ⟨hlocate, hitem⟩ := Store.targetOf_put_eq_ok hfree htarget
      exact ⟨target, hlocate, hitem, Store.rename_put hfree _ _⟩
  | refused temp cause =>
    obtain ⟨hfree, x, rfl⟩ := h
    exact ⟨⟨cause, rfl⟩, Store.remove_put hfree x⟩
  | ended result => exact h

/-- Before its end a write changes nothing but the new file. -/
theorem Reached.get?_of_ne {stage : Stage} (h : Reached base d stage s)
    (hrunning : ∀ result, stage ≠ .ended result) {l : Location} (hl : stage.temp? ≠ some l) :
    s.get? l = base.get? l := by
  have hother {temp : Location} (htemp : stage.temp? = some temp) : l ≠ temp := by
    rintro rfl
    exact hl htemp
  cases stage with
  | start =>
    obtain rfl : s = base := h
    rfl
  | created temp =>
    obtain ⟨-, x, rfl⟩ := h
    exact Store.get?_put_of_ne (hother rfl) x
  | filled temp =>
    obtain ⟨-, rfl⟩ := h
    exact Store.get?_put_of_ne (hother rfl) _
  | synced temp =>
    obtain ⟨-, rfl⟩ := h
    exact Store.get?_put_of_ne (hother rfl) _
  | refused temp cause =>
    obtain ⟨-, x, rfl⟩ := h
    exact Store.get?_put_of_ne (hother rfl) x
  | ended result => exact absurd rfl (hrunning result)

theorem run_reached (m : Medium) : ∀ (n : Nat) {stage : Stage} {s : Store},
    Reached base d stage s → Reached base d (stage.run m d n s).1 (stage.run m d n s).2
  | 0, _, _, h => h
  | n + 1, _, _, h => run_reached m n (step_reached m h)

/-- Each step brings the write nearer to its end. -/
theorem stepsLeft_step (m : Medium) (stage : Stage) (s : Store) :
    (stage.step m d s).1.stepsLeft ≤ stage.stepsLeft - 1 := by
  cases stage <;> rw [step] <;> try split
  all_goals simp [stepsLeft]

theorem stepsLeft_run (m : Medium) : ∀ (n : Nat) (stage : Stage) (s : Store),
    (stage.run m d n s).1.stepsLeft ≤ stage.stepsLeft - n
  | 0, _, _ => Nat.le_refl _
  | n + 1, stage, s => calc
      (stage.run m d (n + 1) s).1.stepsLeft ≤ (stage.step m d s).1.stepsLeft - n :=
        stepsLeft_run m n _ _
      _ ≤ stage.stepsLeft - 1 - n := Nat.sub_le_sub_right (stepsLeft_step m stage s) n
      _ = stage.stepsLeft - (n + 1) := by omega

theorem ended_of_stepsLeft {stage : Stage} (h : stage.stepsLeft = 0) :
    ∃ result, stage = .ended result := by
  cases stage with
  | ended result => exact ⟨result, rfl⟩
  | _ => cases h

end Stage

/-! ### A whole write -/

namespace Store

variable {s : Store} {d : Draft}

/-- A write ends, with a new file or with an error and no change. -/
theorem replace_cases (m : Medium) (s : Store) (d : Draft) :
    (∃ l, s.locate d.path.toList = .ok l ∧ s.get? l ≠ some .folder ∧
        s.replace m d = (.ended (.ok ()), s.put l (.text d.contents))) ∨
      ∃ cause, s.replace m d = (.ended (.error (.write d.path cause)), s) := by
  have hstart : Stage.Reached s d .start s := rfl
  have hreached : Stage.Reached s d (s.replace m d).1 (s.replace m d).2 :=
    Stage.run_reached m _ hstart
  have hend : (s.replace m d).1.stepsLeft = 0 :=
    Nat.le_zero.1 ((Stage.stepsLeft_run m _ .start s).trans_eq (Nat.sub_self _))
  obtain ⟨result, hresult⟩ := Stage.ended_of_stepsLeft hend
  rw [hresult] at hreached
  rcases result with f | ⟨⟨⟩⟩
  · obtain ⟨⟨cause, rfl⟩, hstore⟩ := hreached
    exact .inr ⟨cause, Prod.ext hresult hstore⟩
  · obtain ⟨l, hlocate, hitem, hstore⟩ := hreached
    exact .inl ⟨l, hlocate, hitem, Prod.ext hresult hstore⟩

/-- The new file does not stand in the way of its own target. -/
theorem targetOf_put_new {temp : Location} {cs : List Char} (hname : EndsInName cs)
    (hcheck : s.checkFolder cs = .ok ()) (hfree : s.get? temp = none) (contents : String) :
    (s.put temp (.text contents)).targetOf cs = s.targetOf cs := by
  obtain ⟨-, -, folder, hfolder⟩ := (checkFolder_eq_ok_iff hname).1 hcheck
  have hitem : (s.put temp (.text contents)).get? (folder ++ [lastPart cs]) = some .folder ↔
      s.get? (folder ++ [lastPart cs]) = some .folder := by
    by_cases hsame : folder ++ [lastPart cs] = temp
    · simp [hsame, hfree, get?_put_new hfree]
    · rw [get?_put_of_ne hsame]
  have hput := hfolder.put hfree (.text contents)
  rw [targetOf_of_enters hname hfolder, targetOf_of_enters hname hput]
  simp only [hitem]

/-- **Without refusals of the medium the steps are one write at once.** -/
theorem replace_eq_writeText {m : Medium} (hm : m.Calm) (hname : EndsInName d.path.toList) :
    s.replace m d =
      match s.writeText d.path d.contents with
      | .ok s' => (.ended (.ok ()), s')
      | .error f => (.ended (.error f), s) := by
  rcases folderFor_eq s d.path.toList with
    ⟨e, hcheck, hfolder⟩ | ⟨folder, hcheck, hfolder⟩
  · simp [replace, Stage.stepsLeft, Stage.run, Stage.step, hfolder, writeText, placeFor, hcheck]
  · have hfree := m.unused s folder
    have htarget := targetOf_put_new hname hcheck hfree d.contents
    cases hplace : s.targetOf d.path.toList with
    | error e =>
      simp [replace, Stage.stepsLeft, Stage.run, Stage.step, hfolder, hm.1, hm.2, put_put, htarget,
        writeText, placeFor, hcheck, hplace, remove_put hfree]
    | ok target =>
      simp [replace, Stage.stepsLeft, Stage.run, Stage.step, hfolder, hm.1, hm.2, put_put, htarget,
        writeText, placeFor, hcheck, hplace, rename_put hfree]

/-- A write that the medium does not refuse succeeds where a file can be written. -/
theorem replace_ok_iff {m : Medium} (hm : m.Calm) (hname : EndsInName d.path.toList) :
    (∃ s', s.replace m d = (.ended (.ok ()), s')) ↔ WithinLimits d.path.toList ∧
      s.IsFolder (parentOf d.path.toList) ∧ ¬s.IsFolder d.path.toList := by
  rw [replace_eq_writeText hm hname, ← placeFor_isOk_iff hname, writeText]
  cases s.placeFor d.path <;> simp

end Store

/-! ### Files that are written one after the other -/

namespace Writer

/-- What a location holds after some writes, the last one first: the text of the last successful one
there, or what it held before them. -/
def held (s : Store) : List (Draft × Except Fault Unit) → Location → Option Item
  | [], l => s.get? l
  | (d, .ok ()) :: more, l =>
    if l = Store.placeOf s.home d.path then some (.text d.contents) else held s more l
  | (_, .error _) :: more, l => held s more l

/-- The states of a program that writes files, whatever the medium decides at each step. -/
inductive Reaches (s : Store) (drafts : List Draft) : Writer → Prop where
  | start : Reaches s drafts { store := s, todo := drafts }
  | step {w : Writer} (m : Medium) : Reaches s drafts w → Reaches s drafts (w.advance m)

/-- The writes that have ended have left the store `base`, and the one under way started there. -/
structure Sound (s base : Store) (w : Writer) : Prop where
  home : base.home = s.home
  held : ∀ l, base.get? l = Writer.held s w.done l
  running : ∀ result, w.stage ≠ .ended result
  idle : w.todo = [] → w.store = base
  reached : ∀ d ∈ w.todo.head?, w.stage.Reached base d w.store

variable {s base : Store} {w : Writer}

/-- **What one step keeps**: it goes on with the write under way, or ends it and starts the next. -/
theorem Sound.advance (m : Medium) (h : Sound s base w) : ∃ base, Sound s base (w.advance m) := by
  unfold Writer.advance
  split
  · exact ⟨base, h⟩
  · rename_i d more htodo
    have hreached : w.stage.Reached base d w.store := h.reached d (by rw [htodo]; rfl)
    have hnext := Stage.step_reached m hreached
    split
    · rename_i result s' hstep
      rw [hstep] at hnext
      have hended : Stage.Reached base d (.ended result) s' := hnext
      -- what the write has left is where the next one starts
      have hleft : s'.home = s.home ∧
          ∀ k, s'.get? k = Writer.held s ((d, result) :: w.done) k := by
        rcases result with f | ⟨⟨⟩⟩
        · obtain ⟨-, rfl⟩ := hended
          exact ⟨h.home, h.held⟩
        · obtain ⟨l, hlocate, hitem, rfl⟩ := hended
          refine ⟨h.home, fun k => ?_⟩
          rw [Store.get?_put hitem, Store.locate_eq_ok hlocate, h.home, h.held, Writer.held]
      exact ⟨s', hleft.1, hleft.2, fun _ => Stage.noConfusion, fun _ => rfl, fun _ _ => rfl⟩
    · rename_i stage s' hrunning hstep
      rw [hstep] at hnext
      refine ⟨base, h.home, h.held, fun result he => hrunning result he, ?_, ?_⟩
      · intro hnil
        cases htodo.symm.trans hnil
      · intro d' hd'
        rw [htodo] at hd'
        obtain rfl : d = d' := Option.some.inj hd'
        exact hnext

theorem Reaches.sound {drafts : List Draft} (h : Reaches s drafts w) : ∃ base, Sound s base w := by
  induction h with
  | start => exact ⟨s, rfl, fun _ => rfl, fun _ => Stage.noConfusion, fun _ => rfl, fun _ _ => rfl⟩
  | step m _ ih =>
    obtain ⟨base, hbase⟩ := ih
    exact hbase.advance m

/-- **At every moment** each file but the new one holds the text of the last successful write to it,
or what it held at first. -/
theorem Reaches.held {drafts : List Draft} (h : Reaches s drafts w) {l : Location}
    (hl : w.stage.temp? ≠ some l) : w.store.get? l = Writer.held s w.done l := by
  obtain ⟨base, hbase⟩ := h.sound
  rw [← hbase.held]
  cases htodo : w.todo with
  | nil => rw [hbase.idle htodo]
  | cons d more =>
    have hreached : w.stage.Reached base d w.store := hbase.reached d (by rw [htodo]; rfl)
    exact hreached.get?_of_ne hbase.running hl

end Writer

namespace Store

/-! ### A medium without refusals -/

/-- The length of all names of a store together. -/
def namesLength (s : Store) : Nat :=
  (s.home :: s.items.map Prod.fst).flatten.flatten.length

theorem length_le_namesLength {s : Store} {l : Location}
    (h : l = s.home ∨ l ∈ s.items.map Prod.fst) {name : List Char} (hname : name ∈ l) :
    name.length ≤ s.namesLength := by
  have hl : l ∈ s.home :: s.items.map Prod.fst := List.mem_cons.2 h
  have hmem : name ∈ (s.home :: s.items.map Prod.fst).flatten := List.mem_flatten.2 ⟨l, hl, hname⟩
  exact (List.sublist_flatten_of_mem hmem).length_le

/-- A name that is longer than all names together is the name of nothing. -/
theorem get?_eq_none_of_long {s : Store} {folder : Location} {name : List Char}
    (h : s.namesLength < name.length) : s.get? (folder ++ [name]) = none := by
  have hmem : name ∈ folder ++ [name] := List.mem_append_right _ List.mem_cons_self
  have hhome : ¬(folder ++ [name]).isPrefixOf s.home := by
    intro hprefix
    have hin : name ∈ s.home := (List.isPrefixOf_iff_prefix.1 hprefix).subset hmem
    have hle := length_le_namesLength (.inl rfl) hin
    omega
  rw [get?, if_neg hhome, List.lookup_eq_none_iff]
  intro item hitem
  rw [bne_iff_ne]
  intro heq
  have hin : name ∈ item.1 := heq ▸ hmem
  have hle := length_le_namesLength (.inr (List.mem_map_of_mem hitem)) hin
  omega

/-- A name that nothing in a folder has. -/
def spareName (s : Store) (folder : Location) : List Char :=
  if s.get? (folder ++ [".tmp000000".toList]) = none then ".tmp000000".toList
  else ".tmp000000".toList ++ List.replicate s.namesLength '0'

theorem get?_spareName (s : Store) (folder : Location) :
    s.get? (folder ++ [s.spareName folder]) = none := by
  unfold spareName
  split
  · assumption
  · refine get?_eq_none_of_long ?_
    rw [List.length_append, List.length_replicate]
    have hshort : 0 < ".tmp000000".toList.length := by decide
    omega

end Store

/-- A medium that refuses nothing. -/
def Medium.spare : Medium where
  name := Store.spareName
  unused := Store.get?_spareName

theorem Medium.spare_calm : Medium.spare.Calm :=
  ⟨fun _ _ => rfl, fun _ => rfl⟩

namespace Store

/-! ### Writes as a whole -/

/-- **Files are replaced as a whole or not at all.** A write at a path that ends in a name ends: with
the text at its path and nothing else changed, or with an error that names the path and the store as
it was, whatever the medium refuses. If it refuses nothing, the write succeeds where the folder of the
path is there and the path leads to no folder, within the limits for names and paths, and is
`writeText`. During any series of writes each file but the new one holds the text of the last
successful write to it, or what it held at first. -/
theorem replace_whole_or_nothing (m : Medium) (s : Store) (d : Draft)
    (hname : EndsInName d.path.toList) :
    ((∃ s', s.replace m d = (.ended (.ok ()), s') ∧ s'.readText d.path = .ok d.contents ∧
          s'.home = s.home ∧ ∀ l, s'.get? l =
            if l = placeOf s.home d.path then some (.text d.contents) else s.get? l) ∨
        ∃ cause, s.replace m d = (.ended (.error (.write d.path cause)), s)) ∧
      (m.Calm →
        ((∃ s', s.replace m d = (.ended (.ok ()), s')) ↔ WithinLimits d.path.toList ∧
            s.IsFolder (parentOf d.path.toList) ∧ ¬s.IsFolder d.path.toList) ∧
          s.replace m d =
            match s.writeText d.path d.contents with
            | .ok s' => (.ended (.ok ()), s')
            | .error f => (.ended (.error f), s)) ∧
      ∀ drafts w, Writer.Reaches s drafts w → ∀ l, w.stage.temp? ≠ some l →
        w.store.get? l = Writer.held s w.done l := by
  refine ⟨?_, fun hm => ⟨replace_ok_iff hm hname, replace_eq_writeText hm hname⟩,
    fun drafts w hw l hl => hw.held hl⟩
  rcases replace_cases m s d with ⟨l, hlocate, hitem, hwritten⟩ | hrefused
  · have hget : (s.put l (.text d.contents)).get? l = some (.text d.contents) := by
      rw [get?_put hitem, if_pos rfl]
    refine .inl ⟨_, hwritten, readText_of_locate (locate_put hitem _ hlocate) hget, rfl, ?_⟩
    intro k
    rw [get?_put hitem, locate_eq_ok hlocate]
  · exact .inr hrefused

/-- A store with one file. -/
def shelf : Store :=
  ({} : Store).add ["shop".toList, "job_mappings.go".toList] (.text "old")

theorem replace_shelf :
    EndsInName "shop/job_mappings.go".toList ∧
      ∃ s', shelf.replace .spare ⟨"shop/job_mappings.go", "new"⟩ = (.ended (.ok ()), s') ∧
        s'.readText "shop/job_mappings.go" = .ok "new" := by
  have hname : EndsInName "shop/job_mappings.go".toList := by decide
  obtain ⟨hcases, hcalm, -⟩ :=
    replace_whole_or_nothing .spare shelf ⟨"shop/job_mappings.go", "new"⟩ hname
  obtain ⟨s₁, hok⟩ := (hcalm Medium.spare_calm).1.2
    ⟨by decide +kernel, by decide +kernel, by decide +kernel⟩
  refine ⟨hname, ?_⟩
  rcases hcases with ⟨s', hwritten, hread, -⟩ | ⟨cause, hrefused⟩
  · exact ⟨s', hwritten, hread⟩
  · cases hok.symm.trans hrefused

end Store

end SchemaMap
