/-
# What a request reads and writes

A request reads its script and writes one file, at most. The two stages are told apart: what is
left to do once the script has been read (`plan_eq_done`, `plan_eq_write`), and the file that is
written then (`Request.written?`), which is all that changes in the store (`process_eq`).

So a request can change its own file and nothing else, and only if its outcome says so. And its
outcome depends on two things only, what is read at the path of its script and whether a file is
taken at the path of its own (`process_own_file`). In the store these are the locations on the way
of the two paths (`process_congr`).

Key definitions: `Request.Makes`, `Request.written?`, `Store.acceptsFile`, `Request.target?`,
`Request.footprint`.
Key theorems: `Request.plan_eq_write`, `Request.process_eq`, `Request.written?_eq_some`,
`Request.status_written_iff`, `Request.process_own_file`, `Request.process_congr`.
-/
import SchemaMap.Run.Process
import SchemaMap.Proofs.Store.Path

namespace SchemaMap

/-! ### Outcomes -/

/-- An outcome that fits its request: it repeats the request, and tells of a failure or of a path
just where its status says so. -/
structure Outcome.Fits (r : Request) (x : Outcome) : Prop where
  folder : x.folder = r.folder
  sqlFile : x.sqlFile = r.sqlFile
  driver : x.driver = r.driver
  error_iff : x.error.isSome ↔ x.status = .failed
  outputPath_iff : x.outputPath.isSome ↔ x.status = .written ∨ x.status = .dryRun

namespace Outcome

theorem fits_skipped (r : Request) (notes : List Diagnostic) : (skipped r notes).Fits r := by
  constructor <;> simp [skipped, ofRequest]

theorem fits_failed (r : Request) (fault : Fault) : (failed r fault).Fits r := by
  constructor <;> simp [failed, ofRequest]

end Outcome

namespace Request

theorem fits_succeeded (o : Options) (r : Request) {status : Status}
    (h : status = .written ∨ status = .dryRun) (found : Extraction) :
    (r.succeeded o status found).Fits r := by
  rcases h with rfl | rfl <;> constructor <;> simp [succeeded, Outcome.ofRequest]

/-! ### Once the script has been read -/

/-- The text `file` is what is made of the script `script` for a request. -/
def Makes (o : Options) (r : Request) (script file : String) : Prop :=
  ∃ driver found, Driver.ofId? r.driver = some driver ∧ driver.read script.toList = .ok found ∧
    (Artifact.ofExtraction o r driver found).render = .ok file

theorem generate_eq_ok {o : Options} {r : Request} {driver : Driver}
    {source : Except FileFault String} {found : Extraction} {file : String}
    (h : r.generate o driver source = .ok (found, file)) :
    ∃ script, source = .ok script ∧ driver.read script.toList = .ok found ∧
      (Artifact.ofExtraction o r driver found).render = .ok file := by
  unfold generate at h
  rcases source with e | script
  · cases h
  · rcases hread : driver.read script.toList with e | x
    · simp [hread] at h
    · rcases hrender : (Artifact.ofExtraction o r driver x).render with e | text
      · simp [hread, hrender, Except.map] at h
      · simp only [hread, hrender, Except.map, Except.ok.injEq, Prod.mk.injEq] at h
        obtain ⟨rfl, rfl⟩ := h
        exact ⟨script, rfl, hread, hrender⟩

/-- Where nothing is left to do, the outcome fits the request and no file counts as written. -/
theorem plan_eq_done {o : Options} {r : Request} {source : Except FileFault String}
    {x : Outcome} (h : r.plan o source = .done x) : x.Fits r ∧ x.status ≠ .written := by
  unfold plan at h
  rcases hdriver : Driver.ofId? r.driver with _ | driver
  · simp only [hdriver, Step.done.injEq] at h
    subst h
    split
    · exact ⟨Outcome.fits_failed r _, by simp [Outcome.failed, Outcome.ofRequest]⟩
    · exact ⟨Outcome.fits_skipped r _, by simp [Outcome.skipped, Outcome.ofRequest]⟩
  · simp only [hdriver] at h
    rcases hmade : r.generate o driver source with e | ⟨found, file⟩
    · simp only [hmade, Step.done.injEq] at h
      subst h
      exact ⟨Outcome.fits_failed r e, by simp [Outcome.failed, Outcome.ofRequest]⟩
    · simp only [hmade] at h
      split at h
      · obtain rfl := Step.done.inj h
        exact ⟨fits_succeeded o r (.inr rfl) found, by simp [succeeded, Outcome.ofRequest]⟩
      · cases h

/-- Where a file is to be written, its text is made of the script, and its path is that of the
request. -/
theorem plan_eq_write {o : Options} {r : Request} {source : Except FileFault String}
    {path contents : String} {x : Outcome} (h : r.plan o source = .write path contents x) :
    path = r.outputPath o.outputFileName ∧ o.dryRun = false ∧
      (Driver.ofId? r.driver).isSome ∧ x.Fits r ∧ x.status = .written ∧
      ∃ script, source = .ok script ∧ r.Makes o script contents := by
  unfold plan at h
  rcases hdriver : Driver.ofId? r.driver with _ | driver
  · simp [hdriver] at h
  · simp only [hdriver] at h
    rcases hmade : r.generate o driver source with e | ⟨found, file⟩
    · simp [hmade] at h
    · simp only [hmade] at h
      split at h
      · cases h
      · rename_i hdry
        obtain ⟨rfl, rfl, rfl⟩ := Step.write.inj h
        obtain ⟨script, hsource, hread, hrender⟩ := generate_eq_ok hmade
        exact ⟨rfl, by simpa using hdry, rfl, fits_succeeded o r (.inl rfl) found, rfl, script,
          hsource, driver, found, hdriver, hread, hrender⟩

/-- What can be made of the script is to be written, unless nothing is written at all. -/
theorem plan_of_makes {o : Options} {r : Request} {script file : String}
    (hdry : o.dryRun = false) (hmade : r.Makes o script file) :
    ∃ x, r.plan o (.ok script) = .write (r.outputPath o.outputFileName) file x := by
  obtain ⟨driver, found, hdriver, hread, hrender⟩ := hmade
  have hgenerate : r.generate o driver (.ok script) = .ok (found, file) := by
    simp [generate, hread, hrender, Except.map]
  exact ⟨r.succeeded o .written found, by simp [plan, hdriver, hgenerate, hdry]⟩

/-! ### The file of a request -/

/-- The file that a request writes, with its location. -/
def written? (s : Store) (o : Options) (r : Request) : Option (Location × String) :=
  match r.plan o (s.readText r.sourcePath) with
  | .done _ => none
  | .write path contents _ => (s.placeFor path).toOption.map (·, contents)

end Request

namespace Store

/-- The store with one more file, if there is one. -/
def withFile (s : Store) : Option (Location × String) → Store
  | none => s
  | some (l, contents) => s.put l (.text contents)

/-- Accepts a path at which a file can be written. -/
def acceptsFile (s : Store) (path : String) : Except FileFault Unit :=
  (s.placeFor path).map fun _ => ()

theorem withFile_home (s : Store) (file : Option (Location × String)) :
    (s.withFile file).home = s.home := by
  rcases file with _ | ⟨l, contents⟩ <;> rfl

theorem Same.withFile {s t : Store} (h : Same s t) (file : Option (Location × String)) :
    Same (s.withFile file) (t.withFile file) := by
  rcases file with _ | ⟨l, contents⟩
  · exact h
  · exact h.put l (.text contents)

/-- A file outside of some locations leaves them as they were. -/
theorem agreeOn_withFile {ls : List Location} {file : Option (Location × String)}
    (h : ∀ l contents, file = some (l, contents) → l ∉ ls) (s : Store) :
    AgreeOn ls s (s.withFile file) := by
  rcases file with _ | ⟨l, contents⟩
  · exact (Same.refl s).agreeOn ls
  · exact agreeOn_put (h l contents rfl) s _

end Store

namespace Request

open Store

/-- The file that is written is all that a request changes. -/
theorem process_eq (s : Store) (o : Options) (r : Request) :
    (r.process s o).2 = s.withFile (r.written? s o) := by
  unfold process written?
  rcases r.plan o (s.readText r.sourcePath) with x | ⟨path, contents, x⟩
  · rfl
  · simp only [writeText]
    rcases s.placeFor path with e | l <;> rfl

theorem process_home (s : Store) (o : Options) (r : Request) :
    (r.process s o).2.home = s.home := by
  rw [process_eq, withFile_home]

/-- A file is written just where the outcome says so. -/
theorem written?_isSome (s : Store) (o : Options) (r : Request) :
    (r.written? s o).isSome ↔ (r.process s o).1.status = .written := by
  unfold process written?
  rcases hplan : r.plan o (s.readText r.sourcePath) with x | ⟨path, contents, x⟩
  · simpa using (plan_eq_done hplan).2
  · obtain ⟨-, -, -, -, hwritten, -⟩ := plan_eq_write hplan
    simp only [writeText]
    rcases s.placeFor path with e | l
    · simp [Except.toOption, Outcome.failed, Outcome.ofRequest]
    · simp [Except.toOption, hwritten]

/-- Where the file of a request is written, if one may be. -/
def target? (home : Location) (o : Options) (r : Request) : Option Location :=
  if o.dryRun ∨ (Driver.ofId? r.driver).isNone then none
  else some (placeOf home (r.outputPath o.outputFileName))

theorem target?_eq_some {home l : Location} {o : Options} {r : Request}
    (h : r.target? home o = some l) : l = placeOf home (r.outputPath o.outputFileName) := by
  unfold target? at h
  split at h
  · cases h
  · exact (Option.some.inj h).symm

/-- A file may be written for a known driver, unless nothing is written at all. -/
theorem target?_of_known {o : Options} {r : Request} (home : Location) (hdry : o.dryRun = false)
    (hdriver : (Driver.ofId? r.driver).isSome) :
    r.target? home o = some (placeOf home (r.outputPath o.outputFileName)) := by
  have hknown : ¬(o.dryRun = true ∨ (Driver.ofId? r.driver).isNone = true) := by
    simp [hdry, Option.isSome_iff_ne_none.1 hdriver]
  rw [target?, if_neg hknown]

/-- A file that is written holds what is made of the script, and stands where the path of the
request leads. -/
theorem written?_eq_some {s : Store} {o : Options} {r : Request} {l : Location}
    {contents : String} (h : r.written? s o = some (l, contents)) :
    r.target? s.home o = some l ∧ s.placeFor (r.outputPath o.outputFileName) = .ok l ∧
      ∃ script, s.readText r.sourcePath = .ok script ∧ r.Makes o script contents := by
  unfold written? at h
  rcases hplan : r.plan o (s.readText r.sourcePath) with x | ⟨path, file, x⟩
  · simp [hplan] at h
  · obtain ⟨rfl, hdry, hdriver, -, -, hmade⟩ := plan_eq_write hplan
    rcases hplace : s.placeFor (r.outputPath o.outputFileName) with e | k
    · simp [hplan, hplace, Except.toOption] at h
    · simp only [hplan, hplace, Except.toOption, Option.map_some, Option.some.injEq,
        Prod.mk.injEq] at h
      obtain ⟨rfl, rfl⟩ := h
      obtain ⟨-, hk, -⟩ := placeFor_eq_ok hplace
      exact ⟨by rw [target?_of_known s.home hdry hdriver, hk], rfl, hmade⟩

/-- A file counts as written just where one can be made of the script and a file is taken at the
path of the request. -/
theorem status_written_iff (s : Store) (o : Options) (r : Request) :
    (r.process s o).1.status = .written ↔
      o.dryRun = false ∧
        (∃ script file, s.readText r.sourcePath = .ok script ∧ r.Makes o script file) ∧
        s.acceptsFile (r.outputPath o.outputFileName) = .ok () := by
  constructor
  · intro hstatus
    obtain ⟨⟨l, file⟩, hfile⟩ := Option.isSome_iff_exists.1 ((written?_isSome s o r).2 hstatus)
    obtain ⟨htarget, hplace, script, hscript, hmade⟩ := written?_eq_some hfile
    have hdry : o.dryRun = false := by
      rcases hdry : o.dryRun with _ | _
      · rfl
      · simp [target?, hdry] at htarget
    exact ⟨hdry, ⟨script, file, hscript, hmade⟩, by simp [acceptsFile, hplace, Except.map]⟩
  · rintro ⟨hdry, ⟨script, file, hscript, hmade⟩, haccept⟩
    obtain ⟨x, hplan⟩ := plan_of_makes hdry hmade
    obtain ⟨-, -, -, -, hwritten, -⟩ := plan_eq_write hplan
    unfold acceptsFile at haccept
    rcases hplace : s.placeFor (r.outputPath o.outputFileName) with e | l
    · simp [hplace, Except.map] at haccept
    · simp [process, hscript, hplan, writeText, hplace, hwritten]

/-! ### What the outcome depends on -/

/-- What a request reads at the path of its script and whether a file is taken at its own path
decide its outcome and the text that it writes. -/
theorem process_of_answers {s t : Store} {o : Options} {r : Request}
    (hread : t.readText r.sourcePath = s.readText r.sourcePath)
    (haccept : t.acceptsFile (r.outputPath o.outputFileName) =
      s.acceptsFile (r.outputPath o.outputFileName)) :
    (r.process t o).1 = (r.process s o).1 ∧
      (r.written? t o).map Prod.snd = (r.written? s o).map Prod.snd := by
  unfold process written?
  rw [hread]
  rcases hplan : r.plan o (s.readText r.sourcePath) with x | ⟨path, contents, x⟩
  · exact ⟨rfl, rfl⟩
  · obtain ⟨rfl, -⟩ := plan_eq_write hplan
    unfold acceptsFile at haccept
    simp only [writeText]
    rcases hs : s.placeFor (r.outputPath o.outputFileName) with e | k <;>
      rcases ht : t.placeFor (r.outputPath o.outputFileName) with e' | k' <;>
      simp [hs, ht, Except.map] at haccept
    · simp [haccept, Except.toOption]
    · simp [Except.toOption]

/-- The locations on which the outcome of a request may depend. -/
def footprint (home : Location) (o : Options) (r : Request) : List Location :=
  if (Driver.ofId? r.driver).isNone then []
  else
    trailOf home r.sourcePath ++
      if o.dryRun then [] else trailOf home (r.outputPath o.outputFileName)

theorem mem_footprint {home l : Location} {o : Options} {r : Request}
    (h : l ∈ r.footprint home o) :
    l ∈ trailOf home r.sourcePath ∨ l ∈ trailOf home (r.outputPath o.outputFileName) := by
  unfold footprint at h
  split at h
  · cases h
  · rcases List.mem_append.1 h with h | h
    · exact .inl h
    · split at h
      · cases h
      · exact .inr h

theorem target?_mem_footprint {home : Location} {o : Options} {r : Request} {l : Location}
    (h : r.target? home o = some l) : l ∈ r.footprint home o := by
  unfold target? at h
  split at h
  · cases h
  · rename_i hknown
    obtain ⟨hdry, hdriver⟩ := not_or.1 hknown
    obtain rfl := Option.some.inj h
    rw [footprint, if_neg hdriver, if_neg hdry]
    exact List.mem_append_right _ (placeOf_mem_trailOf home _)

/-- The script of an unknown driver does not count. -/
theorem plan_congr {s t : Store} {o : Options} {r : Request}
    (h : AgreeOn (r.footprint s.home o) s t) :
    r.plan o (t.readText r.sourcePath) = r.plan o (s.readText r.sourcePath) := by
  rcases hdriver : Driver.ofId? r.driver with _ | driver
  · simp only [plan, hdriver]
  · have hsub : trailOf s.home r.sourcePath ⊆ r.footprint s.home o := by
      intro k hk
      simp [footprint, hdriver, hk]
    rw [readText_congr (h.mono hsub)]

/-- Where two stores agree on the footprint of a request, its outcome and its file are the
same. -/
theorem process_congr {s t : Store} {o : Options} {r : Request}
    (h : AgreeOn (r.footprint s.home o) s t) :
    (r.process t o).1 = (r.process s o).1 ∧ r.written? t o = r.written? s o := by
  unfold process written?
  rw [plan_congr h]
  rcases hplan : r.plan o (s.readText r.sourcePath) with x | ⟨path, contents, x⟩
  · exact ⟨rfl, rfl⟩
  · obtain ⟨rfl, hdry, hdriver, -⟩ := plan_eq_write hplan
    have hsub : trailOf s.home (r.outputPath o.outputFileName) ⊆ r.footprint s.home o := by
      intro k hk
      simp [footprint, hdry, Option.isSome_iff_ne_none.1 hdriver, hk]
    have hplace := placeFor_congr (h.mono hsub)
    simp only [writeText, hplace, and_true]
    rcases s.placeFor (r.outputPath o.outputFileName) with e | l <;> rfl

/-- **A request touches at most its own file.** The outcome is that a file was written just where
one can be made of the script and is taken at the path of the request. Then the store has changed
at that path alone, which now holds what is made of the script as it was before; with every other
outcome nothing has changed. And in any other store where the script reads the same and a file is
taken or refused in the same way, the outcome and the text that is written are the same. -/
theorem process_own_file (s : Store) (o : Options) (r : Request) :
    ((r.process s o).1.status = .written ↔
      o.dryRun = false ∧
        (∃ script file, s.readText r.sourcePath = .ok script ∧ r.Makes o script file) ∧
        s.acceptsFile (r.outputPath o.outputFileName) = .ok ()) ∧
    ((r.process s o).1.status = .written →
      ∃ l script file, s.locate (r.outputPath o.outputFileName).toList = .ok l ∧
        s.readText r.sourcePath = .ok script ∧ r.Makes o script file ∧
        (r.process s o).2.home = s.home ∧
        (∀ k, (r.process s o).2.get? k = if k = l then some (.text file) else s.get? k) ∧
        (r.process s o).2.readText (r.outputPath o.outputFileName) = .ok file) ∧
    ((r.process s o).1.status ≠ .written → (r.process s o).2 = s) ∧
    ∀ t : Store, t.readText r.sourcePath = s.readText r.sourcePath →
      t.acceptsFile (r.outputPath o.outputFileName) =
        s.acceptsFile (r.outputPath o.outputFileName) →
      (r.process t o).1 = (r.process s o).1 ∧
        ((r.process s o).1.status = .written →
          (r.process t o).2.readText (r.outputPath o.outputFileName) =
            (r.process s o).2.readText (r.outputPath o.outputFileName)) := by
  have hread : ∀ {u : Store} {l : Location} {file : String}, r.written? u o = some (l, file) →
      (r.process u o).2.readText (r.outputPath o.outputFileName) = .ok file := by
    intro u l file hfile
    rw [process_eq, hfile]
    exact readText_put (written?_eq_some hfile).2.1 file
  refine ⟨status_written_iff s o r, ?_, ?_, ?_⟩
  · intro hstatus
    obtain ⟨⟨l, file⟩, hfile⟩ := Option.isSome_iff_exists.1 ((written?_isSome s o r).2 hstatus)
    obtain ⟨-, hplace, script, hscript, hmade⟩ := written?_eq_some hfile
    obtain ⟨hlocate, -, hitem⟩ := placeFor_eq_ok hplace
    refine ⟨l, script, file, hlocate, hscript, hmade, process_home s o r, ?_, hread hfile⟩
    intro k
    rw [process_eq, hfile]
    exact get?_put hitem _ k
  · intro hstatus
    have hnone : r.written? s o = none := by
      have hnot := mt (written?_isSome s o r).1 hstatus
      simpa using hnot
    rw [process_eq, hnone]
    rfl
  · intro t hscript haccept
    obtain ⟨houtcome, htext⟩ := process_of_answers hscript haccept
    refine ⟨houtcome, fun hstatus => ?_⟩
    obtain ⟨⟨l, file⟩, hfile⟩ := Option.isSome_iff_exists.1 ((written?_isSome s o r).2 hstatus)
    rw [hfile] at htext
    obtain ⟨⟨k, file'⟩, hfile', hsame⟩ := Option.map_eq_some_iff.1 htext
    obtain rfl : file' = file := hsame
    rw [hread hfile, hread hfile']

/-! ### A shop -/

/-- A script with one table. -/
def shopScript : String := "CREATE TABLE orders (\n  id INT\n);\n"

/-- A folder with the script and an older file. -/
def shopFiles : Store :=
  (({} : Store).add ["db".toList, "shop".toList, "create.sql".toList] (.text shopScript)).add
    ["db".toList, "shop".toList, "job_mappings.go".toList] (.text "package old\n")

/-- A folder with the same script among other files. -/
def movedFiles : Store :=
  (({} : Store).add ["notes".toList] .binary).add
    ["db".toList, "shop".toList, "create.sql".toList] (.text shopScript)

def shopOptions : Options := { tool := "testdata" }

def shopRequest : Request := ⟨"db/shop", "create.sql", "mysql"⟩

/-- A request for a script that is not there. -/
def missingRequest : Request := ⟨"db/shop", "drop.sql", "mysql"⟩

theorem process_own_file_shop :
    (shopRequest.process shopFiles shopOptions).1.status = .written ∧
      movedFiles.readText shopRequest.sourcePath = shopFiles.readText shopRequest.sourcePath ∧
      movedFiles.acceptsFile "db/shop/job_mappings.go" =
        shopFiles.acceptsFile "db/shop/job_mappings.go" ∧
      (shopRequest.process movedFiles shopOptions).2.readText "db/shop/job_mappings.go" =
        (shopRequest.process shopFiles shopOptions).2.readText "db/shop/job_mappings.go" ∧
      (missingRequest.process shopFiles shopOptions).1.status = .failed ∧
      (missingRequest.process shopFiles shopOptions).2 = shopFiles := by
  have hwritten : (shopRequest.process shopFiles shopOptions).1.status = .written := by
    decide +kernel
  have hread : movedFiles.readText shopRequest.sourcePath =
      shopFiles.readText shopRequest.sourcePath := by rfl
  have haccept : movedFiles.acceptsFile "db/shop/job_mappings.go" =
      shopFiles.acceptsFile "db/shop/job_mappings.go" := by rfl
  have hfailed : (missingRequest.process shopFiles shopOptions).1.status = .failed := by
    decide +kernel
  have hshop := process_own_file shopFiles shopOptions shopRequest
  have hmissing := process_own_file shopFiles shopOptions missingRequest
  exact ⟨hwritten, hread, haccept, (hshop.2.2.2 movedFiles hread haccept).2 hwritten, hfailed,
    hmissing.2.2.1 (by rw [hfailed]; decide)⟩

end Request
end SchemaMap
