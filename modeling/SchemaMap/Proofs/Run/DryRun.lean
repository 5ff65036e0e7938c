/-
# A dry run tells what a real run does

A dry run and a real run of a request do the same up to the point where the file has been made: both
end before it with one outcome, or both have the file, which the real run alone writes
(`Request.plan_dry_or_real`). So nothing but the write is left in which the two can differ. A dry run
that ends well can be followed by a real run that fails, though only because no file is taken at the
path of the request (`Request.dryRun_predicts`).

Key definitions: `Options.withDryRun`.
Key theorems: `Request.plan_dry_or_real`, `Request.process_dry_or_real`,
`Request.dryRun_predicts`.
-/
import SchemaMap.Proofs.Run.Process

namespace SchemaMap

/-- The options with nothing written, or with files written. -/
def Options.withDryRun (o : Options) (dry : Bool) : Options :=
  { o with dryRun := dry }

namespace Request

open Store

/-- The generated file does not depend on whether it is to be written. -/
theorem generate_withDryRun (o : Options) (dry : Bool) (r : Request) (driver : Driver)
    (source : Except FileFault String) :
    r.generate (o.withDryRun dry) driver source = r.generate o driver source := rfl

/-- **Once the script has been read, a dry run and a real run end alike or both have the file.** -/
theorem plan_dry_or_real (o : Options) (r : Request) (source : Except FileFault String) :
    (∃ x, (x.status = .failed ∨ x.status = .skipped) ∧
      ∀ dry, r.plan (o.withDryRun dry) source = .done x) ∨
    ∃ found file, r.plan (o.withDryRun true) source = .done (r.succeeded o .dryRun found) ∧
      r.plan (o.withDryRun false) source =
        .write (r.outputPath o.outputFileName) file (r.succeeded o .written found) := by
  cases hdriver : Driver.ofId? r.driver with
  | none =>
    left
    refine ⟨if o.strictDrivers then Outcome.failed r (.unknownDriver r.driver)
      else Outcome.skipped r [unknownDriverNote r.driver], ?_, fun dry => ?_⟩
    · cases o.strictDrivers
      · exact .inr rfl
      · exact .inl rfl
    · rw [plan, hdriver]
      rfl
  | some driver =>
    cases hmade : r.generate o driver source with
    | error e =>
      left
      refine ⟨Outcome.failed r e, .inl rfl, fun dry => ?_⟩
      rw [plan, hdriver]
      simp only [generate_withDryRun, hmade]
    | ok made =>
      obtain ⟨found, file⟩ := made
      right
      refine ⟨found, file, ?_, ?_⟩
      · rw [plan, hdriver]
        simp only [generate_withDryRun, hmade]
        rfl
      · rw [plan, hdriver]
        simp only [generate_withDryRun, hmade]
        rfl

/-- **A dry run and a real run on the same store.** They end alike and change nothing, or the file is
made in both; then the real run counts it as written if a file is taken at the path of the request,
and fails if it is refused. -/
theorem process_dry_or_real (s : Store) (o : Options) (r : Request) :
    (∃ x, (x.status = .failed ∨ x.status = .skipped) ∧
      ∀ dry, r.process s (o.withDryRun dry) = (x, s)) ∨
    ∃ found, r.process s (o.withDryRun true) = (r.succeeded o .dryRun found, s) ∧
      (s.acceptsFile (r.outputPath o.outputFileName) = .ok () ∧
          (r.process s (o.withDryRun false)).1 = r.succeeded o .written found ∨
        ∃ cause, s.acceptsFile (r.outputPath o.outputFileName) = .error cause ∧
          r.process s (o.withDryRun false) =
            (Outcome.failed r (.write (r.outputPath o.outputFileName) cause), s)) := by
  rcases plan_dry_or_real o r (s.readText r.sourcePath) with
    ⟨x, hx, hplan⟩ | ⟨found, file, hdry, hreal⟩
  · left
    refine ⟨x, hx, fun dry => ?_⟩
    rw [process, hplan dry]
  · right
    refine ⟨found, by rw [process, hdry], ?_⟩
    rw [process, hreal]
    cases hplace : s.placeFor (r.outputPath o.outputFileName) with
    | error cause =>
      right
      refine ⟨cause, ?_, ?_⟩
      · rw [acceptsFile, hplace]
        rfl
      · simp only [writeText, hplace]
    | ok l =>
      left
      constructor
      · rw [acceptsFile, hplace]
        rfl
      · simp only [writeText, hplace]

/-- **A dry run predicts the real run on the same store.** It changes nothing and counts no file as
written. If it fails or skips the request, the real run does the same. If it has made the file, the
real run writes it, just where a file is taken at the path of the request, and then the two outcomes
differ in their status alone; and else the real run fails with that refusal. -/
theorem dryRun_predicts (s : Store) (o : Options) (r : Request) :
    let dry := r.process s (o.withDryRun true)
    let real := r.process s (o.withDryRun false)
    let path := r.outputPath o.outputFileName
    dry.2 = s ∧ dry.1.status ≠ .written ∧
      (real.1.status = .written ↔ dry.1.status = .dryRun ∧ s.acceptsFile path = .ok ()) ∧
      (real.1.status = .written → dry.1 = { real.1 with status := .dryRun }) ∧
      (dry.1.status = .failed ∨ dry.1.status = .skipped → real = dry) ∧
      (dry.1.status = .dryRun → dry.1.outputPath = some path ∧
        (real.1.status = .written ∨
          ∃ cause, s.acceptsFile path = .error cause ∧
            real = (Outcome.failed r (.write path cause), s))) := by
  intro dry real path
  rcases process_dry_or_real s o r with ⟨x, hx, hsame⟩ | ⟨found, hdry, hreal⟩
  · have hdry : dry = (x, s) := hsame true
    have hreal : real = (x, s) := hsame false
    have hwritten : x.status ≠ .written := by
      rcases hx with hx | hx <;> simp [hx]
    have hmade : x.status ≠ .dryRun := by
      rcases hx with hx | hx <;> simp [hx]
    simp [hdry, hreal, hwritten, hmade]
  · have hdry : dry = (r.succeeded o .dryRun found, s) := hdry
    have hmade : (r.succeeded o .dryRun found).status = .dryRun := rfl
    have hpath : (r.succeeded o .dryRun found).outputPath = some path := rfl
    rcases hreal with ⟨haccept, hwrote⟩ | ⟨cause, haccept, hfailed⟩
    · have haccept : s.acceptsFile path = .ok () := haccept
      have hwrote : real.1 = r.succeeded o .written found := hwrote
      have hwritten : (r.succeeded o .written found).status = .written := rfl
      have hapart : r.succeeded o .dryRun found =
          { r.succeeded o .written found with status := .dryRun } := rfl
      simp [hdry, hmade, hpath, haccept, hwrote, hwritten, ← hapart]
    · have haccept : s.acceptsFile path = .error cause := haccept
      have hfailed : real = (Outcome.failed r (.write path cause), s) := hfailed
      have hnot : (Outcome.failed r (.write path cause)).status = .failed := rfl
      simp [hdry, hmade, hpath, haccept, hfailed, hnot]

/-- A folder in the place of the file is no matter to a dry run. -/
example :
    let s := (({} : Store).add ["shop".toList, "create.sql".toList]
      (.text "CREATE TABLE orders (\n  id INT\n);\n")).add
        ["shop".toList, "job_mappings.go".toList] .folder
    let r : Request := ⟨"shop", "create.sql", "mysql"⟩
    let o : Options := { tool := "testdata" }
    (r.process s (o.withDryRun true)).1.status = .dryRun ∧
      (r.process s (o.withDryRun false)).1.status = .failed := by
  decide +kernel

end Request
end SchemaMap
