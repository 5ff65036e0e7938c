/-
# What a run leaves as it was

All that a run changes are the files that its summary counts as written, each where the path of
its request leads (`Run.changed_of_result?`). So a script that stands elsewhere is the same after
the run as before, whatever has happened on the way (`Run.result?_keeps_script`).

Nothing keeps a script from standing just there: it may have the name of the generated file, and
then the run puts the file in its place (`Run.script_overwritten`).

Key theorems: `Run.changed_of_result?`, `Run.result?_keeps_script`.
-/
import SchemaMap.Proofs.Run.Summary

namespace SchemaMap
namespace Run

open Request Store

/-- A file that counts as written is on the list of outcomes. -/
theorem Progress.Wrote.outcome {o : Options} {requests : List Request} {home l : Location}
    {p : Progress} (h : p.Wrote o home l) (hsound : p.Sound o requests) {xs : List Outcome}
    (hended : List.Forall₂ (fun j x => j.stage = .ended x) p.jobs xs) :
    ∃ q y, (q, y) ∈ requests.zip xs ∧ y.status = .written ∧ q.target? home o = some l := by
  obtain ⟨i, r, x, hj, hx, htarget⟩ := h
  obtain ⟨hi, hget⟩ := List.getElem?_eq_some_iff.1 hj
  have hi' : i < xs.length := hended.length_eq ▸ hi
  have hzip : i < (p.jobs.zip xs).length := by
    rw [List.length_zip]
    omega
  have hmem : (p.jobs[i], xs[i]) ∈ p.jobs.zip xs :=
    List.mem_iff_getElem.2 ⟨i, hzip, List.getElem_zip⟩
  have hstage := List.forall₂_zip hended hmem
  rw [hget] at hstage hmem
  obtain rfl : x = xs[i] := by simpa using hstage
  refine ⟨r, xs[i], ?_, hx, htarget⟩
  rw [← hsound.requests, List.zip_map_left]
  exact List.mem_map.2 ⟨_, hmem, rfl⟩

/-- What a run changes counts as written, and every folder is in its place afterwards. -/
theorem changed_of_result? {o : Options} {requests : List Request} {cancelled : Bool}
    {s s' : Store} {turns : List Turn} {x : Summary}
    (h : result? o requests cancelled s turns = some (x, s')) :
    s'.home = s.home ∧ (∀ l, s.get? l = some .folder → s'.get? l = some .folder) ∧
      ∀ l, s'.get? l = s.get? l ∨ ∃ q y, (q, y) ∈ requests.zip x.outcomes ∧
        y.status = .written ∧ q.target? s.home o = some l := by
  obtain ⟨p, hafter, hx, rfl⟩ := result?_eq_some h
  obtain ⟨xs, hended, rfl⟩ := Progress.summary?_eq_some.1 hx
  have hstart := Progress.Sound.start o requests cancelled s
  have hsound := Progress.sound_after hafter hstart
  have htraced := Progress.traced_after hafter hstart (.start o requests cancelled s)
  refine ⟨htraced.home, htraced.folder, fun l => ?_⟩
  exact (htraced.written l).imp_right fun hwrote => hwrote.outcome hsound hended

/-- **A run keeps every script that stands where none of its files is written.** Some run comes
to its end, and after every run that does, each script whose location is not that of a file that
counts as written can be found where it was, as it was. -/
theorem result?_keeps_script {o : Options} {requests : List Request}
    (hcheck : check o requests = .ok ()) (cancelled : Bool) (s : Store) :
    (∃ turns, (∀ t ∈ turns, t.isQuiet = true) ∧
      result? o requests cancelled s turns = some (execute o requests cancelled s)) ∧
    ∀ turns x s', result? o requests cancelled s turns = some (x, s') →
      ∀ r ∈ requests, ∀ l, s.locate r.sourcePath.toList = .ok l →
        (∀ q y, (q, y) ∈ requests.zip x.outcomes → y.status = .written →
          q.target? s.home o ≠ some l) →
        s'.locate r.sourcePath.toList = .ok l ∧ s'.get? l = s.get? l ∧
          s'.readText r.sourcePath = s.readText r.sourcePath := by
  refine ⟨result?_execute (options_of_check hcheck).1 requests cancelled s, ?_⟩
  intro turns x s' h r _ l hl hapart
  obtain ⟨hhome, hfolders, hchanged⟩ := changed_of_result? h
  have hlocate : s'.locate r.sourcePath.toList = .ok l := locate_of_folders hhome hfolders hl
  have hget : s'.get? l = s.get? l := by
    rcases hchanged l with hget | ⟨q, y, hmem, hwritten, htarget⟩
    · exact hget
    · exact absurd htarget (hapart q y hmem hwritten)
  refine ⟨hlocate, hget, ?_⟩
  simp only [readText, hlocate, hl, hget]

theorem result?_keeps_script_shop :
    check shopOptions [shopRequest, oracleRequest] = .ok () ∧
      ∃ x s', result? shopOptions [shopRequest, oracleRequest] false shopFiles crossedTurns =
        some (x, s') ∧ s'.readText shopRequest.sourcePath = .ok shopScript := by
  have hcheck : check shopOptions [shopRequest, oracleRequest] = .ok () := by rfl
  have hends : (result? shopOptions [shopRequest, oracleRequest] false shopFiles
      crossedTurns).isSome = true := by decide +kernel
  obtain ⟨⟨x, s'⟩, h⟩ := Option.isSome_iff_exists.1 hends
  have hlocate : shopFiles.locate shopRequest.sourcePath.toList =
      .ok (placeOf shopFiles.home "db/shop/create.sql") := by rfl
  have hapart : ∀ q ∈ [shopRequest, oracleRequest],
      q.target? shopFiles.home shopOptions ≠
        some (placeOf shopFiles.home "db/shop/create.sql") := by decide +kernel
  have hscript : shopFiles.readText shopRequest.sourcePath = .ok shopScript := by rfl
  obtain ⟨-, -, hread⟩ := (result?_keeps_script hcheck false shopFiles).2 crossedTurns x s' h
    shopRequest List.mem_cons_self _ hlocate fun q y hmem _ => hapart q (List.of_mem_zip hmem).1
  exact ⟨hcheck, x, s', h, hread.trans hscript⟩

/-- A folder in which the script has the name of the generated file. -/
def namedAlike : Store :=
  ({} : Store).add ["shop".toList, "job_mappings.go".toList] (.text shopScript)

/-- A request whose script is in the place of its file. -/
def alikeRequest : Request := ⟨"shop", "job_mappings.go", "mysql"⟩

/-- Where both of them stand. -/
abbrev alikePlace : Location :=
  ["tmp".toList, "work".toList, "shop".toList, "job_mappings.go".toList]

theorem script_overwritten :
    ¬∀ (o : Options) (requests : List Request) (cancelled : Bool) (s : Store) (turns : List Turn)
      (x : Summary) (s' : Store), check o requests = .ok () →
        result? o requests cancelled s turns = some (x, s') →
        ∀ r ∈ requests, ∀ l, s.locate r.sourcePath.toList = .ok l → s'.get? l = s.get? l := by
  intro h
  have hcheck : check shopOptions [alikeRequest] = .ok () := by rfl
  have hlocate : namedAlike.locate alikeRequest.sourcePath.toList = .ok alikePlace := by rfl
  have hworkers : 0 < shopOptions.workerCount := by decide
  obtain ⟨turns, -, hresult⟩ := result?_execute hworkers [alikeRequest] false namedAlike
  have hsame := h shopOptions [alikeRequest] false namedAlike turns _ _ hcheck hresult
    alikeRequest List.mem_cons_self _ hlocate
  have hchanged : (execute shopOptions [alikeRequest] false namedAlike).2.get? alikePlace ≠
      namedAlike.get? alikePlace := by decide +kernel
  exact hchanged hsame

end Run
end SchemaMap
