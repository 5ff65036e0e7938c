/-
# What the summary of a run tells

The fields of a summary belong together (`Summary.Consistent`): the outcomes repeat the requests,
the counts are those of the outcomes, and the status and the failure of the run follow from them.
A summary that is made of outcomes that fit the requests has its fields so
(`Summary.consistent_ofOutcomes`), and every run ends with such a summary, whatever has happened
to it (`Run.result?_consistent`).

Key definitions: `Summary.Consistent`.
Key theorems: `Summary.consistent_ofOutcomes`, `Run.exists_result?`, `Run.result?_eq_some`,
`Run.result?_consistent`.
-/
import SchemaMap.Proofs.Run.Check
import SchemaMap.Proofs.Run.Progress

namespace SchemaMap

theorem Status.hasSucceeded_iff {s : Status} :
    s.hasSucceeded = true ↔ s = .written ∨ s = .dryRun := by
  cases s <;> simp [hasSucceeded]

namespace Summary

/-- A summary that tells of the requests, and whether the run was cancelled, as it is. -/
structure Consistent (requests : List Request) (cancelled : Bool) (x : Summary) : Prop where
  outcomes : List.Forall₂ Outcome.Fits requests x.outcomes
  total : x.total = requests.length
  succeeded : x.succeeded = x.outcomes.countP fun y => y.status = .written ∨ y.status = .dryRun
  failed : x.failed = x.outcomes.countP fun y => y.status = .failed
  skipped : x.skipped = x.outcomes.countP fun y => y.status = .skipped
  adds_up : x.succeeded + x.failed + x.skipped = x.total
  mappings : x.mappings = ((x.outcomes.filter fun y =>
    y.status = .written ∨ y.status = .dryRun).map (·.mappings)).sum
  failed_iff : x.status = "failed" ↔ ∃ y ∈ x.outcomes, y.status = .failed
  cancelled_iff : x.status = "cancelled" ↔
    (¬∃ y ∈ x.outcomes, y.status = .failed) ∧ cancelled = true
  completed_iff : x.status = "completed" ↔
    (¬∃ y ∈ x.outcomes, y.status = .failed) ∧ cancelled = false
  check : x.check =
    if x.status = "failed" then .error (.requestsFailed x.failed x.total)
    else if x.status = "cancelled" then .error .cancelled
    else .ok ()

theorem countP_status : ∀ xs : List Outcome,
    xs.countP (·.status.hasSucceeded) + xs.countP (·.status == .failed) +
      xs.countP (·.status == .skipped) = xs.length
  | [] => rfl
  | x :: xs => by
    have ih := countP_status xs
    simp only [List.countP_cons, List.length_cons]
    cases x.status <;> simp +decide <;> omega

theorem failed_pos_iff {xs : List Outcome} :
    0 < xs.countP (·.status == .failed) ↔ ∃ y ∈ xs, y.status = .failed := by
  simp [List.countP_pos_iff]

/-- A summary is consistent if it is made of outcomes that fit the requests. -/
theorem consistent_ofOutcomes {requests : List Request} {xs : List Outcome}
    (h : List.Forall₂ Outcome.Fits requests xs) (cancelled : Bool) :
    (ofOutcomes cancelled xs).Consistent requests cancelled := by
  have hsucceeded : (fun y : Outcome => y.status.hasSucceeded) =
      fun y => decide (y.status = .written ∨ y.status = .dryRun) := by
    funext y
    rw [Bool.eq_iff_iff, Status.hasSucceeded_iff, decide_eq_true_iff]
  constructor
  case outcomes => exact h
  case total => exact h.length_eq.symm
  case succeeded =>
    simp only [ofOutcomes]
    rw [← List.countP_eq_length_filter, hsucceeded]
  case failed => rfl
  case skipped => rfl
  case adds_up =>
    simp only [ofOutcomes]
    rw [← List.countP_eq_length_filter]
    exact countP_status xs
  case mappings =>
    simp only [ofOutcomes]
    rw [List.sum_eq_foldl, List.foldl_map, hsucceeded]
  -- The rest follows from the word for the status, which depends on two questions only.
  all_goals
    simp only [ofOutcomes, Summary.check, ← failed_pos_iff]
    by_cases hany : 0 < xs.countP (·.status == .failed)
    · simp [hany]
    · cases cancelled <;> simp [hany]

end Summary

namespace Run
namespace Progress

theorem Sound.consistent {o : Options} {requests : List Request} {p : Progress}
    (h : p.Sound o requests) {x : Summary} (hx : p.summary? = some x) :
    x.Consistent requests p.cancelled := by
  obtain ⟨xs, hended, rfl⟩ := summary?_eq_some.1 hx
  apply Summary.consistent_ofOutcomes
  rw [← h.requests, List.forall₂_map_left_iff]
  refine ((List.forall₂_and_left _ _).2 ⟨h.fits, hended⟩).imp ?_
  rintro j y ⟨hfits, hj⟩
  rw [hj] at hfits
  exact hfits

theorem Untouched.outcomes {s : Store} {p : Progress} (h : Untouched s p) {x : Summary}
    (hx : p.summary? = some x) :
    x.outcomes = (p.jobs.map (·.request)).map fun r => Outcome.skipped r [cancelledNote] := by
  obtain ⟨xs, hended, rfl⟩ := summary?_eq_some.1 hx
  have hskipped : List.Forall₂ (fun j y => Outcome.skipped j.request [cancelledNote] = y)
      p.jobs xs := by
    refine ((List.forall₂_and_left _ _).2 ⟨h.stages, hended⟩).imp ?_
    rintro j y ⟨hstage, hj⟩
    simpa [hj, eq_comm] using hstage
  rw [← List.forall₂_map_left_iff (f := fun j : Job => Outcome.skipped j.request [cancelledNote]),
    List.forall₂_eq_eq_eq] at hskipped
  rw [List.map_map]
  exact hskipped.symm

end Progress

/-- Wherever a run has come, it can be brought to its end. -/
theorem exists_result? {o : Options} (hworkers : 0 < o.workerCount) {requests : List Request}
    {cancelled : Bool} {s : Store} {turns : List Turn} {p : Progress}
    (h : (Progress.start requests cancelled s).after? o turns = some p) :
    ∃ more x s', (∀ t ∈ more, t.isQuiet = true) ∧
      result? o requests cancelled s (turns ++ more) = some (x, s') := by
  obtain ⟨more, q, x, hquiet, hafter, hx⟩ := Progress.exists_summary hworkers p
  refine ⟨more, x, q.store, hquiet, ?_⟩
  simp [result?, Progress.after?_append, h, hafter, hx]

theorem result?_eq_some {o : Options} {requests : List Request} {cancelled : Bool} {s s' : Store}
    {turns : List Turn} {x : Summary}
    (h : result? o requests cancelled s turns = some (x, s')) :
    ∃ p, (Progress.start requests cancelled s).after? o turns = some p ∧
      p.summary? = some x ∧ p.store = s' := by
  obtain ⟨p, hp, hx⟩ := Option.bind_eq_some_iff.1 h
  obtain ⟨y, hy, hpair⟩ := Option.map_eq_some_iff.1 hx
  obtain ⟨rfl, rfl⟩ := Prod.mk.inj hpair
  exact ⟨p, hp, hy, rfl⟩

/-- **Every run comes to its end, and its summary tells what has become of the requests.** A run
has no more than three turns for each request, apart from those that cancel it, and from wherever
it has come it can be brought to its end; one such run executes the requests one after another.
However a run has come to its end, the fields of its summary belong together, and if it was
cancelled before, no request has been started and nothing has changed. -/
theorem result?_consistent {o : Options} {requests : List Request}
    (hcheck : check o requests = .ok ()) (cancelled : Bool) (s : Store) :
    (∃ turns, (∀ t ∈ turns, t.isQuiet = true) ∧
      result? o requests cancelled s turns = some (execute o requests cancelled s)) ∧
    (∀ turns p, (Progress.start requests cancelled s).after? o turns = some p →
      turns.countP (· ≠ .cancel) ≤ 3 * requests.length ∧
        ∃ more x s', (∀ t ∈ more, t.isQuiet = true) ∧
          result? o requests cancelled s (turns ++ more) = some (x, s')) ∧
    ∀ turns x s', result? o requests cancelled s turns = some (x, s') →
      x.Consistent requests (cancelled || turns.contains .cancel) ∧
        (cancelled = true →
          x.outcomes = requests.map (fun r => Outcome.skipped r [cancelledNote]) ∧ s' = s) := by
  have hworkers := (options_of_check hcheck).1
  refine ⟨result?_execute hworkers requests cancelled s, ?_, ?_⟩
  · intro turns p h
    have hturns := Progress.remaining_after h
    rw [Progress.remaining_start] at hturns
    exact ⟨by omega, exists_result? hworkers h⟩
  · intro turns x s' h
    obtain ⟨p, hafter, hx, rfl⟩ := result?_eq_some h
    have hsound := Progress.sound_after hafter (Progress.Sound.start o requests cancelled s)
    have hcancelled : p.cancelled = (cancelled || turns.contains .cancel) :=
      Progress.cancelled_after hafter
    refine ⟨hcancelled ▸ hsound.consistent hx, ?_⟩
    rintro rfl
    have huntouched := Progress.untouched_after hafter (Progress.Untouched.start requests s)
    refine ⟨?_, huntouched.store⟩
    rw [huntouched.outcomes hx, hsound.requests]

/-- A request with a driver that is not known. -/
def oracleRequest : Request := ⟨"db/sold", "create.sql", "oracle"⟩

/-- Two requests in work at one time, and a run that is cancelled before both have ended. -/
def crossedTurns : List Turn :=
  [.takeUp, .takeUp, .goOn 1, .goOn 0, .cancel, .goOn 0]

theorem result?_consistent_shop :
    check Request.shopOptions [Request.shopRequest, oracleRequest] = .ok () ∧
      (result? Request.shopOptions [Request.shopRequest, oracleRequest] false Request.shopFiles
        crossedTurns).map (fun y => (y.1.status, y.1.succeeded, y.1.skipped)) =
          some ("cancelled", 1, 1) ∧
      ∀ x s', result? Request.shopOptions [Request.shopRequest, oracleRequest] false
        Request.shopFiles crossedTurns = some (x, s') →
          x.Consistent [Request.shopRequest, oracleRequest] true := by
  have hcheck : check Request.shopOptions [Request.shopRequest, oracleRequest] = .ok () := by rfl
  refine ⟨hcheck, by decide +kernel, fun x s' h => ?_⟩
  exact ((result?_consistent hcheck false Request.shopFiles).2.2 crossedTurns x s' h).1

end Run
end SchemaMap
