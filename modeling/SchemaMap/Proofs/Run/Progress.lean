/-
# What the turns of a run can do

Every turn of a run moves one request to a later stage, but for the one that cancels the run
(`next?_eq_some`, with the moves in `Stage.Leads`). What holds of a run after any turns is
proved from this, by `after?_induction`: there are never more requests in work than workers
(`busy_after`); no request is lost, and its stage fits it (`Sound`); a run that is cancelled in
front of its first turn starts no request (`Untouched`); and all that changes in the store are
the files that count as written (`Traced`).

A run never gets stuck while there is a worker: some request can always go on, and each turn
brings the run nearer to its end (`exists_quiet_turn`). So every run can be brought to its end
(`exists_summary`), and to execute the requests one after another is one of its runs
(`result?_execute`).

Key definitions: `Stage.Leads`, `Progress.Moves`, `Progress.Sound`, `Progress.Untouched`,
`Progress.Traced`, `Progress.remaining`.
Key theorems: `Progress.next?_eq_some`, `Progress.after?_induction`, `Progress.busy_after`,
`Progress.sound_after`, `Progress.traced_after`, `Progress.exists_summary`, `result?_execute`.
-/
import Mathlib.Algebra.BigOperators.Group.List.Basic
import Mathlib.Algebra.GroupWithZero.Nat
import Mathlib.Data.List.Forall2
import SchemaMap.Run.Progress
import SchemaMap.Proofs.Run.Process

namespace SchemaMap

theorem Outcome.fits_brokenOff (r : Request) (text : String) : (brokenOff r text).Fits r := by
  constructor <;> simp [brokenOff, ofRequest]

namespace Run

open Store

/-! ### One turn -/

/-- How a request moves from one stage to a later one, with the files afterwards. -/
inductive Stage.Leads (o : Options) (cancelled : Bool) (r : Request) (s : Store) :
    Stage → Stage → Store → Prop
  | takeUp (h : cancelled = false) : Leads o cancelled r s .waiting .started s
  | putAside (h : cancelled = true) :
    Leads o cancelled r s .waiting (.ended (Outcome.skipped r [cancelledNote])) s
  | finish {x : Outcome} (h : r.plan o (s.readText r.sourcePath) = .done x) :
    Leads o cancelled r s .started (.ended x) s
  | make {path contents : String} {x : Outcome}
      (h : r.plan o (s.readText r.sourcePath) = .write path contents x) :
    Leads o cancelled r s .started (.made path contents x) s
  | refuse {path contents : String} {x : Outcome} {e : FileFault}
      (h : s.placeFor path = .error e) :
    Leads o cancelled r s (.made path contents x) (.ended (Outcome.failed r (.write path e))) s
  | write {path contents : String} {x : Outcome} {l : Location} (h : s.placeFor path = .ok l) :
    Leads o cancelled r s (.made path contents x) (.ended x) (s.put l (.text contents))
  | breakOff {stage : Stage} (text : String) (h : stage.isInWork = true) :
    Leads o cancelled r s stage (.ended (Outcome.brokenOff r text)) s

/-- The work on a request goes on just while it is in work. -/
theorem Stage.work?_leads {o : Options} {r : Request} {s : Store} {stage : Stage}
    (h : stage.isInWork = true) (cancelled : Bool) :
    ∃ stage' s', stage.work? o r s = some (stage', s') ∧
      Leads o cancelled r s stage stage' s' := by
  rcases stage with _ | _ | ⟨path, contents, x⟩ | x
  · cases h
  · rcases hplan : r.plan o (s.readText r.sourcePath) with x | ⟨path, contents, x⟩
    · exact ⟨.ended x, s, by simp [work?, hplan], .finish hplan⟩
    · exact ⟨.made path contents x, s, by simp [work?, hplan], .make hplan⟩
  · rcases hplace : s.placeFor path with e | l
    · exact ⟨_, s, by simp [work?, writeText, hplace], .refuse hplace⟩
    · exact ⟨.ended x, _, by simp [work?, writeText, hplace], .write hplace⟩
  · cases h

theorem Stage.isInWork_of_work? {o : Options} {r : Request} {s : Store} {stage : Stage}
    {next : Stage × Store} (h : stage.work? o r s = some next) : stage.isInWork = true := by
  rcases stage with _ | _ | ⟨path, contents, x⟩ | x
  · cases h
  · rfl
  · rfl
  · cases h

theorem Stage.ne_waiting {stage : Stage} (h : stage.isInWork = true) : stage ≠ .waiting := by
  rintro rfl
  cases h

theorem Stage.outcome?_eq_some {stage : Stage} {x : Outcome} :
    stage.outcome? = some x ↔ stage = .ended x := by
  rcases stage with _ | _ | _ | _ <;> simp [outcome?]

theorem Stage.leads_afterWaiting (o : Options) (cancelled : Bool) (r : Request) (s : Store) :
    Leads o cancelled r s .waiting (afterWaiting cancelled r) s := by
  cases cancelled with
  | false => exact .takeUp rfl
  | true => exact .putAside rfl

theorem takeUpFirst?_eq_some {cancelled : Bool} : ∀ {jobs jobs' : List Job},
    takeUpFirst? cancelled jobs = some jobs' →
      ∃ i j, jobs[i]? = some j ∧ j.stage = .waiting ∧
        jobs' = jobs.set i ⟨j.request, Stage.afterWaiting cancelled j.request⟩
  | j :: more, jobs', h => by
    rw [takeUpFirst?] at h
    split at h
    · rename_i hwaiting
      exact ⟨0, j, rfl, hwaiting, (Option.some.inj h).symm⟩
    · obtain ⟨rest, hrest, rfl⟩ := Option.map_eq_some_iff.1 h
      obtain ⟨i, k, hk, hwaiting, rfl⟩ := takeUpFirst?_eq_some hrest
      exact ⟨i + 1, k, by simpa using hk, hwaiting, by simp⟩

/-- Where no job is in work, and not all have ended, there is one that waits. -/
theorem exists_takeUpFirst? (cancelled : Bool) : ∀ {jobs : List Job},
    (∀ j ∈ jobs, ¬j.stage.isInWork = true) → (∃ j ∈ jobs, j.stage.outcome? = none) →
      ∃ jobs', takeUpFirst? cancelled jobs = some jobs'
  | [], _, hopen => by
    obtain ⟨j, hj, -⟩ := hopen
    cases hj
  | ⟨r, stage⟩ :: jobs, hidle, hopen => by
    rcases stage with _ | _ | ⟨path, contents, x⟩ | x
    · exact ⟨_, rfl⟩
    · exact absurd rfl (hidle _ List.mem_cons_self)
    · exact absurd rfl (hidle _ List.mem_cons_self)
    · have hmore : ∃ j ∈ jobs, j.stage.outcome? = none := by
        obtain ⟨k, hk, hnone⟩ := hopen
        rcases List.mem_cons.1 hk with rfl | hk
        · cases hnone
        · exact ⟨k, hk, hnone⟩
      obtain ⟨jobs', hjobs'⟩ :=
        exists_takeUpFirst? cancelled (fun k hk => hidle k (List.mem_cons_of_mem _ hk)) hmore
      exact ⟨⟨r, .ended x⟩ :: jobs', by simp [takeUpFirst?, hjobs']⟩

theorem takeUpFirst?_append (cancelled : Bool) (r : Request) (more : List Job) :
    ∀ {jobs : List Job}, (∀ j ∈ jobs, j.stage ≠ .waiting) →
      takeUpFirst? cancelled (jobs ++ ⟨r, .waiting⟩ :: more) =
        some (jobs ++ ⟨r, Stage.afterWaiting cancelled r⟩ :: more)
  | [], _ => rfl
  | j :: jobs, h => by
    have hj : j.stage ≠ .waiting := h j List.mem_cons_self
    have ih := takeUpFirst?_append cancelled r more fun k hk =>
      h k (List.mem_cons_of_mem j hk)
    rw [List.cons_append, takeUpFirst?, ih]
    split
    · contradiction
    · rfl

/-- A stage that fits its request: what is to be written there belongs to the request, and so
does the outcome. -/
def Stage.Fits (o : Options) (r : Request) : Stage → Prop
  | .waiting | .started => True
  | .made path _ x =>
    path = r.outputPath o.outputFileName ∧ o.dryRun = false ∧
      (Driver.ofId? r.driver).isSome ∧ x.Fits r ∧ x.status = .written
  | .ended x => x.Fits r

theorem Stage.Leads.fits {o : Options} {cancelled : Bool} {r : Request} {s s' : Store}
    {stage stage' : Stage} (h : Leads o cancelled r s stage stage' s')
    (hfits : stage.Fits o r) : stage'.Fits o r := by
  cases h with
  | takeUp _ => trivial
  | putAside _ => exact Outcome.fits_skipped r _
  | finish hplan => exact (Request.plan_eq_done hplan).1
  | make hplan =>
    obtain ⟨hpath, hdry, hdriver, hx, hwritten, -⟩ := Request.plan_eq_write hplan
    exact ⟨hpath, hdry, hdriver, hx, hwritten⟩
  | refuse _ => exact Outcome.fits_failed r _
  | write _ => exact hfits.2.2.2.1
  | breakOff text _ => exact Outcome.fits_brokenOff r text

/-- A move that changes the store writes the file of its request, and ends the work on it. -/
theorem Stage.Leads.store {o : Options} {cancelled : Bool} {r : Request} {s s' : Store}
    {stage stage' : Stage} (h : Stage.Leads o cancelled r s stage stage' s')
    (hfits : stage.Fits o r) :
    s' = s ∨ ∃ l contents x, s' = s.put l (.text contents) ∧ s.get? l ≠ some .folder ∧
      stage' = .ended x ∧ x.status = .written ∧ r.target? s.home o = some l := by
  cases h with
  | @write path contents x l hplace =>
    right
    obtain ⟨rfl, hdry, hdriver, -, hwritten⟩ := hfits
    obtain ⟨-, hl, hitem⟩ := placeFor_eq_ok hplace
    refine ⟨l, contents, x, rfl, hitem, rfl, hwritten, ?_⟩
    rw [Request.target?_of_known s.home hdry hdriver, hl]
  | _ => exact .inl rfl

/-- How many turns a stage is away from the last one, at most. -/
def Stage.remaining : Stage → Nat
  | .waiting => 3
  | .started => 2
  | .made .. => 1
  | .ended _ => 0

theorem Stage.Leads.remaining_lt {o : Options} {cancelled : Bool} {r : Request} {s s' : Store}
    {stage stage' : Stage} (h : Leads o cancelled r s stage stage' s') :
    stage'.remaining < stage.remaining := by
  cases h with
  | breakOff text hwork =>
    rcases stage with _ | _ | _ | _
    · cases hwork
    · simp [remaining]
    · simp [remaining]
    · cases hwork
  | _ => simp [remaining]

namespace Progress

/-- The run after one request has moved to another stage. -/
def moved (p : Progress) (i : Nat) (r : Request) (stage : Stage) (s : Store) : Progress :=
  ⟨s, p.cancelled, p.jobs.set i ⟨r, stage⟩⟩

/-- One request moves to a later stage; if it has waited, there is room for it. -/
inductive Moves (o : Options) (p : Progress) : Progress → Prop
  | intro {i : Nat} {j : Job} {stage : Stage} {s : Store} (hj : p.jobs[i]? = some j)
      (hleads : Stage.Leads o p.cancelled j.request p.store j.stage stage s)
      (hfree : j.stage = .waiting → p.isFree o = true) : Moves o p (p.moved i j.request stage s)

/-- **What a turn can do.** It cancels the run, or moves one request to a later stage. -/
theorem next?_eq_some {o : Options} {p p' : Progress} {t : Turn} (h : p.next? o t = some p') :
    (t = .cancel ∧ p' = { p with cancelled := true }) ∨ (t ≠ .cancel ∧ p.Moves o p') := by
  cases t with
  | takeUp =>
    right
    rw [next?] at h
    split at h
    · rename_i hfree
      obtain ⟨jobs, hjobs, rfl⟩ := Option.map_eq_some_iff.1 h
      obtain ⟨i, j, hj, hwaiting, rfl⟩ := takeUpFirst?_eq_some hjobs
      refine ⟨by simp, .intro hj ?_ fun _ => hfree⟩
      rw [hwaiting]
      exact Stage.leads_afterWaiting o p.cancelled j.request p.store
    · cases h
  | goOn i =>
    right
    simp only [next?, Option.bind_eq_bind, Option.bind_eq_some_iff] at h
    obtain ⟨j, hj, ⟨stage, s⟩, hwork, hp'⟩ := h
    have hinwork := Stage.isInWork_of_work? hwork
    obtain ⟨stage', s', hwork', hleads⟩ := Stage.work?_leads hinwork p.cancelled
    rw [hwork] at hwork'
    obtain ⟨rfl, rfl⟩ := Prod.mk.inj (Option.some.inj hwork')
    obtain rfl := Option.some.inj hp'
    exact ⟨by simp, .intro hj hleads (Stage.ne_waiting hinwork).elim⟩
  | breakOff i text =>
    right
    simp only [next?, Option.bind_eq_bind, Option.bind_eq_some_iff] at h
    obtain ⟨j, hj, hp'⟩ := h
    split at hp'
    · rename_i hinwork
      obtain rfl := Option.some.inj hp'
      exact ⟨by simp, .intro hj (.breakOff text hinwork) (Stage.ne_waiting hinwork).elim⟩
    · cases hp'
  | cancel =>
    left
    exact ⟨rfl, (Option.some.inj h).symm⟩

/-! ### All turns -/

/-- What every turn keeps holds after any turns. -/
theorem after?_induction {o : Options} {P : Progress → Prop}
    (hcancel : ∀ p, P p → P { p with cancelled := true })
    (hmove : ∀ p p', P p → p.Moves o p' → P p') :
    ∀ {turns : List Turn} {p p' : Progress}, p.after? o turns = some p' → P p → P p'
  | [], p, p', h, hp => by
    obtain rfl : p = p' := Option.some.inj h
    exact hp
  | t :: turns, p, p', h, hp => by
    rw [after?, Option.bind_eq_some_iff] at h
    obtain ⟨q, hq, hafter⟩ := h
    have hPq : P q := by
      rcases next?_eq_some hq with ⟨-, rfl⟩ | ⟨-, hmoves⟩
      · exact hcancel p hp
      · exact hmove p q hp hmoves
    exact after?_induction hcancel hmove hafter hPq

theorem after?_append (o : Options) (us : List Turn) : ∀ (ts : List Turn) (p : Progress),
    p.after? o (ts ++ us) = (p.after? o ts).bind (after? o us)
  | [], p => rfl
  | t :: ts, p => by
    rw [List.cons_append, after?, after?, Option.bind_assoc]
    congr 1
    funext q
    exact after?_append o us ts q

theorem cancelled_after {o : Options} : ∀ {turns : List Turn} {p p' : Progress},
    p.after? o turns = some p' → p'.cancelled = (p.cancelled || turns.contains .cancel)
  | [], p, p', h => by
    obtain rfl : p = p' := Option.some.inj h
    simp
  | t :: turns, p, p', h => by
    rw [after?, Option.bind_eq_some_iff] at h
    obtain ⟨q, hq, hafter⟩ := h
    rw [cancelled_after hafter, List.contains_cons]
    rcases next?_eq_some hq with ⟨rfl, rfl⟩ | ⟨ht, ⟨_, _, _⟩⟩
    · simp
    · have hne : (Turn.cancel == t) = false := beq_eq_false_iff_ne.2 (Ne.symm ht)
      simp only [moved, hne, Bool.false_or]

/-! ### Workers -/

theorem Moves.busy_le {o : Options} {p p' : Progress} (hmoves : p.Moves o p')
    (h : p.busy ≤ o.workerCount) : p'.busy ≤ o.workerCount := by
  obtain ⟨hj, hleads, hfree⟩ := hmoves
  rename_i i j stage s
  obtain ⟨hi, rfl⟩ := List.getElem?_eq_some_iff.1 hj
  have hcount : (p.moved i p.jobs[i].request stage s).busy =
      p.busy - (if p.jobs[i].stage.isInWork then 1 else 0) + (if stage.isInWork then 1 else 0) :=
    List.countP_set hi
  have hsub := Nat.sub_le p.busy (if p.jobs[i].stage.isInWork then 1 else 0)
  by_cases hwork : stage.isInWork = true
  · -- A request that goes on has been in work before, and one that is taken up finds room.
    have hbefore : p.jobs[i].stage.isInWork = true ∨ p.busy < o.workerCount := by
      generalize p.jobs[i].stage = old at hleads hfree
      cases hleads with
      | takeUp hc => exact .inr (by simpa [isFree, hc] using hfree rfl)
      | make _ => exact .inl rfl
      | _ => cases hwork
    rw [hcount, if_pos hwork]
    rcases hbefore with hold | hroom
    · have hpos : 0 < p.busy := List.countP_pos_iff.2 ⟨_, List.getElem_mem hi, hold⟩
      rw [if_pos hold]
      omega
    · omega
  · rw [hcount, if_neg hwork]
    omega

/-- There are never more requests in work than workers. -/
theorem busy_after {o : Options} {turns : List Turn} {p p' : Progress}
    (h : p.after? o turns = some p') (hp : p.busy ≤ o.workerCount) : p'.busy ≤ o.workerCount :=
  after?_induction (P := fun q => q.busy ≤ o.workerCount) (fun _ hq => hq)
    (fun _ _ hq hmoves => hmoves.busy_le hq) h hp

/-! ### Requests and their stages -/

/-- A run of the requests, each in a stage that fits it. -/
structure Sound (o : Options) (requests : List Request) (p : Progress) : Prop where
  requests : p.jobs.map (·.request) = requests
  fits : ∀ j ∈ p.jobs, j.stage.Fits o j.request

theorem Sound.start (o : Options) (requests : List Request) (cancelled : Bool) (s : Store) :
    (start requests cancelled s).Sound o requests := by
  constructor
  · simp [Progress.start, Function.comp_def]
  · intro j hj
    obtain ⟨r, -, rfl⟩ := List.mem_map.1 hj
    trivial

theorem Sound.moves {o : Options} {requests : List Request} {p p' : Progress}
    (h : p.Sound o requests) (hmoves : p.Moves o p') : p'.Sound o requests := by
  obtain ⟨hj, hleads, -⟩ := hmoves
  rename_i i j stage s
  constructor
  · have hrequest : requests[i]? = some j.request := by simp [← h.requests, hj]
    obtain ⟨hi, hr⟩ := List.getElem?_eq_some_iff.1 hrequest
    simp only [moved, List.map_set, h.requests]
    rw [← hr, List.set_getElem_self]
  · intro k hk
    rcases List.mem_or_eq_of_mem_set hk with hk | rfl
    · exact h.fits k hk
    · exact hleads.fits (h.fits j (List.mem_of_getElem? hj))

/-- No request is lost on the way, and each is in a stage that fits it. -/
theorem sound_after {o : Options} {requests : List Request} {turns : List Turn}
    {p p' : Progress} (h : p.after? o turns = some p') (hp : p.Sound o requests) :
    p'.Sound o requests :=
  after?_induction (fun _ hq => ⟨hq.requests, hq.fits⟩) (fun _ _ hq hmoves => hq.moves hmoves)
    h hp

/-! ### Runs that are cancelled before -/

/-- A cancelled run in which no request has been started. -/
structure Untouched (s : Store) (p : Progress) : Prop where
  cancelled : p.cancelled = true
  store : p.store = s
  stages : ∀ j ∈ p.jobs,
    j.stage = .waiting ∨ j.stage = .ended (Outcome.skipped j.request [cancelledNote])

theorem Untouched.start (requests : List Request) (s : Store) :
    Untouched s (start requests true s) := by
  refine ⟨rfl, rfl, fun j hj => ?_⟩
  obtain ⟨r, -, rfl⟩ := List.mem_map.1 hj
  exact .inl rfl

theorem Untouched.moves {o : Options} {s : Store} {p p' : Progress} (h : Untouched s p)
    (hmoves : p.Moves o p') : Untouched s p' := by
  obtain ⟨hj, hleads, -⟩ := hmoves
  rename_i i j stage s'
  have hwaiting := h.stages j (List.mem_of_getElem? hj)
  -- The only move that is left to such a run is to put a request aside.
  obtain ⟨hstage, hs'⟩ :
      stage = .ended (Outcome.skipped j.request [cancelledNote]) ∧ s' = p.store := by
    rcases hwaiting with hw | hw <;> rw [hw] at hleads
    · cases hleads with
      | takeUp hc => exact absurd (h.cancelled.symm.trans hc) (by decide)
      | putAside _ => exact ⟨rfl, rfl⟩
      | breakOff _ hwork => cases hwork
    · cases hleads with
      | breakOff _ hwork => cases hwork
  refine ⟨h.cancelled, hs'.trans h.store, fun k hk => ?_⟩
  rcases List.mem_or_eq_of_mem_set hk with hk | rfl
  · exact h.stages k hk
  · exact .inr hstage

theorem untouched_after {o : Options} {s : Store} {turns : List Turn} {p p' : Progress}
    (h : p.after? o turns = some p') (hp : Untouched s p) : Untouched s p' :=
  after?_induction (fun _ hq => ⟨rfl, hq.store, hq.stages⟩)
    (fun _ _ hq hmoves => hq.moves hmoves) h hp

/-! ### What changes -/

/-- Whether a location is where the file of a request stands that counts as written. -/
def Wrote (o : Options) (home : Location) (p : Progress) (l : Location) : Prop :=
  ∃ (i : Nat) (r : Request) (x : Outcome), p.jobs[i]? = some ⟨r, .ended x⟩ ∧
    x.status = .written ∧ r.target? home o = some l

/-- What has become of the store with which a run began: its folders are in their places, and
all that has changed are the files that count as written. -/
structure Traced (o : Options) (s : Store) (p : Progress) : Prop where
  home : p.store.home = s.home
  folder : ∀ l, s.get? l = some .folder → p.store.get? l = some .folder
  written : ∀ l, p.store.get? l = s.get? l ∨ p.Wrote o s.home l

theorem Traced.start (o : Options) (requests : List Request) (cancelled : Bool) (s : Store) :
    (start requests cancelled s).Traced o s :=
  ⟨rfl, fun _ h => h, fun _ => .inl rfl⟩

theorem Traced.moves {o : Options} {requests : List Request} {s : Store} {p p' : Progress}
    (hsound : p.Sound o requests) (h : p.Traced o s) (hmoves : p.Moves o p') :
    p'.Traced o s := by
  obtain ⟨hj, hleads, -⟩ := hmoves
  rename_i i j stage s'
  -- A request that has ended does not move any more, so its file stays on the list.
  have hold : ∀ l, p.store.get? l = s.get? l ∨
      (p.moved i j.request stage s').Wrote o s.home l := by
    intro l
    rcases h.written l with hl | ⟨k, r, x, hk, hx, htarget⟩
    · exact .inl hl
    · have hki : i ≠ k := by
        rintro rfl
        obtain rfl : j = ⟨r, .ended x⟩ := Option.some.inj (hj.symm.trans hk)
        cases hleads with
        | breakOff text hwork => cases hwork
      exact .inr ⟨k, r, x, by rwa [moved, List.getElem?_set_ne hki], hx, htarget⟩
  rcases hleads.store (hsound.fits j (List.mem_of_getElem? hj)) with
    rfl | ⟨m, contents, x, rfl, hitem, rfl, hx, htarget⟩
  · exact ⟨h.home, h.folder, hold⟩
  · refine ⟨h.home, fun l hl => get?_put_folder hitem _ (h.folder l hl), fun l => ?_⟩
    by_cases hlm : l = m
    · subst hlm
      have hi : i < p.jobs.length := (List.getElem?_eq_some_iff.1 hj).1
      exact .inr ⟨i, j.request, x, by simp [moved, hi], hx, h.home ▸ htarget⟩
    · have hget : (p.store.put m (.text contents)).get? l = p.store.get? l :=
        get?_put_of_ne hlm _
      rcases hold l with hl | hwritten
      · exact .inl (hget.trans hl)
      · exact .inr hwritten

/-- What changes in a run is where a request writes its file, whatever the turns. -/
theorem traced_after {o : Options} {requests : List Request} {s : Store} {turns : List Turn}
    {p p' : Progress} (h : p.after? o turns = some p') (hsound : p.Sound o requests)
    (hp : p.Traced o s) : p'.Traced o s := by
  have hboth : p'.Sound o requests ∧ p'.Traced o s := by
    refine after?_induction (P := fun q => q.Sound o requests ∧ q.Traced o s) ?_ ?_ h
      ⟨hsound, hp⟩
    · rintro q ⟨hs, ht⟩
      exact ⟨⟨hs.requests, hs.fits⟩, ⟨ht.home, ht.folder, ht.written⟩⟩
    · rintro q q' ⟨hs, ht⟩ hmoves
      exact ⟨hs.moves hmoves, ht.moves hs hmoves⟩
  exact hboth.2

/-! ### The end of a run -/

/-- How many turns a run is away from its end, at most, if it is not cancelled on the way. -/
def remaining (p : Progress) : Nat :=
  (p.jobs.map (·.stage.remaining)).sum

theorem remaining_start (requests : List Request) (cancelled : Bool) (s : Store) :
    (start requests cancelled s).remaining = 3 * requests.length := by
  simp [remaining, start, Stage.remaining, Function.comp_def, Nat.mul_comm]

theorem sum_set_lt : ∀ {ns : List Nat} {i n m : Nat}, ns[i]? = some n → m < n →
    (ns.set i m).sum < ns.sum
  | k :: ns, 0, n, m, h, hm => by
    obtain rfl : k = n := by simpa using h
    simp only [List.set_cons_zero, List.sum_cons]
    omega
  | k :: ns, i + 1, n, m, h, hm => by
    have hns : ns[i]? = some n := by simpa using h
    have ih := sum_set_lt hns hm
    simp only [List.set_cons_succ, List.sum_cons]
    omega

theorem Moves.remaining_lt {o : Options} {p p' : Progress} (hmoves : p.Moves o p') :
    p'.remaining < p.remaining := by
  obtain ⟨hj, hleads, -⟩ := hmoves
  simp only [remaining, moved, List.map_set]
  exact sum_set_lt (by simp [hj]) hleads.remaining_lt

/-- Every turn but one that cancels brings the run nearer to its end. -/
theorem remaining_after {o : Options} : ∀ {turns : List Turn} {p p' : Progress},
    p.after? o turns = some p' →
      p'.remaining + turns.countP (· ≠ .cancel) ≤ p.remaining
  | [], p, p', h => by
    obtain rfl : p = p' := Option.some.inj h
    simp
  | t :: turns, p, p', h => by
    rw [after?, Option.bind_eq_some_iff] at h
    obtain ⟨q, hq, hafter⟩ := h
    have ih := remaining_after hafter
    rcases next?_eq_some hq with ⟨rfl, rfl⟩ | ⟨ht, hmoves⟩
    · simpa [remaining] using ih
    · have hlt := hmoves.remaining_lt
      rw [List.countP_cons_of_pos (by simpa using ht)]
      omega

/-- While the run has not come to its end, some request can go on or be taken up. -/
theorem exists_quiet_turn {o : Options} (hworkers : 0 < o.workerCount) {p : Progress}
    (h : ∃ j ∈ p.jobs, j.stage.outcome? = none) :
    ∃ t p', t.isQuiet = true ∧ p.next? o t = some p' := by
  by_cases hwork : ∃ j ∈ p.jobs, j.stage.isInWork = true
  · obtain ⟨j, hj, hinwork⟩ := hwork
    obtain ⟨i, hi⟩ := List.getElem?_of_mem hj
    obtain ⟨stage, s, hstep, -⟩ :=
      Stage.work?_leads (o := o) (r := j.request) (s := p.store) hinwork p.cancelled
    exact ⟨.goOn i, p.moved i j.request stage s, rfl, by simp [next?, hi, hstep, moved]⟩
  · have hidle : ∀ j ∈ p.jobs, ¬j.stage.isInWork = true := fun j hj hin => hwork ⟨j, hj, hin⟩
    have hfree : p.isFree o = true := by
      have hbusy : p.busy = 0 := List.countP_eq_zero.2 hidle
      simp [isFree, hbusy, hworkers]
    obtain ⟨jobs', hjobs'⟩ := exists_takeUpFirst? p.cancelled hidle h
    exact ⟨.takeUp, { p with jobs := jobs' }, rfl, by simp [next?, hfree, hjobs']⟩

/-- The outcomes of all jobs are there just where all of them have ended. -/
theorem mapM_outcome?_eq_some : ∀ {jobs : List Job} {xs : List Outcome},
    (jobs.mapM fun j : Job => j.stage.outcome?) = some xs ↔
      List.Forall₂ (fun j x => j.stage = .ended x) jobs xs
  | [], xs => by simp [eq_comm]
  | j :: jobs, xs => by
    simp only [List.mapM_cons, Option.bind_eq_bind, Option.bind_eq_some_iff, Option.pure_def,
      Option.some.injEq, Stage.outcome?_eq_some, mapM_outcome?_eq_some,
      List.forall₂_cons_left_iff]
    constructor
    · rintro ⟨y, hy, ys, hys, rfl⟩
      exact ⟨y, ys, hy, hys, rfl⟩
    · rintro ⟨y, ys, hy, hys, rfl⟩
      exact ⟨y, hy, ys, hys, rfl⟩

theorem summary?_eq_some {p : Progress} {x : Summary} :
    p.summary? = some x ↔ ∃ xs, List.Forall₂ (fun j x => j.stage = .ended x) p.jobs xs ∧
      Summary.ofOutcomes p.cancelled xs = x := by
  simp only [summary?, Option.map_eq_some_iff, mapM_outcome?_eq_some]

theorem exists_outcomes : ∀ {jobs : List Job}, (∀ j ∈ jobs, ∃ x, j.stage = .ended x) →
    ∃ xs, List.Forall₂ (fun j x => j.stage = .ended x) jobs xs
  | [], _ => ⟨[], .nil⟩
  | j :: _, h => by
    obtain ⟨x, hx⟩ := h j List.mem_cons_self
    obtain ⟨xs, hxs⟩ := exists_outcomes fun k hk => h k (List.mem_cons_of_mem j hk)
    exact ⟨x :: xs, .cons hx hxs⟩

/-- Whatever has happened to a run before, it can be brought to its end without a disturbance. -/
theorem exists_summary {o : Options} (hworkers : 0 < o.workerCount) (p : Progress) :
    ∃ turns p' x, (∀ t ∈ turns, t.isQuiet = true) ∧ p.after? o turns = some p' ∧
      p'.summary? = some x := by
  by_cases hopen : ∃ j ∈ p.jobs, j.stage.outcome? = none
  · obtain ⟨t, q, hquiet, hq⟩ := exists_quiet_turn hworkers hopen
    have hlt : q.remaining < p.remaining := by
      rcases next?_eq_some hq with ⟨rfl, -⟩ | ⟨-, hmoves⟩
      · cases hquiet
      · exact hmoves.remaining_lt
    obtain ⟨turns, p', x, hturns, hafter, hx⟩ := exists_summary hworkers q
    exact ⟨t :: turns, p', x, List.forall_mem_cons.2 ⟨hquiet, hturns⟩, by simp [after?, hq, hafter],
      hx⟩
  · obtain ⟨xs, hxs⟩ : ∃ xs, List.Forall₂ (fun j x => j.stage = .ended x) p.jobs xs := by
      refine exists_outcomes fun j hj => ?_
      obtain ⟨x, hx⟩ := Option.ne_none_iff_exists'.1 fun hnone => hopen ⟨j, hj, hnone⟩
      exact ⟨x, Stage.outcome?_eq_some.1 hx⟩
    exact ⟨[], p, _, by simp, rfl, summary?_eq_some.2 ⟨xs, hxs, rfl⟩⟩
termination_by p.remaining

/-! ### One request after another -/

/-- With no other request in work, the first one that waits can be brought to its end. -/
theorem after?_process {o : Options} (hworkers : 0 < o.workerCount) {jobs : List Job}
    (hjobs : ∀ j ∈ jobs, j.stage.outcome?.isSome = true)
    (more : List Job) (hmore : ∀ j ∈ more, j.stage = .waiting) (s : Store) (r : Request) :
    ∃ turns, (∀ t ∈ turns, t.isQuiet = true) ∧
      after? o turns ⟨s, false, jobs ++ ⟨r, .waiting⟩ :: more⟩ =
        some ⟨(r.process s o).2, false, jobs ++ ⟨r, .ended (r.process s o).1⟩ :: more⟩ := by
  have hfirst : ∀ j ∈ jobs, j.stage ≠ .waiting := by
    intro j hj hwaiting
    simpa [hwaiting, Stage.outcome?] using hjobs j hj
  have hidle : isFree o ⟨s, false, jobs ++ ⟨r, .waiting⟩ :: more⟩ = true := by
    have hbusy : busy ⟨s, false, jobs ++ ⟨r, .waiting⟩ :: more⟩ = 0 := by
      refine List.countP_eq_zero.2 fun j hj => ?_
      rcases List.mem_append.1 hj with hj | hj
      · have hended := hjobs j hj
        rcases j with ⟨q, _ | _ | _ | _⟩ <;> simp_all [Stage.outcome?, Stage.isInWork]
      · rcases List.mem_cons.1 hj with rfl | hj
        · simp [Stage.isInWork]
        · simp [hmore j hj, Stage.isInWork]
    simp [isFree, hbusy, hworkers]
  have htake : next? o ⟨s, false, jobs ++ ⟨r, .waiting⟩ :: more⟩ .takeUp =
      some ⟨s, false, jobs ++ ⟨r, .started⟩ :: more⟩ := by
    simp [next?, hidle, takeUpFirst?_append false r more hfirst, Stage.afterWaiting]
  have hgoOn : ∀ (stage stage' : Stage) (t t' : Store), stage.work? o r t = some (stage', t') →
      next? o ⟨t, false, jobs ++ ⟨r, stage⟩ :: more⟩ (.goOn jobs.length) =
        some ⟨t', false, jobs ++ ⟨r, stage'⟩ :: more⟩ := by
    intro stage stage' t t' h
    simp [next?, h]
  rcases hplan : r.plan o (s.readText r.sourcePath) with x | ⟨path, contents, x⟩
  · refine ⟨[.takeUp, .goOn jobs.length], by simp [Turn.isQuiet], ?_⟩
    have hread : Stage.started.work? o r s = some (.ended x, s) := by simp [Stage.work?, hplan]
    simp [after?, htake, hgoOn _ _ _ _ hread, Request.process, hplan]
  · refine ⟨[.takeUp, .goOn jobs.length, .goOn jobs.length], by simp [Turn.isQuiet], ?_⟩
    have hread : Stage.started.work? o r s = some (.made path contents x, s) := by
      simp [Stage.work?, hplan]
    rcases hwrite : s.writeText path contents with e | s'
    · have hrefuse : (Stage.made path contents x).work? o r s =
          some (.ended (Outcome.failed r e), s) := by simp [Stage.work?, hwrite]
      simp [after?, htake, hgoOn _ _ _ _ hread, hgoOn _ _ _ _ hrefuse, Request.process, hplan,
        hwrite]
    · have hput : (Stage.made path contents x).work? o r s = some (.ended x, s') := by
        simp [Stage.work?, hwrite]
      simp [after?, htake, hgoOn _ _ _ _ hread, hgoOn _ _ _ _ hput, Request.process, hplan,
        hwrite]

theorem after?_processAll {o : Options} (hworkers : 0 < o.workerCount) :
    ∀ (requests : List Request) (jobs : List Job) (s : Store),
      (∀ j ∈ jobs, j.stage.outcome?.isSome = true) →
      ∃ turns ended, (∀ t ∈ turns, t.isQuiet = true) ∧
        after? o turns ⟨s, false, jobs ++ requests.map (⟨·, .waiting⟩)⟩ =
          some ⟨(processAll o requests s).2, false, jobs ++ ended⟩ ∧
        List.Forall₂ (fun j x => j.stage = .ended x) ended (processAll o requests s).1
  | [], jobs, s, _ => ⟨[], [], by simp, rfl, .nil⟩
  | r :: more, jobs, s, hjobs => by
    obtain ⟨first, hquiet, hfirst⟩ :=
      after?_process hworkers hjobs (more.map (⟨·, .waiting⟩)) (by simp) s r
    have hjobs' : ∀ j ∈ jobs ++ [⟨r, .ended (r.process s o).1⟩],
        j.stage.outcome?.isSome = true :=
      List.forall_mem_append.2 ⟨hjobs, List.forall_mem_singleton.2 rfl⟩
    obtain ⟨turns, ended, hturns, hafter, hended⟩ :=
      after?_processAll hworkers more _ (r.process s o).2 hjobs'
    refine ⟨first ++ turns, ⟨r, .ended (r.process s o).1⟩ :: ended,
      List.forall_mem_append.2 ⟨hquiet, hturns⟩, ?_, .cons rfl hended⟩
    rw [after?_append, List.map_cons, hfirst, Option.bind_some]
    simpa [processAll] using hafter

theorem after?_putAside (o : Options) : ∀ (requests : List Request) (jobs : List Job) (s : Store),
    (∀ j ∈ jobs, j.stage ≠ .waiting) →
      after? o (List.replicate requests.length .takeUp)
          ⟨s, true, jobs ++ requests.map (⟨·, .waiting⟩)⟩ =
        some ⟨s, true, jobs ++ requests.map fun r =>
          ⟨r, .ended (Outcome.skipped r [cancelledNote])⟩⟩
  | [], _, _, _ => rfl
  | r :: more, jobs, s, hjobs => by
    have hjobs' : ∀ j ∈ jobs ++ [⟨r, .ended (Outcome.skipped r [cancelledNote])⟩],
        j.stage ≠ .waiting :=
      List.forall_mem_append.2 ⟨hjobs, List.forall_mem_singleton.2 (by simp)⟩
    have htake : next? o ⟨s, true, jobs ++ (r :: more).map (⟨·, .waiting⟩)⟩ .takeUp =
        some ⟨s, true, jobs ++ [⟨r, .ended (Outcome.skipped r [cancelledNote])⟩] ++
          more.map (⟨·, .waiting⟩)⟩ := by
      simp [next?, isFree, takeUpFirst?_append true r _ hjobs, Stage.afterWaiting]
    rw [List.length_cons, List.replicate_succ, after?, htake, Option.bind_some,
      after?_putAside o more _ s hjobs']
    simp

end Progress

/-- **To execute the requests one after another is one of the runs.** -/
theorem result?_execute {o : Options} (hworkers : 0 < o.workerCount) (requests : List Request)
    (cancelled : Bool) (s : Store) :
    ∃ turns, (∀ t ∈ turns, t.isQuiet = true) ∧
      result? o requests cancelled s turns = some (execute o requests cancelled s) := by
  cases cancelled with
  | true =>
    have hafter := Progress.after?_putAside o requests [] s (by simp)
    refine ⟨List.replicate requests.length .takeUp, ?_, ?_⟩
    · intro t ht
      rw [List.eq_of_mem_replicate ht]
      rfl
    · have hsummary : Progress.summary? ⟨s, true, requests.map fun r =>
            ⟨r, .ended (Outcome.skipped r [cancelledNote])⟩⟩ =
          some (execute o requests true s).1 := by
        refine Progress.summary?_eq_some.2 ⟨_, ?_, rfl⟩
        simp [List.forall₂_map_left_iff, List.forall₂_map_right_iff, List.forall₂_same]
      rw [result?, Progress.start]
      rw [List.nil_append] at hafter
      rw [hafter, Option.bind_some, List.nil_append, hsummary]
      rfl
  | false =>
    obtain ⟨turns, ended, hturns, hafter, hended⟩ :=
      Progress.after?_processAll hworkers requests [] s (by simp)
    refine ⟨turns, hturns, ?_⟩
    have hsummary : Progress.summary? ⟨(processAll o requests s).2, false, ended⟩ =
        some (execute o requests false s).1 := Progress.summary?_eq_some.2 ⟨_, hended, rfl⟩
    rw [result?, Progress.start]
    rw [List.nil_append] at hafter
    rw [hafter, Option.bind_some, List.nil_append, hsummary]
    rfl

end Run
end SchemaMap
