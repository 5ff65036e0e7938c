/-
# The order of requests

Two requests are apart if neither of them comes, on the way of its paths, to the place where the
other writes its file. Such requests do not see each other: in either order both have the outcome
that they have alone, and both files are written (`process_comm`). So where any two requests of a
list are apart, the list can be put in any order (`processAll_perm`).

That the folders of the requests differ is not enough for this, since a folder can be spelled in
several ways (`shop_order_matters`) and since a script may be taken from the folder of another
request.

Key definitions: `Request.Apart`.
Key theorems: `Request.process_comm`, `Run.processAll_same`, `Run.processAll_perm`.
-/
import SchemaMap.Proofs.Run.Process

namespace SchemaMap

open Store

namespace Request

/-- Of two requests that find the same store, neither writes its file on the way of the paths of
the other. -/
def Apart (s : Store) (o : Options) (q r : Request) : Prop :=
  (∀ file ∈ q.written? s o, file.1 ∉ r.footprint s.home o) ∧
    ∀ file ∈ r.written? s o, file.1 ∉ q.footprint s.home o

instance (s : Store) (o : Options) (q r : Request) : Decidable (Apart s o q r) :=
  inferInstanceAs (Decidable (_ ∧ _))

theorem Apart.symm {s : Store} {o : Options} {q r : Request} (h : Apart s o q r) :
    Apart s o r q :=
  ⟨h.2, h.1⟩

/-- After a request, another one that is apart from it finds all that it reads as before. -/
theorem Apart.agreeOn {s : Store} {o : Options} {q r : Request} (h : Apart s o q r) :
    AgreeOn (r.footprint s.home o) s (q.process s o).2 := by
  rw [process_eq]
  exact agreeOn_withFile (fun l contents hfile => h.1 (l, contents) hfile) s

/-- Requests that are apart from a third one are as apart after it as before. -/
theorem Apart.after {s : Store} {o : Options} {p q r : Request} (hq : Apart s o p q)
    (hr : Apart s o p r) (h : Apart s o q r) : Apart (p.process s o).2 o q r := by
  unfold Apart
  rw [(process_congr hq.agreeOn).2, (process_congr hr.agreeOn).2, process_home]
  exact h

theorem process_same {s t : Store} (h : Same s t) (o : Options) (r : Request) :
    (r.process t o).1 = (r.process s o).1 ∧ Same (r.process s o).2 (r.process t o).2 := by
  obtain ⟨houtcome, hfile⟩ := process_congr (h.agreeOn (r.footprint s.home o))
  refine ⟨houtcome, ?_⟩
  rw [process_eq, process_eq, hfile]
  exact h.withFile _

/-- Two requests that are apart have the outcomes that they have alone, and leave the same files
in either order. -/
theorem process_comm {s : Store} {o : Options} {q r : Request} (h : Apart s o q r) :
    (r.process (q.process s o).2 o).1 = (r.process s o).1 ∧
      (q.process (r.process s o).2 o).1 = (q.process s o).1 ∧
      Same (r.process (q.process s o).2 o).2 (q.process (r.process s o).2 o).2 := by
  obtain ⟨hr, hrfile⟩ := process_congr h.agreeOn
  obtain ⟨hq, hqfile⟩ := process_congr h.symm.agreeOn
  refine ⟨hr, hq, ?_⟩
  rw [process_eq (q.process s o).2 o r, process_eq (r.process s o).2 o q, hrfile, hqfile,
    process_eq s o q, process_eq s o r]
  rcases hqf : q.written? s o with _ | ⟨l, c⟩
  · exact Same.refl _
  rcases hrf : r.written? s o with _ | ⟨m, d⟩
  · exact Same.refl _
  have hlm : l ≠ m := by
    rintro rfl
    exact h.1 (l, c) hqf (target?_mem_footprint (written?_eq_some hrf).1)
  exact put_comm hlm s _ _

end Request

namespace Run

open Request

/-- Stores that hold the same give the same outcomes and hold the same afterwards. -/
theorem processAll_same (o : Options) : ∀ (requests : List Request) {s t : Store}, Same s t →
    (processAll o requests t).1 = (processAll o requests s).1 ∧
      Same (processAll o requests s).2 (processAll o requests t).2
  | [], _, _, h => ⟨rfl, h⟩
  | r :: more, s, t, h => by
    obtain ⟨houtcome, hstore⟩ := process_same h o r
    obtain ⟨hmore, hafter⟩ := processAll_same o more hstore
    simp only [processAll]
    rw [houtcome, hmore]
    exact ⟨rfl, hafter⟩

/-- **The order of requests does not matter where any two of them are apart.** Executed in any
order, each request has the same outcome, and the same files hold the same texts afterwards. -/
theorem processAll_perm {o : Options} {s : Store} {requests permuted : List Request}
    (happart : requests.Pairwise (Apart s o)) (hperm : permuted.Perm requests) :
    (permuted.zip (processAll o permuted s).1).Perm (requests.zip (processAll o requests s).1) ∧
      ∀ l, (processAll o permuted s).2.get? l = (processAll o requests s).2.get? l := by
  suffices h : (requests.zip (processAll o requests s).1).Perm
        (permuted.zip (processAll o permuted s).1) ∧
      Same (processAll o permuted s).2 (processAll o requests s).2 from
    ⟨h.1.symm, fun l => (h.2.get? l).symm⟩
  replace hperm := hperm.symm
  induction hperm generalizing s with
  | nil => exact ⟨List.Perm.refl _, Same.refl s⟩
  | @cons r requests permuted _ ih =>
    obtain ⟨hr, hpairs⟩ := List.pairwise_cons.1 happart
    have hmore : requests.Pairwise (Apart (r.process s o).2 o) :=
      hpairs.imp_of_mem fun hp hq h => (hr _ hp).after (hr _ hq) h
    obtain ⟨houtcomes, hstores⟩ := ih hmore
    exact ⟨houtcomes.cons _, hstores⟩
  | swap r q more =>
    have hapart : Apart s o q r := (List.pairwise_cons.1 happart).1 r List.mem_cons_self
    obtain ⟨hr, hq, hsame⟩ := process_comm hapart
    obtain ⟨houtcomes, hstores⟩ := processAll_same o more hsame
    simp only [processAll, List.zip_cons_cons]
    rw [hr, hq, houtcomes]
    exact ⟨List.Perm.swap _ _ _, hstores.symm⟩
  | @trans requests middle permuted hfirst hsecond ih₁ ih₂ =>
    obtain ⟨houtcomes₁, hstores₁⟩ := ih₁ happart
    have hmiddle : middle.Pairwise (Apart s o) :=
      (hfirst.pairwise_iff fun h => h.symm).1 happart
    obtain ⟨houtcomes₂, hstores₂⟩ := ih₂ hmiddle
    exact ⟨houtcomes₁.trans houtcomes₂, hstores₂.trans hstores₁⟩

/-- A folder with two scripts, and another folder with one of them. -/
def twoFolders : Store :=
  ((({} : Store).add ["db".toList, "shop".toList, "create.sql".toList] (.text shopScript)).add
    ["db".toList, "shop".toList, "drop.sql".toList] (.text "DROP TABLE orders;\n")).add
    ["db".toList, "stock".toList, "create.sql".toList] (.text shopScript)

def stockRequest : Request := ⟨"db/stock", "create.sql", "mysql"⟩

/-- The same folder as that of the request for the shop, with another script. -/
def respelledRequest : Request := ⟨"./db/shop", "drop.sql", "mysql"⟩

theorem processAll_perm_shop :
    [shopRequest, stockRequest].Pairwise (Apart twoFolders shopOptions) ∧
      ([stockRequest, shopRequest].zip
        (processAll shopOptions [stockRequest, shopRequest] twoFolders).1).Perm
        ([shopRequest, stockRequest].zip
          (processAll shopOptions [shopRequest, stockRequest] twoFolders).1) ∧
      ∀ l, (processAll shopOptions [stockRequest, shopRequest] twoFolders).2.get? l =
        (processAll shopOptions [shopRequest, stockRequest] twoFolders).2.get? l := by
  have happart : [shopRequest, stockRequest].Pairwise (Apart twoFolders shopOptions) := by
    decide +kernel
  exact ⟨happart, processAll_perm happart (List.Perm.swap _ _ _)⟩

/-- Two accepted requests whose folders are one folder leave the file of the one that comes
last. -/
theorem shop_order_matters :
    ¬∀ (o : Options) (s : Store) (requests permuted : List Request),
      check o requests = .ok () → permuted.Perm requests →
        (permuted.zip (processAll o permuted s).1).Perm
            (requests.zip (processAll o requests s).1) ∧
          ∀ l, (processAll o permuted s).2.get? l = (processAll o requests s).2.get? l := by
  intro h
  have hsame := (h shopOptions twoFolders [shopRequest, respelledRequest]
    [respelledRequest, shopRequest] rfl (List.Perm.swap _ _ _)).2
    ["tmp".toList, "work".toList, "db".toList, "shop".toList, "job_mappings.go".toList]
  exact absurd hsame (by decide +kernel)

end Run
end SchemaMap
