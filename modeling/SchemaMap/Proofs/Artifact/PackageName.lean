/-
# Which package names are legal

The name of a package is put together from two parts with an underscore between them: the tool and
the folder, or the last two segments of a folder that has several (`Artifact.NameParts`). Hyphens
are dropped, and what is left is checked character by character before a file is rendered.

A name that passes is an identifier, and with an underscore in it it is none of the key words of Go.
But it may be the underscore alone, which Go calls the blank identifier and does not take for the
name of a package. So the rendered files with an illegal package clause are just those for which
both parts hold nothing but hyphens (`Artifact.package_legal_iff`), as both do behind two slashes at
the end of a folder (`Artifact.blank_package_rendered`).

Key definitions: `Artifact.NameParts`, `Artifact.keyWords`, `Artifact.IsLegalPackage`.
Key theorems: `Artifact.packageName_eq`, `Artifact.exists_nameParts`, `Artifact.clause_of_render`,
`Artifact.isLegalPackage_iff`, `Artifact.package_legal_iff`.
-/
import SchemaMap.Proofs.Artifact.TypeLookup
import SchemaMap.Request.Basic
import Mathlib.Tactic.SplitIfs

namespace SchemaMap
namespace Artifact

open Text

/-! ### The parts of a name -/

/-- The two parts that the name of a package is made of: for a folder of one segment the tool and
that segment, and else the last two segments of the folder. -/
inductive NameParts (tool : List Char) : List Char → List Char → List Char → Prop where
  | single {folder : List Char} : '/' ∉ folder → NameParts tool folder tool folder
  | nested {front first last : List Char} : front = [] ∨ front.getLast? = some '/' →
      '/' ∉ first → '/' ∉ last → NameParts tool (front ++ (first ++ '/' :: last)) first last

/-- What stands behind the last separator of a text, and what stands up to it. -/
theorem exists_lastPart (sep : Char) (cs : List Char) : ∃ front last, cs = front ++ last ∧
    sep ∉ last ∧ (front = [] ∨ front.getLast? = some sep) := by
  obtain ⟨last, hcs, hlast⟩ := exists_append_dropEndWhile (· != sep) cs
  refine ⟨_, last, hcs, fun hmem => absurd (hlast _ hmem) (by simp), ?_⟩
  rcases List.eq_nil_or_concat (dropEndWhile (· != sep) cs) with hnil | ⟨front, d, hfront⟩
  · exact .inl hnil
  · rw [List.concat_eq_append] at hfront
    have hd : d = sep := by simpa using neg_of_dropEndWhile_eq_concat hfront
    exact .inr (by rw [hfront, hd, List.getLast?_concat])

/-- Every folder has its two parts. -/
theorem exists_nameParts (tool folder : List Char) :
    ∃ first last, NameParts tool folder first last := by
  obtain ⟨front, last, rfl, hlast, hfront⟩ := exists_lastPart '/' folder
  rcases hfront with rfl | hfront
  · exact ⟨tool, last, .single hlast⟩
  · obtain ⟨before, rfl⟩ := List.getLast?_eq_some_iff.1 hfront
    obtain ⟨front, first, rfl, hfirst, hfront⟩ := exists_lastPart '/' before
    refine ⟨first, last, ?_⟩
    simpa using NameParts.nested hfront hfirst hlast

/-- The name of a package is made of its two parts. -/
theorem packageName_eq {tool folder first last : List Char}
    (h : NameParts tool folder first last) :
    packageName tool folder = (first ++ '_' :: last).filter (· != '-') := by
  cases h with
  | single hfolder => simp only [packageName, splitOn_of_notMem hfolder, List.reverse_singleton]
  | @nested front first last hfront hfirst hlast =>
    have hparts : splitOn '/' (first ++ '/' :: last) = [first, last] := by
      rw [splitOn_append, splitOn_of_notMem hfirst, splitOn_of_notMem hlast]
      rfl
    rcases hfront with rfl | hfront
    · simp only [packageName, List.nil_append, hparts, List.reverse_cons, List.reverse_nil,
        List.singleton_append]
    · obtain ⟨before, rfl⟩ := List.getLast?_eq_some_iff.1 hfront
      have hsplit : splitOn '/' (before ++ ['/'] ++ (first ++ '/' :: last)) =
          splitOn '/' before ++ [first, last] := by
        rw [List.append_assoc, List.singleton_append, splitOn_append, hparts]
      simp only [packageName, hsplit, List.reverse_append, List.reverse_cons, List.reverse_nil,
        List.nil_append, List.cons_append]

theorem underscore_mem_packageName (tool folder : List Char) : '_' ∈ packageName tool folder := by
  obtain ⟨first, last, h⟩ := exists_nameParts tool folder
  rw [packageName_eq h, List.mem_filter]
  exact ⟨by simp, rfl⟩

/-- The underscore is all that is left just where both parts hold nothing but hyphens. -/
theorem packageName_eq_blank_iff {tool folder first last : List Char}
    (h : NameParts tool folder first last) :
    packageName tool folder = ['_'] ↔ ∀ c ∈ first ++ last, c = '-' := by
  have hdropped (part : List Char) : part.filter (· != '-') = [] ↔ ∀ c ∈ part, c = '-' := by
    simp [List.filter_eq_nil_iff]
  rw [packageName_eq h, List.filter_append, List.filter_cons_of_pos rfl,
    List.append_eq_singleton_iff, List.forall_mem_append, ← hdropped, ← hdropped]
  simp

/-! ### Legal names -/

/-- The key words of Go. -/
def keyWords : List (List Char) :=
  ["break", "case", "chan", "const", "continue", "default", "defer", "else", "fallthrough", "for",
    "func", "go", "goto", "if", "import", "interface", "map", "package", "range", "return",
    "select", "struct", "switch", "type", "var"].map String.toList

/-- A name that may stand in a package clause: an identifier of letters, digits and underscores that
does not begin with a digit, and neither the blank identifier nor a key word. -/
structure IsLegalPackage (name : List Char) : Prop where
  ne_nil : name ≠ []
  chars : ∀ c ∈ name, isAsciiLetter c = true ∨ isAsciiDigit c = true ∨ c = '_'
  first : ∀ c ∈ name.head?, isAsciiDigit c = false
  notBlank : name ≠ ['_']
  notKeyWord : name ∉ keyWords

/-- No letter and no underscore is a digit. -/
theorem isAsciiDigit_of_first {c : Char} (h : isAsciiLetter c = true ∨ c = '_') :
    isAsciiDigit c = false := by
  rw [Bool.eq_false_iff]
  intro hdigit
  have hcode := toNat_of_isAsciiDigit hdigit
  rcases h with hletter | rfl
  · have hbounds := toNat_of_isAsciiLetter hletter
    omega
  · simp at hcode

theorem isPackageName_cons {c : Char} {cs : List Char} : isPackageName (c :: cs) = true ↔
    (isAsciiLetter c = true ∨ c = '_') ∧
      ∀ d ∈ cs, isAsciiLetter d = true ∨ isAsciiDigit d = true ∨ d = '_' := by
  simp only [isPackageName, Bool.and_eq_true, Bool.or_eq_true, beq_iff_eq, List.all_eq_true,
    or_assoc]

/-- What the check of a name leaves out are the blank identifier and the key words. -/
theorem isLegalPackage_iff {name : List Char} :
    IsLegalPackage name ↔ isPackageName name = true ∧ name ≠ ['_'] ∧ name ∉ keyWords := by
  constructor
  · rintro ⟨hne, hchars, hfirst, hblank, hkey⟩
    obtain ⟨c, cs, rfl⟩ := List.exists_cons_of_ne_nil hne
    obtain ⟨hc, hcs⟩ := List.forall_mem_cons.1 hchars
    rw [hfirst c rfl, or_iff_right Bool.false_ne_true] at hc
    exact ⟨isPackageName_cons.2 ⟨hc, hcs⟩, hblank, hkey⟩
  · rintro ⟨hname, hblank, hkey⟩
    cases name with
    | nil => cases hname
    | cons c cs =>
      obtain ⟨hc, hcs⟩ := isPackageName_cons.1 hname
      have hc' : isAsciiLetter c = true ∨ isAsciiDigit c = true ∨ c = '_' := hc.imp_right .inr
      exact ⟨List.cons_ne_nil c cs, List.forall_mem_cons.2 ⟨hc', hcs⟩,
        forall_mem_some (isAsciiDigit_of_first hc), hblank, hkey⟩

/-- No key word has an underscore, so no name that is put together from two parts is one. -/
theorem packageName_notMem_keyWords (tool folder : List Char) :
    packageName tool folder ∉ keyWords := by
  have hnone : ∀ w ∈ keyWords, '_' ∉ w := forall_mem_of_all (by decide)
  exact fun hmem => hnone _ hmem (underscore_mem_packageName tool folder)

/-! ### The package clause of a file -/

/-- The fourth line of a file is its package clause. -/
theorem clause_of_render {a : Artifact} {text : String} (h : a.render = .ok text) :
    (lines text.toList)[3]? = some ("package ".toList ++ a.package.toList) := by
  obtain ⟨hc, rfl⟩ := render_eq_ok h
  have hp := checkPackage_of_check hc
  have hreturn : '\r' ∉ "package ".toList ++ a.package.toList := by
    rw [List.mem_append, not_or]
    exact ⟨by decide, fun hm => absurd (mem_package hp hm) (by decide)⟩
  have hline : dropReturn ("package ".toList ++ a.package.toList) =
      "package ".toList ++ a.package.toList :=
    dropReturn_of_not_suffix fun hs => hreturn (hs.subset List.mem_cons_self)
  rw [String.toList_ofList, text_eq, lines_unlines_append _ (newline_notMem_frontLines hp),
    frontLines, headLines]
  exact congrArg some hline

/-- **Which files have a legal package clause.** A file whose package is named by a package argument
and a folder has that name in its fourth line, and if it can be rendered at all, the name is legal
just where one of its two parts holds something other than hyphens. -/
theorem package_legal_iff (argument folder : String) {a : Artifact} {text : String}
    (hname : a.package = String.ofList (packageName (toolOf argument.toList) folder.toList))
    (h : a.render = .ok text) :
    (lines text.toList)[3]? = some ("package ".toList ++ a.package.toList) ∧
      (IsLegalPackage a.package.toList ↔
        ∃ first last, NameParts (toolOf argument.toList) folder.toList first last ∧
          ∃ c ∈ first ++ last, c ≠ '-') := by
  refine ⟨clause_of_render h, ?_⟩
  have hchecked := checkPackage_eq_ok_iff.1 (checkPackage_of_check (render_eq_ok h).1)
  have hblank {first last : List Char}
      (hparts : NameParts (toolOf argument.toList) folder.toList first last) :
      a.package.toList ≠ ['_'] ↔ ∃ c ∈ first ++ last, c ≠ '-' := by
    rw [hname, String.toList_ofList, Ne, packageName_eq_blank_iff hparts]
    simp only [not_forall, exists_prop]
  rw [isLegalPackage_iff]
  constructor
  · rintro ⟨-, hne, -⟩
    obtain ⟨first, last, hparts⟩ := exists_nameParts (toolOf argument.toList) folder.toList
    exact ⟨first, last, hparts, (hblank hparts).1 hne⟩
  · rintro ⟨first, last, hparts, hother⟩
    refine ⟨hchecked, (hblank hparts).2 hother, ?_⟩
    rw [hname, String.toList_ofList]
    exact packageName_notMem_keyWords _ _

/-- A file without mappings for a folder that is written with a slash at its end. -/
def slashed : Artifact where
  package := "simple_"
  sourceFile := "create.sql"
  mappingsImport := defaultImport
  mappings := []
  tables := []

theorem package_legal_slashed :
    slashed.package =
        String.ofList (packageName (toolOf "workflow_testdata".toList) "mssql/simple/".toList) ∧
      slashed.render = .ok (String.ofList slashed.text) ∧
      (lines slashed.text)[3]? = some "package simple_".toList ∧
      IsLegalPackage slashed.package.toList := by
  have hname : slashed.package =
      String.ofList (packageName (toolOf "workflow_testdata".toList) "mssql/simple/".toList) := by
    decide
  have hrender : slashed.render = .ok (String.ofList slashed.text) := rfl
  have hparts : NameParts (toolOf "workflow_testdata".toList) "mssql/simple/".toList
      "simple".toList [] :=
    @NameParts.nested _ "mssql/".toList "simple".toList [] (.inr rfl) (by decide) (by decide)
  obtain ⟨hclause, hlegal⟩ := package_legal_iff "workflow_testdata" "mssql/simple/" hname hrender
  rw [String.toList_ofList] at hclause
  exact ⟨hname, hrender, hclause, hlegal.2 ⟨_, _, hparts, 's', by decide, by decide⟩⟩

/-- A file without mappings for a folder that is written with two slashes at its end. -/
def blank : Artifact :=
  { slashed with package := "_" }

/-- A request for such a folder is accepted and its file is rendered, with the blank identifier for
its package. -/
theorem blank_package_rendered :
    Request.checkAll [⟨"shop//", "create.sql", "mysql"⟩] = .ok () ∧
      blank.package =
        String.ofList (packageName (toolOf "workflow_testdata".toList) "shop//".toList) ∧
      blank.render = .ok (String.ofList blank.text) ∧
      ¬IsLegalPackage blank.package.toList := by
  refine ⟨by decide, by decide, rfl, fun hlegal => hlegal.notBlank (by decide)⟩

end Artifact
end SchemaMap
