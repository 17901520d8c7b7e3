import Crosscheck.Proofs.Native.Mentions
import Crosscheck.Proofs.Native.Registration
/-!
# The lines that reach the index

A text never tells a line beyond 32 bits, while a number is taken as it is. So the line of a finding
depends on how the report writes it as soon as it does not fit, and a line that does not fit reaches
the index by one way only: a report that is read tells it as a number. Such a report is one of PMD,
Infer or SonarQube, since no value in XML is a number.

`mem_lines_carryOut` is the step: what a request leaves in the index was there before it or is told
by its report. `stored_lines_iff` follows it through histories of requests.
-/

namespace Crosscheck

namespace Index

variable {n : Int}

/-- Merging reports one after the other stores the lines of those up to the first whose merge
fails. -/
theorem exists_mem_lines_mergeReports (reports : List Report) (index : Index) :
    ∃ taken, taken <+: reports ∧ ((mergeReports reports index).2 = none → taken = reports) ∧
      ∀ n, n ∈ (mergeReports reports index).1.lines ↔
        n ∈ index.lines ∨ n ∈ (taken.flatMap (·.violations)).map (·.line) := by
  induction reports generalizing index with
  | nil => exact ⟨[], List.prefix_refl _, fun _ => rfl, fun n => by simp [mergeReports]⟩
  | cons report rest ih =>
    have hfirst (n : Int) := mem_lines_merge index report (n := n)
    rcases hmerge : index.merge report with ⟨next, _ | fault⟩
    · obtain ⟨taken, hprefix, hall, hlines⟩ := ih next
      simp only [hmerge] at hfirst
      refine ⟨report :: taken, List.cons_prefix_cons.mpr ⟨rfl, hprefix⟩, ?_, fun n => ?_⟩
      · simp only [mergeReports, hmerge]
        exact fun hnone => congrArg _ (hall hnone)
      · simp only [mergeReports, hmerge]
        rw [hlines, hfirst, List.flatMap_cons, List.map_append, List.mem_append, or_assoc]
    · simp only [hmerge] at hfirst
      refine ⟨[report], ⟨rest, rfl⟩, ?_, fun n => ?_⟩
      · simp only [mergeReports, hmerge, reduceCtorEq, false_implies]
      · simp only [mergeReports, hmerge]
        rw [hfirst, List.flatMap_singleton]

end Index

namespace Native

open Crosscheck.Document Crosscheck.Files

/-! ## What a call stores -/

namespace Intake

variable {intake : Intake} {index : Index} {n : Int}

/-- Findings keep their lines in the reports that they are merged as. -/
theorem mem_lines_reports (intake : Intake) (tool : Tool) (found : List Violation) :
    n ∈ ((intake.reports tool found).flatMap (·.violations)).map (·.line) ↔
      n ∈ found.map (·.line) := by
  cases intake with
  | many folder => exact ((byFile_perm tool found).map _).mem_iff
  | single seed =>
    rw [reports, List.flatMap_singleton, singleReport, List.map_map]
    rfl

/-- A merge stores lines of the findings that it is given, and all of them unless it fails. -/
theorem mem_lines_merge (tool : Tool) (report : Path) (found : List Violation)
    (hnew : intake.isRefused index = false) :
    (n ∈ (intake.merge tool report found index).1.lines →
      n ∈ index.lines ∨ n ∈ found.map (·.line)) ∧
    ((intake.merge tool report found index).2 = none →
      n ∈ index.lines ∨ n ∈ found.map (·.line) →
      n ∈ (intake.merge tool report found index).1.lines) := by
  rw [← mem_lines_reports intake tool found]
  cases intake with
  | many folder =>
    obtain ⟨taken, hprefix, hall, hlines⟩ :=
      Index.exists_mem_lines_mergeReports (byFile tool found) index
    refine ⟨fun h => ((hlines n).mp h).imp_right fun hmem => ?_, fun hnone h => ?_⟩
    · obtain ⟨later, hlater⟩ := hprefix
      rw [reports, ← hlater, List.flatMap_append, List.map_append]
      exact List.mem_append_left _ hmem
    · exact (hlines n).mpr (by rwa [hall hnone])
  | single seed =>
    have hlines : n ∈ (index.register (singleReport tool seed found) report.render).1.lines ↔
        n ∈ index.lines ∨ n ∈ (singleReport tool seed found).violations.map (·.line) := by
      have hpath : index.isRegistered (singleReport tool seed found).path = false := hnew
      rw [Index.register_of_new _ hpath, Index.mem_lines_merge, Index.mem_lines_enter hpath, or_assoc,
        or_self]
    rw [reports, List.flatMap_singleton]
    exact ⟨hlines.mp, fun _ => hlines.mpr⟩

end Intake

/-! ## What a report tells -/

section Told

variable {fs : FileSystem} {tool : Tool} {folder report : Path} {n : Int}

theorem exists_mem_iff_of_forall₂ {α β : Type} {R : α → β → Prop} {p : α → Prop} {q : β → Prop}
    (h : ∀ a b, R a b → (p a ↔ q b)) {xs : List α} {ys : List β} (hrelated : List.Forall₂ R xs ys) :
    (∃ a ∈ xs, p a) ↔ ∃ b ∈ ys, q b := by
  induction hrelated with
  | nil => simp
  | cons hab _ ih => simp only [List.exists_mem_cons_iff, h _ _ hab, ih]

/-- The findings of a report have a line that does not fit exactly if the report tells it as a
number. -/
theorem mem_lines_iff_told {found : List Violation}
    (h : parse fs tool folder report = .ok (some found)) (hwide : n ∉ lineRange) :
    n ∈ found.map (·.line) ↔ ∃ x ∈ told fs tool report, x.line = .int n := by
  rw [List.mem_map]
  exact (exists_mem_iff_of_forall₂ (fun x v hbecomes => (hbecomes.line.eq_iff_of_wide hwide).symm)
    (forall₂_becomes_of_parse h)).symm

/-- A line that XML gives, if any, is text. -/
theorem text_ne_int {α : Type} (given : Option α) (text : α → String) :
    (given.map fun a => Value.text (text a)).getD .null ≠ .int n := by
  cases given <;> exact fun h => nomatch h

/-- No entry in XML tells a line as a number. -/
theorem tool_of_givenBy_int {entry : Node tool} {kind : Value}
    (h : (.int n, kind) ∈ givenBy tool entry) : tool = .pmd ∨ tool = .infer ∨ tool = .sonarqube := by
  cases tool with
  | pmd => exact .inl rfl
  | infer => exact .inr (.inl rfl)
  | sonarqube => exact .inr (.inr rfl)
  | spotbugs =>
    obtain ⟨line, -, heq⟩ := List.mem_map.mp h
    exact absurd (congrArg Prod.fst heq) (text_ne_int _ _)
  | checkstyle =>
    obtain ⟨error, -, heq⟩ := List.mem_map.mp h
    exact absurd (congrArg Prod.fst heq) (text_ne_int _ _)
  | codenavi =>
    obtain ⟨info, -, heq⟩ := List.mem_map.mp h
    exact absurd (congrArg Prod.fst heq) (text_ne_int _ _)

theorem exists_givenBy_of_told {x : Mention} (h : x ∈ told fs tool report) :
    ∃ entry : Node tool, (x.line, x.kind) ∈ givenBy tool entry := by
  unfold told at h
  split at h
  · obtain ⟨entry, -, hentry⟩ := List.mem_flatMap.mp h
    unfold mentions at hentry
    split at hentry
    · exact nomatch hentry
    · obtain ⟨given, hgiven, rfl⟩ := List.mem_map.mp hentry
      exact ⟨entry, hgiven⟩
  · exact nomatch h

end Told

/-! ## What a history of requests stores -/

namespace Request

variable {w : World} {n : Int} {history : List Request} {request : Request}

/-- Whether a request takes in a report that tells a line as the number. -/
def Tells (w : World) (n : Int) : Request → Prop
  | .read files tool report intake =>
    (intake.brings tool report { w with files }).isSome = true ∧
      ∃ x ∈ told files tool report, x.line = .int n
  | .reset | .restart => False

/-- Whether a request tells a line as the number, after which the reader has not started over. -/
def Told (w : World) (history : List Request) (n : Int) : Prop :=
  ∃ before request after, history = before ++ request :: after ∧
    (∀ later ∈ after, later.startsOver = false) ∧ request.Tells (replay w before) n

theorem told_concat_iff :
    Told w (history ++ [request]) n ↔
      (request.startsOver = false ∧ Told w history n) ∨ request.Tells (replay w history) n := by
  constructor
  · rintro ⟨before, teller, after, hsplit, hgoes, htells⟩
    rcases List.eq_nil_or_concat after with rfl | ⟨after, last, rfl⟩
    · obtain ⟨rfl, hlast⟩ := List.append_inj' hsplit rfl
      cases hlast
      exact .inr htells
    · rw [List.concat_eq_append, ← List.cons_append, ← List.append_assoc] at hsplit
      obtain ⟨rfl, hlast⟩ := List.append_inj' hsplit rfl
      cases hlast
      refine .inl ⟨hgoes request (by simp), before, teller, after, rfl, ?_, htells⟩
      exact fun later hlater => hgoes later (by simp [hlater])
  · rintro (⟨hgoes, before, teller, after, rfl, hlater, htells⟩ | htells)
    · refine ⟨before, teller, after ++ [request], by simp, ?_, htells⟩
      intro later hmem
      rcases List.mem_append.mp hmem with hmem | hmem
      · exact hlater later hmem
      · exact List.mem_singleton.mp hmem ▸ hgoes
    · exact ⟨history, request, [], rfl, (fun _ h => nomatch h), htells⟩

/-- The findings that a call brings are those of its report. -/
theorem digest_of_brings {intake : Intake} {tool : Tool} {report : Path} {found : List Violation}
    (h : intake.brings tool report w = some found) :
    digest w.files tool intake.folder report = .found found := by
  unfold Intake.brings at h
  split at h
  · exact nomatch h
  · split at h
    · next heq => rw [heq, Option.some.inj h]
    · exact nomatch h

/-- A request leaves a line that does not fit in the index if it was there and stays, or if the
request tells it as a number; nothing of that is lost if the report can be taken in. -/
theorem mem_lines_carryOut (hwide : n ∉ lineRange) (request : Request) (w : World) :
    (n ∈ (request.carryOut.exec w).2.index.lines →
      (request.startsOver = false ∧ n ∈ w.index.lines) ∨ request.Tells w n) ∧
    (request.isSound = true →
      (request.startsOver = false ∧ n ∈ w.index.lines) ∨ request.Tells w n →
      n ∈ (request.carryOut.exec w).2.index.lines) := by
  cases request with
  | reset => exact ⟨(fun h => nomatch h), fun _ h => nomatch h⟩
  | restart => exact ⟨(fun h => nomatch h), fun _ h => nomatch h⟩
  | read files tool report intake =>
    show (n ∈ ((intake.read tool report).exec { w with files }).2.index.lines → _) ∧
      (_ → _ → n ∈ ((intake.read tool report).exec { w with files }).2.index.lines)
    cases hbrings : intake.brings tool report { w with files } with
    | none =>
      obtain ⟨hindex, -⟩ := Intake.exec_read_of_brings_none hbrings
      simp only [hindex, startsOver, Tells, hbrings, Option.isSome_none, Bool.false_eq_true,
        false_and, or_false, true_and]
      exact ⟨id, fun _ => id⟩
    | some found =>
      obtain ⟨hnew, hread⟩ := Intake.exec_read_of_brings hbrings
      have hdigest := digest_of_brings hbrings
      have htold := mem_lines_iff_told (parse_of_found hdigest) hwide
      have hmerge := Intake.mem_lines_merge (n := n) tool report found hnew
      simp only [hread, startsOver, Tells, hbrings, Option.isSome_some, true_and, ← htold]
      refine ⟨hmerge.1, fun hsound => hmerge.2 ?_⟩
      have hkeys : found.all (·.bugType.isKey) = true := by
        have hsame : (digest files tool intake.folder report).isSound = true := hsound
        rwa [show digest files tool intake.folder report = .found found from hdigest] at hsame
      rw [Intake.merge_of_keys tool report hnew hkeys]

/-- Whatever is stored after a history and does not fit was told as a number; and whatever was told
is stored if all reports can be taken in. -/
theorem mem_lines_replay (hwide : n ∉ lineRange) (hfresh : n ∉ w.index.lines)
    (history : List Request) :
    (n ∈ (replay w history).index.lines → Told w history n) ∧
    ((∀ request ∈ history, request.isSound = true) → Told w history n →
      n ∈ (replay w history).index.lines) := by
  -- From the end of the history, as what is told can be lost by a later start only.
  induction history using List.reverseRecOn with
  | nil =>
    refine ⟨fun h => absurd h hfresh, ?_⟩
    rintro - ⟨before, request, after, hsplit, -⟩
    exact absurd hsplit (by simp)
  | append_singleton history request ih =>
    obtain ⟨hstored, hkept⟩ := mem_lines_carryOut hwide request (replay w history)
    rw [replay_concat, told_concat_iff]
    refine ⟨fun h => (hstored h).imp_left (And.imp_right ih.1), fun hsound h => ?_⟩
    have hbefore := ih.2 fun other hother => hsound other (List.mem_append_left _ hother)
    exact hkept (hsound request (by simp)) (h.imp_left (And.imp_right hbefore))

/-- A number and its decimal text give one line exactly if the number fits. Whatever else reaches the
index is a number that a report tells: of PMD, Infer or SonarQube, as XML tells none. So after a
history of requests that can be taken in, all lines that are stored fit exactly if all numbers that
were told do. -/
theorem stored_lines_iff (hfresh : ∀ n ∈ w.index.lines, n ∈ lineRange) :
    (∀ n, lineOf (.int n) = lineOf (.text (toString n)) ↔ n ∈ lineRange) ∧
    (∀ history, ∀ n ∈ (replay w history).index.lines, n ∈ lineRange ∨ Told w history n) ∧
    (∀ history, (∀ request ∈ history, request.isSound = true) →
      ((∀ n ∈ (replay w history).index.lines, n ∈ lineRange) ↔
        ∀ n, Told w history n → n ∈ lineRange)) ∧
    ∀ files tool report n, ∀ x ∈ told files tool report, x.line = .int n →
      tool = .pmd ∨ tool = .infer ∨ tool = .sonarqube := by
  have hwide {n : Int} (h : n ∉ lineRange) : n ∉ w.index.lines := fun hmem => h (hfresh n hmem)
  have hstored (history : List Request) :
      ∀ n ∈ (replay w history).index.lines, n ∈ lineRange ∨ Told w history n := fun n hmem =>
    or_iff_not_imp_left.mpr fun h => (mem_lines_replay h (hwide h) history).1 hmem
  refine ⟨lineOf_int_eq_lineOf_text_iff, hstored, fun history hsound => ⟨?_, ?_⟩, ?_⟩
  · intro hfits n htold
    by_contra h
    exact h (hfits n ((mem_lines_replay h (hwide h) history).2 hsound htold))
  · exact fun hfits n hmem => (hstored history n hmem).elim id (hfits n)
  · intro files tool report n x hx hline
    obtain ⟨entry, hgiven⟩ := exists_givenBy_of_told hx
    rw [hline] at hgiven
    exact tool_of_givenBy_int hgiven

/-- A report that tells one line twice, as a number and as its text. The line does not fit. -/
def wideFiles : FileSystem :=
  let files := do
    let fs ← FileSystem.initial.ensureDirectories (Path.ofString "/tmp/w/seeds")
    fs.write (Path.ofString "/tmp/w/r.json")
      ("[\x7b\"file\": \"A.java\", \"line\": 2147483648\x7d, " ++
        "\x7b\"file\": \"A.java\", \"line\": \"2147483648\"\x7d]").toUTF8.data.toList
  files.toOption.getD .initial

/-- The report is read as one about many files. -/
def wideHistory : List Request :=
  [.read wideFiles .infer (Path.ofString "/tmp/w/r.json")
    (.many (Path.ofString "/tmp/w/seeds"))]

/-- A number that does not fit is stored as it is, and its text as an unknown line. -/
theorem lines_wideHistory :
    lineOf (.int 2147483648) = .ok 2147483648 ∧
      lineOf (.text (toString (2147483648 : Int))) = .ok (-1) ∧
      (2147483648 : Int) ∉ lineRange ∧
      (replay World.initial wideHistory).index.rowsOf "/tmp/w/seeds/A.java" = [2147483648, -1] := by
  refine ⟨rfl, by rfl, by decide, by decide +kernel⟩

theorem told_wideHistory :
    (∀ n ∈ World.initial.index.lines, n ∈ lineRange) ∧
      (∀ request ∈ wideHistory, request.isSound = true) ∧
      ¬ ∀ n, Told World.initial wideHistory n → n ∈ lineRange := by
  have hfresh : ∀ n ∈ World.initial.index.lines, n ∈ lineRange := fun _ h => nomatch h
  have hsound : ∀ request ∈ wideHistory, request.isSound = true := by decide +kernel
  obtain ⟨-, -, hbound, -⟩ := stored_lines_iff hfresh
  refine ⟨hfresh, hsound, fun htold => ?_⟩
  have hstored : (2147483648 : Int) ∈ (replay World.initial wideHistory).index.lines := by
    decide +kernel
  exact absurd ((hbound wideHistory hsound).mpr htold _ hstored) (by decide)

end Request

end Native

end Crosscheck
