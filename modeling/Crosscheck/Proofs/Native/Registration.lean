import Crosscheck.Analysis.Campaign
import Crosscheck.Proofs.Native.Intake
import Mathlib.Data.List.Induction
/-!
# A file is registered once

A reader is asked to read reports, about many files or about a single one, and now and then to start
over. What is registered after a history of requests is told from the requests alone: each file with
the first report that was `offered` for it since the reader last started over. By that, `Answers`
says what one more call does; a file that has a report already turns every further one away before
it is read.
-/

namespace Crosscheck.Native

open Crosscheck.Files

/-! ## Requests -/

/-- What a reader is asked to do. A report is read from the files that there are by then. -/
inductive Request
  | read (files : FileSystem) (tool : Tool) (report : Path) (intake : Intake)
  /-- To forget the findings. -/
  | reset
  /-- To forget the findings and the failures. -/
  | restart

namespace Request

/-- Carries out a request. -/
def carryOut : Request → Action (List Report)
  | .read files tool report intake => do
    Action.setFiles files
    intake.read tool report
  | .reset => do
    Action.updateIndex fun _ => (.empty, none)
    return []
  | .restart => do
    Analysis.reset
    return []

/-- Whether the report that is to be read can be taken in. -/
def isSound : Request → Bool
  | .read files tool report intake => (digest files tool intake.folder report).isSound
  | .reset | .restart => true

/-- Whether a request is to start over. -/
def startsOver : Request → Bool
  | .read .. => false
  | .reset | .restart => true

/-- The report that a request offers for a file: one about that file alone, with something to read
and a place for findings in it. -/
def offered (path : String) : Request → Option Report
  | .read files tool report (.single seed) =>
    match digest files tool seed.absolute.parent report with
    | .found found =>
      if seed.absolute.render == path then some (singleReport tool seed found) else none
    | _ => none
  | _ => none

/-- The requests since the last one to start over. -/
def sinceStart (history : List Request) : List Request :=
  (history.reverse.takeWhile fun request => !request.startsOver).reverse

/-- What a file is registered with after a history of requests. -/
def registration (history : List Request) (path : String) : Option Report :=
  (sinceStart history).findSome? (offered path)

/-- The world after a history of requests. -/
def replay (w : World) (history : List Request) : World :=
  history.foldl (fun w request => (request.carryOut.exec w).2) w

variable {w : World} {history : List Request} {request : Request}

theorem replay_concat (w : World) (history : List Request) (request : Request) :
    replay w (history ++ [request]) = (request.carryOut.exec (replay w history)).2 := by
  simp only [replay, List.foldl_append, List.foldl_cons, List.foldl_nil]

/-- A request to start over is the end of what was registered; any other may offer something. -/
theorem registration_concat (history : List Request) (request : Request) (path : String) :
    registration (history ++ [request]) path =
      if request.startsOver then none
      else (registration history path).or (request.offered path) := by
  unfold registration sinceStart
  rw [List.reverse_append, List.reverse_singleton, List.singleton_append, List.takeWhile_cons]
  cases request.startsOver with
  | true => rfl
  | false => simp [List.findSome?_append]

end Request

/-! ## What a call does -/

namespace Intake

/-- Whether a call is about a single file that has a report already. -/
def isRepeated (registered : String → Option Report) : Intake → Bool
  | .many _ => false
  | .single seed => (registered seed.absolute.render).isSome

/-- What a call does in a world, by the reports that files are registered with. -/
structure Answers (w : World) (registered : String → Option Report) (tool : Tool) (report : Path)
    (intake : Intake) : Prop where
  /-- A report that is missing or empty changes nothing. -/
  idle : isReadable w.files report = false → (intake.read tool report).exec w = (.ok [], w)
  /-- A further report about a file is turned away, whatever is in it, and only noted. -/
  refused : ∀ seed, intake = .single seed → (registered seed.absolute.render).isSome = true →
    isReadable w.files report = true →
      let path := seed.absolute.render
      (intake.read tool report).exec w = (.error (.repeatedSeed path report.render),
        { w with journal := w.journal ++
          [⟨.critical, s!"Repeat process: {path}, report: {report.render}"⟩] })
  /-- A report without a place for findings changes nothing. -/
  bare : intake.isRepeated registered = false →
    digest w.files tool intake.folder report = .empty →
      (intake.read tool report).exec w = (.ok [], w)
  /-- A malformed report is one more failure. -/
  malformed : intake.isRepeated registered = false →
    digest w.files tool intake.folder report = .unreadable →
      (intake.read tool report).exec w = (.ok [], w.withUnreadable report.render)
  /-- A report about many files is merged file by file, and registers none of them. -/
  merged : ∀ folder found, intake = .many folder →
    digest w.files tool folder report = .found found →
      (intake.read tool report).exec w = (.ok (byFile tool found),
        { w with index := (byFile tool found).foldl Index.absorb w.index })
  /-- The first report about a file is registered, with all that is found. -/
  registers : ∀ seed found, intake = .single seed → registered seed.absolute.render = none →
    digest w.files tool seed.absolute.parent report = .found found →
      let entered := singleReport tool seed found
      (intake.read tool report).exec w =
        (.ok [entered], { w with index := (w.index.enter entered).absorb entered })

variable {w : World} {tool : Tool} {report : Path} {intake : Intake}

theorem isRefused_eq (index : Index) (intake : Intake) :
    intake.isRefused index = intake.isRepeated index.reports.get? := by
  cases intake <;> rfl

/-- Whatever is registered, a call whose report can be taken in goes one of the ways. -/
theorem answers_read (hsound : (digest w.files tool intake.folder report).isSound = true) :
    intake.Answers w w.index.reports.get? tool report := by
  have hsettle : ∀ found, intake.isRepeated w.index.reports.get? = false →
      digest w.files tool intake.folder report = .found found →
      (intake.read tool report).exec w = (.ok (intake.reports tool found),
        { w with index := intake.settle w.index (intake.reports tool found) }) := by
    intro found hnew hdigest
    rw [hdigest] at hsound
    rw [← isRefused_eq] at hnew
    simp only [exec_read hnew, hdigest, merge_of_keys tool report hnew hsound, Action.answer]
  refine ⟨exec_read_of_not_isReadable intake, ?refused, ?bare, ?malformed, ?merged, ?registers⟩
  case refused =>
    rintro seed rfl hthere hreadable
    exact exec_read_of_registered hthere hreadable
  case bare =>
    intro hnew hdigest
    rw [exec_read ((isRefused_eq _ _).trans hnew), hdigest]
  case malformed =>
    intro hnew hdigest
    rw [exec_read ((isRefused_eq _ _).trans hnew), hdigest]
  case merged =>
    rintro folder found rfl hdigest
    exact hsettle found rfl hdigest
  case registers =>
    rintro seed found rfl hnew hdigest
    refine hsettle found ?_ hdigest
    simp only [isRepeated, hnew, Option.isSome_none]

end Intake

/-! ## What is registered after a history -/

namespace Request

variable {w : World} {path : String}

theorem reports_foldl_absorb (merged : List Report) (index : Index) :
    (merged.foldl Index.absorb index).reports = index.reports := by
  induction merged generalizing index with
  | nil => rfl
  | cons report rest ih => exact ih (index.absorb report)

/-- A report about another file offers nothing. -/
theorem offered_of_ne {files : FileSystem} {tool : Tool} {report seed : Path}
    (h : seed.absolute.render ≠ path) :
    (Request.read files tool report (.single seed)).offered path = none := by
  simp only [offered]
  split <;> simp [h]

/-- A report about many files registers nothing. -/
theorem reports_read_many {tool : Tool} {report folder : Path}
    (hsound : (digest w.files tool folder report).isSound = true) :
    (((Intake.many folder).read tool report).exec w).2.index.reports = w.index.reports := by
  have hanswers : (Intake.many folder).Answers w w.index.reports.get? tool report :=
    Intake.answers_read hsound
  cases hdigest : digest w.files tool folder report with
  | empty => rw [hanswers.bare rfl hdigest]
  | unreadable => rw [hanswers.malformed rfl hdigest]; rfl
  | stuck fault => rw [hdigest] at hsound; exact nomatch hsound
  | found found =>
    rw [hanswers.merged folder found rfl hdigest]
    exact reports_foldl_absorb _ _

/-- A file that has a report keeps it. -/
theorem index_read_of_registered {tool : Tool} {report seed : Path}
    (hthere : w.index.isRegistered seed.absolute.render = true) :
    (((Intake.single seed).read tool report).exec w).2.index = w.index := by
  cases hreadable : isReadable w.files report with
  | false => rw [Intake.exec_read_of_not_isReadable _ hreadable]
  | true => rw [Intake.exec_read_of_registered hthere hreadable]

/-- A file that has no report gets the one that is offered. -/
theorem get?_reports_read_of_new {tool : Tool} {report seed : Path}
    (hsound : (digest w.files tool seed.absolute.parent report).isSound = true)
    (hnew : w.index.reports.get? seed.absolute.render = none) :
    (((Intake.single seed).read tool report).exec w).2.index.reports.get? path =
      (w.index.reports.get? path).or
        ((Request.read w.files tool report (.single seed)).offered path) := by
  have hanswers : (Intake.single seed).Answers w w.index.reports.get? tool report :=
    Intake.answers_read hsound
  have hfirst : (Intake.single seed).isRepeated w.index.reports.get? = false := by
    simp only [Intake.isRepeated, hnew, Option.isSome_none]
  cases hdigest : digest w.files tool seed.absolute.parent report with
  | empty => simp only [hanswers.bare hfirst hdigest, offered, hdigest, Option.or_none]
  | unreadable =>
    simp only [hanswers.malformed hfirst hdigest, offered, hdigest, Option.or_none]
    rfl
  | stuck fault => rw [hdigest] at hsound; exact nomatch hsound
  | found found =>
    simp only [hanswers.registers seed found rfl hnew hdigest, offered, hdigest]
    show (w.index.reports.insert _ _).get? path = _
    rw [OrderedMap.get?_insert]
    by_cases hpath : seed.absolute.render = path
    · subst hpath
      simp [hnew, singleReport]
    · simp [singleReport, hpath]

/-- A report that is offered for a file is entered unless the file has one. -/
theorem get?_reports_read {files : FileSystem} {tool : Tool} {report : Path} {intake : Intake}
    (hsound : (digest files tool intake.folder report).isSound = true) :
    ((intake.read tool report).exec { w with files }).2.index.reports.get? path =
      (w.index.reports.get? path).or ((Request.read files tool report intake).offered path) := by
  cases intake with
  | many folder =>
    rw [reports_read_many hsound]
    exact Option.or_none.symm
  | single seed =>
    cases hthere : w.index.reports.get? seed.absolute.render with
    | none => exact get?_reports_read_of_new hsound hthere
    | some registered =>
      have hkept : { w with files }.index.isRegistered seed.absolute.render = true := by
        simp [Index.isRegistered, OrderedMap.contains, hthere]
      rw [index_read_of_registered hkept]
      by_cases hpath : seed.absolute.render = path
      · rw [← hpath, hthere, Option.some_or]
      · rw [offered_of_ne hpath, Option.or_none]

/-- After one more request a file is registered with what it was registered with, else with what the
request offers; nothing is registered after a request to start over. -/
theorem get?_reports_carryOut {request : Request} (hsound : request.isSound = true) :
    (request.carryOut.exec w).2.index.reports.get? path =
      if request.startsOver then none
      else (w.index.reports.get? path).or (request.offered path) := by
  cases request with
  | read files tool report intake => exact get?_reports_read hsound
  | reset => rfl
  | restart => rfl

/-- What the index has registered after a history is told from the requests. -/
theorem get?_reports_replay (hfresh : ∀ path, w.index.reports.get? path = none)
    (history : List Request) (hsound : ∀ request ∈ history, request.isSound = true) :
    (replay w history).index.reports.get? = registration history := by
  funext path
  -- From the end of the history: what was offered before the last request is in the index by then.
  induction history using List.reverseRecOn with
  | nil => exact hfresh path
  | append_singleton history request ih =>
    have hrequest : request.isSound = true := hsound request (by simp)
    have hbefore := ih fun other hother => hsound other (by simp [hother])
    rw [replay_concat, get?_reports_carryOut hrequest, registration_concat, hbefore]

/-- After every history of sound requests the index has each file registered with the first report
offered for it since the reader last started over, and each call to read a report answers by what
was registered before it. -/
theorem registered_once (hfresh : ∀ path, w.index.reports.get? path = none)
    (history : List Request) (hsound : ∀ request ∈ history, request.isSound = true) :
    (∀ path, (replay w history).index.reports.get? path = registration history path) ∧
    ∀ before after files tool report intake,
      history = before ++ .read files tool report intake :: after →
        intake.Answers { replay w before with files } (registration before) tool report := by
  refine ⟨fun path => congrFun (get?_reports_replay hfresh history hsound) path, ?_⟩
  rintro before after files tool report intake rfl
  have hbefore := get?_reports_replay hfresh before fun request hrequest =>
    hsound request (List.mem_append_left _ hrequest)
  rw [← hbefore]
  exact Intake.answers_read (hsound (.read files tool report intake) (by simp))

/-- A corpus with a report on two of its files, and one that is malformed. -/
def reportedFiles : FileSystem :=
  let files := do
    let fs ← FileSystem.initial.ensureDirectories (Path.ofString "/tmp/w/seeds")
    let fs ← fs.write (Path.ofString "/tmp/w/r.json")
      ("[\x7b\"file\": \"A.java\", \"line\": 1, \"bug_type\": \"LEAK\"\x7d, " ++
        "\x7b\"file\": \"B.java\", \"line\": 2, \"bug_type\": \"NULL\"\x7d]").toUTF8.data.toList
    fs.write (Path.ofString "/tmp/w/bad.json") "[".toUTF8.data.toList
  files.toOption.getD .initial

/-- Reports of both kinds, a malformed one before and after the one that registers its file, and a
fresh start. -/
def mixedHistory : List Request :=
  let read := fun report => Request.read reportedFiles .infer (Path.ofString report)
  let single := Intake.single (Path.ofString "/tmp/w/seeds/A.java")
  [read "/tmp/w/r.json" (.many (Path.ofString "/tmp/w/seeds")), read "/tmp/w/bad.json" single,
    read "/tmp/w/r.json" single, read "/tmp/w/bad.json" single, .reset]

/-- The third request registers the file with both findings, the fourth is turned away, and the last
forgets them. -/
theorem registered_mixedHistory :
    let path := "/tmp/w/seeds/A.java"
    (∀ path, World.initial.index.reports.get? path = none) ∧
    (∀ request ∈ mixedHistory, request.isSound = true) ∧
    registration (mixedHistory.take 2) path = none ∧
    (registration (mixedHistory.take 3) path).map (·.violations.map (·.line)) = some [1, 2] ∧
    (((Intake.single (Path.ofString path)).read .infer (Path.ofString "/tmp/w/bad.json")).exec
      { replay World.initial (mixedHistory.take 3) with files := reportedFiles }).1 =
        .error (.repeatedSeed path "/tmp/w/bad.json") ∧
    (replay World.initial mixedHistory).index.reports.get? path = none := by
  intro path
  have hfresh : ∀ path, World.initial.index.reports.get? path = none := fun _ => rfl
  have hsound : ∀ request ∈ mixedHistory, request.isSound = true :=
    List.all_eq_true.mp (by decide +kernel)
  have hlines : (registration (mixedHistory.take 3) path).map (·.violations.map (·.line)) =
      some [1, 2] := by
    decide +kernel
  have hthere : (registration (mixedHistory.take 3) path).isSome = true := by
    rw [← Option.isSome_map, hlines, Option.isSome_some]
  have hpath : (Path.ofString path).absolute.render = path := by decide +kernel
  obtain ⟨hregistered, hcalls⟩ := registered_once hfresh mixedHistory hsound
  have hfourth := (hcalls (mixedHistory.take 3) [.reset] _ _ _ _ rfl).refused _ rfl
    (hpath.symm ▸ hthere) (by decide +kernel)
  refine ⟨hfresh, hsound, by decide +kernel, hlines, ?_, ?_⟩
  · exact congrArg Prod.fst hfourth
  · exact (hregistered path).trans (by decide +kernel)

end Request

end Crosscheck.Native
