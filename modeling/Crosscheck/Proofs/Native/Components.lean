import Crosscheck.Analysis.Adapter
import Crosscheck.Proofs.Native.RoundTrip
/-!
# Components and projects

A server names a file by the key of its project and its path there, with a colon between them, and
the key is made from the name of the scanned folder. The reader cuts a component at its first colon.
So a component leads back to its file exactly if there is no colon in the name of the folder
(`component_resolved_iff`): else the part of the name behind that colon is read as the beginning of
the path.
-/

namespace Crosscheck.Native

open Crosscheck.Analysis Crosscheck.Document Crosscheck.Files Crosscheck.Mutation Crosscheck.Text

/-- The name that the server gives to a file of a folder's project. -/
def componentOf (folder : Path) (file : String) : String := projectKey folder ++ ":" ++ file

/-! ## Cutting a component -/

section Cut

variable {folder : Path} (file : String)

theorem toList_componentOf :
    (componentOf folder file).toList =
      "statfier_".toList ++ folder.name.toList ++ ':' :: file.toList := by
  have hkey : projectKey folder = "statfier_" ++ folder.name := rfl
  rw [componentOf, hkey, String.toList_append, String.toList_append, String.toList_append,
    List.append_assoc]
  rfl

/-- A text is cut at its first colon. -/
theorem afterColon_of_toList {text : String} {front back : List Char} (hfront : ':' ∉ front)
    (h : text.toList = front ++ ':' :: back) : afterColon text = String.ofList back := by
  have hdrop : text.toList.dropWhile (· != ':') = ':' :: back := by
    rw [h, List.dropWhile_append_of_pos fun c hc =>
      bne_iff_ne.mpr (ne_of_mem_of_not_mem hc hfront)]
    rfl
  unfold afterColon
  rw [hdrop]

theorem afterColon_componentOf (h : ':' ∉ folder.name.toList) :
    afterColon (componentOf folder file) = file := by
  have hfront : ':' ∉ "statfier_".toList ++ folder.name.toList :=
    fun hmem => (List.mem_append.mp hmem).elim (by decide) h
  rw [afterColon_of_toList hfront (toList_componentOf file), String.ofList_toList]

/-- What stands behind the first colon of the folder's name is left in front of the file. -/
theorem afterColon_componentOf_of_mem (h : ':' ∈ folder.name.toList) :
    ∃ rest : String, (∀ c ∈ rest.toList, c ∈ folder.name.toList) ∧
      afterColon (componentOf folder file) = rest ++ ":" ++ file := by
  obtain ⟨front, back, hname, hfirst⟩ := List.eq_append_cons_of_mem h
  have hfront : ':' ∉ "statfier_".toList ++ front :=
    fun hmem => (List.mem_append.mp hmem).elim (by decide) hfirst
  refine ⟨String.ofList back, fun c hc => ?_, ?_⟩
  · rw [String.toList_ofList] at hc
    rw [hname]
    exact List.mem_append_right _ (List.mem_cons_of_mem _ hc)
  · have htext : (componentOf folder file).toList =
        "statfier_".toList ++ front ++ ':' :: (back ++ ':' :: file.toList) := by
      rw [toList_componentOf, hname]
      simp
    rw [afterColon_of_toList hfront htext]
    simp [String.ofList_append, String.append_assoc]

variable {file}

theorem afterColon_componentOf_ne_empty (h : file ≠ "") :
    afterColon (componentOf folder file) ≠ "" := by
  by_cases hcolon : ':' ∈ folder.name.toList
  · obtain ⟨rest, -, hcut⟩ := afterColon_componentOf_of_mem file hcolon
    rw [hcut]
    exact fun hempty => h (String.append_eq_empty_iff.mp hempty).2
  · rwa [afterColon_componentOf file hcolon]

theorem trim_componentOf (h : sourceSuffix.toList <:+ file.toList) :
    trim (componentOf folder file) = componentOf folder file := by
  have hsource : sourceSuffix.toList <:+ (componentOf folder file).toList := by
    rw [toList_componentOf]
    exact h.trans ((List.suffix_cons _ _).trans (List.suffix_append _ _))
  refine trim_eq_self (fun c hc => ?_) (isBlank_last_of_source hsource)
  rw [toList_componentOf] at hc
  obtain rfl : 's' = c := Option.some.inj hc
  decide

theorem componentOf_ne_empty : componentOf folder file ≠ "" := by
  intro hempty
  have hlist : (componentOf folder file).toList = _ := toList_componentOf file
  rw [hempty] at hlist
  exact nomatch hlist

end Cut

/-! ## Resolving a component -/

section Resolve

variable {fs : FileSystem} {folder : Path} {file : String}

/-- A relative name leads on from the folder along its parts, or along the last of them. -/
theorem steps_of_resolve {name text : String} {parts : List String}
    (hparts : ∀ part ∈ parts, IsPart part) (hname : Path.ofString name = ⟨.here, parts⟩)
    (h : resolve fs folder name = .ok text) :
    ∃ steps : List String, (steps = parts ∨ ∃ last ∈ parts.getLast?, steps = [last]) ∧
      text = (Path.absolute ⟨folder.root, folder.parts ++ steps⟩).render := by
  have hdirect : folder.child name = ⟨folder.root, folder.parts ++ parts⟩ := by
    rw [Path.child, hname]
    rfl
  rcases cases_of_resolve h with ⟨habsolute, -⟩ | ⟨-, htext | htext⟩
  · rw [hname] at habsolute
    exact absurd habsolute Bool.false_ne_true
  · exact ⟨parts, .inl rfl, by rw [htext, hdirect]⟩
  · rw [hname] at htext
    cases hlast : parts.getLast? with
    | none =>
      have hempty : folder.child (Path.name ⟨.here, parts⟩) =
          ⟨folder.root, folder.parts ++ []⟩ := by
        rw [Path.name, hlast]
        rfl
      exact ⟨[], .inl (List.getLast?_eq_none_iff.mp hlast).symm, by rw [htext, hempty]⟩
    | some last =>
      have hpart : IsPart last := hparts last (List.mem_of_getLast? hlast)
      have hstep : folder.child (Path.name ⟨.here, parts⟩) =
          ⟨folder.root, folder.parts ++ [last]⟩ := by
        have hread := Path.ofString_intercalate (List.forall_mem_singleton.mpr hpart)
        rw [String.intercalate_singleton] at hread
        rw [Path.name, hlast, Option.getD_some, Path.child, hread]
        rfl
      exact ⟨[last], .inr ⟨last, rfl, rfl⟩, by rw [htext, hstep]⟩

/-- A text before the first part of a name belongs to that part. -/
theorem append_intercalate (front part : String) (rest : List String) :
    front ++ "/".intercalate (part :: rest) = "/".intercalate ((front ++ part) :: rest) := by
  cases rest with
  | nil => rw [String.intercalate_singleton, String.intercalate_singleton]
  | cons next more =>
    rw [String.intercalate_cons_cons, String.intercalate_cons_cons, String.append_assoc,
      String.append_assoc, String.append_assoc]

/-- A name with a text in front of its first part leads elsewhere. -/
theorem resolve_append_ne {front part : String} {rest : List String} (hclean : folder.Clean)
    (hfront : '/' ∉ front.toList) (hlong : front ≠ "") (hdot : front ++ part ≠ ".")
    (hparts : ∀ step ∈ part :: rest, IsPart step) :
    resolve fs folder (front ++ "/".intercalate (part :: rest)) ≠
      .ok (Path.absolute ⟨folder.root, folder.parts ++ part :: rest⟩).render := by
  have hchanged : front ++ part ≠ part := fun heq => hlong (by simpa using heq)
  obtain ⟨hpart, hrest⟩ := List.forall_mem_cons.mp hparts
  have hjoined : IsPart (front ++ part) := by
    refine ⟨fun hempty => hlong (String.append_eq_empty_iff.mp hempty).1, hdot, fun hslash => ?_⟩
    rw [String.toList_append] at hslash
    exact (List.mem_append.mp hslash).elim hfront hpart.2.2
  have hnames : ∀ step ∈ (front ++ part) :: rest, IsPart step :=
    List.forall_mem_cons.mpr ⟨hjoined, hrest⟩
  rw [append_intercalate]
  intro hresolve
  obtain ⟨steps, hsteps, heq⟩ :=
    steps_of_resolve hnames (Path.ofString_intercalate hnames) hresolve
  have hsteps' : ∀ step ∈ steps, IsPart step := by
    rcases hsteps with rfl | ⟨last, hlast, rfl⟩
    · exact hnames
    · exact List.forall_mem_singleton.mpr (hnames last (List.mem_of_getLast? hlast))
  obtain rfl := hclean.eq_of_render_eq hsteps' hparts heq.symm
  rcases hsteps with heq | ⟨last, hlast, heq⟩
  · exact hchanged (List.cons.inj heq).1.symm
  · obtain ⟨rfl, rfl⟩ := List.cons.inj heq
    exact hchanged (Option.some.inj hlast)

/-- The path that is read from the component of a file in the folder's project. -/
def componentPath (fs : FileSystem) (folder : Path) (file : String) : Except Fault String :=
  resolve fs folder (afterColon (componentOf folder file))

/-- A file with a plain text from the folder is missed if there is a colon in the folder's name. -/
theorem componentPath_ne (hclean : folder.Clean) (hcolon : ':' ∈ folder.name.toList)
    (hrelative : (Path.ofString file).isAbsolute = false)
    (hplain : (Path.ofString file).render = file) (hdot : file ≠ ".") :
    componentPath fs folder file ≠ .ok (folder.child file).absolute.render := by
  obtain ⟨rest, hrest, hcut⟩ := afterColon_componentOf_of_mem file hcolon
  have hslash : '/' ∉ (rest ++ ":").toList := by
    rw [String.toList_append]
    exact fun hmem => (List.mem_append.mp hmem).elim
      (fun h => hclean.not_mem_name (hrest '/' h)) (by decide)
  have hparts := Path.clean_ofString file
  unfold componentPath Path.child
  rw [hcut]
  generalize Path.ofString file = path at hparts hrelative hplain
  obtain ⟨root, parts⟩ := path
  cases root with
  | slash | doubleSlash => exact nomatch hrelative
  | here =>
    cases parts with
    | nil => exact absurd hplain.symm hdot
    | cons part more =>
      have htext : file = "/".intercalate (part :: more) := by
        rw [← hplain]
        exact String.empty_append
      have hcolon' : ':' ∈ (rest ++ ":" ++ part).toList := by simp
      rw [htext]
      refine resolve_append_ne hclean hslash (fun h => ?_) (fun h => ?_) hparts
      · exact absurd (String.append_eq_empty_iff.mp h).2 (by decide)
      · rw [h] at hcolon'
        exact absurd hcolon' (by decide)

end Resolve

/-! ## Reports -/

/-- The findings of entries with one of them in their middle. -/
theorem ofEntries_append_cons {α : Type} (entry : α → Except Fault (List Violation))
    (before : List α) (x : α) (after : List α) :
    ofEntries entry (before ++ x :: after) = do
      let front ← ofEntries entry before
      let found ← entry x
      let back ← ofEntries entry after
      return front ++ found ++ back := by
  unfold ofEntries
  rw [List.mapM_append, List.mapM_cons]
  cases before.mapM entry with
  | error fault => rfl
  | ok front =>
    cases entry x with
    | error fault => rfl
    | ok found =>
      cases after.mapM entry with
      | error fault => rfl
      | ok back =>
        show Except.ok (front ++ found :: back).flatten =
          Except.ok (front.flatten ++ found ++ back.flatten)
        rw [List.flatten_append, List.flatten_cons, List.append_assoc]

section Issue

variable {fs : FileSystem} {folder : Path} {file : String}

/-- The finding of an issue in a file of the folder's project. -/
theorem sonarqubeEntry_component {issue : Value} (hsource : sourceSuffix.toList <:+ file.toList)
    (hissue : issue.getD "component" = .text (componentOf folder file)) :
    sonarqubeEntry fs folder issue = do
      return [← Violation.create (← componentPath fs folder file) (issue.getD "line")
        (issue.getD "rule") .sonarqube] := by
  have hmap : isMap issue = true := by
    cases issue with
    | map fields => rfl
    | _ => exact nomatch hissue
  have hnamed : named? (textUnder issue "component") = some (componentOf folder file) := by
    rw [textUnder_eq hissue componentOf_ne_empty]
    exact named?_eq_some (trim_componentOf hsource) componentOf_ne_empty
  have hcut : afterColon (componentOf folder file) ≠ "" := by
    refine afterColon_componentOf_ne_empty ?_
    rintro rfl
    exact absurd hsource (by decide)
  have hfile : fileOf? .sonarqube issue = some (afterColon (componentOf folder file)) := by
    rw [fileOf?_sonarqube, if_pos hmap, hnamed, Option.bind_some, namedIn?, if_neg hcut]
  have hother : Tool.sonarqube ≠ .codenavi := by decide
  have hgiven : givenOf .sonarqube issue = .ok (givenBy .sonarqube issue) := rfl
  rw [givenBy_sonarqube] at hgiven
  rw [sonarqubeEntry_eq, hfile]
  exact readIn_of_givenOf_singleton (placeOf_of_ne hother fs folder _) hgiven

/-- The issues of a server lead back to files of the scanned folder as long as its name holds no
colon. With a colon, no file that is named by a plain text from the folder is found again. -/
theorem component_resolved_iff (hclean : folder.Clean)
    (hrelative : (Path.ofString file).isAbsolute = false)
    (hsource : sourceSuffix.toList <:+ file.toList)
    (hpresent : fs.isPresent (folder.child file) = true) :
    ((Path.ofString file).render = file →
      (componentPath fs folder file = .ok (folder.child file).absolute.render ↔
        ':' ∉ folder.name.toList)) ∧
    (':' ∉ folder.name.toList →
      componentPath fs folder file = .ok (folder.child file).absolute.render) ∧
    ∀ report root before issue after, jsonValue fs report = .ok root →
      root.get? "issues" = some (.list (before ++ issue :: after)) →
      issue.getD "component" = .text (componentOf folder file) →
      parse fs .sonarqube folder report = do
        let front ← ofEntries (sonarqubeEntry fs folder) before
        let found ← Violation.create (← componentPath fs folder file) (issue.getD "line")
          (issue.getD "rule") .sonarqube
        let back ← ofEntries (sonarqubeEntry fs folder) after
        return some (front ++ found :: back) := by
  have hfound (h : ':' ∉ folder.name.toList) :
      componentPath fs folder file = .ok (folder.child file).absolute.render := by
    unfold componentPath
    rw [afterColon_componentOf file h, resolve_of_isPresent hrelative hpresent]
  have hdot : file ≠ "." := by
    rintro rfl
    exact absurd hsource (by decide)
  refine ⟨fun hplain => ⟨fun h hcolon => ?_, hfound⟩, hfound, ?_⟩
  · exact componentPath_ne hclean hcolon hrelative hplain hdot h
  · intro report root before issue after hroot hissues hissue
    have hentries : entries? .sonarqube root = some (before ++ issue :: after) := by
      rw [entries?_sonarqube, hissues]
      rfl
    have hparse : parse fs .sonarqube folder report = do
        return some (← ofEntries (sonarqubeEntry fs folder) (before ++ issue :: after)) :=
      @parse_of_entries fs folder report .sonarqube _ _ hroot hentries
    rw [hparse, ofEntries_append_cons, sonarqubeEntry_component hsource hissue]
    simp only [bind_assoc, pure_bind, List.append_assoc, List.singleton_append]

end Issue

/-- Two folders with one file each, one of them with a colon in its name, and a report on that one's
project. -/
def colonFiles : FileSystem :=
  let files := do
    let fs ← FileSystem.initial.ensureDirectories (Path.ofString "/tmp/w/seeds/a:b")
    let fs ← fs.ensureDirectories (Path.ofString "/tmp/w/seeds/ab")
    let fs ← fs.write (Path.ofString "/tmp/w/seeds/a:b/A.java") []
    let fs ← fs.write (Path.ofString "/tmp/w/seeds/ab/A.java") []
    let issue := "\x7b\"component\":\"statfier_a:b:A.java\",\"line\":1,\"rule\":\"R\"\x7d"
    fs.write (Path.ofString "/tmp/w/r.json")
      ("\x7b\"issues\":[" ++ issue ++ "]\x7d").toUTF8.data.toList
  files.toOption.getD .initial

/-- The file of the folder without a colon is found again. -/
theorem component_resolved_colonFiles :
    let folder := Path.ofString "/tmp/w/seeds/ab"
    folder.Clean ∧ (Path.ofString "A.java").isAbsolute = false ∧
      sourceSuffix.toList <:+ "A.java".toList ∧
      colonFiles.isPresent (folder.child "A.java") = true ∧
      componentPath colonFiles folder "A.java" = .ok (folder.child "A.java").absolute.render := by
  intro folder
  have hclean : folder.Clean := Path.clean_ofString _
  have hrelative : (Path.ofString "A.java").isAbsolute = false := by decide
  have hsource : sourceSuffix.toList <:+ "A.java".toList := by decide
  have hpresent : colonFiles.isPresent (folder.child "A.java") = true := by decide +kernel
  have hresolved := component_resolved_iff hclean hrelative hsource hpresent
  exact ⟨hclean, hrelative, hsource, hpresent, hresolved.2.1 (by decide)⟩

/-- The finding in the file of the folder with a colon is given to a file that does not exist. -/
theorem parse_colonFiles :
    let folder := Path.ofString "/tmp/w/seeds/a:b"
    let found := parse colonFiles .sonarqube folder (Path.ofString "/tmp/w/r.json")
    componentOf folder "A.java" = "statfier_a:b:A.java" ∧
      colonFiles.isFile (folder.child "A.java") = true ∧
      found.toOption.map (·.map (·.map Violation.path)) =
        some (some ["/tmp/w/seeds/a:b/b:A.java"]) ∧
      (folder.child "A.java").absolute.render = "/tmp/w/seeds/a:b/A.java" := by
  decide +kernel

end Crosscheck.Native
