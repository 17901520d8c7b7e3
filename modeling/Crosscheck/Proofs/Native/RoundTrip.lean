import Crosscheck.Proofs.Files.Rendering
import Crosscheck.Proofs.Listing
import Crosscheck.Proofs.Native.Mentions
import Mathlib.Algebra.Group.Int.Defs
/-!
# Native reports read back

Each analyzer writes a finding in a way of its own: the file by its path from the root or from the
folder, the line as a number or as text, the kind alone or behind the name of a package. A report
with one entry for each finding is read as these findings in their order (`parse_of_writes`).
-/

namespace Crosscheck.Native

open Crosscheck.Document Crosscheck.Files Crosscheck.Text

/-! ## Findings and how they are written -/

/-- A finding in a file, which is given by the parts that lead to it from the folder. -/
structure Finding where
  parts : List String
  line : Int
  kind : String

namespace Finding

/-- The path of the file. -/
def path (folder : Path) (x : Finding) : Path := ⟨folder.root, folder.parts ++ x.parts⟩

/-- The text that names the file from the folder. -/
def relative (x : Finding) : String := "/".intercalate x.parts

/-- What a reader makes of the finding. -/
def violation (tool : Tool) (folder : Path) (x : Finding) : Violation :=
  ⟨(x.path folder).render, x.line, .text x.kind, tool⟩

end Finding

/-- A map with texts for keys. -/
def object (fields : List (String × Value)) : Value :=
  .map (fields.map fun (key, value) => (.text key, value))

namespace Finding

/-- What PMD says of the finding besides the file. -/
def toPmdItem (x : Finding) : Value :=
  object [("beginline", .int x.line), ("rule", .text x.kind)]

/-- The entry of PMD for the finding. -/
def toPmd (folder : Path) (x : Finding) : Value :=
  object [("filename", .text (x.path folder).render), ("violations", .list [x.toPmdItem])]

/-- The entry of Infer for the finding. -/
def toInfer (x : Finding) : Value :=
  object [("file", .text x.relative), ("line", .int x.line), ("bug_type", .text x.kind)]

/-- Where SpotBugs says that the finding is. -/
def toSourceLine (x : Finding) : Xml.Element :=
  .mk "SourceLine" [("sourcepath", x.relative), ("start", toString x.line)] "" []

/-- The entry of SpotBugs for the finding. -/
def toSpotbugs (x : Finding) : Xml.Element :=
  .mk "BugInstance" [("type", x.kind)] "" [x.toSourceLine]

/-- What CheckStyle says of the finding besides the file. The kind stands behind the package of the
check, if one is given. -/
def toCheckstyleError (package : Option String) (x : Finding) : Xml.Element :=
  .mk "error" [("line", toString x.line), ("source", (package.map (· ++ ".")).getD "" ++ x.kind)]
    "" []

/-- The entry of CheckStyle for the finding. -/
def toCheckstyle (folder : Path) (package : Finding → Option String) (x : Finding) : Xml.Element :=
  .mk "file" [("name", (x.path folder).render)] "" [x.toCheckstyleError (package x)]

/-- What CodeNavi says of the finding, which is not its kind. -/
def toDefectInfo (folder : Path) (x : Finding) : Xml.Element :=
  .mk "defectInfo" [] ""
    [.mk "fileName" [] (x.path folder).render [], .mk "reportLine" [] (toString x.line) []]

/-- The entry of CodeNavi for the finding. -/
def toCodenavi (folder : Path) (x : Finding) : Xml.Element :=
  .mk "error" [] "" [x.toDefectInfo folder]

end Finding

/-- A report of an analyzer holds an entry for each of the findings, in their order, and nothing
else. The kinds are such as the analyzer can tell. -/
inductive Writes (fs : FileSystem) (folder report : Path) (found : List Finding) : Tool → Prop
  | pmd (h : jsonValue fs report = .ok (object [("files", .list (found.map (·.toPmd folder)))])) :
      Writes fs folder report found .pmd
  | infer (h : jsonValue fs report = .ok (.list (found.map Finding.toInfer))) :
      Writes fs folder report found .infer
  | spotbugs
      (h : xmlRoot fs report = .ok (.mk "BugCollection" [] "" (found.map Finding.toSpotbugs))) :
      Writes fs folder report found .spotbugs
  | checkstyle (package : Finding → Option String) (hkinds : ∀ x ∈ found, '.' ∉ x.kind.toList)
      (h : xmlRoot fs report =
        .ok (.mk "checkstyle" [] "" (found.map (·.toCheckstyle folder package)))) :
      Writes fs folder report found .checkstyle
  | codenavi (tag : String) (hkinds : ∀ x ∈ found, x.kind = codenaviBugType)
      (h : xmlRoot fs report =
        .ok (.mk tag [] "" [.mk "errors" [] "" (found.map (·.toCodenavi folder))])) :
      Writes fs folder report found .codenavi

theorem get?_object (fields : List (String × Value)) (key : String) :
    (object fields).get? key = fields.lookup key := by
  induction fields with
  | nil => rfl
  | cons field rest ih =>
    obtain ⟨name, value⟩ := field
    have hkey : (Value.text name == Value.text key) = (name == key) := by
      show Value.sameKey (.text name) (.text key) = (name == key)
      rw [Value.sameKey]
    have hrest : OrderedMap.lookup (Value.text key)
        (rest.map fun (key, value) => (Value.text key, value)) = rest.lookup key := ih
    calc (object ((name, value) :: rest)).get? key
        = if Value.text name == Value.text key then some value
          else OrderedMap.lookup (Value.text key)
            (rest.map fun (key, value) => (Value.text key, value)) := rfl
      _ = ((name, value) :: rest).lookup key := by
        rw [hkey, hrest, List.lookup_cons, BEq.comm (a := name)]
        cases key == name <;> rfl

theorem getD_object (fields : List (String × Value)) (key : String) :
    (object fields).getD key = (fields.lookup key).getD .null := by
  rw [Value.getD, get?_object]

/-- A finding of a readable file: the file is there below the folder, its text from the folder does
not begin with a blank, the line fits, and there is a kind. -/
structure Finding.Plain (fs : FileSystem) (folder : Path) (x : Finding) : Prop where
  below : Corpus.Below folder (x.path folder) x.parts
  source : Mutation.sourceSuffix.toList <:+ (x.path folder).name.toList
  present : fs.isPresent (x.path folder) = true
  unindented : ∀ c ∈ x.relative.toList.head?, isBlank c = false
  least : -2 ^ 31 ≤ x.line
  most : x.line ≤ 2 ^ 31 - 1
  named : x.kind ≠ ""

/-! ## Names of files -/

section Names

variable {fs : FileSystem} {folder : Path} {x : Finding}

/-- The text of a path from the root begins with a slash. -/
theorem head?_render {path : Path} (h : path.isAbsolute = true) :
    path.render.toList.head? = some '/' := by
  obtain ⟨root, parts⟩ := path
  cases root with
  | here => exact absurd h Bool.false_ne_true
  | slash | doubleSlash => simp [Path.render, Path.rootText]

/-- A text of parts ends like its last part. -/
theorem getLast?_intercalate (front : List String) {last : String} (h : last ≠ "") :
    ("/".intercalate (front ++ [last])).toList.getLast? = last.toList.getLast? := by
  have hlast : last.toList ≠ [] := mt String.toList_eq_nil_iff.mp h
  induction front with
  | nil => rw [List.nil_append, String.intercalate_singleton]
  | cons part rest ih =>
    obtain ⟨next, more, hnext⟩ := List.exists_cons_of_ne_nil (List.append_ne_nil_of_right_ne_nil rest
      (List.cons_ne_nil last []))
    have htext : ("/".intercalate (part :: rest ++ [last])).toList =
        (part ++ "/").toList ++ ("/".intercalate (rest ++ [last])).toList := by
      rw [List.cons_append, hnext, String.intercalate_cons_cons, String.toList_append]
    have hne : ("/".intercalate (rest ++ [last])).toList ≠ [] := by
      intro hnil
      rw [hnil] at ih
      exact hlast (List.getLast?_eq_none_iff.mp ih.symm)
    rw [htext, List.getLast?_append_of_ne_nil _ hne, ih]

theorem getLast?_render {path : Path} (h : path.isAbsolute = true) (hname : path.name ≠ "") :
    path.render.toList.getLast? = path.name.toList.getLast? := by
  have hlast := getLast?_intercalate path.parts.dropLast hname
  rw [Path.dropLast_concat_name hname] at hlast
  have hne : ("/".intercalate path.parts).toList ≠ [] := by
    intro hnil
    rw [hnil] at hlast
    exact hname (String.toList_eq_nil_iff.mp (List.getLast?_eq_none_iff.mp hlast.symm))
  have htext : path.render = Path.rootText path.root ++ "/".intercalate path.parts := by
    obtain ⟨root, parts⟩ := path
    cases root with
    | here => exact absurd h Bool.false_ne_true
    | slash | doubleSlash => rfl
  rw [htext, String.toList_append, List.getLast?_append_of_ne_nil _ hne, hlast]

/-- The name of a source does not end in a blank. -/
theorem isBlank_last_of_source {name : String} (h : Mutation.sourceSuffix.toList <:+ name.toList) :
    ∀ c ∈ name.toList.getLast?, isBlank c = false := by
  obtain ⟨front, hfront⟩ := h
  have hlast : name.toList.getLast? = some 'a' := by
    rw [← hfront, List.getLast?_append_of_ne_nil _ (by decide)]
    decide
  rw [hlast]
  rintro c ⟨⟩
  decide

namespace Finding.Plain

variable (h : x.Plain fs folder) (hfolder : folder.isAbsolute = true)

include h

theorem name_ne_empty : (x.path folder).name ≠ "" := (isName_iff.mp h.below.isName_name).1

theorem fits : fitsLine x.line = true := by
  have hleast := h.least
  have hmost := h.most
  unfold fitsLine
  rw [Bool.and_eq_true, decide_eq_true_iff, decide_eq_true_iff]
  omega

theorem trim_relative : trim x.relative = x.relative := by
  refine trim_eq_self h.unindented ?_
  obtain ⟨front, hparts, -, -⟩ := h.below.exists_concat
  have htext : x.relative.toList.getLast? = (x.path folder).name.toList.getLast? := by
    unfold Finding.relative
    rw [hparts, getLast?_intercalate front h.name_ne_empty]
  rw [htext]
  exact isBlank_last_of_source h.source

include hfolder in
theorem trim_render : trim (x.path folder).render = (x.path folder).render := by
  have habsolute := h.below.isAbsolute hfolder
  refine trim_eq_self (fun c hc => ?_) ?_
  · rw [head?_render habsolute] at hc
    obtain rfl := Option.some.inj hc
    decide
  · rw [getLast?_render habsolute h.name_ne_empty]
    exact isBlank_last_of_source h.source

/-- The parts make no text from the root, so they are read back from it. -/
theorem ofString_relative : Path.ofString x.relative = ⟨.here, x.parts⟩ :=
  Path.ofString_intercalate fun part hpart => isPart_of_isName (h.below.names part hpart)

theorem relative_ne_empty : x.relative ≠ "" := by
  intro hempty
  have hparts := h.ofString_relative
  rw [hempty] at hparts
  exact h.below.ne_nil (congrArg Path.parts hparts).symm

include hfolder in
theorem render_ne_empty : (x.path folder).render ≠ "" := by
  intro hempty
  have hfirst := head?_render (h.below.isAbsolute hfolder)
  rw [hempty] at hfirst
  exact nomatch hfirst

include hfolder in
/-- The path of the file stands for itself. -/
theorem resolve_render (hclean : folder.Clean) :
    resolve fs folder (x.path folder).render = .ok (x.path folder).render := by
  have habsolute := h.below.isAbsolute hfolder
  have hread := Path.ofString_render (h.below.clean hclean) habsolute
  rw [resolve_of_isAbsolute (by rwa [hread]), hread]

include hfolder in
/-- The text that names the file from the folder leads to it, since it is there. -/
theorem resolve_relative : resolve fs folder x.relative = .ok (x.path folder).render := by
  have hrelative : (Path.ofString x.relative).isAbsolute = false := by
    rw [h.ofString_relative]
    rfl
  have hpath : folder.child x.relative = x.path folder := by
    rw [Path.child, h.ofString_relative]
    rfl
  rw [resolve_of_isPresent hrelative (by rw [hpath, h.present]), hpath,
    Path.absolute_of_isAbsolute (h.below.isAbsolute hfolder)]

/-- The line and the kind of the finding are kept, with the line as a number or as text. -/
theorem create_eq (tool : Tool) {line : Value}
    (hline : line = .int x.line ∨ line = .text (toString x.line)) :
    Violation.create (x.path folder).render line (.text x.kind) tool =
      .ok (x.violation tool folder) := by
  have hread : lineOf line = .ok x.line := by
    rcases hline with rfl | rfl
    · rfl
    · show lineOfText (toString x.line) = .ok x.line
      exact lineOfText_toString h.fits
  have hkind : Violation.bugTypeOf (.text x.kind) = .text x.kind :=
    if_pos (bne_iff_ne.mpr h.named)
  unfold Violation.create
  rw [hread, hkind]
  rfl

end Finding.Plain

/-- What follows the last dot of the name of a check is the kind. -/
theorem afterLastDot_package (package : Option String) {kind : String} (h : '.' ∉ kind.toList) :
    afterLastDot (((package.map (· ++ ".")).getD "") ++ kind) = kind := by
  unfold afterLastDot
  cases package with
  | none =>
    have hall : kind.toList.reverse.takeWhile (· != '.') = kind.toList.reverse :=
      List.takeWhile_eq_self_iff.mpr fun c hc =>
        bne_iff_ne.mpr fun heq => h (List.mem_reverse.mp (heq ▸ hc))
    simp only [Option.map_none, Option.getD_none, String.empty_append]
    rw [hall, List.reverse_reverse, String.ofList_toList]
  | some text =>
    have htext : ((some text).map (· ++ ".")).getD "" ++ kind =
        String.ofList (text.toList ++ '.' :: kind.toList) := by
      simp [String.ofList_append, String.append_assoc]
    rw [htext, String.toList_ofList, Path.takeWhile_reverse_of_dot h, List.reverse_reverse,
      String.ofList_toList]

end Names

/-! ## Entries -/

section Entries

variable {fs : FileSystem} {folder : Path} {x : Finding}

theorem named?_eq_some {s : String} (htrim : trim s = s) (hne : s ≠ "") : named? s = some s := by
  rw [named?, htrim, if_neg hne]

theorem textUnder_eq {entry : Value} {key s : String} (h : entry.getD key = .text s) (hne : s ≠ "") :
    textUnder entry key = s := by
  have htruthy : (Value.text s).isTruthy = true := bne_iff_ne.mpr hne
  unfold textUnder
  rw [h, if_pos htruthy]
  rfl

theorem ofEntries_map {α : Type} {entry : α → Except Fault (List Violation)} {write : Finding → α}
    {read : Finding → Violation} {found : List Finding}
    (h : ∀ x ∈ found, entry (write x) = .ok [read x]) :
    ofEntries entry (found.map write) = .ok (found.map read) := by
  have hentries : (found.map write).mapM entry = .ok (found.map fun x => [read x]) := by
    induction found with
    | nil => rfl
    | cons x rest ih =>
      obtain ⟨hx, hrest⟩ := List.forall_mem_cons.mp h
      rw [List.map_cons, List.mapM_cons, hx, ih hrest]
      rfl
  unfold ofEntries
  rw [hentries]
  exact congrArg Except.ok List.map_eq_flatMap.symm

namespace Finding.Plain

variable (h : x.Plain fs folder) (hfolder : folder.isAbsolute = true)

include h

/-- An entry that names the file of the finding, by whatever text, and gives its line and its kind is
read as the finding. -/
theorem readEntry_eq {tool : Tool} {entry : Node tool} {file : String} {line : Value}
    (hfile : fileOf? tool entry = some file)
    (hgiven : givenBy tool entry = [(line, .text x.kind)])
    (hiterable : Iterable tool entry)
    (hplace : placeOf fs folder tool file = .ok (x.path folder).render)
    (hline : line = .int x.line ∨ line = .text (toString x.line)) :
    readEntry fs folder tool entry = .ok [x.violation tool folder] := by
  have hone := (givenOf_of_iterable hiterable).trans (congrArg Except.ok hgiven)
  rw [readEntry_of_named hfile, readIn_of_givenOf_singleton hplace hone]
  simp only [answered_bind, h.create_eq tool hline]
  rfl

include hfolder

theorem readEntry_toPmd (hclean : folder.Clean) :
    readEntry fs folder .pmd (x.toPmd folder) = .ok [x.violation .pmd folder] := by
  have htext : textUnder (x.toPmd folder) "filename" = (x.path folder).render :=
    textUnder_eq (getD_object _ _) (h.render_ne_empty hfolder)
  have hitems : (x.toPmd folder).getD "violations" = .list [x.toPmdItem] := getD_object _ _
  have hline : x.toPmdItem.getD "beginline" = .int x.line := getD_object _ _
  have hkind : x.toPmdItem.getD "rule" = .text x.kind := getD_object _ _
  have hmap : isMap (x.toPmd folder) = true := rfl
  have hlisted : ((members? (.list [x.toPmdItem])).getD []).filter isMap = [x.toPmdItem] := rfl
  refine h.readEntry_eq ?_ ?_ ⟨_, congrArg membersOf hitems⟩ (h.resolve_render hfolder hclean)
    (.inl rfl)
  · rw [fileOf?_pmd, if_pos hmap, htext]
    exact named?_eq_some (h.trim_render hfolder) (h.render_ne_empty hfolder)
  · rw [givenBy_pmd, hitems, hlisted, List.map_singleton, hline, hkind]

theorem readEntry_toInfer :
    readEntry fs folder .infer x.toInfer = .ok [x.violation .infer folder] := by
  have htext : textUnder x.toInfer "file" = x.relative :=
    textUnder_eq (getD_object _ _) h.relative_ne_empty
  have hline : x.toInfer.getD "line" = .int x.line := getD_object _ _
  have hkind : x.toInfer.getD "bug_type" = .text x.kind := getD_object _ _
  have hmap : isMap x.toInfer = true := rfl
  refine h.readEntry_eq ?_ ?_ trivial (h.resolve_relative hfolder) (.inl rfl)
  · rw [fileOf?_infer, if_pos hmap, htext]
    exact named?_eq_some h.trim_relative h.relative_ne_empty
  · rw [givenBy_infer, hline, hkind]

theorem readEntry_toSpotbugs :
    readEntry fs folder .spotbugs x.toSpotbugs = .ok [x.violation .spotbugs folder] := by
  have hgiven : (some x.relative).filter (fun text => decide (text ≠ "")) = some x.relative :=
    Option.filter_some_pos (decide_eq_true h.relative_ne_empty)
  refine h.readEntry_eq ?_ rfl trivial (h.resolve_relative hfolder) (.inr rfl)
  have hchild : x.toSpotbugs.child? "SourceLine" = some x.toSourceLine := rfl
  have hpath : x.toSourceLine.attribute? "sourcepath" = some x.relative := rfl
  rw [fileOf?_spotbugs, hchild, Option.bind_some, hpath, hgiven, Option.some_or, Option.bind_some]
  exact named?_eq_some h.trim_relative h.relative_ne_empty

theorem readEntry_toCheckstyle (hclean : folder.Clean) (package : Finding → Option String)
    (hplain : '.' ∉ x.kind.toList) :
    readEntry fs folder .checkstyle (x.toCheckstyle folder package) =
      .ok [x.violation .checkstyle folder] := by
  have hsource : ((package x).map (· ++ ".")).getD "" ++ x.kind ≠ "" := fun hempty =>
    h.named (String.append_eq_empty_iff.mp hempty).2
  have hname : (x.toCheckstyle folder package).attribute? "name" = some (x.path folder).render := rfl
  have herrors : (x.toCheckstyle folder package).childrenNamed "error" =
      [x.toCheckstyleError (package x)] := rfl
  have hline : attributeValue (x.toCheckstyleError (package x)) "line" =
      .text (toString x.line) := rfl
  have hkind : checkKind (x.toCheckstyleError (package x)) = .text x.kind := by
    have hstated : (x.toCheckstyleError (package x)).attribute? "source" =
        some (((package x).map (· ++ ".")).getD "" ++ x.kind) := rfl
    rw [checkKind_eq, hstated, Option.getD_some, if_neg hsource, afterLastDot_package _ hplain]
  refine h.readEntry_eq ?_ ?_ trivial (h.resolve_render hfolder hclean) (.inr rfl)
  · rw [fileOf?_checkstyle, hname, Option.bind_some]
    exact named?_eq_some (h.trim_render hfolder) (h.render_ne_empty hfolder)
  · rw [givenBy_checkstyle, herrors, List.map_singleton, hline, hkind]

theorem readEntry_toCodenavi (hkind : x.kind = codenaviBugType) :
    readEntry fs folder .codenavi (x.toCodenavi folder) = .ok [x.violation .codenavi folder] := by
  have hname : trimmedText ((x.toDefectInfo folder).child? "fileName") = (x.path folder).render :=
    h.trim_render hfolder
  have hinfo : (x.toCodenavi folder).child? "defectInfo" = some (x.toDefectInfo folder) := rfl
  have hnonempty : ((x.path folder).render == "") = false :=
    beq_eq_false_iff_ne.mpr (h.render_ne_empty hfolder)
  refine h.readEntry_eq ?_ ?_ trivial (placeOf_codenavi fs folder _) (.inr rfl)
  · rw [fileOf?_codenavi, codenaviName?, hinfo, Option.bind_some]
    dsimp only
    rw [hname, hnonempty, if_neg Bool.false_ne_true]
  · rw [hkind]
    rfl

end Finding.Plain

end Entries

/-! ## Reports -/

/-- All entries below an element go by the name that they are written with. -/
theorem childrenNamed_entries (tag : String) (found : List Finding) (write : Finding → Xml.Element)
    {name : String} (h : ∀ x, (write x).tag = name) :
    (Xml.Element.mk tag [] "" (found.map write)).childrenNamed name = found.map write := by
  refine List.filter_eq_self.mpr fun e he => ?_
  obtain ⟨x, -, rfl⟩ := List.mem_map.mp he
  exact beq_iff_eq.mpr (h x)

/-- A report holds an entry for each finding, which is read as the finding. -/
theorem Writes.exists_entries {fs : FileSystem} {tool : Tool} {folder report : Path}
    {found : List Finding} (hfolder : folder.isAbsolute = true) (hclean : folder.Clean)
    (hfound : ∀ x ∈ found, x.Plain fs folder) (h : Writes fs folder report found tool) :
    ∃ root write, treeOf fs report tool = .ok root ∧
      entries? tool root = some (found.map write) ∧
      ∀ x ∈ found, readEntry fs folder tool (write x) = .ok [x.violation tool folder] := by
  cases h with
  | pmd h =>
    refine ⟨_, (·.toPmd folder), h, ?_, fun x hx => (hfound x hx).readEntry_toPmd hfolder hclean⟩
    rw [entries?_pmd, get?_object]
    rfl
  | infer h =>
    exact ⟨_, Finding.toInfer, h, rfl, fun x hx => (hfound x hx).readEntry_toInfer hfolder⟩
  | spotbugs h =>
    refine ⟨_, Finding.toSpotbugs, h, ?_, fun x hx => (hfound x hx).readEntry_toSpotbugs hfolder⟩
    have htag : (Xml.Element.mk "BugCollection" [] "" (found.map Finding.toSpotbugs)).tag =
        "BugCollection" := rfl
    rw [entries?_spotbugs, if_pos htag]
    exact congrArg some (childrenNamed_entries _ found Finding.toSpotbugs fun _ => rfl)
  | checkstyle package hkinds h =>
    refine ⟨_, (·.toCheckstyle folder package), h, ?_, fun x hx =>
      (hfound x hx).readEntry_toCheckstyle hfolder hclean package (hkinds x hx)⟩
    have htag : (Xml.Element.mk "checkstyle" [] ""
        (found.map (·.toCheckstyle folder package))).tag = "checkstyle" := rfl
    rw [entries?_checkstyle, if_pos htag]
    exact congrArg some
      (childrenNamed_entries _ found (·.toCheckstyle folder package) fun _ => rfl)
  | codenavi tag hkinds h =>
    refine ⟨_, (·.toCodenavi folder), h, ?_, fun x hx =>
      (hfound x hx).readEntry_toCodenavi hfolder (hkinds x hx)⟩
    exact congrArg some
      (childrenNamed_entries "errors" found (·.toCodenavi folder) fun _ => rfl)

/-- A report with an entry for each finding is read as these findings, in their order and with the
paths of their files from the root. -/
theorem parse_of_writes {fs : FileSystem} {tool : Tool} {folder : String} {report : Path}
    {found : List Finding} (hfolder : (Path.ofString folder).isAbsolute = true)
    (hfound : ∀ x ∈ found, x.Plain fs (Path.ofString folder))
    (h : Writes fs (Path.ofString folder) report found tool) :
    parse fs tool (Path.ofString folder) report =
      .ok (some (found.map (Finding.violation tool (Path.ofString folder)))) := by
  obtain ⟨root, write, hroot, hentries, hread⟩ :=
    h.exists_entries hfolder (Path.clean_ofString folder) hfound
  rw [parse_of_entries hroot hentries, ofEntries_map hread]
  rfl

mutual

/-- Elements are the same if they are so part by part. -/
def decideSame : (e other : Xml.Element) → Decidable (e = other)
  | .mk tag attributes text children, .mk tag' attributes' text' children' =>
    have := decideAllSame children children'
    decidable_of_iff
      (tag = tag' ∧ attributes = attributes' ∧ text = text' ∧ children = children') (by simp)

/-- Lists of elements are the same if they are so element by element. -/
def decideAllSame : (es others : List Xml.Element) → Decidable (es = others)
  | [], [] => isTrue rfl
  | [], _ :: _ | _ :: _, [] => isFalse nofun
  | e :: es, other :: others =>
    have := decideSame e other
    have := decideAllSame es others
    decidable_of_iff (e = other ∧ es = others) (by simp)

end

instance : DecidableEq Xml.Element := decideSame

/-- A folder and a file with blanks in their names, and a report with two findings in the file. -/
def blankWorld : FileSystem :=
  let files := do
    let fs ← FileSystem.initial.ensureDirectories (Path.ofString "/tmp/w/a b")
    let fs ← fs.write (Path.ofString "/tmp/w/a b/C .java") []
    let lines := ["<BugCollection>",
      "<BugInstance type='NP'><SourceLine sourcepath='C .java' start='-2147483648'/></BugInstance>",
      "<BugInstance type='.X'><SourceLine sourcepath='C .java' start='7'/></BugInstance>",
      "</BugCollection>"]
    fs.write (Path.ofString "/tmp/w/r.xml") ("".intercalate lines).toUTF8.data.toList
  files.toOption.getD .initial

/-- Both findings are read from the report, with the blank in the name of their file. -/
theorem parse_blankWorld :
    let found : List Finding := [⟨["C .java"], -2147483648, "NP"⟩, ⟨["C .java"], 7, ".X"⟩]
    let folder := Path.ofString "/tmp/w/a b"
    let report := Path.ofString "/tmp/w/r.xml"
    folder.isAbsolute = true ∧ (∀ x ∈ found, x.Plain blankWorld folder) ∧
      Writes blankWorld folder report found .spotbugs ∧
      parse blankWorld .spotbugs folder report =
        .ok (some (found.map (Finding.violation .spotbugs folder))) := by
  intro found folder report
  have hunindented : ∀ c ∈ "C .java".toList.head?, isBlank c = false := by
    intro c hc
    obtain rfl : 'C' = c := Option.some.inj hc
    decide
  have hfirst : Finding.Plain blankWorld folder ⟨["C .java"], -2147483648, "NP"⟩ :=
    ⟨⟨by decide, by decide, rfl⟩, by decide +kernel, by decide +kernel, hunindented,
      by decide, by decide, by decide⟩
  have hsecond : Finding.Plain blankWorld folder ⟨["C .java"], 7, ".X"⟩ :=
    ⟨⟨by decide, by decide, rfl⟩, by decide +kernel, by decide +kernel, hunindented,
      by decide, by decide, by decide⟩
  have hfound : ∀ x ∈ found, x.Plain blankWorld folder :=
    List.forall_mem_cons.mpr ⟨hfirst, List.forall_mem_singleton.mpr hsecond⟩
  have habsolute : folder.isAbsolute = true := by decide
  have hroot : (xmlRoot blankWorld report).toOption =
      some (.mk "BugCollection" [] "" (found.map Finding.toSpotbugs)) := by decide +kernel
  have hwrites : Writes blankWorld folder report found .spotbugs := by
    refine .spotbugs ?_
    cases hread : xmlRoot blankWorld report with
    | error fault =>
      rw [hread] at hroot
      exact nomatch hroot
    | ok root =>
      rw [hread] at hroot
      exact congrArg Except.ok (Option.some.inj hroot)
  exact ⟨habsolute, hfound, hwrites, parse_of_writes habsolute hfound hwrites⟩

end Crosscheck.Native
