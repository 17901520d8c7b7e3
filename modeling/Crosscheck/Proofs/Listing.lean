import Crosscheck.Comparison
import Crosscheck.Proofs.Corpus
import Crosscheck.Proofs.Files.Rendering
import Crosscheck.Proofs.Mutation.Naming
/-!
# Folders do not share sources

The folders of a corpus stand side by side, so what lies in one of them lies in no other
(`eq_of_encloses`), and each is listed once. Sources are listed by clean paths that lead down from
their folder, and the seed of a mutant lies in the folder of the mutant.
-/

namespace Crosscheck.Corpus

open Crosscheck.Files Crosscheck.Mutation

/-! ## What lies below a folder -/

/-- A path that leads down from a folder along names. -/
structure Below (folder path : Path) (rel : List String) : Prop where
  ne_nil : rel ≠ []
  names : ∀ name ∈ rel, isName name = true
  path_eq : path = ⟨folder.root, folder.parts ++ rel⟩

/-- Whether a text names something in a folder, or the folder. -/
def Encloses (folder : Path) (text : String) : Prop :=
  folder.location <+: (Path.ofString text).location

namespace Below

variable {folder path : Path} {rel : List String}

theorem isAbsolute (h : Below folder path rel) (hfolder : folder.isAbsolute = true) :
    path.isAbsolute = true := by
  rw [h.path_eq]
  exact hfolder

theorem clean (h : Below folder path rel) (hfolder : folder.Clean) : path.Clean := by
  rw [h.path_eq]
  exact hfolder.append h.names

theorem location_eq (h : Below folder path rel) (hfolder : folder.isAbsolute = true) :
    path.location = folder.location ++ rel := by
  rw [h.path_eq]
  exact Path.location_append hfolder h.names

/-- What lies below a folder lies in it by its text, too. -/
theorem encloses (h : Below folder path rel) (hfolder : folder.isAbsolute = true)
    (hclean : folder.Clean) : Encloses folder path.render := by
  unfold Encloses
  rw [Path.ofString_render (h.clean hclean) (h.isAbsolute hfolder), h.location_eq hfolder]
  exact List.prefix_append _ _

/-- The last name on the way down is that of the path. -/
theorem exists_concat (h : Below folder path rel) :
    ∃ front, rel = front ++ [path.name] ∧ isName path.name = true ∧
      path = ⟨folder.root, folder.parts ++ front ++ [path.name]⟩ := by
  obtain ⟨front, last, rfl⟩ := (List.eq_nil_or_concat' rel).resolve_left h.ne_nil
  have hname : path.name = last := by
    rw [h.path_eq]
    simp [Path.name]
  rw [hname]
  refine ⟨front, rfl, h.names last (List.mem_append_right _ List.mem_cons_self), ?_⟩
  rw [h.path_eq, List.append_assoc]

theorem isName_name (h : Below folder path rel) : isName path.name = true := by
  obtain ⟨front, -, hname, -⟩ := h.exists_concat
  exact hname

end Below

/-- Sources are listed below their folder. -/
theorem exists_below_of_mem_sources {fs : FileSystem} {folder path : Path}
    (h : path ∈ sources fs folder) :
    ∃ rel, Below folder path rel ∧ sourceSuffix.toList <:+ path.name.toList := by
  obtain ⟨loc, rel, entry, -, hne, hpath, hfound, hsuffix⟩ := exists_of_mem_sources h
  exact ⟨rel, ⟨hne, fun name hname =>
    FileSystem.isName_of_find? hfound (List.mem_append_right _ hname), hpath⟩, hsuffix⟩

/-- What is found on the way down from a folder by the name of a source is one. -/
theorem mem_sources_of_find? {fs : FileSystem} {folder path : Path} {rel : List String}
    {loc : Location} {entry : Entry} (hloc : fs.locate folder = .ok loc)
    (h : Below folder path rel) (hsuffix : sourceSuffix.toList <:+ path.name.toList)
    (hfound : fs.find? (loc ++ rel) = some entry) : path ∈ sources fs folder := by
  have hlisted : (path, entry) ∈ fs.descendants folder :=
    FileSystem.mem_descendants_iff.mpr ⟨loc, rel, hloc, h.ne_nil, h.path_eq, hfound⟩
  exact List.mem_filter.mpr ⟨List.mem_map_of_mem hlisted, List.isSuffixOf_iff_suffix.mpr hsuffix⟩

/-- What is present below a folder by the name of a source is one. -/
theorem mem_sources_of_below {fs : FileSystem} {folder path : Path} {rel : List String}
    (hfolder : folder.isAbsolute = true) (hreach : ∃ loc, fs.locate folder = .ok loc)
    (h : Below folder path rel) (hsuffix : sourceSuffix.toList <:+ path.name.toList)
    (hpresent : fs.isPresent path = true) : path ∈ sources fs folder := by
  obtain ⟨loc, hloc⟩ := hreach
  obtain ⟨l, entry, hl, hfound⟩ := FileSystem.isPresent_iff.mp hpresent
  have hwhere : l = loc ++ rel := by
    rw [FileSystem.locate_eq_location hl, FileSystem.locate_eq_location hloc,
      h.location_eq hfolder]
  exact mem_sources_of_find? hloc h hsuffix (hwhere ▸ hfound)

/-! ## The seed of a source -/

/-- The name of a source that is read as that of a mutant: its seed has the name of a source. -/
theorem exists_of_seedParts? {name : String} {more : List String} (hname : isName name = true)
    (hsuffix : sourceSuffix.toList <:+ name.toList) (h : seedParts? name = some more) :
    ∃ front base : List Char, seedStem? front = some base ∧
      name = String.ofList (front ++ sourceSuffix.toList) ∧
      more = [String.ofList (base ++ sourceSuffix.toList)] ∧
      isName (String.ofList (base ++ sourceSuffix.toList)) = true := by
  obtain ⟨front, hfront⟩ := hsuffix
  obtain rfl : name = String.ofList (front ++ sourceSuffix.toList) := by
    rw [hfront, String.ofList_toList]
  have hdotted : sourceSuffix.toList = '.' :: ['j', 'a', 'v', 'a'] := by decide
  have hbare : seedStem? ('.' :: ['j', 'a', 'v', 'a']) = none := by decide +kernel
  rw [hdotted] at hname h ⊢
  obtain ⟨base, hbase, rfl, hseed⟩ :=
    exists_of_seedParts?_of_dot hname (by decide) (by decide) (fun _ => hbare) h
  exact ⟨front, base, hbase, rfl, rfl, hseed⟩

/-- The seed of a source below a folder stands beside it, by the name of a source. -/
theorem exists_below_of_seedOf {folder mutant seed : Path} {rel : List String}
    (h : Below folder mutant rel) (hsuffix : sourceSuffix.toList <:+ mutant.name.toList)
    (hseed : seedOf mutant = some seed) :
    ∃ front, rel = front ++ [mutant.name] ∧ Below folder seed (front ++ [seed.name]) ∧
      sourceSuffix.toList <:+ seed.name.toList := by
  obtain ⟨front, hrel, hname, hpath⟩ := h.exists_concat
  rw [hpath, seedOf_concat _ _ hname] at hseed
  obtain ⟨more, hmore, rfl⟩ := Option.map_eq_some_iff.mp hseed
  obtain ⟨-, base, -, -, rfl, hvalid⟩ := exists_of_seedParts? hname hsuffix hmore
  have hlast : (⟨folder.root, folder.parts ++ front ++
      [String.ofList (base ++ sourceSuffix.toList)]⟩ : Path).name =
        String.ofList (base ++ sourceSuffix.toList) := by
    simp [Path.name]
  refine ⟨front, hrel, ⟨by simp, ?_, by rw [hlast, List.append_assoc]⟩, ?_⟩
  · rw [hlast]
    refine List.forall_mem_append.mpr ⟨fun other hother => ?_, List.forall_mem_singleton.mpr hvalid⟩
    exact h.names other (hrel ▸ List.mem_append_left _ hother)
  · rw [hlast, String.toList_ofList]
    exact List.suffix_append _ _

/-- A source below a folder that is read back as a mutant of a seed stands beside that seed. -/
theorem sibling_of_seedOf {folder mutant seed : Path} {rel : List String}
    (h : Below folder mutant rel) (hsuffix : sourceSuffix.toList <:+ mutant.name.toList)
    (hseed : seedOf mutant = some seed) : mutant = seed.sibling mutant.name := by
  obtain ⟨front, hrel, hbelow, -⟩ := exists_below_of_seedOf h hsuffix hseed
  have hparts : seed.parts = folder.parts ++ (front ++ [seed.name]) :=
    congrArg Path.parts hbelow.path_eq
  have hroot : seed.root = folder.root := by rw [hbelow.path_eq]
  rw [Path.sibling, hroot, hparts, ← List.append_assoc, List.dropLast_concat]
  conv_lhs => rw [h.path_eq, hrel, ← List.append_assoc]

/-- The mutants of a source with a stem go by the names of sources. -/
theorem suffix_mutantName_of_source {seed : Path}
    (hsuffix : sourceSuffix.toList <:+ seed.name.toList) (hne : seed.name ≠ sourceSuffix)
    (number : Nat) : sourceSuffix.toList <:+ (mutantName seed number).toList := by
  obtain ⟨front, hfront⟩ := hsuffix
  have hdotted : sourceSuffix.toList = '.' :: ['j', 'a', 'v', 'a'] := by decide
  have hempty : front ≠ [] := by
    rintro rfl
    exact hne (String.toList_injective hfront.symm)
  rw [hdotted] at hfront ⊢
  exact suffix_mutantName hempty (by decide) (by decide) hfront.symm number

/-- What stands beside a path below a folder is below it, too. -/
theorem Below.sibling {folder path : Path} {rel : List String} (h : Below folder path rel)
    {name : String} (hname : isName name = true) :
    Below folder (path.sibling name) (rel.dropLast ++ [name]) := by
  obtain ⟨front, rfl, -, hpath⟩ := h.exists_concat
  rw [List.dropLast_concat]
  refine ⟨by simp, List.forall_mem_append.mpr ⟨fun other hother => ?_,
    List.forall_mem_singleton.mpr hname⟩, ?_⟩
  · exact h.names other (List.mem_append_left _ hother)
  · have hparts : path.parts = folder.parts ++ front ++ [path.name] := congrArg Path.parts hpath
    have hroot : path.root = folder.root := by rw [h.path_eq]
    rw [Path.sibling, hroot, hparts, List.dropLast_concat, List.append_assoc]

/-- The mutants of a seed below a folder stand beside it. -/
theorem Below.mutantPath {folder seed : Path} {rel : List String} (h : Below folder seed rel)
    (hfolder : folder.isAbsolute = true) (number : Nat) :
    Below folder (mutantPath seed number) (rel.dropLast ++ [mutantName seed number]) := by
  rw [mutantPath_eq (h.isAbsolute hfolder) h.isName_name]
  exact h.sibling (isName_mutantName h.isName_name number)

/-- Mutants below clean folders are compared by the texts of their paths with the seeds that their
paths are read as. -/
theorem pairs_render {paths : List Path} (h : ∀ path ∈ paths, path.Clean ∧ path.isAbsolute = true) :
    pairs (paths.map Path.render) = paths.filterMap fun mutant =>
      (seedOf mutant).map fun seed => (seed.render, mutant.render) := by
  unfold pairs
  rw [List.filterMap_map]
  refine List.filterMap_congr fun path hpath => ?_
  simp only [Function.comp_apply, Path.ofString_render (h path hpath).1 (h path hpath).2]

/-- A mutant that is listed once is compared once, with the seed that its path is read as. -/
theorem filter_pairs_render {paths : List Path}
    (h : ∀ path ∈ paths, path.Clean ∧ path.isAbsolute = true) (hnodup : paths.Nodup)
    {seed mutant : Path} (hmem : mutant ∈ paths) (hof : seedOf mutant = some seed) :
    ((pairs (paths.map Path.render)).filter fun pair => pair.2 == mutant.render) =
      [(seed.render, mutant.render)] := by
  obtain ⟨hclean, habsolute⟩ := h mutant hmem
  have hother {path : Path} (hpath : path ∈ paths) (hne : path ≠ mutant) :
      ((seedOf path).map fun seed => (seed.render, path.render)).filter
        (fun pair => pair.2 == mutant.render) = none := by
    have htext : path.render ≠ mutant.render := fun heq =>
      hne (Path.render_injective (h path hpath).1 (h path hpath).2 hclean habsolute heq)
    cases seedOf path with
    | none => rfl
    | some origin => simp [Option.filter, htext]
  rw [pairs_render h, List.filter_filterMap]
  obtain ⟨front, back, rfl⟩ := List.append_of_mem hmem
  obtain ⟨-, hfront, hback⟩ : (front ++ back).Nodup ∧ mutant ∉ front ∧ mutant ∉ back := by
    rwa [List.nodup_middle, List.nodup_cons, List.mem_append, not_or, and_comm] at hnodup
  have hnone {part : List Path} (hpart : ∀ path ∈ part, path ∈ front ++ mutant :: back)
      (hout : mutant ∉ part) :
      part.filterMap (fun path => ((seedOf path).map fun seed =>
        (seed.render, path.render)).filter fun pair => pair.2 == mutant.render) = [] := by
    rw [List.filterMap_eq_nil_iff]
    exact fun path hpath => hother (hpart path hpath) fun heq => hout (heq ▸ hpath)
  rw [List.filterMap_append, List.filterMap_cons,
    hnone (fun path hpath => List.mem_append_left _ hpath) hfront,
    hnone (fun path hpath => List.mem_append_right _ (List.mem_cons_of_mem _ hpath)) hback]
  simp [hof, Option.filter]

/-! ## Folders side by side -/

section Folders

variable {fs : FileSystem} {corpus : String} {folder other : Path}

/-- The folders of a corpus are clean paths. -/
theorem clean_of_mem_folders (h : folder ∈ folders fs (Path.ofString corpus)) : folder.Clean := by
  have hcorpus : (Path.ofString corpus).absolute.Clean := (Path.clean_ofString corpus).absolute
  obtain ⟨home, -, -, honly | ⟨name, rfl, hfound⟩⟩ := mem_folders h
  · rw [honly] at h
    rwa [List.mem_singleton.mp h]
  · refine hcorpus.append fun part hpart => ?_
    rw [List.mem_singleton.mp hpart]
    exact FileSystem.isName_of_find? hfound (List.mem_append_right _ List.mem_cons_self)

/-- What lies in two folders of a corpus lies in one. -/
theorem eq_of_prefixes {corpus : Path} {l : Location} (h : folder ∈ folders fs corpus)
    (hother : other ∈ folders fs corpus) (hl : folder.location <+: l)
    (hl' : other.location <+: l) : folder = other := by
  by_cases honly : folders fs corpus = [corpus.absolute]
  · rw [honly] at h hother
    rw [List.mem_singleton.mp h, List.mem_singleton.mp hother]
  · obtain ⟨home, -, -, hsame | ⟨name, rfl, hfound⟩⟩ := mem_folders h
    · exact absurd hsame honly
    obtain ⟨home', -, -, hsame | ⟨name', rfl, hfound'⟩⟩ := mem_folders hother
    · exact absurd hsame honly
    have hname (home : Location) (name : String)
        (hfound : fs.find? (home ++ [name]) = some .directory) :
        Path.location ⟨corpus.absolute.root, corpus.absolute.parts ++ [name]⟩ =
          corpus.absolute.location ++ [name] := by
      refine Path.location_append corpus.isAbsolute_absolute fun part hpart => ?_
      rw [List.mem_singleton.mp hpart]
      exact FileSystem.isName_of_find? hfound (List.mem_append_right _ List.mem_cons_self)
    rw [hname home name hfound] at hl
    rw [hname home' name' hfound'] at hl'
    have hlocations : corpus.absolute.location ++ [name] = corpus.absolute.location ++ [name'] := by
      refine (List.prefix_of_prefix_length_le hl hl' ?_).eq_of_length ?_ <;> simp
    obtain rfl : name = name' := by simpa using hlocations
    rfl

/-- Paths below folders of a corpus that lead to one place are one path. -/
theorem eq_of_location {corpus path path' : Path} {rel rel' : List String}
    (h : folder ∈ folders fs corpus) (hother : other ∈ folders fs corpus)
    (hpath : Below folder path rel) (hpath' : Below other path' rel')
    (hsame : path.location = path'.location) : path = path' := by
  have hfirst := hpath.location_eq (isAbsolute_of_mem_folders h)
  have hsecond := hpath'.location_eq (isAbsolute_of_mem_folders hother)
  obtain rfl := eq_of_prefixes h hother (hfirst ▸ List.prefix_append _ _)
    (hsame ▸ hsecond ▸ List.prefix_append _ _)
  have hrel : rel = rel' := by
    rw [hfirst, hsecond] at hsame
    exact List.append_cancel_left hsame
  rw [hpath.path_eq, hpath'.path_eq, hrel]

theorem eq_of_encloses {corpus : Path} {text : String} (h : folder ∈ folders fs corpus)
    (hother : other ∈ folders fs corpus) (htext : Encloses folder text)
    (htext' : Encloses other text) : folder = other := eq_of_prefixes h hother htext htext'

/-- The sources in the folders of a corpus have clean paths from the root. -/
theorem clean_of_mem_sources {after : FileSystem} {path : Path}
    (h : folder ∈ folders fs (Path.ofString corpus)) (hpath : path ∈ sources after folder) :
    path.Clean ∧ path.isAbsolute = true := by
  obtain ⟨rel, hbelow, -⟩ := exists_below_of_mem_sources hpath
  exact ⟨hbelow.clean (clean_of_mem_folders h), hbelow.isAbsolute (isAbsolute_of_mem_folders h)⟩

theorem clean_of_mem_flatMap {after : FileSystem} {p : Path → Bool} {path : Path}
    (h : path ∈ (folders fs (Path.ofString corpus)).flatMap fun folder =>
      (sources after folder).filter p) : path.Clean ∧ path.isAbsolute = true := by
  obtain ⟨folder, hfolder, hsource⟩ := List.mem_flatMap.mp h
  exact clean_of_mem_sources hfolder (List.mem_of_mem_filter hsource)

/-- The seed of a mutant in a folder is a seed of that folder if it is there and no mutant. -/
theorem mem_seeds_of_seedOf {after : FileSystem} {corpus mutant seed : Path}
    (h : folder ∈ folders fs corpus) (hmutant : mutant ∈ mutants after folder)
    (hof : seedOf mutant = some seed) (hpresent : fs.isPresent seed = true)
    (hseed : isMutant seed = false) : seed ∈ seeds fs folder := by
  obtain ⟨rel, hbelow, hsuffix⟩ := exists_below_of_mem_sources (List.mem_of_mem_filter hmutant)
  obtain ⟨front, -, hbelow', hsuffix'⟩ := exists_below_of_seedOf hbelow hsuffix hof
  have hsource := mem_sources_of_below (isAbsolute_of_mem_folders h)
    (exists_locate_of_mem_folders h) hbelow' hsuffix' hpresent
  exact List.mem_filter.mpr ⟨hsource, by simp [hseed]⟩

/-- A mutant in a folder of a corpus and its seed lie in that folder. -/
theorem encloses_of_mem_mutants {after : FileSystem} {mutant seed : Path}
    (h : folder ∈ folders fs (Path.ofString corpus)) (hmutant : mutant ∈ mutants after folder)
    (hseed : seedOf mutant = some seed) :
    Encloses folder seed.render ∧ Encloses folder mutant.render := by
  obtain ⟨rel, hbelow, hsuffix⟩ := exists_below_of_mem_sources (List.mem_of_mem_filter hmutant)
  obtain ⟨front, -, hbelow', -⟩ := exists_below_of_seedOf hbelow hsuffix hseed
  have habsolute := isAbsolute_of_mem_folders h
  have hclean := clean_of_mem_folders h
  exact ⟨hbelow'.encloses habsolute hclean, hbelow.encloses habsolute hclean⟩

theorem nodup_folders (fs : FileSystem) (corpus : Path) : (folders fs corpus).Nodup := by
  unfold folders
  dsimp only
  split
  · split
    · exact List.nodup_singleton _
    · have hchildren := fs.nodup_children corpus.absolute
      refine List.Pairwise.filterMap _ ?_ (List.pairwise_map.mp hchildren)
      intro x y hne a ha b hb
      have hkept : ∀ {x : Path × Entry} {a : Path}, (if x.2.isDirectory &&
          x.1.name.toList.head? != some '.' then some x.1 else none) = some a → x.1 = a := by
        intro x a h
        split at h
        · exact Option.some.inj h
        · exact nomatch h
      rw [← hkept ha, ← hkept hb]
      exact hne
  · exact List.nodup_nil

theorem nodup_sources (fs : FileSystem) (folder : Path) : (sources fs folder).Nodup :=
  (fs.nodup_descendants folder).filter _

/-- No source is listed twice, nor in two folders. -/
theorem nodup_flatMap_sources (fs after : FileSystem) (corpus : String) :
    ((folders fs (Path.ofString corpus)).flatMap (sources after)).Nodup := by
  refine List.nodup_flatMap.mpr ⟨fun folder _ => nodup_sources after folder, ?_⟩
  refine (nodup_folders fs (Path.ofString corpus)).imp_of_mem ?_
  intro folder other hfolder hother hne path hpath hpath'
  obtain ⟨rel, hbelow, -⟩ := exists_below_of_mem_sources hpath
  obtain ⟨rel', hbelow', -⟩ := exists_below_of_mem_sources hpath'
  refine hne (eq_of_prefixes hfolder hother (l := path.location) ?_ ?_)
  · rw [hbelow.location_eq (isAbsolute_of_mem_folders hfolder)]
    exact List.prefix_append _ _
  · rw [hbelow'.location_eq (isAbsolute_of_mem_folders hother)]
    exact List.prefix_append _ _

/-- Sources that pass a test have texts of their own. -/
theorem nodup_render_sources (fs after : FileSystem) (corpus : String) (p : Path → Bool) :
    (((folders fs (Path.ofString corpus)).flatMap fun folder =>
      (sources after folder).filter p).map Path.render).Nodup := by
  have hclean : ∀ path ∈ (folders fs (Path.ofString corpus)).flatMap fun folder =>
      (sources after folder).filter p, path.Clean ∧ path.isAbsolute = true :=
    fun _ => clean_of_mem_flatMap
  rw [← List.filter_flatMap] at hclean ⊢
  refine List.Nodup.map_on (fun path hpath other hother => ?_)
    ((nodup_flatMap_sources fs after corpus).filter p)
  exact Path.render_injective (hclean path hpath).1 (hclean path hpath).2 (hclean other hother).1
    (hclean other hother).2

end Folders

end Crosscheck.Corpus
