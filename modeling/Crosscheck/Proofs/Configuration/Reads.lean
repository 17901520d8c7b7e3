import Crosscheck.Configuration.Settings
import Crosscheck.Proofs.Comparison
import Crosscheck.Proofs.OrderedMap
/-!
# What is read of a configuration

Of a configuration on one level seven keys are looked up, and those that begin with the name of an
analyzer are gone through in their order. All others are passed over: settings depend on the keys
that are read and on nothing else (`ofFlat_filterKeys`).

In the other direction every field of the settings tells what was found for it (`Found`), so that a
difference in what is found is a difference of the settings.
-/

namespace Crosscheck.Configuration

open Crosscheck.Document Crosscheck.Files Crosscheck.Text

variable {flat flat' : Flat}

/-- The keys of the settings that concern the whole run. -/
def runKeys : List String :=
  ["SEED_PATH", "RESULTS_DIR", "MUTATION", "CLEANUP_MUTANTS", "DEBUG", "MAX_WORKERS", "TIMEOUT"]

/-- Whether a key begins with the name of an analyzer. -/
def isNamed (tool : Tool) (key : String) : Bool := (tool.key ++ "_").toList.isPrefixOf key.toList

/-- Whether a key is read. Bytes are: they end the reading. -/
def isRead : Key → Bool
  | .text key => runKeys.contains key || Tool.all.any (isNamed · key)
  | .bytes _ => true

theorem isRead_runKey {key : String} (h : key ∈ runKeys) : isRead (.text key) = true := by
  simp only [isRead, List.contains_iff_mem.mpr h, Bool.true_or]

/-! ## Settings depend on what is read -/

/-- What is not read is passed over for every analyzer. -/
theorem take_of_not_read {tool : Tool} {key : Key} (h : isRead key = false) (analyzer : Analyzer)
    (value : Value) : analyzer.take tool (key, value) = .ok analyzer := by
  cases key with
  | bytes b => exact nomatch h
  | text key =>
    have hnamed : isNamed tool key = false := by
      simp only [isRead, Bool.or_eq_false_iff, List.any_eq_false] at h
      exact Bool.eq_false_iff.mpr (h.2 tool tool.mem_all)
    have hkey : keyOf? tool (.text key) = .ok none :=
      congrArg Except.ok (if_neg (Bool.eq_false_iff.mp hnamed))
    unfold Analyzer.take
    dsimp only
    rw [hkey]
    rfl

theorem analyzerOf_filterKeys (flat : Flat) (tool : Tool) :
    analyzerOf (flat.filterKeys isRead) tool = analyzerOf flat tool := by
  unfold analyzerOf OrderedMap.filterKeys
  rw [List.foldlM_filter]
  congr 1
  funext analyzer entry
  split
  · rfl
  · next h => exact (take_of_not_read (Bool.eq_false_iff.mpr h) analyzer entry.2).symm

theorem valueOr_congr {α : Type} {read : Value → Except Fault α} {key : String} {default : α}
    (h : flat.get? (.text key) = flat'.get? (.text key)) :
    valueOr read flat key default = valueOr read flat' key default := by
  unfold valueOr
  rw [h]

theorem number?_congr {α : Type} {read : Value → Except Fault α} {key : String}
    (h : flat.get? (.text key) = flat'.get? (.text key)) :
    number? read flat key = number? read flat' key := by
  unfold number?
  rw [h]

theorem ofFlat_congr
    (hget : ∀ key ∈ runKeys, flat.get? (.text key) = flat'.get? (.text key))
    (hanalyzers : ∀ tool, analyzerOf flat tool = analyzerOf flat' tool) :
    Settings.ofFlat flat = Settings.ofFlat flat' := by
  have hset : setAnalyzer flat = setAnalyzer flat' := by
    funext settings tool
    unfold setAnalyzer
    rw [hanalyzers]
  unfold Settings.ofFlat
  dsimp only
  rw [valueOr_congr (hget "SEED_PATH" (by decide)), valueOr_congr (hget "RESULTS_DIR" (by decide)),
    valueOr_congr (hget "MUTATION" (by decide)), valueOr_congr (hget "CLEANUP_MUTANTS" (by decide)),
    valueOr_congr (hget "DEBUG" (by decide)), number?_congr (hget "MAX_WORKERS" (by decide)),
    number?_congr (hget "TIMEOUT" (by decide)), hset]

/-- Settings are read from the keys that are read, and from nothing else. -/
theorem ofFlat_filterKeys (flat : Flat) :
    Settings.ofFlat (flat.filterKeys isRead) = Settings.ofFlat flat :=
  ofFlat_congr (fun _ hkey => OrderedMap.get?_filterKeys flat (isRead_runKey hkey))
    (analyzerOf_filterKeys flat)

/-! ## Settings tell what was found -/

/-- Settings with what a configuration says in every field. -/
structure Found (flat : Flat) (settings : Settings) : Prop where
  seedPath : valueOr pathOf flat "SEED_PATH" Settings.initial.seedPath = .ok settings.seedPath
  resultsDirectory : valueOr pathOf flat "RESULTS_DIR" Settings.initial.resultsDirectory =
    .ok settings.resultsDirectory
  mutation : valueOr truth flat "MUTATION" Settings.initial.mutation = .ok settings.mutation
  cleanup : valueOr truth flat "CLEANUP_MUTANTS" Settings.initial.cleanup = .ok settings.cleanup
  debug : valueOr truth flat "DEBUG" Settings.initial.debug = .ok settings.debug
  workers : number? wholeNumber flat "MAX_WORKERS" = .ok settings.workers
  timeout : number? double flat "TIMEOUT" = .ok settings.timeout
  analyzers : ∀ tool, analyzerOf flat tool = .ok (settings.analyzers tool)

theorem withAnalyzer_self (settings : Settings) (tool : Tool) (analyzer : Analyzer) :
    (settings.withAnalyzer tool analyzer).analyzers tool = analyzer := if_pos rfl

theorem withAnalyzer_of_ne {settings : Settings} {tool other : Tool} {analyzer : Analyzer}
    (h : other ≠ tool) :
    (settings.withAnalyzer tool analyzer).analyzers other = settings.analyzers other := if_neg h

/-- Setting analyzers one after the other sets each of them and leaves the rest. -/
theorem analyzers_of_foldlM {tools : List Tool} {start settings : Settings}
    (h : tools.foldlM (setAnalyzer flat) start = .ok settings) :
    { settings with analyzers := start.analyzers } = start ∧
      (∀ tool ∈ tools, analyzerOf flat tool = .ok (settings.analyzers tool)) ∧
      ∀ tool, tool ∉ tools → settings.analyzers tool = start.analyzers tool := by
  induction tools generalizing start with
  | nil =>
    cases h
    exact ⟨rfl, fun _ htool => (nomatch htool), fun _ _ => rfl⟩
  | cons first rest ih =>
    rw [List.foldlM_cons] at h
    obtain ⟨next, hnext, hrest⟩ := bind_eq_ok_iff.mp h
    obtain ⟨analyzer, hfirst, ⟨⟩⟩ := bind_eq_ok_iff.mp hnext
    obtain ⟨hsame, hset, hkept⟩ := ih hrest
    refine ⟨?_, ?_, ?_⟩
    · exact congrArg (fun s : Settings => { s with analyzers := start.analyzers }) hsame
    · intro tool htool
      by_cases hmem : tool ∈ rest
      · exact hset tool hmem
      · obtain rfl := (List.mem_cons.mp htool).resolve_right hmem
        rw [hkept tool hmem, withAnalyzer_self]
        exact hfirst
    · intro tool htool
      rw [List.mem_cons, not_or] at htool
      rw [hkept tool htool.2, withAnalyzer_of_ne htool.1]

/-- Settings that are read have in every field what was found for it. -/
theorem found_of_ofFlat {settings : Settings} (h : Settings.ofFlat flat = .ok settings) :
    Found flat settings := by
  unfold Settings.ofFlat at h
  dsimp only at h
  obtain ⟨seedPath, hseed, h⟩ := bind_eq_ok_iff.mp h
  obtain ⟨results, hresults, h⟩ := bind_eq_ok_iff.mp h
  obtain ⟨mutation, hmutation, h⟩ := bind_eq_ok_iff.mp h
  obtain ⟨cleanup, hcleanup, h⟩ := bind_eq_ok_iff.mp h
  obtain ⟨debug, hdebug, h⟩ := bind_eq_ok_iff.mp h
  obtain ⟨workers, hworkers, h⟩ := bind_eq_ok_iff.mp h
  obtain ⟨timeout, htimeout, h⟩ := bind_eq_ok_iff.mp h
  obtain ⟨hsame, hset, -⟩ := analyzers_of_foldlM h
  obtain ⟨rfl, rfl, -, rfl, rfl, rfl, rfl, rfl⟩ := Settings.mk.inj hsame
  exact ⟨hseed, hresults, hmutation, hcleanup, hdebug, hworkers, htimeout,
    fun tool => hset tool tool.mem_all⟩

/-! ## Options of analyzers -/

section Options

variable {tool : Tool} {analyzer next : Analyzer}

/-- What follows the name of an analyzer is a key of it. -/
theorem take_named (analyzer : Analyzer) (key : String) (value : Value) :
    analyzer.take tool (.text (tool.key ++ "_" ++ key), value) = analyzer.set key value := by
  have hkey : keyOf? tool (.text (tool.key ++ "_" ++ key)) = .ok (some key) := by
    have hlist : (tool.key ++ "_" ++ key).toList = (tool.key ++ "_").toList ++ key.toList :=
      String.toList_append
    simp only [keyOf?, hlist, List.isPrefixOf_iff_prefix.mpr (List.prefix_append _ _), if_true,
      List.drop_left, String.ofList_toList]
  unfold Analyzer.take
  dsimp only
  rw [hkey]
  rfl

theorem entries_insert_ne_nil (options : OrderedMap String String) (key value : String) :
    (options.insert key value).entries ≠ [] := by
  obtain ⟨pairs⟩ := options
  show OrderedMap.alterEntries key (fun _ => value) pairs ≠ []
  cases pairs with
  | nil => exact List.cons_ne_nil _ _
  | cons pair rest =>
    unfold OrderedMap.alterEntries
    split <;> exact List.cons_ne_nil _ _

/-- A key that is not one of the two common ones is that of an option. -/
theorem options_of_set {key : String} {value : Value} (hmutation : key ≠ "MUTATION")
    (hpath : key ≠ "PATH") (h : analyzer.set key value = .ok next) : next.options.entries ≠ [] := by
  simp only [Analyzer.set, beq_iff_eq, hmutation, hpath, if_false] at h
  obtain ⟨text, -, ⟨⟩⟩ := bind_eq_ok_iff.mp h
  exact entries_insert_ne_nil _ _ _

/-- Options stay. -/
theorem options_of_take {entry : Key × Value} (hoptions : analyzer.options.entries ≠ [])
    (h : analyzer.take tool entry = .ok next) : next.options.entries ≠ [] := by
  unfold Analyzer.take at h
  obtain ⟨rest, -, h⟩ := bind_eq_ok_iff.mp h
  cases rest with
  | none =>
    cases h
    exact hoptions
  | some key =>
    change analyzer.set key entry.2 = .ok next at h
    unfold Analyzer.set at h
    split at h
    · obtain ⟨enabled, -, ⟨⟩⟩ := bind_eq_ok_iff.mp h
      exact hoptions
    · split at h
      · obtain ⟨path, -, ⟨⟩⟩ := bind_eq_ok_iff.mp h
        exact hoptions
      · obtain ⟨text, -, ⟨⟩⟩ := bind_eq_ok_iff.mp h
        exact entries_insert_ne_nil _ _ _

theorem options_of_foldlM {entries : List (Key × Value)} (hoptions : analyzer.options.entries ≠ [])
    (h : entries.foldlM (Analyzer.take tool) analyzer = .ok next) : next.options.entries ≠ [] := by
  induction entries generalizing analyzer with
  | nil =>
    cases h
    exact hoptions
  | cons entry rest ih =>
    rw [List.foldlM_cons] at h
    obtain ⟨other, hother, h⟩ := bind_eq_ok_iff.mp h
    exact ih (options_of_take hoptions hother) h

/-- An analyzer for which an option is set has options. -/
theorem options_of_analyzerOf {key : String} {value : Value} (hmutation : key ≠ "MUTATION")
    (hpath : key ≠ "PATH") (hentry : (.text (tool.key ++ "_" ++ key), value) ∈ flat.entries)
    (h : analyzerOf flat tool = .ok next) : next.options.entries ≠ [] := by
  obtain ⟨before, after, hentries⟩ := List.append_of_mem hentry
  unfold analyzerOf at h
  rw [hentries, List.foldlM_append] at h
  obtain ⟨start, -, h⟩ := bind_eq_ok_iff.mp h
  rw [List.foldlM_cons, take_named] at h
  obtain ⟨set, hset, h⟩ := bind_eq_ok_iff.mp h
  exact options_of_foldlM (options_of_set hmutation hpath hset) h

end Options

end Crosscheck.Configuration
