import Crosscheck.Configuration.Load
import Crosscheck.Proofs.Action
/-!
# Faults of configurations

A configuration that cannot be used is reported as such if the fault that ends its reading is one of
the configuration, and every other fault escapes. `contained_settingsOf_iff` says which files are
read to the end or reported. What is assumed of the readers of YAML and TOML is one condition among
the others: they give a value or report a text that breaks the rules.

`contained_bind_iff` carries the whole analysis: of two steps in a row, the first is contained, and
so is the second after every answer of the first.
-/

namespace Crosscheck.Configuration

open Crosscheck.Document Crosscheck.Files Crosscheck.Text

/-- A result that is an answer or a fault of the configuration. -/
def Contained {α : Type} (result : Except Fault α) : Prop :=
  ∀ fault, result = .error fault → ∃ cause, fault = .configuration cause

section Contained

variable {α β : Type}

theorem contained_ok (a : α) : Contained (.ok a) := fun _ h => nomatch h

theorem contained_error_iff {fault : Fault} :
    Contained (.error fault : Except Fault α) ↔ ∃ cause, fault = .configuration cause := by
  refine ⟨fun h => h fault rfl, fun h other heq => ?_⟩
  cases heq
  exact h

theorem contained_configuration (cause : ConfigurationFault) :
    Contained (.error (.configuration cause) : Except Fault α) :=
  contained_error_iff.mpr ⟨cause, rfl⟩

theorem contained_bind_iff {result : Except Fault α} {next : α → Except Fault β} :
    Contained (result >>= next) ↔
      Contained result ∧ ∀ a, result = .ok a → Contained (next a) := by
  cases result with
  | error fault =>
    refine ⟨fun h => ⟨contained_error_iff.mpr (h fault rfl), fun a heq => nomatch heq⟩,
      fun h => contained_error_iff.mpr (h.1 fault rfl)⟩
  | ok a =>
    refine ⟨fun h => ⟨contained_ok a, fun b heq => ?_⟩, fun h => h.2 a rfl⟩
    cases heq
    exact h

/-- An answer can be turned into another. -/
theorem contained_map_iff {result : Except Fault α} {f : α → β} :
    Contained (result >>= fun a => pure (f a)) ↔ Contained result :=
  contained_bind_iff.trans (and_iff_left fun a _ => contained_ok (f a))

/-- A step that reports nothing itself: it gives an answer, or its fault escapes. -/
def Decisive (result : Except Fault α) : Prop := Contained result → ∃ a, result = .ok a

theorem decisive_ok (a : α) : Decisive (.ok a) := fun _ => ⟨a, rfl⟩

theorem Decisive.bind {result : Except Fault α} {next : α → Except Fault β}
    (h : Decisive result) (hnext : ∀ a, Decisive (next a)) : Decisive (result >>= next) := by
  intro hcontained
  obtain ⟨hresult, hrest⟩ := contained_bind_iff.mp hcontained
  obtain ⟨a, rfl⟩ := h hresult
  exact hnext a (hrest a rfl)

/-- What follows a decisive step, if it is contained after every answer alike. -/
theorem Decisive.contained_bind_iff {result : Except Fault α} {next : α → Except Fault β}
    {P : Prop} (h : Decisive result) (hnext : ∀ a, Contained (next a) ↔ P) :
    Contained (result >>= next) ↔ Contained result ∧ P := by
  rw [Configuration.contained_bind_iff]
  refine and_congr_right fun hresult => ?_
  obtain ⟨a, rfl⟩ := h hresult
  exact ⟨fun hall => (hnext a).mp (hall a rfl), fun hP b _ => (hnext b).mpr hP⟩

/-- Decisive steps for the members of a list are contained if the step for each member is. -/
theorem contained_foldlM_iff {f : β → α → Except Fault β} {P : α → Prop}
    (hdecisive : ∀ b a, Decisive (f b a)) (hstep : ∀ b a, Contained (f b a) ↔ P a)
    (items : List α) (b : β) : Contained (items.foldlM f b) ↔ ∀ a ∈ items, P a := by
  induction items generalizing b with
  | nil => exact iff_of_true (contained_ok b) fun _ h => nomatch h
  | cons item rest ih =>
    rw [List.foldlM_cons, (hdecisive b item).contained_bind_iff ih, hstep, List.forall_mem_cons]

theorem Decisive.foldlM {f : β → α → Except Fault β} (h : ∀ b a, Decisive (f b a))
    (items : List α) (b : β) : Decisive (items.foldlM f b) := by
  induction items generalizing b with
  | nil => exact decisive_ok b
  | cons item rest ih =>
    rw [List.foldlM_cons]
    exact (h b item).bind ih

end Contained

/-! ## Texts of values -/

theorem contained_written_iff {value : Value} :
    Contained (written value) ↔ value.isWritable = true := by
  unfold written
  split
  · next h => exact iff_of_true (contained_ok _) h
  · next h => exact iff_of_false (by simp [contained_error_iff]) h

theorem decisive_written (value : Value) : Decisive (written value) := by
  intro h
  exact ⟨_, if_pos (contained_written_iff.mp h)⟩

theorem contained_truth_iff {value : Value} :
    Contained (truth value) ↔ value.isWritable = true := by
  unfold truth
  split
  · exact iff_of_true (contained_ok _) rfl
  · exact contained_map_iff.trans contained_written_iff

theorem decisive_truth (value : Value) : Decisive (truth value) := by
  unfold truth
  split
  · exact decisive_ok _
  · exact (decisive_written _).bind fun _ => decisive_ok _

theorem decisive_pathOf (value : Value) : Decisive (pathOf value) :=
  (decisive_written value).bind fun _ => decisive_ok _

theorem contained_pathOf_iff {value : Value} :
    Contained (pathOf value) ↔ value.isWritable = true :=
  contained_map_iff.trans contained_written_iff

/-! ## One level -/

/-- Whether a value is a key of a configuration: text, or bytes. -/
def isKeyValue : Value → Bool
  | .text _ | .bytes _ => true
  | _ => false

theorem contained_ofValue_iff {value : Value} :
    Contained (Key.ofValue value) ↔ isKeyValue value = true := by
  cases value with
  | text s => exact iff_of_true (contained_ok _) rfl
  | bytes b => exact iff_of_true (contained_ok _) rfl
  | _ => exact iff_of_false (by simp [Key.ofValue, contained_error_iff]) (by simp [isKeyValue])

theorem decisive_ofValue (value : Value) : Decisive (Key.ofValue value) := by
  intro h
  cases value with
  | text s => exact ⟨_, rfl⟩
  | bytes b => exact ⟨_, rfl⟩
  | _ => exact nomatch contained_ofValue_iff.mp h

theorem decisive_addOption (name : Value) (flat : Flat) (entry : Value × Value) :
    Decisive (addOption name flat entry) :=
  (decisive_ofValue _).bind fun _ => (decisive_written name).bind fun _ => decisive_ok _

/-- Whether the table of an analyzer can be put on one level: its keys are text or bytes, and its
name can be written. -/
def TableRead (name : Value) (table : List (Value × Value)) : Prop :=
  ∀ entry ∈ table, isKeyValue entry.1 = true ∧ name.isWritable = true

theorem contained_addOption_iff {name : Value} {flat : Flat} {entry : Value × Value} :
    Contained (addOption name flat entry) ↔
      isKeyValue entry.1 = true ∧ name.isWritable = true := by
  rw [← contained_ofValue_iff, ← contained_written_iff]
  exact (decisive_ofValue _).contained_bind_iff fun _ => contained_map_iff

theorem decisive_addAnalyzer (flat : Flat) (entry : Value × Value) :
    Decisive (addAnalyzer flat entry) := by
  unfold addAnalyzer
  split
  · exact .foldlM (decisive_addOption entry.1) _ flat
  · exact decisive_ok flat

theorem contained_addAnalyzer_iff {flat : Flat} {entry : Value × Value} :
    Contained (addAnalyzer flat entry) ↔
      ∀ table, entry.2 = .map table → TableRead entry.1 table := by
  unfold addAnalyzer
  split
  · next table htable =>
    rw [contained_foldlM_iff (decisive_addOption entry.1) fun _ _ => contained_addOption_iff]
    refine ⟨fun h other hother => ?_, fun h => h table htable⟩
    cases htable.symm.trans hother
    exact h
  · next hnot =>
    exact iff_of_true (contained_ok flat) fun table htable => absurd htable (hnot table)

theorem decisive_addUnder (flat : Flat) (key : Key) (value : Value) :
    Decisive (addUnder flat key value) := by
  unfold addUnder
  split
  · exact .foldlM decisive_addAnalyzer _ flat
  · exact decisive_ok _

/-- Whether the tables of analyzers can be put on one level. What is no table does not matter. -/
def TablesRead (tables : List (Value × Value)) : Prop :=
  ∀ entry ∈ tables, ∀ table, entry.2 = .map table → TableRead entry.1 table

theorem contained_addUnder_iff {flat : Flat} {key : Key} {value : Value} :
    Contained (addUnder flat key value) ↔
      (key.isWord "analyzers" = true → ∀ tables, value = .map tables → TablesRead tables) := by
  unfold addUnder
  split
  · next tables hword =>
    rw [contained_foldlM_iff decisive_addAnalyzer fun _ _ => contained_addAnalyzer_iff]
    refine ⟨fun h _ other hother => ?_, fun h => h hword tables rfl⟩
    cases hother
    exact h
  · next hnot =>
    exact iff_of_true (contained_ok _) fun hword tables hmap => absurd hmap (hnot tables hword)

/-- Whether an entry of a configuration can be put on one level: its key is text or bytes, and so
are the keys in the tables of analyzers. -/
structure EntryRead (entry : Value × Value) : Prop where
  key : isKeyValue entry.1 = true
  tables : ∀ key, Key.ofValue entry.1 = .ok key → key.isWord "analyzers" = true →
    ∀ tables, entry.2 = .map tables → TablesRead tables

theorem contained_addEntry_iff {flat : Flat} {entry : Value × Value} :
    Contained (addEntry flat entry) ↔ EntryRead entry := by
  unfold addEntry
  rw [contained_bind_iff, contained_ofValue_iff]
  exact ⟨fun h => ⟨h.1, fun key hkey => contained_addUnder_iff.mp (h.2 key hkey)⟩,
    fun h => ⟨h.key, fun key hkey => contained_addUnder_iff.mpr (h.tables key hkey)⟩⟩

theorem decisive_addEntry (flat : Flat) (entry : Value × Value) : Decisive (addEntry flat entry) :=
  (decisive_ofValue _).bind fun key => decisive_addUnder flat key entry.2

/-- A configuration is put on one level if each of its entries can be. -/
theorem contained_flatten_iff {entries : List (Value × Value)} :
    Contained (flatten entries) ↔ ∀ entry ∈ entries, EntryRead entry :=
  contained_foldlM_iff decisive_addEntry (fun _ _ => contained_addEntry_iff) entries .empty

/-! ## Numbers -/

theorem contained_orBadNumber {α : Type} (details : String) (number : Option α) :
    Contained (orBadNumber details number) := by
  cases number with
  | none => exact contained_configuration _
  | some n => exact contained_ok n

/-- Whether a value is infinite, so that no whole number can be made of it. -/
def IsInfinite (value : Value) : Prop := ∃ negative, value = .float (.infinite negative)

theorem contained_wholeNumber_iff {value : Value} :
    Contained (wholeNumber value) ↔ ¬ IsInfinite value := by
  unfold wholeNumber IsInfinite
  split
  · exact iff_of_true (contained_ok _) (by simp)
  · exact iff_of_true (contained_ok _) (by simp)
  · exact iff_of_false (by simp [contained_error_iff]) (by simp)
  · next x hfinite =>
    exact iff_of_true (contained_orBadNumber _ _) fun ⟨negative, heq⟩ =>
      hfinite negative (Value.float.inj heq)
  · exact iff_of_true (contained_orBadNumber _ _) (by simp)
  · exact iff_of_true (contained_orBadNumber _ _) (by simp)
  · next hfloat _ _ _ =>
    exact iff_of_true (contained_configuration _) fun ⟨negative, heq⟩ => hfloat _ heq

/-- Whether a value is a whole number past the range of doubles. -/
def IsHuge (value : Value) : Prop :=
  ∃ n negative, value = .int n ∧ Binary64.ofInt n = .infinite negative

theorem contained_double_iff {value : Value} : Contained (double value) ↔ ¬ IsHuge value := by
  unfold double IsHuge
  split
  · exact iff_of_true (contained_ok _) (by simp)
  · next n =>
    split
    · next negative hinfinite =>
      exact iff_of_false (by simp [contained_error_iff])
        (not_not_intro ⟨n, negative, rfl, hinfinite⟩)
    · next hfinite =>
      refine iff_of_true (contained_ok _) fun ⟨m, negative, heq, hinfinite⟩ => ?_
      cases heq
      exact hfinite negative hinfinite
  · exact iff_of_true (contained_ok _) (by simp)
  · exact iff_of_true (contained_orBadNumber _ _) (by simp)
  · exact iff_of_true (contained_orBadNumber _ _) (by simp)
  · next hint _ _ _ =>
    exact iff_of_true (contained_configuration _) fun ⟨n, _, heq, _⟩ => hint n heq

section Keys

variable {α : Type} {read : Value → Except Fault α} {flat : Flat} {key : String}

/-- A number that may be missing is read as its value is. -/
theorem contained_number?_iff
    (hblank : ∀ value, isBlankNumber value = true → Contained (read value)) :
    Contained (number? read flat key) ↔
      ∀ value, flat.get? (.text key) = some value → Contained (read value) := by
  unfold number?
  split
  · next hnone => exact iff_of_true (contained_ok _) fun value h => nomatch hnone.symm.trans h
  · next value hsome =>
    have hread : (∀ other, flat.get? (.text key) = some other → Contained (read other)) ↔
        Contained (read value) := by
      refine ⟨fun h => h value hsome, fun h other hother => ?_⟩
      cases hsome.symm.trans hother
      exact h
    rw [hread]
    split
    · next h => exact iff_of_true (contained_ok _) (hblank value h)
    · show Contained (read value >>= fun a => pure (some a)) ↔ _
      exact contained_map_iff

theorem contained_valueOr_iff {default : α} :
    Contained (valueOr read flat key default) ↔
      ∀ value, flat.get? (.text key) = some value → Contained (read value) := by
  unfold valueOr
  split
  · next hnone => exact iff_of_true (contained_ok _) fun value h => nomatch hnone.symm.trans h
  · next value hsome =>
    refine ⟨fun h other hother => ?_, fun h => h value hsome⟩
    cases hsome.symm.trans hother
    exact h

theorem decisive_valueOr (h : ∀ value, Decisive (read value)) (default : α) :
    Decisive (valueOr read flat key default) := by
  unfold valueOr
  split
  · exact decisive_ok default
  · exact h _

end Keys

/-! ## Analyzers -/

/-- Whether an entry on one level can be set for an analyzer: its key is text, and its value can be
written if the key begins with the name of the analyzer. -/
structure EntrySet (tool : Tool) (entry : Key × Value) : Prop where
  text : ∃ word, entry.1 = .text word
  written : ∀ word, entry.1 = .text word → (tool.key ++ "_").toList <+: word.toList →
    entry.2.isWritable = true

theorem decisive_set (analyzer : Analyzer) (key : String) (value : Value) :
    Decisive (analyzer.set key value) := by
  unfold Analyzer.set
  split
  · exact (decisive_truth value).bind fun _ => decisive_ok _
  · split
    · exact (decisive_written value).bind fun _ => decisive_ok _
    · exact (decisive_written value).bind fun _ => decisive_ok _

theorem contained_set_iff {analyzer : Analyzer} {key : String} {value : Value} :
    Contained (analyzer.set key value) ↔ value.isWritable = true := by
  unfold Analyzer.set
  split
  · exact contained_map_iff.trans contained_truth_iff
  · split
    · exact contained_map_iff.trans contained_written_iff
    · exact contained_map_iff.trans contained_written_iff

theorem decisive_take (tool : Tool) (analyzer : Analyzer) (entry : Key × Value) :
    Decisive (analyzer.take tool entry) := by
  obtain ⟨key, value⟩ := entry
  cases key with
  | bytes b => exact fun h => absurd (contained_error_iff.mp h) (by simp)
  | text word =>
    refine (decisive_ok _).bind fun rest => ?_
    cases rest with
    | some key => exact decisive_set analyzer key value
    | none => exact decisive_ok analyzer

theorem contained_take_iff {tool : Tool} {analyzer : Analyzer} {entry : Key × Value} :
    Contained (analyzer.take tool entry) ↔ EntrySet tool entry := by
  obtain ⟨key, value⟩ := entry
  cases key with
  | bytes b =>
    exact iff_of_false (fun h => absurd (contained_error_iff.mp h) (by simp))
      fun h => by simpa using h.text
  | text word =>
    have hset : EntrySet tool (.text word, value) ↔
        ((tool.key ++ "_").toList <+: word.toList → value.isWritable = true) := by
      refine ⟨fun h => h.written word rfl, fun h => ⟨⟨word, rfl⟩, fun other heq => ?_⟩⟩
      cases heq
      exact h
    rw [hset]
    unfold Analyzer.take keyOf?
    dsimp only
    split
    · next hprefix =>
      have hprefix := List.isPrefixOf_iff_prefix.mp hprefix
      exact contained_set_iff.trans ⟨fun h _ => h, fun h => h hprefix⟩
    · next hnot =>
      exact iff_of_true (contained_ok _) fun h => absurd (List.isPrefixOf_iff_prefix.mpr h) hnot

theorem decisive_setAnalyzer (flat : Flat) (settings : Settings) (tool : Tool) :
    Decisive (setAnalyzer flat settings tool) :=
  (Decisive.foldlM (decisive_take tool) flat.entries .unset).bind fun _ => decisive_ok _

/-- The settings of all analyzers are read if each entry can be set for each of them. -/
theorem contained_setAnalyzers_iff {flat : Flat} (settings : Settings) :
    Contained (Tool.all.foldlM (setAnalyzer flat) settings) ↔
      ∀ tool, ∀ entry ∈ flat.entries, EntrySet tool entry := by
  have htool (settings : Settings) (tool : Tool) : Contained (setAnalyzer flat settings tool) ↔
      ∀ entry ∈ flat.entries, EntrySet tool entry :=
    contained_map_iff.trans (contained_foldlM_iff (decisive_take tool)
      (fun _ _ => contained_take_iff) flat.entries .unset)
  rw [contained_foldlM_iff (decisive_setAnalyzer flat) htool]
  exact ⟨fun h tool => h tool tool.mem_all, fun h tool _ => h tool⟩

/-! ## Settings -/

/-- The keys of which text is made. -/
def textKeys : List String := ["SEED_PATH", "RESULTS_DIR", "MUTATION", "CLEANUP_MUTANTS", "DEBUG"]

/-- Whether a configuration on one level is read to its end, or reported. A number that is reported
ends the reading, so what comes after it does not matter. -/
structure Usable (flat : Flat) : Prop where
  texts : ∀ key ∈ textKeys, ∀ value, flat.get? (.text key) = some value → value.isWritable = true
  workers : ∀ value, flat.get? (.text "MAX_WORKERS") = some value → ¬ IsInfinite value
  timeout : ∀ workers, number? wholeNumber flat "MAX_WORKERS" = .ok workers →
    ∀ value, flat.get? (.text "TIMEOUT") = some value → ¬ IsHuge value
  analyzers : ∀ workers, number? wholeNumber flat "MAX_WORKERS" = .ok workers →
    ∀ timeout, number? double flat "TIMEOUT" = .ok timeout →
      ∀ tool, ∀ entry ∈ flat.entries, EntrySet tool entry

/-- The two numbers are read one after the other, and then the rest. -/
theorem contained_numbers_iff {α : Type} {flat : Flat} {P : Prop}
    {next : Option Int → Option Binary64 → Except Fault α}
    (h : ∀ workers timeout, Contained (next workers timeout) ↔ P) :
    Contained (number? wholeNumber flat "MAX_WORKERS" >>= fun workers =>
        number? double flat "TIMEOUT" >>= fun timeout => next workers timeout) ↔
      (∀ value, flat.get? (.text "MAX_WORKERS") = some value → ¬ IsInfinite value) ∧
        ∀ workers, number? wholeNumber flat "MAX_WORKERS" = .ok workers →
          (∀ value, flat.get? (.text "TIMEOUT") = some value → ¬ IsHuge value) ∧
            ∀ timeout, number? double flat "TIMEOUT" = .ok timeout → P := by
  have hblank {value : Value} (hvalue : isBlankNumber value = true) :
      ¬ IsInfinite value ∧ ¬ IsHuge value := by
    constructor
    · rintro ⟨negative, rfl⟩
      exact nomatch hvalue
    · rintro ⟨n, negative, rfl, -⟩
      exact nomatch hvalue
  rw [contained_bind_iff, contained_number?_iff fun value hvalue =>
    contained_wholeNumber_iff.mpr (hblank hvalue).1]
  simp only [contained_wholeNumber_iff]
  refine and_congr_right fun _ => forall₂_congr fun workers _ => ?_
  rw [contained_bind_iff, contained_number?_iff fun value hvalue =>
    contained_double_iff.mpr (hblank hvalue).2]
  simp only [contained_double_iff, h]

theorem contained_ofFlat_iff {flat : Flat} : Contained (Settings.ofFlat flat) ↔ Usable flat := by
  have hpath {α : Type} (key : String) (default : Path) (next : Path → Except Fault α) (P : Prop)
      (h : ∀ a, Contained (next a) ↔ P) :
      Contained (valueOr pathOf flat key default >>= next) ↔
        Contained (valueOr pathOf flat key default) ∧ P :=
    (decisive_valueOr decisive_pathOf default).contained_bind_iff h
  have htruth {α : Type} (key : String) (default : Bool) (next : Bool → Except Fault α) (P : Prop)
      (h : ∀ a, Contained (next a) ↔ P) :
      Contained (valueOr truth flat key default >>= next) ↔
        Contained (valueOr truth flat key default) ∧ P :=
    (decisive_valueOr decisive_truth default).contained_bind_iff h
  unfold Settings.ofFlat
  dsimp only
  refine Iff.trans (hpath _ _ _ _ fun _ => hpath _ _ _ _ fun _ => htruth _ _ _ _ fun _ =>
    htruth _ _ _ _ fun _ => htruth _ _ _ _ fun _ => contained_numbers_iff fun _ _ =>
      contained_setAnalyzers_iff _) ?_
  simp only [contained_valueOr_iff, contained_pathOf_iff, contained_truth_iff]
  constructor
  · rintro ⟨hseed, hresults, hmutation, hcleanup, hdebug, hworkers, hrest⟩
    refine ⟨?_, hworkers, fun workers h => (hrest workers h).1,
      fun workers h => (hrest workers h).2⟩
    unfold textKeys
    simp only [List.forall_mem_cons]
    exact ⟨hseed, hresults, hmutation, hcleanup, hdebug, List.forall_mem_nil _⟩
  · intro h
    have htexts := h.texts
    unfold textKeys at htexts
    simp only [List.forall_mem_cons] at htexts
    obtain ⟨hseed, hresults, hmutation, hcleanup, hdebug, -⟩ := htexts
    exact ⟨hseed, hresults, hmutation, hcleanup, hdebug, h.workers,
      fun workers hread => ⟨h.timeout workers hread, h.analyzers workers hread⟩⟩

/-- The entries of a configuration give settings or are reported if they can be put on one level
and what is there is usable. -/
theorem contained_ofEntries_iff {entries : List (Value × Value)} :
    Contained (Settings.ofEntries entries) ↔
      (∀ entry ∈ entries, EntryRead entry) ∧ ∀ flat, flatten entries = .ok flat → Usable flat := by
  unfold Settings.ofEntries
  rw [contained_bind_iff, contained_flatten_iff]
  exact and_congr_right fun _ => forall₂_congr fun _ _ => contained_ofFlat_iff

/-! ## Files -/

/-- Whether the text of a file is read to its end, or reported: its notation is read or reported,
and a map in it is usable. -/
structure TextUsable (format : Notation) (path : Path) (text : String) : Prop where
  readable : Contained (content format path text)
  entries : ∀ entries, content format path text = .ok (.map entries) →
    (∀ entry ∈ entries, EntryRead entry) ∧ ∀ flat, flatten entries = .ok flat → Usable flat

theorem exec_load (path : Path) (w : World) :
    (load path).exec w = (settingsIn w.files path, w) := by
  unfold load
  rw [Action.exec_bind_of_ok (Action.exec_files w)]
  exact Action.exec_lift w _

theorem contained_settingsOf_iff {format : Notation} {path : Path} {text : String} :
    Contained (settingsOf format path text) ↔ TextUsable format path text := by
  unfold settingsOf
  rw [contained_bind_iff]
  refine ⟨fun h => ⟨h.1, fun entries hmap => contained_ofEntries_iff.mp (h.2 _ hmap)⟩,
    fun h => ⟨h.readable, fun value hvalue => ?_⟩⟩
  cases value with
  | map entries => exact contained_ofEntries_iff.mpr (h.entries entries hvalue)
  | _ => exact contained_configuration _

section File

variable {fs : FileSystem} {path : Path}

/-- What cannot be opened as a file in a known notation is reported. -/
theorem contained_settingsIn_of_not (h : ∀ format bytes, fs.isFile path = true →
    notationOf? (lower path.suffix) = some format → fs.read path ≠ .ok bytes) :
    Contained (settingsIn fs path) := by
  unfold settingsIn
  cases hfile : fs.isFile path with
  | false => exact contained_configuration _
  | true =>
    cases hformat : notationOf? (lower path.suffix) with
    | none => exact contained_configuration _
    | some format =>
      cases hread : fs.read path with
      | error e => exact contained_configuration _
      | ok bytes => exact absurd hread (h format bytes hfile hformat)

theorem settingsIn_of_read {format : Notation} {bytes : Bytes} (hfile : fs.isFile path = true)
    (hformat : notationOf? (lower path.suffix) = some format) (hread : fs.read path = .ok bytes) :
    settingsIn fs path = textOf bytes >>= settingsOf format path := by
  unfold settingsIn
  rw [hfile, hformat, hread]
  rfl

end File

theorem decisive_textOf (bytes : Bytes) : Decisive (textOf bytes) := by
  unfold textOf
  split
  · exact decisive_ok _
  · exact fun h => absurd (contained_error_iff.mp h) (by simp)

/-- Loading settings gives settings or reports the configuration, unless there is a file in a known
notation that is not in UTF-8, or whose text its notation neither reads nor reports, or with a map
that is not usable; and then another fault escapes. -/
theorem contained_load_iff (path : Path) (w : World) :
    Contained ((load path).exec w).1 ↔
      ∀ format bytes, w.files.isFile path = true →
        notationOf? (lower path.suffix) = some format → w.files.read path = .ok bytes →
          ∃ text, textOf bytes = .ok text ∧ TextUsable format path text := by
  rw [exec_load]
  show Contained (settingsIn w.files path) ↔ _
  constructor
  · intro h format bytes hfile hformat hread
    rw [settingsIn_of_read hfile hformat hread, contained_bind_iff] at h
    obtain ⟨text, htext⟩ := decisive_textOf bytes h.1
    exact ⟨text, htext, contained_settingsOf_iff.mp (h.2 text htext)⟩
  · intro h
    by_cases hread : ∃ format bytes, w.files.isFile path = true ∧
        notationOf? (lower path.suffix) = some format ∧ w.files.read path = .ok bytes
    · obtain ⟨format, bytes, hfile, hformat, hread⟩ := hread
      obtain ⟨text, htext, husable⟩ := h format bytes hfile hformat hread
      rw [settingsIn_of_read hfile hformat hread, htext]
      exact contained_settingsOf_iff.mpr husable
    · refine contained_settingsIn_of_not fun format bytes hfile hformat hok => hread ?_
      exact ⟨format, bytes, hfile, hformat, hok⟩

/-- A world with a configuration in YAML whose only byte starts no character in UTF-8. -/
def garbledWorld : World :=
  let files := FileSystem.initial.write (Path.ofString "/tmp/w/c.yaml") [0xFF]
  { World.initial with files := files.toOption.getD .initial }

/-- The file gives no text that the reader of YAML could fail on, and the fault of its encoding
escapes. -/
theorem load_garbledWorld :
    let path := Path.ofString "/tmp/w/c.yaml"
    notationOf? (lower path.suffix) = some .yaml ∧
      garbledWorld.files.read path = .ok [0xFF] ∧
      (∀ text, textOf [0xFF] = .ok text → Contained (content .yaml path text)) ∧
      ¬ Contained ((load path).exec garbledWorld).1 := by
  intro path
  have hformat : notationOf? (lower path.suffix) = some .yaml := by decide +kernel
  have hfile : garbledWorld.files.isFile path = true := by decide +kernel
  have hcontent : (garbledWorld.files.read path).toOption = some [0xFF] := by decide +kernel
  have hread := Action.ok_of_toOption hcontent
  have htext : textOf [0xFF] = .error .notUtf8 := by cbv
  refine ⟨hformat, hread, fun text h => ?_, ?_⟩
  · cases htext.symm.trans h
  · rw [exec_load, settingsIn_of_read hfile hformat hread, htext]
    exact fun h => absurd (contained_error_iff.mp h) (by simp)

end Crosscheck.Configuration
