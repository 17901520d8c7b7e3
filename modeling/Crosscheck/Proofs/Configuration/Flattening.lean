import Crosscheck.Configuration.Settings
import Crosscheck.Proofs.OrderedMap
import Crosscheck.Proofs.Text.Case
import Mathlib.Data.List.Forall2
/-!
# Nested and flat configurations

What stands in the table of an analyzer can as well be written on the first level, with the name of
the table in front of its key (`flatForm`). The order of the entries matters, since of two values
under one key the later one stays: the flat entries stand where the tables stood.

A configuration is read entry by entry, so that two configurations give the same settings if the
entries of one do the same, one after the other, as the entries of the other. An entry of the flat
form does what the option does that it comes from (`addEntry_flatKey`), and a key does what it does
in another case.
-/

namespace Crosscheck.Configuration

open Crosscheck.Document Crosscheck.Text

/-! ## Reading entry by entry -/

section Fold

variable {α γ : Type} {f : Flat → γ → Except Fault Flat}

theorem foldlM_flatMap (g : α → List γ) (items : List α) (flat : Flat) :
    (items.flatMap g).foldlM f flat = items.foldlM (fun flat a => (g a).foldlM f flat) flat := by
  induction items generalizing flat with
  | nil => rfl
  | cons a rest ih =>
    rw [List.flatMap_cons, List.foldlM_append, List.foldlM_cons]
    exact bind_congr ih

/-- Entries that do the same one after the other. -/
theorem foldlM_congr_forall₂ {g : Flat → α → Except Fault Flat} {R : α → γ → Prop}
    (h : ∀ flat a c, R a c → g flat a = f flat c) {items : List α} {others : List γ}
    (hitems : List.Forall₂ R items others) (flat : Flat) :
    items.foldlM g flat = others.foldlM f flat := by
  induction hitems generalizing flat with
  | nil => rfl
  | cons hfirst _ ih =>
    rw [List.foldlM_cons, List.foldlM_cons, h flat _ _ hfirst]
    exact bind_congr ih

theorem foldlM_congr_mem {g : Flat → γ → Except Fault Flat} {items : List γ}
    (h : ∀ flat, ∀ c ∈ items, g flat c = f flat c) (flat : Flat) :
    items.foldlM g flat = items.foldlM f flat :=
  foldlM_congr_forall₂ (R := fun a c => a = c ∧ a ∈ items)
    (fun flat _ _ hac => hac.1 ▸ h flat _ hac.2) (List.forall₂_same.mpr fun _ hc => ⟨rfl, hc⟩) flat

end Fold

/-! ## Keys that are text -/

/-- Whether a value is text. -/
def isText : Value → Bool
  | .text _ => true
  | _ => false

theorem exists_text {value : Value} (h : isText value = true) : ∃ s, value = .text s := by
  cases value with
  | text s => exact ⟨s, rfl⟩
  | _ => exact nomatch h

/-- Whether all keys of a map are text. -/
def TextKeyed (entries : List (Value × Value)) : Prop := ∀ entry ∈ entries, isText entry.1 = true

/-- The entries of a map. -/
def table? : Value → Option (List (Value × Value))
  | .map table => some table
  | _ => none

/-- What stands under the word for analyzers, if it is a map. -/
def tables? : Value × Value → Option (List (Value × Value))
  | (.text key, .map tables) => if lower key == "analyzers" then some tables else none
  | _ => none

/-- An entry whose key is text, with text for the keys in the tables of analyzers that it holds. -/
structure WordedEntry (entry : Value × Value) : Prop where
  key : isText entry.1 = true
  names : ∀ tables ∈ tables? entry, TextKeyed tables
  words : ∀ tables ∈ tables? entry, ∀ member ∈ tables, ∀ table ∈ table? member.2, TextKeyed table

/-- A configuration whose keys are text, those in the tables of analyzers included. -/
def Worded (entries : List (Value × Value)) : Prop := ∀ entry ∈ entries, WordedEntry entry

instance (entries : List (Value × Value)) : Decidable (TextKeyed entries) :=
  inferInstanceAs (Decidable (∀ entry ∈ entries, _))

instance (entry : Value × Value) : Decidable (WordedEntry entry) :=
  decidable_of_iff (_ ∧ _ ∧ _)
    ⟨fun h => ⟨h.1, h.2.1, h.2.2⟩, fun h => ⟨h.key, h.names, h.words⟩⟩

instance (entries : List (Value × Value)) : Decidable (Worded entries) :=
  inferInstanceAs (Decidable (∀ entry ∈ entries, _))

theorem tables?_of_word {title : String} (h : lower title = "analyzers")
    (tables : List (Value × Value)) : tables? (.text title, .map tables) = some tables :=
  if_pos (beq_iff_eq.mpr h)

/-- An entry of a configuration is a table of tables, or is read as it is. -/
theorem addEntry_of_tables? {entry : Value × Value} {tables : List (Value × Value)}
    (h : tables? entry = some tables) (flat : Flat) :
    addEntry flat entry = tables.foldlM addAnalyzer flat := by
  unfold tables? at h
  split at h
  · next key _ =>
    obtain ⟨hword, hsome⟩ := Option.ite_none_right_eq_some.mp h
    cases hsome
    have hanalyzers : (Key.text key).isWord "analyzers" = true := hword
    show addUnder flat (.text key) (.map tables) = _
    simp only [addUnder, hanalyzers]
  · exact nomatch h

theorem addEntry_of_tables?_none {key : String} {value : Value}
    (h : tables? (.text key, value) = none) (flat : Flat) :
    addEntry flat (.text key, value) = .ok (flat.insert (.text (upper key)) value) := by
  show addUnder flat (.text key) value = _
  unfold addUnder
  split
  · next tables hword =>
    have hanalyzers : (lower key == "analyzers") = true := hword
    exact absurd h (by simp [tables?, hanalyzers])
  · rfl

/-! ## The flat form -/

/-- The word for a key of a table on the first level. -/
def wordOf : Value → String
  | .text key => if lower key == "enabled" then "mutation" else key
  | key => key.render

/-- A key of a table with the name of the table in front. -/
def flatKey (name key : Value) : Value := .text (name.render ++ "_" ++ wordOf key)

/-- The entries for a member of the table of analyzers. What is no table has none. -/
def flatMember : Value × Value → List (Value × Value)
  | (name, .map table) => table.map fun entry => (flatKey name entry.1, entry.2)
  | _ => []

/-- The entries that stand in the place of an entry. -/
def flatEntry (entry : Value × Value) : List (Value × Value) :=
  match tables? entry with
  | some tables => tables.flatMap flatMember
  | none => [entry]

/-- A configuration with the tables of analyzers replaced by entries of their own. -/
def flatForm (entries : List (Value × Value)) : List (Value × Value) := entries.flatMap flatEntry

/-- No entry of the flat form is a table of tables again: its key has an underscore. -/
theorem tables?_flatKey (name key value : Value) : tables? (flatKey name key, value) = none := by
  have hword : ¬ lower (name.render ++ "_" ++ wordOf key) = "analyzers" := by
    intro heq
    have hmem : '_' ∈ (lower (name.render ++ "_" ++ wordOf key)).toList :=
      underscore_mem_lower (by simp)
    rw [heq] at hmem
    exact absurd hmem (by decide)
  unfold flatKey tables?
  split
  · next hkey => cases hkey; simp [hword]
  · rfl

/-- An option of an analyzer is added in the upper case of its name and its word. -/
theorem addOption_text (name : Value) (key : String) (value : Value) (flat : Flat) :
    addOption name flat (.text key, value) = do
      return flat.insert (.text (upper ((← written name) ++ "_" ++ wordOf (.text key)))) value := rfl

theorem addEntry_flatKey (name key : String) (value : Value) (flat : Flat) :
    addEntry flat (flatKey (.text name) (.text key), value) =
      addOption (.text name) flat (.text key, value) :=
  (addEntry_of_tables?_none (tables?_flatKey _ _ _) flat).trans
    (addOption_text (.text name) key value flat).symm

theorem foldlM_flatMember {name value : Value} (hname : isText name = true)
    (hwords : ∀ table ∈ table? value, TextKeyed table) (flat : Flat) :
    (flatMember (name, value)).foldlM addEntry flat = addAnalyzer flat (name, value) := by
  obtain ⟨name, rfl⟩ := exists_text hname
  unfold flatMember addAnalyzer
  cases value with
  | map table =>
    dsimp only
    rw [List.foldlM_map]
    refine foldlM_congr_mem (fun flat entry hentry => ?_) flat
    obtain ⟨key, hkey⟩ := exists_text (hwords table rfl entry hentry)
    rw [hkey, addEntry_flatKey, ← hkey]
  | _ => rfl

/-- The entries in the place of an entry do what it does. -/
theorem foldlM_flatEntry {entry : Value × Value} (h : WordedEntry entry) (flat : Flat) :
    (flatEntry entry).foldlM addEntry flat = addEntry flat entry := by
  unfold flatEntry
  split
  · next tables htables =>
    rw [foldlM_flatMap, addEntry_of_tables? htables]
    exact foldlM_congr_mem (fun flat member hmember =>
      foldlM_flatMember (h.names tables htables member hmember)
        (h.words tables htables member hmember) flat) flat
  · exact bind_pure (addEntry flat entry)

theorem flatten_flatForm {entries : List (Value × Value)} (h : Worded entries) :
    flatten (flatForm entries) = flatten entries := by
  unfold flatten flatForm
  rw [foldlM_flatMap]
  exact foldlM_congr_mem (fun flat entry hentry => foldlM_flatEntry (h entry hentry) flat) .empty

/-! ## Keys in another case -/

/-- Keys that are text and differ at most in the case of ASCII letters. -/
def KeyRecased (key key' : Value) : Prop :=
  ∃ s t, key = .text s ∧ key' = .text t ∧ SameLetters s t

/-- An option under another spelling of its key. -/
structure OptionRecased (option option' : Value × Value) : Prop where
  key : KeyRecased option.1 option'.1
  value : option.2 = option'.2

/-- A member of the table of analyzers under another spelling of its name, and if it is a table with
other spellings of its keys. -/
inductive MemberRecased : Value × Value → Value × Value → Prop
  | table {name name' : Value} {table table' : List (Value × Value)} (key : KeyRecased name name')
      (options : List.Forall₂ OptionRecased table table') :
      MemberRecased (name, .map table) (name', .map table')
  | other {name name' value : Value} (key : KeyRecased name name') :
      MemberRecased (name, value) (name', value)

/-- An entry of a configuration under another spelling of its key, and if it holds the tables of
analyzers with other spellings in these. -/
inductive EntryRecased : Value × Value → Value × Value → Prop
  | tables {key key' : Value} {tables tables' : List (Value × Value)} (same : KeyRecased key key')
      (holds : tables? (key, .map tables) = some tables)
      (members : List.Forall₂ MemberRecased tables tables') :
      EntryRecased (key, .map tables) (key', .map tables')
  | other {key key' value : Value} (same : KeyRecased key key') :
      EntryRecased (key, value) (key', value)

/-- A configuration with its keys in another case. -/
def Recased (entries entries' : List (Value × Value)) : Prop :=
  List.Forall₂ EntryRecased entries entries'

theorem wordOf_sameLetters {s t : String} (h : SameLetters s t) :
    SameLetters (wordOf (.text s)) (wordOf (.text t)) := by
  simp only [wordOf, lower_eq_of_sameLetters h]
  split
  · exact .refl _
  · exact h

/-- An option does what it does under another spelling of its key. -/
theorem addOption_recased (name : Value) (flat : Flat) (option option' : Value × Value)
    (h : OptionRecased option option') : addOption name flat option = addOption name flat option' := by
  obtain ⟨key, value⟩ := option
  obtain ⟨key', value'⟩ := option'
  obtain ⟨⟨word, word', rfl, rfl, hword⟩, rfl⟩ := h
  have hupper (s : String) :
      upper (s ++ "_" ++ wordOf (.text word)) = upper (s ++ "_" ++ wordOf (.text word')) :=
    upper_eq_of_sameLetters ((SameLetters.refl _).append (wordOf_sameLetters hword))
  simp only [addOption_text, hupper]

/-- So do all options under another spelling of the name of their table. -/
theorem addOption_eq_of_recased {name name' : Value} (h : KeyRecased name name') :
    addOption name = addOption name' := by
  obtain ⟨s, t, rfl, rfl, hletters⟩ := h
  have hupper (word : String) : upper (s ++ "_" ++ word) = upper (t ++ "_" ++ word) :=
    upper_eq_of_sameLetters ((hletters.append (.refl "_")).append (.refl word))
  funext flat option
  refine bind_congr fun key => ?_
  exact congrArg (fun word => Except.ok (flat.insert (.text word) option.2)) (hupper _)

theorem addAnalyzer_recased (flat : Flat) (member member' : Value × Value)
    (h : MemberRecased member member') : addAnalyzer flat member = addAnalyzer flat member' := by
  cases h with
  | @table name name' table table' hname hoptions =>
    show table.foldlM (addOption name) flat = table'.foldlM (addOption name') flat
    rw [addOption_eq_of_recased hname]
    exact foldlM_congr_forall₂ (addOption_recased name') hoptions flat
  | other hname =>
    unfold addAnalyzer
    dsimp only
    rw [addOption_eq_of_recased hname]

/-- An entry does what it does under another spelling. -/
theorem addEntry_recased (flat : Flat) (entry entry' : Value × Value)
    (h : EntryRecased entry entry') : addEntry flat entry = addEntry flat entry' := by
  have hkey {key key' : Value} (same : KeyRecased key key') (value : Value) :
      tables? (key', value) = tables? (key, value) := by
    obtain ⟨s, t, rfl, rfl, hletters⟩ := same
    unfold tables?
    cases value <;> simp only [lower_eq_of_sameLetters hletters]
  cases h with
  | @tables key key' tables tables' same holds members =>
    have hholds : tables? (key', .map tables') = some tables' := by
      obtain ⟨s, t, rfl, rfl, hletters⟩ := same
      obtain ⟨hword, -⟩ := Option.ite_none_right_eq_some.mp holds
      rw [lower_eq_of_sameLetters hletters] at hword
      exact tables?_of_word (beq_iff_eq.mp hword) tables'
    rw [addEntry_of_tables? holds, addEntry_of_tables? hholds]
    exact foldlM_congr_forall₂ addAnalyzer_recased members flat
  | @other key key' value same =>
    have htables := hkey same value
    obtain ⟨s, t, rfl, rfl, hletters⟩ := same
    cases hheld : tables? (.text s, value) with
    | some tables =>
      rw [addEntry_of_tables? hheld, addEntry_of_tables? (htables.trans hheld)]
    | none =>
      rw [addEntry_of_tables?_none hheld, addEntry_of_tables?_none (htables.trans hheld),
        upper_eq_of_sameLetters hletters]

theorem flatten_recased {entries entries' : List (Value × Value)} (h : Recased entries entries') :
    flatten entries = flatten entries' :=
  foldlM_congr_forall₂ addEntry_recased h .empty

/-! ## Settings -/

/-- A configuration and its flat form give the same settings or end with the same fault, and so does
a configuration with its keys in another case. -/
theorem nested_flat_agree :
    (∀ entries, Worded entries →
      Settings.ofEntries (flatForm entries) = Settings.ofEntries entries) ∧
    ∀ entries entries', Recased entries entries' →
      Settings.ofEntries entries' = Settings.ofEntries entries := by
  unfold Settings.ofEntries
  constructor
  · intro entries h
    rw [flatten_flatForm h]
  · intro entries entries' h
    rw [flatten_recased h]

/-- A configuration with tables for two analyzers and a note between them. -/
def nestedFile : List (Value × Value) :=
  [(.text "seed_path", .text "sources"),
    (.text "Analyzers", .map
      [(.text "pmd", .map [(.text "Enabled", .bool true), (.text "ruleset", .text "own.xml")]),
        (.text "note", .int 3),
        (.text "infer", .map [(.text "path", .text "/opt/infer")])]),
    (.text "timeout", .int 30)]

/-- The same with its keys in another case. -/
def spelledFile : List (Value × Value) :=
  [(.text "SEED_Path", .text "sources"),
    (.text "ANALYZERS", .map
      [(.text "Pmd", .map [(.text "eNABLED", .bool true), (.text "RuleSet", .text "own.xml")]),
        (.text "NOTE", .int 3),
        (.text "INFER", .map [(.text "path", .text "/opt/infer")])]),
    (.text "TimeOut", .int 30)]

theorem agree_nestedFile :
    Worded nestedFile ∧
      flatForm nestedFile =
        [(.text "seed_path", .text "sources"), (.text "pmd_mutation", .bool true),
          (.text "pmd_ruleset", .text "own.xml"), (.text "infer_path", .text "/opt/infer"),
          (.text "timeout", .int 30)] ∧
      Recased nestedFile spelledFile ∧
      Settings.ofEntries (flatForm nestedFile) = Settings.ofEntries nestedFile ∧
      Settings.ofEntries spelledFile = Settings.ofEntries nestedFile ∧
      (Settings.ofEntries nestedFile).toOption.map (fun settings =>
        (settings.seedPath.render, (settings.analyzers .pmd).enabled,
          (settings.analyzers .pmd).option .pmd "ruleset", (settings.analyzers .infer).path)) =
        some ("sources", true, "own.xml", "/opt/infer") := by
  have hworded : Worded nestedFile := by decide +kernel
  have hkey {s t : String} (h : SameLetters s t) : KeyRecased (.text s) (.text t) :=
    ⟨s, t, rfl, rfl, h⟩
  have hpmd : List.Forall₂ OptionRecased
      [(.text "Enabled", .bool true), (.text "ruleset", .text "own.xml")]
      [(.text "eNABLED", .bool true), (.text "RuleSet", .text "own.xml")] :=
    .cons ⟨hkey (by decide), rfl⟩ (.cons ⟨hkey (by decide), rfl⟩ .nil)
  have hrecased : Recased nestedFile spelledFile :=
    .cons (.other (hkey (by decide))) <|
      .cons (.tables (hkey (by decide)) rfl <|
        .cons (.table (hkey (by decide)) hpmd) <|
          .cons (.other (hkey (by decide))) <| .cons (.other (hkey (by decide))) .nil) <|
        .cons (.other (hkey (by decide))) .nil
  refine ⟨hworded, rfl, hrecased, nested_flat_agree.1 _ hworded, nested_flat_agree.2 _ _ hrecased,
    ?_⟩
  decide +kernel

end Crosscheck.Configuration
