import Crosscheck.Proofs.Configuration.Flattening
import Crosscheck.Proofs.Configuration.Reads
/-!
# Tables that are named for no analyzer

Below `analyzers` a table may have any name. Its keys land on the first level with the name in front,
and there they are read like all others. So a table that is named for no analyzer says nothing only
if none of its keys lands on a key that is read (`Lands`): a name and a key can make up one of the
four settings of the run whose keys are two words, and a name can begin with that of an analyzer.

`outsider_inert_iff` says that this is all. A name and a key are joined by an underscore, and the
place of the first underscore tells where the one ends: the names of analyzers have none, and the
keys of the run have one at most.
-/

namespace Crosscheck.Configuration

open Crosscheck.Document Crosscheck.Files Crosscheck.Text

/-! ## Words joined by an underscore -/

section Joined

variable {u k a b : String}

/-- What stands before a mark is all that stands before another one of them, or goes past it. -/
theorem append_mark_cases {mark : Char} {left right front back : List Char} (hfront : mark ∉ front)
    (h : left ++ mark :: right = front ++ mark :: back) :
    (left = front ∧ right = back) ∨
      ∃ between, left = front ++ mark :: between ∧ back = between ++ mark :: right := by
  rcases List.append_eq_append_iff.mp h with ⟨mid, hleft, hright⟩ | ⟨mid, hleft, hright⟩
  · cases mid with
    | nil => exact .inl ⟨by simpa using hleft.symm, by simpa using hright⟩
    | cons c mid =>
      obtain ⟨rfl, -⟩ := List.cons.inj hright
      exact absurd (by rw [hleft]; simp) hfront
  · cases mid with
    | nil => exact .inl ⟨by simpa using hleft, by simpa using hright.symm⟩
    | cons c mid =>
      obtain ⟨rfl, hback⟩ := List.cons.inj hright
      exact .inr ⟨mid, hleft, hback⟩

theorem toList_joined (u k : String) : (u ++ "_" ++ k).toList = u.toList ++ '_' :: k.toList := by
  simp [String.toList_append]

/-- Two words without an underscore are told apart when they are joined. -/
theorem joined_eq_iff (ha : '_' ∉ a.toList) (hb : '_' ∉ b.toList) :
    u ++ "_" ++ k = a ++ "_" ++ b ↔ u = a ∧ k = b := by
  constructor
  · intro h
    have hlist := congrArg String.toList h
    rw [toList_joined, toList_joined] at hlist
    rcases append_mark_cases ha hlist with ⟨hu, hk⟩ | ⟨between, -, hback⟩
    · exact ⟨String.toList_inj.mp hu, String.toList_inj.mp hk⟩
    · exact absurd (by rw [hback]; simp) hb
  · rintro ⟨rfl, rfl⟩
    rfl

theorem joined_ne (ha : '_' ∉ a.toList) : u ++ "_" ++ k ≠ a := by
  rintro rfl
  exact ha (by simp)

end Joined

theorem underscore_not_mem_key (tool : Tool) : '_' ∉ tool.key.toList := by
  cases tool <;> decide

/-- Joined words begin with the name of an analyzer if the first of them does, or is that name. -/
theorem isNamed_joined_iff {tool : Tool} {u k : String} (hne : u ≠ tool.key) :
    isNamed tool (u ++ "_" ++ k) = true ↔ isNamed tool u = true := by
  have hname : (tool.key ++ "_").toList = tool.key.toList ++ ['_'] := by simp
  unfold isNamed
  rw [List.isPrefixOf_iff_prefix, List.isPrefixOf_iff_prefix, toList_joined, hname]
  constructor
  · rintro ⟨rest, hrest⟩
    rw [List.append_assoc, List.singleton_append] at hrest
    rcases append_mark_cases (underscore_not_mem_key tool) hrest.symm with
      ⟨hu, -⟩ | ⟨between, hu, -⟩
    · exact absurd (String.toList_inj.mp hu) hne
    · exact ⟨between, by rw [hu, List.append_assoc, List.singleton_append]⟩
  · exact fun h => h.trans (List.prefix_append _ _)

/-! ## Where keys land -/

/-- The settings of the run whose keys are two words. -/
def pairedKeys : List (String × String) :=
  [("SEED", "PATH"), ("RESULTS", "DIR"), ("CLEANUP", "MUTANTS"), ("MAX", "WORKERS")]

/-- Whether a key in a table of a name says something although the name is not that of an analyzer:
the two make up a setting of the run, or the name begins with that of an analyzer. -/
def Lands (name key : String) : Prop :=
  (upper name, upper (wordOf (.text key))) ∈ pairedKeys ∨ ∃ tool, isNamed tool (upper name) = true

instance (name key : String) : Decidable (Lands name key) :=
  decidable_of_iff ((upper name, upper (wordOf (.text key))) ∈ pairedKeys ∨
    ∃ tool ∈ Tool.all, isNamed tool (upper name) = true) (by simp [Lands, Tool.mem_all])

theorem upper_joined (name word : String) :
    upper (name ++ "_" ++ word) = upper name ++ "_" ++ upper word := by
  rw [upper_append, upper_append]
  rfl

/-- Two words make up a key of the run exactly if it is one of those of two words. -/
theorem joined_mem_runKeys_iff {u k : String} :
    u ++ "_" ++ k ∈ runKeys ↔ (u, k) ∈ pairedKeys := by
  have htwo (a b : String) (ha : '_' ∉ a.toList) (hb : '_' ∉ b.toList) :
      u ++ "_" ++ k = a ++ "_" ++ b ↔ (u, k) = (a, b) := by
    rw [joined_eq_iff ha hb, Prod.mk.injEq]
  have hone (a : String) (ha : '_' ∉ a.toList) : (u ++ "_" ++ k = a) ↔ False :=
    iff_false_intro (joined_ne ha)
  unfold runKeys pairedKeys
  simp only [List.mem_cons, List.not_mem_nil, or_false]
  rw [hone "MUTATION" (by decide), hone "DEBUG" (by decide), hone "TIMEOUT" (by decide),
    ← htwo "SEED" "PATH" (by decide) (by decide), ← htwo "RESULTS" "DIR" (by decide) (by decide),
    ← htwo "CLEANUP" "MUTANTS" (by decide) (by decide), ← htwo "MAX" "WORKERS" (by decide) (by decide)]
  simp only [false_or, or_false]
  exact Iff.rfl

/-- A key in a table that is named for no analyzer is read exactly if it lands on something. -/
theorem isRead_joined_iff {name key : String} (hname : ∀ tool : Tool, upper name ≠ tool.key) :
    isRead (.text (upper (name ++ "_" ++ wordOf (.text key)))) = true ↔ Lands name key := by
  unfold Lands
  rw [upper_joined, ← joined_mem_runKeys_iff]
  simp only [isRead, Bool.or_eq_true, List.contains_iff_mem, List.any_eq_true,
    isNamed_joined_iff (hname _), Tool.mem_all, true_and]

/-! ## What a configuration says -/

/-- An entry on one level. -/
def raised (entry : Value × Value) : Key × Value := (.text (upper entry.1.render), entry.2)

/-- The entries of a configuration on one level that are read, in their order. -/
def said (entries : List (Value × Value)) : List (Key × Value) :=
  ((flatForm entries).map raised).filter fun entry => isRead entry.1

theorem said_append (entries others : List (Value × Value)) :
    said (entries ++ others) = said entries ++ said others := by
  unfold said flatForm
  rw [List.flatMap_append, List.map_append, List.filter_append]

theorem addEntry_plain {entry : Value × Value} (htext : isText entry.1 = true)
    (hnone : tables? entry = none) (flat : Flat) :
    addEntry flat entry = .ok (flat.insert (raised entry).1 (raised entry).2) := by
  obtain ⟨key, value⟩ := entry
  obtain ⟨key, rfl⟩ := exists_text htext
  exact addEntry_of_tables?_none hnone flat

/-- The flat form has keys that are text and no tables of tables. -/
theorem plain_of_mem_flatForm {entries : List (Value × Value)} (h : Worded entries)
    {entry : Value × Value} (hentry : entry ∈ flatForm entries) :
    isText entry.1 = true ∧ tables? entry = none := by
  obtain ⟨source, hsource, hentry⟩ := List.mem_flatMap.mp hentry
  unfold flatEntry at hentry
  split at hentry
  · obtain ⟨⟨name, value⟩, -, hmember⟩ := List.mem_flatMap.mp hentry
    cases value with
    | map table =>
      obtain ⟨⟨key, value⟩, -, rfl⟩ := List.mem_map.mp hmember
      exact ⟨rfl, tables?_flatKey name key value⟩
    | _ => exact nomatch hmember
  · next hnone =>
    obtain rfl := List.mem_singleton.mp hentry
    exact ⟨(h entry hsource).key, hnone⟩

/-- Entries that are text, one after the other, make up a map. -/
theorem flatten_plain {entries : List (Value × Value)}
    (h : ∀ entry ∈ entries, isText entry.1 = true ∧ tables? entry = none) :
    flatten entries = .ok (.ofList (entries.map raised)) := by
  induction entries using List.reverseRecOn with
  | nil => rfl
  | append_singleton entries last ih =>
    obtain ⟨hinit, hlast⟩ := List.forall_mem_append.mp h
    obtain ⟨htext, hnone⟩ := hlast last (List.mem_singleton.mpr rfl)
    unfold flatten at ih ⊢
    rw [List.foldlM_append, ih hinit, List.map_append, List.map_singleton, OrderedMap.ofList_concat]
    show List.foldlM addEntry _ [last] = _
    rw [List.foldlM_cons, addEntry_plain htext hnone]
    rfl

/-- Settings depend on what the configuration says. -/
theorem ofEntries_eq {entries : List (Value × Value)} (h : Worded entries) :
    Settings.ofEntries entries = Settings.ofFlat (.ofList (said entries)) := by
  unfold Settings.ofEntries said
  rw [← flatten_flatForm h, flatten_plain fun _ => plain_of_mem_flatForm h,
    ← OrderedMap.filterKeys_ofList, ofFlat_filterKeys]
  rfl

/-! ## A table less -/

/-- A configuration with a table of some name and keys below `analyzers`, and the same without that
table. -/
inductive Removal (name : String) (keys : List String) :
    List (Value × Value) → List (Value × Value) → Prop
  | mk {title : String} {before after above below table : List (Value × Value)}
      (word : lower title = "analyzers") (keyed : table.map (·.1) = keys.map .text) :
      Removal name keys
        (before ++ (.text title, .map (above ++ (.text name, .map table) :: below)) :: after)
        (before ++ (.text title, .map (above ++ below)) :: after)

/-- What a configuration says is said around its tables and by these. -/
theorem said_around {title : String} (hword : lower title = "analyzers")
    (before after tables : List (Value × Value)) :
    said (before ++ (.text title, .map tables) :: after) =
      said before ++ (((tables.flatMap flatMember).map raised).filter (isRead ·.1) ++ said after) := by
  have hentry : said [(.text title, .map tables)] =
      ((tables.flatMap flatMember).map raised).filter (isRead ·.1) := by
    unfold said flatForm flatEntry
    rw [List.flatMap_singleton, tables?_of_word hword]
  rw [said_append, ← hentry, ← said_append [_] after, List.singleton_append]

/-- The entries for the keys of a table. -/
theorem map_raised_flatMember {name : String} {keys : List String} {table : List (Value × Value)}
    (hkeys : table.map (·.1) = keys.map .text) {entry : Key × Value}
    (h : entry ∈ (flatMember (.text name, .map table)).map raised) :
    ∃ key ∈ keys, entry.1 = .text (upper (name ++ "_" ++ wordOf (.text key))) := by
  unfold flatMember at h
  rw [List.map_map] at h
  obtain ⟨option, hoption, rfl⟩ := List.mem_map.mp h
  have hkey : option.1 ∈ keys.map Value.text := hkeys ▸ List.mem_map_of_mem hoption
  obtain ⟨key, hmem, heq⟩ := List.mem_map.mp hkey
  refine ⟨key, hmem, ?_⟩
  show Key.text (upper (name ++ "_" ++ wordOf option.1)) = _
  rw [heq]

/-- A table none of whose keys lands says nothing. -/
theorem said_of_removal {name : String} {keys : List String}
    (hname : ∀ tool : Tool, upper name ≠ tool.key) (hlands : ∀ key ∈ keys, ¬ Lands name key)
    {entries rest : List (Value × Value)} (h : Removal name keys entries rest) :
    said entries = said rest := by
  obtain @⟨title, before, after, above, below, table, hword, hkeys⟩ := h
  have hsilent : ((flatMember (.text name, .map table)).map raised).filter (isRead ·.1) = [] := by
    refine List.filter_eq_nil_iff.mpr fun entry hentry hread => ?_
    obtain ⟨key, hkey, heq⟩ := map_raised_flatMember hkeys hentry
    rw [heq, isRead_joined_iff hname] at hread
    exact hlands key hkey hread
  rw [said_around hword, said_around hword]
  simp only [List.flatMap_append, List.flatMap_cons, List.map_append, List.filter_append, hsilent,
    List.nil_append]

/-- A configuration with a table less still has keys that are text. -/
theorem Worded.of_removal {name : String} {keys : List String}
    {entries rest : List (Value × Value)} (hworded : Worded entries)
    (h : Removal name keys entries rest) : Worded rest := by
  obtain @⟨title, before, after, above, below, table, hword, -⟩ := h
  obtain ⟨hbefore, htitle, hafter⟩ : Worded before ∧ WordedEntry _ ∧ Worded after := by
    simpa only [Worded, List.forall_mem_append, List.forall_mem_cons] using hworded
  have htables := tables?_of_word hword
  have hfewer : above ++ below ⊆ above ++ (.text name, .map table) :: below := by
    simp
  refine List.forall_mem_append.mpr ⟨hbefore, List.forall_mem_cons.mpr ⟨⟨rfl, ?_, ?_⟩, hafter⟩⟩
  · intro members hmembers
    cases (htables _).symm.trans hmembers
    exact fun member hmember => htitle.names _ (htables _) member (hfewer hmember)
  · intro members hmembers member hmember
    cases (htables _).symm.trans hmembers
    exact htitle.words _ (htables _) member (hfewer hmember)

/-! ## A table that says something -/

/-- A configuration with one table, all of whose values are the word for no. -/
def denial (name : String) (keys : List String) : List (Value × Value) :=
  [(.text "analyzers", .map [(.text name, .map (keys.map fun key => (.text key, .text "no")))])]

/-- A configuration without a table. -/
def silence : List (Value × Value) := [(.text "analyzers", .map [])]

theorem lower_analyzers : lower "analyzers" = "analyzers" := by decide

theorem removal_denial (name : String) (keys : List String) :
    Removal name keys (denial name keys) silence := by
  have hkeyed : (keys.map fun key => (Value.text key, Value.text "no")).map (·.1) =
      keys.map .text := by
    rw [List.map_map]
    rfl
  exact @Removal.mk name keys "analyzers" [] [] [] [] _ lower_analyzers hkeyed

theorem worded_denial (name : String) (keys : List String) : Worded (denial name keys) := by
  have htables := tables?_of_word lower_analyzers
    [(.text name, .map (keys.map fun key => (.text key, .text "no")))]
  unfold Worded denial
  rw [List.forall_mem_singleton]
  refine ⟨rfl, ?_, ?_⟩
  · intro tables h
    cases htables.symm.trans h
    exact List.forall_mem_singleton.mpr rfl
  · intro tables h
    cases htables.symm.trans h
    refine List.forall_mem_singleton.mpr ?_
    rintro _ ⟨⟩
    intro entry hentry
    obtain ⟨key, -, rfl⟩ := List.mem_map.mp hentry
    rfl

theorem said_denial (name : String) (keys : List String) :
    said (denial name keys) =
      (keys.map fun key => (Key.text (upper (name ++ "_" ++ wordOf (.text key))),
        Value.text "no")).filter (isRead ·.1) := by
  have haround := said_around lower_analyzers [] []
    [(.text name, .map (keys.map fun key => (.text key, .text "no")))]
  have hempty : said [] = [] := rfl
  simp only [List.nil_append, hempty, List.append_nil, List.flatMap_singleton, flatMember,
    List.map_map] at haround
  exact haround

/-- All that a table of denials says is no. -/
theorem get?_said_denial {name key : String} {keys : List String}
    (hname : ∀ tool : Tool, upper name ≠ tool.key) (hkey : key ∈ keys) (hlands : Lands name key) :
    (OrderedMap.ofList (said (denial name keys))).get?
      (.text (upper (name ++ "_" ++ wordOf (.text key)))) = some (.text "no") := by
  have hentry : (Key.text (upper (name ++ "_" ++ wordOf (.text key))), Value.text "no") ∈
      said (denial name keys) := by
    rw [said_denial]
    exact List.mem_filter.mpr ⟨List.mem_map.mpr ⟨key, hkey, rfl⟩, (isRead_joined_iff hname).mpr hlands⟩
  have hmem : Key.text (upper (name ++ "_" ++ wordOf (.text key))) ∈
      (OrderedMap.ofList (said (denial name keys))).keys := by
    rw [OrderedMap.mem_keys_ofList]
    exact List.mem_map.mpr ⟨_, hentry, rfl⟩
  rw [OrderedMap.mem_keys_iff] at hmem
  obtain ⟨value, hvalue⟩ := Option.isSome_iff_exists.mp hmem
  have hsource := OrderedMap.mem_of_mem_ofList (OrderedMap.mem_of_get? hvalue)
  rw [said_denial] at hsource
  obtain ⟨_, -, heq⟩ := List.mem_map.mp (List.mem_filter.mp hsource).1
  rw [hvalue, (Prod.mk.inj heq).2]

section Values

variable {α : Type} {read : Value → Except Fault α} {flat : Flat} {key : String} {value : Value}

/-- A value that is read as something else than what stands in without it tells that it is there. -/
theorem valueOr_ne_empty {default : α} (h : flat.get? (.text key) = some value)
    (hne : read value ≠ .ok default) :
    valueOr read flat key default ≠ valueOr read .empty key default := by
  unfold valueOr
  rw [h]
  exact hne

/-- A number that is given is not missing. -/
theorem number?_ne_none (h : flat.get? (.text key) = some value) (hgiven : isBlankNumber value = false) :
    number? read flat key ≠ .ok none := by
  unfold number?
  rw [h]
  simp only [hgiven, Bool.false_eq_true, if_false]
  cases read value with
  | ok n => exact fun heq => nomatch Except.ok.inj heq
  | error fault => exact fun heq => nomatch heq

end Values

section Denied

variable {flat : Flat} {settings : Settings}

/-- Settings in which nothing is found are told from those in which a setting of the run whose key
is two words is no. -/
theorem not_found_of_paired {u k : String} (hpair : (u, k) ∈ pairedKeys)
    (hget : flat.get? (.text (u ++ "_" ++ k)) = some (.text "no")) (hempty : Found .empty settings) :
    ¬ Found flat settings := by
  intro hfound
  simp only [pairedKeys, List.mem_cons, List.not_mem_nil, or_false, Prod.mk.injEq] at hpair
  obtain ⟨rfl, rfl⟩ | ⟨rfl, rfl⟩ | ⟨rfl, rfl⟩ | ⟨rfl, rfl⟩ := hpair
  · have hkey : "SEED" ++ "_" ++ "PATH" = "SEED_PATH" := by decide
    rw [hkey] at hget
    exact valueOr_ne_empty hget (by decide) (hfound.seedPath.trans hempty.seedPath.symm)
  · have hkey : "RESULTS" ++ "_" ++ "DIR" = "RESULTS_DIR" := by decide
    rw [hkey] at hget
    exact valueOr_ne_empty hget (by decide)
      (hfound.resultsDirectory.trans hempty.resultsDirectory.symm)
  · have hkey : "CLEANUP" ++ "_" ++ "MUTANTS" = "CLEANUP_MUTANTS" := by decide
    rw [hkey] at hget
    exact valueOr_ne_empty hget (by decide) (hfound.cleanup.trans hempty.cleanup.symm)
  · have hkey : "MAX" ++ "_" ++ "WORKERS" = "MAX_WORKERS" := by decide
    rw [hkey] at hget
    exact number?_ne_none hget rfl (hfound.workers.trans hempty.workers.symm)

/-- Settings in which nothing is found are told from those in which a key is found that begins with
the name of an analyzer and goes on with two words. -/
theorem not_found_of_named {tool : Tool} {between word : String} {value : Value}
    (hget : flat.get? (.text (tool.key ++ "_" ++ (between ++ "_" ++ word))) = some value)
    (hempty : Found .empty settings) : ¬ Found flat settings := by
  intro hfound
  have hmutation : between ++ "_" ++ word ≠ "MUTATION" := joined_ne (by decide)
  have hpath : between ++ "_" ++ word ≠ "PATH" := joined_ne (by decide)
  have hoptions := options_of_analyzerOf hmutation hpath (OrderedMap.mem_of_get? hget)
    (hfound.analyzers tool)
  have hunset := Except.ok.inj (hempty.analyzers tool)
  rw [← hunset] at hoptions
  exact hoptions rfl

end Denied

/-- Nothing is found in a configuration without a table. -/
theorem exists_found_silence :
    ∃ settings, Settings.ofEntries silence = .ok settings ∧ Found .empty settings := by
  have hflatten : flatten silence = .ok .empty := rfl
  have hsilence : Settings.ofEntries silence = Settings.ofFlat .empty := by
    unfold Settings.ofEntries
    rw [hflatten]
    exact pure_bind OrderedMap.empty Settings.ofFlat
  obtain ⟨settings, hsettings⟩ : ∃ settings, Settings.ofFlat .empty = .ok settings := ⟨_, rfl⟩
  exact ⟨settings, hsilence.trans hsettings, found_of_ofFlat hsettings⟩

/-- A denial that lands shows in the settings. -/
theorem ofEntries_denial_ne {name key : String} {keys : List String}
    (hname : ∀ tool : Tool, upper name ≠ tool.key) (hkey : key ∈ keys) (hlands : Lands name key) :
    Settings.ofEntries silence ≠ Settings.ofEntries (denial name keys) := by
  intro heq
  obtain ⟨settings, hsilence, hempty⟩ := exists_found_silence
  have hfound : Found (.ofList (said (denial name keys))) settings := by
    rw [heq, ofEntries_eq (worded_denial name keys)] at hsilence
    exact found_of_ofFlat hsilence
  have hget := get?_said_denial hname hkey hlands
  rw [upper_joined] at hget
  rcases hlands with hpair | ⟨tool, htool⟩
  · exact not_found_of_paired hpair hget hempty hfound
  · obtain ⟨between, hbetween⟩ := List.isPrefixOf_iff_prefix.mp htool
    have hupper : upper name = tool.key ++ "_" ++ String.ofList between := by
      rw [← String.toList_inj, String.toList_append, String.toList_ofList, hbetween]
    have hsplit (word : String) : tool.key ++ "_" ++ String.ofList between ++ "_" ++ word =
        tool.key ++ "_" ++ (String.ofList between ++ "_" ++ word) := by
      simp only [String.append_assoc]
    rw [hupper, hsplit] at hget
    exact not_found_of_named hget hempty hfound

/-! ## What tables say at most -/

/-- Keys without an underscore are never those of tables. -/
theorem get?_said_around {title key : String} (hword : lower title = "analyzers")
    (hkey : '_' ∉ key.toList) (before after tables tables' : List (Value × Value)) :
    (OrderedMap.ofList (said (before ++ (.text title, .map tables) :: after))).get? (.text key) =
      (OrderedMap.ofList (said (before ++ (.text title, .map tables') :: after))).get?
        (.text key) := by
  have hnone (members : List (Value × Value)) :
      (((members.flatMap flatMember).map raised).filter (isRead ·.1)).filter
        (·.1 == Key.text key) = [] := by
    refine List.filter_eq_nil_iff.mpr fun entry hentry hsame => ?_
    obtain ⟨source, hsource, rfl⟩ := List.mem_map.mp (List.mem_filter.mp hentry).1
    obtain ⟨⟨name, value⟩, -, hmember⟩ := List.mem_flatMap.mp hsource
    cases value with
    | map table =>
      obtain ⟨option, -, rfl⟩ := List.mem_map.mp hmember
      have heq : upper (name.render ++ "_" ++ wordOf option.1) = key :=
        Key.text.inj (beq_iff_eq.mp hsame)
      rw [upper_joined] at heq
      exact joined_ne hkey heq
    | _ => exact nomatch hmember
  apply OrderedMap.get?_ofList_congr
  rw [said_around hword, said_around hword]
  simp only [List.filter_append, hnone]

/-! ## Which tables concern analyzers only -/

/-- A table that is named for no analyzer can be taken away from every configuration exactly if none
of its keys lands on a key that is read. Whether mutants are made, how long a process may take and
how much is logged does not depend on any table. -/
theorem outsider_inert_iff {name : String} {keys : List String}
    (hname : ∀ tool : Tool, upper name ≠ tool.key) :
    ((∀ entries rest, Worded entries → Removal name keys entries rest →
        Settings.ofEntries rest = Settings.ofEntries entries) ↔
      ∀ key ∈ keys, ¬ Lands name key) ∧
    ∀ (title : String) (before after tables tables' : List (Value × Value))
      (settings settings' : Settings), lower title = "analyzers" →
        Worded (before ++ (.text title, .map tables) :: after) →
        Worded (before ++ (.text title, .map tables') :: after) →
        Settings.ofEntries (before ++ (.text title, .map tables) :: after) = .ok settings →
        Settings.ofEntries (before ++ (.text title, .map tables') :: after) = .ok settings' →
          settings.mutation = settings'.mutation ∧ settings.timeout = settings'.timeout ∧
            settings.debug = settings'.debug := by
  constructor
  · constructor
    · intro hall key hkey hlands
      exact ofEntries_denial_ne hname hkey hlands
        (hall _ _ (worded_denial name keys) (removal_denial name keys))
    · intro hlands entries rest hworded hremoval
      rw [ofEntries_eq hworded, ofEntries_eq (hworded.of_removal hremoval),
        said_of_removal hname hlands hremoval]
  · intro title before after tables tables' settings settings' hword hworded hworded' h h'
    rw [ofEntries_eq hworded] at h
    rw [ofEntries_eq hworded'] at h'
    have hget (key : String) (hkey : '_' ∉ key.toList) :=
      get?_said_around hword hkey before after tables tables'
    have hfound := found_of_ofFlat h
    have hfound' := found_of_ofFlat h'
    have hmutation := hfound.mutation
    have htimeout := hfound.timeout
    have hdebug := hfound.debug
    rw [valueOr_congr (hget "MUTATION" (by decide)), hfound'.mutation] at hmutation
    rw [number?_congr (hget "TIMEOUT" (by decide)), hfound'.timeout] at htimeout
    rw [valueOr_congr (hget "DEBUG" (by decide)), hfound'.debug] at hdebug
    exact ⟨(Except.ok.inj hmutation).symm, (Except.ok.inj htimeout).symm,
      (Except.ok.inj hdebug).symm⟩

/-- A configuration with a table between those of two analyzers. -/
def fileAround (table : List (Value × Value)) : List (Value × Value) :=
  [(.text "timeout", .int 30),
    (.text "Analyzers", .map <|
      (.text "pmd", .map [(.text "Enabled", .bool true), (.text "ruleset", .text "own.xml")]) ::
        table ++ [(.text "Infer", .map [(.text "path", .text "/opt/infer")])]),
    (.text "debug", .bool true)]

/-- A table whose keys are those of an analyzer and of the run. -/
def lintTable : List (Value × Value) :=
  [(.text "enabled", .bool true), (.text "max_workers", .int 3), (.text "timeout", .int 1)]

theorem inert_lintTable :
    let keys := ["enabled", "max_workers", "timeout"]
    let entries := fileAround [(.text "lint", .map lintTable)]
    let others := fileAround [(.text "max", .map [(.text "workers", .int 3)])]
    (∀ tool : Tool, upper "lint" ≠ tool.key) ∧ (∀ key ∈ keys, ¬ Lands "lint" key) ∧
      Worded entries ∧ Removal "lint" keys entries (fileAround []) ∧
      Settings.ofEntries (fileAround []) = Settings.ofEntries entries ∧
      ∃ settings settings', Settings.ofEntries entries = .ok settings ∧
        Settings.ofEntries others = .ok settings' ∧ settings.workers ≠ settings'.workers ∧
        settings.mutation = settings'.mutation ∧ settings.timeout = settings'.timeout ∧
        settings.debug = settings'.debug := by
  intro keys entries others
  have hname : ∀ tool : Tool, upper "lint" ≠ tool.key := by
    intro tool
    cases tool <;> decide +kernel
  have hlands : ∀ key ∈ keys, ¬ Lands "lint" key := by decide +kernel
  have hworded : Worded entries := by decide +kernel
  have hword : lower "Analyzers" = "analyzers" := by decide +kernel
  have hremoval : Removal "lint" keys entries (fileAround []) :=
    @Removal.mk "lint" keys "Analyzers" [_] [_] [_] [_] lintTable hword rfl
  obtain ⟨hinert, houtside⟩ := @outsider_inert_iff "lint" keys hname
  refine ⟨hname, hlands, hworded, hremoval, hinert.mpr hlands entries _ hworded hremoval, ?_⟩
  have hheard : (Settings.ofEntries entries).toOption.map (·.workers) = some none ∧
      (Settings.ofEntries others).toOption.map (·.workers) = some (some 3) := by decide +kernel
  cases h : Settings.ofEntries entries with
  | error fault =>
    rw [h] at hheard
    exact nomatch hheard.1
  | ok settings =>
    cases h' : Settings.ofEntries others with
    | error fault =>
      rw [h'] at hheard
      exact nomatch hheard.2
    | ok settings' =>
      rw [h, h'] at hheard
      have hunset : settings.workers = none := Option.some.inj hheard.1
      have hset : settings'.workers = some 3 := Option.some.inj hheard.2
      have hworkers : settings.workers ≠ settings'.workers := by simp [hunset, hset]
      exact ⟨settings, settings', rfl, rfl, hworkers, houtside "Analyzers" [_] [_] _ _
        settings settings' hword hworded (by decide +kernel) h h'⟩

/-- A table that is no analyzer's sets how many processes run at once. -/
theorem max_table_heard :
    let entries := [(.text "analyzers", .map [(.text "max", .map [(.text "workers", .int 3)])])]
    (∀ tool : Tool, upper "max" ≠ tool.key) ∧ Worded entries ∧
      Removal "max" ["workers"] entries silence ∧
      (Settings.ofEntries entries).toOption.map (·.workers) = some (some 3) ∧
      (Settings.ofEntries silence).toOption.map (·.workers) = some none := by
  intro entries
  have hname : ∀ tool : Tool, upper "max" ≠ tool.key := by
    intro tool
    cases tool <;> decide +kernel
  exact ⟨hname, by decide +kernel,
    @Removal.mk "max" ["workers"] "analyzers" [] [] [] [] _ lower_analyzers rfl,
    by decide +kernel, by decide +kernel⟩

end Crosscheck.Configuration
