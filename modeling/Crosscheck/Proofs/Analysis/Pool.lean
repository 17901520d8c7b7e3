import Crosscheck.Analysis.Campaign
import Crosscheck.Proofs.Analysis.Fieldwork
import Crosscheck.Proofs.OrderedMap
import Mathlib.Data.List.Basic
import Mathlib.Data.List.Induction
import Mathlib.Data.List.Sort
/-!
# Results of a pool

A pool ends whatever its tasks do. Whatever the order in which tasks are taken up and results come
in, a task that is worked off and whose result comes in has one result. The results are sorted by
the places of their tasks (`pairwise_inTaskOrder`), and a task's place is the last where it stands
(`placeIn_spec`); so they stand in the order of the tasks if no task is there twice
(`Collected.map_task_inTaskOrder`).

`Pool.Turned` says what a turn does to the pool, and `Pool.Reaches` what a schedule does.
-/

namespace Crosscheck.Analysis

open Crosscheck.Files

namespace Pool

/-- What a turn does to a pool. -/
def Turned (tasks : List Task) (pool after : Pool) : Turn → Prop
  | .cancel => after = { pool with cancelled := true }
  | .finish number => after = { pool with
      running := pool.running.filter (·.1 != number)
      finished := pool.finished ++ pool.running.filter (·.1 == number) }
  | .work number =>
    (pool.open? tasks number = none ∧ after = pool) ∨
      ∃ result : Result, pool.open? tasks number = some result.task ∧
        after = { pool with running := pool.running ++ [(number, result)] }

/-- What a schedule does to a pool. -/
inductive Reaches (tasks : List Task) : Pool → List Turn → Pool → Prop
  | nil (pool : Pool) : Reaches tasks pool [] pool
  | cons {pool next after : Pool} {turn : Turn} {rest : List Turn} :
    Turned tasks pool next turn → Reaches tasks next rest after →
      Reaches tasks pool (turn :: rest) after

variable {tasks : List Task} {pool after : Pool} {schedule : List Turn} {number : Nat}

/-- A turn is taken in any world, and does to the pool what `Turned` says. -/
theorem exec_turn (adapter : Adapter) (tasks : List Task) (pool : Pool) (turn : Turn) (w : World) :
    ∃ after w', (pool.turn adapter tasks turn).exec w = (.ok after, w') ∧
      Turned tasks pool after turn := by
  cases turn with
  | cancel => exact ⟨_, _, rfl, rfl⟩
  | finish number => exact ⟨_, _, rfl, rfl⟩
  | work number =>
    cases htask : pool.open? tasks number with
    | none =>
      simp only [Pool.turn, htask]
      exact ⟨_, _, rfl, .inl ⟨htask, rfl⟩⟩
    | some task =>
      obtain ⟨result, w', hwork, rfl, -⟩ := exec_workOff adapter pool.cancelled task w
      simp only [Pool.turn, htask]
      rw [Action.exec_bind_of_ok hwork]
      exact ⟨_, w', rfl, .inr ⟨result, htask, rfl⟩⟩

/-- A schedule is followed to its end in any world. -/
theorem exec_follow (adapter : Adapter) (tasks : List Task) (schedule : List Turn) :
    ∀ (pool : Pool) (w : World),
      ∃ after w', (pool.follow adapter tasks schedule).exec w = (.ok after, w') ∧
        Reaches tasks pool schedule after := by
  induction schedule with
  | nil => exact fun pool w => ⟨pool, w, rfl, .nil pool⟩
  | cons turn rest ih =>
    intro pool w
    obtain ⟨next, w', hturn, hturned⟩ := exec_turn adapter tasks pool turn w
    obtain ⟨after, w'', hrest, hreaches⟩ := ih next w'
    refine ⟨after, w'', ?_, .cons hturned hreaches⟩
    unfold follow
    rw [Action.exec_bind_of_ok hturn, hrest]

theorem quiet_turn (adapter : Adapter) (turn : Turn) : (pool.turn adapter tasks turn).Quiet := by
  cases turn with
  | cancel => exact .pure _
  | finish number => exact .pure _
  | work number =>
    cases htask : pool.open? tasks number with
    | none => simp only [Pool.turn, htask]; exact .pure _
    | some task =>
      simp only [Pool.turn, htask]
      exact .bind (quiet_workOff adapter _ _) fun _ => .pure _

theorem quiet_follow (adapter : Adapter) (schedule : List Turn) :
    ∀ pool : Pool, (pool.follow adapter tasks schedule).Quiet := by
  induction schedule with
  | nil => exact fun pool => .pure pool
  | cons turn rest ih => exact fun pool => .bind (quiet_turn adapter turn) ih

/-! ## Tasks are taken up once -/

/-- Whether a task was taken up. -/
def Took (pool : Pool) (number : Nat) : Prop :=
  number ∈ (pool.running ++ pool.finished).map Prod.fst

theorem hasTaken_iff : pool.hasTaken number = true ↔ pool.Took number := by
  unfold hasTaken Took
  simp only [List.any_eq_true, List.mem_map, beq_iff_eq]

/-- A task can be taken up if it is there and was not taken up before. -/
theorem open?_eq_some_iff {task : Task} :
    pool.open? tasks number = some task ↔ ¬ pool.Took number ∧ tasks[number]? = some task := by
  rw [← hasTaken_iff]
  unfold open?
  split
  · next h => exact iff_of_false nofun fun hnew => hnew.1 h
  · next h => exact (and_iff_right h).symm

/-- A result that comes in moves from one list to the other. -/
theorem finish_perm (pool : Pool) (number : Nat) :
    (pool.running.filter (·.1 != number) ++
      (pool.finished ++ pool.running.filter (·.1 == number))).Perm
        (pool.running ++ pool.finished) := by
  have hsplit := List.filter_append_perm (fun entry : Nat × Result => entry.1 == number)
    pool.running
  refine List.Perm.trans ?_ (hsplit.append_right pool.finished)
  rw [← List.append_assoc]
  exact List.perm_append_comm.trans (List.append_assoc .. ▸ .refl _)

/-- No two results have one number. -/
theorem Turned.nodup {turn : Turn} (h : Turned tasks pool after turn)
    (hpool : ((pool.running ++ pool.finished).map Prod.fst).Nodup) :
    ((after.running ++ after.finished).map Prod.fst).Nodup := by
  cases turn with
  | cancel =>
    obtain rfl := h
    exact hpool
  | finish number =>
    obtain rfl := h
    exact ((pool.finish_perm number).map Prod.fst).nodup_iff.mpr hpool
  | work number =>
    rcases h with ⟨-, rfl⟩ | ⟨result, hopen, rfl⟩
    · exact hpool
    · have hperm : (pool.running ++ [(number, result)] ++ pool.finished).Perm
          ((number, result) :: (pool.running ++ pool.finished)) := by
        rw [List.append_assoc]
        exact List.perm_middle
      rw [(hperm.map Prod.fst).nodup_iff, List.map_cons, List.nodup_cons]
      exact ⟨(open?_eq_some_iff.mp hopen).1, hpool⟩

theorem Reaches.nodup (h : Reaches tasks pool schedule after)
    (hpool : ((pool.running ++ pool.finished).map Prod.fst).Nodup) :
    ((after.running ++ after.finished).map Prod.fst).Nodup := by
  induction h with
  | nil => exact hpool
  | cons hturn _ ih => exact ih (hturn.nodup hpool)

/-! ## Results belong to their tasks -/

/-- Every result is that of the task with its number. -/
def Matches (tasks : List Task) (pool : Pool) : Prop :=
  ∀ entry ∈ pool.running ++ pool.finished, tasks[entry.1]? = some entry.2.task

/-- A turn brings only the results of the tasks that it takes up. -/
theorem Turned.matches {turn : Turn} (h : Turned tasks pool after turn)
    (hpool : pool.Matches tasks) : after.Matches tasks := by
  intro entry hentry
  rw [List.mem_append] at hentry
  cases turn with
  | cancel =>
    obtain rfl := h
    exact hpool entry (List.mem_append.mpr hentry)
  | finish number =>
    obtain rfl := h
    refine hpool entry (List.mem_append.mpr ?_)
    rcases hentry with hrunning | hfinished
    · exact .inl ((List.mem_filter.mp hrunning).1)
    · rcases List.mem_append.mp hfinished with hold | hnew
      · exact .inr hold
      · exact .inl ((List.mem_filter.mp hnew).1)
  | work number =>
    rcases h with ⟨-, rfl⟩ | ⟨result, hopen, rfl⟩
    · exact hpool entry (List.mem_append.mpr hentry)
    · rcases hentry with hrunning | hfinished
      · rcases List.mem_append.mp hrunning with hold | hnew
        · exact hpool entry (List.mem_append_left _ hold)
        · rw [List.mem_singleton.mp hnew]
          exact (open?_eq_some_iff.mp hopen).2
      · exact hpool entry (List.mem_append_right _ hfinished)

theorem Reaches.matches (h : Reaches tasks pool schedule after) (hpool : pool.Matches tasks) :
    after.Matches tasks := by
  induction h with
  | nil => exact hpool
  | cons hturn _ ih => exact ih (hturn.matches hpool)

/-! ## Tasks get their results -/

/-- The tasks that were taken up after a turn are those before it, and the one that the turn is
about. -/
theorem Turned.took_iff {turn : Turn} (h : Turned tasks pool after turn) :
    after.Took number ↔ pool.Took number ∨ turn = .work number ∧ number < tasks.length := by
  cases turn with
  | cancel =>
    obtain rfl := h
    simp [Took]
  | finish other =>
    obtain rfl := h
    have hsame := ((pool.finish_perm other).map Prod.fst).mem_iff (a := number)
    simpa [Took] using hsame
  | work other =>
    rcases h with ⟨hclosed, rfl⟩ | ⟨result, hopen, rfl⟩
    · refine (or_iff_left_of_imp ?_).symm
      rintro ⟨hsame, hbound⟩
      obtain rfl := Turn.work.inj hsame
      by_contra hnew
      have hopen := open?_eq_some_iff.mpr ⟨hnew, List.getElem?_eq_getElem hbound⟩
      exact nomatch hclosed.symm.trans hopen
    · have hbound := (List.getElem?_eq_some_iff.mp (open?_eq_some_iff.mp hopen).2).1
      simp only [Took, List.map_append, List.map_singleton, List.mem_append, List.mem_singleton,
        Turn.work.injEq]
      constructor
      · rintro ((hrunning | rfl) | hfinished)
        · exact .inl (.inl hrunning)
        · exact .inr ⟨rfl, hbound⟩
        · exact .inl (.inr hfinished)
      · rintro ((hrunning | hfinished) | ⟨rfl, -⟩)
        · exact .inl (.inl hrunning)
        · exact .inr hfinished
        · exact .inl (.inr rfl)

/-- A task that a schedule takes up is taken up in the end. -/
theorem Reaches.took (h : Reaches tasks pool schedule after)
    (htook : pool.Took number ∨ Turn.work number ∈ schedule ∧ number < tasks.length) :
    after.Took number := by
  induction h with
  | nil => exact htook.elim id fun hwork => nomatch hwork.1
  | cons hturn _ ih =>
    refine ih ?_
    rw [hturn.took_iff]
    rcases htook with htook | ⟨hwork, hbound⟩
    · exact .inl (.inl htook)
    · rcases List.mem_cons.mp hwork with rfl | hlater
      · exact .inl (.inr ⟨rfl, hbound⟩)
      · exact .inr ⟨hlater, hbound⟩

/-- Whether the result of a task has come in. -/
def Has (pool : Pool) (number : Nat) : Prop := number ∈ pool.finished.map Prod.fst

/-- A result that has come in stays. -/
theorem Turned.has {turn : Turn} (h : Turned tasks pool after turn) (hhas : pool.Has number) :
    after.Has number := by
  cases turn with
  | cancel =>
    obtain rfl := h
    exact hhas
  | finish other =>
    obtain rfl := h
    unfold Has
    rw [List.map_append]
    exact List.mem_append_left _ hhas
  | work other =>
    rcases h with ⟨-, rfl⟩ | ⟨_, -, rfl⟩
    · exact hhas
    · exact hhas

/-- A result that comes in is there afterwards. -/
theorem Turned.finish_has (h : Turned tasks pool after (.finish number))
    (htook : pool.Took number) : after.Has number := by
  obtain rfl := h
  unfold Has
  rw [List.map_append, List.mem_append]
  rw [Took, List.map_append, List.mem_append] at htook
  refine htook.symm.imp_right fun hrunning => ?_
  obtain ⟨entry, hentry, rfl⟩ := List.mem_map.mp hrunning
  exact List.mem_map_of_mem (List.mem_filter.mpr ⟨hentry, beq_self_eq_true _⟩)

theorem Reaches.has (h : Reaches tasks pool schedule after) (hhas : pool.Has number) :
    after.Has number := by
  induction h with
  | nil => exact hhas
  | cons hturn _ ih => exact ih (hturn.has hhas)

/-- A task that was taken up has its result once that comes in. -/
theorem Reaches.has_of_took (h : Reaches tasks pool schedule after) (htook : pool.Took number)
    (hfinish : .finish number ∈ schedule) : after.Has number := by
  induction h with
  | nil => exact nomatch hfinish
  | cons hturn hrest ih =>
    rcases List.mem_cons.mp hfinish with rfl | hlater
    · exact hrest.has (hturn.finish_has htook)
    · exact ih (hturn.took_iff.mpr (.inl htook)) hlater

/-- A task that is worked off before its result comes in has a result. -/
theorem Reaches.has_of_sublist (h : Reaches tasks pool schedule after)
    (hnumber : number < tasks.length)
    (hschedule : [.work number, .finish number].Sublist schedule) : after.Has number := by
  induction h with
  | nil => exact nomatch hschedule
  | cons hturn hrest ih =>
    cases hschedule with
    | cons _ hlater => exact ih hlater
    | cons_cons _ hfinish =>
      exact hrest.has_of_took (hturn.took_iff.mpr (.inr ⟨rfl, hnumber⟩))
        (List.singleton_sublist.mp hfinish)

end Pool

/-! ## Items by their places -/

section ByPlace

variable {α β : Type} (place : α → Nat)

theorem sortBy_eq_insertionSort (items : List α) :
    sortBy place items = items.insertionSort fun a b => place a ≤ place b := by
  have hinsert (item : α) (items : List α) :
      insertBy place item items = items.orderedInsert (fun a b => place a ≤ place b) item := by
    induction items with
    | nil => rfl
    | cons other rest ih =>
      rw [insertBy, List.orderedInsert_cons, ih]
  induction items with
  | nil => rfl
  | cons item rest ih =>
    rw [List.insertionSort_cons, ← ih, ← hinsert]
    rfl

/-- Nothing is lost or doubled when items are sorted. -/
theorem perm_sortBy (items : List α) : (sortBy place items).Perm items := by
  rw [sortBy_eq_insertionSort]
  exact List.perm_insertionSort _ items

/-- Items that are sorted stand by their places. -/
theorem pairwise_sortBy (items : List α) :
    (sortBy place items).Pairwise fun a b => place a ≤ place b := by
  have : Std.Total fun a b : α => place a ≤ place b := ⟨fun a b => Nat.le_total _ _⟩
  have : IsTrans α fun a b => place a ≤ place b := ⟨fun _ _ _ => Nat.le_trans⟩
  rw [sortBy_eq_insertionSort]
  exact List.pairwise_insertionSort _ items

/-- Items with one place stay in their order. -/
theorem filter_sortBy (items : List α) (number : Nat) :
    (sortBy place items).filter (fun item => place item == number) =
      items.filter fun item => place item == number := by
  have hinsert (item : α) (items : List α) :
      (insertBy place item items).filter (fun item => place item == number) =
        (item :: items).filter fun item => place item == number := by
    induction items with
    | nil => rfl
    | cons other rest ih =>
      rw [insertBy]
      split
      · rfl
      · next hbehind =>
        -- The item goes behind one before it, and they do not have one place.
        have hapart : ¬ (place item = number ∧ place other = number) := by omega
        rw [List.filter_cons, ih]
        simp only [List.filter_cons, beq_iff_eq]
        split <;> split <;> first | rfl | exact absurd ⟨‹_›, ‹_›⟩ hapart
  induction items with
  | nil => rfl
  | cons item rest ih =>
    rw [sortBy, List.foldr_cons, hinsert, List.filter_cons, List.filter_cons]
    rw [sortBy] at ih
    rw [ih]

/-- What is made of items is sorted as they are. -/
theorem sortBy_map {place' : β → Nat} {f : β → α} {items : List β}
    (h : ∀ b ∈ items, place (f b) = place' b) :
    sortBy place (items.map f) = (sortBy place' items).map f := by
  rw [sortBy_eq_insertionSort, sortBy_eq_insertionSort]
  refine (List.map_insertionSort _ _ f items fun a ha b hb => ?_).symm
  rw [h a ha, h b hb]

end ByPlace

/-! ## Places of tasks -/

/-- The place of a task is the last one where it stands. -/
theorem placeIn_spec {tasks : List Task} {task : Task} (h : task ∈ tasks) :
    (∃ last, tasks[placeIn tasks task]? = some last ∧ last.identity = task.identity) ∧
      ∀ number other, tasks[number]? = some other → other.identity = task.identity →
        number ≤ placeIn tasks task := by
  induction tasks using List.reverseRecOn with
  | nil => exact nomatch h
  | append_singleton front last ih =>
    have hplaces : places (front ++ [last]) = (places front).insert last.identity front.length := by
      unfold places
      rw [List.zipIdx_append, List.map_append]
      simp only [List.zipIdx_singleton, List.map_singleton, Nat.zero_add]
      rw [OrderedMap.ofList_concat]
    have hbound (number : Nat) (other : Task) (hother : (front ++ [last])[number]? = some other) :
        number ≤ front.length := by
      have := (List.getElem?_eq_some_iff.mp hother).1
      rw [List.length_append, List.length_singleton] at this
      omega
    have hplace : placeIn (front ++ [last]) task =
        if last.identity = task.identity then front.length else placeIn front task := by
      unfold placeIn
      rw [hplaces, OrderedMap.get?_insert]
      split <;> simp_all
    rw [hplace]
    split
    · next hsame =>
      refine ⟨⟨last, by simp, hsame⟩, fun number other hother _ => hbound number other hother⟩
    · next hother =>
      have hfront : task ∈ front := by
        rcases List.mem_append.mp h with hfront | hlast
        · exact hfront
        · rw [List.mem_singleton.mp hlast] at hother
          exact absurd rfl hother
      obtain ⟨⟨found, hfound, hsame⟩, hlast⟩ := ih hfront
      have hin := (List.getElem?_eq_some_iff.mp hfound).1
      refine ⟨⟨found, by rwa [List.getElem?_append_left hin], hsame⟩,
        fun number other hgot heq => ?_⟩
      by_cases hnumber : number < front.length
      · rw [List.getElem?_append_left hnumber] at hgot
        exact hlast number other hgot heq
      · obtain rfl : number = front.length :=
          Nat.le_antisymm (hbound number other hgot) (Nat.le_of_not_lt hnumber)
        rw [List.getElem?_concat_length] at hgot
        rw [← Option.some.inj hgot] at heq
        exact absurd heq hother

/-- A task that stands in a list once has its number for its place. -/
theorem placeIn_eq {tasks : List Task} {number : Nat} {task : Task}
    (honce : (tasks.map Task.identity).Nodup) (h : tasks[number]? = some task) :
    placeIn tasks task = number := by
  obtain ⟨⟨last, hlast, hsame⟩, -⟩ := placeIn_spec (List.mem_of_getElem? h)
  have hnumber : number < (tasks.map Task.identity).length := by
    rw [List.length_map]
    exact (List.getElem?_eq_some_iff.mp h).1
  refine ((List.getElem?_inj hnumber honce).mp ?_).symm
  rw [List.getElem?_map, List.getElem?_map, h, hlast]
  exact congrArg some hsame.symm

/-! ## Results in the order of the tasks -/

/-- The results in order are the results that came in. -/
theorem perm_inTaskOrder (tasks : List Task) (results : List Result) :
    (inTaskOrder tasks results).Perm results :=
  perm_sortBy _ results

/-- The results stand by the places of their tasks. -/
theorem pairwise_inTaskOrder (tasks : List Task) (results : List Result) :
    (inTaskOrder tasks results).Pairwise fun result later =>
      placeIn tasks result.task ≤ placeIn tasks later.task :=
  pairwise_sortBy _ results

/-- Results for one place stand as they came in. -/
theorem filter_inTaskOrder (tasks : List Task) (results : List Result) (number : Nat) :
    (inTaskOrder tasks results).filter (fun result => placeIn tasks result.task == number) =
      results.filter fun result => placeIn tasks result.task == number :=
  filter_sortBy _ results number

-- A task that is there first and last has both its results at the end.
example (folder report : Path) :
    let task : Task := ⟨0, folder, report⟩
    let other : Task := ⟨1, folder, report⟩
    inTaskOrder [task, other, task]
        [⟨task, true, false⟩, ⟨other, true, false⟩, ⟨task, false, true⟩] =
      [⟨other, true, false⟩, ⟨task, true, false⟩, ⟨task, false, true⟩] := rfl

/-- Results by the numbers of their tasks. -/
def byNumber (collected : List (Nat × Result)) : List Result :=
  (sortBy Prod.fst collected).map Prod.snd

/-- Results are sorted together with their numbers. -/
theorem inTaskOrder_map_snd (tasks : List Task) (collected : List (Nat × Result)) :
    inTaskOrder tasks (collected.map Prod.snd) =
      (sortBy (fun entry => placeIn tasks entry.2.task) collected).map Prod.snd :=
  sortBy_map _ fun _ _ => rfl

/-- Results that have come in, one for each task of a list. -/
structure Collected (tasks : List Task) (collected : List (Nat × Result)) : Prop where
  task : ∀ entry ∈ collected, tasks[entry.1]? = some entry.2.task
  nodup : (collected.map Prod.fst).Nodup
  all : ∀ number < tasks.length, number ∈ collected.map Prod.fst

namespace Collected

variable {tasks : List Task} {collected : List (Nat × Result)} (h : Collected tasks collected)

include h

/-- The numbers of the results are those of the tasks. -/
theorem perm_range : (collected.map Prod.fst).Perm (List.range tasks.length) := by
  refine (List.perm_ext_iff_of_nodup h.nodup List.nodup_range).mpr fun number => ?_
  rw [List.mem_range]
  refine ⟨fun hmem => ?_, h.all number⟩
  obtain ⟨entry, hentry, rfl⟩ := List.mem_map.mp hmem
  exact (List.getElem?_eq_some_iff.mp (h.task entry hentry)).1

/-- If each result has its number for its place, the numbers are sorted. -/
theorem map_fst_sortBy {place : Nat × Result → Nat}
    (hplace : ∀ entry ∈ collected, place entry = entry.1) :
    (sortBy place collected).map Prod.fst = List.range tasks.length := by
  have hperm := perm_sortBy place collected
  refine ((hperm.map Prod.fst).trans h.perm_range).eq_of_pairwise (fun _ _ _ _ => Nat.le_antisymm)
    (List.pairwise_map.mpr ?_) List.pairwise_le_range
  refine (pairwise_sortBy place collected).imp_of_mem fun {a b} ha hb hle => ?_
  rwa [hplace a (hperm.mem_iff.mp ha), hplace b (hperm.mem_iff.mp hb)] at hle

/-- What holds of each result at its number holds of the results by their numbers. -/
theorem map_byNumber {α : Type} {f : Result → α} {items : List α}
    (hlength : items.length = tasks.length)
    (hitems : ∀ entry ∈ collected, items[entry.1]? = some (f entry.2)) :
    (byNumber collected).map f = items := by
  have hperm := perm_sortBy Prod.fst collected
  refine List.map_injective_iff.mpr (Option.some_injective α) ?_
  calc ((byNumber collected).map f).map some
      = ((sortBy Prod.fst collected).map Prod.fst).map (items[·]?) := by
        unfold byNumber
        rw [List.map_map, List.map_map, List.map_map]
        exact List.map_congr_left fun entry hentry =>
          (hitems entry (hperm.mem_iff.mp hentry)).symm
    _ = (List.range items.length).map (items[·]?) := by
        rw [h.map_fst_sortBy fun _ _ => rfl, hlength]
    _ = items.map some := List.ext_getElem (by simp) fun number _ _ => by simp

/-- Without a task that is there twice, the results stand by their numbers. -/
theorem inTaskOrder_eq_byNumber (honce : (tasks.map Task.identity).Nodup) :
    inTaskOrder tasks (collected.map Prod.snd) = byNumber collected :=
  sortBy_map _ fun entry hentry => placeIn_eq honce (h.task entry hentry)

/-- Without a task that is there twice, each result is that of the task in its place. -/
theorem map_task_inTaskOrder (honce : (tasks.map Task.identity).Nodup) :
    (inTaskOrder tasks (collected.map Prod.snd)).map (·.task) = tasks := by
  rw [h.inTaskOrder_eq_byNumber honce]
  exact h.map_byNumber rfl h.task

end Collected

/-- A schedule that works off each of so many tasks and then lets its result come in. -/
def Covers (tasks : Nat) (schedule : List Turn) : Prop :=
  ∀ number < tasks, [.work number, .finish number].Sublist schedule

theorem covers_inOrder (tasks : Nat) : Covers tasks (inOrder tasks) := by
  intro number hnumber
  obtain ⟨before, after, hrange⟩ := List.append_of_mem (List.mem_range.mpr hnumber)
  unfold inOrder
  rw [hrange, List.flatMap_append, List.flatMap_cons]
  exact (List.sublist_append_left _ _).trans (List.sublist_append_right _ _)

theorem cancel_not_mem_inOrder (tasks : Nat) : .cancel ∉ inOrder tasks := by
  simp [inOrder]

/-- Working off tasks gives results, whatever the tasks and the schedule do. -/
theorem exec_invokeAll (adapter : Adapter) (cancelled : Bool) (tasks : List Task)
    (schedule : List Turn) (w : World) :
    ∃ results w', (invokeAll adapter cancelled tasks schedule).exec w = (.ok results, w') ∧
      ((tasks.map Task.identity).Nodup → Covers tasks.length schedule →
        results.map (·.task) = tasks) := by
  obtain ⟨pool, w', hfollow, hreaches⟩ :=
    Pool.exec_follow adapter tasks schedule (Pool.start cancelled) w
  refine ⟨inTaskOrder tasks (pool.finished.map Prod.snd), w', ?_, fun honce hcovers => ?_⟩
  · unfold invokeAll
    rw [Action.exec_bind_of_ok hfollow]
    rfl
  · have hmatches := hreaches.matches fun _ hentry => nomatch hentry
    have hnodup := hreaches.nodup List.nodup_nil
    refine Collected.map_task_inTaskOrder ⟨?_, ?_, ?_⟩ honce
    · exact fun entry hentry => hmatches entry (List.mem_append_right _ hentry)
    · rw [List.map_append] at hnodup
      exact (List.nodup_append.mp hnodup).2.1
    · exact fun number hnumber => hreaches.has_of_sublist hnumber (hcovers number hnumber)

theorem quiet_invokeAll (adapter : Adapter) (cancelled : Bool) (tasks : List Task)
    (schedule : List Turn) : (invokeAll adapter cancelled tasks schedule).Quiet :=
  .bind (Pool.quiet_follow adapter schedule _) fun _ => .pure _

/-! ## Tasks of a campaign -/

namespace Campaign

variable (campaign : Campaign) (tool : Tool) (folders : List Path)

@[simp] theorem length_tasks : (campaign.tasks tool folders).length = folders.length :=
  List.length_mapIdx

/-- A task of a campaign is that of one of the folders. -/
theorem exists_of_mem_tasks {task : Task} (h : task ∈ campaign.tasks tool folders) :
    ∃ number, ∃ folder ∈ folders, ⟨number, folder, reportPath tool
      (campaign.settings.resultsDirectory.absolute.child tool.id) folder⟩ = task := by
  obtain ⟨number, hnumber, rfl⟩ := List.mem_mapIdx.mp h
  exact ⟨number, folders[number], List.getElem_mem hnumber, rfl⟩

/-- A campaign has one task for each folder, in the order of the folders. -/
theorem folders_tasks : (campaign.tasks tool folders).map (·.folder) = folders :=
  List.ext_getElem (by simp) fun number _ _ => by simp [tasks]

/-- No task of a campaign is there twice. -/
theorem nodup_identities : ((campaign.tasks tool folders).map Task.identity).Nodup := by
  have hrange : (campaign.tasks tool folders).map Task.identity = List.range folders.length :=
    List.ext_getElem (by simp) fun number _ _ => by simp [tasks]
  rw [hrange]
  exact List.nodup_range

end Campaign

end Crosscheck.Analysis
