import AsioBenchmark.Pool.Services
import Mathlib.Order.Bounds.Basic

/-!
# The ring of `posttask1`

One task goes round the threads of the pool.  It counts in two cells on the
heap, `thread_index` and `count`, which are handed over with the task, and the
task that counts to `post_count_` deletes them and stops the pool.
-/

namespace AsioBenchmark.Pool

open AsioBenchmark.Transition

namespace Ring

inductive Cell where
  | threadIndex
  | count
deriving DecidableEq

/-- The cells of the heap, until they are deleted. -/
structure Cells where
  threadIndex : Option UInt32
  count : Option UInt64
deriving DecidableEq

/-- The lambda of `post`: it captures `this` and the addresses of the cells. -/
inductive Task where
  | lambda
deriving DecidableEq

/-- How far the handler of a task has got. -/
inductive Body where
  /-- At `++(*count)`. -/
  | incrementing
  /-- At `++(*thread_index)`. -/
  | advancing
  /-- At the comparison of `*count` with `post_count_`. -/
  | testing
  /-- At `delete thread_index`. -/
  | deletingIndex
  /-- At `delete count`. -/
  | deletingCount
  /-- In `stop()`, at the assignment of `stop_time_`. -/
  | stopping
  /-- In the loop of `io_service_pool::stop()`. -/
  | resetting (index : Nat)
  /-- In `post`, at `*thread_index`. -/
  | reading
  /-- In `post`, with the index read. -/
  | posting (index : UInt32)
  /-- Behind the last statement of the body. -/
  | returning
deriving DecidableEq

variable (size : Nat) [NeZero size]

/-- What a deleted cell contains is undefined; it is taken as zero, and the
history says that the cell was gone. -/
def advance (postCount : UInt64) :
    Body → Cells → Cells × Option Body × Move size Task
  | .incrementing, cells =>
      ({ cells with count := cells.count.map (· + 1) }, some .advancing,
        .compute)
  | .advancing, cells =>
      ({ cells with threadIndex := cells.threadIndex.map (· + 1) },
        some .testing, .compute)
  | .testing, cells =>
      if cells.count.getD 0 = postCount then
        (cells, some .deletingIndex, .compute)
      else (cells, some .reading, .compute)
  | .deletingIndex, cells =>
      ({ cells with threadIndex := none }, some .deletingCount, .compute)
  | .deletingCount, cells =>
      ({ cells with count := none }, some .stopping, .compute)
  | .stopping, cells => (cells, some (.resetting 0), .compute)
  | .resetting index, cells =>
      if inside : index < size then
        (cells, some (.resetting (index + 1)), .resetWork ⟨index, inside⟩)
      else (cells, some .returning, .compute)
  | .reading, cells =>
      (cells, some (.posting (cells.threadIndex.getD 0)), .compute)
  | .posting index, cells =>
      (cells, some .returning, .post index.toNat .lambda)
  | .returning, cells => (cells, none, .compute)

def program (postCount : UInt64) : Program size Task Body Cells where
  entry _ := .incrementing
  advance := advance size postCount

/-- The pool when `start()` has posted the first task. -/
def started : State size Task Body Cells :=
  { services := Move.apply (fun _ => .working) (.post 0 .lambda)
    shared :=
      { threadIndex := some 0
        count := some 0 } }

/-- What an observer sees: a thread begins with a task, a cell is accessed or
deleted while it exists or not, `stop()` is called, a task is posted. -/
inductive Event where
  | executed (thread : Nat)
  | accessed (cell : Cell) (live : Bool)
  | deleted (cell : Cell) (live : Bool)
  | stopped
  | posted (thread : Nat)
deriving DecidableEq

def observe (state : State size Task Body Cells) (thread : Fin size)
    (_next : State size Task Body Cells) : List Event :=
  match (state.services thread).running with
  | none => [.executed thread]
  | some .incrementing => [.accessed .count state.shared.count.isSome]
  | some .advancing =>
      [.accessed .threadIndex state.shared.threadIndex.isSome]
  | some .testing => [.accessed .count state.shared.count.isSome]
  | some .deletingIndex =>
      [.deleted .threadIndex state.shared.threadIndex.isSome]
  | some .deletingCount => [.deleted .count state.shared.count.isSome]
  | some .stopping => [.stopped]
  | some (.resetting _) => []
  | some .reading =>
      [.accessed .threadIndex state.shared.threadIndex.isSome]
  | some (.posting index) => [.posted (getIoService size index.toNat)]
  | some .returning => []

/-- The tasks in the hands of one service: those in its queue, and the one
whose body it executes. -/
def tasks (service : Service Task Body) : Nat :=
  service.queue.length +
    if service.running = none ∨ service.running = some .returning then 0
    else 1

/-- The threads that executed a task, in order. -/
def executedOn (events : List Event) : List Nat :=
  events.filterMap fun
    | .executed thread => some thread
    | _ => none

/-- The threads that a task was posted to, in order. -/
def postedTo (events : List Event) : List Nat :=
  events.filterMap fun
    | .posted thread => some thread
    | _ => none

/-- The cell that is accessed or deleted exists. -/
def Event.isLive : Event → Bool
  | .accessed _ live => live
  | .deleted _ live => live
  | _ => true

/-- A cell is accessed or deleted. -/
def Event.touches : Event → Bool
  | .accessed _ _ => true
  | .deleted _ _ => true
  | _ => false

/-- Neither a cell is deleted nor `stop()` called. -/
def Event.isOrdinary : Event → Bool
  | .deleted _ _ => false
  | .stopped => false
  | _ => true

abbrev system (postCount : UInt64) :
    System (State size Task Body Cells) (Fin size) :=
  (program size postCount).system (started size)

abbrev recorded (postCount : UInt64) :
    System (State size Task Body Cells × List Event) (Fin size) :=
  (system size postCount).recording (observe size)

/-! ## The one task -/

/-- The number of tasks it takes until the counter, which starts at zero,
equals `post_count_` after an increment. -/
def target (postCount : UInt64) : Nat :=
  if postCount = 0 then 18446744073709551616 else postCount.toNat

/-- The thread of a task: the index has wrapped. -/
def seat (executed : Nat) : Fin size :=
  getIoService size (executed % 4294967296)

/-- Where the task is: in a queue, in a body, or at its end after `stop()`. -/
inductive Place where
  | queued
  | within (body : Body)
  | ended
deriving DecidableEq

namespace Place

/-- The contents of the cells, when so many tasks have been executed before. -/
def cells (executed : Nat) : Place → Cells
  | .queued => ⟨some (.ofNat executed), some (.ofNat executed)⟩
  | .within .incrementing => ⟨some (.ofNat executed), some (.ofNat executed)⟩
  | .within .advancing =>
      ⟨some (.ofNat executed), some (.ofNat (executed + 1))⟩
  | .within .deletingCount => ⟨none, some (.ofNat (executed + 1))⟩
  | .within .stopping => ⟨none, none⟩
  | .within (.resetting _) => ⟨none, none⟩
  | .ended => ⟨none, none⟩
  | .within _ =>
      ⟨some (.ofNat (executed + 1)), some (.ofNat (executed + 1))⟩

/-- The number of work objects that have been reset. -/
def resets (size : Nat) : Place → Nat
  | .within (.resetting index) => index
  | .ended => size
  | _ => 0

/-- The places that the task can be in, by the number of tasks executed
before. -/
def Possible (size executed target : Nat) : Place → Prop
  | .queued => executed < target
  | .within .incrementing => executed < target
  | .within .advancing => executed < target
  | .within .testing => executed < target
  | .within .reading => executed + 1 < target
  | .within (.posting index) =>
      executed + 1 < target ∧ index = .ofNat (executed + 1)
  | .within (.resetting index) => executed + 1 = target ∧ index ≤ size
  | .within .returning => False
  | .within _ => executed + 1 = target
  | .ended => executed + 1 = target

/-- What the current task has done. -/
def history (size : Nat) [NeZero size] (executed : Nat) :
    Place → List Event
  | .queued => []
  | .within .incrementing => [.executed (seat size executed)]
  | .within .advancing =>
      [.executed (seat size executed), .accessed .count true]
  | .within .testing =>
      [.executed (seat size executed), .accessed .count true,
        .accessed .threadIndex true]
  | .within (.posting _) =>
      [.executed (seat size executed), .accessed .count true,
        .accessed .threadIndex true, .accessed .count true,
        .accessed .threadIndex true]
  | .within .deletingCount =>
      [.executed (seat size executed), .accessed .count true,
        .accessed .threadIndex true, .accessed .count true,
        .deleted .threadIndex true]
  | .within .stopping =>
      [.executed (seat size executed), .accessed .count true,
        .accessed .threadIndex true, .accessed .count true,
        .deleted .threadIndex true, .deleted .count true]
  | .within (.resetting _) =>
      [.executed (seat size executed), .accessed .count true,
        .accessed .threadIndex true, .accessed .count true,
        .deleted .threadIndex true, .deleted .count true, .stopped]
  | .ended =>
      [.executed (seat size executed), .accessed .count true,
        .accessed .threadIndex true, .accessed .count true,
        .deleted .threadIndex true, .deleted .count true, .stopped]
  | .within _ =>
      [.executed (seat size executed), .accessed .count true,
        .accessed .threadIndex true, .accessed .count true]

end Place

/-- What the tasks have done that posted a next one. -/
def rounds : Nat → List Event
  | 0 => []
  | executed + 1 =>
      rounds executed ++
        Place.history size executed (.within (.posting 0)) ++
        [.posted (seat size (executed + 1))]

/-- How far the task still is from its end, within its round. -/
def Place.weight (size : Nat) : Place → Nat
  | .queued => size + 11
  | .within .incrementing => size + 10
  | .within .advancing => size + 9
  | .within .testing => size + 8
  | .within .deletingIndex => size + 7
  | .within .deletingCount => size + 6
  | .within .stopping => size + 5
  | .within (.resetting index) => size - index + 3
  | .within .reading => 2
  | .within (.posting _) => 1
  | .within .returning => 0
  | .ended => 0

/-- How far the task still is from its end. -/
def distance (postCount : UInt64) (executed : Nat) (place : Place) : Nat :=
  (target postCount - executed) * (size + 12) + place.weight size

/-- Handlers that still have to return. -/
def unreturned (running : Option Body) : Nat :=
  if running = some .returning then 1 else 0

def rank (postCount : UInt64) (executed : Nat) (place : Place)
    (services : Fin size → Service Task Body) : Nat :=
  2 * distance size postCount executed place +
    total (Service.weigh (fun _ => 0) unreturned) services

/-- The invariant: the task is in one place, nothing is anywhere else but
handlers behind their last statement, and the history is that of the tasks
executed so far. -/
structure Carried (postCount : UInt64) (executed : Nat) (place : Place)
    (state : State size Task Body Cells) (events : List Event) : Prop where
  possible : place.Possible size executed (target postCount)
  cells : state.shared = place.cells executed
  work : ∀ index, (state.services index).work =
    decide (place.resets size ≤ index)
  queue : ∀ index, (state.services index).queue =
    if index = seat size executed ∧ place = .queued then [.lambda] else []
  running : ∀ index body, (state.services index).running = some body →
    body = .returning ∨ index = seat size executed ∧ place = .within body
  within : ∀ body, place = .within body →
    (state.services (seat size executed)).running = some body
  events : events = rounds size executed ++ place.history size executed

section Steps

variable {size} {postCount : UInt64} {executed : Nat}
  {state : State size Task Body Cells} {events : List Event}

theorem target_pos : 1 ≤ target postCount := by
  unfold target
  split
  · decide
  · rename_i positive
    have nonzero : postCount.toNat ≠ 0 := fun zero =>
      positive (UInt64.toNat_inj.mp zero)
    omega

theorem target_mod :
    target postCount % 18446744073709551616 = postCount.toNat := by
  unfold target
  split
  · rename_i zero
    rw [zero]
    rfl
  · exact Nat.mod_eq_of_lt postCount.toNat_lt

theorem target_le : target postCount ≤ 18446744073709551616 := by
  unfold target
  split
  · exact Nat.le_refl _
  · exact Nat.le_of_lt postCount.toNat_lt

/-- The comparison holds for the first time at the target. -/
theorem count_eq_iff (below : executed < target postCount) :
    UInt64.ofNat (executed + 1) = postCount ↔
      executed + 1 = target postCount := by
  have value : target postCount % 18446744073709551616 = postCount.toNat :=
    target_mod
  have bound : target postCount ≤ 18446744073709551616 := target_le
  rw [← UInt64.toNat_inj, UInt64.toNat_ofNat']
  constructor
  · intro same
    unfold target at *
    split at below
    · rename_i zero
      rw [zero] at same
      rw [if_pos zero] at *
      change _ % 18446744073709551616 = 0 at same
      omega
    · rename_i positive
      rw [if_neg positive] at *
      have small := postCount.toNat_lt
      rw [Nat.mod_eq_of_lt (by omega)] at same
      exact same
  · intro same
    rw [same]
    exact value

omit [NeZero size] in
theorem Place.Possible.below {place : Place} {bound : Nat}
    (possible : place.Possible size executed bound) : executed < bound := by
  cases place with
  | queued => exact possible
  | ended => exact Nat.lt_of_succ_le (Nat.le_of_eq possible)
  | within body =>
      cases body with
      | incrementing => exact possible
      | advancing => exact possible
      | testing => exact possible
      | returning => exact possible.elim
      | reading => exact Nat.lt_of_succ_lt possible
      | posting index => exact Nat.lt_of_succ_lt possible.1
      | resetting index =>
          exact Nat.lt_of_succ_le (Nat.le_of_eq possible.1)
      | _ => exact Nat.lt_of_succ_le (Nat.le_of_eq possible)

/-- Elsewhere only handlers behind their last statement run. -/
theorem Carried.elsewhere {place : Place} {index : Fin size} {body : Body}
    (carried : Carried size postCount executed place state events)
    (different : index ≠ seat size executed)
    (runs : (state.services index).running = some body) :
    body = .returning := by
  rcases carried.running index body runs with returned | ⟨same, _⟩
  · exact returned
  · exact absurd same different

theorem Carried.stays {body following : Body} {move : Move size Task}
    {shared : Cells} {new : List Event}
    (carried : Carried size postCount executed (.within body) state events)
    (possible : (Place.within following).Possible size executed
      (target postCount))
    (cells : shared = (Place.within following).cells executed)
    (history : (Place.within following).history size executed =
      (Place.within body).history size executed ++ new)
    (posted : ∀ index, move.postedTo index = [])
    (resets : ∀ index : Fin size,
      (decide ((Place.within body).resets size ≤ index) &&
        !move.resets index) =
      decide ((Place.within following).resets size ≤ index)) :
    Carried size postCount executed (.within following)
      { services := move.apply (Function.update state.services
          (seat size executed)
          ((state.services (seat size executed)).proceed (some following)))
        shared := shared }
      (events ++ new) where
  possible := possible
  cells := cells
  work index := by
    rw [work_proceed, carried.work]
    exact resets index
  queue index := by
    rw [queue_proceed, carried.queue, posted]
    simp
  running index other runs := by
    rw [running_proceed] at runs
    split at runs
    · rename_i same
      cases runs
      exact .inr ⟨same, rfl⟩
    · rename_i different
      exact .inl (carried.elsewhere different runs)
  within other same := by
    cases same
    rw [running_proceed, if_pos rfl]
  events := by rw [carried.events, history, List.append_assoc]

/-- The handler begins on the thread in whose queue the task is. -/
theorem Carried.begins
    (carried : Carried size postCount executed .queued state events) :
    Carried size postCount executed (.within .incrementing)
      { state with
        services := Function.update state.services (seat size executed)
          ((state.services (seat size executed)).poll .incrementing []) }
      (events ++ [.executed (seat size executed)]) where
  possible := carried.possible
  cells := carried.cells
  work index := by
    rw [work_begin]
    exact carried.work index
  queue index := by
    rw [queue_begin, carried.queue]
    by_cases same : index = seat size executed
    · simp [same]
    · simp [same]
  running index other runs := by
    rw [running_begin] at runs
    split at runs
    · rename_i same
      cases runs
      exact .inr ⟨same, rfl⟩
    · rename_i different
      exact .inl (carried.elsewhere different runs)
  within other same := by
    cases same
    rw [running_begin, if_pos rfl]
  events := by
    rw [carried.events]
    change rounds size executed ++ [] ++ _ = _
    rw [List.append_nil]
    rfl

/-- The next task is in the queue of its thread. -/
theorem Carried.posts {index : UInt32}
    (carried : Carried size postCount executed (.within (.posting index))
      state events) :
    Carried size postCount (executed + 1) .queued
      { services := Move.apply (Function.update state.services
          (seat size executed)
          ((state.services (seat size executed)).proceed (some .returning)))
          (.post index.toNat .lambda)
        shared := state.shared }
      (events ++ [.posted (getIoService size index.toNat)]) := by
  obtain ⟨below, value⟩ := carried.possible
  have next : getIoService size index.toNat = seat size (executed + 1) := by
    rw [value, UInt32.toNat_ofNat']
    rfl
  refine ⟨below, carried.cells, ?_, ?_, ?_, by simp, ?_⟩
  · intro other
    rw [work_proceed, carried.work]
    simp [Move.resets, Place.resets]
  · intro other
    rw [queue_proceed, carried.queue]
    simp [Move.postedTo, next]
  · intro other body runs
    rw [running_proceed] at runs
    split at runs
    · cases runs
      exact .inl rfl
    · rename_i different
      exact .inl (carried.elsewhere different runs)
  · rw [carried.events, next]
    exact (List.append_nil _).symm

theorem Carried.resets {index : Nat}
    (carried : Carried size postCount executed (.within (.resetting index))
      state events) (more : index < size) :
    Carried size postCount executed (.within (.resetting (index + 1)))
      { services := Move.apply (Function.update state.services
          (seat size executed)
          ((state.services (seat size executed)).proceed
            (some (.resetting (index + 1)))))
          (.resetWork ⟨index, more⟩)
        shared := state.shared }
      events := by
  obtain ⟨last, _⟩ := carried.possible
  rw [← List.append_nil events]
  refine carried.stays ⟨last, more⟩ carried.cells ?_ (fun _ => rfl)
    fun other => ?_
  · exact (List.append_nil _).symm
  · rw [Bool.eq_iff_iff]
    simp only [Move.resets, Bool.and_eq_true, decide_eq_true_eq,
      Bool.not_eq_true', decide_eq_false_iff_not, Fin.ext_iff]
    change (index ≤ other.val ∧ ¬other.val = index) ↔
      index + 1 ≤ other.val
    omega

theorem Carried.ends
    (carried : Carried size postCount executed (.within (.resetting size))
      state events) :
    Carried size postCount executed .ended
      { services := Move.apply (Function.update state.services
          (seat size executed)
          ((state.services (seat size executed)).proceed (some .returning)))
          .compute
        shared := state.shared }
      events := by
  refine ⟨carried.possible.1, carried.cells, ?_, ?_, ?_, by simp,
    carried.events⟩
  · intro other
    rw [work_proceed, carried.work]
    simp only [Move.resets, Bool.not_false, Bool.and_true]
    rfl
  · intro other
    rw [queue_proceed, carried.queue]
    simp [Move.postedTo]
  · intro other body runs
    rw [running_proceed] at runs
    split at runs
    · cases runs
      exact .inl rfl
    · rename_i different
      exact .inl (carried.elsewhere different runs)

/-- A handler behind its last statement returns; the task is elsewhere. -/
theorem Carried.returns {place : Place} {thread : Fin size}
    (carried : Carried size postCount executed place state events)
    (runs : (state.services thread).running = some .returning) :
    Carried size postCount executed place
      { services := Move.apply (Function.update state.services thread
          ((state.services thread).proceed none)) .compute
        shared := state.shared }
      events := by
  refine ⟨carried.possible, carried.cells, ?_, ?_, ?_, ?_, carried.events⟩
  · intro other
    rw [work_proceed, carried.work]
    simp [Move.resets]
  · intro other
    rw [queue_proceed, carried.queue]
    simp [Move.postedTo]
  · intro other body busy
    rw [running_proceed] at busy
    split at busy
    · cases busy
    · exact carried.running other body busy
  · intro body same
    rw [running_proceed]
    have holds := carried.within body same
    split
    · rename_i elsewhere
      rw [elsewhere, runs] at holds
      cases holds
      have possible := carried.possible
      rw [same] at possible
      exact possible.elim
    · exact holds

omit [NeZero size] in
theorem distance_lt {place later : Place}
    (nearer : later.weight size < place.weight size) :
    distance size postCount executed later <
      distance size postCount executed place :=
  Nat.add_lt_add_left nearer _

omit [NeZero size] in
theorem distance_posts (below : executed + 1 < target postCount)
    (index : UInt32) :
    distance size postCount (executed + 1) .queued <
      distance size postCount executed (.within (.posting index)) := by
  obtain ⟨room, more⟩ : ∃ room, target postCount - executed = room + 1 :=
    ⟨target postCount - executed - 1, by omega⟩
  have fewer : target postCount - (executed + 1) = room := by omega
  have split := Nat.add_one_mul room (size + 12)
  simp only [distance, Place.weight, fewer, more]
  omega

/-- A statement that neither posts nor resets goes on to the next one. -/
theorem Carried.computes {body following : Body} {shared : Cells}
    {new : List Event}
    (carried : Carried size postCount executed (.within body) state events)
    (possible : (Place.within following).Possible size executed
      (target postCount))
    (cells : shared = (Place.within following).cells executed)
    (history : (Place.within following).history size executed =
      (Place.within body).history size executed ++ new)
    (resets : (Place.within body).resets size =
      (Place.within following).resets size)
    (nearer : (Place.within following).weight size <
      (Place.within body).weight size) :
    ∃ count later,
      Carried size postCount count later
        { services := Move.apply (Function.update state.services
            (seat size executed)
            ((state.services (seat size executed)).proceed
              (some following))) .compute
          shared := shared }
        (events ++ new) ∧
      distance size postCount count later <
        distance size postCount executed (.within body) := by
  refine ⟨executed, .within following, ?_, distance_lt nearer⟩
  refine carried.stays possible cells history (fun _ => rfl) fun index => ?_
  rw [resets]
  simp [Move.resets]

theorem Carried.advances {body : Body} {shared : Cells}
    {following : Option Body} {move : Move size Task}
    (carried : Carried size postCount executed (.within body) state events)
    (advances : advance size postCount body state.shared =
      (shared, following, move)) :
    ∃ count later,
      Carried size postCount count later
        { services := move.apply (Function.update state.services
            (seat size executed)
            ((state.services (seat size executed)).proceed following))
          shared := shared }
        (events ++ observe size state (seat size executed) state) ∧
      distance size postCount count later <
        distance size postCount executed (.within body) := by
  have possible := carried.possible
  have cells := carried.cells
  have runs := carried.within body rfl
  rw [observe, runs]
  cases body with
  | incrementing =>
      cases advances
      rw [cells]
      exact carried.computes possible (by simp [Place.cells]) rfl rfl
        (by simp [Place.weight])
  | advancing =>
      cases advances
      rw [cells]
      exact carried.computes possible (by simp [Place.cells]) rfl rfl
        (by simp [Place.weight])
  | testing =>
      have counts := count_eq_iff possible
      simp only [advance, cells, Place.cells, Option.getD_some] at advances
      rw [cells]
      split at advances
      · rename_i reached
        cases advances
        exact carried.computes (counts.mp reached) rfl rfl rfl
          (by simp [Place.weight])
      · rename_i different
        cases advances
        have below : executed < target postCount := possible
        have missed : executed + 1 ≠ target postCount :=
          fun same => different (counts.mpr same)
        have further : executed + 1 < target postCount := by omega
        exact carried.computes further rfl rfl rfl (by simp [Place.weight])
  | deletingIndex =>
      cases advances
      rw [cells]
      exact carried.computes possible rfl rfl rfl (by simp [Place.weight])
  | deletingCount =>
      cases advances
      rw [cells]
      exact carried.computes possible rfl rfl rfl (by simp [Place.weight])
  | stopping =>
      cases advances
      rw [cells]
      exact carried.computes ⟨possible, Nat.zero_le size⟩ rfl rfl rfl
        (by simp [Place.weight])
  | resetting index =>
      obtain ⟨last, inside⟩ := possible
      rw [List.append_nil]
      by_cases more : index < size
      · rw [advance, dif_pos more] at advances
        cases advances
        refine ⟨executed, .within (.resetting (index + 1)), ?_,
          distance_lt ?_⟩
        · exact carried.resets more
        · simp only [Place.weight]
          omega
      · have whole : index = size := by omega
        subst whole
        rw [advance, dif_neg more] at advances
        cases advances
        exact ⟨executed, .ended, carried.ends, distance_lt (by
          simp [Place.weight])⟩
  | reading =>
      cases advances
      rw [cells]
      exact carried.computes ⟨possible, rfl⟩ rfl rfl rfl
        (by simp [Place.weight])
  | posting index =>
      cases advances
      exact ⟨executed + 1, .queued, carried.posts,
        distance_posts possible.1 index⟩
  | returning => exact possible.elim

/-- The task goes on, or a handler that has nothing to do with
it any more returns. -/
theorem Carried.step {place : Place} {thread : Fin size}
    {next : State size Task Body Cells}
    (carried : Carried size postCount executed place state events)
    (taken : Step (program size postCount) state thread next) :
    ∃ following later,
      Carried size postCount following later next
        (events ++ observe size state thread next) ∧
      rank size postCount following later next.services <
        rank size postCount executed place state.services := by
  cases taken with
  | @poll task rest stays idle queued =>
      have queue := carried.queue thread
      rw [queued] at queue
      split at queue
      · rename_i here
        obtain ⟨same, isQueued⟩ := here
        subst same isQueued
        cases queue
        refine ⟨executed, .within .incrementing, ?_, ?_⟩
        · rw [observe, idle]
          exact carried.begins
        · have nearer : distance size postCount executed
              (.within .incrementing) <
              distance size postCount executed .queued :=
            distance_lt (by simp [Place.weight])
          have returning := total_weigh_begin (fun _ => 0) unreturned
            .incrementing queued idle
          have none : unreturned none = 0 := rfl
          have begun : unreturned (some .incrementing) = 0 := rfl
          simp only [rank, program] at returning ⊢
          omega
      · cases queue
  | @proceed body shared following move stays runs advances =>
      have returning := total_weigh_proceed (fun _ => 0) unreturned
        state.services thread move following
      have posted : move.weigh (fun _ => 0) = 0 := by
        cases move <;> rfl
      rcases carried.running thread body runs with behind | ⟨same, within⟩
      · subst behind
        cases advances
        refine ⟨executed, place, ?_, ?_⟩
        · rw [observe, runs, List.append_nil]
          exact carried.returns runs
        · rw [runs] at returning
          have before : unreturned (some .returning) = 1 := rfl
          have after : unreturned none = 0 := rfl
          simp only [rank]
          omega
      · subst same within
        obtain ⟨count, later, moved, nearer⟩ := carried.advances advances
        refine ⟨count, later, moved, ?_⟩
        have more : unreturned following ≤ 1 := by
          unfold unreturned
          split <;> omega
        simp only [rank]
        omega

end Steps

end Ring

end AsioBenchmark.Pool
