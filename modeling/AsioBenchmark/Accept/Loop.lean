import AsioBenchmark.Block.Session
import AsioBenchmark.Pool.RoundRobin
import AsioBenchmark.Pooled.Session

/-!
# The accept loops of `server1`, `server2` and `server3`

The three servers differ in their sessions only.  The handler of `async_accept`
holds the new session; after a success it starts the session and accepts the
next one, after an error it does nothing.
-/

namespace AsioBenchmark.Accept

open AsioBenchmark.Bytes AsioBenchmark.Pool AsioBenchmark.Transition

/-- The sessions of a server: the constructor, which finds other memory each
time, and `start`. -/
structure Sessions (Session : Type) where
  construct : Nat → Session
  start : Session → Session

/-- A session with the number of its `io_service`. -/
structure Placed (Session : Type) where
  ioService : Nat
  session : Session
deriving DecidableEq

/-- A session has the number of sessions created before it.  `outstanding` are
the sessions of the outstanding `async_accept`s, `started` is a history of the
calls of `start`. -/
structure Server (Session : Type) where
  servicePool : IoServicePool
  acceptor : Nat
  created : List (Placed Session)
  outstanding : List Nat
  started : List Nat

/-- The end of an `async_accept`, with the number of its session. -/
structure Completion where
  session : Nat
  failed : Bool
deriving DecidableEq

namespace Server

variable {Session : Type} (sessions : Sessions Session)

/-- The constructor: the acceptor takes the first service. -/
def construct (threadCount : Nat) : Option (Server Session) :=
  (IoServicePool.construct threadCount).bind fun pool =>
    pool.getIoService.map fun (ioService, servicePool) =>
      { servicePool := servicePool
        acceptor := ioService
        created := []
        outstanding := []
        started := [] }

def accept (server : Server Session) : Option (Server Session) :=
  server.servicePool.getIoService.map fun (ioService, servicePool) =>
    let number := server.created.length
    { server with
      servicePool := servicePool
      created := server.created ++ [⟨ioService, sessions.construct number⟩]
      outstanding := server.outstanding ++ [number] }

def start (server : Server Session) : Option (Server Session) :=
  server.accept sessions

/-- `new_session->start()`. -/
def startSession (server : Server Session) (number : Nat) : Server Session :=
  { server with
    created := server.created.modify number fun placed =>
      { placed with session := sessions.start placed.session }
    started := server.started ++ [number] }

/-- The handler of `async_accept`. -/
def handler (server : Server Session) (completion : Completion) :
    Option (Server Session) :=
  if completion.failed = false then
    (server.startSession sessions completion.session).accept sessions
  else some server

/-- An outstanding `async_accept` ends, and its handler runs. -/
def step (server : Server Session) (completion : Completion) :
    Option (Server Session) :=
  if completion.session ∈ server.outstanding then
    handler sessions
      { server with
        outstanding := server.outstanding.erase completion.session } completion
  else none

/-- A server with the given number of threads. -/
def system (threadCount : Nat) : System (Server Session) Completion where
  Initial server := (construct threadCount).bind (start sessions) = some server
  step := step sessions

end Server

/-! ## The three servers -/

/-- The sessions of `server1`. -/
def server1 {blockSize : Nat} (buffers : Nat → Memory blockSize) :
    Sessions (Block.Server1.ServerSession blockSize) where
  construct number := Block.Server1.accepting (buffers number)
  start session :=
    Block.Server1.Session.start { session with operation := none }

/-- The sessions of `server2`. -/
def server2 {blockSize : Nat}
    (heaps : Nat → Pooled.BufferId → Memory blockSize) :
    Sessions (Pooled.Server2.ServerSession blockSize) where
  construct number := Pooled.Server2.accepting (heaps number)
  start session := Pooled.Server2.start { session with starting := false }

/-- The sessions of `server3`. -/
def server3 (totalCount : UInt32)
    (buffers : Nat → Memory Framed.maxBlockSize) :
    Sessions Framed.Server3.ServerSession where
  construct number := Framed.Server3.accepting totalCount (buffers number)
  start session :=
    Framed.Server3.Session.start { session with operation := none }

/-! ## What the loop does -/

section Loop

variable {Session : Type} (sessions : Sessions Session) (threadCount : Nat)

private theorem modify_concat {Item : Type} (front : List Item) (last : Item)
    (change : Item → Item) :
    (front ++ [last]).modify front.length change = front ++ [change last] := by
  induction front with
  | nil => rfl
  | cons item front induction => exact congrArg (item :: ·) induction

/-- A server after `count` successes: the last session is not accepted yet, and
its `async_accept` is outstanding unless it has failed. -/
def reached (count : Nat) (listening : Bool) : Server Session :=
  { servicePool := .after threadCount (count + 2)
    acceptor := 0
    created :=
      (List.range count).map (fun number =>
        ⟨(number + 1) % threadCount,
          sessions.start (sessions.construct number)⟩)
      ++ [⟨(count + 1) % threadCount, sessions.construct count⟩]
    outstanding := if listening = true then [count] else []
    started := List.range count }

variable {threadCount} (positive : 1 ≤ threadCount)

include positive

theorem initial_iff {server : Server Session} :
    (Server.system sessions threadCount).Initial server ↔
      server = reached sessions threadCount 0 true := by
  have first := IoServicePool.getIoService_after positive 0
  have second := IoServicePool.getIoService_after positive 1
  rw [Nat.zero_mod] at first
  simp only [Server.system, Server.construct, Server.start, Server.accept,
    IoServicePool.construct_eq positive, first, second, Option.bind_some,
    Option.map_some, Option.some.injEq, List.nil_append, List.length_nil]
  exact eq_comm

theorem step_success (count : Nat) :
    Server.step sessions (reached sessions threadCount count true)
        ⟨count, false⟩ =
      some (reached sessions threadCount (count + 1) true) := by
  have next := IoServicePool.getIoService_after positive (count + 2)
  have startsLast := modify_concat
    ((List.range count).map fun number =>
      (⟨(number + 1) % threadCount,
        sessions.start (sessions.construct number)⟩ : Placed Session))
    ⟨(count + 1) % threadCount, sessions.construct count⟩
    fun placed => { placed with session := sessions.start placed.session }
  rw [List.length_map, List.length_range] at startsLast
  simp [Server.step, Server.handler, Server.startSession, Server.accept,
    reached, next, List.range_succ, startsLast]

omit positive in
theorem step_failure (count : Nat) :
    Server.step sessions (reached sessions threadCount count true)
        ⟨count, true⟩ =
      some (reached sessions threadCount count false) := by
  simp [Server.step, Server.handler, reached]

omit positive in
theorem step_deaf {count : Nat} {completion : Completion} :
    Server.step sessions (reached sessions threadCount count false)
      completion = none := by
  simp [Server.step, reached]

/-- Only the last session is accepted, and only if its `async_accept` is
outstanding. -/
theorem step_cases {count : Nat} {listening : Bool} {completion : Completion}
    {next : Server Session}
    (taken : Server.step sessions (reached sessions threadCount count listening)
      completion = some next) :
    listening = true ∧ completion.session = count ∧
      next = reached sessions threadCount
        (count + if completion.failed = true then 0 else 1)
        !completion.failed := by
  cases listening with
  | false =>
      rw [step_deaf] at taken
      cases taken
  | true =>
      obtain ⟨number, failed⟩ := completion
      have last : number = count := by
        by_contra other
        simp [Server.step, reached, other] at taken
      subst last
      cases failed with
      | true =>
          rw [step_failure] at taken
          cases taken
          exact ⟨rfl, rfl, rfl⟩
      | false =>
          rw [step_success sessions positive] at taken
          cases taken
          exact ⟨rfl, rfl, rfl⟩

/-- The completions of the first `count` accepts, all of them successes. -/
def successes (count : Nat) : List Completion :=
  (List.range count).map fun number => ⟨number, false⟩

omit positive in
theorem successes_succ (count : Nat) :
    successes (count + 1) = successes count ++ [⟨count, false⟩] := by
  simp [successes, List.range_succ]

theorem run_successes (count : Nat) :
    (Server.system sessions threadCount).Run
      (reached sessions threadCount 0 true) (successes count)
      (reached sessions threadCount count true) := by
  induction count with
  | zero => exact .refl
  | succ count induction =>
      rw [successes_succ]
      exact induction.snoc (step_success sessions positive count)

theorem run_cases {labels : List Completion} {server : Server Session}
    (run : (Server.system sessions threadCount).Run
      (reached sessions threadCount 0 true) labels server) :
    ∃ count,
      (labels = successes count ∧
        server = reached sessions threadCount count true) ∨
      (labels = successes count ++ [⟨count, true⟩] ∧
        server = reached sessions threadCount count false) := by
  induction run with
  | refl => exact ⟨0, .inl ⟨rfl, rfl⟩⟩
  | @snoc labels middle finish completion _ taken induction =>
      obtain ⟨count, ⟨successful, rfl⟩ | ⟨_, rfl⟩⟩ := induction
      · obtain ⟨number, failed⟩ := completion
        obtain ⟨_, last, same⟩ := step_cases sessions positive taken
        cases last
        rw [successful, same]
        cases failed with
        | true => exact ⟨number, .inr ⟨rfl, rfl⟩⟩
        | false =>
            exact ⟨number + 1, .inl ⟨(successes_succ number).symm, rfl⟩⟩
      · rw [show (Server.system sessions threadCount).step =
          Server.step sessions from rfl, step_deaf] at taken
        cases taken

omit positive in
private theorem successes_failed {count : Nat} {completion : Completion}
    (member : completion ∈ successes count) : completion.failed = false := by
  obtain ⟨number, _, rfl⟩ := List.mem_map.mp member
  rfl

end Loop

/-- After every handler of `async_accept` exactly one `async_accept` is
outstanding, and every session that was accepted has been started once. -/
structure Survives {Session : Type} (sessions : Sessions Session)
    (threadCount : Nat) (start : Server Session) (labels : List Completion)
    (server : Server Session) : Prop where
  listens : (Server.system sessions threadCount).Always start labels
    fun server => server.outstanding.length = 1
  started : ∀ completion ∈ labels, completion.failed = false →
    server.started.count completion.session = 1

/-- An accept loop survives a run if and only if no accept fails. -/
def SurvivesExactly {Session : Type} (sessions : Sessions Session)
    (threadCount : Nat) : Prop :=
  ∀ start labels server,
    (Server.system sessions threadCount).Initial start →
    (Server.system sessions threadCount).Run start labels server →
    (Survives sessions threadCount start labels server ↔
      ∀ completion ∈ labels, completion.failed = false)

/-- The constructor of the pool throws if there are no threads. -/
theorem positive_of_initial {Session : Type} {sessions : Sessions Session}
    {threadCount : Nat} {server : Server Session}
    (initial : (Server.system sessions threadCount).Initial server) :
    1 ≤ threadCount := by
  cases threadCount with
  | zero => cases initial
  | succ count => exact Nat.le_add_left 1 count

theorem survivesExactly {Session : Type} (sessions : Sessions Session)
    (threadCount : Nat) : SurvivesExactly sessions threadCount := by
  intro start labels server initial run
  have positive := positive_of_initial initial
  rw [initial_iff sessions positive] at initial
  subst initial
  constructor
  · intro survives
    obtain ⟨count, ⟨successful, _⟩ | ⟨_, same⟩⟩ :=
      run_cases sessions positive run
    · rw [successful]
      exact fun completion member => successes_failed member
    · have listens := survives.listens.finish run
      rw [same] at listens
      cases listens
  · intro fine
    have reaches : ∀ before state, before <+: labels →
        (Server.system sessions threadCount).Run
          (reached sessions threadCount 0 true) before state →
        ∃ count, before = successes count ∧
          state = reached sessions threadCount count true := by
      intro before state isPrefix passes
      obtain ⟨count, listening | ⟨fails, _⟩⟩ :=
        run_cases sessions positive passes
      · exact ⟨count, listening⟩
      · have member : ⟨count, true⟩ ∈ before := by simp [fails]
        have impossible := fine _ (isPrefix.subset member)
        cases impossible
    refine ⟨?_, ?_⟩
    · intro before state isPrefix passes
      obtain ⟨count, _, rfl⟩ := reaches before state isPrefix passes
      rfl
    · intro completion member _
      obtain ⟨count, successful, rfl⟩ :=
        reaches labels server (List.prefix_refl _) run
      rw [successful] at member
      obtain ⟨number, inside, rfl⟩ := List.mem_map.mp member
      exact List.count_eq_one_of_mem List.nodup_range inside

/-- The loops of all three servers, for any number of threads. -/
theorem accept_loops_survive_iff (threadCount : Nat) :
    (∀ blockSize (buffers : Nat → Memory blockSize),
      SurvivesExactly (server1 buffers) threadCount) ∧
    (∀ blockSize (heaps : Nat → Pooled.BufferId → Memory blockSize),
      SurvivesExactly (server2 heaps) threadCount) ∧
    ∀ totalCount buffers,
      SurvivesExactly (server3 totalCount buffers) threadCount :=
  ⟨fun _ buffers => survivesExactly (server1 buffers) threadCount,
    fun _ heaps => survivesExactly (server2 heaps) threadCount,
    fun totalCount buffers =>
      survivesExactly (server3 totalCount buffers) threadCount⟩

theorem deaf_after_failure {Session : Type} (sessions : Sessions Session) :
    ¬ ∀ start labels server,
      (Server.system sessions 1).Initial start →
      (Server.system sessions 1).Run start labels server →
      Survives sessions 1 start labels server := by
  intro always
  have initial := (initial_iff sessions (Nat.le_refl 1)).mpr rfl
  have run : (Server.system sessions 1).Run (reached sessions 1 0 true)
      [⟨0, true⟩] (reached sessions 1 0 false) :=
    .single (step_failure sessions 0)
  have listens := (always _ _ _ initial run).listens.finish run
  cases listens

/-- The first accept of each server fails. -/
theorem accept_loops_deaf :
    (¬ ∀ start labels server,
      (Server.system (server1 fun _ => .filled 1 0) 1).Initial start →
      (Server.system (server1 fun _ => .filled 1 0) 1).Run start labels
        server →
      Survives (server1 fun _ => .filled 1 0) 1 start labels server) ∧
    (¬ ∀ start labels server,
      (Server.system (server2 fun _ _ => .filled 1 0) 1).Initial start →
      (Server.system (server2 fun _ _ => .filled 1 0) 1).Run start labels
        server →
      Survives (server2 fun _ _ => .filled 1 0) 1 start labels server) ∧
    ¬ ∀ start labels server,
      (Server.system (server3 1 fun _ => .filled _ 0) 1).Initial start →
      (Server.system (server3 1 fun _ => .filled _ 0) 1).Run start labels
        server →
      Survives (server3 1 fun _ => .filled _ 0) 1 start labels server :=
  ⟨deaf_after_failure _, deaf_after_failure _, deaf_after_failure _⟩

/-! ## Where the sessions live -/

/-- The accepts of a run that have succeeded. -/
def accepts (labels : List Completion) : Nat :=
  labels.countP fun completion => !completion.failed

/-- The sessions of a server after a run.  Each accepted session has been
started, in the order of the accepts, and one more is waiting to be accepted.
The `j`-th session lives on the service `j + 1`, and of the sessions created, as
of those accepted, two services have equally many, up to one. -/
structure RoundRobin {Session : Type} (threadCount : Nat)
    (labels : List Completion) (server : Server Session) : Prop where
  acceptor : server.acceptor = 0
  created : server.created.length = accepts labels + 1
  started : server.started = List.range (accepts labels)
  placed : ∀ number placed, server.created[number]? = some placed →
    placed.ioService = (number + 1) % threadCount
  balanced : ∀ service < threadCount, ∀ other < threadCount,
    (server.created.map Placed.ioService).count service ≤
        (server.created.map Placed.ioService).count other + 1 ∧
      ((server.created.take (accepts labels)).map
          Placed.ioService).count service ≤
        ((server.created.take (accepts labels)).map
          Placed.ioService).count other + 1

section Placement

variable {Session : Type} (sessions : Sessions Session) {threadCount : Nat}

theorem services_reached (count : Nat) (listening : Bool) :
    (reached sessions threadCount count listening).created.map
        Placed.ioService = turns threadCount 1 (count + 1) := by
  have services : (List.range count).map (fun number =>
      (number + 1) % threadCount) = turns threadCount 1 count := by
    simp [turns, List.range'_eq_map_range, Nat.add_comm]
  rw [turns_succ, ← services]
  simp [reached, Function.comp_def, Nat.add_comm]

theorem roundRobin_reached (positive : 1 ≤ threadCount)
    {labels : List Completion} {count : Nat}
    (successful : accepts labels = count) (listening : Bool) :
    RoundRobin threadCount labels
      (reached sessions threadCount count listening) where
  acceptor := rfl
  created := by
    rw [successful]
    simp [reached]
  started := by
    rw [successful]
    rfl
  placed := by
    intro number placed is
    have service : (turns threadCount 1 (count + 1))[number]? =
        some placed.ioService := by
      rw [← services_reached sessions count listening, List.getElem?_map, is]
      rfl
    have inside : number < count + 1 := by
      have bound := (List.getElem?_eq_some_iff.mp service).1
      rwa [length_turns] at bound
    rw [getElem?_turns inside, Nat.add_comm] at service
    exact (Option.some.inj service).symm
  balanced := by
    intro service below other otherBelow
    have accepted := @take_drop_turns threadCount 1 (count + 1) 0 count
      (by omega)
    rw [List.map_take, services_reached, successful]
    rw [List.drop_zero] at accepted
    rw [accepted]
    exact ⟨count_turns_balanced positive below otherBelow _ _,
      count_turns_balanced positive below otherBelow _ _⟩

end Placement

theorem accepts_successes (count : Nat) :
    accepts (successes count) = count := by
  simp [accepts, successes, List.countP_map, Function.comp_def]

theorem accepts_failure (count : Nat) :
    accepts (successes count ++ [⟨count, true⟩]) = count := by
  rw [accepts, List.countP_append]
  exact accepts_successes count

/-- A server comes up and can accept any number of sessions, and in every run
it places them in turn. -/
structure PlacesInTurn {Session : Type} (sessions : Sessions Session)
    (threadCount : Nat) : Prop where
  comesUp : ∃ start, (Server.system sessions threadCount).Initial start
  goesOn : ∀ start, (Server.system sessions threadCount).Initial start →
    ∀ count, ∃ server,
      (Server.system sessions threadCount).Run start (successes count) server
  inTurn : ∀ start labels server,
    (Server.system sessions threadCount).Initial start →
    (Server.system sessions threadCount).Run start labels server →
    RoundRobin threadCount labels server

theorem placesInTurn {Session : Type} (sessions : Sessions Session)
    {threadCount : Nat} (positive : 1 ≤ threadCount) :
    PlacesInTurn sessions threadCount where
  comesUp := ⟨_, (initial_iff sessions positive).mpr rfl⟩
  goesOn := by
    intro start initial count
    rw [initial_iff sessions positive] at initial
    subst initial
    exact ⟨_, run_successes sessions positive count⟩
  inTurn := by
    intro start labels server initial run
    rw [initial_iff sessions positive] at initial
    subst initial
    obtain ⟨count, ⟨rfl, rfl⟩ | ⟨rfl, rfl⟩⟩ := run_cases sessions positive run
    · exact roundRobin_reached sessions positive (accepts_successes count) true
    · exact roundRobin_reached sessions positive (accepts_failure count) false

/-- For every size of the pool and all calls, with and without an index, no call
fails, `next_io_service_` stays below the size, and each service is returned
once by as many calls without an index as there are services.  The sessions of
the three servers are placed accordingly. -/
theorem services_in_turn {poolSize : Nat} (positive : 1 ≤ poolSize) :
    (∃ pool, IoServicePool.construct poolSize = some pool ∧
      ∀ calls, ∃ finish services,
        (recordedPool poolSize).Run (pool, []) calls (finish, services) ∧
        finish.nextIoService < poolSize ∧
        services.length = nextCalls calls ∧
        ∀ skip, skip + poolSize ≤ services.length →
          ∀ service < poolSize,
            ((services.drop skip).take poolSize).count service = 1) ∧
    (∀ blockSize (buffers : Nat → Memory blockSize),
      PlacesInTurn (server1 buffers) poolSize) ∧
    (∀ blockSize (heaps : Nat → Pooled.BufferId → Memory blockSize),
      PlacesInTurn (server2 heaps) poolSize) ∧
    ∀ totalCount buffers,
      PlacesInTurn (server3 totalCount buffers) poolSize := by
  refine ⟨?_, fun _ buffers => placesInTurn (server1 buffers) positive,
    fun _ heaps => placesInTurn (server2 heaps) positive,
    fun totalCount buffers =>
      placesInTurn (server3 totalCount buffers) positive⟩
  refine ⟨_, IoServicePool.construct_eq positive, ?_⟩
  intro calls
  refine ⟨_, _, run_calls positive calls, Nat.mod_lt _ positive,
    length_turns _ _, ?_⟩
  intro skip inside service below
  rw [length_turns] at inside
  rw [take_drop_turns inside]
  exact count_turns_window positive below _

/-- A `server1` with three threads has accepted four sessions and waits for a
fifth; the service of the acceptor has one of the four. -/
theorem services_in_turn_three :
    ∃ start server,
      (Server.system (server1 fun _ => .filled 1 0) 3).Initial start ∧
      (Server.system (server1 fun _ => .filled 1 0) 3).Run start
        (successes 4) server ∧
      server.created.length = 5 ∧ server.started = [0, 1, 2, 3] ∧
      server.created.map Placed.ioService = [1, 2, 0, 1, 2] := by
  have inTurn := (services_in_turn (by decide : 1 ≤ 3)).2.1 1
    fun _ => .filled 1 0
  obtain ⟨start, initial⟩ := inTurn.comesUp
  obtain ⟨server, run⟩ := inTurn.goesOn start initial 4
  have placed := inTurn.inTurn start _ server initial run
  have five : server.created.length = 5 := placed.created
  refine ⟨start, server, initial, run, five, placed.started, ?_⟩
  apply List.ext_getElem?
  intro number
  rw [List.getElem?_map]
  rcases Nat.lt_or_ge number 5 with inside | outside
  · rw [List.getElem?_eq_getElem (by omega : number < server.created.length),
      Option.map_some, placed.placed number _ (List.getElem?_eq_getElem _)]
    match number, inside with
    | 0, _ | 1, _ | 2, _ | 3, _ | 4, _ => rfl
  · rw [List.getElem?_eq_none (by omega), List.getElem?_eq_none (by simpa)]
    rfl

end AsioBenchmark.Accept
