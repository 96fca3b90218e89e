/-
# One place for each recipient

Each recipient of a message gets one disposition from the node that handles the message: it is
handed to a connection of the node or to its delivery queue, or one channel takes it, or it is
stored for the recipient. Whatever the lookups and the channels answer, the handler of a message
gives every recipient exactly one of these, and over a whole run no recipient has two places.
-/

import ClusterChat.Service.Accounts
import Mathlib.Tactic.Abel

namespace ClusterChat

open ServerCall

/-! ### Whole runs of handlers -/

/-- The copies that a log hands to connections of the node or to their delivery queues. -/
def handedIn (log : List (Event ServerCall)) : Multiset Copy :=
  (log.map fun event => event.request.handedOver event.answer).sum

/-- The copies that channels take over in a log. -/
def takenIn (log : List (Event ServerCall)) : Multiset Copy :=
  (log.map fun event => event.request.takenByChannel event.answer).sum

/-- The copies that a log stores for absent users. -/
def storedIn (log : List (Event ServerCall)) : Multiset Copy :=
  (log.map fun event => event.request.storedOffline).sum

/-- All that a log places. -/
def placedIn (log : List (Event ServerCall)) : Multiset Copy :=
  handedIn log + takenIn log + storedIn log

theorem placedIn_cons (event : Event ServerCall) (log : List (Event ServerCall)) :
    placedIn (event :: log) = event.request.placed event.answer + placedIn log := by
  simp only [placedIn, handedIn, takenIn, storedIn, List.map_cons, List.sum_cons, placed]
  abel

theorem placedIn_append (later earlier : List (Event ServerCall)) :
    placedIn (later ++ earlier) = placedIn later + placedIn earlier := by
  induction later with
  | nil => exact (zero_add _).symm
  | cons event later ih => rw [List.cons_append, placedIn_cons, placedIn_cons, ih, add_assoc]

namespace Debt

variable {copies : Multiset Copy} {log : List (Event ServerCall)}

/-- What is placed and what is left make up what was owed. -/
theorem placedIn_of_kept (kept : Calls.Kept after Permits (owing copies) log) :
    ∃ left, Calls.ghostAfter after (owing copies) log = owing left ∧
      placedIn log + left = copies := by
  induction log with
  | nil => exact ⟨copies, rfl, zero_add copies⟩
  | cons event log ih =>
    obtain ⟨left, debt, whole⟩ := ih kept.1
    have permits := kept.2
    rw [debt] at permits
    have covered := (event.request.placed_le event.answer).trans permits
    refine ⟨left - event.request.placed event.answer, ?_, ?_⟩
    · rw [Calls.ghostAfter_cons, debt]
      rfl
    · rw [placedIn_cons, ← whole, add_comm (event.request.placed event.answer), add_assoc,
        Multiset.add_comm _ (left - _), Multiset.sub_add_cancel covered]

/-- A program that pays places all that it owes, and nothing else. -/
theorem placedIn_of_pays {program : Calls ServerCall Unit} {value : Unit}
    (answers : program.Answers log value)
    (pays : program.Follows after Permits (fun debt _ => debt = owing 0) (owing copies)) :
    placedIn log = copies := by
  obtain ⟨kept, ended⟩ := answers.kept pays
  obtain ⟨left, debt, whole⟩ := placedIn_of_kept kept
  rw [debt] at ended
  obtain rfl : left = 0 := owing.inj ended
  rwa [add_zero] at whole

end Debt

namespace ChatService

variable {log : List (Event ServerCall)}

/-- A message for one recipient gets one place. -/
theorem oneChat_places (server : Server) (copy : Copy)
    (answers : (oneChat server copy).Answers log ()) : placedIn log = {copy} :=
  Debt.placedIn_of_pays answers (follows_of_pays (oneChat_pays server copy 0))

/-- A message for a group gets one place for each member that the database has answered. -/
theorem groupChat_places (server : Server) (message : Message) (userId : UserId) (groupId : Int32)
    (answers : (groupChat server message userId groupId).Answers log ()) :
    ∃ members earlier, log = earlier ++ [⟨.database (.queryGroupUsers userId groupId), members⟩] ∧
      placedIn log = copiesOf message members := by
  have pays := groupChat_pays server message userId groupId
  rw [groupChat, database_bind] at answers pays
  obtain ⟨members, later, rest, rfl⟩ := Calls.answers_call.mp answers
  refine ⟨members, later, rfl, ?_⟩
  rw [placedIn_append, Debt.placedIn_of_pays rest (pays.2 members)]
  exact add_zero _

/-- A frame gets one place for each recipient that it lists, on the node that receives it. -/
theorem handleClusterFrame_places (server : Server) (frame : Frame)
    (answers : (handleClusterFrame server frame).Answers log ()) : placedIn log = frame.copies :=
  Debt.placedIn_of_pays answers (follows_of_pays (handleClusterFrame_pays server frame))

/-- The handler of a frame uses no channel. -/
theorem handleClusterFrame_takenIn (server : Server) (frame : Frame)
    (answers : (handleClusterFrame server frame).Answers log ()) : takenIn log = 0 := by
  have one : ∀ copy, (handleClusterOneChatFrame server copy).Only
      fun _ call => ∀ answer, call.takenByChannel answer = 0 := by
    intro copy
    -- no branch of the handler hands a message to a channel
    have unbinds : (unbindUser server copy.recipient).Only
        fun _ call => ∀ answer, call.takenByChannel answer = 0 := by
      apply (unbindUser_only server copy.recipient).mono
      intro β call asked answer
      cases call with
      | registry call => rfl
      | _ => exact asked.elim
    have asks : ∀ {α : Type} (program : Calls RegistryCall α), (registry program).Only
        fun _ call => ∀ answer, call.takenByChannel answer = 0 :=
      fun program => Calls.Only.lift (Calls.only_of_forall (fun _ _ _ => rfl) program)
    have delivers : (deliverToLocalUser copy).Only
        fun _ call => ∀ answer, call.takenByChannel answer = 0 := by
      refine ⟨fun _ => rfl, fun found => ?_⟩
      cases found with
      | none => trivial
      | some conn =>
        refine ⟨fun _ => rfl, fun dispatcher => ?_⟩
        exact Calls.Only.lift (Calls.only_of_forall (fun _ _ _ => rfl) _)
    refine delivers.bind fun delivered => ?_
    cases delivered with
    | true => trivial
    | false =>
      refine Calls.Only.bind ((asks _).bind fun found => ?_)
        fun _ => ⟨fun _ => rfl, fun _ => trivial⟩
      cases found with
      | none => exact unbinds
      | some nodeId =>
        dsimp only
        split
        · exact unbinds
        · trivial
  have group : ∀ message ids, (handleClusterGroupChat server message ids).Only
      fun _ call => ∀ answer, call.takenByChannel answer = 0 := by
    intro message ids
    induction ids with
    | nil => trivial
    | cons userId rest ih => exact (one ⟨message, userId⟩).bind fun _ => ih
  have only : (handleClusterFrame server frame).Only
      fun _ call => ∀ answer, call.takenByChannel answer = 0 := by
    rw [handleClusterFrame]
    split
    · exact one _
    · exact group _ _
  -- so nothing that a run of it logs counts as taken
  have none := answers.only only
  rw [takenIn]
  apply List.sum_eq_zero
  intro taken listed
  obtain ⟨event, member, rfl⟩ := List.mem_map.mp listed
  exact none event member event.answer

end ChatService

/-! ### Every run -/

/-- How often a debt may still place a copy. -/
def Debt.reserve (copy : Copy) : Debt → ℕ
  | asking message => if copy.message = message then 1 else 0
  | owing copies => copies.count copy

/-- How often a copy is in some place, or is owed. -/
def Pool.total (pool : ClusterPool) (copy : Copy) : ℕ :=
  pool.state.account.count copy + tally (fun thread => thread.debt.reserve copy) pool.threads

/-- The weight that counts one copy. -/
def one (copy other : Copy) : ℕ := if other = copy then 1 else 0

theorem tally_one (copy : Copy) (copies : List Copy) :
    tally (one copy) copies = copies.count copy := by
  induction copies with
  | nil => rfl
  | cons head rest ih =>
    rw [tally_cons, ih, List.count_cons, one, Nat.add_comm]
    simp only [beq_iff_eq]

theorem weigh_one (copy : Copy) (copies : Multiset Copy) :
    Cluster.weigh (one copy) copies = copies.count copy := by
  obtain ⟨items, rfl⟩ := Quot.exists_rep copies
  exact (tally_one copy items).trans (Multiset.coe_count copy items).symm

/-- Where a call asks for members, each is in the answer once. -/
def ServerCall.Distinct : {β : Type} → ServerCall β → β → Prop
  | _, .database (.queryGroupUsers _ _), members => members.Nodup
  | _, _, _ => True

theorem Database.groupUsers_nodup (database : Database) (userId : UserId) (groupId : Int32) :
    (database.groupUsers userId groupId).Nodup := by
  unfold groupUsers
  split
  · exact List.nodup_nil
  · rename_i group _
    exact group.unique.filter _

section Step

variable {cluster after : Cluster} {number : ℕ} {job : Job} {β : Type} {call : ServerCall β}
  {answer : β} {copy : Copy}

theorem exec_distinct (ran : Cluster.exec number job call cluster = some (answer, after)) :
    call.Distinct answer := by
  cases call with
  | database call =>
    cases call with
    | queryGroupUsers userId groupId =>
      obtain ⟨rfl, -⟩ := Prod.mk.inj (Option.some.inj ran)
      exact cluster.database.groupUsers_nodup userId groupId
    | _ => trivial
  | _ => trivial

theorem count_copiesOf {message : Message} {members : List UserId} (distinct : members.Nodup) :
    (copiesOf message members).count copy ≤ if copy.message = message then 1 else 0 := by
  rw [copiesOf, Multiset.coe_count]
  by_cases same : copy.message = message
  · rw [if_pos same]
    apply List.nodup_iff_count_le_one.mp
    apply distinct.map
    intro first second equal
    exact (Copy.mk.inj equal).2
  · rw [if_neg same, Nat.le_zero, List.count_eq_zero]
    intro listed
    obtain ⟨id, -, rfl⟩ := List.mem_map.mp listed
    exact same rfl

/-- A debt of known copies goes down by what is placed. -/
theorem reserve_owing {copies : Multiset Copy} (permits : (Debt.owing copies).Permits call) :
    ((Debt.owing copies).after ⟨call, answer⟩).reserve copy + (call.placed answer).count copy =
      copies.count copy := by
  have covered : call.placed answer ≤ copies := (call.placed_le answer).trans permits
  have fewer := Multiset.count_le_of_le copy covered
  rw [Debt.after, Debt.reserve, Multiset.count_sub]
  omega

/-- **No call makes up copies**: what it places was owed. -/
theorem reserve_after (copy : Copy) {debt : Debt} (permits : debt.Permits call)
    (distinct : call.Distinct answer) :
    (debt.after ⟨call, answer⟩).reserve copy + (call.placed answer).count copy ≤
      debt.reserve copy := by
  cases debt with
  | owing copies => exact (reserve_owing permits).le
  | asking message =>
    rw [placed_of_bare permits, Multiset.count_zero, Nat.add_zero]
    cases call with
    | database call =>
      cases call with
      | queryGroupUsers userId groupId => exact count_copiesOf distinct
      | _ => exact le_rfl
    | _ => exact le_rfl

/-- How often the jobs that an event starts may place a copy. -/
def newReserve (copy : Copy) (jobs : List (Job × Calls ServerCall Unit)) : ℕ :=
  tally (fun job => job.1.handler.debt.reserve copy) jobs

/-- An event either numbers the message of a request, or the handlers that it starts owe just what
the node has received. -/
theorem Cluster.environment_owes {event : ClusterEvent}
    {jobs : List (Job × Calls ServerCall Unit)}
    (acted : clusterSystem.environment event cluster = some (after, jobs)) :
    (after.messages = cluster.messages ∧
        ∀ copy, newReserve copy jobs = (Cluster.received jobs).count copy) ∨
      ∃ node loop conn request, after.messages = cluster.messages + 1 ∧
        jobs = [cluster.job node loop (Cluster.handlerOf cluster.messages conn request)] := by
  cases event with
  | receive index n loop =>
    obtain ⟨⟨frame, received⟩, taken, acted⟩ := Option.map_eq_some_iff.mp acted
    obtain ⟨rfl, rfl⟩ := Prod.mk.inj acted
    simp only [Cluster.receive] at taken
    obtain ⟨channel, -, taken⟩ := Option.bind_eq_some_iff.mp taken
    split at taken
    · obtain ⟨⟨_, queue⟩, -, taken⟩ := Option.map_eq_some_iff.mp taken
      obtain ⟨-, rfl⟩ := Prod.mk.inj taken
      refine .inl ⟨rfl, fun copy => ?_⟩
      -- what the handler owes is what the frame carried
      simp [newReserve, Cluster.received, Cluster.job, Handler.debt, Debt.reserve]
    · cases taken
  | move index move =>
    obtain ⟨channel, -, acted⟩ := Option.bind_eq_some_iff.mp acted
    obtain ⟨queue, -, acted⟩ := Option.map_eq_some_iff.mp acted
    obtain ⟨rfl, rfl⟩ := Prod.mk.inj acted
    exact .inl ⟨rfl, fun _ => rfl⟩
  | runQueued index =>
    obtain ⟨dispatcher, -, acted⟩ := Option.bind_eq_some_iff.mp acted
    obtain ⟨queue, -, acted⟩ := Option.map_eq_some_iff.mp acted
    obtain ⟨rfl, rfl⟩ := Prod.mk.inj acted
    exact .inl ⟨rfl, fun _ => rfl⟩
  | drainStep index drain =>
    obtain ⟨drained, moved, acted⟩ := Option.map_eq_some_iff.mp acted
    obtain ⟨rfl, rfl⟩ := Prod.mk.inj acted
    simp only [Cluster.drainStep] at moved
    obtain ⟨dispatcher, -, moved⟩ := Option.bind_eq_some_iff.mp moved
    obtain ⟨queue, -, rfl⟩ := Option.map_eq_some_iff.mp moved
    refine .inl ⟨?_, fun _ => rfl⟩
    split
    · rfl
    · rw [Cluster.send]
      split <;> rfl
  | disconnect id =>
    simp only [clusterSystem] at acted
    split at acted
    · cases acted
    · split at acted
      · obtain ⟨rfl, rfl⟩ := Prod.mk.inj (Option.some.inj acted)
        exact .inl ⟨rfl, fun _ => rfl⟩
      · cases acted
  | request id request =>
    simp only [clusterSystem] at acted
    split at acted
    · cases acted
    · rename_i client _
      obtain ⟨rfl, rfl⟩ := Prod.mk.inj (Option.some.inj acted)
      -- a request brings a message that has not been counted
      exact .inr ⟨client.node, client.loop, _, request, rfl, rfl⟩
  | _ =>
    obtain ⟨rfl, rfl⟩ := Prod.mk.inj (Option.some.inj acted)
    exact .inl ⟨rfl, fun _ => rfl⟩

/-- The handler of a request may place copies of its own message, each once. -/
theorem reserve_handlerOf (number : ℕ) (conn : Connection) (request : ClientRequest) (copy : Copy) :
    (Cluster.handlerOf number conn request).debt.reserve copy ≤
      if copy.message.number = number then 1 else 0 := by
  cases request with
  | login id pwd => exact Nat.zero_le _
  | logout userId => exact Nat.zero_le _
  | oneChat toId text =>
    simp only [Cluster.handlerOf, Handler.debt, Debt.reserve, Multiset.count_singleton]
    by_cases same : copy = ⟨⟨number, text⟩, toId⟩
    · rw [if_pos same, same, if_pos rfl]
    · rw [if_neg same]
      exact Nat.zero_le _
  | groupChat userId groupId text =>
    simp only [Cluster.handlerOf, Handler.debt, Debt.reserve]
    by_cases same : copy.message = ⟨number, text⟩
    · rw [if_pos same, same, if_pos rfl]
    · rw [if_neg same]
      exact Nat.zero_le _

end Step

/-- The invariant: every handler pays, no copy is in some place or owed twice, and copies of
messages that are yet to come are nowhere. -/
structure OnePlace (pool : ClusterPool) : Prop where
  pays : ∀ thread ∈ pool.threads, thread.Pays
  once : ∀ copy, pool.total copy ≤ 1
  fresh : ∀ copy, pool.state.messages ≤ copy.message.number → pool.total copy = 0

variable {pool next : ClusterPool}

/-- A turn of a thread adds nothing to any total. -/
theorem total_answered {number : ℕ} {thread : Thread ServerCall Job Unit} {β : Type}
    {request : ServerCall β} {cont : β → Calls ServerCall Unit} {answer : β}
    (pays : thread.Pays) (found : pool.threads[number]? = some thread)
    (program : thread.rest = .call request cont)
    (ran : Cluster.exec number thread.tag request pool.state = some (answer, next.state))
    (threads : next.threads = pool.threads.set number (thread.answered request cont answer))
    (copy : Copy) : next.total copy ≤ pool.total copy := by
  have permits : thread.debt.Permits request := by
    rw [Thread.Pays, program] at pays
    exact pays.1
  have account := Cluster.tally_exec (one copy) ran
  rw [tally_one, tally_one, weigh_one] at account
  have moved := tally_set_add (fun thread => thread.debt.reserve copy) found
    (thread.answered request cont answer)
  have debt : (thread.answered request cont answer).debt = thread.debt.after ⟨request, answer⟩ :=
    rfl
  have paid := reserve_after copy permits (exec_distinct ran)
  rw [Pool.total, Pool.total, threads]
  rw [debt] at moved
  omega

/-- An event adds to a total what a new request may place. -/
theorem total_event {event : ClusterEvent} {jobs : List (Job × Calls ServerCall Unit)}
    (acted : clusterSystem.environment event pool.state = some (next.state, jobs))
    (threads : next.threads = pool.threads ++ jobs.map Thread.start) (copy : Copy) :
    next.total copy + (Cluster.received jobs).count copy = pool.total copy +
      newReserve copy jobs := by
  have account := Cluster.tally_environment (one copy) acted
  rw [tally_one, tally_one, tally_one] at account
  have started : tally (fun thread : Thread ServerCall Job Unit => thread.debt.reserve copy)
      (jobs.map Thread.start) = newReserve copy jobs := tally_map _ _ _
  rw [Pool.total, Pool.total, threads, tally_append, started]
  omega

theorem OnePlace.turn {turn : Turn ClusterEvent} (before : OnePlace pool)
    (moved : clusterSystem.turn pool turn = some next) : OnePlace next := by
  have pays : ∀ thread ∈ next.threads, thread.Pays := by
    apply ThreadSystem.turn_forall_threads before.pays _ _ moved
    · intro thread β request cont answer pays program
      rw [Thread.Pays, program] at pays
      exact pays.2 answer
    · intro event cluster jobs acted job listed
      obtain ⟨n, loop, handler, rfl⟩ := (Cluster.environment_writes acted).2.2.2.2 job listed
      exact program_pays pool.state n handler
  rcases ThreadSystem.turn_cases moved with
    ⟨number, thread, β, request, cont, answer, rfl, found, program, ran, threads⟩ |
    ⟨event, jobs, rfl, acted, threads⟩
  · -- a call moves a copy on or drops it, and never doubles it
    have fewer := total_answered (before.pays thread (List.mem_of_getElem? found)) found program ran
      threads
    refine ⟨pays, fun copy => (fewer copy).trans (before.once copy), ?_⟩
    intro copy later
    rw [(Cluster.exec_records ran).messages] at later
    have none := before.fresh copy later
    have fewer := fewer copy
    omega
  · have books := total_event acted threads
    rcases Cluster.environment_owes acted with
      ⟨messages, owes⟩ | ⟨node, loop, conn, request, messages, started⟩
    · have same : ∀ copy, next.total copy = pool.total copy := by
        intro copy
        have books := books copy
        rw [owes copy] at books
        omega
      refine ⟨pays, fun copy => (same copy).trans_le (before.once copy), ?_⟩
      intro copy later
      rw [messages] at later
      exact (same copy).trans (before.fresh copy later)
    · -- a new request: the copies of its message were nowhere
      have added : ∀ copy, next.total copy ≤
          pool.total copy + if copy.message.number = pool.state.messages then 1 else 0 := by
        intro copy
        have books := books copy
        have owed := reserve_handlerOf pool.state.messages conn request copy
        have reserve : newReserve copy jobs =
            (Cluster.handlerOf pool.state.messages conn request).debt.reserve copy := by
          rw [started]
          exact tally_singleton _ _
        omega
      refine ⟨pays, ?_, ?_⟩
      · intro copy
        have added := added copy
        by_cases same : copy.message.number = pool.state.messages
        · have none := before.fresh copy same.ge
          rw [if_pos same] at added
          omega
        · have once := before.once copy
          rw [if_neg same] at added
          omega
      · intro copy later
        rw [messages] at later
        have added := added copy
        have none := before.fresh copy (Nat.le_of_succ_le later)
        rw [if_neg (by omega : copy.message.number ≠ pool.state.messages)] at added
        omega

theorem onePlace_of_reach {allowed : ClusterPool → Turn ClusterEvent → Prop} {clockMs : Int}
    {configs : ℕ → ServerConfig} {database : Database}
    (reached : clusterSystem.machine.Reach allowed (startPool clockMs configs database) pool) :
    OnePlace pool := by
  apply reached.invariant OnePlace
  · exact ⟨List.forall_mem_nil _, fun _ => Nat.zero_le 1, fun _ _ => rfl⟩
  · intro pool next turn before _ moved
    exact before.turn moved

/-- **One disposition for each recipient.** Whatever it is answered, a handler of messages places
each copy exactly once: `oneChat` its copy, `groupChat` one for each member that the database has
answered, and the handler of a frame one for each recipient that the frame lists, on its own node.
In every run no copy is in two places, or in one place twice. -/
theorem one_disposition_each :
    (∀ server copy log, (ChatService.oneChat server copy).Answers log () →
      placedIn log = {copy}) ∧
    (∀ server message userId groupId log,
      (ChatService.groupChat server message userId groupId).Answers log () →
        ∃ members earlier,
          log = earlier ++ [⟨.database (.queryGroupUsers userId groupId), members⟩] ∧
            placedIn log = copiesOf message members) ∧
    (∀ server frame log, (ChatService.handleClusterFrame server frame).Answers log () →
      takenIn log = 0 ∧ placedIn log = frame.copies) ∧
    ∀ clockMs configs database pool, ClusterReach clockMs configs database pool →
      (pool.state.handedCopies ++ pool.state.travelling ++ pool.state.stored).Nodup := by
  refine ⟨?_, ?_, ?_, ?_⟩
  · intro server copy log answers
    exact ChatService.oneChat_places server copy answers
  · intro server message userId groupId log answers
    exact ChatService.groupChat_places server message userId groupId answers
  · intro server frame log answers
    exact ⟨ChatService.handleClusterFrame_takenIn server frame answers,
      ChatService.handleClusterFrame_places server frame answers⟩
  · intro clockMs configs database pool reached
    apply List.nodup_iff_count_le_one.mpr
    intro copy
    have once := (onePlace_of_reach reached).once copy
    simp only [Pool.total, Cluster.account, List.count_append] at once ⊢
    omega

/-- A database with two users in a group. -/
def twoMembers : Database :=
  { twoUsers with groups := [⟨1, [], [], [(7, []), (8, [])], by decide⟩] }

/-- Two new servers. -/
def newServers : Cluster := .start 0 (twoServers 4) twoMembers

/-- A program of a new server that comes to its end when it runs alone. -/
theorem answers_alone {program : Calls ServerCall Unit}
    (ran : (program.eval (Cluster.exec 0 ⟨0, 0, .closeAll⟩) newServers).isSome = true) :
    ∃ log, program.Answers log () := by
  obtain ⟨⟨value, after⟩, ran⟩ := Option.isSome_iff_exists.mp ran
  exact Calls.answers_of_eval ran

/-- Handlers that run alone on a new server, and a message to a user who is logged in. -/
theorem one_disposition_each_alone :
    (∃ log, (ChatService.oneChat (newServers.server 0) ⟨⟨0, []⟩, 7⟩).Answers log () ∧
      placedIn log = {⟨⟨0, []⟩, 7⟩}) ∧
    (∃ log, (ChatService.groupChat (newServers.server 0) ⟨0, []⟩ 7 1).Answers log () ∧
      ∃ members, placedIn log = copiesOf ⟨0, []⟩ members) ∧
    (∃ log, (ChatService.handleClusterFrame (newServers.server 0)
        ⟨0, .groupChat [7, 8] []⟩).Answers log () ∧
      takenIn log = 0 ∧ placedIn log = (Frame.mk 0 (.groupChat [7, 8] [])).copies) ∧
    ∃ pool, ClusterReach 0 (twoServers 4) twoUsers pool ∧ pool.state.handedCopies ≠ [] ∧
      (pool.state.handedCopies ++ pool.state.travelling ++ pool.state.stored).Nodup := by
  refine ⟨?_, ?_, ?_, ?_⟩
  · obtain ⟨log, answers⟩ := answers_alone
      (by decide +kernel : ((ChatService.oneChat (newServers.server 0) ⟨⟨0, []⟩, 7⟩).eval
        (Cluster.exec 0 ⟨0, 0, .closeAll⟩) newServers).isSome = true)
    exact ⟨log, answers, one_disposition_each.1 _ _ log answers⟩
  · obtain ⟨log, answers⟩ := answers_alone
      (by decide +kernel : ((ChatService.groupChat (newServers.server 0) ⟨0, []⟩ 7 1).eval
        (Cluster.exec 0 ⟨0, 0, .closeAll⟩) newServers).isSome = true)
    obtain ⟨members, earlier, -, placed⟩ := one_disposition_each.2.1 _ _ _ _ log answers
    exact ⟨log, answers, members, placed⟩
  · obtain ⟨log, answers⟩ := answers_alone
      (by decide +kernel : ((ChatService.handleClusterFrame (newServers.server 0)
        ⟨0, .groupChat [7, 8] []⟩).eval (Cluster.exec 0 ⟨0, 0, .closeAll⟩) newServers).isSome =
          true)
    exact ⟨log, answers, one_disposition_each.2.2.1 _ _ log answers⟩
  · have ran : ((clusterSystem.machine.run (startPool 0 (twoServers 4) twoUsers)
        (ThreadSystem.handling 0 10 (.initNode 0 0) ++
          [.environment (.connect 0 0), .environment (.connect 0 1)] ++
          ThreadSystem.handling 1 16 (.request 0 (.login 7 password.bytes)) ++
          ThreadSystem.handling 2 5 (.request 1 (.oneChat 7 [])))).any fun pool =>
        decide (pool.state.handedCopies ≠ [])) = true := by
      decide +kernel
    obtain ⟨pool, ran, handed⟩ := (Option.any_eq_true _ _).mp ran
    have reached := ClusterReach.of_run ran
    exact ⟨pool, reached, of_decide_eq_true handed,
      one_disposition_each.2.2.2 0 (twoServers 4) twoUsers pool reached⟩

end ClusterChat
