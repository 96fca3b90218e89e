/-
# Coming to rest

Some steps a machine takes on its own account, others only when something comes from outside. Where
each step of its own leads down a well-founded order, a machine that nothing comes to cannot go on
forever, and from every state it can come to one in which it stands still.

A thread that makes a call leaves less of its program. So the threads of a pool cannot go on forever
by themselves, nor with an environment whose own steps lead down a measure and start no threads.
-/

import ClusterChat.Concurrency.Pool
import Mathlib.Logic.Hydra
import Mathlib.Order.WellFounded

namespace ClusterChat

namespace Machine

variable {σ : Type*} {ℓ : Type*} (machine : Machine σ ℓ) (own : ℓ → Prop)

/-- The machine comes from a state to the next by a step of its own. -/
def Goes (next state : σ) : Prop := ∃ label, own label ∧ machine.step state label = some next

/-- The machine can take no step of its own. -/
def Still (state : σ) : Prop := ∀ label, own label → machine.step state label = none

variable {machine} {own}

/-- A machine that cannot go on forever comes to a state in which it stands still. -/
theorem exists_still (wellFounded : WellFounded (machine.Goes own)) (state : σ) :
    ∃ last, machine.Reach (fun _ label => own label) state last ∧ machine.Still own last := by
  induction state using wellFounded.induction with
  | _ state ih =>
    by_cases still : machine.Still own state
    · exact ⟨state, .refl, still⟩
    · simp only [Still, not_forall] at still
      obtain ⟨label, owned, goes⟩ := still
      obtain ⟨next, moved⟩ := Option.ne_none_iff_exists'.mp goes
      obtain ⟨last, reached, still⟩ := ih next ⟨label, owned, moved⟩
      exact ⟨last, .head owned moved reached, still⟩

end Machine

namespace Calls

variable {F : Type → Type} {α : Type}

/-- What is left of a program after its first call. -/
def Remains (rest program : Calls F α) : Prop :=
  ∃ (β : Type) (request : F β) (next : β → Calls F α) (answer : β),
    program = .call request next ∧ rest = next answer

theorem remains_wellFounded : WellFounded (Remains : Calls F α → Calls F α → Prop) := by
  constructor
  intro program
  induction program with
  | ret value =>
    constructor
    rintro rest ⟨β, request, next, answer, ⟨⟩, -⟩
  | call request next ih =>
    constructor
    rintro rest ⟨β, _, _, answer, same, rfl⟩
    cases same
    exact ih answer

end Calls

/-- The programs that the threads of a pool have left. -/
def Pool.programs {σ : Type} {F : Type → Type} {τ ρ : Type} (pool : Pool σ F τ ρ) :
    Multiset (Calls F ρ) :=
  (pool.threads.map Thread.rest : List (Calls F ρ))

namespace ThreadSystem

variable {σ : Type} {F : Type → Type} {τ ρ ε : Type} {system : ThreadSystem σ F τ ρ ε}

/-- Putting one item in the place of another. -/
theorem coe_set_add {α : Type*} {items : List α} {number : ℕ} {old : α}
    (found : items[number]? = some old) (new : α) :
    (items.set number new : Multiset α) + {old} = (items : Multiset α) + {new} := by
  obtain ⟨bound, rfl⟩ := List.getElem?_eq_some_iff.mp found
  rw [Multiset.coe_eq_coe.mpr (List.set_perm_cons_eraseIdx bound new),
    ← Multiset.coe_eq_coe.mpr (List.getElem_cons_eraseIdx_perm bound), ← Multiset.cons_coe,
    ← Multiset.cons_coe, Multiset.add_comm, Multiset.add_comm _ {new}, Multiset.singleton_add,
    Multiset.singleton_add]
  exact Multiset.cons_swap _ _ _

/-- **A call leaves less** of the programs of a pool. -/
theorem cutExpand_of_call {pool next : Pool σ F τ ρ} {number : ℕ} {thread : Thread F τ ρ}
    {β : Type} {request : F β} {cont : β → Calls F ρ} {answer : β}
    (found : pool.threads[number]? = some thread) (program : thread.rest = .call request cont)
    (threads : next.threads = pool.threads.set number (thread.answered request cont answer)) :
    Relation.CutExpand Calls.Remains next.programs pool.programs := by
  refine ⟨{cont answer}, .call request cont, ?_, ?_⟩
  · intro rest member
    rw [Multiset.mem_singleton.mp member]
    exact ⟨β, request, cont, answer, rfl, rfl⟩
  · have here : (pool.threads.map Thread.rest)[number]? = some (.call request cont) := by
      rw [List.getElem?_map, found, Option.map_some, program]
    rw [Pool.programs, Pool.programs, threads, List.map_set]
    exact coe_set_add here (cont answer)

/-- **A pool cannot go on forever** by calls of its threads, and by steps of the environment that
lead down a measure and start no threads. -/
theorem goes_wellFounded (work : σ → ℕ) {own : Turn ε → Prop}
    (settles : ∀ event state after jobs, own (.environment event) →
      system.environment event state = some (after, jobs) → jobs = [] ∧ work after < work state) :
    WellFounded (system.machine.Goes own) := by
  have order := WellFounded.prod_lex (Calls.remains_wellFounded (F := F) (α := ρ)).cutExpand
    Nat.lt_wfRel.wf
  have measured :=
    InvImage.wf (fun pool : Pool σ F τ ρ => (pool.programs, work pool.state)) order
  apply Subrelation.wf _ measured
  rintro next pool ⟨turn, owned, moved⟩
  rcases turn_cases moved with
    ⟨number, thread, β, request, cont, answer, rfl, found, program, -, threads⟩ |
    ⟨event, jobs, rfl, acted, threads⟩
  · exact .left _ _ (cutExpand_of_call found program threads)
  · obtain ⟨rfl, less⟩ := settles event pool.state next.state jobs owned acted
    have same : next.programs = pool.programs := by
      rw [Pool.programs, Pool.programs, threads, List.map_nil, List.append_nil]
    change Prod.Lex _ _ (next.programs, work next.state) (pool.programs, work pool.state)
    rw [same]
    exact .right _ less

end ThreadSystem

end ClusterChat
