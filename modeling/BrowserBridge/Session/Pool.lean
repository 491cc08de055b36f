import BrowserBridge.Session.Executor

/-!
Several executors around one connection, and handles of it that others keep.
-/

namespace BrowserBridge

/-- Executors around a connection. -/
structure Pool (σ : Type) where
  connection : Connection σ
  /-- The executors; `none` stands for one that is gone. -/
  executors : List (Option Executor)
  /-- How many handles others keep. -/
  outside : Nat

namespace Pool

variable {σ : Type}

/-- One executor that owns its service. -/
def owned (service : σ) (adapter : Adapter) : Pool σ :=
  ⟨⟨service, 1⟩, [some (.fresh .owned adapter)], 0⟩

/-- Executors that share a service, with handles that others keep. -/
def shared (service : σ) (adapter : Adapter) (executors outside : Nat) : Pool σ :=
  ⟨⟨service, executors + outside⟩,
    List.replicate executors (some (.fresh .shared adapter)), outside⟩

/-- The executor at a place, if it is there and not gone. -/
def executor? (pool : Pool σ) (index : Nat) : Option Executor := (pool.executors[index]?).join

/-- Lets one executor act, if it is there. -/
def act {α : Type} (index : Nat) (act : Act σ α) (pool : Pool σ) :
    Option (Except Fault α × Pool σ) :=
  (pool.executor? index).map fun executor =>
    let back (seat : Seat σ) : Pool σ :=
      { pool with
        connection := seat.connection
        executors := pool.executors.set index (some seat.executor) }
    match act ⟨executor, pool.connection⟩ with
    | .ok a seat => (.ok a, back seat)
    | .error fault seat => (.error fault, back seat)

/-- Drops an executor, if it is there.  Its handle goes with it, and nothing is
closed. -/
def drop (index : Nat) (pool : Pool σ) : Option (Pool σ) :=
  (pool.executor? index).map fun executor =>
    { pool with
      executors := pool.executors.set index none
      connection :=
        { pool.connection with
          holders := pool.connection.holders - (if executor.link = .shared then 1 else 0) } }

/-- Drops a handle that others keep, if there is one. -/
def dropOutside (pool : Pool σ) : Option (Pool σ) :=
  if pool.outside = 0 then none
  else
    some
      { pool with
        outside := pool.outside - 1
        connection := { pool.connection with holders := pool.connection.holders - 1 } }

end Pool

end BrowserBridge
