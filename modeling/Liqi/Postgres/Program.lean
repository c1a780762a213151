import Mathlib.Logic.Basic

/-!
# Functions as programs of statements

A PL/pgSQL function is a tree of statements. Each statement names the locks it waits for, the rows
it writes, and what follows, all read off the database the transaction sees when the statement
starts. `run` executes a program without interference; `Interleaving.lean` executes many of them
side by side, one statement at a time, at READ COMMITTED.
-/

namespace Postgres

/-- A database `Db` changed by writes; `touches` lists the locks that a transaction holds until its
end once it has made the write (row locks, and the unique index entries of rows it inserted). -/
class Store (Db : Type) (Write Lock : outParam Type) where
  apply : Db → Write → Db
  touches : Write → List Lock

namespace Store

variable {Db Write Lock : Type} [Store Db Write Lock]

def applyAll (db : Db) (ws : List Write) : Db := ws.foldl apply db

@[simp] theorem applyAll_nil (db : Db) : applyAll db ([] : List Write) = db := rfl

@[simp] theorem applyAll_cons (db : Db) (w : Write) (ws : List Write) :
    applyAll db (w :: ws) = applyAll (apply db w) ws := rfl

theorem applyAll_append (db : Db) (ws us : List Write) :
    applyAll db (ws ++ us) = applyAll (applyAll db ws) us :=
  List.foldl_append

end Store

open Store

/-- A function body: finished, or a statement and what follows it. -/
inductive Program (Db Write Lock Err α : Type) where
  | done (result : Except Err α)
  | stmt (locks : Db → List Lock) (writes : Db → List Write) (next : Db → Program Db Write Lock Err α)

namespace Program

variable {Db Write Lock Err α β : Type}

/-- `RETURN`. -/
def ret (a : α) : Program Db Write Lock Err α := .done (.ok a)

/-- `RAISE EXCEPTION`. -/
def raise (e : Err) : Program Db Write Lock Err α := .done (.error e)

/-- A statement that neither locks nor writes. -/
def query (next : Db → Program Db Write Lock Err α) : Program Db Write Lock Err α :=
  .stmt (fun _ => []) (fun _ => []) next

/-- A statement that only waits for a lock, such as `pg_advisory_xact_lock`. -/
def lock (l : Lock) (next : Program Db Write Lock Err α) : Program Db Write Lock Err α :=
  .stmt (fun _ => [l]) (fun _ => []) fun _ => next

/-- `INSERT`, of the row that `attempt` finds: it raises a violated constraint, stores nothing
(`ON CONFLICT DO NOTHING`, an empty `SELECT`), or waits until no other transaction holds one of the
row's unique index entries and stores it. -/
def insert {ρ : Type} (attempt : Db → Except Err (Option ρ)) (keys : ρ → List Lock) (write : ρ → Write)
    (next : Option ρ → Program Db Write Lock Err α) : Program Db Write Lock Err α :=
  .stmt
    (fun db => match attempt db with
      | .ok (some row) => keys row
      | _ => [])
    (fun db => match attempt db with
      | .ok (some row) => [write row]
      | _ => [])
    fun db => match attempt db with
      | .ok row => next row
      | .error e => .done (.error e)

/-- Calling one function inside another. -/
def bind : Program Db Write Lock Err α → (α → Program Db Write Lock Err β) → Program Db Write Lock Err β
  | .done (.ok a), f => f a
  | .done (.error e), _ => .done (.error e)
  | .stmt locks writes next, f => .stmt locks writes fun db => (next db).bind f

/-- A call in a transaction of its own, with no other transaction about: a raised error discards
every write. -/
def run [Store Db Write Lock] : Program Db Write Lock Err α → Db → Except Err (α × Db)
  | .done (.ok a), db => .ok (a, db)
  | .done (.error e), _ => .error e
  | .stmt _ writes next, db => (next db).run (applyAll db (writes db))

variable [Store Db Write Lock]

/-- The writes of a statement that may raise instead. -/
def written {β : Type} (effect : Db → Except Err (β × List Write)) (db : Db) : List Write :=
  match effect db with
  | .ok (_, writes) => writes
  | .error _ => []

/-- A statement that locks exactly what it writes, such as `UPDATE`. -/
def exec {β : Type} (effect : Db → Except Err (β × List Write)) (next : β → Program Db Write Lock Err α) :
    Program Db Write Lock Err α :=
  .stmt (fun db => (written effect db).flatMap (touches Db)) (written effect)
    fun db => match effect db with
      | .ok (b, _) => next b
      | .error e => .done (.error e)

@[simp] theorem run_ret (a : α) (db : Db) : (ret a : Program Db Write Lock Err α).run db = .ok (a, db) := rfl

@[simp] theorem run_raise (e : Err) (db : Db) : (raise e : Program Db Write Lock Err α).run db = .error e := rfl

@[simp] theorem run_query (next : Db → Program Db Write Lock Err α) (db : Db) :
    (query next).run db = (next db).run db := rfl

@[simp] theorem run_lock (l : Lock) (next : Program Db Write Lock Err α) (db : Db) :
    (lock l next).run db = next.run db := rfl

theorem run_insert {ρ : Type} (attempt : Db → Except Err (Option ρ)) (keys : ρ → List Lock) (write : ρ → Write)
    (next : Option ρ → Program Db Write Lock Err α) (db : Db) :
    (insert attempt keys write next).run db = match attempt db with
      | .ok (some row) => (next (some row)).run (apply db (write row))
      | .ok none => (next none).run db
      | .error e => .error e := by
  unfold insert
  simp only [run]
  rcases attempt db with _ | _ | _ <;> rfl

/-- A call runs to its end, then its caller goes on where it left the database. -/
theorem run_bind (p : Program Db Write Lock Err α) (f : α → Program Db Write Lock Err β) (db : Db) :
    (p.bind f).run db = match p.run db with
      | .ok (a, db') => (f a).run db'
      | .error e => .error e := by
  induction p generalizing db with
  | done r => cases r <;> rfl
  | stmt locks writes next ih => exact ih db _

end Program

end Postgres
