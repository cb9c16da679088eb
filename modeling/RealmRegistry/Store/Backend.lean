/-
What a registry needs of a database.

A database is a value that is handed on.  Reading does not change it; a transaction works on a
state of its own until it is committed, and one that is released before that leaves no trace in
the rows.
-/
import RealmRegistry.Store.Row

namespace RealmRegistry.Store

/-- A database with states `σ` and open transactions `τ`. -/
class Backend (σ : Type) (τ : outParam Type) where
  /-- the first row of a query -/
  queryRow : σ → Statement → List String → Except Fault (Option Row)
  /-- the rows of a query as they come, up to the first fault -/
  query : σ → Statement → List String → List (Except Fault Row)
  begin : σ → Except Fault τ × σ
  /-- carries out a statement and gives the number of rows that it changed -/
  execute : σ → τ → Statement → List String → Except Fault Nat × τ × σ
  commit : σ → τ → Except Fault Unit × τ × σ
  /-- ends a transaction, which undoes it unless it is committed -/
  release : σ → τ → σ

end RealmRegistry.Store
