/-
A database of fixed rows: a query gives the rows of its statement whatever its parameters are, and
there are no transactions.
-/
import RealmRegistry.Store.Backend

namespace RealmRegistry.Store

/-- The rows of each statement. -/
structure Fixed where
  rows : Statement → List Row

namespace Fixed

instance instBackend : Backend Fixed Unit where
  queryRow d statement _ := .ok (d.rows statement).head?
  query d statement _ := (d.rows statement).map .ok
  begin d := (.error (.database .noTransactions), d)
  execute d t _ _ := (.error (.database .noTransactions), t, d)
  commit d t := (.error (.database .noTransactions), t, d)
  release d _ := d

end Fixed

end RealmRegistry.Store
