import Tenancy.Proofs.Connection.Requests
import Tenancy.Proofs.Lease.Resolution
import Tenancy.Server.Scripted

/-!
# What the question about a tenant's table asks for

A tenant's name for a table is read as an identifier twice: the lease reads it, puts its prefix in front of
it if the table is a tenant's own, and puts the outcome between quotes; the connection reads that. The
quotes make the second reading give back what the first one gave, whatever characters are in it
(`foldName_quoteName`), so the server is asked about just that table (`outcome_tableExists_lease`).
-/

namespace Tenancy.Connection
open Sql
variable {σ : Type} [Server σ] {s : Scene σ} {l : Lease}

/-- The table that is meant is not another one once there is a client to ask with. -/
lemma table_of_client {s' : Scene σ} {k : Client} (got : outcome client s = (.ok k, s')) (name : String) :
    s'.connection.table name = s.connection.table name := by
  obtain ⟨-, channel, connection⟩ := exists_of_client got
  rw [connection, table, table]

/-- The question whether there is a table is one statement to the client that was got, if one was. -/
lemma outcome_tableExists_run (s : Scene σ) (name : String) :
    outcome (tableExists name) s =
      match outcome client s with
      | (.error e, s') => (.error e, s')
      | (.ok k, s') =>
        answered s' (Server.run k existsQuery [.text (s.connection.table name)] s'.world.server) := by
  rw [outcome_tableExists_client]
  rcases got : outcome client s with ⟨e | k, s'⟩
  · rfl
  · dsimp only
    rw [outcome_tableExists_held (exists_of_client got).1, table_of_client got]

/-- A connection of the tenant `smith_` to a server where that tenant has a table of persons. -/
def smithScene : Scene ScriptedServer where
  connection := smith
  world.server := { host := "localhost", port := 5432, links := [{}], database.tables := ["smith_person"] }

/-- A name that was put between quotes is read back whatever its characters are. So under a lease the
question whether there is a table asks the server once, for the name that was read, with the prefix in front
of it exactly if it is a name of the tenant's own. -/
theorem outcome_tableExists_lease (lease : s.connection.lease = some l) (name : String) :
    (∀ x : String, String.ofList (foldName (quoteName x.toList)) = x) ∧
    let folded := String.ofList (foldName name.toList)
    let physical := if folded ∈ l.ownership.own then l.tablePrefix.text ++ folded else folded
    outcome (tableExists name) s =
      match outcome client s with
      | (.error e, s') => (.error e, s')
      | (.ok k, s') => answered s' (Server.run k existsQuery [.text physical] s'.world.server) := by
  refine ⟨fun x => ?_, ?_⟩
  · rw [foldName_quoteName, String.ofList_toList]
  · rw [outcome_tableExists_run, table_of_lease lease]
    rfl

/-- For a name in quotes the question is about the tenant's table. -/
theorem outcome_tableExists_lease_smith :
    smithScene.connection.lease = some smithLease ∧
      outcome (tableExists "\"person\"") smithScene =
        answered smithScene (Server.run ⟨0⟩ existsQuery [.text "smith_person"] smithScene.world.server) ∧
      (outcome (tableExists "\"person\"") smithScene).1.toOption = some true := by
  have lease : smithScene.connection.lease = some smithLease := rfl
  have physical : (let folded := String.ofList (foldName "\"person\"".toList)
      if folded ∈ smithLease.ownership.own then smithLease.tablePrefix.text ++ folded else folded) =
        "smith_person" := by decide
  have asks := (outcome_tableExists_lease lease "\"person\"").2
  dsimp only at asks physical
  rw [physical, outcome_client (k := ⟨0⟩) rfl] at asks
  exact ⟨lease, asks, by decide +kernel⟩

end Tenancy.Connection
