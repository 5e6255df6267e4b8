import Mostrix.Library.Sql
import Mostrix.Keys.User

/-!
# Opening the database

`db.rs`: `init_db` creates the database file with its schema and one user, or opens the file that is
there and migrates it. Which of the two it does depends on whether the file exists, and what a
migration adds on which columns a probe finds. A run leaves a sequence of durable writes (a file
operation, a statement outside a transaction, or a committed transaction); a crash keeps a prefix
of it, so the states a crash can leave are the start and the disk after each write.

A migration recovers from a crash at any point, since all its columns come in one transaction. A
first run does not: between the creation of the file and the insertion of the user the next run
takes the file for a database, and finds tables missing or no user
(`initDb_crash_safe_iff`).
-/

namespace Mostrix.Database

open Sql (Tables Relation Row Value)

/-- The database file. -/
structure DbFile where
  /-- `journal_mode=WAL`, which is stored in the file. -/
  wal : Bool := false
  tables : Tables := Table.empty

/-- What `init_db` finds and leaves: the application's directory and the file in it. -/
structure Disk where
  appDir : Bool
  dbFile : Option DbFile

/-- What a run takes from outside: the version of the SQLite library, and the user that `User::new`
makes of a generated mnemonic. -/
structure InitEnv where
  sqliteVersion : String
  newUser : Except String User

/-! ## The schema -/

/-- The columns of `orders`. -/
def ordersColumns : List String :=
  ["id", "kind", "status", "amount", "fiat_code", "min_amount", "max_amount", "fiat_amount",
    "payment_method", "premium", "trade_keys", "counterparty_pubkey", "order_chat_shared_key_hex",
    "dispute_id", "solver_pubkey", "dispute_chat_shared_key_hex", "is_mine", "buyer_invoice",
    "request_id", "trade_index", "created_at", "expires_at", "last_seen_dm_ts"]

/-- The columns of `users`. -/
def usersColumns : List String := ["i0_pubkey", "mnemonic", "last_trade_index", "created_at"]

/-- The columns of `admin_disputes`. -/
def adminDisputesColumns : List String :=
  ["id", "dispute_id", "kind", "status", "hash", "preimage", "order_previous_status",
    "initiator_pubkey", "buyer_pubkey", "seller_pubkey", "initiator_full_privacy",
    "counterpart_full_privacy", "initiator_info", "counterpart_info", "premium", "payment_method",
    "amount", "fiat_amount", "fiat_code", "fee", "routing_fee", "buyer_invoice", "invoice_held_at",
    "taken_at", "created_at", "buyer_chat_last_seen", "seller_chat_last_seen",
    "buyer_shared_key_hex", "seller_shared_key_hex"]

/-- The tables of the current schema. -/
def schema : List (String × List String) :=
  [("orders", ordersColumns), ("users", usersColumns), ("admin_disputes", adminDisputesColumns)]

/-- A column that a migration adds. -/
structure AddedColumn where
  table : String
  column : String
  default : Value := .null
deriving DecidableEq, Repr

/-- The columns `migrate_db` probes for, in its order. -/
def addedColumns : List AddedColumn :=
  [{ table := "admin_disputes", column := "initiator_info" },
    { table := "admin_disputes", column := "counterpart_info" },
    { table := "admin_disputes", column := "fiat_code", default := .text "USD" },
    { table := "admin_disputes", column := "dispute_id", default := .text "" },
    { table := "admin_disputes", column := "buyer_chat_last_seen" },
    { table := "admin_disputes", column := "seller_chat_last_seen" },
    { table := "admin_disputes", column := "buyer_shared_key_hex" },
    { table := "admin_disputes", column := "seller_shared_key_hex" },
    { table := "orders", column := "request_id" },
    { table := "orders", column := "trade_index" },
    { table := "orders", column := "last_seen_dm_ts" },
    { table := "orders", column := "order_chat_shared_key_hex" },
    { table := "orders", column := "dispute_id" },
    { table := "orders", column := "solver_pubkey" },
    { table := "orders", column := "dispute_chat_shared_key_hex" }]

/-- The column of some builds that must go. -/
def obsoleteColumn : String := "suppress_next_new_order_dm"

/-! ## `migrate_db` -/

/-- A connection: the file, and the states the file went through. -/
structure Conn where
  file : DbFile
  log : List DbFile := []

/-- One durable write. -/
def Conn.write (c : Conn) (file : DbFile) : Conn := { file := file, log := c.log ++ [file] }

/-- `check_column_exists`: only a missing column is an answer, any other error is passed on. -/
def checkColumnExists (db : Tables) (table column : String) : Except Sql.Error Bool :=
  match Sql.selectColumn table column db with
  | .ok () => .ok true
  | .error (.noSuchColumn _) => .ok false
  | .error e => .error e

/-- The probes, and which of their columns are missing. -/
def missingColumns (db : Tables) : List AddedColumn → Except Sql.Error (List AddedColumn)
  | [] => .ok []
  | a :: as =>
    match checkColumnExists db a.table a.column with
    | .error e => .error e
    | .ok has => (missingColumns db as).map fun rest => if has then rest else a :: rest

/-- One column of the migration; the dispute id of a row from before is its order id. -/
def addMissing (db : Tables) (a : AddedColumn) : Except Sql.Error Tables :=
  (Sql.addColumn a.table a.column a.default db).map fun db =>
    if a.table = "admin_disputes" ∧ a.column = "dispute_id" then
      Sql.updateRows "admin_disputes" (fun r =>
        if r "dispute_id" = .text "" then Function.update r "dispute_id" (r "id") else r) db
    else db

/-- The statements of the migration's transaction. -/
def addAllMissing (db : Tables) : List AddedColumn → Except Sql.Error Tables
  | [] => .ok db
  | a :: as =>
    match addMissing db a with
    | .error e => .error e
    | .ok db => addAllMissing db as

/-- `str::parse::<u32>`. -/
def parseU32 (s : String) : Option Nat :=
  let digits := match s.toList with
    | '+' :: ds => ds
    | ds => ds
  if digits ≠ [] ∧ digits.all Char.isDigit then
    let n := digits.foldl (fun n d => 10 * n + (d.toNat - '0'.toNat)) 0
    if n < 2 ^ 32 then some n else none
  else none

/-- `sqlite_version_at_least`. -/
def sqliteVersionAtLeast (version : String) (minMajor minMinor minPatch : Nat) : Bool :=
  let part := fun i => (((version.splitOn ".")[i]?).bind parseU32).getD 0
  let (major, minor, patch) := (part 0, part 1, part 2)
  minMajor < major ∨ minMajor = major ∧ (minMinor < minor ∨ minMinor = minor ∧ minPatch ≤ patch)

/-- The statements of `orders_table_rebuild_without_suppress_column`. -/
def ordersTableRebuildWithoutSuppressColumn (db : Tables) : Except Sql.Error Tables :=
  match Sql.createTable "orders_new" ordersColumns db with
  | .error e => .error e
  | .ok db =>
    match Sql.copyRows "orders" "orders_new" ordersColumns db with
    | .error e => .error e
    | .ok db =>
      match Sql.dropTable "orders" db with
      | .error e => .error e
      | .ok db => Sql.renameTable "orders_new" "orders" db

/-- The end of `migrate_db`: the obsolete column goes. -/
def dropObsoleteColumn (env : InitEnv) (c : Conn) : Except Sql.Error Unit × Conn :=
  match checkColumnExists c.file.tables "orders" obsoleteColumn with
  | .error e => (.error e, c)
  | .ok false => (.ok (), c)
  | .ok true =>
    let dropped :=
      if sqliteVersionAtLeast env.sqliteVersion 3 35 0 then
        Sql.dropColumn "orders" obsoleteColumn c.file.tables
      else ordersTableRebuildWithoutSuppressColumn c.file.tables
    match dropped with
    | .error e => (.error e, c)
    | .ok tables => (.ok (), c.write { c.file with tables := tables })

/-- `migrate_db`: the probes, one transaction for what is missing, and the obsolete column. -/
def migrateDb (env : InitEnv) (c : Conn) : Except Sql.Error Unit × Conn :=
  match missingColumns c.file.tables addedColumns with
  | .error e => (.error e, c)
  | .ok [] => dropObsoleteColumn env c
  | .ok missing =>
    match addAllMissing c.file.tables missing with
    | .error e => (.error e, c)
    | .ok tables => dropObsoleteColumn env (c.write { c.file with tables := tables })

/-! ## `init_db` -/

/-- `configure_sqlite_pool`; the busy timeout is the connection's own. -/
def configureSqlitePool (c : Conn) : Conn := c.write { c.file with wal := true }

/-- The `CREATE TABLE`s, each on its own. -/
def createSchema (c : Conn) : Conn :=
  schema.foldl (fun c (name, columns) =>
    c.write { c.file with tables := Sql.createTableIfNotExists name columns c.file.tables }) c

/-- The row `User::new` inserts. -/
def userRow (user : User) : Row := fun column =>
  if column = "i0_pubkey" then .text user.i0Pubkey
  else if column = "mnemonic" then .text user.mnemonic
  else if column = "created_at" then .integer user.createdAt
  else .null

/-- The user of a new database: inserted when the table is empty. -/
def createUser (env : InitEnv) (c : Conn) : Except Sql.Error Unit × Conn :=
  match c.file.tables "users" with
  | none => (.error (.noSuchTable "users"), c)
  | some users =>
    if users.rows.length = 0 then
      match env.newUser with
      | .error e => (.error (.other e), c)
      | .ok user =>
        (.ok (), c.write { c.file with tables := Sql.insertRow "users" (userRow user) c.file.tables })
    else (.ok (), c)

/-- A run of `init_db`: its result, and the disk after each durable write. -/
structure InitRun where
  result : Except Sql.Error Unit
  log : List Disk

/-- The disk a run leaves. -/
def InitRun.final (run : InitRun) (disk : Disk) : Disk := run.log.getLast?.getD disk

/-- `init_db`. -/
def initDb (env : InitEnv) (disk : Disk) : InitRun :=
  let dirLog := if disk.appDir then [] else [{ disk with appDir := true }]
  match disk.dbFile with
  | none =>
    let (result, c) := createUser env (createSchema (configureSqlitePool { file := {} }))
    { result := result
      log := dirLog ++ ⟨true, some {}⟩ :: c.log.map fun file => ⟨true, some file⟩ }
  | some file =>
    let (result, c) := migrateDb env (configureSqlitePool { file := file })
    { result := result
      log := dirLog ++ c.log.map fun file => ⟨true, some file⟩ }

/-- The disks a crash can leave: the one before the run, and the one after each write. -/
def crashPoints (env : InitEnv) (disk : Disk) : List Disk := disk :: (initDb env disk).log

/-! ## What a run is for -/

/-- Every table and column of the current schema is there. -/
def Complete (db : Tables) : Prop :=
  ∀ name columns, (name, columns) ∈ schema → ∃ t, db name = some t ∧ ∀ c ∈ columns, c ∈ t.columns

/-- There is exactly one user. -/
def OneUser (db : Tables) : Prop := ∃ t, db "users" = some t ∧ t.rows.length = 1

/-- The rows of one disk are on the other. -/
def KeepsRows (disk : Disk) (file' : DbFile) : Prop :=
  ∀ file, disk.dbFile = some file → Sql.Keeps schema file.tables file'.tables

/-- A run from `crashed` repairs what a crashed run from `disk` left. -/
def Recovers (env : InitEnv) (disk crashed : Disk) : Prop :=
  (initDb env crashed).result = .ok () ∧
    ∃ file, ((initDb env crashed).final crashed).dbFile = some file ∧
      Complete file.tables ∧ OneUser file.tables ∧ KeepsRows disk file ∧ KeepsRows crashed file

/-- A database from an earlier build: of the current columns only migrated ones may be missing. -/
structure Older (db : Tables) : Prop where
  tables : ∀ name columns, (name, columns) ∈ schema → ∃ t, db name = some t ∧
    ∀ c ∈ columns, c ∈ t.columns ∨ ∃ a ∈ addedColumns, a.table = name ∧ a.column = c
  noRebuild : db "orders_new" = none

/-- Where a first run or a migration starts. -/
def Start (disk : Disk) : Prop :=
  disk.dbFile = none ∨ ∃ file, disk.dbFile = some file ∧ Older file.tables ∧ OneUser file.tables

/-- The condition on a crash: the file is not there yet, or its user is. -/
def CrashOk (crashed : Disk) : Prop :=
  ∀ file, crashed.dbFile = some file → ∃ t, file.tables "users" = some t ∧ t.rows ≠ []

end Mostrix.Database
