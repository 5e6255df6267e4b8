import Mathlib.Data.List.Pairwise
import Mostrix.Database.Init

/-!
# Crashes of `init_db`

What each part of `init_db` leaves, and from it which crashes the next run repairs. A migration goes
from an older database to a complete one through states that are older databases themselves, with
the users and every row kept (`migrateDb_spec`), so that any of them can be migrated again. A first
run goes through states that are neither: a file without its tables, which the next run refuses
(`initDb_of_no_table`), and one without its user.
-/

namespace Mostrix.Database

open Sql (Tables Relation Row Value)

/-! ## Probing -/

/-- A probe on a table that is there answers. -/
theorem checkColumnExists_of_table {db : Tables} {table : String} {t : Relation}
    (h : db table = some t) (column : String) :
    checkColumnExists db table column = .ok (decide (column ∈ t.columns)) := by
  by_cases hc : column ∈ t.columns
  · simp [checkColumnExists, Sql.selectColumn, h, hc]
  · simp [checkColumnExists, Sql.selectColumn, h, hc]

/-- The table of the column is there, without it. -/
def Lacks (db : Tables) (a : AddedColumn) : Prop := ∀ t, db a.table = some t → a.column ∉ t.columns

/-- The probes find what is missing. -/
theorem missingColumns_ok {db : Tables} {as : List AddedColumn}
    (h : ∀ a ∈ as, ∃ t, db a.table = some t) :
    ∃ missing, missingColumns db as = .ok missing ∧ missing.Sublist as ∧
      (∀ a ∈ missing, Lacks db a) ∧ ∀ a ∈ as, Lacks db a → a ∈ missing := by
  induction as with
  | nil => exact ⟨[], rfl, .slnil, by simp, by simp⟩
  | cons a as ih =>
    obtain ⟨⟨t, ht⟩, has⟩ := List.forall_mem_cons.1 h
    obtain ⟨missing, hmissing, hsub, hlacks, hall⟩ := ih has
    by_cases hc : a.column ∈ t.columns
    · have hno : ¬ Lacks db a := fun hl => hl t ht hc
      refine ⟨missing, ?_, hsub.cons a, hlacks, List.forall_mem_cons.2 ⟨fun hl => absurd hl hno, hall⟩⟩
      simp [missingColumns, checkColumnExists_of_table ht, hmissing, hc, Except.map]
    · have hyes : Lacks db a := by
        intro t' ht'
        rwa [← Option.some.inj (ht.symm.trans ht')]
      refine ⟨a :: missing, ?_, hsub.cons_cons a, List.forall_mem_cons.2 ⟨hyes, hlacks⟩,
        List.forall_mem_cons.2 ⟨fun _ => .head _, fun b hb hl => .tail _ (hall b hb hl)⟩⟩
      simp [missingColumns, checkColumnExists_of_table ht, hmissing, hc, Except.map]

/-! ## Adding columns -/

/-- Adding a missing column keeps the rows and the other columns of its table. -/
theorem addMissing_ok {db : Tables} {a : AddedColumn} {t : Relation} (ht : db a.table = some t)
    (hc : a.column ∉ t.columns) :
    ∃ t', addMissing db a = .ok (db.put a.table t') ∧ t'.columns = t.columns ++ [a.column] ∧
      ∀ live, t.KeptIn live t' := by
  have hkept : ∀ f : Row → Row, (∀ r c, c ≠ a.column → f r c = r c) → ∀ live,
      t.KeptIn live ⟨t.columns ++ [a.column], t.rows.map f⟩ := fun f hf live =>
    Sql.keptIn_map_update hc (fun c hmem => List.mem_append_left _ hmem) hf
  have hadd : Sql.addColumn a.table a.column a.default db = .ok (db.put a.table
      ⟨t.columns ++ [a.column], t.rows.map fun r => Function.update r a.column a.default⟩) := by
    simp [Sql.addColumn, ht, hc]
  by_cases hid : a.table = "admin_disputes" ∧ a.column = "dispute_id"
  · refine ⟨_, ?_, rfl, hkept (fun r =>
      let r := Function.update r a.column a.default
      if r "dispute_id" = .text "" then Function.update r "dispute_id" (r "id") else r) ?_⟩
    · simp only [addMissing, hadd, Except.map, if_pos hid, Sql.updateRows]
      rw [← hid.1, Table.modify_put, List.map_map]
      rfl
    · intro r c hne
      have hne' : c ≠ "dispute_id" := hid.2 ▸ hne
      dsimp only
      split
      · rw [Function.update_of_ne hne', Function.update_of_ne hne]
      · rw [Function.update_of_ne hne]
  · refine ⟨_, ?_, rfl, hkept (fun r => Function.update r a.column a.default) fun r c hne => ?_⟩
    · simp only [addMissing, hadd, Except.map, if_neg hid]
    · exact Function.update_of_ne hne ..

/-- What the transaction leaves: every table with the added columns, and its rows. -/
structure Grown (db db' : Tables) (added : List AddedColumn) : Prop where
  absent : ∀ name, db name = none → db' name = none
  table : ∀ name t, db name = some t → ∃ t', db' name = some t' ∧
    (∀ c, c ∈ t'.columns ↔ c ∈ t.columns ∨ ∃ a ∈ added, a.table = name ∧ a.column = c) ∧
    (∀ live, t.KeptIn live t') ∧ ((∀ a ∈ added, a.table ≠ name) → t' = t)

/-- Adding one column, and then the others. -/
theorem Grown.cons {db db' : Tables} {a : AddedColumn} {as : List AddedColumn} {t t' : Relation}
    (ht : db a.table = some t) (hcolumns : t'.columns = t.columns ++ [a.column])
    (hkept : ∀ live, t.KeptIn live t') (h : Grown (db.put a.table t') db' as) :
    Grown db db' (a :: as) := by
  refine ⟨fun name hnone => h.absent name ?_, fun name u hu => ?_⟩
  · rw [Table.put_of_ne, hnone]
    rintro rfl
    rw [ht] at hnone
    cases hnone
  · by_cases hname : name = a.table
    · subst hname
      obtain rfl := Option.some.inj (ht.symm.trans hu)
      obtain ⟨t'', ht'', hc, hk, -⟩ := h.table a.table t' Table.put_self
      refine ⟨t'', ht'', fun c => ?_, fun live => (hkept live).trans (hk live), fun hne => ?_⟩
      · rw [hc, hcolumns, List.mem_append, List.mem_singleton, or_assoc]
        refine or_congr_right ⟨?_, ?_⟩
        · rintro (rfl | ⟨b, hb, hbt, hbc⟩)
          · exact ⟨a, .head _, rfl, rfl⟩
          · exact ⟨b, .tail _ hb, hbt, hbc⟩
        · rintro ⟨b, hb, hbt, hbc⟩
          rcases List.mem_cons.1 hb with rfl | hb
          · exact .inl hbc.symm
          · exact .inr ⟨b, hb, hbt, hbc⟩
      · exact absurd rfl (hne a (.head _))
    · obtain ⟨t'', ht'', hc, hk, hsame⟩ := h.table name u (by rw [Table.put_of_ne hname, hu])
      refine ⟨t'', ht'', fun c => ?_, hk, fun hne => hsame fun b hb => hne b (.tail _ hb)⟩
      rw [hc]
      refine or_congr_right ⟨fun ⟨b, hb, hbt, hbc⟩ => ⟨b, .tail _ hb, hbt, hbc⟩, ?_⟩
      rintro ⟨b, hb, hbt, hbc⟩
      rcases List.mem_cons.1 hb with rfl | hb
      · exact absurd hbt.symm hname
      · exact ⟨b, hb, hbt, hbc⟩

/-- Columns that are missing and differ can all be added. -/
theorem addAllMissing_ok {db : Tables} {added : List AddedColumn}
    (htable : ∀ a ∈ added, ∃ t, db a.table = some t) (hlacks : ∀ a ∈ added, Lacks db a)
    (hdistinct : added.Pairwise fun a b => a.table = b.table → a.column ≠ b.column) :
    ∃ db', addAllMissing db added = .ok db' ∧ Grown db db' added := by
  induction added generalizing db with
  | nil =>
    refine ⟨db, rfl, fun _ h => h, fun _ t ht => ⟨t, ht, by simp, fun live => .refl live t, ?_⟩⟩
    exact fun _ => rfl
  | cons a as ih =>
    obtain ⟨⟨t, ht⟩, htables⟩ := List.forall_mem_cons.1 htable
    obtain ⟨ha, has⟩ := List.forall_mem_cons.1 hlacks
    obtain ⟨hfirst, hrest⟩ := List.pairwise_cons.1 hdistinct
    obtain ⟨t', hstep, hcolumns, hkept⟩ := addMissing_ok ht (ha t ht)
    have htable' : ∀ b ∈ as, ∃ u, (db.put a.table t') b.table = some u := by
      intro b hb
      by_cases hname : b.table = a.table
      · exact ⟨t', by rw [hname, Table.put_self]⟩
      · obtain ⟨u, hu⟩ := htables b hb
        exact ⟨u, by rw [Table.put_of_ne hname, hu]⟩
    have hlacks' : ∀ b ∈ as, Lacks (db.put a.table t') b := by
      intro b hb u hu
      by_cases hname : b.table = a.table
      · rw [hname, Table.put_self] at hu
        obtain rfl := Option.some.inj hu
        rw [hcolumns, List.mem_append, List.mem_singleton, not_or]
        exact ⟨has b hb t (hname ▸ ht), (hfirst b hb hname.symm).symm⟩
      · rw [Table.put_of_ne hname] at hu
        exact has b hb u hu
    obtain ⟨db', hdb', hgrown⟩ := ih htable' hlacks' hrest
    exact ⟨db', by simp [addAllMissing, hstep, hdb'], hgrown.cons ht hcolumns hkept⟩

/-! ## A migration -/

/-- What a migration has done to a database at a point where it may stop. -/
structure Migrated (db db' : Tables) : Prop where
  complete : Complete db'
  keeps : Sql.Keeps schema db db'
  users : db' "users" = db "users"
  noRebuild : db' "orders_new" = none

/-- A complete database can be migrated again. -/
theorem Migrated.older {db db' : Tables} (h : Migrated db db') : Older db' := by
  refine ⟨fun name columns hmem => ?_, h.noRebuild⟩
  obtain ⟨t, ht, hc⟩ := h.complete name columns hmem
  exact ⟨t, ht, fun c hmem => .inl (hc c hmem)⟩

theorem Migrated.trans {db db' db'' : Tables} (h : Migrated db db') (h' : Migrated db' db'') :
    Migrated db db'' :=
  ⟨h'.complete, h.keeps.trans h'.keeps, h'.users.trans h.users, h'.noRebuild⟩

/-- The probed columns differ. -/
theorem addedColumns_distinct :
    addedColumns.Pairwise fun a b => a.table = b.table → a.column ≠ b.column := by decide

/-- The probed columns are of tables of the schema other than `users`. -/
theorem addedColumns_table : ∀ a ∈ addedColumns,
    a.table ≠ "users" ∧ ∃ columns, (a.table, columns) ∈ schema := by
  simp [addedColumns, schema]

/-- The first part of a migration: probes that answer, and a transaction that goes through. -/
theorem addAllMissing_migrated {db : Tables} (h : Older db) :
    ∃ missing db', missingColumns db addedColumns = .ok missing ∧
      addAllMissing db missing = .ok db' ∧ Migrated db db' := by
  have htable : ∀ a ∈ addedColumns, ∃ t, db a.table = some t := by
    intro a ha
    obtain ⟨-, columns, hmem⟩ := addedColumns_table a ha
    obtain ⟨t, ht, -⟩ := h.tables a.table columns hmem
    exact ⟨t, ht⟩
  obtain ⟨missing, hmissing, hsub, hlacks, hall⟩ := missingColumns_ok htable
  obtain ⟨db', hdb', hgrown⟩ := addAllMissing_ok (fun a ha => htable a (hsub.subset ha)) hlacks
    (addedColumns_distinct.sublist hsub)
  refine ⟨missing, db', hmissing, hdb', ?_, ?_, ?_, hgrown.absent _ h.noRebuild⟩
  · intro name columns hmem
    obtain ⟨t, ht, hold⟩ := h.tables name columns hmem
    obtain ⟨t', ht', hc, -, -⟩ := hgrown.table name t ht
    refine ⟨t', ht', fun c hcolumn => (hc c).2 ?_⟩
    rcases hold c hcolumn with hthere | ⟨a, ha, rfl, rfl⟩
    · exact .inl hthere
    · by_cases hthere : a.column ∈ t.columns
      · exact .inl hthere
      · have hl : Lacks db a := fun u hu => by rwa [← Option.some.inj (ht.symm.trans hu)]
        exact .inr ⟨a, hall a ha hl, rfl, rfl⟩
  · intro name columns _ t ht
    obtain ⟨t', ht', -, hkept, -⟩ := hgrown.table name t ht
    exact ⟨t', ht', hkept columns⟩
  · obtain ⟨t, ht, -⟩ := h.tables "users" usersColumns (by simp [schema])
    obtain ⟨t', ht', -, -, hsame⟩ := hgrown.table "users" t ht
    rw [ht', ht, hsame fun a ha => (addedColumns_table a (hsub.subset ha)).1]

/-- Replacing `orders` by a table with the same rows, or losing only the obsolete column. -/
theorem Migrated.put_orders {db : Tables} {t t' : Relation} (h : Complete db)
    (hno : db "orders_new" = none) (ht : db "orders" = some t)
    (hcolumns : ∀ c ∈ ordersColumns, c ∈ t'.columns) (hkept : t.KeptIn ordersColumns t') :
    Migrated db (db.put "orders" t') := by
  refine ⟨fun name columns hmem => ?_, Sql.Keeps.of_put ht fun columns hmem => ?_, ?_, ?_⟩
  · by_cases hname : name = "orders"
    · subst hname
      obtain rfl : columns = ordersColumns := by simpa [schema] using hmem
      exact ⟨t', Table.put_self, hcolumns⟩
    · rw [Table.put_of_ne hname]
      exact h name columns hmem
  · obtain rfl : columns = ordersColumns := by simpa [schema] using hmem
    exact hkept
  · rw [Table.put_of_ne (by decide)]
  · rw [Table.put_of_ne (by decide), hno]

theorem obsoleteColumn_notMem : obsoleteColumn ∉ ordersColumns := by decide

/-- `DROP COLUMN` on the obsolete column of a complete database. -/
theorem dropColumn_migrated {db : Tables} {t : Relation} (h : Complete db)
    (hno : db "orders_new" = none) (ht : db "orders" = some t) (hc : obsoleteColumn ∈ t.columns) :
    ∃ db', Sql.dropColumn "orders" obsoleteColumn db = .ok db' ∧ Migrated db db' := by
  obtain ⟨u, hu, hcolumns⟩ := h "orders" ordersColumns (by simp [schema])
  obtain rfl := Option.some.inj (ht.symm.trans hu)
  have hlive : ∀ c ∈ ordersColumns, c ≠ obsoleteColumn :=
    fun c hmem heq => obsoleteColumn_notMem (heq ▸ hmem)
  have hdrop : Sql.dropColumn "orders" obsoleteColumn db = .ok (db.put "orders"
      ⟨t.columns.filter (· ≠ obsoleteColumn),
        t.rows.map fun r => Function.update r obsoleteColumn .null⟩) := by
    simp only [Sql.dropColumn, ht, if_pos hc]
  refine ⟨_, hdrop, .put_orders h hno ht (fun c hmem => ?_) ⟨fun c hthere hmem => ?_, fun r hr => ?_⟩⟩
  · exact List.mem_filter.2 ⟨hcolumns c hmem, decide_eq_true (hlive c hmem)⟩
  · exact List.mem_filter.2 ⟨hthere, decide_eq_true (hlive c hmem)⟩
  · exact ⟨_, List.mem_map_of_mem hr, fun c _ hmem => Function.update_of_ne (hlive c hmem) ..⟩

/-- The rebuild of `orders` on a complete database. -/
theorem rebuild_migrated {db : Tables} {t : Relation} (h : Complete db)
    (hno : db "orders_new" = none) (ht : db "orders" = some t) :
    ∃ db', ordersTableRebuildWithoutSuppressColumn db = .ok db' ∧ Migrated db db' := by
  obtain ⟨u, hu, hcolumns⟩ := h "orders" ordersColumns (by simp [schema])
  obtain rfl := Option.some.inj (ht.symm.trans hu)
  let rows := t.rows.map fun r c => if c ∈ ordersColumns then r c else .null
  have hfind : (ordersColumns.find? fun c => c ∉ t.columns) = none := by
    refine List.find?_eq_none.2 fun c hmem => ?_
    simpa using hcolumns c hmem
  have hcopy : Sql.copyRows "orders" "orders_new" ordersColumns
      (db.put "orders_new" ⟨ordersColumns, []⟩) =
      .ok (db.put "orders_new" ⟨ordersColumns, rows⟩) := by
    simp only [Sql.copyRows, Table.put_of_ne (show "orders" ≠ "orders_new" by decide), ht,
      Table.put_self, hfind, Table.modify_put, List.nil_append, rows]
  have hswap : ((((db.put "orders_new" ⟨ordersColumns, rows⟩).erase "orders").erase
      "orders_new").put "orders" ⟨ordersColumns, rows⟩) = db.put "orders" ⟨ordersColumns, rows⟩ := by
    funext name
    by_cases hname : name = "orders"
    · rw [hname, Table.put_self, Table.put_self]
    · rw [Table.put_of_ne hname, Table.put_of_ne hname]
      by_cases hnew : name = "orders_new"
      · rw [hnew, Table.erase_self, hno]
      · rw [Table.erase_of_ne hnew, Table.erase_of_ne hname, Table.put_of_ne hnew]
  refine ⟨db.put "orders" ⟨ordersColumns, rows⟩, ?_, .put_orders h hno ht (fun c hmem => hmem) ?_⟩
  · have hnew : ((db.put "orders_new" ⟨ordersColumns, rows⟩).erase "orders") "orders_new" =
        some ⟨ordersColumns, rows⟩ := by rw [Table.erase_of_ne (by decide), Table.put_self]
    have hgone : ((db.put "orders_new" ⟨ordersColumns, rows⟩).erase "orders") "orders" = none :=
      Table.erase_self
    have hold : (db.put "orders_new" ⟨ordersColumns, rows⟩) "orders" = some t := by
      rw [Table.put_of_ne (by decide), ht]
    simp only [ordersTableRebuildWithoutSuppressColumn, Sql.createTable, hno, hcopy, Sql.dropTable,
      hold, Sql.renameTable, hnew, hgone, hswap]
  · refine ⟨fun c _ hmem => hmem, fun r hr => ⟨_, List.mem_map_of_mem hr, fun c _ hmem => ?_⟩⟩
    exact if_pos hmem

/-! ## What a connection writes -/

/-- What a connection has written since, and that its file is what it wrote last. -/
structure Conn.Extends (P : DbFile → Prop) (c c' : Conn) : Prop where
  log : ∀ file ∈ c'.log, file ∈ c.log ∨ P file
  last : c.log.getLast? = some c.file → c'.log.getLast? = some c'.file

theorem Conn.Extends.refl {P : DbFile → Prop} (c : Conn) : c.Extends P c :=
  ⟨fun _ h => .inl h, fun h => h⟩

theorem Conn.Extends.write {P : DbFile → Prop} (c : Conn) {file : DbFile} (h : P file) :
    c.Extends P (c.write file) := by
  refine ⟨fun f hf => ?_, fun _ => by simp [Conn.write]⟩
  rcases List.mem_append.1 hf with hf | hf
  · exact .inl hf
  · exact .inr (List.mem_singleton.1 hf ▸ h)

theorem Conn.Extends.trans {P : DbFile → Prop} {c c' c'' : Conn} (h : c.Extends P c')
    (h' : c'.Extends P c'') : c.Extends P c'' :=
  ⟨fun f hf => (h'.log f hf).elim (h.log f) .inr, fun hlast => h'.last (h.last hlast)⟩

/-- The end of a migration. -/
theorem dropObsoleteColumn_spec (env : InitEnv) {db : Tables} {c : Conn}
    (h : Migrated db c.file.tables) :
    ∃ c', dropObsoleteColumn env c = (.ok (), c') ∧
      c.Extends (fun file => Migrated db file.tables) c' ∧ Migrated db c'.file.tables := by
  obtain ⟨t, ht, -⟩ := h.complete "orders" ordersColumns (by simp [schema])
  by_cases hc : obsoleteColumn ∈ t.columns
  · have hdropped : ∃ db', (if sqliteVersionAtLeast env.sqliteVersion 3 35 0 then
        Sql.dropColumn "orders" obsoleteColumn c.file.tables
        else ordersTableRebuildWithoutSuppressColumn c.file.tables) = .ok db' ∧
        Migrated c.file.tables db' := by
      split
      · exact dropColumn_migrated h.complete h.noRebuild ht hc
      · exact rebuild_migrated h.complete h.noRebuild ht
    obtain ⟨db', hdb', hmigrated⟩ := hdropped
    refine ⟨c.write { c.file with tables := db' }, ?_, .write c (h.trans hmigrated),
      h.trans hmigrated⟩
    simp only [dropObsoleteColumn, checkColumnExists_of_table ht, decide_eq_true hc, hdb']
  · refine ⟨c, ?_, .refl c, h⟩
    simp only [dropObsoleteColumn, checkColumnExists_of_table ht, decide_eq_false hc]

/-- `migrate_db` on an older database. -/
theorem migrateDb_spec (env : InitEnv) {c : Conn} (h : Older c.file.tables) :
    ∃ c', migrateDb env c = (.ok (), c') ∧
      c.Extends (fun file => Migrated c.file.tables file.tables) c' ∧
      Migrated c.file.tables c'.file.tables := by
  obtain ⟨missing, db', hmissing, hdb', hmigrated⟩ := addAllMissing_migrated h
  cases missing with
  | nil =>
    obtain rfl : c.file.tables = db' := Except.ok.inj hdb'
    obtain ⟨c', hc', hextends, hfinal⟩ := dropObsoleteColumn_spec env hmigrated
    exact ⟨c', by simp only [migrateDb, hmissing, hc'], hextends, hfinal⟩
  | cons a as =>
    have hwritten : Migrated c.file.tables (c.write { c.file with tables := db' }).file.tables :=
      hmigrated
    obtain ⟨c', hc', hextends, hfinal⟩ := dropObsoleteColumn_spec env hwritten
    refine ⟨c', by simp only [migrateDb, hmissing, hdb', hc'], ?_, hfinal⟩
    exact (Conn.Extends.write c hmigrated).trans hextends

/-! ## Runs of `init_db` -/

/-- The directory, when it is not there yet. -/
def dirLog (disk : Disk) : List Disk := if disk.appDir then [] else [{ disk with appDir := true }]

theorem dbFile_of_mem_dirLog {disk d : Disk} (h : d ∈ dirLog disk) : d.dbFile = disk.dbFile := by
  unfold dirLog at h
  split at h
  · cases h
  · obtain rfl := List.mem_singleton.1 h
    rfl

/-- `init_db` on an older database: it migrates it, through states that are migrations of it. -/
theorem initDb_of_older (env : InitEnv) {disk : Disk} {file : DbFile} (hfile : disk.dbFile = some file)
    (h : Older file.tables) :
    (initDb env disk).result = .ok () ∧
      (∀ d ∈ (initDb env disk).log, ∃ f, d.dbFile = some f ∧
        (f.tables = file.tables ∨ Migrated file.tables f.tables)) ∧
      ∃ f, ((initDb env disk).final disk).dbFile = some f ∧ Migrated file.tables f.tables := by
  obtain ⟨c, hc, hextends, hfinal⟩ := migrateDb_spec env (c := configureSqlitePool { file := file }) h
  have hrun : initDb env disk =
      ⟨.ok (), dirLog disk ++ c.log.map fun file => ⟨true, some file⟩⟩ := by
    simp only [initDb, hfile, hc, dirLog]
  rw [hrun]
  refine ⟨rfl, fun d hd => ?_, c.file, ?_, hfinal⟩
  · rcases List.mem_append.1 hd with hd | hd
    · exact ⟨file, (dbFile_of_mem_dirLog hd).trans hfile, .inl rfl⟩
    · obtain ⟨f, hf, rfl⟩ := List.mem_map.1 hd
      refine ⟨f, rfl, ?_⟩
      rcases hextends.log f hf with hf | hf
      · obtain rfl : f = { file with wal := true } := by
          simpa [configureSqlitePool, Conn.write] using hf
        exact .inl rfl
      · exact .inr hf
  · have hlast := hextends.last (by simp [configureSqlitePool, Conn.write])
    simp [InitRun.final, List.getLast?_append, List.getLast?_map, hlast]

/-- `init_db` on a file without the table of the first probe stops there. -/
theorem initDb_of_no_table (env : InitEnv) {disk : Disk} {file : DbFile}
    (hfile : disk.dbFile = some file) (h : file.tables "admin_disputes" = none) :
    (initDb env disk).result = .error (.noSuchTable "admin_disputes") := by
  have hprobe : missingColumns file.tables addedColumns =
      .error (.noSuchTable "admin_disputes") := by
    simp [addedColumns, missingColumns, checkColumnExists, Sql.selectColumn, h]
  simp only [initDb, hfile, migrateDb, configureSqlitePool, Conn.write, hprobe]

/-- A database with `orders` only. -/
def ordersOnly : Tables := Table.empty.put "orders" ⟨ordersColumns, []⟩

/-- A database with `orders` and `users` only. -/
def ordersAndUsers : Tables := ordersOnly.put "users" ⟨usersColumns, []⟩

/-- The schema without a row. -/
def emptySchema : Tables := ordersAndUsers.put "admin_disputes" ⟨adminDisputesColumns, []⟩

/-- The schema with the first user. -/
def firstUser (user : User) : Tables := emptySchema.put "users" ⟨usersColumns, [userRow user]⟩

/-- The tables come one after the other. -/
theorem createSchema_new : createSchema (configureSqlitePool { file := {} }) =
    { file := ⟨true, emptySchema⟩
      log := [⟨true, .empty⟩, ⟨true, ordersOnly⟩, ⟨true, ordersAndUsers⟩, ⟨true, emptySchema⟩] } := by
  simp [createSchema, schema, configureSqlitePool, Conn.write, Sql.createTableIfNotExists,
    emptySchema, ordersAndUsers, ordersOnly]

/-- The user comes last, if it can be made. -/
theorem createUser_new (env : InitEnv) (log : List DbFile) :
    (∃ user, env.newUser = .ok user ∧
      createUser env { file := ⟨true, emptySchema⟩, log := log } =
        (.ok (), { file := ⟨true, firstUser user⟩, log := log ++ [⟨true, firstUser user⟩] })) ∨
    ∃ e, env.newUser = .error e ∧
      createUser env { file := ⟨true, emptySchema⟩, log := log } =
        (.error (.other e), { file := ⟨true, emptySchema⟩, log := log }) := by
  have husers : emptySchema "users" = some ⟨usersColumns, []⟩ := by
    simp [emptySchema, ordersAndUsers]
  cases hnew : env.newUser with
  | error e => exact .inr ⟨e, rfl, by simp [createUser, husers, hnew]⟩
  | ok user =>
    refine .inl ⟨user, rfl, ?_⟩
    simp [createUser, husers, hnew, Conn.write, Sql.insertRow, Table.modify, firstUser, Table.put]

/-- What a first run leaves when it is not interrupted. -/
theorem initDb_of_none {env : InitEnv} {disk : Disk} {user : User} (hnone : disk.dbFile = none)
    (hnew : env.newUser = .ok user) :
    (initDb env disk).result = .ok () ∧
      ((initDb env disk).final disk).dbFile = some ⟨true, firstUser user⟩ := by
  rcases createUser_new env
    [⟨true, .empty⟩, ⟨true, ordersOnly⟩, ⟨true, ordersAndUsers⟩, ⟨true, emptySchema⟩] with
    ⟨user', hnew', hrun⟩ | ⟨e, hnew', -⟩
  · obtain rfl : user = user' := Except.ok.inj (hnew.symm.trans hnew')
    simp [initDb, hnone, createSchema_new, hrun, InitRun.final]
  · rw [hnew] at hnew'
    cases hnew'

/-- The states of the file in a first run. -/
inductive FirstRunFile : DbFile → Prop
  | noTable {file : DbFile} : file.tables "admin_disputes" = none →
      (∀ t, file.tables "users" = some t → t.rows = []) → FirstRunFile file
  | noUser {file : DbFile} : file.tables = emptySchema → FirstRunFile file
  | created {file : DbFile} (user : User) : file.tables = firstUser user → FirstRunFile file

/-- The files before the user's row. -/
def filesWithoutUser : List DbFile :=
  [{}, ⟨true, .empty⟩, ⟨true, ordersOnly⟩, ⟨true, ordersAndUsers⟩, ⟨true, emptySchema⟩]

theorem FirstRunFile.of_mem {file : DbFile} (h : file ∈ filesWithoutUser) : FirstRunFile file := by
  simp only [filesWithoutUser, List.mem_cons, List.not_mem_nil, or_false] at h
  rcases h with rfl | rfl | rfl | rfl | rfl
  · exact .noTable rfl (by simp)
  · exact .noTable rfl (by simp)
  · exact .noTable (by simp [ordersOnly]) (by simp [ordersOnly])
  · refine .noTable (by simp [ordersAndUsers, ordersOnly]) fun t ht => ?_
    obtain rfl : ⟨usersColumns, []⟩ = t := by simpa [ordersAndUsers] using ht
    rfl
  · exact .noUser rfl

/-- Where a first run can be interrupted: before the file is there, or in one of its states. -/
theorem firstRun_crashPoints {env : InitEnv} {disk crashed : Disk} (hnone : disk.dbFile = none)
    (h : crashed ∈ crashPoints env disk) :
    crashed.dbFile = none ∨ ∃ file, crashed.dbFile = some file ∧ FirstRunFile file := by
  have hlog : ∃ result files, initDb env disk =
      ⟨result, dirLog disk ++ List.map (fun file => ⟨true, some file⟩) files⟩ ∧
        ∀ file ∈ files, FirstRunFile file := by
    rcases createUser_new env
      [⟨true, .empty⟩, ⟨true, ordersOnly⟩, ⟨true, ordersAndUsers⟩, ⟨true, emptySchema⟩] with
      ⟨user, -, hrun⟩ | ⟨e, -, hrun⟩
    · refine ⟨.ok (), filesWithoutUser ++ [⟨true, firstUser user⟩], ?_, fun file hfile => ?_⟩
      · simp [initDb, hnone, createSchema_new, hrun, dirLog, filesWithoutUser]
      · rcases List.mem_append.1 hfile with hfile | hfile
        · exact .of_mem hfile
        · exact .created user (List.mem_singleton.1 hfile ▸ rfl)
    · refine ⟨.error (.other e), filesWithoutUser, ?_, fun file => .of_mem⟩
      simp [initDb, hnone, createSchema_new, hrun, dirLog, filesWithoutUser]
  obtain ⟨result, files, hrun, hfiles⟩ := hlog
  rw [crashPoints, hrun] at h
  rcases List.mem_cons.1 h with rfl | hmem
  · exact .inl hnone
  rcases List.mem_append.1 hmem with hmem | hmem
  · exact .inl ((dbFile_of_mem_dirLog hmem).trans hnone)
  · obtain ⟨file, hfile, rfl⟩ := List.mem_map.1 hmem
    exact .inr ⟨file, rfl, hfiles file hfile⟩

/-! ## Which crashes the next run repairs -/

theorem complete_emptySchema : Complete emptySchema := by
  intro name columns hmem
  simp only [schema, List.mem_cons, Prod.mk.injEq, List.not_mem_nil, or_false] at hmem
  rcases hmem with ⟨rfl, rfl⟩ | ⟨rfl, rfl⟩ | ⟨rfl, rfl⟩ <;>
    simp [emptySchema, ordersAndUsers, ordersOnly]

theorem complete_firstUser (user : User) : Complete (firstUser user) := by
  intro name columns hmem
  obtain ⟨t, ht, hc⟩ := complete_emptySchema name columns hmem
  by_cases hname : name = "users"
  · subst hname
    obtain rfl : columns = usersColumns := by simpa [schema] using hmem
    exact ⟨_, Table.put_self, fun c hc => hc⟩
  · exact ⟨t, by rw [firstUser, Table.put_of_ne hname, ht], hc⟩

/-- A complete database is an older one of which nothing is missing. -/
theorem Complete.older {db : Tables} (h : Complete db) (hno : db "orders_new" = none) :
    Older db := by
  have hself : Migrated db db := ⟨h, .refl schema db, rfl, hno⟩
  exact hself.older

theorem older_emptySchema : Older emptySchema :=
  complete_emptySchema.older (by simp [emptySchema, ordersAndUsers, ordersOnly])

theorem older_firstUser (user : User) : Older (firstUser user) :=
  (complete_firstUser user).older (by simp [firstUser, emptySchema, ordersAndUsers, ordersOnly])

/-- A run on an older database with one user repairs everything up to it. -/
theorem recovers_of_older (env : InitEnv) {disk crashed : Disk} {file : DbFile}
    (hfile : crashed.dbFile = some file) (h : Older file.tables) (huser : OneUser file.tables)
    (hkeeps : KeepsRows disk file) : Recovers env disk crashed := by
  obtain ⟨hresult, -, f, hf, hmigrated⟩ := initDb_of_older env hfile h
  refine ⟨hresult, f, hf, hmigrated.complete, ?_, fun g hg => ?_, fun g hg => ?_⟩
  · obtain ⟨t, ht, hone⟩ := huser
    exact ⟨t, hmigrated.users.trans ht, hone⟩
  · exact (hkeeps g hg).trans hmigrated.keeps
  · obtain rfl := Option.some.inj (hfile.symm.trans hg)
    exact hmigrated.keeps

/-- A run without a file starts from nothing. -/
theorem recovers_of_none {env : InitEnv} {disk crashed : Disk} {user : User}
    (hdisk : disk.dbFile = none) (hcrashed : crashed.dbFile = none) (hnew : env.newUser = .ok user) :
    Recovers env disk crashed := by
  obtain ⟨hresult, hfinal⟩ := initDb_of_none hcrashed hnew
  have huser : OneUser (firstUser user) := ⟨⟨usersColumns, [userRow user]⟩, Table.put_self, rfl⟩
  refine ⟨hresult, _, hfinal, complete_firstUser user, huser, fun g hg => ?_, fun g hg => ?_⟩
  · rw [hdisk] at hg
    cases hg
  · rw [hcrashed] at hg
    cases hg

/-- With tables missing the next run fails, and with an empty `users` it makes no user. -/
theorem not_recovers (env : InitEnv) {disk crashed : Disk} {file : DbFile}
    (hfile : crashed.dbFile = some file)
    (h : file.tables "admin_disputes" = none ∨ file.tables = emptySchema) :
    ¬ Recovers env disk crashed := by
  rintro ⟨hresult, f, hf, -, ⟨t, ht, hone⟩, -⟩
  rcases h with h | h
  · rw [initDb_of_no_table env hfile h] at hresult
    cases hresult
  · obtain ⟨-, -, f', hf', hmigrated⟩ := initDb_of_older env hfile (h ▸ older_emptySchema)
    obtain rfl := Option.some.inj (hf.symm.trans hf')
    have husers : file.tables "users" = some ⟨usersColumns, []⟩ := by
      simp [h, emptySchema, ordersAndUsers]
    obtain rfl := Option.some.inj ((hmigrated.users.trans husers).symm.trans ht)
    cases hone

/-- The next run repairs what a crash left exactly when the file was not there yet or its user
already was; of a migration that is every crash. -/
theorem initDb_crash_safe_iff (env env' : InitEnv) (hnew : ∃ user, env'.newUser = .ok user)
    (disk : Disk) (hstart : Start disk) (crashed : Disk) (h : crashed ∈ crashPoints env disk) :
    Recovers env' disk crashed ↔ CrashOk crashed := by
  obtain ⟨user, hnew⟩ := hnew
  rcases hstart with hnone | ⟨file, hfile, hold, huser⟩
  · rcases firstRun_crashPoints hnone h with hcrashed | ⟨file, hcrashed, hstate⟩
    · refine iff_of_true (recovers_of_none hnone hcrashed hnew) fun file hfile => ?_
      rw [hcrashed] at hfile
      cases hfile
    have hnot : (∀ t, file.tables "users" = some t → t.rows = []) → ¬ CrashOk crashed := by
      intro hempty hok
      obtain ⟨t, ht, hne⟩ := hok file hcrashed
      exact hne (hempty t ht)
    cases hstate with
    | noTable htable hempty =>
      exact iff_of_false (not_recovers env' hcrashed (.inl htable)) (hnot hempty)
    | noUser hschema =>
      refine iff_of_false (not_recovers env' hcrashed (.inr hschema)) (hnot fun t ht => ?_)
      obtain rfl : ⟨usersColumns, []⟩ = t := by
        simpa [hschema, emptySchema, ordersAndUsers] using ht
      rfl
    | created user' hcreated =>
      have husers : file.tables "users" = some ⟨usersColumns, [userRow user']⟩ := by
        rw [hcreated, firstUser, Table.put_self]
      refine iff_of_true (recovers_of_older env' hcrashed ?_ ⟨_, husers, rfl⟩ fun g hg => ?_) ?_
      · rw [hcreated]
        exact older_firstUser user'
      · rw [hnone] at hg
        cases hg
      · intro g hg
        obtain rfl := Option.some.inj (hcrashed.symm.trans hg)
        exact ⟨_, husers, List.cons_ne_nil _ _⟩
  · have hstate : ∃ f, crashed.dbFile = some f ∧
        (f.tables = file.tables ∨ Migrated file.tables f.tables) := by
      rcases List.mem_cons.1 h with rfl | hmem
      · exact ⟨file, hfile, .inl rfl⟩
      · exact (initDb_of_older env hfile hold).2.1 crashed hmem
    obtain ⟨f, hf, hreached⟩ := hstate
    have holder : Older f.tables := by
      rcases hreached with heq | hmigrated
      · exact heq ▸ hold
      · exact hmigrated.older
    have husers : f.tables "users" = file.tables "users" := by
      rcases hreached with heq | hmigrated
      · rw [heq]
      · exact hmigrated.users
    obtain ⟨t, ht, hone⟩ := huser
    refine iff_of_true (recovers_of_older env' hf holder ⟨t, husers.trans ht, hone⟩ fun g hg => ?_) ?_
    · obtain rfl := Option.some.inj (hfile.symm.trans hg)
      rcases hreached with heq | hmigrated
      · exact heq ▸ .refl schema file.tables
      · exact hmigrated.keeps
    · intro g hg
      obtain rfl := Option.some.inj (hf.symm.trans hg)
      refine ⟨t, husers.trans ht, fun hnil => ?_⟩
      rw [hnil] at hone
      cases hone

/-- An environment in which a user can be made. -/
def plainEnv : InitEnv where
  sqliteVersion := "3.46.0"
  newUser := .ok { i0Pubkey := "02c6", mnemonic := "abandon about", createdAt := 0 }

/-- A first run that stops right after `File::create` is not repaired. -/
theorem initDb_not_crash_safe_after_create :
    ¬ Recovers plainEnv ⟨true, none⟩ ⟨true, some {}⟩ := by
  have hmem : ⟨true, some {}⟩ ∈ crashPoints plainEnv ⟨true, none⟩ := .tail _ (.head _)
  rw [initDb_crash_safe_iff plainEnv plainEnv ⟨_, rfl⟩ ⟨true, none⟩ (.inl rfl) _ hmem]
  intro hok
  obtain ⟨t, ht, -⟩ := hok {} rfl
  cases ht

/-- Not every crash is repaired: an empty file is taken for a database. -/
theorem initDb_not_crash_safe : ¬ ∀ (env env' : InitEnv), (∃ user, env'.newUser = .ok user) →
    ∀ disk, Start disk → ∀ crashed ∈ crashPoints env disk, Recovers env' disk crashed := by
  intro h
  have hmem : ⟨true, some {}⟩ ∈ crashPoints plainEnv ⟨true, none⟩ := .tail _ (.head _)
  have hrecovers := h plainEnv plainEnv ⟨_, rfl⟩ ⟨true, none⟩ (.inl rfl) _ hmem
  exact not_recovers plainEnv rfl (.inl rfl) hrecovers

end Mostrix.Database
