import Mostrix.Library.Table

/-!
# Tables with columns

A small piece of SQL: named tables whose columns come and go. A row is a function from column names
to values, of which only the table's columns matter. The statements are those a schema migration
uses, with the errors a database raises on them. `Keeps live` says that no row is lost between two
states: every row is still there with the same values in the live columns.
-/

namespace Sql

/-- A value of a column. -/
inductive Value
  | null
  | integer (n : Int)
  | text (s : String)
deriving DecidableEq, Repr

/-- A row. -/
abbrev Row := String → Value

/-- A table. -/
structure Relation where
  columns : List String
  rows : List Row

/-- The tables of a database by name. -/
abbrev Tables := Table String Relation

/-- What the database answers instead. -/
inductive Error
  | noSuchTable (name : String)
  | noSuchColumn (column : String)
  | duplicateColumn (column : String)
  | tableExists (name : String)
  /-- An error of the program that issues the statements. -/
  | other (message : String)
deriving DecidableEq, Repr

/-! ## Statements -/

/-- `CREATE TABLE IF NOT EXISTS`. -/
def createTableIfNotExists (name : String) (columns : List String) (db : Tables) : Tables :=
  match db name with
  | some _ => db
  | none => db.put name ⟨columns, []⟩

/-- `CREATE TABLE`. -/
def createTable (name : String) (columns : List String) (db : Tables) : Except Error Tables :=
  match db name with
  | some _ => .error (.tableExists name)
  | none => .ok (db.put name ⟨columns, []⟩)

/-- `SELECT column FROM name LIMIT 1`, of which only the error is looked at. -/
def selectColumn (name column : String) (db : Tables) : Except Error Unit :=
  match db name with
  | none => .error (.noSuchTable name)
  | some t => if column ∈ t.columns then .ok () else .error (.noSuchColumn column)

/-- `ALTER TABLE name ADD COLUMN column … DEFAULT v`. -/
def addColumn (name column : String) (default : Value) (db : Tables) : Except Error Tables :=
  match db name with
  | none => .error (.noSuchTable name)
  | some t =>
    if column ∈ t.columns then .error (.duplicateColumn column)
    else
      .ok (db.put name ⟨t.columns ++ [column], t.rows.map fun r => Function.update r column default⟩)

/-- `ALTER TABLE name DROP COLUMN column`. -/
def dropColumn (name column : String) (db : Tables) : Except Error Tables :=
  match db name with
  | none => .error (.noSuchTable name)
  | some t =>
    if column ∈ t.columns then
      .ok (db.put name
        ⟨t.columns.filter (· ≠ column), t.rows.map fun r => Function.update r column .null⟩)
    else .error (.noSuchColumn column)

/-- `UPDATE name SET …`. -/
def updateRows (name : String) (f : Row → Row) (db : Tables) : Tables :=
  db.modify name fun t => { t with rows := t.rows.map f }

/-- `INSERT INTO name VALUES …`. -/
def insertRow (name : String) (row : Row) (db : Tables) : Tables :=
  db.modify name fun t => { t with rows := t.rows ++ [row] }

/-- `INSERT INTO target (columns) SELECT columns FROM source`. -/
def copyRows (source target : String) (columns : List String) (db : Tables) : Except Error Tables :=
  match db source, db target with
  | none, _ => .error (.noSuchTable source)
  | _, none => .error (.noSuchTable target)
  | some s, some _ =>
    match columns.find? fun c => c ∉ s.columns with
    | some column => .error (.noSuchColumn column)
    | none =>
      .ok (db.modify target fun t =>
        { t with rows := t.rows ++ s.rows.map fun r c => if c ∈ columns then r c else .null })

/-- `DROP TABLE`. -/
def dropTable (name : String) (db : Tables) : Except Error Tables :=
  match db name with
  | none => .error (.noSuchTable name)
  | some _ => .ok (db.erase name)

/-- `ALTER TABLE name RENAME TO newName`. -/
def renameTable (name newName : String) (db : Tables) : Except Error Tables :=
  match db name, db newName with
  | none, _ => .error (.noSuchTable name)
  | _, some _ => .error (.tableExists newName)
  | some t, none => .ok ((db.erase name).put newName t)

/-! ## No row is lost -/

/-- Every row of one table is in the other, with the same values in the live columns it had. -/
def Relation.KeptIn (live : List String) (t t' : Relation) : Prop :=
  (∀ c ∈ t.columns, c ∈ live → c ∈ t'.columns) ∧
    ∀ r ∈ t.rows, ∃ r' ∈ t'.rows, ∀ c ∈ t.columns, c ∈ live → r' c = r c

/-- No row of the tables listed is lost, nor a value in the columns listed with them. -/
def Keeps (live : List (String × List String)) (db db' : Tables) : Prop :=
  ∀ name columns, (name, columns) ∈ live → ∀ t, db name = some t →
    ∃ t', db' name = some t' ∧ t.KeptIn columns t'

theorem Relation.KeptIn.refl (live : List String) (t : Relation) : t.KeptIn live t :=
  ⟨fun _ hc _ => hc, fun r hr => ⟨r, hr, fun _ _ _ => rfl⟩⟩

theorem Relation.KeptIn.trans {live : List String} {t u v : Relation} (h : t.KeptIn live u)
    (h' : u.KeptIn live v) : t.KeptIn live v := by
  refine ⟨fun c hc hl => h'.1 c (h.1 c hc hl) hl, fun r hr => ?_⟩
  obtain ⟨r', hr', heq⟩ := h.2 r hr
  obtain ⟨r'', hr'', heq'⟩ := h'.2 r' hr'
  exact ⟨r'', hr'', fun c hc hl => (heq' c (h.1 c hc hl) hl).trans (heq c hc hl)⟩

theorem Keeps.refl (live : List (String × List String)) (db : Tables) : Keeps live db db :=
  fun _ columns _ t ht => ⟨t, ht, .refl columns t⟩

theorem Keeps.trans {live : List (String × List String)} {db db' db'' : Tables}
    (h : Keeps live db db') (h' : Keeps live db' db'') : Keeps live db db'' := by
  intro name columns hmem t ht
  obtain ⟨t', ht', hkept⟩ := h name columns hmem t ht
  obtain ⟨t'', ht'', hkept'⟩ := h' name columns hmem t' ht'
  exact ⟨t'', ht'', hkept.trans hkept'⟩

/-- A statement on one table loses nothing that it keeps of that table. -/
theorem Keeps.of_put {live : List (String × List String)} {db : Tables} {name : String}
    {t t' : Relation} (ht : db name = some t)
    (h : ∀ columns, (name, columns) ∈ live → t.KeptIn columns t') :
    Keeps live db (db.put name t') := by
  intro other columns hmem u hu
  by_cases hname : other = name
  · subst hname
    obtain rfl := Option.some.inj (ht.symm.trans hu)
    exact ⟨t', Table.put_self, h columns hmem⟩
  · exact ⟨u, by rw [Table.put_of_ne hname, hu], .refl columns u⟩

/-- Setting a column the table does not have keeps its rows. -/
theorem keptIn_map_update {live : List String} {t : Relation} {column : String} {columns : List String}
    {f : Row → Row} (hcolumn : column ∉ t.columns) (hcolumns : ∀ c ∈ t.columns, c ∈ columns)
    (hf : ∀ r c, c ≠ column → f r c = r c) : t.KeptIn live ⟨columns, t.rows.map f⟩ := by
  refine ⟨fun c hc _ => hcolumns c hc, fun r hr => ⟨f r, List.mem_map_of_mem hr, fun c hc _ => ?_⟩⟩
  refine hf r c ?_
  rintro rfl
  exact hcolumn hc

end Sql
