import Mathlib.Data.List.Nodup
import Mathlib.Logic.Function.Basic
import Mathlib.Tactic.SplitIfs
import TunnelitRelay.Data.Text

namespace TunnelitRelay.Data

/-! # Tables of a database file, and changes of their columns

A file keeps its tables under their names.  A column is only ever added at the
end, and every row that is already there then holds the default of the column.
-/

inductive SqlValue where
  | null
  | integer (value : Int)
  | text (value : String)
deriving DecidableEq, Repr

inductive Affinity where
  | text
  | integer
deriving DecidableEq, Repr

inductive Key where
  | primary
  | unique
deriving DecidableEq, Repr

structure Column where
  name : String
  affinity : Affinity
  notNull : Bool
  key : Option Key
  /-- `null` where the declaration gives none. -/
  default : SqlValue
deriving DecidableEq, Repr

/-- `FOREIGN KEY (column) REFERENCES table(target) ON DELETE CASCADE`. -/
structure Reference where
  column : String
  table : String
  target : String
deriving DecidableEq, Repr

structure Table where
  columns : List Column
  references : List Reference
  rows : List (List SqlValue)
  fits : ∀ row ∈ rows, row.length = columns.length

/-- The tables by their names, folded to lower case. -/
abbrev DbFile := String → Option Table

theorem mapM_congr {α β : Type} {items : List α} {left right : α → Option β}
    (same : ∀ item ∈ items, left item = right item) : items.mapM left = items.mapM right := by
  induction items with
  | nil => rfl
  | cons first rest ih =>
      rw [List.mapM_cons, List.mapM_cons, same first List.mem_cons_self,
        ih fun item member => same item (List.mem_cons_of_mem _ member)]

theorem mapM_some {α β : Type} {items : List α} {value : α → β} :
    items.mapM (fun item => some (value item)) = some (items.map value) :=
  List.mapM_pure

namespace Table

@[ext] theorem ext {left right : Table} (columns : left.columns = right.columns)
    (references : left.references = right.references) (rows : left.rows = right.rows) : left = right := by
  cases left
  cases right
  cases columns
  cases references
  cases rows
  rfl

def fresh (columns : List Column) (references : List Reference) : Table where
  columns := columns
  references := references
  rows := []
  fits := by simp

/-- There is a column of this name, whatever its case. -/
def has (table : Table) (name : String) : Prop :=
  ∃ column ∈ table.columns, lower column.name = lower name

/-- The value of a row under a column name; a column that is missing reads as
what is assumed of it. -/
def read (assumed : String → Option SqlValue) (table : Table) (row : List SqlValue) (name : String) :
    Option SqlValue :=
  match (table.columns.zip row).find? fun entry => lower entry.1.name == lower name with
  | some entry => some entry.2
  | none => assumed name

/-- A row read under all column names of its table. -/
theorem read_all {table : Table} (distinct : (table.columns.map fun column => lower column.name).Nodup)
    {assumed : String → Option SqlValue} {row : List SqlValue} (member : row ∈ table.rows) :
    (table.columns.map (·.name)).mapM (table.read assumed row) = some row := by
  have width := table.fits row member
  have columns : (table.columns.zip row).map Prod.fst = table.columns := List.map_fst_zip (Nat.le_of_eq width.symm)
  have values : (table.columns.zip row).map Prod.snd = row := List.map_snd_zip (Nat.le_of_eq width)
  have keys : ((table.columns.zip row).map fun entry => lower entry.1.name).Nodup := by
    rw [← columns, List.map_map] at distinct
    exact distinct
  have each : ∀ entry ∈ table.columns.zip row, table.read assumed row entry.1.name = some entry.2 := by
    intro entry paired
    unfold read
    cases found : (table.columns.zip row).find? fun other => lower other.1.name == lower entry.1.name with
    | none => simpa using List.find?_eq_none.mp found entry paired
    | some chosen =>
        have same : chosen = entry := List.inj_on_of_nodup_map keys (List.mem_of_find?_eq_some found) paired
          (by simpa using List.find?_some found)
        rw [same]
  have names : table.columns.map (·.name) = (table.columns.zip row).map fun entry => entry.1.name := by
    nth_rewrite 1 [← columns]
    exact List.map_map
  calc (table.columns.map (·.name)).mapM (table.read assumed row)
      = (table.columns.zip row).mapM fun entry => table.read assumed row entry.1.name := by
        rw [names, List.mapM_map, Function.comp_def]
    _ = (table.columns.zip row).mapM fun entry => some entry.2 := mapM_congr each
    _ = some row := by rw [mapM_some, values]

/-- `ALTER TABLE .. ADD COLUMN ..`. -/
def addColumn (table : Table) (column : Column) : Except String Table :=
  if table.columns.any fun other => lower other.name == lower column.name then
    .error ("duplicate column name: " ++ column.name)
  else if column.key = some .primary then .error "Cannot add a PRIMARY KEY column"
  else if column.key = some .unique then .error "Cannot add a UNIQUE column"
  else if column.notNull = true ∧ column.default = .null then
    .error "Cannot add a NOT NULL column with default value NULL"
  else .ok {
    columns := table.columns ++ [column]
    references := table.references
    rows := table.rows.map (· ++ [column.default])
    fits := by
      intro row member
      obtain ⟨old, there, rfl⟩ := List.mem_map.mp member
      simp [table.fits old there] }

/-- Every column that may be added under this name. -/
def Addable (column : Column) : Prop :=
  column.key = none ∧ ¬ (column.notNull = true ∧ column.default = .null)

instance (column : Column) : Decidable (Addable column) :=
  inferInstanceAs (Decidable (column.key = none ∧ ¬ (column.notNull = true ∧ column.default = .null)))

/-- What adding a column does, if it succeeds. -/
theorem addColumn_ok {table after : Table} {column : Column} (added : table.addColumn column = .ok after) :
    ¬ table.has column.name ∧ after.columns = table.columns ++ [column] ∧
      after.references = table.references ∧ after.rows = table.rows.map (· ++ [column.default]) := by
  unfold addColumn at added
  split_ifs at added with present
  cases added
  refine ⟨fun ⟨other, member, same⟩ => present ?_, rfl, rfl, rfl⟩
  exact List.any_eq_true.mpr ⟨other, member, beq_iff_eq.mpr same⟩

/-- A column that may be added is added, unless there is one of its name. -/
theorem addColumn_error {table : Table} {column : Column} {message : String} (addable : Addable column)
    (refused : table.addColumn column = .error message) : table.has column.name := by
  unfold addColumn at refused
  obtain ⟨keyless, defaulted⟩ := addable
  split_ifs at refused with present primary unique
  · obtain ⟨other, member, same⟩ := List.any_eq_true.mp present
    exact ⟨other, member, beq_iff_eq.mp same⟩
  · simp [keyless] at primary
  · simp [keyless] at unique

/-! ## Tables that have grown by columns -/

/-- The columns are those of the old table with these added, and every row has
kept its values and holds the defaults of the new columns. -/
structure Grown (before after : Table) (added : List Column) : Prop where
  columns : after.columns = before.columns ++ added
  references : after.references = before.references
  rows : after.rows = before.rows.map (· ++ added.map (·.default))
  /-- No column is added beside another of its name. -/
  fresh : ∀ column ∈ added, ¬ before.has column.name

theorem Grown.refl (table : Table) : table.Grown table [] := by
  constructor <;> simp

theorem Grown.has {before after : Table} {added : List Column} (grown : before.Grown after added) {name : String} :
    after.has name ↔ before.has name ∨ ∃ column ∈ added, lower column.name = lower name := by
  simp only [Table.has, grown.columns, List.mem_append, or_and_right, exists_or]

theorem Grown.trans {before middle after : Table} {first second : List Column}
    (grown : before.Grown middle first) (more : middle.Grown after second) :
    before.Grown after (first ++ second) := by
  constructor
  · rw [more.columns, grown.columns, List.append_assoc]
  · rw [more.references, grown.references]
  · rw [more.rows, grown.rows, List.map_map, List.map_append]
    exact List.map_congr_left fun row _ => by simp [List.append_assoc]
  · intro column member
    rcases List.mem_append.mp member with old | new
    · exact grown.fresh column old
    · exact fun there => more.fresh column new (grown.has.mpr (.inl there))

theorem addColumn_grown {table after : Table} {column : Column} (added : table.addColumn column = .ok after) :
    table.Grown after [column] := by
  obtain ⟨absent, columns, references, rows⟩ := addColumn_ok added
  exact ⟨columns, references, rows, fun other member => List.mem_singleton.mp member ▸ absent⟩

/-- Reading the grown table is reading the old one with the defaults assumed. -/
theorem Grown.read {before after : Table} {added : List Column} (grown : before.Grown after added)
    {row : List SqlValue} (member : row ∈ before.rows) {name : String} {assumed : String → Option SqlValue}
    (defaults : ¬ before.has name →
      (added.find? fun column => lower column.name == lower name).map (·.default) = assumed name) :
    after.read (fun _ => none) (row ++ added.map (·.default)) name = before.read assumed row name := by
  have width := before.fits row member
  have news : added.zip (added.map (·.default)) = added.map fun column => (column, column.default) := by
    simpa using @List.zip_map' _ _ _ id (·.default) added
  unfold Table.read
  rw [grown.columns, List.zip_append width.symm, List.find?_append, news, List.find?_map]
  cases found : (before.columns.zip row).find? fun entry => lower entry.1.name == lower name with
  | some entry => rfl
  | none =>
      have absent : ¬ before.has name := by
        rintro ⟨column, listed, same⟩
        obtain ⟨index, inside, rfl⟩ := List.mem_iff_getElem.mp listed
        have paired : (before.columns[index], row[index]) ∈ before.columns.zip row :=
          List.mem_iff_getElem.mpr ⟨index, by simp [width, inside], by simp⟩
        simpa [same] using List.find?_eq_none.mp found _ paired
      rw [← defaults absent]
      simp only [Option.none_or, Function.comp_def]
      cases added.find? fun column => lower column.name == lower name <;> rfl

end Table

/-! ## Statements on a file -/

/-- One statement: it is refused with a message, or it runs. -/
def statement {α : Type} (refused : Nat → Option String) (number : Nat) (run : Except String α) : Except String α :=
  match refused number with
  | some message => .error message
  | none => run

theorem statement_bind_ok {α β : Type} {refused : Nat → Option String} {number : Nat} {value : α}
    {rest : α → Except String β} {after : β} :
    (statement refused number (.ok value) >>= rest) = .ok after ↔ refused number = none ∧ rest value = .ok after := by
  unfold statement
  cases refused number with
  | some message => simp [bind, Except.bind]
  | none => simp [bind, Except.bind]

namespace DbFile

/-- `CREATE TABLE IF NOT EXISTS`. -/
def createIfAbsent (file : DbFile) (name : String) (table : Table) : DbFile :=
  match file name with
  | some _ => file
  | none => Function.update file name (some table)

def createAll (tables : List (String × Table)) (file : DbFile) : DbFile :=
  tables.foldl (fun file entry => file.createIfAbsent entry.1 entry.2) file

def addColumn (file : DbFile) (name : String) (column : Column) : Except String DbFile :=
  match file name with
  | some table => (table.addColumn column).map fun after => Function.update file name (some after)
  | none => .error ("no such table: " ++ name)

/-- A change whose failure is passed over. -/
def attempt (file : DbFile) (change : Except String DbFile) : DbFile :=
  match change with
  | .ok after => after
  | .error _ => file

/-- Try to add columns to tables, one after the other. -/
def migrate (refused : Nat → Option String) : Nat → List (String × Column) → DbFile → DbFile
  | _, [], file => file
  | number, (name, column) :: rest, file =>
      migrate refused (number + 1) rest (file.attempt (statement refused number (file.addColumn name column)))

theorem createIfAbsent_same {file : DbFile} {name : String} {table : Table} :
    file.createIfAbsent name table name = some ((file name).getD table) := by
  cases found : file name <;> simp [createIfAbsent, found]

theorem createIfAbsent_other {file : DbFile} {name other : String} {table : Table} (different : other ≠ name) :
    file.createIfAbsent name table other = file other := by
  cases found : file name <;> simp [createIfAbsent, found, Function.update_of_ne different]

/-- Tables that are there stay as they are; the others are made if they are on the list. -/
theorem createAll_apply {tables : List (String × Table)} {file : DbFile} {name : String} :
    file.createAll tables name = (file name).or ((tables.find? (·.1 == name)).map (·.2)) := by
  induction tables generalizing file with
  | nil => simp [createAll]
  | cons entry rest ih =>
      have later : file.createAll (entry :: rest) = (file.createIfAbsent entry.1 entry.2).createAll rest := rfl
      rw [later, ih]
      by_cases same : entry.1 = name
      · subst same
        rw [createIfAbsent_same]
        cases file entry.1 <;> simp
      · rw [createIfAbsent_other (Ne.symm same), List.find?_cons_of_neg (by simpa using same)]

theorem createAll_whole {tables : List (String × Table)} {file : DbFile}
    (whole : ∀ entry ∈ tables, ∃ table, file entry.1 = some table) : file.createAll tables = file := by
  funext name
  rw [createAll_apply]
  cases found : tables.find? (·.1 == name) with
  | none => simp
  | some entry =>
      have named : entry.1 = name := by simpa using List.find?_some found
      obtain ⟨table, there⟩ := whole entry (List.mem_of_find?_eq_some found)
      simp [← named, there]

/-- No table has gone or come, and those there are have grown by columns of the list. -/
structure Grown (before after : DbFile) (changes : List (String × Column)) : Prop where
  kept : ∀ name table, before name = some table → ∃ later added, after name = some later ∧
    table.Grown later added ∧ ∀ column ∈ added, (name, column) ∈ changes
  none : ∀ name, before name = none → after name = none

theorem Grown.refl (file : DbFile) {changes : List (String × Column)} : file.Grown file changes :=
  ⟨fun _ table found => ⟨table, [], found, .refl table, by simp⟩, fun _ absent => absent⟩

theorem Grown.mono {before after : DbFile} {changes more : List (String × Column)}
    (grown : before.Grown after changes) (subset : changes ⊆ more) : before.Grown after more := by
  refine ⟨fun name table found => ?_, grown.none⟩
  obtain ⟨later, added, there, grows, listed⟩ := grown.kept name table found
  exact ⟨later, added, there, grows, fun column member => subset (listed column member)⟩

theorem Grown.trans {before middle after : DbFile} {changes : List (String × Column)}
    (grown : before.Grown middle changes) (more : middle.Grown after changes) : before.Grown after changes := by
  refine ⟨fun name table found => ?_, fun name absent => more.none name (grown.none name absent)⟩
  obtain ⟨between, first, there, grows, listed⟩ := grown.kept name table found
  obtain ⟨later, second, last, grows', listed'⟩ := more.kept name between there
  refine ⟨later, first ++ second, last, grows.trans grows', fun column member => ?_⟩
  exact (List.mem_append.mp member).elim (listed column) (listed' column)

theorem addColumn_grown {file after : DbFile} {name : String} {column : Column}
    (added : file.addColumn name column = .ok after) : file.Grown after [(name, column)] := by
  unfold addColumn at added
  cases found : file name with
  | none => simp [found] at added
  | some table =>
      rw [found] at added
      cases ran : table.addColumn column with
      | error message => simp [ran, Except.map] at added
      | ok later =>
          simp only [ran, Except.map, Except.ok.injEq] at added
          subst added
          constructor
          · intro other old there
            by_cases same : other = name
            · subst same
              rw [found, Option.some.injEq] at there
              subst there
              exact ⟨later, [column], by simp, Table.addColumn_grown ran, by simp⟩
            · exact ⟨old, [], by simpa [Function.update_of_ne same] using there, .refl old, by simp⟩
          · intro other absent
            have different : other ≠ name := fun same => by simp [same, found] at absent
            simpa [Function.update_of_ne different] using absent

theorem attempt_grown {file : DbFile} {refused : Nat → Option String} {number : Nat} {name : String}
    {column : Column} :
    file.Grown (file.attempt (statement refused number (file.addColumn name column))) [(name, column)] := by
  unfold attempt
  split
  · rename_i after ran
    unfold statement at ran
    split at ran
    · contradiction
    · exact addColumn_grown ran
  · exact .refl file

theorem migrate_grown {refused : Nat → Option String} {changes : List (String × Column)} {number : Nat}
    {file : DbFile} : file.Grown (file.migrate refused number changes) changes := by
  induction changes generalizing number file with
  | nil => exact .refl file
  | cons change rest ih =>
      obtain ⟨name, column⟩ := change
      exact (attempt_grown.mono (by simp)).trans (ih.mono (by simp))

/-- After a change that was not refused the table has the column. -/
theorem attempt_has {file : DbFile} {refused : Nat → Option String} {number : Nat} {name : String}
    {column : Column} {table later : Table} (runs : refused number = none) (addable : Table.Addable column)
    (found : file name = some table)
    (there : file.attempt (statement refused number (file.addColumn name column)) name = some later) :
    later.has column.name := by
  simp only [statement, runs, addColumn, found] at there
  cases ran : table.addColumn column with
  | error message =>
      simp only [ran, Except.map, attempt, found, Option.some.injEq] at there
      exact there ▸ Table.addColumn_error addable ran
  | ok after =>
      simp only [ran, Except.map, attempt, Function.update_self, Option.some.injEq] at there
      subst there
      exact (Table.addColumn_grown ran).has.mpr (.inr ⟨column, by simp, rfl⟩)

/-- If no change is refused, every table there is ends up with every column it is to get. -/
theorem migrate_has {refused : Nat → Option String} {changes : List (String × Column)} {number : Nat}
    {file : DbFile} (runs : ∀ later, number ≤ later → refused later = none)
    (addable : ∀ change ∈ changes, Table.Addable change.2) {name : String} {column : Column} {table : Table}
    (member : (name, column) ∈ changes) (there : file.migrate refused number changes name = some table) :
    table.has column.name := by
  induction changes generalizing number file with
  | nil => contradiction
  | cons change rest ih =>
      have others := @ih (number + 1) (file.attempt (statement refused number (file.addColumn change.1 change.2)))
        (fun later above => runs later (by omega)) (fun other listed => addable other (List.mem_cons_of_mem _ listed))
      rcases List.mem_cons.mp member with rfl | old
      · have rest_grown := @migrate_grown refused rest (number + 1)
          (file.attempt (statement refused number (file.addColumn name column)))
        have first_grown := @attempt_grown file refused number name column
        have whole : file.migrate refused number ((name, column) :: rest) name = some table := there
        cases found : file name with
        | none =>
            have gone := rest_grown.none name (first_grown.none name found)
            rw [migrate, gone] at whole
            contradiction
        | some old =>
            obtain ⟨middle, _, between, _⟩ := first_grown.kept name old found
            obtain ⟨last, _, final, grown, _⟩ := rest_grown.kept name middle between
            rw [migrate, final, Option.some.injEq] at whole
            subst whole
            have given := attempt_has (runs number (Nat.le_refl _)) (addable _ List.mem_cons_self) found between
            exact grown.has.mpr (.inl given)
      · exact others old there

/-- Nothing is added to tables that have everything. -/
theorem migrate_complete {refused : Nat → Option String} {changes : List (String × Column)} {number : Nat}
    {file : DbFile} (complete : ∀ change ∈ changes, ∀ table, file change.1 = some table → table.has change.2.name) :
    file.migrate refused number changes = file := by
  induction changes generalizing number with
  | nil => rfl
  | cons change rest ih =>
      obtain ⟨name, column⟩ := change
      have unchanged : file.attempt (statement refused number (file.addColumn name column)) = file := by
        unfold attempt
        split
        · rename_i after ran
          unfold statement at ran
          split at ran
          · contradiction
          · unfold addColumn at ran
            split at ran <;> rename_i found
            · rename_i table
              cases added : table.addColumn column with
              | error message => simp [added, Except.map] at ran
              | ok later =>
                  have present := complete _ List.mem_cons_self table found
                  exact absurd present (Table.addColumn_ok added).1
            · contradiction
        · rfl
      rw [migrate, unchanged]
      exact ih fun other listed => complete other (List.mem_cons_of_mem _ listed)

/-! ## Reading whole tables -/

/-- The rows of a table, each parsed from its values; no table has no rows. -/
def load {α : Type} (assumed : String → String → Option SqlValue) (file : DbFile) (name : String)
    (parse : (String → Option SqlValue) → Option α) : Option (List α) :=
  match file name with
  | some table => table.rows.mapM fun row => parse (table.read (assumed name) row)
  | none => some []

/-- Nothing is assumed of a column that is missing. -/
def strict : String → String → Option SqlValue := fun _ _ => none

/-- The default with which a column of this name is added to a table. -/
def defaults (changes : List (String × Column)) (name column : String) : Option SqlValue :=
  (changes.find? fun change => change.1 == name && lower change.2.name == lower column).map (·.2.default)

/-- A column is added to a table with one default only. -/
def Unambiguous (changes : List (String × Column)) : Prop :=
  ∀ left ∈ changes, ∀ right ∈ changes, left.1 = right.1 → lower left.2.name = lower right.2.name →
    left.2.default = right.2.default

instance (changes : List (String × Column)) : Decidable (Unambiguous changes) :=
  inferInstanceAs (Decidable (∀ left ∈ changes, ∀ right ∈ changes, left.1 = right.1 →
    lower left.2.name = lower right.2.name → left.2.default = right.2.default))

/-- A missing column has been added with the default of the list. -/
theorem defaults_added {changes : List (String × Column)} {name : String} {before after : Table}
    {added : List Column} (unambiguous : Unambiguous changes) (grown : before.Grown after added)
    (listed : ∀ column ∈ added, (name, column) ∈ changes)
    (complete : ∀ column, (name, column) ∈ changes → after.has column.name) {column : String}
    (missing : ¬ before.has column) :
    (added.find? fun other => lower other.name == lower column).map (·.default) = defaults changes name column := by
  unfold defaults
  cases found : changes.find? fun change => change.1 == name && lower change.2.name == lower column with
  | none =>
      have none : added.find? (fun other => lower other.name == lower column) = none := by
        refine List.find?_eq_none.mpr fun other member same => ?_
        exact List.find?_eq_none.mp found _ (listed other member) (by simpa using same)
      rw [none]
      rfl
  | some change =>
      obtain ⟨table, given⟩ := change
      have named := List.find?_some found
      simp only [Bool.and_eq_true, beq_iff_eq] at named
      obtain ⟨rfl, same⟩ := named
      have change := List.mem_of_find?_eq_some found
      rcases grown.has.mp (complete given change) with ⟨old, there, alike⟩ | ⟨other, there, alike⟩
      · exact absurd ⟨old, there, alike.trans same⟩ missing
      · cases first : added.find? fun other => lower other.name == lower column with
        | none => simpa [alike, same] using List.find?_eq_none.mp first other there
        | some chosen =>
            have spelled : lower chosen.name = lower column := by simpa using List.find?_some first
            have together := unambiguous _ (listed chosen (List.mem_of_find?_eq_some first)) _ change rfl
              (spelled.trans same.symm)
            simpa using together

/-- Reading a migrated file is reading the file as it was with the defaults assumed. -/
theorem migrate_load {α : Type} {refused : Nat → Option String} {changes : List (String × Column)}
    {number : Nat} {file : DbFile} (runs : ∀ later, number ≤ later → refused later = none)
    (addable : ∀ change ∈ changes, Table.Addable change.2) (unambiguous : Unambiguous changes) {name : String}
    {parse : (String → Option SqlValue) → Option α} :
    (file.migrate refused number changes).load strict name parse = file.load (defaults changes) name parse := by
  have grown := @migrate_grown refused changes number file
  unfold load
  cases found : file name with
  | none => rw [grown.none name found]
  | some table =>
      obtain ⟨later, added, there, grows, listed⟩ := grown.kept name table found
      rw [there]
      simp only [grows.rows, List.mapM_map]
      refine mapM_congr fun row member => congrArg parse (funext fun column => ?_)
      refine grows.read member fun missing => ?_
      exact defaults_added unambiguous grows listed
        (fun column change => migrate_has runs addable change there) missing

/-- New tables have no rows yet. -/
theorem createAll_load {α : Type} {assumed : String → String → Option SqlValue} {file : DbFile}
    {tables : List (String × Table)} (empty : ∀ entry ∈ tables, entry.2.rows = []) {name : String}
    {parse : (String → Option SqlValue) → Option α} :
    (file.createAll tables).load assumed name parse = file.load assumed name parse := by
  unfold load
  rw [createAll_apply]
  cases file name with
  | some table => rfl
  | none =>
      cases found : tables.find? (·.1 == name) with
      | none => rfl
      | some entry => simp [empty entry (List.mem_of_find?_eq_some found)]

end DbFile

/-! ## Constraints -/

/-- The rows of a table keep what its columns and references declare. -/
structure DbFile.Keeps (file : DbFile) (table : Table) : Prop where
  /-- No two rows have the same value under a key. -/
  keys : ∀ (index : Nat) (column : Column), table.columns[index]? = some column → column.key ≠ none →
    (table.rows.map fun row => row[index]?).Nodup
  filled : ∀ (index : Nat) (column : Column), table.columns[index]? = some column → column.notNull = true →
    ∀ row ∈ table.rows, row[index]? ≠ some .null
  /-- What a reference names is `NULL` or there. -/
  references : ∀ reference ∈ table.references, ∃ (index : Nat) (column : Column) (target : Table) (index' : Nat) (column' : Column),
    table.columns[index]? = some column ∧ column.name = reference.column ∧
    file reference.table = some target ∧ target.columns[index']? = some column' ∧
    column'.name = reference.target ∧
    ∀ row ∈ table.rows, row[index]? = some .null ∨ ∃ other ∈ target.rows, other[index']? = row[index]?

end TunnelitRelay.Data
