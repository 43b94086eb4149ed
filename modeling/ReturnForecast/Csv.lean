import ReturnForecast.Fault

/-!
# Comma-separated tables

A header line and rows of cells. Cells are separated by commas, records by line ends. A cell in
double quotes may hold both, and a quote if it is written twice. Blank lines are skipped. Some
spellings mean that a cell is missing; so does a row that ends early.
-/

namespace ReturnForecast

/-- A table: the names of its columns, and its rows. -/
structure CsvTable where
  header : List String
  rows : List (List String)
deriving DecidableEq, Repr

namespace Csv

/-- Where in a cell a scan is. -/
inductive Within where
  | start
  | plain
  | quoted
  /-- Behind a quote that ends the quoted part, unless another one follows. -/
  | afterQuote
deriving DecidableEq, Repr

/-- A scan of a text: the records so far, the cells of the record, the characters of the cell. -/
structure Scan where
  /-- The last one first. -/
  records : List (List String) := []
  /-- The last one first. -/
  cells : List String := []
  /-- The last one first. -/
  chars : List Char := []
  within : Within := .start
  /-- Has the line nothing but blanks so far? -/
  blank : Bool := true

namespace Scan

/-- Ends a cell. -/
def endCell (s : Scan) : Scan :=
  { s with
    cells := String.ofList s.chars.reverse :: s.cells
    chars := []
    within := .start
    blank := false }

/-- Ends a record; a blank line is none. -/
def endRecord (s : Scan) : Scan :=
  if s.blank then { records := s.records }
  else { records := s.endCell.cells.reverse :: s.records }

/-- Adds a character to a cell. -/
def add (s : Scan) (c : Char) (within : Within) : Scan :=
  { s with chars := c :: s.chars, within, blank := s.blank && (c == ' ' || c == '\t') }

/-- A character outside of quotes. -/
def outside (s : Scan) (c : Char) : Scan :=
  if c == ',' then s.endCell
  else if c == '\n' || c == '\r' then s.endRecord
  else s.add c .plain

/-- The scan after one more character. -/
def step (s : Scan) (c : Char) : Scan :=
  match s.within with
  | .start => if c == '"' then { s with within := .quoted, blank := false } else s.outside c
  | .plain => s.outside c
  | .quoted => if c == '"' then { s with within := .afterQuote } else s.add c .quoted
  | .afterQuote => if c == '"' then s.add c .quoted else s.outside c

end Scan

/-- The records of a text. -/
def records (text : String) : List (List String) :=
  (text.toList.foldl Scan.step {}).endRecord.records.reverse

/-- The spellings of a missing cell. -/
def missingSpellings : List String :=
  ["", "#N/A", "#N/A N/A", "#NA", "-1.#IND", "-1.#QNAN", "-NaN", "-nan", "1.#IND", "1.#QNAN",
    "<NA>", "N/A", "NA", "NULL", "NaN", "None", "n/a", "nan", "null"]

end Csv

namespace CsvTable

/-- The table of a text. It has to have a header line. -/
def ofText (text : String) : Except Fault CsvTable :=
  match Csv.records text with
  | [] => .error .emptyTable
  | header :: rows => .ok { header, rows }

/-- A cell of a row; none if it is missing. -/
def cell? (row : List String) (index : Nat) : Option String :=
  match row[index]? with
  | some s => if Csv.missingSpellings.contains s then none else some s
  | none => none

/-- The cells of the first column with a name. -/
def column? (t : CsvTable) (name : String) : Option (List (Option String)) :=
  (t.header.findIdx? (· == name)).map fun index => t.rows.map (cell? · index)

theorem length_of_column? {t : CsvTable} {name : String} {cells : List (Option String)}
    (h : t.column? name = some cells) : cells.length = t.rows.length := by
  simp only [column?, Option.map_eq_some_iff] at h
  obtain ⟨index, _, rfl⟩ := h
  simp

end CsvTable

end ReturnForecast
