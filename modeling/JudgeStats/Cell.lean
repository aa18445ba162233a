/-! What a table holds at a row and a column, and how the columns of a table are declared. Rows have types of their own;
cells are how they are given by name, shown, and compared with a key from outside. -/

namespace JudgeStats

inductive Cell where
  | null
  | number (value : Int)
  | text (value : String)
  | amount (value : Float)
deriving DecidableEq

/-- An amount is saved as a number that equals itself: NaN becomes null, and zero has one form. -/
def Cell.saved : Cell → Cell
  | .amount value => if value.isNaN then .null else if value == 0.0 then .amount 0.0 else .amount value
  | cell => cell

/-- The least number that 64 bits with a sign are too short for. -/
def numberLimit : Int :=
  0x8000000000000000

/-- Numbers are saved in 64 bits with a sign. -/
def Cell.fits : Cell → Bool
  | .number value => -numberLimit ≤ value && value < numberLimit
  | _ => true

inductive Kind where
  | number | text | amount
deriving DecidableEq

structure Column where
  name : String
  kind : Kind
  /-- What an inserted row holds that leaves the column out. -/
  absent : Cell

def Column.number (name : String) : Column := ⟨name, .number, .null⟩

def Column.text (name : String) : Column := ⟨name, .text, .text ""⟩

def Column.amount (name : String) : Column := ⟨name, .amount, .null⟩

/-- The cells of a row by the names of their columns. -/
abbrev Fields := String → Cell

namespace Fields

/-- Cells given by name come before those of another row. -/
def override (given : List (String × Cell)) (rest : Fields) : Fields :=
  fun name => ((given.lookup name).getD (rest name)).saved

def ofCells (columns : List Column) (cells : List Cell) : Fields :=
  fun name => (((columns.map (·.name)).zip cells).lookup name).getD .null

def absent (columns : List Column) : Fields :=
  ofCells columns (columns.map (·.absent))

/-- The number in a column, or the name of the column where there is none. -/
def number (fields : Fields) (column : String) : Except String Int :=
  match fields column with
  | .number value => .ok value
  | _ => .error column

def text (fields : Fields) (column : String) : Except String String :=
  match fields column with
  | .text value => .ok value
  | _ => .error column

def amount (fields : Fields) (column : String) : Except String Float :=
  match fields column with
  | .amount value => .ok value
  | _ => .error column

def number? (fields : Fields) (column : String) : Option Int :=
  (fields.number column).toOption

def amount? (fields : Fields) (column : String) : Option Float :=
  (fields.amount column).toOption

end Fields

def Cell.ofNumber? (value : Option Int) : Cell :=
  value.elim .null .number

def Cell.ofAmount? (value : Option Float) : Cell :=
  value.elim .null .amount

end JudgeStats
