import JudgeStats.Cell
import JudgeStats.Key

/-! What makes a type of rows a table: its columns in order, how a row is read from fields and shown as cells, and its
key, which the first columns hold. -/

namespace JudgeStats

class Schema (ρ : Type) where
  columns : List Column
  /-- How many of the first columns make up the key. -/
  keyWidth : Nat
  /-- A row, or the first column in order that has to hold something and holds nothing. -/
  read : Fields → Except String ρ
  cells : ρ → List Cell
  key : ρ → Key
  /-- The row in a few words. -/
  summary : ρ → String

namespace Schema

variable {ρ : Type} [Schema ρ]

def fields (row : ρ) : Fields :=
  .ofCells (columns ρ) (cells row)

def firstColumn (ρ : Type) [Schema ρ] : String :=
  ((columns ρ).map (·.name)).headD ""

def firstCell (row : ρ) : Cell :=
  (cells row).headD .null

def keyColumns (ρ : Type) [Schema ρ] : List String :=
  ((columns ρ).map (·.name)).take (keyWidth ρ)

def keyCells (row : ρ) : List Cell :=
  (cells row).take (keyWidth ρ)

end Schema

end JudgeStats
