import ByteBench.Text.Quoted
import ByteBench.Text.ShortestDecimal

/-!
# Configuration values

Settings come from a document that holds plain data: nothing, truth values, numbers, texts, rows and
tables. A table lists its entries by increasing key, and each key once.
-/

namespace ByteBench.Config

inductive Value
  | null
  | bool (b : Bool)
  | int (n : Int)
  | float (x : Float)
  | text (s : String)
  | row (values : List Value)
  | table (entries : List (String × Value))

namespace Value

/-- Puts an entry where its key belongs. An entry that has the same key is replaced. -/
def insertEntry (key : String) (value : Value) :
    List (String × Value) → List (String × Value)
  | [] => [(key, value)]
  | (k, v) :: rest =>
    if key = k then (key, value) :: rest
    else if key < k then (key, value) :: (k, v) :: rest
    else (k, v) :: insertEntry key value rest

/-- The table of some entries, of which the last of every key counts. -/
def ofEntries (entries : List (String × Value)) : Value :=
  table (entries.foldl (fun sorted e => insertEntry e.1 e.2 sorted) [])

/-- What a value is called in a message. -/
def describe : Value → String
  | null => "null"
  | bool b => "boolean \x60" ++ (if b then "true" else "false") ++ "\x60"
  | int n => "integer \x60" ++ toString n ++ "\x60"
  | float x => "floating point \x60" ++ Text.shortestDecimal x ++ "\x60"
  | text s => "string " ++ Text.quoted s
  | row _ => "sequence"
  | table _ => "map"

end Value

end ByteBench.Config
