/-
  SapDbLib.Rfc — THE SAP .NET CONNECTOR AS THE SERVER USES IT.

  `IRfcFunction` is the client-side object of one RFC function: scalar
  parameters, the tables `FIELDS` and `OPTIONS` that a handler fills row by
  row with `Append`/`SetValue`, and the table `DATA` that `Invoke` fills.
  The connector itself and SAP behind it are not part of the repository:
  `RfcDestination` and `RfcDestinationManager` are **parameters** of the
  model, functions the handlers call.

  **Assumed of the connector** (`IRfcTable`, `IRfcFunction`), since its
  source is not there to be read:

    * `CreateFunction` gives a function with initial parameters and empty
      tables, and `GetTable` a reference into it;
    * `Append` makes the new row the current one;
    * `SetValue` stores the text it is given, unchanged and uncut;
    * `Invoke` sends what is stored, and nothing else.

  What leaves the client in an `Invoke` is `IRfcFunction.request`; every
  handler is later described by the request it sends (`ReadRequest`).
-/
import SapDbLib.Library.Text
import Mathlib.Logic.Function.Basic

namespace SapDbLib

open Library

/-! ## §1. Exceptions. -/

/-- The .NET exceptions that matter to the handlers; `rfcInvalidParameter`
    and `rfcBase` are the two classes `PingDestination` catches. -/
inductive CSharpException where
  | nullReference
  | indexOutOfRange
  | argumentOutOfRange
  | rfcInvalidParameter (typeName message : Text)
  | rfcBase (description : Text)
  | other (typeName message : Text)
  deriving DecidableEq, Repr

/-- Use of a C# reference: `null` throws. -/
def deref {α : Type} : Option α → Except CSharpException α
  | some a => .ok a
  | none => .error .nullReference

/-! ## §2. Tables and functions. -/

/-- The columns of the tables the handlers touch. -/
inductive Column where
  | fieldName
  | text
  | wa
  deriving DecidableEq, Repr

/-- `IRfcTable`: rows of column values, the last one current.  That `Append`
    makes its row current is an assumption on the connector. -/
structure IRfcTable where
  rows : List (Column → Text)

/-- `Append()`: a new row with initial values becomes the current row. -/
def IRfcTable.append (t : IRfcTable) : IRfcTable :=
  { rows := t.rows ++ [fun _ => []] }

/-- `SetValue(column, value)` on the current row; assumed to store the text
    unchanged. -/
def IRfcTable.setValue (t : IRfcTable) (column : Column) (value : Text) : IRfcTable :=
  { rows := t.rows.dropLast
      ++ (t.rows.getLast?.map fun row => Function.update row column value).toList }

/-- The values of a column, row by row. -/
def IRfcTable.column (t : IRfcTable) (column : Column) : List Text :=
  t.rows.map fun row => row column

/-- One appended and filled row. -/
theorem IRfcTable.column_setValue_append (t : IRfcTable) (c : Column) (v : Text) :
    ((t.append).setValue c v).column c = t.column c ++ [v] := by
  simp [append, setValue, column]

/-- The scalar parameters of `RFC_READ_TABLE`. -/
inductive Parameter where
  | queryTable
  | delimiter
  deriving DecidableEq, Repr

/-- The table parameters of `RFC_READ_TABLE`. -/
inductive TableParameter where
  | fields
  | options
  | data
  deriving DecidableEq, Repr

/-- `IRfcFunction`: the client-side object of an RFC function. -/
structure IRfcFunction where
  name : Text
  value : Parameter → Text
  table : TableParameter → IRfcTable

/-- A freshly created function: initial parameters, empty tables. -/
def IRfcFunction.new (name : Text) : IRfcFunction :=
  { name := name, value := fun _ => [], table := fun _ => { rows := [] } }

/-- `SetValue(parameter, value)`; assumed to store the text unchanged. -/
def IRfcFunction.setValue (f : IRfcFunction) (p : Parameter) (v : Text) : IRfcFunction :=
  { f with value := Function.update f.value p v }

/-- `GetTable(parameter)` returns a reference into the function: what is done
    to the table is done to the function. -/
def IRfcFunction.onTable (f : IRfcFunction) (p : TableParameter)
    (edit : IRfcTable → IRfcTable) : IRfcFunction :=
  { f with table := Function.update f.table p (edit (f.table p)) }

/-- `GetTable(parameter)`, for reading. -/
def IRfcFunction.getTable (f : IRfcFunction) (p : TableParameter) : IRfcTable := f.table p

/-! ## §3. The destination. -/

/-- The parameters of one `RFC_READ_TABLE` call as SAP receives them. -/
structure ReadRequest where
  function : Text
  queryTable : Text
  delimiter : Text
  fields : List Text
  options : List Text
  deriving DecidableEq, Repr

/-- What `Invoke` sends. -/
def IRfcFunction.request (f : IRfcFunction) : ReadRequest :=
  { function := f.name
    queryTable := f.value .queryTable
    delimiter := f.value .delimiter
    fields := (f.table .fields).column .fieldName
    options := (f.table .options).column .text }

/-- `RfcDestination`, a parameter of the model. -/
structure RfcDestination where
  /-- `Repository.CreateFunction`: fetching the metadata may fail. -/
  createFunction : Text → Except CSharpException Unit
  /-- The remote call: the `WA` texts of the rows SAP puts into `DATA`. -/
  call : ReadRequest → Except CSharpException (List Text)
  /-- `Ping`. -/
  ping : Except CSharpException Unit

/-- `RfcDestinationManager`, a parameter of the model. -/
structure RfcDestinationManager where
  getDestination : Text → Except CSharpException RfcDestination

/-- `destination.Repository.CreateFunction(name)`. -/
def RfcDestination.newFunction (dest : RfcDestination) (name : Text) :
    Except CSharpException IRfcFunction := do
  dest.createFunction name
  return IRfcFunction.new name

/-- `Invoke(destination)`: the remote call fills `DATA`. -/
def IRfcFunction.invoke (f : IRfcFunction) (dest : RfcDestination) :
    Except CSharpException IRfcFunction := do
  let lines ← dest.call f.request
  return f.onTable .data fun _ =>
    { rows := lines.map fun line => Function.update (fun _ => []) .wa line }

/-! ## §4. What a handler amounts to. -/

/-- One `RFC_READ_TABLE` call: create the function, call it. -/
def RfcDestination.readTable (dest : RfcDestination) (r : ReadRequest) :
    Except CSharpException (List Text) := do
  dest.createFunction r.function
  dest.call r

/-- The text a row loop `foreach (var dataRow in dataTable) strErg = WA`
    leaves in `strErg`: the last line, or the initial `""`. -/
def lastLine (lines : List Text) : Text := lines.getLastD []

/-- The row loop of every handler. -/
def rowLoop (dataTable : IRfcTable) : Text :=
  dataTable.rows.foldl (fun _ dataRow => dataRow .wa) []

theorem rowLoop_eq (lines : List Text) :
    rowLoop { rows := lines.map fun line => Function.update (fun _ => []) .wa line }
      = lastLine lines := by
  unfold rowLoop lastLine
  -- the loop overwrites its variable, so only the last row counts
  induction lines using List.reverseRecOn with
  | nil => rfl
  | append_singleton lines line _ => simp

/-- **A handler is its request.**  Creating a function, filling it by `edit`
    and looping over `DATA` reads the last line of the request's answer. -/
theorem newFunction_invoke_rowLoop (dest : RfcDestination) (name : Text)
    (edit : IRfcFunction → IRfcFunction) (r : ReadRequest)
    (hr : (edit (IRfcFunction.new name)).request = r) (hname : r.function = name) :
    (do let f ← dest.newFunction name
        let f ← (edit f).invoke dest
        return rowLoop (f.getTable .data))
      = lastLine <$> dest.readTable r := by
  subst hname
  simp only [RfcDestination.newFunction, IRfcFunction.invoke, RfcDestination.readTable]
  -- the metadata, then the call: either may throw
  cases dest.createFunction r.function with
  | error e => rfl
  | ok _ =>
      simp only [bind, Except.bind, pure, Except.pure, hr]
      cases dest.call r with
      | error e => rfl
      | ok lines =>
          simp only [IRfcFunction.getTable, IRfcFunction.onTable, Function.update_self, rowLoop_eq]
          rfl

end SapDbLib
