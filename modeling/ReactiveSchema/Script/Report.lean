import ReactiveSchema.Value.Snapshot
import ReactiveSchema.Number.Text

/-!
# Reports

What a program has come to is reported as plain data: no value but none, truth
values, whole numbers, text, lists, and maps with text for keys.  Everything
else is written as a map whose first key names its kind.
-/

namespace ReactiveSchema

open ReactiveSchema.Number

namespace Datum

/-- A map with one key. -/
def tagged (tag : String) (content : Datum) : Datum :=
  .map [(.str tag, content)]

/-- The largest magnitude of a whole number that is reported as a number. -/
def exactLimit : Nat := Nat.pow 2 53

/-- A whole number. -/
def reportInt (n : Int) : Datum :=
  if n.natAbs ≤ exactLimit then .int n else tagged "int" (.str (intText n))

/-- A reported node, whose properties are listed as pairs. -/
def reportNode (type props children : Datum) : Datum :=
  let pairs := match props with
    | map [(str "dict", listed)] => listed
    | unlisted => unlisted
  .map [(.str "node", type), (.str "props", pairs), (.str "children", children)]

/-- A tree as plain data. -/
def report : Datum → Datum
  | none => none
  | undefined => tagged "undefined" (.bool true)
  | missing => tagged "missing" (.bool true)
  | ellipsis => tagged "ellipsis" (.bool true)
  | bool b => .bool b
  | int n => reportInt n
  | float x => tagged "float" (.str (floatText x))
  | complex re im => tagged "complex" (.str (complexText re im))
  | str s => .str s
  | tuple items => tagged "tuple" (.list (reportAll items))
  | list items => .list (reportAll items)
  | map entries => tagged "dict" (.list (reportEntries entries))
  | liveList items => tagged "rlist" (.list (reportAll items))
  | liveMap entries => tagged "rdict" (.list (reportEntries entries))
  | text content => tagged "text" (.str content)
  | node type props children => reportNode (report type) (report props) (report children)
  | function f => tagged "fn" (.str f.name)
  | component c => tagged "comp" (.str c.name)
  | object attributes => tagged "obj" (.list (reportAttributes attributes))
  | incomparable => tagged "badeq" (.bool true)
  | ref content => tagged "ref" (report content)
  | scope id => tagged "scope" (.str id.shown)
  | unreadable _ => none
  | other typeName => tagged "other" (.str typeName)
where
  /-- Items, one by one. -/
  reportAll : List Datum → List Datum
    | [] => []
    | item :: rest => report item :: reportAll rest
  /-- Entries as pairs. -/
  reportEntries : List (Datum × Datum) → List Datum
    | [] => []
    | (key, value) :: rest => .list [report key, report value] :: reportEntries rest
  /-- Attributes as pairs. -/
  reportAttributes : List (String × Datum) → List Datum
    | [] => []
    | (name, value) :: rest => .list [.str name, report value] :: reportAttributes rest

end Datum

namespace Fault

/-- Is the message of a fault part of its report? -/
def tellsMessage (fault : Fault) : Bool :=
  fault.isSchemaFault || fault.isKind .runtime || fault.isKind .assertion

/-- The kind, the message and the code of a fault. -/
def heading (fault : Fault) : List (Datum × Datum) :=
  [(.str "error", .str fault.name)] ++
    (if fault.tellsMessage then [(.str "message", .str fault.text)] else []) ++
    (match fault.code? with
      | some code => [(.str "code", .str code.value)]
      | none => [])

end Fault

namespace Memory

/-- A value as plain data. -/
def report (memory : Memory) (value : Value) : Except Cause Datum :=
  (memory.snapshot value).map Datum.report

/--
A fault as plain data; only faults of expressions have more than a kind and a
message.  Telling the values of a failed expression may fail in its turn.
-/
def reportFault (memory : Memory) : Fault → Except Cause Datum
  | .syntaxError message source column code text =>
      .ok (.map ((Fault.syntaxError message source column code text).heading ++
        [(.str "col", (column.map fun n => Datum.int n).getD .none)]))
  | .evaluation source values cause text => do
      let told ← reportValues memory values
      return .map ((Fault.evaluation source [] cause text).heading ++
        [(.str "values", .list told), (.str "cause", .str cause)])
  | fault => .ok (.map fault.heading)
where
  /-- The tokens and what they gave. -/
  reportValues (memory : Memory) :
      List (String × Except Fault Value) → Except Cause (List Datum)
    | [] => .ok []
    | (token, .ok value) :: rest => do
        let told ← memory.report value
        return .list [.str token, told] :: (← reportValues memory rest)
    | (token, .error fault) :: rest => do
        let told ← reportFault memory fault
        return .list [.str token, told] :: (← reportValues memory rest)

/-- A fault as plain data, or else the failure of telling it. -/
def tellFault (memory : Memory) (fault : Fault) : Datum :=
  match memory.reportFault fault with
  | .ok told => told
  | .error cause => .map (Fault.failure cause).heading

end Memory

namespace Observe

/-- A value as plain data. -/
def report (value : Value) : Observe Datum := do
  return (← snapshot value).report

/-- A fault as plain data. -/
def reportFault (fault : Fault) : Observe Datum := do
  match (← get).reportFault fault with
  | .ok told => return told
  | .error cause => fail cause

end Observe

end ReactiveSchema
