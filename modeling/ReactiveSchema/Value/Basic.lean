import ReactiveSchema.Number.Arith

/-!
# Values

Everything that data, schemas and expressions handle.  Scalars, tuples and
text nodes are values in themselves.  Containers, cells and nodes can change
or are told apart by identity, so a value only names their place in memory.
-/

namespace ReactiveSchema

/-- Place of a plain list. -/
abbrev ListId := Nat

/-- Place of a plain map. -/
abbrev MapId := Nat

/-- Place of a live list, the tracked face of a plain one. -/
abbrev LiveListId := Nat

/-- Place of a live map, the tracked face of a plain one. -/
abbrev LiveMapId := Nat

/-- Place of a cell that holds one tracked value. -/
abbrev RefId := Nat

/-- Place of an element or component node. -/
abbrev NodeId := Nat

/-- Place of an object with attributes. -/
abbrev ObjectId := Nat

/-- One piece of tracked state: a cell, a list, a key of a map or its key set. -/
abbrev DepId := Nat

/-- The functions that data may hold and expressions may call. -/
inductive DataFunction where
  | upper
  | ident
  | args
  | len
  | join
  | mk
  | undef
  | fn
  | boom
  | syn
  deriving DecidableEq

namespace DataFunction

/-- Every function. -/
def all : List DataFunction :=
  [upper, ident, args, len, join, mk, undef, fn, boom, syn]

/-- The name a function is known by. -/
def name : DataFunction → String
  | upper => "upper"
  | ident => "ident"
  | args => "args"
  | len => "len"
  | join => "join"
  | mk => "mk"
  | undef => "undef"
  | fn => "fn"
  | boom => "boom"
  | syn => "syn"

/-- The function of a name. -/
def ofName? (text : String) : Option DataFunction :=
  all.find? fun function => function.name == text

end DataFunction

/-- The components that a library may offer. -/
inductive Component where
  | badge
  | card
  | compact
  | dump
  | echo
  | null
  | str
  | num
  | multi
  | wrap
  | boom
  deriving DecidableEq

namespace Component

/-- Every component. -/
def all : List Component :=
  [badge, card, compact, dump, echo, null, str, num, multi, wrap, boom]

/-- The name a component is known by. -/
def name : Component → String
  | badge => "badge"
  | card => "card"
  | compact => "compact"
  | dump => "dump"
  | echo => "echo"
  | null => "null"
  | str => "str"
  | num => "num"
  | multi => "multi"
  | wrap => "wrap"
  | boom => "boom"

/-- The component of a name. -/
def ofName? (text : String) : Option Component :=
  all.find? fun component => component.name == text

end Component

/-- A scope: a serial number that no other scope has, and a label for reading. -/
structure ScopeId where
  serial : Nat
  label : String
  deriving DecidableEq

/-- The scopes around a place in a schema, outermost first. -/
abbrev ScopePath := List ScopeId

/-- The kinds of things that only a program handles. -/
inductive HandleKind where
  | effect
  | effectScope
  | store
  | closure
  | view
  | environment
  | compiler
  deriving DecidableEq

/-- A value. -/
inductive Value where
  /-- No value. -/
  | none
  /-- Present without a value. -/
  | undefined
  /-- The answer of a lookup that found nothing. -/
  | missing
  | ellipsis
  | bool (b : Bool)
  | int (n : Int)
  /-- A floating point number other than not-a-number. -/
  | float (x : Float)
  /-- Not-a-number; each result of this kind is a thing of its own. -/
  | nan (id : Nat)
  | complex (re im : Float)
  | str (s : String)
  | tuple (items : List Value)
  | list (id : ListId)
  | map (id : MapId)
  | liveList (id : LiveListId)
  | liveMap (id : LiveMapId)
  /-- A text node. -/
  | text (content : String)
  /-- An element or component node. -/
  | node (id : NodeId)
  | function (f : DataFunction)
  | component (c : Component)
  | object (id : ObjectId)
  /-- A value that refuses to be compared. -/
  | incomparable (id : Nat)
  | ref (id : RefId)
  | scope (id : ScopeId)
  | handle (kind : HandleKind) (id : Nat)
  /-- A method of a value, which can be called later on. -/
  | method (owner : Value) (name : String)
  /-- Anything else, of which only the name of its type is known. -/
  | other (typeName : String)

namespace Value

/-- The name of a value's type, as messages give it. -/
def typeName : Value → String
  | none => "NoneType"
  | undefined => "_Undefined"
  | missing => "_Missing"
  | ellipsis => "ellipsis"
  | bool _ => "bool"
  | int _ => "int"
  | float _ => "float"
  | nan _ => "float"
  | complex _ _ => "complex"
  | str _ => "str"
  | tuple _ => "tuple"
  | list _ => "list"
  | map _ => "dict"
  | liveList _ => "ReactiveList"
  | liveMap _ => "ReactiveDict"
  | text _ => "TextVNode"
  | node _ => "VNode"
  | function _ => "Fn"
  | component _ => "Comp"
  | object _ => "Obj"
  | incomparable _ => "BadEq"
  | ref _ => "Ref"
  | scope _ => "ScopeId"
  | handle .effect _ => "Effect"
  | handle .effectScope _ => "EffectScope"
  | handle .store _ => "ScopeStore"
  | handle .closure _ => "function"
  | handle .view _ => "SchemaView"
  | handle .environment _ => "Environment"
  | handle .compiler _ => "SchemaCompiler"
  | method _ _ => "method"
  | other name => name

/-- The number a value stands for; truth values count as one and zero. -/
def num? : Value → Option Number.Num
  | bool b => some (.int (if b then 1 else 0))
  | int n => some (.int n)
  | float x => some (.float x)
  | nan _ => some (.float Number.notANumber)
  | complex re im => some (.complex re im)
  | _ => Option.none

/-- A whole number, or a truth value as one. -/
def index? : Value → Option Int
  | bool b => some (if b then 1 else 0)
  | int n => some n
  | _ => Option.none

/-- Is this a live container? -/
def isLive : Value → Bool
  | liveList _ => true
  | liveMap _ => true
  | _ => false

/-- Is this a plain container, which a live one wraps on access? -/
def isPlainContainer : Value → Bool
  | list _ => true
  | map _ => true
  | _ => false

/-- Is this a map of either face? -/
def isMapping : Value → Bool
  | map _ => true
  | liveMap _ => true
  | _ => false

/-- Is this text? -/
def isStr : Value → Bool
  | str _ => true
  | _ => false

/-- Are two values one and the same thing? -/
def identical : Value → Value → Bool
  | none, none => true
  | undefined, undefined => true
  | missing, missing => true
  | ellipsis, ellipsis => true
  | bool a, bool b => a == b
  | int a, int b => a == b
  | float a, float b => decide (a = b)
  | nan a, nan b => a == b
  | complex a b, complex c d => decide (a = c) && decide (b = d)
  | str a, str b => a == b
  | tuple xs, tuple ys => identicalAll xs ys
  | list a, list b => a == b
  | map a, map b => a == b
  | liveList a, liveList b => a == b
  | liveMap a, liveMap b => a == b
  | text a, text b => a == b
  | node a, node b => a == b
  | function a, function b => decide (a = b)
  | component a, component b => decide (a = b)
  | object a, object b => a == b
  | incomparable a, incomparable b => a == b
  | ref a, ref b => a == b
  | scope a, scope b => decide (a = b)
  | handle j a, handle k b => decide (j = k) && a == b
  | method a m, method b n => identical a b && m == n
  | other m, other n => m == n
  | _, _ => false
where
  /-- Are two lists of values the same one by one? -/
  identicalAll : List Value → List Value → Bool
    | [], [] => true
    | x :: xs, y :: ys => identical x y && identicalAll xs ys
    | _, _ => false

/-- Can the value be a key of a map? -/
def isHashable : Value → Bool
  | list _ => false
  | map _ => false
  | liveMap _ => false
  | node _ => false
  | incomparable _ => false
  | tuple items => hashableAll items
  | _ => true
where
  /-- Can all the values be keys? -/
  hashableAll : List Value → Bool
    | [] => true
    | item :: rest => isHashable item && hashableAll rest

/-- A floating point number as a key: a whole number where it is equal to one. -/
def floatKey (x : Float) : Value :=
  match Number.truncate? x with
  | some n => if Number.ofInt n == x then int n else float x
  | Option.none => float x

/-- A complex number as a key: a real number where it is equal to one, and no zero with a sign. -/
def complexKey (re im : Float) : Value :=
  if re.isNaN || im.isNaN then complex re im
  else if im == 0.0 then floatKey re
  else complex (if re == 0.0 then 0.0 else re) im

/-- The form that a value shares with just those that name the same key. -/
def keyForm : Value → Value
  | bool b => int (if b then 1 else 0)
  | float x => floatKey x
  | complex re im => complexKey re im
  | tuple items => tuple (keyForms items)
  | value => value
where
  /-- The forms of items. -/
  keyForms : List Value → List Value
    | [] => []
    | item :: rest => keyForm item :: keyForms rest

/--
Do two hashable values name the same key?  Numbers of all kinds compare by
value, tuples item by item, and not-a-number only with itself.
-/
def sameKey (a b : Value) : Bool :=
  identical (keyForm a) (keyForm b)

end Value

end ReactiveSchema
