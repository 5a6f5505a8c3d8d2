import ReactiveSchema.Value.Access

/-!
# Components

A component turns properties and children into something that can be rendered:
nodes, text, lists of these, or nothing.
-/

namespace ReactiveSchema

open Observe

/-- An element without properties. -/
def plainElement (tag : String) (children : Value) : Observe Value := do
  newNode (.str tag) (← newMap []) children

namespace Component

/-- A label with a tone. -/
def renderBadge (props children : Value) : Observe Value := do
  let tone ← getEntry props (.str "tone") .none
  let tone := if ← isTrue tone then tone else .str "neutral"
  let classes ← newList [.str "badge", .str ("badge-" ++ (← textOf tone))]
  newNode (.str "span") (← newMap [(.str "class", classes)]) children

/-- An article below a heading. -/
def renderCard (props children : Value) : Observe Value := do
  let attributes ← newMap [(.str "class", .str "card")]
  let title ← textOf (← getEntry props (.str "title") (.str ""))
  let heading ← plainElement "h3" (← newList [.text title])
  newNode (.str "article") attributes (← newList (heading :: (← iterate children)))

/-- Several things side by side, some of them nested and some of them nothing. -/
def renderMulti : Observe Value := do
  let element ← plainElement "i" (← newList [])
  let inner ← newList [element, .tuple [.text "&"]]
  newList [.text "x", .none, inner, .str "y", .undefined]

/-- What a component makes of properties and children. -/
def render (component : Component) (props children : Value) : Observe Value :=
  match component with
  | badge => renderBadge props children
  | card => renderCard props children
  | compact => plainElement "b" children
  | dump => newNode (.str "dump") props children
  | echo => pure children
  | null => pure .none
  | str => pure (.str "a < b")
  | num => pure (.int 42)
  | multi => renderMulti
  | wrap => newNode (.component badge) props children
  | boom => fail .refused

end Component

end ReactiveSchema
