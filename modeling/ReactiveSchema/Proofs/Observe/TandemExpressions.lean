import ReactiveSchema.Proofs.Observe.TandemOperators

/-!
# Expressions in tandem

Where tokens give twins, an expression gives twins as well, or fails by twin reports.
-/

namespace ReactiveSchema

variable {α β γ δ : Type} {extent small large : Extent} {moved : Relocation} {first : FirstLook}

namespace Tandem

/-! ## Nodes -/

section Walks

variable {T : Extent → γ → δ → Prop} {visit : NodeCell → Value → Observe (List γ)}
  {visit' : NodeCell → Value → Observe (List δ)}

theorem walkWithin (lasting : Lasting T)
    (each : ∀ large cell cell' self self', extent.Fits large →
      NodeTwin first.moves large cell cell' → Twin first.moves large self self' →
        Tandem first large (fun large => List.Forall₂ (T large)) (visit cell self)
          (visit' cell' self'))
    (depth : Nat) {value twin : Value} (same : Twin first.moves extent value twin) :
    Tandem first extent (fun large => List.Forall₂ (T large))
      (Observe.walkWithin visit depth value) (Observe.walkWithin visit' depth twin) := by
  induction depth generalizing extent value twin with
  | zero => exact throw .exhausted
  | succ depth ih =>
      cases same
      case node there moves =>
        cases moves
        refine bind get fun large memory other fits mirrors => ?_
        have node := mirrors.nodes (Nat.lt_of_lt_of_le there fits.nodes)
        have self : Twin first.moves large (.node _) (.node _) :=
          .node (Nat.lt_of_lt_of_le there fits.nodes) rfl
        refine bind (each _ _ _ _ _ fits node self) fun larger own _ more owns => ?_
        refine bind (iterate (node.children.mono more)) fun largest items _ most all => ?_
        have ahead := (fits.trans more).trans most
        have inner : ∀ last a b, largest.Fits last → Twin first.moves last a b →
            Tandem first last (fun large => List.Forall₂ (T large))
              (Observe.walkWithin visit depth a) (Observe.walkWithin visit' depth b) :=
          fun _ _ _ fits' same => ih (fun _ _ _ _ _ fits'' =>
            each _ _ _ _ _ ((ahead.trans fits').trans fits'')) same
        refine bind (mapTwins lasting.all all inner) fun last lists _ fits' lists' => ?_
        exact pure fun _ more' => List.rel_append
          (lasting.all (most.trans (fits'.trans more')) owns)
          (lasting.all more' (List.rel_flatten lists'))
      all_goals exact pure fun _ _ => .nil

theorem walk (lasting : Lasting T)
    (each : ∀ large cell cell' self self', extent.Fits large →
      NodeTwin first.moves large cell cell' → Twin first.moves large self self' →
        Tandem first large (fun large => List.Forall₂ (T large)) (visit cell self)
          (visit' cell' self'))
    (name : String) {node twin : Value} (same : Twin first.moves extent node twin) :
    Tandem first extent (fun large => List.Forall₂ (T large)) (Observe.walk name visit node)
      (Observe.walk name visit' twin) := by
  have inside : Tandem first extent (fun large => List.Forall₂ (T large))
      (do Observe.walkWithin visit (← MonadState.get).levels node)
      (do Observe.walkWithin visit' (← MonadState.get).levels twin) := by
    refine bind get fun large memory other fits mirrors => ?_
    rw [mirrors.levels]
    exact walkWithin lasting (fun _ _ _ _ _ more => each _ _ _ _ _ (fits.trans more)) _
      (same.mono fits)
  cases same
  case node => exact inside
  all_goals exact fail _

end Walks

theorem findAll {node node' type type' : Value} (same : Twin first.moves extent node node')
    (types : Twin first.moves extent type type') :
    Tandem first extent (Twins first.moves) (Observe.findAll node type)
      (Observe.findAll node' type') := by
  refine walk lasting_twin (fun large cell cell' self self' fits cells selves => ?_) _ same
  refine bind_same (equal cells.type (types.mono fits)) fun larger found more => ?_
  refine pure fun _ most => ?_
  split
  · exact .cons (selves.mono (more.trans most)) .nil
  · exact .nil

/-! ## Components -/

section Components

variable {props props' children children' : Value}

theorem plainElement (tag : String) (inside : Twin first.moves extent children children') :
    Tandem first extent (Twin first.moves) (ReactiveSchema.plainElement tag children)
      (ReactiveSchema.plainElement tag children') :=
  bind (newMap .nil) fun _ _ _ fits props => newNode ⟨.str tag, props, inside.mono fits⟩

theorem renderMulti :
    Tandem first extent (Twin first.moves) Component.renderMulti Component.renderMulti := by
  refine bind (newList .nil) fun large _ _ fits nothing => ?_
  refine bind (plainElement "i" nothing) fun larger element _ more elements => ?_
  refine bind (newList (.cons elements (.cons (.tuple (.cons (.text "&") .nil)) .nil))) ?_
  intro largest inner _ most inners
  exact newList (.cons (.text "x") (.cons .none (.cons inners (.cons (.str "y")
    (.cons .undefined .nil)))))

variable (given : Twin first.moves extent props props')
  (inside : Twin first.moves extent children children')
include given inside

theorem renderBadge :
    Tandem first extent (Twin first.moves) (Component.renderBadge props children)
      (Component.renderBadge props' children') := by
  refine bind (getEntry given (.str "tone") .none) fun large tone tone' fits tones => ?_
  refine bind_same (isTrue tones) fun larger holds more => ?_
  have chosen : Twin first.moves larger (if holds then tone else .str "neutral")
      (if holds then tone' else .str "neutral") := by
    split
    · exact tones.mono more
    · exact .str _
  refine bind_same (textOf chosen) fun largest text most => ?_
  refine bind (newList (.cons (.str _) (.cons (.str _) .nil))) fun last classes _ fits' all => ?_
  refine bind (newMap (.cons ⟨.str _, all⟩ .nil)) fun _ _ _ more' attributes => ?_
  exact newNode ⟨.str _, attributes,
    inside.mono ((((fits.trans more).trans most).trans fits').trans more')⟩

theorem renderCard :
    Tandem first extent (Twin first.moves) (Component.renderCard props children)
      (Component.renderCard props' children') := by
  refine bind (newMap (.cons ⟨.str _, .str _⟩ .nil)) fun large _ _ fits attributes => ?_
  refine bind (getEntry (given.mono fits) (.str "title") (.str "")) ?_
  intro larger title _ more titles
  refine bind_same (textOf titles) fun largest text most => ?_
  refine bind (newList (.cons (.text text) .nil)) fun last inner _ fits' inners => ?_
  refine bind (plainElement "h3" inners) fun last heading _ more' headings => ?_
  have ahead := (more.trans most).trans (fits'.trans more')
  refine bind (iterate (inside.mono (fits.trans ahead))) fun _ items _ most' all => ?_
  refine bind (newList (.cons (headings.mono most') all)) fun _ _ _ fits'' children => ?_
  exact newNode ⟨.str _, attributes.mono (ahead.trans (most'.trans fits'')), children⟩

theorem render (component : Component) :
    Tandem first extent (Twin first.moves) (component.render props children)
      (component.render props' children') := by
  cases component with
  | badge => exact renderBadge given inside
  | card => exact renderCard given inside
  | compact => exact plainElement "b" inside
  | dump => exact newNode ⟨.str _, given, inside⟩
  | wrap => exact newNode ⟨.component _, given, inside⟩
  | echo => exact pure fun _ more => inside.mono more
  | null => exact pure fun _ _ => .none
  | str => exact pure fun _ _ => .str _
  | num => exact pure fun _ _ => .int _
  | multi => exact renderMulti
  | boom => exact fail _

end Components

/-! ## Functions -/

theorem firstArgument {arguments others : List Value}
    (all : Twins first.moves extent arguments others) :
    Tandem first extent (Twin first.moves) (Observe.firstArgument arguments)
      (Observe.firstArgument others) := by
  cases all with
  | nil => exact fail _
  | cons head _ => exact pure fun _ more => head.mono more

theorem callFunction (function : DataFunction) {arguments others : List Value}
    (all : Twins first.moves extent arguments others) :
    Tandem first extent (Twin first.moves) (Observe.callFunction function arguments)
      (Observe.callFunction function others) := by
  have begun := firstArgument all
  cases function with
  | upper =>
      refine bind begun fun large value _ fits same => ?_
      exact bind_same (textOf same) fun _ _ _ => pure fun _ _ => .str _
  | ident => exact begun
  | args => exact newList all
  | len =>
      refine bind begun fun large value _ fits same => ?_
      exact bind_same (lengthOf same) fun _ _ _ => pure fun _ _ => .int _
  | join =>
      refine bind begun fun large value _ fits same => ?_
      refine bind (iterate same) fun larger items _ more inner => ?_
      exact bind_same (mapM_same (Each.of_forall₂ (R := Twin first.moves) lasting_twin inner
        fun _ _ _ _ same => textOf same)) fun _ _ _ => pure fun _ _ => .str _
  | mk =>
      refine bind (newList (.cons (.int 1) (.cons (.int 2) .nil))) fun _ _ _ _ list => ?_
      exact newMap (.cons ⟨.str "a", .int 1⟩ (.cons ⟨.str "list", list⟩ .nil))
  | undef => exact pure fun _ _ => .undefined
  | fn => exact pure fun _ _ => .function .upper
  | boom => exact fail _
  | syn =>
      refine bind get fun large memory other fits mirrors => ?_
      rw [mirrors.colors]
      exact throw (.syntaxError ..)

theorem callMethod {owner owner' : Value} (name : String) {arguments others : List Value}
    (owners : Twin first.moves extent owner owner')
    (all : Twins first.moves extent arguments others) :
    Tandem first extent (Twin first.moves) (Observe.callMethod owner name arguments)
      (Observe.callMethod owner' name others) := by
  have refused : Observe.wrongArguments owner name = Observe.wrongArguments owner' name := by
    unfold Observe.wrongArguments
    rw [owners.typeName]
  unfold Observe.callMethod
  rw [all.length_eq, refused]
  split
  · exact fail _
  · split
    case h_1 =>
      have node := owners
      cases owners
      cases all with
      | cons types none =>
          cases none
          exact bind (findAll node types) fun _ _ _ _ found => newList found
    case h_2 =>
      cases owners
      cases all
      exact pure fun _ _ => .other _
    case h_3 =>
      cases owners
      cases all
      exact refPeek _
    case h_4 noFind noTypes noPeek =>
      split
      case h_1 =>
        cases owners
        cases all with
        | cons _ none =>
            cases none
            exact (noFind _ _ rfl rfl rfl).elim
      case h_2 =>
        cases owners
        cases all
        exact (noTypes _ rfl rfl rfl).elim
      case h_3 =>
        cases owners
        cases all
        exact (noPeek _ rfl rfl rfl).elim
      case h_4 => exact fail _

theorem call {target target' : Value} {arguments others : List Value}
    (same : Twin first.moves extent target target')
    (all : Twins first.moves extent arguments others) :
    Tandem first extent (Twin first.moves) (Observe.call target arguments)
      (Observe.call target' others) := by
  cases same
  case function f => exact callFunction f all
  case component c =>
    rcases all with _ | ⟨props, _ | ⟨children, _ | ⟨_, _⟩⟩⟩
    · exact fail _
    · exact fail _
    · exact render props children c
    · exact fail _
  case method name owners => exact callMethod name owners all
  all_goals exact fail _

/-! ## Evaluation -/

section Evaluate

/-- Tokens give twins, from now on. -/
def TokensAlike (first : FirstLook) (extent : Extent) (token token' : Nat → Observe Value) :
    Prop :=
  ∀ large index, extent.Fits large →
    Tandem first large (Twin first.moves) (token index) (token' index)

variable {token token' : Nat → Observe Value}

theorem TokensAlike.mono (fits : small.Fits large) (each : TokensAlike first small token token') :
    TokensAlike first large token token' :=
  fun _ index more => each _ index (fits.trans more)

mutual

theorem evaluateTree : ∀ {extent : Extent} (expr : Expr),
    TokensAlike first extent token token' →
      Tandem first extent (Twin first.moves) (expr.evaluate token) (expr.evaluate token')
  | _, .constant c, _ => ofConstant c
  | _, .token index, each => each _ index (.refl _)
  | _, .all operands, each => firstFalse operands each (.bool true)
  | _, .any operands, each => firstTrue operands each (.bool false)
  | _, .not operand, each =>
      bind (evaluateTree operand each) fun _ _ _ _ same =>
        bind_same (isTrue same) fun _ _ _ => pure fun _ _ => .bool _
  | _, .minus operand, each =>
      bind (evaluateTree operand each) fun _ _ _ _ same => signed _ _ same
  | _, .plus operand, each => bind (evaluateTree operand each) fun _ _ _ _ same => plus same
  | _, .arith op left right, each =>
      bind (evaluateTree left each) fun _ _ _ fits lefts =>
        bind (evaluateTree right (each.mono fits)) fun _ _ _ more rights =>
          arith (lefts.mono more) rights op
  | _, .compare head ops others, each =>
      bind (evaluateTree head each) fun _ _ _ fits lefts =>
        bind_same (chain ops others (each.mono fits) lefts) fun _ _ _ => pure fun _ _ => .bool _
  | _, .conditional test body otherwise, each => by
      refine bind (evaluateTree test each) fun large value _ fits same => ?_
      refine bind_same (isTrue same) fun larger holds more => ?_
      split
      · exact evaluateTree body (each.mono (fits.trans more))
      · exact evaluateTree otherwise (each.mono (fits.trans more))
  | _, .subscript object key, each =>
      bind (evaluateTree object each) fun _ _ _ fits objects =>
        bind (evaluateTree key (each.mono fits)) fun _ _ _ more keys =>
          subscript (objects.mono more) keys
  | _, .call function arguments, each => by
      refine bind (evaluateTree function each) fun large target target' fits same => ?_
      have callable : Observe.isCallable target = Observe.isCallable target' := by
        cases same
        case handle kind _ _ => cases kind <;> rfl
        all_goals rfl
      rw [callable, same.typeName]
      split
      · exact bind (evaluateAll arguments (each.mono fits)) fun _ _ _ more all =>
          call (same.mono more) all
      · exact fail _
  | _, .sequence items, each => bind (evaluateAll items each) fun _ _ _ _ all => newList all

theorem evaluateAll : ∀ {extent : Extent} (exprs : List Expr),
    TokensAlike first extent token token' →
      Tandem first extent (Twins first.moves) (Expr.evaluate.evaluateAll token exprs)
        (Expr.evaluate.evaluateAll token' exprs)
  | _, [], _ => pure fun _ _ => .nil
  | _, expr :: rest, each =>
      bind (evaluateTree expr each) fun _ _ _ fits same =>
        bind (evaluateAll rest (each.mono fits)) fun _ _ _ more all =>
          pure fun _ most => .cons (same.mono (more.trans most)) (Twin.monoAll most all)

theorem firstFalse : ∀ {extent : Extent} (exprs : List Expr) {last last' : Value},
    TokensAlike first extent token token' → Twin first.moves extent last last' →
      Tandem first extent (Twin first.moves) (Expr.evaluate.firstFalse token last exprs)
        (Expr.evaluate.firstFalse token' last' exprs)
  | _, [], _, _, _, lasts => pure fun _ more => lasts.mono more
  | _, expr :: rest, _, _, each, _ => by
      refine bind (evaluateTree expr each) fun large value _ fits same => ?_
      refine bind_same (isTrue same) fun larger holds more => ?_
      split
      · exact firstFalse rest (each.mono (fits.trans more)) (same.mono more)
      · exact pure fun _ most => same.mono (more.trans most)

theorem firstTrue : ∀ {extent : Extent} (exprs : List Expr) {last last' : Value},
    TokensAlike first extent token token' → Twin first.moves extent last last' →
      Tandem first extent (Twin first.moves) (Expr.evaluate.firstTrue token last exprs)
        (Expr.evaluate.firstTrue token' last' exprs)
  | _, [], _, _, _, lasts => pure fun _ more => lasts.mono more
  | _, expr :: rest, _, _, each, _ => by
      refine bind (evaluateTree expr each) fun large value _ fits same => ?_
      refine bind_same (isTrue same) fun larger holds more => ?_
      split
      · exact pure fun _ most => same.mono (more.trans most)
      · exact firstTrue rest (each.mono (fits.trans more)) (same.mono more)

theorem chain : ∀ {extent : Extent} (ops : List Comparison) (exprs : List Expr)
    {left left' : Value}, TokensAlike first extent token token' →
      Twin first.moves extent left left' →
        Tandem first extent Same (Expr.evaluate.chain token left ops exprs)
          (Expr.evaluate.chain token' left' ops exprs)
  | _, [], [], _, _, _, _ | _, [], _ :: _, _, _, _, _ | _, _ :: _, [], _, _, _, _ =>
      pure fun _ _ => rfl
  | _, op :: ops, expr :: others, _, _, each, lefts => by
      refine bind (evaluateTree expr each) fun large right _ fits rights => ?_
      refine bind_same (compareBy op (lefts.mono fits) rights) fun larger holds more => ?_
      split
      · exact chain ops others (each.mono (fits.trans more)) (rights.mono more)
      · exact pure fun _ _ => rfl

end

/-! ## Reports -/

/-- What a token gives, by its name. -/
def FindingTwin (moved : Relocation) (extent : Extent) (p q : String × Except Fault Value) :
    Prop :=
  p.1 = q.1 ∧ ResultTwin moved extent (Twin moved) p.2 q.2

theorem lasting_finding : Lasting (FindingTwin moved) :=
  fun _ _ _ _ fits same => ⟨same.1, same.2.mono lasting_twin fits⟩

theorem findings_of_forall₂ {values others : List (String × Except Fault Value)}
    (all : List.Forall₂ (FindingTwin moved extent) values others) :
    FindingTwins moved extent values others := by
  induction all with
  | nil => exact .nil
  | @cons p q _ _ both _ ih =>
      obtain ⟨name, result⟩ := p
      obtain ⟨name', result'⟩ := q
      obtain ⟨rfl, same⟩ := both
      cases same with
      | ok same => exact .value name same ih
      | error same => exact .fault name same ih

theorem tokenValues (each : TokensAlike first extent token token') (expression : Expression) :
    Tandem first extent (fun large => List.Forall₂ (FindingTwin first.moves large))
      (expression.snapshot token) (expression.snapshot token') := by
  refine mapM lasting_finding (List.forall₂_same.mpr fun entry _ large fits => ?_)
  obtain ⟨name, index⟩ := entry
  refine tryCatch ?_ fun larger f g more fault => ?_
  · exact bind (each _ index fits) fun _ _ _ _ same => pure fun _ more => ⟨rfl, .ok (same.mono more)⟩
  · rw [fault.isCatchable]
    split
    · exact pure fun _ most => ⟨rfl, .error (fault.mono most)⟩
    · exact throw fault

theorem listedValue (token : String) {value value' : Except Fault Value}
    (same : ResultTwin first.moves extent (Twin first.moves) value value') :
    Tandem first extent Same (ReactiveSchema.listedValue token value)
      (ReactiveSchema.listedValue token value') := by
  cases same with
  | ok same =>
      refine bind_same (shown same) fun large text fits => ?_
      rw [same.typeName]
      exact pure fun _ _ => rfl
  | @error f g fault =>
      have shown : f.shown = g.shown := by
        cases fault <;> rfl
      unfold ReactiveSchema.listedValue
      dsimp only
      rw [shown, fault.name]
      exact pure fun _ _ => rfl

theorem report (each : TokensAlike first extent token token') (expression : Expression)
    {f g : Fault} (fault : FaultTwin first.moves extent f g) :
    Tandem first extent (FaultTwin first.moves) (expression.report token f)
      (expression.report token' g) := by
  refine bind (tokenValues each expression) fun large values others fits all => ?_
  refine bind_same (mapM_same (Each.of_forall₂ lasting_finding all ?_)) ?_
  · intro larger p q more both
    obtain ⟨name, value⟩ := p
    obtain ⟨name', value'⟩ := q
    obtain ⟨rfl, same⟩ := both
    exact listedValue name same
  · intro larger listed more
    refine bind get fun largest memory other most mirrors => ?_
    rw [mirrors.colors, fault.name, fault.text]
    exact pure fun _ last => .evaluation _ _ _
      (FaultTwin.monoAll ((more.trans most).trans last) (findings_of_forall₂ all))

/-- An expression comes to twins, be it in value or in fault. -/
theorem evaluate (each : TokensAlike first extent token token') (expression : Expression) :
    Tandem first extent (Twin first.moves) (expression.evaluate token)
      (expression.evaluate token') := by
  refine tryCatch (evaluateTree _ each) fun large f g fits fault => ?_
  rw [fault.isSchemaFault, fault.isCatchable]
  split
  · exact throw fault
  · exact bind (report (each.mono fits) expression fault) fun _ _ _ _ same => throw same

end Evaluate

end Tandem

end ReactiveSchema
