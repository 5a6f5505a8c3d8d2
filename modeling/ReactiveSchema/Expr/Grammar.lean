import ReactiveSchema.Expr.Tree

/-!
# The expression grammar

A reader for each construct takes lexemes and gives its tree and the lexemes
that follow.  The grammar is the full one for expressions without statements:
also constructs that the language refuses are read, so that a refusal can name
them.  `fuel` bounds the nesting of readers; `Tree.ofLexemes?` starts with more
than any input needs.
-/

namespace ReactiveSchema.Grammar

/-- The comparison at the front of some lexemes. -/
def comparison? : List Lexeme → Option (CompareOp × List Lexeme)
  | .sign ['=', '='] :: rest => some (.eq, rest)
  | .sign ['!', '='] :: rest => some (.ne, rest)
  | .sign ['<', '='] :: rest => some (.le, rest)
  | .sign ['<'] :: rest => some (.lt, rest)
  | .sign ['>', '='] :: rest => some (.ge, rest)
  | .sign ['>'] :: rest => some (.gt, rest)
  | .keyword .not :: .keyword .in :: rest => some (.notIn, rest)
  | .keyword .in :: rest => some (.in, rest)
  | .keyword .is :: .keyword .not :: rest => some (.isNot, rest)
  | .keyword .is :: rest => some (.is, rest)
  | _ => none

/-- The operator of a level of binding strength at the front of some lexemes. -/
def operator? (level : Nat) : List Lexeme → Option (BinaryOp × List Lexeme)
  | .sign sign :: rest =>
      let op : Option BinaryOp :=
        match level, sign with
        | 0, ['|'] => some .bitOr
        | 1, ['^'] => some .bitXor
        | 2, ['&'] => some .bitAnd
        | 3, ['<', '<'] => some .shiftLeft
        | 3, ['>', '>'] => some .shiftRight
        | 4, ['+'] => some .add
        | 4, ['-'] => some .sub
        | 5, ['*'] => some .mul
        | 5, ['/'] => some .div
        | 5, ['/', '/'] => some .floorDiv
        | 5, ['%'] => some .mod
        | 5, ['@'] => some .matMul
        | _, _ => none
      op.map fun op => (op, rest)
  | _ => none

/-- The number of levels of binary operators. -/
def operatorLevels : Nat := 6

/-- Skip one sign, if it comes next. -/
def expect (sign : List Char) : List Lexeme → Option (List Lexeme)
  | .sign found :: rest => if found = sign then some rest else none
  | _ => none

/-- The rest of a literal that is written in several strings. -/
def moreStrings : List Lexeme → List Char × List Lexeme
  | .string s :: rest =>
      let (more, after) := moreStrings rest
      (s ++ more, after)
  | rest => ([], rest)

/-- Can a tree be assigned to? -/
def isTarget : Tree → Bool
  | .name _ => true
  | .subscript _ _ => true
  | .unsupported construct => construct == "Attribute"
  | .sequence items => areTargets items
  | _ => false
where
  /-- Can every item be assigned to, unpacked or not? -/
  areTargets : List Tree → Bool
    | [] => true
    | .starred inner :: rest => isTarget inner && areTargets rest
    | item :: rest => isTarget item && areTargets rest

/-- Does a name with an assignment sign come next? -/
def startsAssignment : List Lexeme → Bool
  | .name _ :: .sign [':', '='] :: _ => true
  | _ => false

/-- Does an argument come next that is neither named nor unpacked? -/
def startsPlainArgument : List Lexeme → Bool
  | .sign ['*'] :: _ => false
  | .sign ['*', '*'] :: _ => false
  | .name _ :: .sign ['='] :: _ => false
  | _ => true

mutual

/-- A disjunction, or a choice between two values. -/
def expression : Nat → List Lexeme → Option (Tree × List Lexeme)
  | 0, _ => none
  | fuel + 1, input => do
      let (body, rest) ← disjunction fuel input
      match rest with
      | .keyword .if :: after => do
          let (test, after) ← disjunction fuel after
          match after with
          | .keyword .else :: after =>
              let (otherwise, after) ← expression fuel after
              return (.conditional test body otherwise, after)
          | _ => none
      | _ => return (body, rest)

/-- Conjunctions joined by `or`. -/
def disjunction : Nat → List Lexeme → Option (Tree × List Lexeme)
  | 0, _ => none
  | fuel + 1, input => do
      let (first, rest) ← conjunction fuel input
      let (others, rest) ← moreConjunctions fuel rest
      return (if others.isEmpty then first else .any (first :: others), rest)

/-- The conjunctions after the first one. -/
def moreConjunctions : Nat → List Lexeme → Option ((List Tree) × List Lexeme)
  | 0, _ => none
  | fuel + 1, .keyword .or :: after => do
      let (next, rest) ← conjunction fuel after
      let (others, rest) ← moreConjunctions fuel rest
      return (next :: others, rest)
  | _ + 1, rest => some ([], rest)

/-- Inversions joined by `and`. -/
def conjunction : Nat → List Lexeme → Option (Tree × List Lexeme)
  | 0, _ => none
  | fuel + 1, input => do
      let (first, rest) ← inversion fuel input
      let (others, rest) ← moreInversions fuel rest
      return (if others.isEmpty then first else .all (first :: others), rest)

/-- The inversions after the first one. -/
def moreInversions : Nat → List Lexeme → Option ((List Tree) × List Lexeme)
  | 0, _ => none
  | fuel + 1, .keyword .and :: after => do
      let (next, rest) ← inversion fuel after
      let (others, rest) ← moreInversions fuel rest
      return (next :: others, rest)
  | _ + 1, rest => some ([], rest)

/-- A comparison behind any number of `not`. -/
def inversion : Nat → List Lexeme → Option (Tree × List Lexeme)
  | 0, _ => none
  | fuel + 1, .keyword .not :: after => do
      let (operand, rest) ← inversion fuel after
      return (.unary .not operand, rest)
  | fuel + 1, input => comparison fuel input

/-- A chain of comparisons. -/
def comparison : Nat → List Lexeme → Option (Tree × List Lexeme)
  | 0, _ => none
  | fuel + 1, input => do
      let (first, rest) ← binary fuel 0 input
      let (ops, others, rest) ← moreComparisons fuel rest
      return (if ops.isEmpty then first else .compare first ops others, rest)

/-- The comparisons after the first operand. -/
def moreComparisons : Nat → List Lexeme → Option (List CompareOp × List Tree × List Lexeme)
  | 0, _ => none
  | fuel + 1, input =>
      match comparison? input with
      | none => some ([], [], input)
      | some (op, rest) => do
          let (next, rest) ← binary fuel 0 rest
          let (ops, others, rest) ← moreComparisons fuel rest
          return (op :: ops, next :: others, rest)

/-- Operators of a level and of all stronger ones. -/
def binary : Nat → Nat → List Lexeme → Option (Tree × List Lexeme)
  | 0, _, _ => none
  | fuel + 1, level, input =>
      if operatorLevels ≤ level then factor fuel input
      else do
        let (first, rest) ← binary fuel (level + 1) input
        moreOperands fuel level first rest

/-- The operands after the first one of a level, bound to the left. -/
def moreOperands : Nat → Nat → Tree → List Lexeme → Option (Tree × List Lexeme)
  | 0, _, _, _ => none
  | fuel + 1, level, left, input =>
      match operator? level input with
      | none => some (left, input)
      | some (op, rest) => do
          let (right, rest) ← binary fuel (level + 1) rest
          moreOperands fuel level (.binary left op right) rest

/-- A power behind any number of signs. -/
def factor : Nat → List Lexeme → Option (Tree × List Lexeme)
  | 0, _ => none
  | fuel + 1, .sign ['+'] :: after => do
      let (operand, rest) ← factor fuel after
      return (.unary .plus operand, rest)
  | fuel + 1, .sign ['-'] :: after => do
      let (operand, rest) ← factor fuel after
      return (.unary .minus operand, rest)
  | fuel + 1, .sign ['~'] :: after => do
      let (operand, rest) ← factor fuel after
      return (.unary .invert operand, rest)
  | fuel + 1, input => power fuel input

/-- A primary, perhaps raised to a factor. -/
def power : Nat → List Lexeme → Option (Tree × List Lexeme)
  | 0, _ => none
  | fuel + 1, input => do
      let (base, rest) ← primary fuel input
      match rest with
      | .sign ['*', '*'] :: after => do
          let (exponent, rest) ← factor fuel after
          return (.binary base .pow exponent, rest)
      | _ => return (base, rest)

/-- An atom with its attributes, calls and subscripts. -/
def primary : Nat → List Lexeme → Option (Tree × List Lexeme)
  | 0, _ => none
  | fuel + 1, input => do
      let (first, rest) ← atom fuel input
      trailers fuel first rest

/-- Attributes, calls and subscripts of a tree. -/
def trailers : Nat → Tree → List Lexeme → Option (Tree × List Lexeme)
  | 0, _, _ => none
  | fuel + 1, _, .sign ['.'] :: .name _ :: rest =>
      trailers fuel (.unsupported "Attribute") rest
  | _ + 1, _, .sign ['.'] :: _ => none
  | fuel + 1, base, .sign ['('] :: rest => do
      let (tree, rest) ← callOf fuel base rest
      trailers fuel tree rest
  | fuel + 1, base, .sign ['['] :: rest => do
      let (key, rest) ← slices fuel rest
      trailers fuel (.subscript base key) rest
  | _ + 1, base, rest => some (base, rest)

/-- A literal, a name or a construct in brackets. -/
def atom : Nat → List Lexeme → Option (Tree × List Lexeme)
  | 0, _ => none
  | fuel + 1, input =>
      match input with
      | .constant c :: rest => some (.constant c, rest)
      | .string s :: rest =>
          let (more, after) := moreStrings rest
          some (.constant (.str (String.ofList (s ++ more))), after)
      | .name id :: rest => some (.name id, rest)
      | .sign ['.', '.', '.'] :: rest => some (.constant .ellipsis, rest)
      | .sign ['('] :: rest => parenthesized fuel rest
      | .sign ['['] :: rest => bracketed fuel rest
      | .sign ['\x7b'] :: rest => braced fuel rest
      | _ => none

/-- An assignment inside an expression, or an expression. -/
def named : Nat → List Lexeme → Option (Tree × List Lexeme)
  | 0, _ => none
  | fuel + 1, .name _ :: .sign [':', '='] :: after => do
      let (_, rest) ← expression fuel after
      return (.unsupported "NamedExpr", rest)
  | fuel + 1, input => expression fuel input

/-- An item of a list: unpacked, or an expression. -/
def item : Nat → List Lexeme → Option (Tree × List Lexeme)
  | 0, _ => none
  | fuel + 1, .sign ['*'] :: after => do
      let (inner, rest) ← binary fuel 0 after
      return (.starred inner, rest)
  | fuel + 1, input => named fuel input

/-- The items after the first one, up to the closing bracket. -/
def moreItems : Nat → List Char → List Lexeme → Option ((List Tree) × List Lexeme)
  | 0, _, _ => none
  | fuel + 1, close, input =>
      match expect close input with
      | some rest => some ([], rest)
      | none => do
          let rest ← expect [','] input
          match expect close rest with
          | some rest => some ([], rest)
          | none => do
              let (next, rest) ← item fuel rest
              let (others, rest) ← moreItems fuel close rest
              return (next :: others, rest)

/-- After an opening parenthesis: a group, a tuple or a generator. -/
def parenthesized : Nat → List Lexeme → Option (Tree × List Lexeme)
  | 0, _ => none
  | fuel + 1, input =>
      match expect [')'] input with
      | some rest => some (.sequence [], rest)
      | none => do
          let (first, rest) ← item fuel input
          match first, rest with
          | .starred _, .sign [')'] :: _ => none
          | .starred _, .keyword .for :: _ => none
          | _, .sign [')'] :: after => return (first, after)
          | _, .keyword .for :: _ => do
              let rest ← clauses fuel rest
              let rest ← expect [')'] rest
              return (.unsupported "GeneratorExp", rest)
          | _, _ => do
              let (others, rest) ← moreItems fuel [')'] rest
              return (.sequence (first :: others), rest)

/-- After an opening bracket: a list or a comprehension. -/
def bracketed : Nat → List Lexeme → Option (Tree × List Lexeme)
  | 0, _ => none
  | fuel + 1, input =>
      match expect [']'] input with
      | some rest => some (.sequence [], rest)
      | none => do
          let (first, rest) ← item fuel input
          match first, rest with
          | .starred _, .keyword .for :: _ => none
          | _, .keyword .for :: _ => do
              let rest ← clauses fuel rest
              let rest ← expect [']'] rest
              return (.unsupported "ListComp", rest)
          | _, _ => do
              let (others, rest) ← moreItems fuel [']'] rest
              return (.sequence (first :: others), rest)

/-- After an opening brace: a map, a set or a comprehension of either kind. -/
def braced : Nat → List Lexeme → Option (Tree × List Lexeme)
  | 0, _ => none
  | fuel + 1, input =>
      match input with
      | .sign ['\x7d'] :: rest => some (.unsupported "Dict", rest)
      | .sign ['*', '*'] :: _ => do
          let rest ← entries fuel input
          return (.unsupported "Dict", rest)
      | _ => do
          let (first, rest) ← item fuel input
          match first, rest with
          | .starred _, .sign [':'] :: _ => none
          | .starred _, .keyword .for :: _ => none
          | _, .sign [':'] :: after =>
              if startsAssignment input then none
              else do
                let (_, rest) ← expression fuel after
                match rest with
                | .keyword .for :: _ => do
                    let rest ← clauses fuel rest
                    let rest ← expect ['\x7d'] rest
                    return (.unsupported "DictComp", rest)
                | .sign ['\x7d'] :: rest => return (.unsupported "Dict", rest)
                | _ => do
                    let rest ← expect [','] rest
                    let rest ← entries fuel rest
                    return (.unsupported "Dict", rest)
          | _, .keyword .for :: _ => do
              let rest ← clauses fuel rest
              let rest ← expect ['\x7d'] rest
              return (.unsupported "SetComp", rest)
          | _, _ => do
              let (_, rest) ← moreItems fuel ['\x7d'] rest
              return (.unsupported "Set", rest)

/-- The entries of a map up to its closing brace. -/
def entries : Nat → List Lexeme → Option (List Lexeme)
  | 0, _ => none
  | fuel + 1, input =>
      match input with
      | .sign ['\x7d'] :: rest => some rest
      | .sign ['*', '*'] :: after => do
          let (_, rest) ← binary fuel 0 after
          moreEntries fuel rest
      | _ => do
          let (_, rest) ← expression fuel input
          let rest ← expect [':'] rest
          let (_, rest) ← expression fuel rest
          moreEntries fuel rest

/-- What follows an entry of a map. -/
def moreEntries : Nat → List Lexeme → Option (List Lexeme)
  | 0, _ => none
  | fuel + 1, input =>
      match input with
      | .sign ['\x7d'] :: rest => some rest
      | .sign [','] :: rest => entries fuel rest
      | _ => none

/-- The arguments of a call, after its opening parenthesis. -/
def callOf : Nat → Tree → List Lexeme → Option (Tree × List Lexeme)
  | 0, _, _ => none
  | fuel + 1, base, input =>
      match expect [')'] input with
      | some rest => some (.call base [], rest)
      | none =>
          if startsPlainArgument input then do
            let (first, rest) ← named fuel input
            match rest with
            | .keyword .for :: _ => do
                let rest ← clauses fuel rest
                let rest ← expect [')'] rest
                return (.call base [.unsupported "GeneratorExp"], rest)
            | _ => do
                let (keywords, found, rest) ← moreArguments fuel 0 rest
                return (if keywords then .keywordCall else .call base (first :: found), rest)
          else do
            let (keywords, found, rest) ← callArguments fuel 0 input
            return (if keywords then .keywordCall else .call base found, rest)

/--
Arguments up to the closing parenthesis.  The stage rises from plain arguments
over named ones to unpacked maps; what belongs to an earlier stage may not
come later, but lists may be unpacked beside named arguments.
-/
def callArguments : Nat → Nat → List Lexeme → Option (Bool × List Tree × List Lexeme)
  | 0, _, _ => none
  | fuel + 1, stage, input =>
      match input with
      | .sign ['*', '*'] :: after => do
          let (_, rest) ← expression fuel after
          let (_, found, rest) ← moreArguments fuel 2 rest
          return (true, found, rest)
      | .sign ['*'] :: after =>
          if 2 ≤ stage then none
          else do
            let (inner, rest) ← expression fuel after
            let (keywords, found, rest) ← moreArguments fuel stage rest
            return (keywords, .starred inner :: found, rest)
      | .name _ :: .sign ['='] :: after => do
          let (_, rest) ← expression fuel after
          let (_, found, rest) ← moreArguments fuel (max 1 stage) rest
          return (true, found, rest)
      | _ =>
          if 1 ≤ stage then none
          else do
            let (argument, rest) ← named fuel input
            let (keywords, found, rest) ← moreArguments fuel stage rest
            return (keywords, argument :: found, rest)

/-- What follows an argument. -/
def moreArguments : Nat → Nat → List Lexeme → Option (Bool × List Tree × List Lexeme)
  | 0, _, _ => none
  | fuel + 1, stage, input =>
      match input with
      | .sign [')'] :: rest => some (false, [], rest)
      | .sign [','] :: .sign [')'] :: rest => some (false, [], rest)
      | .sign [','] :: rest => callArguments fuel stage rest
      | _ => none

/-- The inside of a subscript, with its closing bracket. -/
def slices : Nat → List Lexeme → Option (Tree × List Lexeme)
  | 0, _ => none
  | fuel + 1, input => do
      let (first, rest) ← slice fuel input
      match first, rest with
      | .starred _, .sign [']'] :: after => return (.sequence [first], after)
      | _, .sign [']'] :: after => return (first, after)
      | _, _ => do
          let (others, rest) ← moreSlices fuel rest
          return (.sequence (first :: others), rest)

/-- The slices after the first one. -/
def moreSlices : Nat → List Lexeme → Option ((List Tree) × List Lexeme)
  | 0, _ => none
  | fuel + 1, input =>
      match input with
      | .sign [']'] :: rest => some ([], rest)
      | .sign [','] :: .sign [']'] :: rest => some ([], rest)
      | .sign [','] :: rest => do
          let (next, rest) ← slice fuel rest
          let (others, rest) ← moreSlices fuel rest
          return (next :: others, rest)
      | _ => none

/-- One slice, an unpacked list or an expression. -/
def slice : Nat → List Lexeme → Option (Tree × List Lexeme)
  | 0, _ => none
  | fuel + 1, input =>
      match input with
      | .sign ['*'] :: after => do
          let (inner, rest) ← expression fuel after
          return (.starred inner, rest)
      | .sign [':'] :: after => do
          let rest ← sliceEnd fuel after
          return (.unsupported "Slice", rest)
      | _ => do
          let (tree, rest) ← named fuel input
          match rest with
          | .sign [':'] :: after =>
              if startsAssignment input then none
              else do
                let rest ← sliceEnd fuel after
                return (.unsupported "Slice", rest)
          | _ => return (tree, rest)

/-- What follows the first colon of a slice. -/
def sliceEnd : Nat → List Lexeme → Option (List Lexeme)
  | 0, _ => none
  | fuel + 1, input => do
      let rest ← optional fuel input
      match rest with
      | .sign [':'] :: after => optional fuel after
      | _ => return rest

/-- An expression, unless a slice ends here. -/
def optional : Nat → List Lexeme → Option (List Lexeme)
  | 0, _ => none
  | fuel + 1, input =>
      match input with
      | .sign [':'] :: _ => some input
      | .sign [','] :: _ => some input
      | .sign [']'] :: _ => some input
      | _ => (expression fuel input).map (·.2)

/-- The clauses of a comprehension. -/
def clauses : Nat → List Lexeme → Option (List Lexeme)
  | 0, _ => none
  | fuel + 1, input =>
      match input with
      | .keyword .for :: after => do
          let rest ← targets fuel after
          match rest with
          | .keyword .in :: after => do
              let (_, rest) ← disjunction fuel after
              let rest ← conditions fuel rest
              match rest with
              | .keyword .for :: _ => clauses fuel rest
              | _ => return rest
          | _ => none
      | _ => none

/-- The conditions of a clause. -/
def conditions : Nat → List Lexeme → Option (List Lexeme)
  | 0, _ => none
  | fuel + 1, .keyword .if :: after => do
      let (_, rest) ← disjunction fuel after
      conditions fuel rest
  | _ + 1, rest => some rest

/-- What a clause assigns to. -/
def targets : Nat → List Lexeme → Option (List Lexeme)
  | 0, _ => none
  | fuel + 1, input => do
      let rest ← target fuel input
      match rest with
      | .sign [','] :: .keyword .in :: _ => return rest.tail
      | .sign [','] :: after => targets fuel after
      | _ => return rest

/-- One target, unpacked or not. -/
def target : Nat → List Lexeme → Option (List Lexeme)
  | 0, _ => none
  | _ + 1, .sign ['*'] :: .sign ['*'] :: _ => none
  | fuel + 1, .sign ['*'] :: after => target fuel after
  | fuel + 1, input => do
      let (tree, rest) ← primary fuel input
      if isTarget tree then return rest else none

end

/-- Expressions separated by commas, the last comma optional. -/
def expressions : Nat → List Lexeme → Option ((List Tree × Bool) × List Lexeme)
  | 0, _ => none
  | fuel + 1, input => do
      let (first, rest) ← expression fuel input
      match rest with
      | .sign [','] :: after =>
          match after with
          | .newline :: _ => return (([first], true), after)
          | [] => return (([first], true), after)
          | _ => do
              let ((others, _), rest) ← expressions fuel after
              return ((first :: others, true), rest)
      | _ => return (([first], false), rest)

/-- The tree of a whole text. -/
def whole (input : List Lexeme) : Option Tree := do
  let ((items, tuple), rest) ← expressions (40 * (input.length + 4)) input
  if rest.all (· == .newline) then
    match items, tuple with
    | [single], false => some single
    | _, _ => some (.sequence items)
  else none

end ReactiveSchema.Grammar

namespace ReactiveSchema

/-- The tree that some lexemes form, if they form one. -/
def Tree.ofLexemes? (input : List Lexeme) : Option Tree :=
  Grammar.whole input

end ReactiveSchema
