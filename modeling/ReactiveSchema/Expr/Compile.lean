import ReactiveSchema.Expr.Grammar

/-!
# Compiling expressions

An expression is compiled once: its source is trimmed, cut into pieces, spelled
out, read by the grammar and checked.  The result lists the tokens in the order
of first use.
-/

namespace ReactiveSchema

open ReactiveSchema.Text

/-- A compiled expression. -/
structure Expression where
  /-- The source without blanks at its ends. -/
  source : String
  /-- The tokens, in the order of first use. -/
  tokens : List String
  body : Expr

namespace Expression

/-- The tree of a spelled text. -/
def treeOf (text : List Char) : Except SourceFault Tree :=
  if text.isEmpty then .error .empty
  else if text.any carriesSurrogate then .error .loneSurrogate
  else if text.contains '\x00' then .error .nulCharacter
  else
    match (lexemes text).bind Tree.ofLexemes? with
    | some tree => .ok tree
    | none => .error .ungrammatical

/-- Compile trimmed source. -/
def compileChars (source : List Char) : Except SourceFault Expression := do
  let spelled := spell (← pieces 0 source)
  let tree ← treeOf spelled.text
  let body ← tree.toExpr spelled.tokens.length
  return ⟨String.ofList source, spelled.tokens.map String.ofList, body⟩

/-- Compile the source of an expression. -/
def compile (source : String) : Except SourceFault Expression :=
  compileChars (trimBlanks source.toList)

end Expression

end ReactiveSchema
