import QueryNav.Buffer
import QueryNav.Dialect
import QueryNav.Header.Scan

/-! Suggestions for the cursor. The reserved words always come first, in their own order. When the text
before the cursor ends with the trigger, every import of the header follows with a reference to its
module path and, if it has an alias, one to the alias. Nothing is filtered by what was typed: the
editor does that. -/

namespace QueryNav

inductive Suggestion.Kind where
  | keyword
  | module
  deriving DecidableEq, Repr

structure Suggestion where
  label : Text
  kind : Suggestion.Kind
  documentation : Text
  deriving DecidableEq, Repr

namespace Suggestion

def ofKeyword (word : String) : Suggestion :=
  ⟨word.toList, .keyword, ("ezsql keyword: " ++ word).toList⟩

def ofModule (name modulePath : Text) : Suggestion :=
  ⟨'\x7b' :: name, .module, "Module: ".toList ++ modulePath⟩

def keywords : List Suggestion := Dialect.keywords.map ofKeyword

def ofStatement (statement : Header.Statement) : List Suggestion :=
  ofModule statement.path statement.path ::
    statement.alias?.toList.map fun name => ofModule name statement.path

/-- The suggestions in a document with these lines, `before` being the text of the cursor's line up to
the cursor. -/
def assemble (lines : List Text) (before : Text) : List Suggestion :=
  keywords ++
    if before.getLast? = some Dialect.trigger then (Header.scan lines).flatMap ofStatement else []

/-- The suggestions, import references being offered only if they are wanted. -/
def complete (importReferences : Bool) (lines : List Text) (before : Text) : List Suggestion :=
  assemble lines (if importReferences then before else [])

def atCursor (importReferences : Bool) (text : Text) (cursor : Position) : List Suggestion :=
  complete importReferences (Buffer.lines text) (Buffer.before text cursor)

end Suggestion

end QueryNav
