/-!
# Token kinds

The closed set of kinds that a token of PHP source can have.  Every kind has an ordinal, its place
in the order of declaration, and `ofOrdinal?` finds the kind again.
-/

namespace PhpLexicon

/-- What a token of PHP source is.  Several spellings may share one kind, and many kinds have no
fixed spelling at all. -/
inductive Kind where
  | eof | html | phpBegin | phpEnd | phpToken | error | space | functionKeyword | staticKeyword
  | selfKeyword | parentKeyword | finalKeyword | functionName | typeHint | variableOperator
  | blockBegin | blockEnd | globalKeyword
  | namespaceKeyword | useKeyword
  | commentLine | commentBlock
  | ignoreErrorOperator
  | returnKeyword | comma | statementEnd | echoKeyword | printKeyword
  | ifKeyword | elseKeyword | elseIfKeyword | forKeyword | foreachKeyword | endIfKeyword
  | endForKeyword | endForeachKeyword | endWhileKeyword | endSwitchKeyword | asOperator
  | whileKeyword | continueKeyword | breakKeyword | doKeyword | openParen | closeParen
  | switchKeyword | caseKeyword | defaultKeyword
  | tryKeyword | catchKeyword | finallyKeyword | throwKeyword
  | classKeyword | abstractKeyword | privateKeyword | publicKeyword | protectedKeyword
  | interfaceKeyword | implementsKeyword | extendsKeyword | newOperator | constKeyword
  | nullKeyword | stringLiteral | numberLiteral | booleanLiteral
  | shellCommand
  | identifier
  | assignmentOperator | negationOperator | additionOperator | subtractionOperator
  | multOperator | concatenationOperator | unaryOperator | comparisonOperator
  | instanceofOperator
  | andOperator | orOperator | writtenAndOperator | writtenXorOperator | writtenOrOperator
  | objectOperator | scopeResolutionOperator
  | castOperator
  | varKeyword | arrayKeyword | arrayKeyOperator | arrayLookupOperatorLeft
  | arrayLookupOperatorRight | listKeyword | bitwiseShiftOperator | strongEqualityOperator
  | strongNotEqualityOperator | equalityOperator | notEqualityOperator | ampersandOperator
  | bitwiseXorOperator | bitwiseOrOperator | bitwiseNotOperator | ternaryOperator1
  | ternaryOperator2
  | declareKeyword
  | includeKeyword | exitKeyword
  deriving DecidableEq

namespace Kind

/-- Every kind once, in the order of declaration. -/
def all : List Kind :=
  [.eof, .html, .phpBegin, .phpEnd, .phpToken, .error, .space, .functionKeyword, .staticKeyword,
   .selfKeyword, .parentKeyword, .finalKeyword, .functionName, .typeHint, .variableOperator,
   .blockBegin, .blockEnd, .globalKeyword, .namespaceKeyword, .useKeyword, .commentLine,
   .commentBlock, .ignoreErrorOperator, .returnKeyword, .comma, .statementEnd, .echoKeyword,
   .printKeyword, .ifKeyword, .elseKeyword, .elseIfKeyword, .forKeyword, .foreachKeyword,
   .endIfKeyword, .endForKeyword, .endForeachKeyword, .endWhileKeyword, .endSwitchKeyword,
   .asOperator, .whileKeyword, .continueKeyword, .breakKeyword, .doKeyword, .openParen,
   .closeParen, .switchKeyword, .caseKeyword, .defaultKeyword, .tryKeyword, .catchKeyword,
   .finallyKeyword, .throwKeyword, .classKeyword, .abstractKeyword, .privateKeyword,
   .publicKeyword, .protectedKeyword, .interfaceKeyword, .implementsKeyword, .extendsKeyword,
   .newOperator, .constKeyword, .nullKeyword, .stringLiteral, .numberLiteral, .booleanLiteral,
   .shellCommand, .identifier, .assignmentOperator, .negationOperator, .additionOperator,
   .subtractionOperator, .multOperator, .concatenationOperator, .unaryOperator,
   .comparisonOperator, .instanceofOperator, .andOperator, .orOperator, .writtenAndOperator,
   .writtenXorOperator, .writtenOrOperator, .objectOperator, .scopeResolutionOperator,
   .castOperator, .varKeyword, .arrayKeyword, .arrayKeyOperator, .arrayLookupOperatorLeft,
   .arrayLookupOperatorRight, .listKeyword, .bitwiseShiftOperator, .strongEqualityOperator,
   .strongNotEqualityOperator, .equalityOperator, .notEqualityOperator, .ampersandOperator,
   .bitwiseXorOperator, .bitwiseOrOperator, .bitwiseNotOperator, .ternaryOperator1,
   .ternaryOperator2, .declareKeyword, .includeKeyword, .exitKeyword]

/-- The number of kinds. -/
def count : Nat := 105

/-- The place of a kind in the order of declaration, counted from zero. -/
def ordinal (kind : Kind) : Nat :=
  kind.ctorIdx

/-- The kind at a place in the order of declaration, if there are that many kinds. -/
def ofOrdinal? (place : Nat) : Option Kind :=
  all[place]?

theorem length_all : all.length = count := rfl

@[simp]
theorem ofOrdinal?_ordinal (kind : Kind) : ofOrdinal? kind.ordinal = some kind := by
  cases kind <;> rfl

theorem mem_all (kind : Kind) : kind ∈ all :=
  List.mem_of_getElem? (ofOrdinal?_ordinal kind)

theorem map_ordinal_all : all.map ordinal = List.range count := by rfl

theorem nodup_all : all.Nodup := by
  have hnodup : (all.map ordinal).Nodup := by
    rw [map_ordinal_all]
    exact List.nodup_range
  exact List.Pairwise.of_map ordinal (fun _ _ hne heq => hne (congrArg ordinal heq)) hnodup

theorem ordinal_lt_count (kind : Kind) : kind.ordinal < count := by
  cases kind <;> decide

/-- The ordinal as an index into a table with one slot per kind. -/
def index (kind : Kind) : Fin count :=
  ⟨kind.ordinal, kind.ordinal_lt_count⟩

/-- Kinds are compared by their ordinals. -/
instance : LE Kind where
  le left right := left.ordinal ≤ right.ordinal

instance (left right : Kind) : Decidable (left ≤ right) :=
  inferInstanceAs (Decidable (left.ordinal ≤ right.ordinal))

/-- The kinds of a list in ascending order, repeats kept. -/
def sort (kinds : List Kind) : List Kind :=
  kinds.mergeSort (fun left right => decide (left ≤ right))

end Kind

end PhpLexicon
