import PhpLexicon.Kind.Basic

/-!
# Tags of kinds

The tag of a kind is the identifier by which reports and tables refer to it.  It is not the display
name: tags are fixed, different for different kinds, and made of letters and digits only.
-/

namespace PhpLexicon.Kind

/-- The identifier of a kind in reports and tables. -/
def tag : Kind → String
  | .eof => "EOF"
  | .html => "HTML"
  | .phpBegin => "PHPBegin"
  | .phpEnd => "PHPEnd"
  | .phpToken => "PHPToken"
  | .error => "Error"
  | .space => "Space"
  | .functionKeyword => "Function"
  | .staticKeyword => "Static"
  | .selfKeyword => "SelfKeyword"
  | .parentKeyword => "Parent"
  | .finalKeyword => "Final"
  | .functionName => "FunctionName"
  | .typeHint => "TypeHint"
  | .variableOperator => "VariableOperator"
  | .blockBegin => "BlockBegin"
  | .blockEnd => "BlockEnd"
  | .globalKeyword => "Global"
  | .namespaceKeyword => "Namespace"
  | .useKeyword => "Use"
  | .commentLine => "CommentLine"
  | .commentBlock => "CommentBlock"
  | .ignoreErrorOperator => "IgnoreErrorOperator"
  | .returnKeyword => "Return"
  | .comma => "Comma"
  | .statementEnd => "StatementEnd"
  | .echoKeyword => "Echo"
  | .printKeyword => "Print"
  | .ifKeyword => "If"
  | .elseKeyword => "Else"
  | .elseIfKeyword => "ElseIf"
  | .forKeyword => "For"
  | .foreachKeyword => "Foreach"
  | .endIfKeyword => "EndIf"
  | .endForKeyword => "EndFor"
  | .endForeachKeyword => "EndForeach"
  | .endWhileKeyword => "EndWhile"
  | .endSwitchKeyword => "EndSwitch"
  | .asOperator => "AsOperator"
  | .whileKeyword => "While"
  | .continueKeyword => "Continue"
  | .breakKeyword => "Break"
  | .doKeyword => "Do"
  | .openParen => "OpenParen"
  | .closeParen => "CloseParen"
  | .switchKeyword => "Switch"
  | .caseKeyword => "Case"
  | .defaultKeyword => "Default"
  | .tryKeyword => "Try"
  | .catchKeyword => "Catch"
  | .finallyKeyword => "Finally"
  | .throwKeyword => "Throw"
  | .classKeyword => "Class"
  | .abstractKeyword => "Abstract"
  | .privateKeyword => "Private"
  | .publicKeyword => "Public"
  | .protectedKeyword => "Protected"
  | .interfaceKeyword => "Interface"
  | .implementsKeyword => "Implements"
  | .extendsKeyword => "Extends"
  | .newOperator => "NewOperator"
  | .constKeyword => "Const"
  | .nullKeyword => "Null"
  | .stringLiteral => "StringLiteral"
  | .numberLiteral => "NumberLiteral"
  | .booleanLiteral => "BooleanLiteral"
  | .shellCommand => "ShellCommand"
  | .identifier => "Identifier"
  | .assignmentOperator => "AssignmentOperator"
  | .negationOperator => "NegationOperator"
  | .additionOperator => "AdditionOperator"
  | .subtractionOperator => "SubtractionOperator"
  | .multOperator => "MultOperator"
  | .concatenationOperator => "ConcatenationOperator"
  | .unaryOperator => "UnaryOperator"
  | .comparisonOperator => "ComparisonOperator"
  | .instanceofOperator => "InstanceofOperator"
  | .andOperator => "AndOperator"
  | .orOperator => "OrOperator"
  | .writtenAndOperator => "WrittenAndOperator"
  | .writtenXorOperator => "WrittenXorOperator"
  | .writtenOrOperator => "WrittenOrOperator"
  | .objectOperator => "ObjectOperator"
  | .scopeResolutionOperator => "ScopeResolutionOperator"
  | .castOperator => "CastOperator"
  | .varKeyword => "Var"
  | .arrayKeyword => "Array"
  | .arrayKeyOperator => "ArrayKeyOperator"
  | .arrayLookupOperatorLeft => "ArrayLookupOperatorLeft"
  | .arrayLookupOperatorRight => "ArrayLookupOperatorRight"
  | .listKeyword => "List"
  | .bitwiseShiftOperator => "BitwiseShiftOperator"
  | .strongEqualityOperator => "StrongEqualityOperator"
  | .strongNotEqualityOperator => "StrongNotEqualityOperator"
  | .equalityOperator => "EqualityOperator"
  | .notEqualityOperator => "NotEqualityOperator"
  | .ampersandOperator => "AmpersandOperator"
  | .bitwiseXorOperator => "BitwiseXorOperator"
  | .bitwiseOrOperator => "BitwiseOrOperator"
  | .bitwiseNotOperator => "BitwiseNotOperator"
  | .ternaryOperator1 => "TernaryOperator1"
  | .ternaryOperator2 => "TernaryOperator2"
  | .declareKeyword => "Declare"
  | .includeKeyword => "Include"
  | .exitKeyword => "Exit"

/-- The kind with a given tag.  Capitals matter. -/
def ofTag? (text : String) : Option Kind :=
  all.find? (fun kind => kind.tag == text)

@[simp]
theorem ofTag?_tag (kind : Kind) : ofTag? kind.tag = some kind := by
  have hall : ∀ other ∈ all, ofTag? other.tag = some other := by decide +kernel
  exact hall kind kind.mem_all

/-- Different kinds have different tags. -/
theorem tag_injective : Function.Injective tag := by
  intro left right heq
  have hsome : some left = some right := by
    rw [← ofTag?_tag left, heq, ofTag?_tag]
  exact Option.some.inj hsome

/-- A tag has letters and digits only. -/
theorem isAlphanum_of_mem_tag {kind : Kind} {char : Char} (hmem : char ∈ kind.tag.toList) :
    char.isAlphanum = true := by
  have hall : ∀ other ∈ all, other.tag.toList.all Char.isAlphanum = true := by decide +kernel
  exact List.all_eq_true.mp (hall kind kind.mem_all) char hmem

theorem not_mem_tag {kind : Kind} {char : Char} (hchar : char.isAlphanum = false) :
    char ∉ kind.tag.toList := by
  intro hmem
  rw [isAlphanum_of_mem_tag hmem] at hchar
  exact Bool.noConfusion hchar

end PhpLexicon.Kind
