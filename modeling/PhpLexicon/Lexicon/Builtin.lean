import PhpLexicon.Lexicon.Basic

/-!
# The built-in lexicon

The lexicon from which a scanner of PHP source starts, and the two tables of which it is made.  The
names under which diagnostics show the kinds are not spellings of the source: one name may stand for
several spellings, as in "*/%".  The entries are the operators, the punctuation and the reserved
words of PHP, in their order of declaration; an alternative spelling of a statement's end, such as
the one with a semicolon, is an entry of its own.
-/

namespace PhpLexicon

/-! ## Names -/

namespace NameTable

/-- The built-in names, in the order in which they are listed. -/
def builtinNames : List (Kind × String) :=
  [(.html, "HTML"), (.phpBegin, "PHP Begin"), (.phpEnd, "PHP End"), (.phpToken, "PHP Token"),
   (.eof, "EOF"), (.error, "Error"), (.space, "(space)"), (.functionKeyword, "Function"),
   (.staticKeyword, "static"), (.selfKeyword, "self"), (.parentKeyword, "parent"),
   (.finalKeyword, "final"), (.functionName, "Function Name"),
   (.typeHint, "Function Type Hint"), (.variableOperator, "$"), (.blockBegin, "Block Begin"),
   (.blockEnd, "Block End"), (.globalKeyword, "global"), (.returnKeyword, "Return"),
   (.comma, "Function Argument Separator"), (.statementEnd, ";"), (.echoKeyword, "echo"),
   (.printKeyword, "Print"), (.namespaceKeyword, "namespace"), (.useKeyword, "use"),
   (.ignoreErrorOperator, "@"), (.ifKeyword, "If"), (.elseKeyword, "Else"),
   (.elseIfKeyword, "ElseIf"), (.endIfKeyword, "EndIf"), (.endForKeyword, "EndFor"),
   (.endForeachKeyword, "EndForeach"), (.endWhileKeyword, "EndWhile"),
   (.endSwitchKeyword, "EndSwitch"), (.varKeyword, "var"), (.forKeyword, "for"),
   (.foreachKeyword, "foreach"), (.switchKeyword, "switch"), (.caseKeyword, "case"),
   (.defaultKeyword, "default"), (.asOperator, "as"), (.whileKeyword, "while"),
   (.doKeyword, "do"), (.openParen, "open-paren"), (.closeParen, "close-paren"),
   (.continueKeyword, "continue"), (.breakKeyword, "break"), (.nullKeyword, "null"),
   (.commentBlock, "/* */"), (.commentLine, "//"), (.tryKeyword, "try"),
   (.catchKeyword, "catch"), (.finallyKeyword, "finally"), (.throwKeyword, "throw"),
   (.classKeyword, "Class"), (.constKeyword, "Const"), (.abstractKeyword, "abstract"),
   (.privateKeyword, "Private"), (.protectedKeyword, "Protected"), (.publicKeyword, "Public"),
   (.interfaceKeyword, "Interface"), (.implementsKeyword, "implements"),
   (.extendsKeyword, "extends"), (.newOperator, "new"), (.shellCommand, "`"),
   (.stringLiteral, "string-literal"), (.numberLiteral, "number-literal"),
   (.booleanLiteral, "bool-literal"), (.identifier, "identifier"), (.assignmentOperator, "="),
   (.negationOperator, "!"), (.additionOperator, "+"), (.subtractionOperator, "-"),
   (.multOperator, "*/%"), (.concatenationOperator, "."), (.unaryOperator, "++|--"),
   (.comparisonOperator, "<>"), (.objectOperator, "->"), (.scopeResolutionOperator, "::"),
   (.instanceofOperator, "instanceof"), (.strongNotEqualityOperator, "!=="),
   (.strongEqualityOperator, "==="), (.notEqualityOperator, "!="), (.equalityOperator, "=="),
   (.andOperator, "&&"), (.orOperator, "||"), (.writtenAndOperator, "logical-and"),
   (.writtenXorOperator, "logical-xor"), (.writtenOrOperator, "logical-or"),
   (.castOperator, "(type)"), (.listKeyword, "list"), (.arrayKeyword, "array"),
   (.arrayKeyOperator, "=>"), (.arrayLookupOperatorLeft, "["), (.arrayLookupOperatorRight, "]"),
   (.bitwiseShiftOperator, "<<>>"), (.ampersandOperator, "&"), (.bitwiseXorOperator, "^"),
   (.bitwiseOrOperator, "|"), (.bitwiseNotOperator, "~"), (.ternaryOperator1, "?"),
   (.ternaryOperator2, ":"), (.includeKeyword, "include"), (.exitKeyword, "exit"),
   (.declareKeyword, "declare")]

/-- The table of the built-in names. -/
def builtin : NameTable :=
  ofList builtinNames

end NameTable

/-- The built-in display name of a kind. -/
def Kind.display (kind : Kind) : String :=
  NameTable.builtin.display kind

/-! ## Entries -/

namespace Vocabulary

/-- The built-in spellings and their kinds, in the order of declaration. -/
def builtinEntries : List Entry :=
  [⟨"class", .classKeyword⟩, ⟨"clone", .unaryOperator⟩, ⟨"const", .constKeyword⟩,
   ⟨"abstract", .abstractKeyword⟩, ⟨"interface", .interfaceKeyword⟩,
   ⟨"implements", .implementsKeyword⟩, ⟨"extends", .extendsKeyword⟩, ⟨"new", .newOperator⟩,
   ⟨"if", .ifKeyword⟩, ⟨"else", .elseKeyword⟩, ⟨"elseif", .elseIfKeyword⟩,
   ⟨"while", .whileKeyword⟩, ⟨"do", .doKeyword⟩, ⟨"for", .forKeyword⟩,
   ⟨"foreach", .foreachKeyword⟩, ⟨"switch", .switchKeyword⟩, ⟨"endif;", .endIfKeyword⟩,
   ⟨"endif", .endIfKeyword⟩, ⟨"endfor;", .endForKeyword⟩, ⟨"endforeach;", .endForeachKeyword⟩,
   ⟨"endforeach", .endForeachKeyword⟩, ⟨"endwhile;", .endWhileKeyword⟩,
   ⟨"endwhile", .endWhileKeyword⟩, ⟨"endswitch;", .endSwitchKeyword⟩,
   ⟨"endswitch", .endSwitchKeyword⟩, ⟨"case", .caseKeyword⟩, ⟨"break", .breakKeyword⟩,
   ⟨"continue", .continueKeyword⟩, ⟨"default", .defaultKeyword⟩, ⟨"function", .functionKeyword⟩,
   ⟨"static", .staticKeyword⟩, ⟨"final", .finalKeyword⟩, ⟨"self", .selfKeyword⟩,
   ⟨"parent", .parentKeyword⟩, ⟨"return", .returnKeyword⟩, ⟨"\x7b", .blockBegin⟩,
   ⟨"\x7d", .blockEnd⟩, ⟨";", .statementEnd⟩, ⟨"(", .openParen⟩, ⟨")", .closeParen⟩,
   ⟨",", .comma⟩, ⟨"echo", .echoKeyword⟩, ⟨"print", .printKeyword⟩, ⟨"throw", .throwKeyword⟩,
   ⟨"try", .tryKeyword⟩, ⟨"catch", .catchKeyword⟩, ⟨"finally", .finallyKeyword⟩,
   ⟨"private", .privateKeyword⟩, ⟨"public", .publicKeyword⟩, ⟨"protected", .protectedKeyword⟩,
   ⟨"true", .booleanLiteral⟩, ⟨"false", .booleanLiteral⟩, ⟨"instanceof", .instanceofOperator⟩,
   ⟨"global", .globalKeyword⟩, ⟨"list", .listKeyword⟩, ⟨"array", .arrayKeyword⟩,
   ⟨"exit", .exitKeyword⟩, ⟨"include", .includeKeyword⟩, ⟨"include_once", .includeKeyword⟩,
   ⟨"require", .includeKeyword⟩, ⟨"require_once", .includeKeyword⟩, ⟨"@", .ignoreErrorOperator⟩,
   ⟨"null", .nullKeyword⟩, ⟨"NULL", .nullKeyword⟩, ⟨"var", .varKeyword⟩, ⟨"use", .useKeyword⟩,
   ⟨"namespace", .namespaceKeyword⟩, ⟨"(int)", .castOperator⟩, ⟨"(integer)", .castOperator⟩,
   ⟨"(bool)", .castOperator⟩, ⟨"(boolean)", .castOperator⟩, ⟨"(float)", .castOperator⟩,
   ⟨"(double)", .castOperator⟩, ⟨"(real)", .castOperator⟩, ⟨"(string)", .castOperator⟩,
   ⟨"(array)", .castOperator⟩, ⟨"(object)", .castOperator⟩, ⟨"(unset)", .castOperator⟩,
   ⟨"/*", .commentBlock⟩, ⟨"*/", .commentBlock⟩, ⟨"//", .commentLine⟩, ⟨"#", .commentLine⟩,
   ⟨"->", .objectOperator⟩, ⟨"::", .scopeResolutionOperator⟩, ⟨"+=", .assignmentOperator⟩,
   ⟨"-=", .assignmentOperator⟩, ⟨"*=", .assignmentOperator⟩, ⟨"/=", .assignmentOperator⟩,
   ⟨".=", .assignmentOperator⟩, ⟨"%=", .assignmentOperator⟩, ⟨"&=", .assignmentOperator⟩,
   ⟨"|=", .assignmentOperator⟩, ⟨"^=", .assignmentOperator⟩, ⟨"<<=", .assignmentOperator⟩,
   ⟨">>=", .assignmentOperator⟩, ⟨"=>", .arrayKeyOperator⟩, ⟨"===", .strongEqualityOperator⟩,
   ⟨"==", .equalityOperator⟩, ⟨"=", .assignmentOperator⟩, ⟨"!==", .strongNotEqualityOperator⟩,
   ⟨"!=", .notEqualityOperator⟩, ⟨"<>", .comparisonOperator⟩, ⟨"!", .negationOperator⟩,
   ⟨"++", .unaryOperator⟩, ⟨"--", .unaryOperator⟩, ⟨"+", .additionOperator⟩,
   ⟨"-", .subtractionOperator⟩, ⟨"*", .multOperator⟩, ⟨"/", .multOperator⟩,
   ⟨">=", .comparisonOperator⟩, ⟨">", .comparisonOperator⟩, ⟨"<=", .comparisonOperator⟩,
   ⟨"<", .comparisonOperator⟩, ⟨"%", .multOperator⟩, ⟨".", .concatenationOperator⟩,
   ⟨"&&", .andOperator⟩, ⟨"||", .orOperator⟩, ⟨"&", .ampersandOperator⟩,
   ⟨"^", .bitwiseXorOperator⟩, ⟨"~", .bitwiseNotOperator⟩, ⟨"|", .bitwiseOrOperator⟩,
   ⟨"<<", .bitwiseShiftOperator⟩, ⟨">>", .bitwiseShiftOperator⟩, ⟨"?", .ternaryOperator1⟩,
   ⟨":", .ternaryOperator2⟩, ⟨"and", .writtenAndOperator⟩, ⟨"xor", .writtenXorOperator⟩,
   ⟨"or", .writtenOrOperator⟩, ⟨"as", .asOperator⟩, ⟨"[", .arrayLookupOperatorLeft⟩,
   ⟨"]", .arrayLookupOperatorRight⟩, ⟨"$", .variableOperator⟩, ⟨"declare", .declareKeyword⟩]

/-- The vocabulary of the built-in entries. -/
def builtin : Vocabulary where
  entries := builtinEntries
  spelling_ne_empty := by decide +kernel
  nodup_spellings := by decide +kernel

end Vocabulary

/-! ## The lexicon -/

/-- The lexicon that a scanner of PHP source starts from. -/
def Lexicon.builtin : Lexicon :=
  Lexicon.of NameTable.builtin Vocabulary.builtin

end PhpLexicon
