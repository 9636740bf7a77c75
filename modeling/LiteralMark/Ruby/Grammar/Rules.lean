import LiteralMark.Ruby.Grammar.Form
/-!
# The grammar of Ruby

The form of every rule. What a command is, a call with arguments that
stand without parentheses, is an `expression` but not an `arg`: it cannot
be the operand of an operator or an element of a list.
-/

namespace LiteralMark.Ruby

/-! ## Strengths -/

namespace Strength

/-- The strength of `not`. -/
def negation : Int := 5

/-- The strength of `defined?`. -/
def definition : Int := 10

/-- The strength of assignments. -/
def assignment : Int := 15

/-- The strength of conditions and rescues behind a statement. -/
def modifier : Int := 16

/-- The strength of `?` and `:`. -/
def conditional : Int := 20

/-- The strength of ranges. -/
def range : Int := 25

/-- The strength of `||`. -/
def disjunction : Int := 30

/-- The strength of `&&`. -/
def conjunction : Int := 35

/-- The strength of `==` and the like. -/
def equality : Int := 40

/-- The strength of `<` and the like. -/
def comparison : Int := 45

/-- The strength of `|` and `^`. -/
def bitOr : Int := 50

/-- The strength of the default values of parameters. -/
def parameter : Int := 51

/-- The strength of `&`. -/
def bitAnd : Int := 55

/-- The strength of calls. -/
def call : Int := 56

/-- The strength of `<<` and `>>`. -/
def shift : Int := 60

/-- The strength of `+` and `-`. -/
def sum : Int := 65

/-- The strength of `*`, `/` and `%`. -/
def product : Int := 70

/-- The strength of signs. -/
def sign : Int := 75

/-- The strength of `**`. -/
def power : Int := 80

/-- The strength of `!` and `~`. -/
def complement : Int := 85

/-- The strength of patterns behind a value. -/
def pattern : Int := 100

end Strength

/-! ## Shared forms -/

namespace Form

/-- A name that is called without a receiver. -/
def calledName : Form := part .method (choice [r .variable, r .functionName])

/-- What is called, when arguments in parentheses or a block follow. -/
def callReceiver : Form :=
  choice [r .callHead, calledName,
    left Strength.call (seq [part .receiver (r .primary), part .operator (t .tightColons),
      part .method (t .constant)])]

/-- A call with its arguments in parentheses. A call without a name calls a value. -/
def callWithArguments : Form :=
  seq [
    choice [callReceiver,
      left Strength.call (seq [part .receiver (r .primary), part .operator (r .callOperator)])],
    part .arguments (r .argumentList)]

/-- The dots of a range. -/
def rangeDots : Form := part .operator (choice [t .twoDots, t .threeDots])

/-- The operators that compute what they assign. -/
def assigningOperator : Form :=
  part .operator (choice [t .plusAssign, t .minusAssign, t .starAssign, t .starStarAssign,
    t .slashAssign, t .barBarAssign, t .barAssign, t .ampersandsAssign, t .ampersandAssign,
    t .percentAssign, t .shiftRightAssign, t .shiftLeftAssign, t .caretAssign])

/-- An operator between two operands. -/
def operation (operator : Form) : Form :=
  seq [part .left (r .arg), part .operator operator, part .right (r .arg)]

/-- The operators in front of an operand. -/
def unaryOn (operand : Form) : Form :=
  choice [binds Strength.definition (seq [part .operator (t .defined_), part .operand operand]),
    right Strength.negation (seq [part .operator (t .not_), part .operand operand]),
    right Strength.sign (seq [
      part .operator (choice [t .unaryMinus, t .unaryMinusNumber, t .plus]),
      part .operand operand]),
    right Strength.complement
      (seq [part .operator (choice [t .bang, t .tilde]), part .operand operand])]

/-- A condition, what follows if it holds, and what follows otherwise. -/
def conditionAndBranches : Form :=
  seq [part .condition (r .statement),
    choice [r .terminator, part .consequence (r .thenPart)],
    part .alternative (optional (choice [r .elsePart, r .elsifPart]))]

end Form

/-! ## The rules -/

open Form in
/-- The form of a rule. -/
def Rule.form : Rule → Form
  | .program => seq [optional (r .statements), optional (seq [t .dataMark, t .data])]
  | .blockBody => r .statements
  | .statements => choice [seq [r .statementRun, optional (r .statement)], r .statement]
  | .beginBlock => seq [t .capitalBegin, t .braceLeft, optional (r .statements), t .braceRight]
  | .endBlock => seq [t .capitalEnd, t .braceLeft, optional (r .statements), t .braceRight]
  | .statement =>
    choice [r .undefinition, r .aliasing, r .ifModifier, r .unlessModifier, r .whileModifier,
      r .untilModifier, r .rescueModifier, r .beginBlock, r .endBlock, r .expression]
  | .method => seq [t .def_, r .methodRest]
  | .singletonMethod =>
    seq [t .def_,
      seq [part .object (choice [r .variable, seq [t .parenLeft, r .arg, t .parenRight]]),
        choice [t .dot, t .colons]], r .methodRest]
  | .methodRest =>
    seq [part .name (r .methodName),
      choice [r .bodyExpression,
        seq [part .parameters (r .parameters),
          choice [seq [optional (r .terminator), optional (part .body (r .body)), t .end_],
            r .bodyExpression]],
        seq [optional (part .parameters (r .bareParameters)), r .terminator,
          optional (part .body (r .body)), t .end_]]]
  | .rescuedArg =>
    binds Strength.modifier (seq [part .body (r .arg), t .rescue_, part .handler (r .arg)])
  | .rescuedExpression =>
    binds Strength.modifier (seq [part .body (r .expression), t .rescue_,
      part .handler (r .expression)])
  | .bodyExpression => seq [t .assign, part .body (choice [r .arg, r .rescuedArg])]
  | .parameters =>
    seq [t .parenLeft, optional (seq [r .formalParameter, optional (r .moreParameters)]),
      t .parenRight]
  | .bareParameters => seq [r .simpleParameter, optional (r .moreParameters)]
  | .blockParameters =>
    seq [t .bar,
      seq [optional (seq [r .formalParameter, optional (r .moreParameters)]), optional (t .comma)],
      optional (seq [t .semicolon, seq [part .locals (t .identifier), optional (r .moreLocals)]]),
      t .bar]
  | .formalParameter => choice [r .simpleParameter, label .destructured (r .parameters)]
  | .simpleParameter =>
    choice [t .identifier, r .splatParameter, r .hashSplatParameter, r .hashSplatNil,
      r .forwardParameter, r .blockParameter, r .keywordParameter, r .optionalParameter]
  | .forwardParameter => t .threeDots
  | .splatParameter => right (-2) (seq [t .star, part .name (optional (t .identifier))])
  | .hashSplatParameter => right 0 (seq [t .starStar, part .name (optional (t .identifier))])
  | .hashSplatNil => seq [t .starStar, t .nil_]
  | .blockParameter => seq [t .ampersand, part .name (optional (t .identifier))]
  | .keywordParameter =>
    right Strength.parameter (seq [part .name (t .identifier), t .tightColon,
      part .value (optional (r .arg))])
  | .optionalParameter =>
    binds Strength.parameter (seq [part .name (t .identifier), t .assign, part .value (r .arg)])
  | .classDefinition =>
    seq [t .class_, part .name (choice [t .constant, r .scopeResolution]),
      optional (choice [seq [part .superclass (r .superclass), r .terminator], r .terminator]),
      optional (part .body (r .body)), t .end_]
  | .superclass => seq [t .less, r .expression]
  | .singletonClass =>
    seq [t .class_, t .singletonArrow, part .value (r .arg), r .terminator,
      optional (part .body (r .body)), t .end_]
  | .moduleDefinition =>
    seq [t .module_, part .name (choice [t .constant, r .scopeResolution]),
      optional (r .terminator), optional (part .body (r .body)), t .end_]
  | .returnCommand => left 0 (seq [t .return_, r .commandArguments])
  | .yieldCommand => left 0 (seq [t .yield_, r .commandArguments])
  | .breakCommand => left 0 (seq [t .break_, r .commandArguments])
  | .nextCommand => left 0 (seq [t .next_, r .commandArguments])
  | .returnJump => left 0 (seq [t .return_, optional (r .argumentList)])
  | .yieldJump => left 0 (seq [t .yield_, optional (r .argumentList)])
  | .breakJump => left 0 (seq [t .break_, optional (r .argumentList)])
  | .nextJump => left 0 (seq [t .next_, optional (r .argumentList)])
  | .redoJump => left 0 (seq [t .redo_, optional (r .argumentList)])
  | .retryJump => left 0 (seq [t .retry_, optional (r .argumentList)])
  | .ifModifier =>
    binds Strength.modifier (seq [part .body (r .statement), t .if_,
      part .condition (r .expression)])
  | .unlessModifier =>
    binds Strength.modifier (seq [part .body (r .statement), t .unless_,
      part .condition (r .expression)])
  | .whileModifier =>
    binds Strength.modifier (seq [part .body (r .statement), t .while_,
      part .condition (r .expression)])
  | .untilModifier =>
    binds Strength.modifier (seq [part .body (r .statement), t .until_,
      part .condition (r .expression)])
  | .rescueModifier =>
    binds Strength.modifier (seq [part .body (r .statement), t .rescue_,
      part .handler (r .expression)])
  | .whileLoop => seq [t .while_, part .condition (r .statement), part .body (r .doPart)]
  | .untilLoop => seq [t .until_, part .condition (r .statement), part .body (r .doPart)]
  | .forLoop =>
    seq [t .for_, part .pattern (choice [r .target, r .leftList]), part .value (r .inPart),
      part .body (r .doPart)]
  | .inPart => seq [t .in_, r .arg]
  | .doPart => seq [choice [t .do_, r .terminator], optional (r .statements), t .end_]
  | .caseWhen =>
    seq [t .case_, part .value (optional (seq [optional (t .lineBreak), r .statement])),
      optional (r .terminator), optional (r .whenClauses), optional (r .elsePart), t .end_]
  | .whenClause =>
    seq [t .when_, seq [part .pattern (r .whenPattern), optional (r .moreWhenPatterns)],
      choice [r .terminator, part .body (r .thenPart)]]
  | .caseIn =>
    seq [t .case_, part .value (seq [optional (t .lineBreak), r .statement]),
      optional (r .terminator), r .inClauses, optional (part .else_ (r .elsePart)), t .end_]
  | .inClause =>
    seq [t .in_, part .pattern (r .topPattern), part .guard (optional (r .guard)),
      choice [r .terminator, part .body (r .thenPart)]]
  | .whenPattern => choice [r .arg, r .splatArgument]
  | .guard => choice [r .ifGuard, r .unlessGuard]
  | .ifGuard => seq [t .if_, part .condition (r .expression)]
  | .unlessGuard => seq [t .unless_, part .condition (r .expression)]
  | .topPattern =>
    binds (-1) (choice [r .patternExpression, label .arrayPattern (r .arrayPatternItems),
      label .findPattern (r .findPatternBody), label .hashPattern (r .hashPatternBody)])
  | .arrayPatternItems =>
    right 0 (choice [seq [r .patternExpression, t .comma],
      seq [r .patternExpression, t .comma, choice [r .patternExpression, r .arrayPatternItems]],
      seq [r .splatParameter, optional (r .morePatterns)]])
  | .patternExpression => choice [r .asPattern, r .patternOrAlternatives]
  | .asPattern =>
    seq [part .value (r .patternExpression), t .fatArrow, part .name (t .identifier)]
  | .patternOrAlternatives => choice [r .alternativePattern, r .basicPattern]
  | .alternativePattern => seq [part .alternatives (r .basicPattern), r .moreAlternatives]
  | .arrayPatternBody => choice [r .patternExpression, r .arrayPatternItems]
  | .arrayPattern =>
    right (-1) (choice [seq [t .bracketLeft, optional (r .arrayPatternBody), t .bracketRight],
      seq [part .class_ (r .patternConstant), t .tightBracketLeft,
        optional (r .arrayPatternBody), t .bracketRight],
      seq [part .class_ (r .patternConstant), t .tightParenLeft, optional (r .arrayPatternBody),
        t .parenRight]])
  | .findPatternBody => seq [r .splatParameter, r .morePatterns, t .comma, r .splatParameter]
  | .findPattern =>
    choice [seq [t .bracketLeft, r .findPatternBody, t .bracketRight],
      seq [part .class_ (r .patternConstant), t .tightBracketLeft, r .findPatternBody,
        t .bracketRight],
      seq [part .class_ (r .patternConstant), t .tightParenLeft, r .findPatternBody,
        t .parenRight]]
  | .hashPatternBody =>
    right 0 (choice [
      seq [seq [r .keywordPattern, optional (r .moreKeywordPatterns)], optional (t .comma)],
      seq [seq [r .keywordPattern, optional (r .moreKeywordPatterns)], t .comma,
        r .hashPatternRest], r .hashPatternRest])
  | .keywordPattern =>
    right (-1) (seq [
      part .key (choice [t .hashKey, label .hashKey (t .identifier),
        label .hashKey (t .constant), label .hashKey (r .identifierSuffix),
        label .hashKey (r .constantSuffix), r .string]), t .tightColon,
      optional (part .value (r .patternExpression))])
  | .hashPatternRest => choice [r .hashSplatParameter, r .hashSplatNil]
  | .hashPattern =>
    right (-1) (choice [seq [t .braceLeft, optional (r .hashPatternBody), t .braceRight],
      seq [part .class_ (r .patternConstant), t .tightBracketLeft, r .hashPatternBody,
        t .bracketRight],
      seq [part .class_ (r .patternConstant), t .tightParenLeft, r .hashPatternBody,
        t .parenRight]])
  | .basicPattern =>
    right (-1) (choice [r .patternValue, t .identifier, r .arrayPattern, r .findPattern,
      r .hashPattern, r .parenthesizedPattern])
  | .parenthesizedPattern => seq [t .parenLeft, r .patternExpression, t .parenRight]
  | .patternValue =>
    right (-1) (choice [r .patternPrimitive, r .patternRange, r .variableReferencePattern,
      r .expressionReferencePattern, r .patternConstant])
  | .patternRange =>
    right 0 (choice [
      seq [part .begin_ (r .patternPrimitive), rangeDots, part .end_ (r .patternPrimitive)],
      seq [rangeDots, part .end_ (r .patternPrimitive)],
      seq [part .begin_ (r .patternPrimitive), rangeDots]])
  | .patternPrimitive => choice [r .patternLiteral, r .patternLambda]
  | .patternLambda => right (-1) (r .lambda)
  | .patternLiteral =>
    right (-1) (choice [r .literal, r .string, r .subshell, t .heredocBeginning, r .regex,
      r .stringArray, r .symbolArray, r .keywordVariable])
  | .keywordVariable =>
    right (-1) (choice [r .nilValue, t .self_, t .true_, t .false_, t .lineWord, t .fileWord,
      t .encodingWord])
  | .variableReferencePattern =>
    seq [t .caret, part .name (choice [t .identifier, r .nonlocalVariable])]
  | .expressionReferencePattern =>
    seq [t .caret, t .parenLeft, part .value (r .expression), t .parenRight]
  | .patternConstant => right (-1) (choice [t .constant, r .patternConstantPath])
  | .patternConstantPath =>
    seq [optional (part .scope (r .patternConstant)), t .colons, part .name (t .constant)]
  | .ifThen => seq [t .if_, conditionAndBranches, t .end_]
  | .unlessThen => seq [t .unless_, conditionAndBranches, t .end_]
  | .elsifPart => seq [t .elsif_, conditionAndBranches]
  | .elsePart => seq [t .else_, optional (r .terminator), optional (r .statements)]
  | .thenPart =>
    choice [seq [r .terminator, r .statements],
      seq [optional (r .terminator), t .then_, optional (r .statements)]]
  | .beginEnd => seq [t .begin_, optional (r .terminator), optional (r .bodyParts), t .end_]
  | .ensurePart => seq [t .ensure_, optional (r .statements)]
  | .rescuePart =>
    seq [t .rescue_, part .exceptions (optional (r .exceptions)),
      part .variable (optional (r .exceptionVariable)),
      choice [r .terminator, part .body (r .thenPart)]]
  | .exceptions => seq [choice [r .arg, r .splatArgument], optional (r .moreExceptions)]
  | .exceptionVariable => seq [t .fatArrow, r .target]
  | .bodyParts => choice [seq [optional (r .statements), r .bodyClauses], r .statements]
  | .body => r .bodyParts
  | .expression =>
    choice [r .commandBinary, r .commandUnary, r .commandAssignment,
      r .commandOperatorAssignment, label .call (r .commandCall),
      label .call (r .commandCallWithBlock), left 0 (label .call (r .chainedCall)),
      r .returnCommand, r .yieldCommand, r .breakCommand, r .nextCommand, r .matchPattern,
      r .testPattern, r .arg]
  | .matchPattern =>
    binds Strength.pattern (seq [part .value (r .arg), t .fatArrow, part .pattern (r .topPattern)])
  | .testPattern =>
    binds Strength.pattern (seq [part .value (r .arg), t .in_, part .pattern (r .topPattern)])
  | .arg =>
    choice [r .minusPower, r .primary, r .assignment, r .operatorAssignment, r .conditional,
      r .range, r .binary, r .unary]
  | .minusPower => seq [part .operator (t .unaryMinusNumber), part .operand (r .power)]
  | .power =>
    right Strength.power (seq [part .left (r .simpleNumeric), part .operator (t .binaryPower),
      part .right (r .arg)])
  | .primary =>
    choice [r .parenthesized, r .target, r .functionNameCall, r .call, r .array, r .stringArray,
      r .symbolArray, r .hash, r .subshell, r .literal, r .string, t .character, r .chainedString,
      r .regex, r .lambda, r .method, r .singletonMethod, r .classDefinition, r .singletonClass,
      r .moduleDefinition, r .beginEnd, r .whileLoop, r .untilLoop, r .ifThen, r .unlessThen,
      r .forLoop, r .caseWhen, r .caseIn, r .returnJump, r .yieldJump, r .breakJump, r .nextJump,
      r .redoJump, r .retryJump, r .parenthesizedUnary, t .heredocBeginning]
  | .parenthesized => seq [t .parenLeft, optional (r .statements), t .parenRight]
  | .elementReference =>
    left 1 (seq [part .object (r .primary), t .indexBracket, optional (r .argumentItems),
      t .bracketRight, optional (part .block (choice [r .block, r .doBlock]))])
  | .scopeResolution =>
    left 1 (seq [choice [t .colons, seq [part .scope (r .primary), t .tightColons]],
      part .name (t .constant)])
  | .callOperator => choice [t .dot, t .safeDot, t .tightColons]
  | .callHead =>
    left Strength.call (seq [part .receiver (r .primary), part .operator (r .callOperator),
      part .method (choice [t .identifier, r .operator, t .constant, r .functionName])])
  | .chainedCall =>
    seq [part .receiver (r .commandCallWithBlock), part .operator (r .callOperator),
      part .method (choice [t .identifier, r .functionName, r .operator, t .constant])]
  | .commandCallWithBlock =>
    choice [
      seq [choice [r .callHead, calledName],
        binds 1 (seq [part .arguments (r .commandArguments), part .block (r .block)])],
      seq [choice [r .callHead, calledName],
        binds (-1) (seq [part .arguments (r .commandArguments), part .block (r .doBlock)])]]
  | .commandCall =>
    seq [choice [r .callHead, r .chainedCall, calledName], part .arguments (r .commandArguments)]
  | .call =>
    choice [callWithArguments, binds 1 (seq [callWithArguments, part .block (r .block)]),
      binds (-1) (seq [callWithArguments, part .block (r .doBlock)]),
      binds 1 (seq [callReceiver, part .block (r .block)]),
      binds (-1) (seq [callReceiver, part .block (r .doBlock)])]
  | .commandArguments => right 0 (seq [r .argument, optional (r .moreArguments)])
  | .argumentList => right 0 (seq [t .tightParenLeft, optional (r .argumentItems), t .parenRight])
  | .argumentItems =>
    right 0 (seq [seq [r .argument, optional (r .moreArguments)], optional (t .comma)])
  | .argument =>
    left 0 (choice [r .expression, r .splatArgument, r .hashSplatArgument, r .forwardArgument,
      r .blockArgument, r .pair])
  | .forwardArgument => t .threeDots
  | .splatArgument => right 0 (seq [t .splatStar, optional (r .arg)])
  | .hashSplatArgument => right 0 (seq [t .hashSplat, optional (r .arg)])
  | .blockArgument => right 0 (seq [t .blockAmpersand, optional (r .arg)])
  | .doBlock =>
    seq [t .do_, optional (r .terminator),
      optional (seq [part .parameters (r .blockParameters), optional (r .terminator)]),
      optional (part .body (r .body)), t .end_]
  | .block =>
    binds 1 (seq [t .braceLeft, part .parameters (optional (r .blockParameters)),
      optional (part .body (r .blockBody)), t .braceRight])
  | .assignment =>
    right Strength.assignment (choice [
      seq [part .left (choice [r .target, r .leftList]), t .assign,
        part .right (choice [r .arg, r .splatArgument, r .rightList, r .rescuedArg])]])
  | .commandAssignment =>
    right Strength.assignment (seq [part .left (choice [r .target, r .leftList]), t .assign,
      part .right (choice [r .expression, r .rescuedExpression])])
  | .operatorAssignment =>
    right Strength.assignment (seq [part .left (r .target), assigningOperator,
      part .right (choice [r .arg, r .rescuedArg])])
  | .commandOperatorAssignment =>
    right Strength.assignment (seq [part .left (r .target), assigningOperator,
      part .right (choice [r .expression, r .rescuedExpression])])
  | .conditional =>
    right Strength.conditional (seq [part .condition (r .arg), t .question,
      part .consequence (r .arg), t .colon, part .alternative (r .arg)])
  | .range =>
    right Strength.range (choice [seq [part .begin_ (r .arg), rangeDots, part .end_ (r .arg)],
      seq [rangeDots, part .end_ (r .arg)], seq [part .begin_ (r .arg), rangeDots]])
  | .binary =>
    choice [left (-2) (operation (t .and_)), left (-2) (operation (t .or_)),
      left Strength.disjunction (operation (t .barBar)),
      left Strength.conjunction (operation (t .ampersands)),
      left Strength.shift (operation (choice [t .shiftLeft, t .shiftRight])),
      left Strength.comparison
        (operation (choice [t .less, t .lessEqual, t .greater, t .greaterEqual])),
      left Strength.bitAnd (operation (t .ampersand)),
      left Strength.bitOr (operation (choice [t .caret, t .bar])),
      left Strength.sum (operation (choice [t .plus, t .binaryMinus])),
      left Strength.product (operation (choice [t .slash, t .percent, t .binaryStar])),
      right Strength.equality (operation (choice [t .equal, t .unequal, t .caseEqual,
        t .spaceship, t .matching, t .notMatching])),
      right Strength.power (operation (t .binaryPower))]
  | .commandBinary =>
    left 0 (seq [part .left (r .expression), part .operator (choice [t .or_, t .and_]),
      part .right (r .expression)])
  | .unary => unaryOn (r .arg)
  | .commandUnary => unaryOn (r .expression)
  | .parenthesizedUnary =>
    binds Strength.call (seq [part .operator (choice [t .defined_, t .not_]),
      part .operand (r .parenthesized)])
  | .unaryLiteral =>
    right Strength.sign (seq [part .operator (choice [t .unaryMinusNumber, t .plus]),
      part .operand (r .simpleNumeric)])
  | .literal => choice [t .simpleSymbol, r .delimitedSymbol, r .numeric]
  | .numeric => choice [r .simpleNumeric, r .unaryLiteral]
  | .simpleNumeric => choice [t .integer, t .float, r .complex, r .rational]
  | .rightList =>
    binds (-1) (seq [choice [r .arg, r .splatArgument], optional (r .moreExceptions)])
  | .leftList => r .leftItems
  | .leftItems =>
    left (-1) (seq [
      seq [choice [r .target, r .restAssignment, r .destructuredLeft], optional (r .moreTargets)],
      optional (t .comma)])
  | .destructuredLeft => binds (-1) (seq [t .parenLeft, r .leftItems, t .parenRight])
  | .restAssignment => binds (-1) (seq [t .star, optional (r .target)])
  | .functionName =>
    choice [label .identifier (r .identifierSuffix), label .constant (r .constantSuffix)]
  | .functionNameCall => part .method (left 0 (r .functionName))
  | .target =>
    left 0 (choice [r .variable, t .true_, t .false_, r .nilValue, r .scopeResolution,
      r .elementReference, label .call (r .callHead)])
  | .variable =>
    right 0 (choice [t .self_, t .super_, r .nonlocalVariable, t .identifier, t .constant])
  | .operator =>
    choice [t .twoDots, t .bar, t .caret, t .ampersand, t .spaceship, t .equal, t .caseEqual,
      t .matching, t .greater, t .greaterEqual, t .less, t .lessEqual, t .plus, t .minus, t .star,
      t .slash, t .percent, t .bang, t .notMatching, t .starStar, t .shiftLeft, t .shiftRight,
      t .tilde, t .plusAt, t .minusAt, t .tildeAt, t .brackets, t .bracketsAssign, t .backtick]
  | .methodName =>
    choice [t .identifier, r .functionName, t .constant, r .setter, t .simpleSymbol,
      r .delimitedSymbol, r .operator, r .nonlocalVariable]
  | .nonlocalVariable => choice [t .instanceVariable, t .classVariable, t .globalVariable]
  | .setter => seq [part .name (t .identifier), t .tightAssign]
  | .undefinition => seq [t .undef_, seq [r .methodName, optional (r .moreMethodNames)]]
  | .aliasing => seq [t .alias_, part .name (r .methodName), part .alias_ (r .methodName)]
  | .intOrFloat => choice [t .integer, t .float]
  | .complex =>
    choice [seq [r .intOrFloat, t .imaginaryMark],
      seq [label .rational (r .intOrFloat), t .rationalImaginaryMark]]
  | .rational => seq [r .intOrFloat, t .rationalMark]
  | .nilValue => t .nil_
  | .constantSuffix => choice [t .constantQuery, t .constantBang]
  | .identifierSuffix => choice [t .identifierQuery, t .identifierBang]
  | .chainedString => seq [r .string, r .moreStrings]
  | .interpolation =>
    choice [seq [t .interpolationLeft, optional (r .statements), t .braceRight],
      seq [t .shortInterpolation, r .nonlocalVariable]]
  | .string => seq [t .stringStart, optional (r .literalContents), t .stringEnd]
  | .subshell => seq [t .subshellStart, optional (r .literalContents), t .stringEnd]
  | .stringArray =>
    seq [t .stringArrayStart, optional (t .blanks),
      optional (seq [label .bareString (r .literalContents), optional (r .moreBareStrings)]),
      optional (t .blanks), t .stringEnd]
  | .symbolArray =>
    seq [t .symbolArrayStart, optional (t .blanks),
      optional (seq [label .bareSymbol (r .literalContents), optional (r .moreBareSymbols)]),
      optional (t .blanks), t .stringEnd]
  | .delimitedSymbol => seq [t .symbolStart, optional (r .literalContents), t .stringEnd]
  | .regex => seq [t .regexStart, optional (r .literalContents), t .stringEnd]
  | .heredocBody => seq [t .heredocBodyStart, optional (r .heredocParts), t .heredocEnd]
  | .literalContents =>
    repeated .literalContents (choice [t .stringContent, r .interpolation, t .escapeSequence])
  | .array => seq [t .bracketLeft, optional (r .argumentItems), t .bracketRight]
  | .hash =>
    seq [t .braceLeft,
      optional (seq [seq [choice [r .pair, r .hashSplatArgument], optional (r .morePairs)],
        optional (t .comma)]), t .braceRight]
  | .pair =>
    right 0 (choice [seq [part .key (r .arg), t .fatArrow, part .value (r .arg)],
      seq [
        part .key (choice [t .hashKey, label .hashKey (t .identifier),
          label .hashKey (t .constant), label .hashKey (r .identifierSuffix),
          label .hashKey (r .constantSuffix)]), t .tightColon,
        choice [part .value (optional (r .arg)), t .noLineBreak]],
      seq [part .key (r .string), t .tightColon, part .value (r .arg)]])
  | .lambda =>
    seq [t .thinArrow, part .parameters (optional (choice [r .parameters, r .bareParameters])),
      part .body (choice [r .block, r .doBlock])]
  | .emptyStatement => binds (-1) (t .semicolon)
  | .terminator => choice [t .lineBreak, t .semicolon]
  | .statementRun =>
    repeated .statementRun (choice [seq [r .statement, r .terminator], r .emptyStatement])
  | .moreParameters => repeated .moreParameters (seq [t .comma, r .formalParameter])
  | .moreLocals => repeated .moreLocals (seq [t .comma, part .locals (t .identifier)])
  | .whenClauses => repeated .whenClauses (r .whenClause)
  | .moreWhenPatterns =>
    repeated .moreWhenPatterns (seq [t .comma, part .pattern (r .whenPattern)])
  | .inClauses => repeated .inClauses (part .clauses (r .inClause))
  | .morePatterns => repeated .morePatterns (seq [t .comma, r .patternExpression])
  | .moreAlternatives =>
    repeated .moreAlternatives (seq [t .bar, part .alternatives (r .basicPattern)])
  | .moreKeywordPatterns => repeated .moreKeywordPatterns (seq [t .comma, r .keywordPattern])
  | .moreExceptions => repeated .moreExceptions (seq [t .comma, choice [r .arg, r .splatArgument]])
  | .bodyClauses => repeated .bodyClauses (choice [r .rescuePart, r .elsePart, r .ensurePart])
  | .moreArguments => repeated .moreArguments (seq [t .comma, r .argument])
  | .moreTargets =>
    repeated .moreTargets (seq [t .comma,
      choice [r .target, r .restAssignment, r .destructuredLeft]])
  | .moreMethodNames => repeated .moreMethodNames (seq [t .comma, r .methodName])
  | .moreStrings => repeated .moreStrings (r .string)
  | .moreBareStrings =>
    repeated .moreBareStrings (seq [t .blanks, label .bareString (r .literalContents)])
  | .moreBareSymbols =>
    repeated .moreBareSymbols (seq [t .blanks, label .bareSymbol (r .literalContents)])
  | .heredocParts =>
    repeated .heredocParts (choice [t .heredocContent, r .interpolation, t .escapeSequence])
  | .morePairs => repeated .morePairs (seq [t .comma, choice [r .pair, r .hashSplatArgument]])
  | .source => r .program

end LiteralMark.Ruby
