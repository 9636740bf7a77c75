import LiteralMark.BitSet
import LiteralMark.Tree.Basic
/-!
# Rules

The rules of the grammar of Ruby, by name. A rule makes a node of the
tree, or it is an *inner* rule, whose parts belong to the node around it.
Among the inner rules are the repetitions: a repetition is two shorter
repetitions or what is repeated.
-/

namespace LiteralMark.Ruby

/-- The rules of the grammar of Ruby. -/
inductive Rule
  | program | blockBody | statements | beginBlock | endBlock | statement | method
  | singletonMethod | methodRest | rescuedArg | rescuedExpression | bodyExpression | parameters
  | bareParameters | blockParameters | formalParameter | simpleParameter | forwardParameter
  | splatParameter | hashSplatParameter | hashSplatNil | blockParameter | keywordParameter
  | optionalParameter | classDefinition | superclass | singletonClass | moduleDefinition
  | returnCommand | yieldCommand | breakCommand | nextCommand | returnJump | yieldJump
  | breakJump | nextJump | redoJump | retryJump | ifModifier | unlessModifier | whileModifier
  | untilModifier | rescueModifier | whileLoop | untilLoop | forLoop | inPart | doPart
  | caseWhen | whenClause | caseIn | inClause | whenPattern | guard | ifGuard | unlessGuard
  | topPattern | arrayPatternItems | patternExpression | asPattern | patternOrAlternatives
  | alternativePattern | arrayPatternBody | arrayPattern | findPatternBody | findPattern
  | hashPatternBody | keywordPattern | hashPatternRest | hashPattern | basicPattern
  | parenthesizedPattern | patternValue | patternRange | patternPrimitive | patternLambda
  | patternLiteral | keywordVariable | variableReferencePattern | expressionReferencePattern
  | patternConstant | patternConstantPath | ifThen | unlessThen | elsifPart | elsePart
  | thenPart | beginEnd | ensurePart | rescuePart | exceptions | exceptionVariable | bodyParts
  | body | expression | matchPattern | testPattern | arg | minusPower | power | primary
  | parenthesized | elementReference | scopeResolution | callOperator | callHead | chainedCall
  | commandCallWithBlock | commandCall | call | commandArguments | argumentList | argumentItems
  | argument | forwardArgument | splatArgument | hashSplatArgument | blockArgument | doBlock
  | block | assignment | commandAssignment | operatorAssignment | commandOperatorAssignment
  | conditional | range | binary | commandBinary | unary | commandUnary | parenthesizedUnary
  | unaryLiteral | literal | numeric | simpleNumeric | rightList | leftList | leftItems
  | destructuredLeft | restAssignment | functionName | functionNameCall | target | variable
  | operator | methodName | nonlocalVariable | setter | undefinition | aliasing | intOrFloat
  | complex | rational | nilValue | constantSuffix | identifierSuffix | chainedString
  | interpolation | string | subshell | stringArray | symbolArray | delimitedSymbol | regex
  | heredocBody | literalContents | array | hash | pair | lambda | emptyStatement | terminator
  | statementRun | moreParameters | moreLocals | whenClauses | moreWhenPatterns | inClauses
  | morePatterns | moreAlternatives | moreKeywordPatterns | moreExceptions | bodyClauses
  | moreArguments | moreTargets | moreMethodNames | moreStrings | moreBareStrings
  | moreBareSymbols | heredocParts | morePairs
  /-- A whole source: a program and then the end of the text. -/
  | source
deriving DecidableEq, Repr, Inhabited

instance : Numbered Rule := ⟨Rule.ctorIdx⟩

/-- A set of rules. -/
abbrev RuleSet := BitSet Rule

namespace Rule

/-- All rules, in order. -/
def all : List Rule := [
    .program, .blockBody, .statements, .beginBlock, .endBlock, .statement, .method,
    .singletonMethod, .methodRest, .rescuedArg, .rescuedExpression, .bodyExpression,
    .parameters, .bareParameters, .blockParameters, .formalParameter, .simpleParameter,
    .forwardParameter, .splatParameter, .hashSplatParameter, .hashSplatNil, .blockParameter,
    .keywordParameter, .optionalParameter, .classDefinition, .superclass, .singletonClass,
    .moduleDefinition, .returnCommand, .yieldCommand, .breakCommand, .nextCommand, .returnJump,
    .yieldJump, .breakJump, .nextJump, .redoJump, .retryJump, .ifModifier, .unlessModifier,
    .whileModifier, .untilModifier, .rescueModifier, .whileLoop, .untilLoop, .forLoop, .inPart,
    .doPart, .caseWhen, .whenClause, .caseIn, .inClause, .whenPattern, .guard, .ifGuard,
    .unlessGuard, .topPattern, .arrayPatternItems, .patternExpression, .asPattern,
    .patternOrAlternatives, .alternativePattern, .arrayPatternBody, .arrayPattern,
    .findPatternBody, .findPattern, .hashPatternBody, .keywordPattern, .hashPatternRest,
    .hashPattern, .basicPattern, .parenthesizedPattern, .patternValue, .patternRange,
    .patternPrimitive, .patternLambda, .patternLiteral, .keywordVariable,
    .variableReferencePattern, .expressionReferencePattern, .patternConstant,
    .patternConstantPath, .ifThen, .unlessThen, .elsifPart, .elsePart, .thenPart, .beginEnd,
    .ensurePart, .rescuePart, .exceptions, .exceptionVariable, .bodyParts, .body, .expression,
    .matchPattern, .testPattern, .arg, .minusPower, .power, .primary, .parenthesized,
    .elementReference, .scopeResolution, .callOperator, .callHead, .chainedCall,
    .commandCallWithBlock, .commandCall, .call, .commandArguments, .argumentList,
    .argumentItems, .argument, .forwardArgument, .splatArgument, .hashSplatArgument,
    .blockArgument, .doBlock, .block, .assignment, .commandAssignment, .operatorAssignment,
    .commandOperatorAssignment, .conditional, .range, .binary, .commandBinary, .unary,
    .commandUnary, .parenthesizedUnary, .unaryLiteral, .literal, .numeric, .simpleNumeric,
    .rightList, .leftList, .leftItems, .destructuredLeft, .restAssignment, .functionName,
    .functionNameCall, .target, .variable, .operator, .methodName, .nonlocalVariable, .setter,
    .undefinition, .aliasing, .intOrFloat, .complex, .rational, .nilValue, .constantSuffix,
    .identifierSuffix, .chainedString, .interpolation, .string, .subshell, .stringArray,
    .symbolArray, .delimitedSymbol, .regex, .heredocBody, .literalContents, .array, .hash,
    .pair, .lambda, .emptyStatement, .terminator, .statementRun, .moreParameters, .moreLocals,
    .whenClauses, .moreWhenPatterns, .inClauses, .morePatterns, .moreAlternatives,
    .moreKeywordPatterns, .moreExceptions, .bodyClauses, .moreArguments, .moreTargets,
    .moreMethodNames, .moreStrings, .moreBareStrings, .moreBareSymbols, .heredocParts,
    .morePairs, .source]

/-- Whether a rule is a repetition. -/
def isRepetition : Rule → Bool
  | .literalContents | .statementRun | .moreParameters | .moreLocals | .whenClauses
  | .moreWhenPatterns | .inClauses | .morePatterns | .moreAlternatives
  | .moreKeywordPatterns | .moreExceptions | .bodyClauses | .moreArguments | .moreTargets
  | .moreMethodNames | .moreStrings | .moreBareStrings | .moreBareSymbols | .heredocParts
  | .morePairs => true
  | _ => false

/-- Whether the parts that a rule names are named in the node around it. -/
def isInner : Rule → Bool
  | .statements | .statement | .methodRest | .bodyExpression | .formalParameter
  | .simpleParameter | .guard | .topPattern | .arrayPatternItems | .patternExpression
  | .patternOrAlternatives | .arrayPatternBody | .findPatternBody | .hashPatternBody
  | .hashPatternRest | .basicPattern | .patternValue | .patternRange | .patternPrimitive
  | .patternLambda | .patternLiteral | .keywordVariable | .patternConstant
  | .patternConstantPath | .bodyParts | .expression | .arg | .minusPower | .power
  | .primary | .callOperator | .callHead | .chainedCall | .argumentItems | .argument
  | .literal | .numeric | .simpleNumeric | .leftItems | .functionName | .functionNameCall
  | .target | .variable | .methodName | .nonlocalVariable | .intOrFloat | .terminator => true
  | r => r.isRepetition

/-- Whether a rule makes a node. Some inner rules do. -/
def isShown : Rule → Bool
  | .patternRange | .patternConstantPath | .minusPower | .power | .functionNameCall => true
  | r => !r.isInner

/-- The kind of the nodes of a rule. -/
def kind : Rule → Kind
  | .string => .string
  | .chainedString => .chainedString
  | .elementReference => .elementReference
  | .call | .commandCall | .commandCallWithBlock | .functionNameCall => .call
  | .delimitedSymbol => .delimitedSymbol
  | .regex => .regex
  | .subshell => .subshell
  | .stringArray => .stringArray
  | .symbolArray => .symbolArray
  | .heredocBody => .heredocBody
  | _ => .other "construct"

end Rule

end LiteralMark.Ruby
