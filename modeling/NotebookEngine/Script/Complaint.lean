/-
**What a parser complains about.**

Main definitions:

* `Script.Complaint` — the faults of a script text;
* `Script.Complaint.message` — their texts;
* `Script.Problem` — a fault and where it is.
-/

set_option autoImplicit false

namespace NotebookEngine

namespace Script

/-- The faults of a script text. -/
inductive Complaint where
  | expected (what got : String)
  | unexpected (got wanted : String)
  | unexpectedEnd
  | identifierExpected
  | expressionExpected
  | statementEndExpected
  | semicolonExpected
  | trailingComma
  | unexpectedCharacter (c : Char)
  | unicodeEscapeExpected
  | unterminatedString
  | unterminatedTemplate
  | unterminatedRegex
  | unterminatedComment
  | markupComment
  | badEscape (wanted : String)
  | octalEscape
  | decimalEscape
  | octalLiteral
  | digitExpected (radix : Nat)
  | separatorMisplaced
  | identifierAfterNumber
  | unknownRegexFlags
  | repeatedRegexFlag (flag : Char)
  | reservedInStrict (name : String)
  | reservedInAsync (name : String)
  | evalOrArguments
  | reservedShorthand
  | assignmentTarget
  | assignmentLeft
  | notSimpleTarget
  | notPattern
  | assignedProperty
  | lastRest
  | commaAfterRest
  | restNotLast
  | restInitialized
  | restOptional
  | restName
  | optionalPattern
  | optionalInitialized
  | patternInitializer
  | constantInitializer
  | forInitializer
  | forDeclarations
  | emptyDeclarations
  | awaitedLoop
  | repeatedDefault
  | repeatedLabel (label : String)
  | breakOutside
  | continueOutside
  | breakLabel
  | continueLabel
  | returnOutside
  | throwLineBreak
  | withStatement
  | declarationPlace
  | labelledFunction
  | awaitOutside
  | awaitStar
  | newTargetOutside
  | arrowLineBreak
  | arrowPlace
  | emptyParentheses
  | spreadInParentheses
  | unaryPower
  | mixedNullish
  | chainConstructor
  | chainTemplate
  | modulePlace
  | superAlone
  | superCall
  | importArguments
  | importString (name : String)
  | exportString
  | exportWithoutSource (name : String)
  | className
  | repeatedConstructor
  | constructorGenerator
  | constructorAsync
  | constructorAccessor
  | constructorField
  | readonlyMethod
  | readonlyAccessor
  | abstractBody
  | getterParameters
  | setterParameters
  | setterRest
  | overrideWithoutBase
  | modifierOrder (first second : String)
  | modifierRepeated (name : String)
  | modifierPlace (name : String)
  | parameterFieldPlace
  | parameterFieldPattern
  | optionalProperty
  | enumNumericName
  | enumComputedName
  | doubleAmbient
  | emptyTypeArguments
  | emptyTypeParameters
  | constructorTypeParameter
  | constructorResult
  | severalSuperclasses
  | repeatedExtends
  | repeatedImplements
  | interfaceName
  | ambientBody
  | ambientInitializer
  | modifierHere
  | elementModifier (name : String)
  | modifierClash (first second : String)
  | abstractPlace
  | abstractInitializer
  | asyncModifier
  | privateAccess
  | privateModifier (name : String)
  | privateConstructor
  | privateSignature
  | privateSpace
  | computedComma
  | conflictMarker
  | forTyped
  | forPattern
  | forAsync
  | tupleOrder
  | typeSource
  | argumentsInField
  | strictDirective
  | yieldInParameters
  | awaitInParameters
  | exponentMissing
  | superOptionalCall
  | repeatedDecorators
  | resourceName
  | resourceInitializer
  | resourceInKeyLoop
  | abstractMemberPlace
  | importTypeTwice
  | exportTypeTwice
  | varianceModifier (name : String)
  | constantModifier (name : String)
  | parameterModifier (name : String)
  | wordEscape (word : String)
  | escapedLetter
  | escapeUnclosed
  deriving DecidableEq, Inhabited

/-- The text of a fault. -/
def Complaint.message : Complaint → String
  | .expected what got => "Expected " ++ what ++ ", got '" ++ got ++ "'"
  | .unexpected got wanted => "Unexpected token \x60" ++ got ++ "\x60. Expected " ++ wanted
  | .unexpectedEnd => "Unexpected eof"
  | .identifierExpected => "Expected ident"
  | .expressionExpected => "Expression expected"
  | .statementEndExpected => "Expected ';', '\x7d' or <eof>"
  | .semicolonExpected => "Expected a semicolon"
  | .trailingComma => "Trailing comma is not allowed"
  | .unexpectedCharacter c =>
    "Unexpected character '" ++ (if c.toNat = 0 then "\\0" else c.toString) ++ "'"
  | .unicodeEscapeExpected => "Expected unicode escape"
  | .unterminatedString => "Unterminated string constant"
  | .unterminatedTemplate => "Unterminated template"
  | .unterminatedRegex => "Unterminated regexp literal"
  | .unterminatedComment => "Unterminated block comment"
  | .markupComment => "Legacy comments cannot be used in module code"
  | .badEscape wanted => "Bad character escape sequence, expected " ++ wanted
  | .octalEscape => "Legacy octal escape is not permitted in strict mode"
  | .decimalEscape => "Legacy decimal escape is not permitted in strict mode"
  | .octalLiteral =>
    "Legacy octal literals are not available when targeting ECMAScript 5 and higher"
  | .digitExpected radix =>
    "Expected " ++ (if radix = 2 then "a binary" else if radix = 8 then "an octal"
      else if radix = 10 then "a decimal" else "a hexadecimal") ++ " digit"
  | .separatorMisplaced => "A numeric separator is only allowed between two digits"
  | .identifierAfterNumber => "Identifier cannot follow number"
  | .unknownRegexFlags => "Unknown regular expression flags."
  | .repeatedRegexFlag c => "Duplicated regular expression flag '" ++ c.toString ++ "'."
  | .reservedInStrict n => "\x60" ++ n ++ "\x60 cannot be used as an identifier in strict mode"
  | .reservedInAsync n => "\x60" ++ n ++ "\x60 cannot be used as an identifier in an async context"
  | .evalOrArguments =>
    "'eval' and 'arguments' cannot be used as a binding identifier in strict mode"
  | .reservedShorthand => "Cannot use a reserved word as a shorthand property"
  | .assignmentTarget => "Invalid assignment target"
  | .assignmentLeft =>
    "The left-hand side of an assignment expression must be a variable or a property access."
  | .notSimpleTarget => "Cannot assign to this"
  | .notPattern => "Not a pattern"
  | .assignedProperty => "assignment property is invalid syntax"
  | .lastRest => "Rest element must be final element"
  | .commaAfterRest => "Trailing comma isn't permitted after a rest element"
  | .restNotLast => "A rest parameter must be last in a parameter list"
  | .restInitialized => "A rest parameter cannot have an initializer"
  | .restOptional => "A rest parameter cannot be optional"
  | .restName => "\x60...\x60 must be followed by an identifier in declaration contexts"
  | .optionalPattern =>
    "A binding pattern parameter cannot be optional in an implementation signature."
  | .optionalInitialized => "Parameter cannot have question mark and initializer"
  | .patternInitializer => "Destructuring bindings require initializers"
  | .constantInitializer => "'const' declarations must be initialized"
  | .forInitializer => "Unexpected initializer in for in/of loop"
  | .forDeclarations => "Expected one variable binding"
  | .emptyDeclarations => "Variable declaration list cannot be empty"
  | .awaitedLoop => "for await syntax is valid only for for-of statement"
  | .repeatedDefault => "A switch block cannot have multiple defaults"
  | .repeatedLabel l => "Label " ++ l ++ " is already declared"
  | .breakOutside =>
    "A 'break' statement can only be used within an enclosing iteration or switch statement"
  | .continueOutside =>
    "A 'continue' statement can only jump to a label of an enclosing iteration statement"
  | .breakLabel => "A 'break' statement can only jump to a label of an enclosing statement"
  | .continueLabel => "Jump target cannot cross function boundary"
  | .returnOutside => "Return statement is not allowed here"
  | .throwLineBreak => "LineBreak cannot follow 'throw'"
  | .withStatement =>
    "The 'with' statement is not supported. All symbols in a 'with' block will have type 'any'."
  | .declarationPlace => "Declaration is not allowed"
  | .labelledFunction => "Function cannot be labelled in strict mode"
  | .awaitOutside => "await isn't allowed in non-async function"
  | .awaitStar =>
    "await* has been removed from the async functions proposal. Use Promise.all() instead."
  | .newTargetOutside =>
    "'new.target' is only allowed in the body of a function declaration, function expression, " ++
      "or class."
  | .arrowLineBreak => "Unexpected line break between arrow head and arrow"
  | .arrowPlace => "An arrow function is not allowed here"
  | .emptyParentheses => "Parenthesized expression cannot be empty"
  | .spreadInParentheses => "Parenthesized expression cannot contain spread operator"
  | .unaryPower => "'**' cannot be applied to unary/await expression."
  | .mixedNullish =>
    "Nullish coalescing operator(??) requires parens when mixing with logical operators"
  | .chainConstructor => "Constructor in/after an optional chaining is not allowed."
  | .chainTemplate => "Tagged template literal is not allowed in optional chain."
  | .modulePlace => "'import', and 'export' cannot be used outside of module code"
  | .superAlone => "Invalid access to super"
  | .superCall => "Invalid \x60super()\x60"
  | .importArguments => "\x60import()\x60 requires exactly one or two arguments"
  | .importString n =>
    "A string literal cannot be used as an imported binding.\n- Did you mean \x60import \x7b \"" ++
      n ++ "\" as foo \x7d\x60?"
  | .exportString =>
    "A string literal cannot be used as an exported binding without \x60from\x60."
  | .exportWithoutSource n => "\x60" ++ n ++ "\x60 cannot be used without \x60from\x60 clause"
  | .className => "Invalid class name"
  | .repeatedConstructor => "A class can only have one constructor"
  | .constructorGenerator => "Constructor can't be generator"
  | .constructorAsync => "Constructor can't be an async function"
  | .constructorAccessor => "Class constructor can't be an accessor."
  | .constructorField => "Classes may not have a non-static field named 'constructor'"
  | .readonlyMethod => "A method cannot be readonly"
  | .readonlyAccessor => "A getter or a setter cannot be readonly"
  | .abstractBody => "Abstract method cannot have an implementation."
  | .getterParameters => "A \x60get\x60 accessor cannot have parameters"
  | .setterParameters => "A \x60set\x60 accessor must have exactly one formal parameter"
  | .setterRest => "Rest pattern is not allowed in setter"
  | .overrideWithoutBase =>
    "This member cannot have an 'override' modifier because its containing class does not " ++
      "extend another class."
  | .modifierOrder first second =>
    "'" ++ first ++ "' modifier must precede '" ++ second ++ "' modifier."
  | .modifierRepeated n => "'" ++ n ++ "' modifier already seen."
  | .modifierPlace n => "'" ++ n ++ "' modifier cannot appear on a constructor declaration"
  | .parameterFieldPlace =>
    "A parameter property is only allowed in a constructor implementation"
  | .parameterFieldPattern => "A parameter property may not be declared using a binding pattern"
  | .optionalProperty => "An object member cannot be declared optional"
  | .enumNumericName => "An enum member cannot have a numeric name"
  | .enumComputedName => "Computed property names are not allowed in enums"
  | .doubleAmbient => "declare modifier not allowed for code already in an ambient context"
  | .emptyTypeArguments => "Type argument list cannot be empty."
  | .emptyTypeParameters => "Type parameter list cannot be empty"
  | .constructorTypeParameter => "Type parameters cannot appear on a constructor declaration"
  | .constructorResult => "Type annotation cannot appear on a constructor declaration"
  | .severalSuperclasses => "Classes can only extend a single class"
  | .repeatedExtends => "\x60extends\x60 clause already seen."
  | .repeatedImplements => "\x60implements\x60 clause already seen."
  | .interfaceName => "interface name is invalid"
  | .ambientBody => "An implementation cannot be declared in ambient contexts"
  | .ambientInitializer =>
    "A parameter initializer is only allowed in a function or constructor implementation"
  | .modifierHere => "Modifiers cannot appear here"
  | .elementModifier n => "'" ++ n ++ "' modifier cannot appear on class elements of this kind"
  | .modifierClash first second =>
    "'" ++ first ++ "' modifier cannot be used with '" ++ second ++ "' modifier."
  | .abstractPlace =>
    "\x60abstract\x60 modifier can only appear on a class or method declaration"
  | .abstractInitializer => "Abstract property cannot have an initializer."
  | .asyncModifier => "async modifier cannot be used here"
  | .privateAccess => "An accessibility modifier cannot be used with a private identifier."
  | .privateModifier n => "'" ++ n ++ "' modifier cannot be used with a private identifier"
  | .privateConstructor => "Classes can't have a private field named '#constructor'."
  | .privateSignature => "private names are not allowed in interface"
  | .privateSpace => "Unexpected space between # and identifier"
  | .computedComma => "A comma expression is not allowed in a computed property name"
  | .conflictMarker => "Merge conflict marker encountered."
  | .forTyped =>
    "The left-hand side of a 'for...of' statement cannot use a type annotation"
  | .forPattern =>
    "The left-hand side of a 'for...in' statement cannot be a destructuring pattern"
  | .forAsync => "The left-hand side of a \x60for...of\x60 statement may not be \x60async\x60"
  | .tupleOrder => "A required element cannot follow an optional element."
  | .typeSource => "String literal expected"
  | .argumentsInField => "'arguments' is only allowed in functions and class methods"
  | .strictDirective =>
    "Illegal 'use strict' directive in function with non-simple parameter list."
  | .yieldInParameters => "'yield' cannot be used as a parameter within generator"
  | .awaitInParameters => "'await' cannot be used as a parameter within async function"
  | .exponentMissing => "Expected +, - or decimal digit after e"
  | .superOptionalCall => "Super call cannot be optional"
  | .repeatedDecorators =>
    "Decorators may not appear after \x60export\x60 or \x60export default\x60 if they also " ++
      "appear before \x60export\x60."
  | .resourceName => "Using declaration only allows identifiers"
  | .resourceInitializer => "Using declaration requires initializer"
  | .resourceInKeyLoop => "Using declaration is not allowed in for-in loop"
  | .abstractMemberPlace => "Abstract methods can only appear within an abstract class."
  | .importTypeTwice =>
    "The 'type' modifier cannot be used on a named import when 'import type' is used on its " ++
      "import statement."
  | .exportTypeTwice =>
    "The 'type' modifier cannot be used on a named export when 'export type' is used on its " ++
      "export statement."
  | .varianceModifier n =>
    "'" ++ n ++ "' modifier can only appear on a type parameter of a class, interface or type alias"
  | .constantModifier n =>
    "'" ++ n ++ "' modifier can only appear on a type parameter of a function, method or class"
  | .parameterModifier n => "'" ++ n ++ "' modifier cannot appear on a type parameter"
  | .wordEscape w => "Unexpected escape sequence in reserved word: " ++ w
  | .escapedLetter => "Invalid character in identifier"
  | .escapeUnclosed => "Invalid unicode escape"

/-- A fault and the place of the character where it is. -/
structure Problem where
  place : Nat
  complaint : Complaint
  deriving DecidableEq, Inhabited

end Script

end NotebookEngine
