/-! What goes wrong in an operation on values: causes, and the text of each. -/
namespace WireSketch

/-- The classes of faults that messages name. -/
inductive FaultClass
  | types | value | index | key | overflow | zeroDivision | decoding | lookup | memory | recursion
  | member | state
deriving Repr, DecidableEq

namespace FaultClass

def name : FaultClass → String
  | types => "TypeError"
  | value => "ValueError"
  | index => "IndexError"
  | key => "KeyError"
  | overflow => "OverflowError"
  | zeroDivision => "ZeroDivisionError"
  | decoding => "UnicodeDecodeError"
  | lookup => "LookupError"
  | memory => "MemoryError"
  | recursion => "RecursionError"
  | member => "AttributeError"
  | state => "RuntimeError"

/-- Faults of these classes are reported with the place of the statement; the others are not caught. -/
def isReported : FaultClass → Bool
  | recursion | member | state => false
  | _ => true

end FaultClass

inductive CallFault
  | exactlyOne (f : String) (given : Nat)
  | expectedAtMost (f : String) (limit given : Nat)
  | expectedAtLeast (f : String) (limit given : Nat)
  | expected (f : String) (count given : Nat)
  | takesAtMost (f : String) (limit given : Nat) (keywords : Bool)
  | missingArgument (f argument : String) (position : Option Nat)
  | noKeywords (f : String)
  | invalidKeyword (f keyword : String)
  | unexpectedKeyword (f keyword : String)
  | repeatedArgument (f argument : String)
  | nameAndPosition (f argument : String) (position : Nat)
  | missing (f : String) (arguments : List String)
  | takes (f : String) (least most given : Nat)
  | keywordsMustBeText
  | noDefault (f : String)
  | notCallable (t : String)
deriving Repr, DecidableEq

namespace CallFault

def plural (n : Nat) : String := if n = 1 then "" else "s"

/-- Quoted names in a row: `'a'`, `'a' and 'b'`, `'a', 'b', and 'c'`. -/
def enumerated : List String → String
  | [] => ""
  | [a] => s!"'{a}'"
  | [a, b] => s!"'{a}' and '{b}'"
  | names =>
    let quoted := names.map fun a => s!"'{a}'"
    String.intercalate ", " quoted.dropLast ++ ", and " ++ quoted.getLastD ""

def message : CallFault → String
  | exactlyOne f n => s!"{f}() takes exactly one argument ({n} given)"
  | expectedAtMost f k n => s!"{f} expected at most {k} argument{plural k}, got {n}"
  | expectedAtLeast f k n => s!"{f} expected at least {k} argument{plural k}, got {n}"
  | expected f k n => s!"{f} expected {k} argument{plural k}, got {n}"
  | takesAtMost f k n keywords =>
    let kind := if keywords then "keyword " else ""
    s!"{f}() takes at most {k} {kind}argument{plural k} ({n} given)"
  | missingArgument f a none => s!"{f}() missing required argument '{a}'"
  | missingArgument f a (some i) => s!"{f}() missing required argument '{a}' (pos {i})"
  | noKeywords f => s!"{f}() takes no keyword arguments"
  | invalidKeyword f k => s!"'{k}' is an invalid keyword argument for {f}()"
  | unexpectedKeyword f k => s!"{f}() got an unexpected keyword argument '{k}'"
  | repeatedArgument f a => s!"{f}() got multiple values for argument '{a}'"
  | nameAndPosition f a i => s!"argument for {f}() given by name ('{a}') and position ({i})"
  | missing f names =>
    let n := names.length
    s!"{f}() missing {n} required positional argument{plural n}: {enumerated names}"
  | takes f least most n =>
    let counts := if least = most then s!"{most}" else s!"from {least} to {most}"
    let ending := if least = most then plural most else "s"
    let verb := if n = 1 then "was" else "were"
    s!"{f}() takes {counts} positional argument{ending} but {n} {verb} given"
  | keywordsMustBeText => "keywords must be strings"
  | noDefault f => s!"Cannot specify a default for {f}() with multiple positional arguments"
  | notCallable t => s!"'{t}' object is not callable"

end CallFault

/-- Directives of a template that cannot be filled. -/
inductive TemplateFault
  | incomplete
  | unnamedCode
  | unsupported (code : Char) (index : Nat)
  | unsupportedByte (code : Char) (index : Nat)
  | needsMapping
  | tooFew
  | tooMany
  | tooManyForBytes
  | needsNumber (code : Char) (t : String)
  | needsInteger (code : Char) (t : String)
  | needsCharacter
  | needsByte
  | needsBytes (t : String)
  | needsFloat (t : String)
  | starNeedsInteger
  | incompleteKey
  | widthTooBig
  | precisionTooBig
  | byteRange
  | bytePrecisionTooBig
deriving Repr, DecidableEq

/-- Specifications of a format that do not parse, or do not fit the type. -/
inductive FormatFault
  | unknownCode (code : Char) (t : String)
  | invalid (spec t : String)
  | missingPrecision
  | separatorCode (separator code : Char)
  | bothSeparators
  | tooManyDigits
  | signOnText
  | spaceOnText
  | zeroOnText
  | alternateOnText
  | padOnText
  | precisionOnInteger
  | zeroOnInteger
  | signOnCharacter
  | alternateOnCharacter
  | padOnComplex
  | zeroPadOnComplex
  | unsupported (t : String)
  | precisionTooBig
deriving Repr, DecidableEq

/-- A fault of an operation on values; `t`, `l` and `r` are names of types. -/
inductive Fault
  -- Operators.
  | operands (op l r : String)
  | unaryOperand (op t : String)
  | badAbs (t : String)
  | notOrdered (op l r : String)
  | concatenation (l r : String)
  | bytesConcatenation (r : String)
  | repetition (t : String)
  | negativeShift
  | shiftTooLarge
  | divisionByZero
  | integerDivisionByZero
  | integerModuloByZero
  | floatDivisionByZero
  | floatFloorDivisionByZero
  | floatModuloByZero
  | zeroToNegativePower
  | complexDivisionByZero
  | complexZeroToPower
  | complexOverflow
  | resultOutOfRange
  | magnitudeTooLarge
  | quotientTooLarge
  | tooLargeForFloat
  -- Containers.
  | notIterable (t : String)
  | notUnpackable (t : String)
  | tooManyToUnpack (count : Nat)
  | tooFewToUnpack (expected : Nat) (found : Nat)
  | notSubscriptable (t : String)
  | typeNotSubscriptable (name : String)
  | noItemAssignment (t : String)
  | indexType (sequence t : String)
  | textIndexType (t : String)
  | sliceParts
  | sliceStepZero
  | indexOutOfRange (sequence : String)
  | assignmentOutOfRange
  | indexTooLarge (t : String)
  | countTooLarge (t : String)
  | missingKey (shown : String)
  | unhashable (t : String)
  | notContainer (t : String)
  | inText (t : String)
  | byteOutOfRange
  | bytesContent (t : String)
  | onlyIterable
  | onlyIterableExtended
  | extendedSize (given expected : Nat)
  | noLength (t : String)
  | notReversible (t : String)
  | notMapping (t : String)
  | pairExpected (index : Nat)
  | pairLength (index length : Nat)
  | sizeChanged (container : String)
  | joinedItem (index : Nat) (t : String)
  | zipShorter (index : Nat)
  | zipLonger (index : Nat)
  | emptyArgument (f : String)
  | rangeStepZero
  -- Conversions.
  | notInteger (t : String)
  | notReal (t : String)
  | intArgument (t : String)
  | floatArgument (t : String)
  | explicitBase
  | missingText
  | badBase
  | intText (base : Nat) (shown : String)
  | floatText (shown : String)
  | tooManyDigits (count : Option Nat)
  | infinityToInteger
  | nanToInteger
  | noRound (t : String)
  | roundOverflow
  | formatArgument (t : String)
  | encodingArgument (name t : String)
  | decodingText
  | decodingOther (t : String)
  | unknownEncoding (name : String)
  | unknownHandler (name : String)
  | undecodable (codec : String) (reason : String)
  | characterRange
  | wordTooLarge (kind : String)
  | noAttribute (t name : String)
  | nesting (activity : String)
  | nameWithoutSpace
  | nullInSource
  /-- A text longer than memory holds. -/
  | outOfMemory
  | repeatedTooLong (what : String)
  | call (c : CallFault)
  | format (f : FormatFault)
  | template (t : TemplateFault)
deriving Repr, DecidableEq

namespace TemplateFault

def message : TemplateFault → String
  | incomplete => "incomplete format"
  | unsupported c i =>
    let code := String.ofList (Nat.toDigits 16 c.toNat)
    let shown := if 31 ≤ c.toNat ∧ c.toNat ≤ 126 then c else '?'
    s!"unsupported format character '{shown}' (0x{code}) at index {i}"
  | unsupportedByte c i =>
    let code := String.ofList (Nat.toDigits 16 c.toNat)
    s!"unsupported format character '{c}' (0x{code}) at index {i}"
  | unnamedCode => "character argument not in range(0x110000)"
  | needsMapping => "format requires a mapping"
  | tooFew => "not enough arguments for format string"
  | tooMany => "not all arguments converted during string formatting"
  | tooManyForBytes => "not all arguments converted during bytes formatting"
  | needsNumber c t => s!"%{c} format: a real number is required, not {t}"
  | needsInteger c t => s!"%{c} format: an integer is required, not {t}"
  | needsCharacter => "%c requires int or char"
  | needsByte => "%c requires an integer in range(256) or a single byte"
  | needsBytes t =>
    s!"%b requires a bytes-like object, or an object that implements __bytes__, not '{t}'"
  | needsFloat t => s!"float argument required, not {t}"
  | starNeedsInteger => "* wants int"
  | incompleteKey => "incomplete format key"
  | widthTooBig => "width too big"
  | precisionTooBig => "precision too big"
  | byteRange => "%c arg not in range(256)"
  | bytePrecisionTooBig => "prec too big"

def faultClass : TemplateFault → FaultClass
  | incomplete | unsupported .. | unsupportedByte .. | incompleteKey | widthTooBig
  | precisionTooBig | bytePrecisionTooBig => .value
  | unnamedCode | byteRange => .overflow
  | _ => .types

end TemplateFault

namespace FormatFault

/-- A code that is not a visible ASCII character is written as a number. -/
def codeText (c : Char) : String :=
  if 0x20 < c.toNat ∧ c.toNat < 0x80 then String.singleton c
  else "\\x" ++ String.ofList (Nat.toDigits 16 c.toNat)

def message : FormatFault → String
  | unknownCode c t => s!"Unknown format code '{codeText c}' for object of type '{t}'"
  | invalid spec t => s!"Invalid format specifier '{spec}' for object of type '{t}'"
  | missingPrecision => "Format specifier missing precision"
  | separatorCode s c => s!"Cannot specify '{s}' with '{codeText c}'."
  | bothSeparators => "Cannot specify both ',' and '_'."
  | tooManyDigits => "Too many decimal digits in format string"
  | signOnText => "Sign not allowed in string format specifier"
  | spaceOnText => "Space not allowed in string format specifier"
  | zeroOnText => "Negative zero coercion (z) not allowed in string format specifier"
  | alternateOnText => "Alternate form (#) not allowed in string format specifier"
  | padOnText => "'=' alignment not allowed in string format specifier"
  | precisionOnInteger => "Precision not allowed in integer format specifier"
  | zeroOnInteger => "Negative zero coercion (z) not allowed in integer format specifier"
  | signOnCharacter => "Sign not allowed with integer format specifier 'c'"
  | alternateOnCharacter => "Alternate form (#) not allowed with integer format specifier 'c'"
  | padOnComplex => "'=' alignment flag is not allowed in complex format specifier"
  | zeroPadOnComplex => "Zero padding is not allowed in complex format specifier"
  | unsupported t => s!"unsupported format string passed to {t}.__format__"
  | precisionTooBig => "precision too big"

def faultClass : FormatFault → FaultClass
  | unsupported _ => .types
  | _ => .value

end FormatFault

namespace Fault

def faultClass : Fault → FaultClass
  | negativeShift | tooManyToUnpack _ | tooFewToUnpack .. | sliceStepZero | byteOutOfRange
  | extendedSize .. | pairLength .. | zipShorter _ | zipLonger _ | emptyArgument _ | rangeStepZero
  | badBase | intText .. | floatText _ | tooManyDigits _ | nanToInteger | nameWithoutSpace
  | nullInSource => .value
  | divisionByZero | integerDivisionByZero | integerModuloByZero | floatDivisionByZero
  | floatFloorDivisionByZero | floatModuloByZero | zeroToNegativePower | complexDivisionByZero
  | complexZeroToPower => .zeroDivision
  | shiftTooLarge | complexOverflow | resultOutOfRange | quotientTooLarge | tooLargeForFloat
  | countTooLarge _ | infinityToInteger | characterRange | wordTooLarge _ | roundOverflow
  | magnitudeTooLarge | repeatedTooLong _ => .overflow
  | indexOutOfRange _ | assignmentOutOfRange | indexTooLarge _ => .index
  | missingKey _ => .key
  | unknownEncoding _ | unknownHandler _ => .lookup
  | undecodable .. => .decoding
  | noAttribute .. => .member
  | nesting _ => .recursion
  | outOfMemory => .memory
  | sizeChanged _ => .state
  | format f => f.faultClass
  | template t => t.faultClass
  | _ => .types

/-- How an unfit argument is named: nothing by itself, all else by its type. -/
def argumentType (t : String) : String := if t == "NoneType" then "None" else t

def message : Fault → String
  | operands op l r => s!"unsupported operand type(s) for {op}: '{l}' and '{r}'"
  | unaryOperand op t => s!"bad operand type for unary {op}: '{t}'"
  | badAbs t => s!"bad operand type for abs(): '{t}'"
  | notOrdered op l r => s!"'{op}' not supported between instances of '{l}' and '{r}'"
  | concatenation l r => s!"can only concatenate {l} (not \"{r}\") to {l}"
  | bytesConcatenation r => s!"can't concat {r} to bytes"
  | repetition t => s!"can't multiply sequence by non-int of type '{t}'"
  | negativeShift => "negative shift count"
  | shiftTooLarge => "too many digits in integer"
  | divisionByZero => "division by zero"
  | integerDivisionByZero => "integer division or modulo by zero"
  | integerModuloByZero => "integer modulo by zero"
  | floatDivisionByZero => "float division by zero"
  | floatFloorDivisionByZero => "float floor division by zero"
  | floatModuloByZero => "float modulo"
  | zeroToNegativePower => "0.0 cannot be raised to a negative power"
  | complexDivisionByZero => "complex division by zero"
  | complexZeroToPower => "0.0 to a negative or complex power"
  | complexOverflow => "complex exponentiation"
  | magnitudeTooLarge => "absolute value too large"
  | resultOutOfRange => "(34, 'Numerical result out of range')"
  | quotientTooLarge => "integer division result too large for a float"
  | tooLargeForFloat => "int too large to convert to float"
  | notIterable t => s!"'{t}' object is not iterable"
  | notUnpackable t => s!"cannot unpack non-iterable {t} object"
  | tooManyToUnpack n => s!"too many values to unpack (expected {n})"
  | tooFewToUnpack n m => s!"not enough values to unpack (expected {n}, got {m})"
  | notSubscriptable t => s!"'{t}' object is not subscriptable"
  | typeNotSubscriptable name => s!"type '{name}' is not subscriptable"
  | noItemAssignment t => s!"'{t}' object does not support item assignment"
  | indexType s t => s!"{s} indices must be integers or slices, not {t}"
  | textIndexType t => s!"string indices must be integers, not '{t}'"
  | sliceParts => "slice indices must be integers or None or have an __index__ method"
  | sliceStepZero => "slice step cannot be zero"
  | indexOutOfRange s => if s.isEmpty then "index out of range" else s!"{s} index out of range"
  | assignmentOutOfRange => "list assignment index out of range"
  | indexTooLarge t | countTooLarge t => s!"cannot fit '{t}' into an index-sized integer"
  | missingKey shown => shown
  | unhashable t => s!"unhashable type: '{t}'"
  | notContainer t => s!"argument of type '{t}' is not iterable"
  | inText t => s!"'in <string>' requires string as left operand, not {t}"
  | byteOutOfRange => "byte must be in range(0, 256)"
  | bytesContent t => s!"a bytes-like object is required, not '{t}'"
  | onlyIterable => "can only assign an iterable"
  | onlyIterableExtended => "must assign iterable to extended slice"
  | extendedSize n k => s!"attempt to assign sequence of size {n} to extended slice of size {k}"
  | noLength t => s!"object of type '{t}' has no len()"
  | notReversible t => s!"'{t}' object is not reversible"
  | notMapping t => s!"'{t}' object is not a mapping"
  | pairExpected i => s!"cannot convert dictionary update sequence element #{i} to a sequence"
  | pairLength i n => s!"dictionary update sequence element #{i} has length {n}; 2 is required"
  | joinedItem i t => s!"sequence item {i}: expected str instance, {t} found"
  | sizeChanged c => s!"{c} changed size during iteration"
  | zipShorter i =>
    let others := if i = 2 then "argument 1" else s!"arguments 1-{i - 1}"
    s!"zip() argument {i} is shorter than {others}"
  | zipLonger i =>
    let others := if i = 2 then "argument 1" else s!"arguments 1-{i - 1}"
    s!"zip() argument {i} is longer than {others}"
  | emptyArgument f => s!"{f}() arg is an empty sequence"
  | rangeStepZero => "range() arg 3 must not be zero"
  | notInteger t => s!"'{t}' object cannot be interpreted as an integer"
  | notReal t => s!"must be real number, not {t}"
  | intArgument t =>
    s!"int() argument must be a string, a bytes-like object or a real number, not '{t}'"
  | floatArgument t => s!"float() argument must be a string or a real number, not '{t}'"
  | explicitBase => "int() can't convert non-string with explicit base"
  | missingText => "int() missing string argument"
  | badBase => "int() base must be >= 2 and <= 36, or 0"
  | intText b shown => s!"invalid literal for int() with base {b}: {shown}"
  | floatText shown => s!"could not convert string to float: {shown}"
  | tooManyDigits none =>
    "Exceeds the limit (4300 digits) for integer string conversion; use sys.set_int_max_str_digits() to increase the limit"
  | tooManyDigits (some n) =>
    s!"Exceeds the limit (4300 digits) for integer string conversion: value has {n} digits; use sys.set_int_max_str_digits() to increase the limit"
  | infinityToInteger => "cannot convert float infinity to integer"
  | nanToInteger => "cannot convert float NaN to integer"
  | noRound t => s!"type {t} doesn't define __round__ method"
  | roundOverflow => "rounded value too large to represent"
  | formatArgument t => s!"format() argument 2 must be str, not {argumentType t}"
  | encodingArgument name t => s!"str() argument '{name}' must be str, not {argumentType t}"
  | decodingText => "decoding str is not supported"
  | decodingOther t => s!"decoding to str: need a bytes-like object, {t} found"
  | unknownEncoding name => s!"unknown encoding: {name}"
  | unknownHandler name => s!"unknown error handler name '{name}'"
  | undecodable codec reason => s!"'{codec}' codec can't decode {reason}"
  | characterRange => "%c arg not in range(0x110000)"
  | wordTooLarge kind => s!"Python int too large to convert to {kind}"
  | noAttribute t name => s!"'{t}' object has no attribute '{name}'"
  | nesting activity => s!"maximum recursion depth exceeded {activity}"
  | nameWithoutSpace => "not enough values to unpack (expected 2, got 1)"
  | nullInSource => "source code string cannot contain null bytes"
  | outOfMemory => ""
  | repeatedTooLong what => s!"repeated {what} too long"
  | call c => c.message
  | format f => f.message
  | template t => t.message

/-- Longer texts and sequences are taken not to fit in memory. -/
def maxLength : Nat := Nat.pow 2 28

def checkLength (length : Nat) : Except Fault Unit :=
  if length ≤ maxLength then .ok () else .error .outOfMemory

end Fault
end WireSketch
