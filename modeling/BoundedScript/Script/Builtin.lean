set_option autoImplicit false

namespace BoundedScript.Script

inductive GlobalFn where
  | parseInt | parseFloat | isNaN | isFinite
  | encodeURI | encodeURIComponent | decodeURI | decodeURIComponent

inductive MathFn where
  | abs | acos | acosh | asin | asinh | atan | atanh | atan2 | cbrt | ceil | clz32 | cos | cosh | exp
  | expm1 | floor | fround | hypot | imul | log | log1p | log10 | log2 | max | min | pow | random | round
  | sign | sin | sinh | sqrt | tan | tanh | trunc

inductive ObjectFn where
  | make | assign | create | defineProperty | defineProperties | entries | freeze | fromEntries
  | getOwnPropertyDescriptor | getOwnPropertyDescriptors | getOwnPropertyNames | getOwnPropertySymbols
  | getPrototypeOf | groupBy | hasOwn | is | isExtensible | isFrozen | isSealed | keys
  | preventExtensions | seal | setPrototypeOf | values
  | hasOwnProperty | isPrototypeOf | propertyIsEnumerable | toString | toLocaleString | valueOf
  | protoGet | protoSet

inductive FunctionFn where
  | nothing | apply | bind | call | toString | hasInstance

inductive ErrorClass where
  | error | evalError | rangeError | referenceError | syntaxError | typeError | uriError
  | internalError | aggregateError
  deriving DecidableEq

inductive ErrorFn where
  | make (c : ErrorClass) | toString

inductive ArrayFn where
  | make | isArray | of | «from» | species
  | at | concat | copyWithin | entries | every | fill | filter | find | findIndex | findLast
  | findLastIndex | flat | flatMap | forEach | includes | indexOf | join | keys | lastIndexOf | map | pop
  | push | reduce | reduceRight | reverse | shift | slice | some | sort | splice | toLocaleString
  | toReversed | toSorted | toSpliced | toString | unshift | values | with

inductive StringFn where
  | make | fromCharCode | fromCodePoint | raw
  | at | charAt | charCodeAt | codePointAt | concat | endsWith | includes | indexOf | isWellFormed
  | lastIndexOf | localeCompare | match | matchAll | normalize | padEnd | padStart | repeat | replace
  | replaceAll | search | slice | split | startsWith | substr | substring | toLowerCase | toUpperCase
  | toString | toWellFormed | trim | trimEnd | trimStart | iterator

inductive NumberFn where
  | make | isFinite | isInteger | isNaN | isSafeInteger
  | toExponential | toFixed | toPrecision | toString | valueOf

inductive BooleanFn where
  | make | toString | valueOf

inductive SymbolFn where
  | make | «for» | keyFor | toString | valueOf | description | toPrimitive

inductive BigIntFn where
  | make | asIntN | asUintN | toString | valueOf

inductive JsonFn where
  | parse | stringify

inductive MapFn where
  | make | groupBy | clear | delete | entries | forEach | get | has | keys | set | size | values

inductive SetFn where
  | make | add | clear | delete | entries | forEach | has | size | values

inductive RegExpFn where
  | make | exec | test | toString | flags | source | flag (letter : UInt16)
  | match | matchAll | replace | search | split

inductive DatePart where
  | year | month | date | hours | minutes | seconds | milliseconds | day

inductive DateFn where
  | make | now | parse | utc
  | get (part : DatePart) | set (part : DatePart) | getTime | setTime | timezoneOffset
  | toISOString | toJSON | toString | toDateString | toTimeString | toUTCString
  | toLocaleString | toLocaleDateString | toLocaleTimeString | toPrimitive | valueOf

inductive IteratorFn where
  | self | next

inductive ReflectFn where
  | apply | construct | defineProperty | deleteProperty | get | getOwnPropertyDescriptor | getPrototypeOf
  | has | isExtensible | ownKeys | preventExtensions | set | setPrototypeOf

inductive PromiseFn where
  | make | resolve | reject | then | catch | finally

inductive Native where
  | global (f : GlobalFn)
  | math (f : MathFn)
  | object (f : ObjectFn)
  | function (f : FunctionFn)
  | error (f : ErrorFn)
  | array (f : ArrayFn)
  | string (f : StringFn)
  | number (f : NumberFn)
  | boolean (f : BooleanFn)
  | symbol (f : SymbolFn)
  | bigint (f : BigIntFn)
  | json (f : JsonFn)
  | map (f : MapFn)
  | set (f : SetFn)
  | regexp (f : RegExpFn)
  | date (f : DateFn)
  | iterator (f : IteratorFn)
  | reflect (f : ReflectFn)
  | promise (f : PromiseFn)

def Native.isConstructor : Native → Bool
  | .object .make | .error (.make _) | .array .make | .string .make | .number .make | .boolean .make
  | .symbol .make | .bigint .make | .map .make | .set .make | .regexp .make | .date .make
  | .promise .make => true
  | _ => false

end BoundedScript.Script
