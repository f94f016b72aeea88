import ScriptHost.Script.Value

/-!
# Native functions

The functions that exist before any script runs, by the object they belong to.  A family of
functions is an enumeration with a table that gives each function its name and its number of
parameters; the table's order is the order of the properties.
-/

namespace ScriptHost.Script

/-- Functions of `Object`. -/
inductive ObjectFunction
  | create | getPrototypeOf | setPrototypeOf | defineProperty | defineProperties
  | getOwnPropertyNames | getOwnPropertySymbols | keys | values | entries
  | isExtensible | preventExtensions | getOwnPropertyDescriptor | getOwnPropertyDescriptors
  | is | assign | seal | freeze | isSealed | isFrozen | fromEntries | hasOwn
deriving DecidableEq

/-- Methods of all objects. -/
inductive ObjectMethod
  | toString | toLocaleString | valueOf | hasOwnProperty | isPrototypeOf | propertyIsEnumerable
  | getPrototype | setPrototype
  | defineGetter | defineSetter | lookupGetter | lookupSetter
deriving DecidableEq

/-- Methods of functions. -/
inductive FunctionMethod
  | call | apply | bind | toString | hasInstance
deriving DecidableEq

/-- Functions of `Array`. -/
inductive ArrayFunction
  | isArray | from_ | of
deriving DecidableEq

/-- Methods of arrays. -/
inductive ArrayMethod
  | concat | every | some_ | forEach | map | filter | reduce | reduceRight | fill
  | find | findIndex | indexOf | lastIndexOf | includes | join | toString | toLocaleString
  | pop | push | shift | unshift | reverse | sort | slice | splice | copyWithin
  | flatMap | flat | values | keys | entries
deriving DecidableEq

/-- Functions of `String`. -/
inductive StringFunction
  | fromCharCode | fromCodePoint | raw
deriving DecidableEq

/-- Methods of strings. -/
inductive StringMethod
  | charCodeAt | charAt | concat | codePointAt | indexOf | lastIndexOf | includes | endsWith
  | startsWith | match_ | matchAll | search | split | substring | substr | slice | repeat_
  | replace | replaceAll | padEnd | padStart | trim | trimEnd | trimStart | toString | valueOf
  | localeCompare | normalize | toLowerCase | toUpperCase | toLocaleLowerCase | toLocaleUpperCase
  | iterator
  | anchor | big | blink | bold | fixed | fontcolor | fontsize | italics | link | small | strike
  | sub | sup
deriving DecidableEq

/-- Functions of `Number`. -/
inductive NumberFunction
  | isNaN | isFinite | isInteger | isSafeInteger
deriving DecidableEq

/-- Methods of numbers. -/
inductive NumberMethod
  | toExponential | toFixed | toPrecision | toString | toLocaleString | valueOf
deriving DecidableEq

/-- Methods of Booleans. -/
inductive BooleanMethod
  | toString | valueOf
deriving DecidableEq

/-- Functions and methods of symbols. -/
inductive SymbolFunction
  | toString | valueOf | toPrimitive | description | for_ | keyFor
deriving DecidableEq

/-- Functions and methods of big integers. -/
inductive BigIntFunction
  | toString | valueOf | asUintN | asIntN
deriving DecidableEq

/-- Functions of `Math`. -/
inductive MathFunction
  | min | max | abs | floor | ceil | round | sqrt | acos | asin | atan | atan2 | cos | exp | log
  | pow | sin | tan | trunc | sign | cosh | sinh | tanh | acosh | asinh | atanh | expm1 | log1p
  | log2 | log10 | cbrt | hypot | random | fround | imul | clz32
deriving DecidableEq

/-- Functions of `JSON`. -/
inductive JsonFunction
  | parse | stringify
deriving DecidableEq

/-- Functions of `Reflect`. -/
inductive ReflectFunction
  | apply | construct | defineProperty | deleteProperty | get | getOwnPropertyDescriptor
  | getPrototypeOf | has | isExtensible | ownKeys | preventExtensions | set | setPrototypeOf
deriving DecidableEq

/-- Functions of the global object. -/
inductive GlobalFunction
  | parseInt | parseFloat | isNaN | isFinite | decodeUri | decodeUriComponent | encodeUri
  | encodeUriComponent | escape | unescape | eval | dateClock
deriving DecidableEq

/-- Methods of maps and sets. -/
inductive CollectionMethod
  | set | add | get | has | delete | clear | size | forEach | values | keys | entries
deriving DecidableEq

/-- Functions and methods of promises. -/
inductive PromiseFunction
  | resolve | reject | all | allSettled | any | race | then_ | catch_ | finally_
  /-- What settles a given promise. -/
  | settle (promise : Ref) (fulfil : Bool)
deriving DecidableEq

/-- Functions and methods of dates. -/
inductive DateFunction
  | now | parse | utc
  | valueOf | getTime | toString | toUTCString | toISOString | toDateString | toTimeString
  | toLocaleString | toLocaleDateString | toLocaleTimeString | toJSON | toPrimitive
  | getTimezoneOffset | setTime
  | getPart (part : Nat) (utc : Bool)
  | setPart (part : Nat) (utc : Bool)
deriving DecidableEq

/-- Methods of regular expression objects, which only pass through and show themselves. -/
inductive RegExpMethod
  | toString | source | flags | hasFlag (letter : Char)
deriving DecidableEq

/-- Methods of things that are gone through item by item. -/
inductive IteratorMethod
  | self | nextOfArray | nextOfCollection | nextOfString
  | generatorNext | generatorReturn | generatorThrow
deriving DecidableEq

/-- The classes whose instances are made by a constructor. -/
inductive ConstructorKind
  | object | function | generatorFunction | asyncFunction | asyncGeneratorFunction
  | error (cls : Nat)
  | array | number | boolean | string | symbol | bigint | date | regexp | proxy
  | map | set | promise
  | weakMap | weakSet
  /-- A class of buffers or views, whose instances only pass through. -/
  | opaqueClass (index : Nat)
  /-- The shared constructor of views, which makes nothing by itself. -/
  | abstractView
deriving DecidableEq

/-- A native function. -/
inductive Native
  | constructor (k : ConstructorKind)
  | objectFunction (f : ObjectFunction)
  | objectMethod (f : ObjectMethod)
  | functionMethod (f : FunctionMethod)
  | arrayFunction (f : ArrayFunction)
  | arrayMethod (f : ArrayMethod)
  | stringFunction (f : StringFunction)
  | stringMethod (f : StringMethod)
  | numberFunction (f : NumberFunction)
  | numberMethod (f : NumberMethod)
  | booleanMethod (f : BooleanMethod)
  | symbolFunction (f : SymbolFunction)
  | bigIntFunction (f : BigIntFunction)
  | mathFunction (f : MathFunction)
  | jsonFunction (f : JsonFunction)
  | reflectFunction (f : ReflectFunction)
  | globalFunction (f : GlobalFunction)
  | collectionMethod (isMap : Bool) (f : CollectionMethod)
  | promiseFunction (f : PromiseFunction)
  | dateFunction (f : DateFunction)
  | regexpMethod (f : RegExpMethod)
  | iteratorMethod (f : IteratorMethod)
  | errorToString
  /-- The function that a getter of a species gives back its receiver with. -/
  | species
  /-- The prototype of all functions, which does nothing. -/
  | nothing
  /-- The getter and setter that poison the callers of strict functions. -/
  | thrower
  | proxyRevocable
  /-- What revokes a given proxy. -/
  | revoke (proxy : Ref)
  /-- A function of the host, by its number. -/
  | host (id : Nat)
deriving DecidableEq

/-- Classes of errors by number. -/
def errorClassNames : List String :=
  ["Error", "EvalError", "RangeError", "ReferenceError", "SyntaxError", "TypeError", "URIError",
    "InternalError", "AggregateError"]

/-- The classes of buffers and views by number. -/
def opaqueClassNames : List String :=
  ["ArrayBuffer", "SharedArrayBuffer", "Uint8ClampedArray", "Int8Array", "Uint8Array", "Int16Array",
    "Uint16Array", "Int32Array", "Uint32Array", "BigInt64Array", "BigUint64Array", "Float32Array",
    "Float64Array", "DataView"]

namespace Native

/-- Whether a native function can construct. -/
def isConstructor : Native → Bool
  | constructor .symbol | constructor .bigint => true
  | constructor _ => true
  | _ => false

end Native

end ScriptHost.Script
