import ScriptHost.Script.Object

/-!
# The first heap

What is there before any script runs: the global object with its functions and constructors.  Each
family of functions is a table of names, numbers of parameters and functions, in the order of the
properties.
-/

namespace ScriptHost.Script

open Eval

namespace Realm

/-- Steps of making the first heap. -/
abbrev Build (α : Type) := Eval Unit α

/-- A row of a table of functions: name, number of parameters, function. -/
abbrev Row := String × Nat × Native

/-- The functions of `Object`. -/
def objectFunctions : List Row :=
  [("create", 2, .create), ("getPrototypeOf", 1, .getPrototypeOf),
    ("setPrototypeOf", 2, .setPrototypeOf), ("defineProperty", 3, .defineProperty),
    ("defineProperties", 2, .defineProperties), ("getOwnPropertyNames", 1, .getOwnPropertyNames),
    ("getOwnPropertySymbols", 1, .getOwnPropertySymbols), ("keys", 1, .keys),
    ("values", 1, .values), ("entries", 1, .entries), ("isExtensible", 1, .isExtensible),
    ("preventExtensions", 1, .preventExtensions),
    ("getOwnPropertyDescriptor", 2, .getOwnPropertyDescriptor),
    ("getOwnPropertyDescriptors", 1, .getOwnPropertyDescriptors), ("is", 2, .is),
    ("assign", 2, .assign), ("seal", 1, .seal), ("freeze", 1, .freeze),
    ("isSealed", 1, .isSealed), ("isFrozen", 1, .isFrozen),
    ("fromEntries", 1, .fromEntries)].map fun (n, l, f) => (n, l, .objectFunction f)

/-- Methods of all objects. -/
def objectMethods : List Row :=
  [("toString", 0, .toString), ("toLocaleString", 0, .toLocaleString), ("valueOf", 0, .valueOf),
    ("hasOwnProperty", 1, .hasOwnProperty), ("isPrototypeOf", 1, .isPrototypeOf),
    ("propertyIsEnumerable", 1, .propertyIsEnumerable), ("__defineGetter__", 2, .defineGetter),
    ("__defineSetter__", 2, .defineSetter), ("__lookupGetter__", 1, .lookupGetter),
    ("__lookupSetter__", 1, .lookupSetter)].map fun (n, l, f) => (n, l, .objectMethod f)

/-- Methods of functions. -/
def functionMethods : List Row :=
  [("call", 1, .call), ("apply", 2, .apply), ("bind", 1, .bind),
    ("toString", 0, .toString)].map fun (n, l, f) => (n, l, .functionMethod f)

/-- The functions of `Array`. -/
def arrayFunctions : List Row :=
  [("isArray", 1, .isArray), ("from", 1, .from_), ("of", 0, .of)].map
    fun (n, l, f) => (n, l, .arrayFunction f)

/-- Methods of arrays. -/
def arrayMethods : List Row :=
  [("concat", 1, .concat), ("every", 1, .every), ("some", 1, .some_), ("forEach", 1, .forEach),
    ("map", 1, .map), ("filter", 1, .filter), ("reduce", 1, .reduce),
    ("reduceRight", 1, .reduceRight), ("fill", 1, .fill), ("find", 1, .find),
    ("findIndex", 1, .findIndex), ("indexOf", 1, .indexOf), ("lastIndexOf", 1, .lastIndexOf),
    ("includes", 1, .includes), ("join", 1, .join), ("toString", 0, .toString),
    ("toLocaleString", 0, .toLocaleString), ("pop", 0, .pop), ("push", 1, .push),
    ("shift", 0, .shift), ("unshift", 1, .unshift), ("reverse", 0, .reverse), ("sort", 1, .sort),
    ("slice", 2, .slice), ("splice", 2, .splice), ("copyWithin", 2, .copyWithin),
    ("flatMap", 1, .flatMap), ("flat", 0, .flat), ("keys", 0, .keys),
    ("entries", 0, .entries)].map fun (n, l, f) => (n, l, .arrayMethod f)

/-- The functions of `String`. -/
def stringFunctions : List Row :=
  [("fromCharCode", 1, .fromCharCode), ("fromCodePoint", 1, .fromCodePoint), ("raw", 1, .raw)].map
    fun (n, l, f) => (n, l, .stringFunction f)

/-- Methods of texts. -/
def stringMethods : List Row :=
  [("charCodeAt", 1, .charCodeAt), ("charAt", 1, .charAt), ("concat", 1, .concat),
    ("codePointAt", 1, .codePointAt), ("indexOf", 1, .indexOf), ("lastIndexOf", 1, .lastIndexOf),
    ("includes", 1, .includes), ("endsWith", 1, .endsWith), ("startsWith", 1, .startsWith),
    ("match", 1, .match_), ("matchAll", 1, .matchAll), ("search", 1, .search), ("split", 2, .split),
    ("substring", 2, .substring), ("substr", 2, .substr), ("slice", 2, .slice),
    ("repeat", 1, .repeat_), ("replace", 2, .replace), ("replaceAll", 2, .replaceAll),
    ("padEnd", 1, .padEnd), ("padStart", 1, .padStart), ("trim", 0, .trim),
    ("trimEnd", 0, .trimEnd), ("trimStart", 0, .trimStart), ("toString", 0, .toString),
    ("valueOf", 0, .valueOf), ("localeCompare", 1, .localeCompare), ("normalize", 0, .normalize),
    ("toLowerCase", 0, .toLowerCase), ("toUpperCase", 0, .toUpperCase),
    ("toLocaleLowerCase", 0, .toLocaleLowerCase), ("toLocaleUpperCase", 0, .toLocaleUpperCase),
    ("anchor", 1, .anchor), ("big", 0, .big), ("blink", 0, .blink), ("bold", 0, .bold),
    ("fixed", 0, .fixed), ("fontcolor", 1, .fontcolor), ("fontsize", 1, .fontsize),
    ("italics", 0, .italics), ("link", 1, .link), ("small", 0, .small), ("strike", 0, .strike),
    ("sub", 0, .sub), ("sup", 0, .sup)].map fun (n, l, f) => (n, l, .stringMethod f)

/-- The functions of `Number`. -/
def numberFunctions : List Row :=
  [("isNaN", 1, .isNaN), ("isFinite", 1, .isFinite), ("isInteger", 1, .isInteger),
    ("isSafeInteger", 1, .isSafeInteger)].map fun (n, l, f) => (n, l, .numberFunction f)

/-- Methods of numbers. -/
def numberMethods : List Row :=
  [("toExponential", 1, .toExponential), ("toFixed", 1, .toFixed), ("toPrecision", 1, .toPrecision),
    ("toString", 1, .toString), ("toLocaleString", 0, .toLocaleString),
    ("valueOf", 0, .valueOf)].map fun (n, l, f) => (n, l, .numberMethod f)

/-- Methods of Booleans. -/
def booleanMethods : List Row :=
  [("toString", 0, .toString), ("valueOf", 0, .valueOf)].map
    fun (n, l, f) => (n, l, .booleanMethod f)

/-- Methods of symbols. -/
def symbolMethods : List Row :=
  [("toString", 0, .toString), ("valueOf", 0, .valueOf)].map
    fun (n, l, f) => (n, l, .symbolFunction f)

/-- The functions of `Symbol`. -/
def symbolFunctions : List Row :=
  [("for", 1, .for_), ("keyFor", 1, .keyFor)].map fun (n, l, f) => (n, l, .symbolFunction f)

/-- Methods of big integers. -/
def bigIntMethods : List Row :=
  [("toString", 0, .toString), ("valueOf", 0, .valueOf)].map
    fun (n, l, f) => (n, l, .bigIntFunction f)

/-- The functions of `BigInt`. -/
def bigIntFunctions : List Row :=
  [("asUintN", 2, .asUintN), ("asIntN", 2, .asIntN)].map fun (n, l, f) => (n, l, .bigIntFunction f)

/-- The functions of `Math`. -/
def mathFunctions : List Row :=
  [("min", 2, .min), ("max", 2, .max), ("abs", 1, .abs), ("floor", 1, .floor), ("ceil", 1, .ceil),
    ("round", 1, .round), ("sqrt", 1, .sqrt), ("acos", 1, .acos), ("asin", 1, .asin),
    ("atan", 1, .atan), ("atan2", 2, .atan2), ("cos", 1, .cos), ("exp", 1, .exp), ("log", 1, .log),
    ("pow", 2, .pow), ("sin", 1, .sin), ("tan", 1, .tan), ("trunc", 1, .trunc), ("sign", 1, .sign),
    ("cosh", 1, .cosh), ("sinh", 1, .sinh), ("tanh", 1, .tanh), ("acosh", 1, .acosh),
    ("asinh", 1, .asinh), ("atanh", 1, .atanh), ("expm1", 1, .expm1), ("log1p", 1, .log1p),
    ("log2", 1, .log2), ("log10", 1, .log10), ("cbrt", 1, .cbrt), ("hypot", 2, .hypot),
    ("random", 0, .random), ("fround", 1, .fround), ("imul", 2, .imul),
    ("clz32", 1, .clz32)].map fun (n, l, f) => (n, l, .mathFunction f)

/-- The functions of `JSON`. -/
def jsonFunctions : List Row :=
  [("parse", 2, .parse), ("stringify", 3, .stringify)].map fun (n, l, f) => (n, l, .jsonFunction f)

/-- The functions of `Reflect`. -/
def reflectFunctions : List Row :=
  [("apply", 3, .apply), ("construct", 2, .construct), ("defineProperty", 3, .defineProperty),
    ("deleteProperty", 2, .deleteProperty), ("get", 2, .get),
    ("getOwnPropertyDescriptor", 2, .getOwnPropertyDescriptor),
    ("getPrototypeOf", 1, .getPrototypeOf), ("has", 2, .has), ("isExtensible", 1, .isExtensible),
    ("ownKeys", 1, .ownKeys), ("preventExtensions", 1, .preventExtensions), ("set", 3, .set),
    ("setPrototypeOf", 2, .setPrototypeOf)].map fun (n, l, f) => (n, l, .reflectFunction f)

/-- Functions of the global object. -/
def globalFunctions : List Row :=
  [("parseInt", 2, .parseInt), ("parseFloat", 1, .parseFloat), ("isNaN", 1, .isNaN),
    ("isFinite", 1, .isFinite), ("decodeURI", 1, .decodeUri),
    ("decodeURIComponent", 1, .decodeUriComponent), ("encodeURI", 1, .encodeUri),
    ("encodeURIComponent", 1, .encodeUriComponent), ("escape", 1, .escape),
    ("unescape", 1, .unescape)].map fun (n, l, f) => (n, l, .globalFunction f)

/-- Methods of maps. -/
def mapMethods : List Row :=
  [("set", 2, .set), ("get", 1, .get), ("has", 1, .has), ("delete", 1, .delete),
    ("clear", 0, .clear), ("forEach", 1, .forEach), ("values", 0, .values),
    ("keys", 0, .keys)].map fun (n, l, f) => (n, l, .collectionMethod true f)

/-- Methods of sets. -/
def setMethods : List Row :=
  [("add", 1, .add), ("has", 1, .has), ("delete", 1, .delete), ("clear", 0, .clear),
    ("forEach", 1, .forEach), ("entries", 0, .entries)].map
    fun (n, l, f) => (n, l, .collectionMethod false f)

/-- The functions of `Promise`. -/
def promiseFunctions : List Row :=
  [("resolve", 1, .resolve), ("reject", 1, .reject), ("all", 1, .all),
    ("allSettled", 1, .allSettled), ("any", 1, .any), ("race", 1, .race)].map
    fun (n, l, f) => (n, l, .promiseFunction f)

/-- Methods of promises. -/
def promiseMethods : List Row :=
  [("then", 2, .then_), ("catch", 1, .catch_), ("finally", 1, .finally_)].map
    fun (n, l, f) => (n, l, .promiseFunction f)

/-- The functions of `Date`. -/
def dateFunctions : List Row :=
  [("now", 0, .now), ("parse", 1, .parse), ("UTC", 7, .utc)].map
    fun (n, l, f) => (n, l, .dateFunction f)

/-- The parts of a date with the greatest number of arguments of what sets them. -/
def dateParts : List (String × Nat × Nat) :=
  [("FullYear", 0, 3), ("Month", 1, 2), ("Date", 2, 1), ("Hours", 3, 4), ("Minutes", 4, 3),
    ("Seconds", 5, 2), ("Milliseconds", 6, 1)]

/-- Methods of dates. -/
def dateMethods : List Row :=
  let shown : List Row :=
    [("valueOf", 0, .valueOf), ("toString", 0, .toString), ("toUTCString", 0, .toUTCString),
      ("toGMTString", 0, .toUTCString), ("toISOString", 0, .toISOString),
      ("toDateString", 0, .toDateString), ("toTimeString", 0, .toTimeString),
      ("toLocaleString", 0, .toLocaleString), ("toLocaleDateString", 0, .toLocaleDateString),
      ("toLocaleTimeString", 0, .toLocaleTimeString),
      ("getTimezoneOffset", 0, .getTimezoneOffset), ("getTime", 0, .getTime),
      ("setTime", 1, .setTime), ("toJSON", 1, .toJSON)].map fun (n, l, f) => (n, l, .dateFunction f)
  let ofPart (p : String × Nat × Nat) : List Row :=
    let (name, part, count) := p
    [("get" ++ name, 0, .dateFunction (.getPart part false)),
      ("getUTC" ++ name, 0, .dateFunction (.getPart part true)),
      ("set" ++ name, count, .dateFunction (.setPart part false)),
      ("setUTC" ++ name, count, .dateFunction (.setPart part true))]
  let weekdays : List Row :=
    [("getDay", 0, .dateFunction (.getPart 7 false)),
      ("getUTCDay", 0, .dateFunction (.getPart 7 true))]
  shown ++ dateParts.flatMap ofPart ++ weekdays

/-- The constants of `Math`. -/
def mathConstants : List (String × Float) :=
  [("E", 2.718281828459045), ("LN10", 2.302585092994046), ("LN2", 0.6931471805599453),
    ("LOG2E", 1.4426950408889634), ("LOG10E", 0.4342944819032518), ("PI", 3.141592653589793),
    ("SQRT1_2", 0.7071067811865476), ("SQRT2", 1.4142135623730951)]

/-- The constants of `Number`. -/
def numberConstants : List (String × Float) :=
  [("MAX_VALUE", Float.ofBits 0x7FEFFFFFFFFFFFFF), ("MIN_VALUE", Float.ofBits 1),
    ("NaN", Binary.nan), ("NEGATIVE_INFINITY", Binary.infinity true),
    ("POSITIVE_INFINITY", Binary.infinity false), ("EPSILON", Float.ofBits 0x3CB0000000000000),
    ("MAX_SAFE_INTEGER", 9007199254740991.0), ("MIN_SAFE_INTEGER", -9007199254740991.0)]

/-! ## Making the heap -/

/-- A native function object. -/
def native (name : String) (length : Nat) (f : Native) : Build Ref := do
  let r ← allocate (.bare (.native f) (some Intrinsic.functionPrototype.ref))
  putProperty r "length" (.readOnly (Value.ofNat length))
  putProperty r "name" (.readOnly (Value.ofString name))
  return r

/-- Puts functions on an object. -/
def install (r : Ref) (rows : List Row) : Build Unit := do
  for (name, length, f) in rows do
    putProperty r name (.hidden (.object (← native name length f)))

/-- Puts a property that is computed by a function. -/
def installGetter (r : Ref) (k : PropertyKey) (name : String) (f : Native) : Build Unit := do
  let g ← native ("get " ++ name) 0 f
  putProperty r k (.computed (some g) none)

/-- Says what objects of a prototype are called. -/
def tag (r : Ref) (name : String) : Build Unit :=
  putProperty r KnownSymbol.toStringTag.key (.readOnly (Value.ofString name))

/-- Makes a constructor, ties it to its prototype and puts it on the global object. -/
def constructor (name : String) (length : Nat) (k : ConstructorKind) (proto : Ref) :
    Build Ref := do
  let r ← native name length (.constructor k)
  putProperty r "prototype" (.fixed (.object proto))
  putProperty proto "constructor" (.hidden (.object r))
  putProperty Intrinsic.globalObject.ref name (.hidden (.object r))
  return r

/-- Puts the getter of a species on a constructor. -/
def installSpecies (r : Ref) : Build Unit :=
  installGetter r KnownSymbol.species.key "[Symbol.species]" .species

/-- The prototype of an intrinsic object and what it is. -/
def intrinsicShape (i : Intrinsic) : ObjectKind × Option Intrinsic :=
  match i with
  | .objectPrototype => (.ordinary, none)
  | .functionPrototype => (.native .nothing, some .objectPrototype)
  | .arrayPrototype => (.array #[] 0 true, some .objectPrototype)
  | .stringPrototype => (.wrapper (.string ∅), some .objectPrototype)
  | .numberPrototype => (.wrapper (.int 0), some .objectPrototype)
  | .booleanPrototype => (.wrapper (.bool false), some .objectPrototype)
  | .evalErrorPrototype | .rangeErrorPrototype | .referenceErrorPrototype
  | .syntaxErrorPrototype | .typeErrorPrototype | .uriErrorPrototype | .internalErrorPrototype
  | .aggregateErrorPrototype => (.ordinary, some .errorPrototype)
  | .arrayIteratorPrototype | .stringIteratorPrototype | .mapIteratorPrototype
  | .setIteratorPrototype | .generatorPrototype => (.ordinary, some .iteratorPrototype)
  | .generatorFunctionPrototype | .asyncFunctionPrototype | .asyncGeneratorFunctionPrototype =>
    (.ordinary, some .functionPrototype)
  | .promiseConstructor => (.native (.constructor .promise), some .functionPrototype)
  | .arrayValues => (.native (.arrayMethod .values), some .functionPrototype)
  | .thrower => (.native .thrower, some .functionPrototype)
  | _ => (.ordinary, some .objectPrototype)

/-- All intrinsic objects in the order of the heap. -/
def intrinsics : List Intrinsic :=
  [.objectPrototype, .functionPrototype, .globalObject, .arrayPrototype, .stringPrototype,
    .numberPrototype, .booleanPrototype, .symbolPrototype, .bigIntPrototype, .errorPrototype,
    .evalErrorPrototype, .rangeErrorPrototype, .referenceErrorPrototype, .syntaxErrorPrototype,
    .typeErrorPrototype, .uriErrorPrototype, .internalErrorPrototype, .aggregateErrorPrototype,
    .iteratorPrototype, .arrayIteratorPrototype, .stringIteratorPrototype, .mapIteratorPrototype,
    .setIteratorPrototype, .generatorPrototype, .generatorFunctionPrototype,
    .asyncFunctionPrototype, .asyncGeneratorPrototype, .asyncGeneratorFunctionPrototype,
    .mapPrototype, .setPrototype, .promisePrototype, .datePrototype, .regexpPrototype,
    .promiseConstructor, .arrayValues, .thrower]

/-- The objects of the first heap before they have properties. -/
def bareObjects : Array Object :=
  (intrinsics.map fun i =>
    let (kind, proto) := intrinsicShape i
    Object.bare kind (proto.map Intrinsic.ref)).toArray

/-- A function prototype with a name and length of its own. -/
def describeFunction (r : Ref) (name : String) (length : Nat) : Build Unit := do
  putProperty r "length" (.readOnly (Value.ofNat length))
  putProperty r "name" (.readOnly (Value.ofString name))

/-- What belongs to `Object` and `Function`. -/
def makeBasics : Build Unit := do
  let objectProto := Intrinsic.objectPrototype.ref
  let functionProto := Intrinsic.functionPrototype.ref
  describeFunction functionProto "" 0
  describeFunction Intrinsic.thrower.ref "" 0
  describeFunction Intrinsic.arrayValues.ref "values" 0
  let ctor ← constructor "Object" 1 .object objectProto
  install ctor objectFunctions
  install objectProto objectMethods
  let g ← native "get __proto__" 0 (.objectMethod .getPrototype)
  let s ← native "set __proto__" 1 (.objectMethod .setPrototype)
  putProperty objectProto "__proto__" (.computed (some g) (some s))
  let _ ← constructor "Function" 1 .function functionProto
  install functionProto functionMethods
  let f ← native "[Symbol.hasInstance]" 1 (.functionMethod .hasInstance)
  putProperty functionProto KnownSymbol.hasInstance.key (.fixed (.object f))

/-- The classes of errors. -/
def makeErrors : Build Unit := do
  let mut parent : Option Ref := none
  let mut cls := 0
  for name in errorClassNames do
    let proto := errorPrototype cls
    let r ← constructor name (if name == "AggregateError" then 2 else 1) (.error cls) proto
    match parent with
    | some p => updateObject r fun o => { o with prototype := some p }
    | none => parent := some r
    putProperty proto "name" (.hidden (Value.ofString name))
    putProperty proto "message" (.hidden (.string ∅))
    cls := cls + 1
  install Intrinsic.errorPrototype.ref [("toString", 0, .errorToString)]

/-- What belongs to arrays and iterators. -/
def makeArrays : Build Unit := do
  let iteratorProto := Intrinsic.iteratorPrototype.ref
  let self ← native "[Symbol.iterator]" 0 (.iteratorMethod .self)
  putProperty iteratorProto KnownSymbol.iterator.key (.hidden (.object self))
  let proto := Intrinsic.arrayPrototype.ref
  let ctor ← constructor "Array" 1 .array proto
  install ctor arrayFunctions
  installSpecies ctor
  install proto arrayMethods
  putProperty proto "values" (.hidden (.object Intrinsic.arrayValues.ref))
  putProperty proto KnownSymbol.iterator.key (.hidden (.object Intrinsic.arrayValues.ref))
  install Intrinsic.arrayIteratorPrototype.ref [("next", 0, .iteratorMethod .nextOfArray)]
  tag Intrinsic.arrayIteratorPrototype.ref "Array Iterator"

/-- What belongs to texts. -/
def makeStrings : Build Unit := do
  let proto := Intrinsic.stringPrototype.ref
  let ctor ← constructor "String" 1 .string proto
  install ctor stringFunctions
  install proto stringMethods
  for (other, name) in [("trimRight", "trimEnd"), ("trimLeft", "trimStart")] do
    match (← object proto).properties.get? name with
    | some p => putProperty proto other p
    | none => pure ()
  let f ← native "[Symbol.iterator]" 0 (.stringMethod .iterator)
  putProperty proto KnownSymbol.iterator.key (.hidden (.object f))
  install Intrinsic.stringIteratorPrototype.ref [("next", 0, .iteratorMethod .nextOfString)]
  tag Intrinsic.stringIteratorPrototype.ref "String Iterator"

/-- Puts constants on an object. -/
def installConstants (r : Ref) (constants : List (String × Float)) : Build Unit := do
  for (name, x) in constants do
    putProperty r name (.fixed (Value.ofFloat x))

/-- What belongs to numbers and Booleans. -/
def makeNumbers : Build Unit := do
  let proto := Intrinsic.numberPrototype.ref
  let ctor ← constructor "Number" 1 .number proto
  install ctor numberFunctions
  let g := Intrinsic.globalObject.ref
  for name in ["parseInt", "parseFloat"] do
    match (← object g).properties.get? name with
    | some p => putProperty ctor name p
    | none => pure ()
  installConstants ctor numberConstants
  install proto numberMethods
  let _ ← constructor "Boolean" 1 .boolean Intrinsic.booleanPrototype.ref
  install Intrinsic.booleanPrototype.ref booleanMethods

/-- What belongs to symbols and big integers. -/
def makeSymbols : Build Unit := do
  let proto := Intrinsic.symbolPrototype.ref
  let ctor ← constructor "Symbol" 0 .symbol proto
  install ctor symbolFunctions
  for (s, name) in KnownSymbol.all do
    putProperty ctor name (.fixed (.symbol s.id))
  install proto symbolMethods
  tag proto "Symbol"
  installGetter proto "description" "description" (.symbolFunction .description)
  let f ← native "[Symbol.toPrimitive]" 1 (.symbolFunction .toPrimitive)
  putProperty proto KnownSymbol.toPrimitive.key (.readOnly (.object f))
  let bigProto := Intrinsic.bigIntPrototype.ref
  let big ← constructor "BigInt" 1 .bigint bigProto
  install big bigIntFunctions
  install bigProto bigIntMethods
  tag bigProto "BigInt"

/-- The objects that only hold functions. -/
def makeNamespaces : Build Unit := do
  let g := Intrinsic.globalObject.ref
  let holder (name : String) (rows : List Row) : Build Ref := do
    let r ← newObject
    install r rows
    tag r name
    putProperty g name (.hidden (.object r))
    return r
  let math ← holder "Math" mathFunctions
  installConstants math mathConstants
  let _ ← holder "Reflect" reflectFunctions
  let _ ← holder "JSON" jsonFunctions
  let _ ← holder "Atomics" []
  return ()

/-- What belongs to maps, sets and promises. -/
def makeCollections : Build Unit := do
  let mapProto := Intrinsic.mapPrototype.ref
  let map ← constructor "Map" 0 .map mapProto
  installSpecies map
  install mapProto mapMethods
  let entries ← native "entries" 0 (.collectionMethod true .entries)
  putProperty mapProto "entries" (.hidden (.object entries))
  putProperty mapProto KnownSymbol.iterator.key (.hidden (.object entries))
  installGetter mapProto "size" "size" (.collectionMethod true .size)
  tag mapProto "Map"
  let setProto := Intrinsic.setPrototype.ref
  let set ← constructor "Set" 0 .set setProto
  installSpecies set
  install setProto setMethods
  let values ← native "values" 0 (.collectionMethod false .values)
  putProperty setProto "values" (.hidden (.object values))
  putProperty setProto "keys" (.hidden (.object values))
  putProperty setProto KnownSymbol.iterator.key (.hidden (.object values))
  installGetter setProto "size" "size" (.collectionMethod false .size)
  tag setProto "Set"
  let weakMapProto ← newObject
  let _ ← constructor "WeakMap" 0 .weakMap weakMapProto
  install weakMapProto (mapMethods.take 4)
  tag weakMapProto "WeakMap"
  let weakSetProto ← newObject
  let _ ← constructor "WeakSet" 0 .weakSet weakSetProto
  install weakSetProto (setMethods.take 3)
  tag weakSetProto "WeakSet"
  for (r, name) in [(Intrinsic.mapIteratorPrototype, "Map Iterator"),
      (Intrinsic.setIteratorPrototype, "Set Iterator")] do
    install r.ref [("next", 0, .iteratorMethod .nextOfCollection)]
    tag r.ref name
  let promise := Intrinsic.promiseConstructor.ref
  let promiseProto := Intrinsic.promisePrototype.ref
  describeFunction promise "Promise" 1
  putProperty promise "prototype" (.fixed (.object promiseProto))
  putProperty promiseProto "constructor" (.hidden (.object promise))
  putProperty Intrinsic.globalObject.ref "Promise" (.hidden (.object promise))
  install promise promiseFunctions
  installSpecies promise
  install promiseProto promiseMethods
  tag promiseProto "Promise"

/-- What belongs to generators and asynchronous functions. -/
def makeGenerators : Build Unit := do
  let proto := Intrinsic.generatorPrototype.ref
  install proto
    [("next", 1, .iteratorMethod .generatorNext), ("return", 1, .iteratorMethod .generatorReturn),
      ("throw", 1, .iteratorMethod .generatorThrow)]
  tag proto "Generator"
  let functionProto := Intrinsic.generatorFunctionPrototype.ref
  putProperty functionProto "prototype" (.readOnly (.object proto))
  putProperty proto "constructor" (.readOnly (.object functionProto))
  tag functionProto "GeneratorFunction"
  let withConstructor (name : String) (k : ConstructorKind) (p : Ref) : Build Unit := do
    let r ← native name 1 (.constructor k)
    putProperty r "prototype" (.fixed (.object p))
    putProperty p "constructor" (.readOnly (.object r))
  withConstructor "GeneratorFunction" .generatorFunction functionProto
  tag Intrinsic.asyncFunctionPrototype.ref "AsyncFunction"
  withConstructor "AsyncFunction" .asyncFunction Intrinsic.asyncFunctionPrototype.ref
  tag Intrinsic.asyncGeneratorPrototype.ref "AsyncGenerator"
  let asyncFunctionProto := Intrinsic.asyncGeneratorFunctionPrototype.ref
  putProperty asyncFunctionProto "prototype" (.readOnly (.object Intrinsic.asyncGeneratorPrototype.ref))
  tag asyncFunctionProto "AsyncGeneratorFunction"
  withConstructor "AsyncGeneratorFunction" .asyncGeneratorFunction asyncFunctionProto

/-- What belongs to dates, regular expressions and proxies. -/
def makeOthers : Build Unit := do
  let dateProto := Intrinsic.datePrototype.ref
  let date ← constructor "Date" 7 .date dateProto
  install date dateFunctions
  install dateProto dateMethods
  let f ← native "[Symbol.toPrimitive]" 1 (.dateFunction .toPrimitive)
  putProperty dateProto KnownSymbol.toPrimitive.key (.readOnly (.object f))
  let regexpProto := Intrinsic.regexpPrototype.ref
  let regexp ← constructor "RegExp" 2 .regexp regexpProto
  installSpecies regexp
  install regexpProto [("toString", 0, .regexpMethod .toString)]
  installGetter regexpProto "source" "source" (.regexpMethod .source)
  installGetter regexpProto "flags" "flags" (.regexpMethod .flags)
  for (name, letter) in [("global", 'g'), ("ignoreCase", 'i'), ("multiline", 'm'), ("dotAll", 's'),
      ("unicode", 'u'), ("sticky", 'y')] do
    installGetter regexpProto name name (.regexpMethod (.hasFlag letter))
  let proxy ← native "Proxy" 2 (.constructor .proxy)
  putProperty Intrinsic.globalObject.ref "Proxy" (.hidden (.object proxy))
  install proxy [("revocable", 2, .proxyRevocable)]

/-- The classes of buffers and views. -/
def makeViews : Build Unit := do
  let mut index := 0
  for name in opaqueClassNames do
    let proto ← newObject
    let r ← constructor name (if index < 2 || name == "DataView" then 1 else 3)
      (.opaqueClass index) proto
    installSpecies r
    tag proto name
    index := index + 1

/-- What belongs to the global object itself. -/
def makeGlobals : Build Unit := do
  let g := Intrinsic.globalObject.ref
  install g globalFunctions
  putProperty g "Infinity" (.fixed (.float (Binary.infinity false)))
  putProperty g "NaN" (.fixed (.float Binary.nan))
  putProperty g "undefined" (.fixed .undefined)

/-- Makes everything. -/
def makeAll : Build Unit := do
  makeBasics
  makeErrors
  makeArrays
  makeGlobals
  makeNumbers
  makeStrings
  makeNamespaces
  makeSymbols
  makeGenerators
  let g := Intrinsic.globalObject.ref
  putProperty g "eval" (.hidden (.object (← native "eval" 1 (.globalFunction .eval))))
  putProperty g "globalThis" (.hidden (.object g))
  makeOthers
  makeCollections
  makeViews
  putProperty g "__date_clock"
    (.hidden (.object (← native "__date_clock" 0 (.globalFunction .dateClock))))

/-- A machine before anything is on its heap. -/
def bareMachine : Machine :=
  { objects := bareObjects
    scopes := #[{ bindings := #[], parent := none, call := none, holdsVariables := false }]
    symbols := (KnownSymbol.all.map fun (_, n) => some (Utf16.ofString ("Symbol." ++ n))).toArray
    sharedSymbols := [], frames := [], completion := .undefined, depth := 0,
    randomSeed := 0x9E3779B97F4A7C15, yields := [] }

/-- The machine that making the first heap ends with. -/
def ended : EStateM.Result Signal (Machine × Unit) Unit → Machine
  | .ok _ (m, _) => m
  | .error _ (m, _) => m

/-- The machine that every script starts with. -/
def machine : Machine := ended (makeAll.run (bareMachine, ()))

end Realm

end ScriptHost.Script
