import BoundedScript.Script.Interpreter

set_option autoImplicit false

/-!
The objects that a script finds when it starts. There is no function that makes a function of a text:
neither `eval` nor `Function`, nor a way to the latter through the parents of functions.
-/

namespace BoundedScript.Script.World

open Run

def blank : Realm where
  heap := Array.replicate Intrinsic.count default
  cells := #[]
  symbols := (WellKnown.all.map fun (_, name) => some (Units.ofString ("Symbol." ++ name))).toArray
  registry := []
  callDepth := 0
  steps := 0
  heapLimit := 0

def setUp (i : Intrinsic) (parent : Option Intrinsic) (kind : Kind) : Run Unit :=
  modifyObj i.addr fun o => { o with parent := parent.map Intrinsic.addr, kind }

def makeNative (f : Native) (name : String) (length : Nat) : Run Value := do
  let a ← alloc ⟨some Intrinsic.functionPrototype.addr, functionProps (.text name) length, true, .native f⟩
  return .object a

def add (a : Addr) (name : String) (v : Value) : Run Unit :=
  putOwn a (.ofString name) (.hidden v)

def addAll {F : Type} (a : Addr) (native : F → Native) (table : FunctionTable F) : Run Unit := do
  for (name, f, length) in table do
    add a name (← makeNative (native f) name length)

def addAlias (a : Addr) (k : PropKey) (name : String) : Run Unit := do
  match ← ownProperty? a (.ofString name) with
  | some p => putOwn a k p
  | none => pure ()

def addGetter (a : Addr) (k : PropKey) (name : String) (f : Native) : Run Unit := do
  putOwn a k ⟨.accessor (← makeNative f ("get " ++ name) 0) .undefined, false, true⟩

def addSymbol (a : Addr) (w : WellKnown) (name : String) (f : Native) (length : Nat) : Run Unit := do
  putOwn a w.key (.hidden (← makeNative f ("[Symbol." ++ name ++ "]") length))

def addTag (i : Intrinsic) (tag : String) : Run Unit :=
  putOwn i.addr WellKnown.toStringTag.key (.readable (.text tag))

def link (a : Addr) (name : String) (proto : Intrinsic) : Run Unit := do
  putOwn a prototypeKey (.fixed proto.value)
  putOwn proto.addr constructorKey (.hidden (.object a))
  add Intrinsic.global.addr name (.object a)

def addMaker (name : String) (f : Native) (length : Nat) (proto : Intrinsic) : Run Addr := do
  match ← makeNative f name length with
  | .object a =>
    link a name proto
    return a
  | _ => return 0

def placeMaker (i : Intrinsic) (name : String) (f : Native) (length : Nat) (proto : Intrinsic) : Run Unit := do
  modifyObj i.addr fun _ => ⟨some Intrinsic.functionPrototype.addr, functionProps (.text name) length, true, .native f⟩
  link i.addr name proto

def installParents : Run Unit := do
  setUp .global (some .objectPrototype) .ordinary
  setUp .functionPrototype (some .objectPrototype) (.native (.function .nothing))
  setUp .arrayPrototype (some .objectPrototype) (.array #[] 0 false)
  setUp .stringPrototype (some .objectPrototype) (.string #[])
  setUp .numberPrototype (some .objectPrototype) (.number 0.0)
  setUp .booleanPrototype (some .objectPrototype) (.boolean false)
  for c in ErrorClass.all do
    setUp c.prototype (some (if c == .error then .objectPrototype else .errorPrototype)) .ordinary
  for i in [Intrinsic.symbolPrototype, .bigintPrototype, .mapPrototype, .setPrototype, .regexpPrototype,
      .datePrototype, .promisePrototype, .iteratorPrototype, .math, .json, .reflect] do
    setUp i (some .objectPrototype) .ordinary
  for i in [Intrinsic.arrayIteratorPrototype, .stringIteratorPrototype, .mapIteratorPrototype,
      .setIteratorPrototype, .matchIteratorPrototype, .generatorPrototype] do
    setUp i (some .iteratorPrototype) .ordinary
  setUp .asyncGeneratorPrototype (some .objectPrototype) .ordinary
  for i in [Intrinsic.generatorFunctionPrototype, .asyncFunctionPrototype, .asyncGeneratorFunctionPrototype] do
    setUp i (some .functionPrototype) .ordinary

def installObject : Run Unit := do
  let a ← addMaker "Object" (.object .make) 1 .objectPrototype
  addAll a .object ObjectFn.statics
  let p := Intrinsic.objectPrototype.addr
  addAll p .object ObjectFn.methods
  let get ← makeNative (.object .protoGet) "get __proto__" 0
  let set ← makeNative (.object .protoSet) "set __proto__" 1
  putOwn p (.ofString "__proto__") ⟨.accessor get set, false, true⟩

def installFunction : Run Unit := do
  let p := Intrinsic.functionPrototype.addr
  modifyObj p fun o => { o with props := functionProps (.text "") 0 }
  addAll p .function FunctionFn.methods
  putOwn p WellKnown.hasInstance.key
    (.fixed (← makeNative (.function .hasInstance) "[Symbol.hasInstance]" 1))
  addTag .generatorFunctionPrototype "GeneratorFunction"
  addTag .asyncFunctionPrototype "AsyncFunction"
  addTag .asyncGeneratorFunctionPrototype "AsyncGeneratorFunction"

def installErrors : Run Unit := do
  let base ← addMaker "Error" (.error (.make .error)) 1 .errorPrototype
  for c in ErrorClass.all do
    let p := c.prototype.addr
    if c != .error then
      let a ← addMaker c.name (.error (.make c)) (if c == .aggregateError then 2 else 1) c.prototype
      modifyObj a fun o => { o with parent := some base }
    add p "name" (.text c.name)
    add p "message" (.text "")
  add Intrinsic.errorPrototype.addr "toString" (← makeNative (.error .toString) "toString" 0)

def installArray : Run Unit := do
  placeMaker .arrayMaker "Array" (.array .make) 1 .arrayPrototype
  let a := Intrinsic.arrayMaker.addr
  addAll a .array ArrayObject.statics
  addGetter a WellKnown.species.key "[Symbol.species]" (.array .species)
  let p := Intrinsic.arrayPrototype.addr
  addAll p .array ArrayObject.methods
  addAlias p WellKnown.iterator.key "values"

def installString : Run Unit := do
  let a ← addMaker "String" (.string .make) 1 .stringPrototype
  addAll a .string StringObject.statics
  let p := Intrinsic.stringPrototype.addr
  addAll p .string StringObject.methods
  addAlias p (.ofString "trimLeft") "trimStart"
  addAlias p (.ofString "trimRight") "trimEnd"
  addSymbol p .iterator "iterator" (.string .iterator) 0

def installNumber : Run Unit := do
  let g := Intrinsic.global.addr
  addAll g .global GlobalFn.table
  let a ← addMaker "Number" (.number .make) 1 .numberPrototype
  addAll a .number NumberFn.statics
  for name in ["parseInt", "parseFloat"] do
    match ← ownProperty? g (.ofString name) with
    | some p => putOwn a (.ofString name) p
    | none => pure ()
  for (name, x) in NumberFn.constants do putOwn a (.ofString name) (.fixed (.number x))
  addAll Intrinsic.numberPrototype.addr .number NumberFn.methods
  for (name, v) in [("NaN", Value.number Number.nan), ("Infinity", .number Number.infinity),
      ("undefined", .undefined)] do
    putOwn g (.ofString name) (.fixed v)

def installPrimitives : Run Unit := do
  let _ ← addMaker "Boolean" (.boolean .make) 1 .booleanPrototype
  addAll Intrinsic.booleanPrototype.addr .boolean BooleanFn.methods
  let s ← addMaker "Symbol" (.symbol .make) 0 .symbolPrototype
  addAll s .symbol SymbolFn.statics
  for (w, name) in WellKnown.all do putOwn s (.ofString name) (.fixed (.symbol w.id))
  let p := Intrinsic.symbolPrototype.addr
  addAll p .symbol SymbolFn.methods
  addGetter p (.ofString "description") "description" (.symbol .description)
  putOwn p WellKnown.toPrimitive.key
    (.readable (← makeNative (.symbol .toPrimitive) "[Symbol.toPrimitive]" 1))
  addTag .symbolPrototype "Symbol"
  let b ← addMaker "BigInt" (.bigint .make) 1 .bigintPrototype
  addAll b .bigint BigIntFn.statics
  addAll Intrinsic.bigintPrototype.addr .bigint BigIntFn.methods
  addTag .bigintPrototype "BigInt"

def installNamespaces : Run Unit := do
  let g := Intrinsic.global.addr
  addAll Intrinsic.math.addr .math MathFn.table
  for (name, x) in MathFn.constants do putOwn Intrinsic.math.addr (.ofString name) (.fixed (.number x))
  addTag .math "Math"
  addAll Intrinsic.json.addr .json JsonObject.table
  addTag .json "JSON"
  addAll Intrinsic.reflect.addr .reflect ReflectFn.table
  addTag .reflect "Reflect"
  add g "Math" Intrinsic.math.value
  add g "JSON" Intrinsic.json.value
  add g "Reflect" Intrinsic.reflect.value
  add g "globalThis" Intrinsic.global.value

def installCollections : Run Unit := do
  let m ← addMaker "Map" (.map .make) 0 .mapPrototype
  add m "groupBy" (← makeNative (.map .groupBy) "groupBy" 2)
  let p := Intrinsic.mapPrototype.addr
  addAll p .map MapFn.methods
  addAlias p WellKnown.iterator.key "entries"
  addGetter p (.ofString "size") "size" (.map .size)
  addTag .mapPrototype "Map"
  let _ ← addMaker "Set" (.set .make) 0 .setPrototype
  let p := Intrinsic.setPrototype.addr
  addAll p .set SetFn.methods
  addAlias p (.ofString "keys") "values"
  addAlias p WellKnown.iterator.key "values"
  addGetter p (.ofString "size") "size" (.set .size)
  addTag .setPrototype "Set"

def installIterators : Run Unit := do
  addSymbol Intrinsic.iteratorPrototype.addr .iterator "iterator" (.iterator .self) 0
  for (i, tag) in [(Intrinsic.arrayIteratorPrototype, "Array Iterator"),
      (.stringIteratorPrototype, "String Iterator"), (.mapIteratorPrototype, "Map Iterator"),
      (.setIteratorPrototype, "Set Iterator"), (.matchIteratorPrototype, "RegExp String Iterator"),
      (.generatorPrototype, "Generator")] do
    add i.addr "next" (← makeNative (.iterator .next) "next" 0)
    addTag i tag
  addTag .asyncGeneratorPrototype "AsyncGenerator"

def installRegExp : Run Unit := do
  placeMaker .regexpMaker "RegExp" (.regexp .make) 2 .regexpPrototype
  let p := Intrinsic.regexpPrototype.addr
  addGetter p (.ofString "flags") "flags" (.regexp .flags)
  addGetter p (.ofString "source") "source" (.regexp .source)
  for (name, letter) in RegExpObject.flagNames do
    addGetter p (.ofString name) name (.regexp (.flag letter.toNat.toUInt16))
  addAll p .regexp RegExpObject.methods
  for (w, name, f, length) in [(WellKnown.replace, "replace", RegExpFn.replace, 2), (.match, "match", .match, 1),
      (.matchAll, "matchAll", .matchAll, 1), (.search, "search", .search, 1), (.split, "split", .split, 2)] do
    addSymbol p w name (.regexp f) length

def installDate : Run Unit := do
  let a ← addMaker "Date" (.date .make) 7 .datePrototype
  addAll a .date DateObject.statics
  let p := Intrinsic.datePrototype.addr
  addAll p .date DateObject.methods
  putOwn p WellKnown.toPrimitive.key
    (.readable (← makeNative (.date .toPrimitive) "[Symbol.toPrimitive]" 1))

def installPromise : Run Unit := do
  placeMaker .promiseMaker "Promise" (.promise .make) 1 .promisePrototype
  let a := Intrinsic.promiseMaker.addr
  for (name, f) in [("resolve", PromiseFn.resolve), ("reject", .reject)] do
    add a name (← makeNative (.promise f) name 1)
  let p := Intrinsic.promisePrototype.addr
  for (name, f, length) in [("then", PromiseFn.then, 2), ("catch", .catch, 1), ("finally", .finally, 1)] do
    add p name (← makeNative (.promise f) name length)
  addTag .promisePrototype "Promise"

def install : Run Unit := do
  installParents
  installObject
  installFunction
  installErrors
  installArray
  installString
  installNumber
  installPrimitives
  installNamespaces
  installCollections
  installIterators
  installRegExp
  installDate
  installPromise

def fresh : Realm :=
  match install blank with
  | .ok _ r => r
  | .error _ r => r

end BoundedScript.Script.World
