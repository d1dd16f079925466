import Mathlib.Data.List.AList

/-!
# Classes, static entries and values

The data a `JSCallbackObject` dispatches over. A registered class (`JSClassRef`) carries a
version, two sets of callback pointers — `v0` for the Legacy ABI and `v1000` for the Extended
one — its static-value and static-function tables, and a parent class. The object's CHAIN is
its class followed by the parent links; every loop of `JSCallbackObjectFunctions.h` is
`for (jsClass = classRef(); jsClass; jsClass = jsClass->parentClass)`, and it is modelled as a
walk over `List JSClass`, the object's class first. A list is finite and visits each class
once, which is exactly what a chain the embedder registered without a cycle is
(`ClassChain`).

A callback pointer is a `Fn`: its identity is all the core ever uses. Which of the two
generations a call site reads is decided by the class's (or the entry's) `version`, never
by which fields happen to be set — `pick` is that decision, written once.

What is NOT here: the layout of `StaticValueEntry` and `StaticFunctionEntry` beyond the
fields the core reads (`JSClassRef.h` is not in the tree), the lazy construction of the
static tables (they are read as fixed lists: built once, never changed), and the class
name's role in `className`.
-/

namespace JSC

/-- A property name: the string behind `PropertyName::uid()`. -/
abbrev Name := String

/-- A host function pointer. Its identity is what the core passes on. -/
abbrev Fn := Nat

/-- A `JSClassRef`: the identity of one registered class. -/
abbrev ClassId := Nat

/-- How the core calls a host function. The Legacy ABI (version 0) passes no class; the
Extended ABI (version 1000) passes the class the callback was read from. -/
inductive Callback where
  | legacy (fn : Fn)
  | extended (fn : Fn) (jsClass : ClassId)
  deriving DecidableEq, Repr

/-- The script values this core handles. Host values are `object`s; the core itself makes
`undefined`, callable `callbackFunction`s (from `JSCallbackFunction::create`, with the cell
they were allocated in) and `referenceError`s (from `createReferenceError`). -/
inductive JSValue where
  | undefined
  | null
  | number (n : Int)
  | string (s : String)
  | object (cell : Nat)
  | callbackFunction (cell : Nat) (callback : Callback) (name : Name)
  | referenceError (message : String)
  deriving DecidableEq, Repr

/-- `JSPropertyAttributes`: `kJSPropertyAttributeReadOnly`, `…DontEnum`, `…DontDelete`. The
engine's `PropertyAttribute` bits coincide with them, so one record serves both. -/
structure Attributes where
  readOnly : Bool := false
  dontEnum : Bool := false
  dontDelete : Bool := false
  deriving DecidableEq, Repr

/-- `PropertyAttribute::ReadOnly | PropertyAttribute::DontEnum`: what `getOwnPropertySlot`
stamps on every slot it fills from the chain. -/
def Attributes.readOnlyDontEnum : Attributes := { readOnly := true, dontEnum := true }

/-- An own data property of the object. -/
structure Property where
  value : JSValue
  attributes : Attributes
  deriving DecidableEq, Repr

/-- The object's own property storage, as the generic object (`Parent`) keeps it. -/
abbrev OwnProperties := AList (fun _ : Name => Property)

/-- `jsClass->v0`: the class-level callbacks of the Legacy ABI. The source's `initialize` is
a keyword here, so it is `initializeCallback`. -/
structure ClassCallbacksV0 where
  initializeCallback : Option Fn := none
  finalize : Option Fn := none
  hasProperty : Option Fn := none
  getProperty : Option Fn := none
  setProperty : Option Fn := none
  deleteProperty : Option Fn := none
  getPropertyNames : Option Fn := none
  callAsFunction : Option Fn := none
  callAsConstructor : Option Fn := none
  hasInstance : Option Fn := none
  convertToType : Option Fn := none
  deriving DecidableEq, Repr

/-- `jsClass->v1000`: the class-level callbacks of the Extended ABI. -/
structure ClassCallbacksV1000 where
  initializeEx : Option Fn := none
  finalizeEx : Option Fn := none
  hasPropertyEx : Option Fn := none
  getPropertyEx : Option Fn := none
  setPropertyEx : Option Fn := none
  deletePropertyEx : Option Fn := none
  getPropertyNamesEx : Option Fn := none
  callAsFunctionEx : Option Fn := none
  callAsConstructorEx : Option Fn := none
  hasInstanceEx : Option Fn := none
  convertToTypeEx : Option Fn := none
  deriving DecidableEq, Repr

/-- `entry->v0` of a static value. -/
structure StaticValueV0 where
  getProperty : Option Fn := none
  setProperty : Option Fn := none
  deriving DecidableEq, Repr

/-- `entry->v1000` of a static value. -/
structure StaticValueV1000 where
  getPropertyEx : Option Fn := none
  setPropertyEx : Option Fn := none
  deriving DecidableEq, Repr

/-- A `StaticValueEntry`: an accessor pair of one generation, and attribute flags. Both
generations' fields are kept, because `put` reads `entry->v0` whatever the entry's version. -/
structure StaticValueEntry where
  version : Int
  v0 : StaticValueV0 := {}
  v1000 : StaticValueV1000 := {}
  attributes : Attributes := {}
  deriving DecidableEq, Repr

/-- `entry->v0` of a static function. -/
structure StaticFunctionV0 where
  callAsFunction : Option Fn := none
  deriving DecidableEq, Repr

/-- `entry->v1000` of a static function. -/
structure StaticFunctionV1000 where
  callAsFunctionEx : Option Fn := none
  deriving DecidableEq, Repr

/-- A `StaticFunctionEntry`: one callable of one generation, and attribute flags. -/
structure StaticFunctionEntry where
  version : Int
  v0 : StaticFunctionV0 := {}
  v1000 : StaticFunctionV1000 := {}
  attributes : Attributes := {}
  deriving DecidableEq, Repr

/-- A registered class, `OpaqueJSClass`. `staticValues` and `staticFunctions` are the tables
`jsClass->staticValues(exec)` and `jsClass->staticFunctions(exec)` answer; a class without
one reads as an empty table, which every use treats as the null pointer. -/
structure JSClass where
  id : ClassId
  version : Int
  v0 : ClassCallbacksV0 := {}
  v1000 : ClassCallbacksV1000 := {}
  staticValues : List (Name × StaticValueEntry) := []
  staticFunctions : List (Name × StaticFunctionEntry) := []
  deriving DecidableEq, Repr

/-- `jsClass->staticValues(exec)->get(name)`. -/
def JSClass.staticValue (jsClass : JSClass) (name : Name) : Option StaticValueEntry :=
  jsClass.staticValues.lookup name

/-- `jsClass->staticFunctions(exec)->get(name)`. -/
def JSClass.staticFunction (jsClass : JSClass) (name : Name) : Option StaticFunctionEntry :=
  jsClass.staticFunctions.lookup name

/-! ## Choosing a generation -/

/-- The choice every class-level call site makes between a Legacy callback `X` and its
Extended twin `XEx`:

    X = version == 0 ? v0.X : nullptr;  XEx = version == 1000 ? v1000.XEx : nullptr;
    if (X || XEx) … X ? X(…) : XEx(jsClass, …)

The same choice is made for a static entry, with the entry's version and the class that
holds the entry. -/
def pick (version : Int) (legacy extended : Option Fn) (jsClass : ClassId) : Option Callback :=
  match (if version = 0 then legacy else none), (if version = 1000 then extended else none) with
  | some fn, _ => some (.legacy fn)
  | none, some fn => some (.extended fn jsClass)
  | none, none => none

@[simp] theorem pick_zero (legacy extended : Option Fn) (jsClass : ClassId) :
    pick 0 legacy extended jsClass = legacy.map .legacy := by
  cases legacy <;> simp [pick]

@[simp] theorem pick_thousand (legacy extended : Option Fn) (jsClass : ClassId) :
    pick 1000 legacy extended jsClass = extended.map (.extended · jsClass) := by
  cases extended <;> simp [pick]

/-- A version that is neither 0 nor 1000 selects nothing: no callback of such a class is
ever invoked. -/
theorem pick_other {version : Int} (h0 : version ≠ 0) (h1 : version ≠ 1000)
    (legacy extended : Option Fn) (jsClass : ClassId) :
    pick version legacy extended jsClass = none := by
  simp [pick, h0, h1]

/-- An Extended pick always passes the class it was given, and a Legacy pick never does:
the callback's ABI is the version's. -/
theorem pick_eq_some {version : Int} {legacy extended : Option Fn} {jsClass : ClassId}
    {cb : Callback} (h : pick version legacy extended jsClass = some cb) :
    ∃ fn, (version = 0 ∧ legacy = some fn ∧ cb = .legacy fn) ∨
      (version = 1000 ∧ extended = some fn ∧ cb = .extended fn jsClass) := by
  by_cases h0 : version = 0
  · subst h0; cases legacy <;> simp_all
  · by_cases h1 : version = 1000
    · subst h1; cases extended <;> simp_all
    · simp [pick_other h0 h1] at h

/-- The other spelling of the same choice, used by `init`, the destructor,
`getOwnNonIndexPropertyNames`, `getCallData` and `getConstructData`:

    if (version == 0 && v0.X) … X(…)  else if (version == 1000 && v1000.XEx) … XEx(jsClass, …)
-/
def pickEither (version : Int) (legacy extended : Option Fn) (jsClass : ClassId) :
    Option Callback :=
  if version = 0 ∧ legacy.isSome then legacy.map .legacy
  else if version = 1000 ∧ extended.isSome then extended.map (.extended · jsClass)
  else none

/-- The two spellings agree: whichever a call site uses, it chooses the same callback. -/
theorem pickEither_eq_pick (version : Int) (legacy extended : Option Fn) (jsClass : ClassId) :
    pickEither version legacy extended jsClass = pick version legacy extended jsClass := by
  by_cases h0 : version = 0
  · subst h0; cases legacy <;> simp [pickEither]
  · by_cases h1 : version = 1000
    · subst h1; cases extended <;> simp [pickEither]
    · simp [pickEither, pick_other h0 h1, h0, h1]

/-- What `pickEither` chooses, by the version alone: the Legacy pointer of a version-0 class,
the Extended one (passed the class) of a version-1000 class, and nothing for another
version. -/
theorem pickEither_eq_ite (version : Int) (legacy extended : Option Fn) (jsClass : ClassId) :
    pickEither version legacy extended jsClass =
      if version = 0 then legacy.map .legacy
      else if version = 1000 then extended.map (.extended · jsClass) else none := by
  rw [pickEither_eq_pick]
  split_ifs with h0 h1
  · exact h0 ▸ pick_zero legacy extended jsClass
  · exact h1 ▸ pick_thousand legacy extended jsClass
  · exact pick_other h0 h1 legacy extended jsClass

/-! ## The chain -/

/-- An object's class chain, the object's class first. An object always has a class, and a
chain the embedder registered without a cycle meets every class once. -/
structure ClassChain where
  classes : List JSClass
  nonempty : classes ≠ []
  acyclic : (classes.map JSClass.id).Nodup

/-- `Identifier::from(exec, propertyIndex)`: the decimal spelling of an index. -/
def Identifier.fromIndex (propertyIndex : UInt32) : Name := toString propertyIndex.toNat

@[simp] theorem Identifier.fromIndex_zero : Identifier.fromIndex 0 = "0" := rfl

/-- The digit loop of `parseIndex`: every further character is a digit, and the value
`value * 10 + digit` stays within 32 bits. -/
def parseIndexDigits : List Char → Nat → Option Nat
  | [], value => some value
  | c :: cs, value =>
    if c.isDigit ∧ value * 10 + (c.toNat - 48) ≤ 4294967295 then
      parseIndexDigits cs (value * 10 + (c.toNat - 48))
    else none

/-- `parseIndex(PropertyName)` (`PropertyName.h`): the array index a name spells, if it spells
one — decimal digits, no leading zero, below `0xFFFFFFFF`. The generic object keeps a
property whose name spells an index with its indexed properties, apart from its named ones. -/
def parseIndex (name : Name) : Option UInt32 :=
  match name.toList with
  | [] => none
  | first :: rest =>
    if first.isDigit ∧ (first ≠ '0' ∨ rest = []) then
      (parseIndexDigits rest (first.toNat - 48)).bind fun value =>
        if value < 4294967295 then some value.toUInt32 else none
    else none

end JSC
