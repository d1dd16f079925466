import Ultralight.JSCallbackObject.Trace

/-!
# Reading a property

`getOwnPropertySlot` walks the chain and, for each class, runs three blocks in order:
the class-level callback (`hasProperty` when the class has one, otherwise `getProperty`),
the class's static-value table, and its static-function table. The first block that answers
fills the slot; when none does, the generic object's own lookup runs.

Two of the slots it fills are CUSTOM: the value is computed only when the slot is read.
`callbackGetter` serves the slot installed when `hasProperty` said yes, and
`staticFunctionGetter` the slot of a static function. Both, and `getStaticValue` (which the
static-value block calls), walk the chain AGAIN from the object's class, each on its own
terms — they do not know which class installed the slot. `get` is the whole read: the slot,
then its value.

`PropertySlot` keeps what the core sets on the engine's slot: attributes, and a value or
the getter to run.
-/

namespace JSC

/-- The custom getters the core installs. -/
inductive CustomGetter where
  | callbackGetter | staticFunctionGetter
  deriving DecidableEq, Repr

/-- What `slot.setValue(...)` and `slot.setCustom(...)` record. -/
inductive PropertySlot where
  | value (attributes : Attributes) (v : JSValue)
  | custom (attributes : Attributes) (getter : CustomGetter)
  deriving DecidableEq, Repr

/-- The attributes a slot reports. -/
def PropertySlot.attributes : PropertySlot → Attributes
  | .value attributes _ | .custom attributes _ => attributes

@[simp] theorem PropertySlot.attributes_value (attributes : Attributes) (v : JSValue) :
    (PropertySlot.value attributes v).attributes = attributes := rfl

@[simp] theorem PropertySlot.attributes_custom (attributes : Attributes) (getter : CustomGetter) :
    (PropertySlot.custom attributes getter).attributes = attributes := rfl

namespace JSCallbackObject

variable (h : Host)

/-- `throwException(exec, scope, createReferenceError(exec, message))`, whose value the
getters return. -/
def throwReferenceError (message : String) : Eng JSValue := do
  throwException (.referenceError message)
  pure (.referenceError message)

/-! ## `getStaticValue` -/

/-- One class of `getStaticValue`'s walk: the class's static-value entry for `name`, read
through the entry's getter of the entry's generation. A raised exception answers
`jsUndefined()`; a null result lets the walk go on. -/
def getStaticValueStep (name : Name) (jsClass : JSClass) : Eng (Option JSValue) := do
  emit (.lookup jsClass.id .staticValues name)
  match jsClass.staticValue name with
  | none => pure none
  | some entry =>
    match pick entry.version entry.v0.getProperty entry.v1000.getPropertyEx jsClass.id with
    | none => pure none
    | some getProperty => do
      let reply ← dropAllLocks
        (invoke h ⟨jsClass.id, .staticGetProperty, getProperty, .property name⟩)
      answerValue reply .undefined id

/-- `JSCallbackObject<Parent>::getStaticValue`: the first static-value getter of the WHOLE
chain, object's class first, that yields a value; `JSValue()` (`none`) if none does. -/
def getStaticValue (chain : List JSClass) (name : Name) : Eng (Option JSValue) :=
  walkChain (fun jsClass => Option.map some <$> getStaticValueStep h name jsClass) (pure none)
    chain

/-! ## `getOwnPropertySlot` -/

/-- The class-level block: with a `hasProperty` callback, a yes installs the
`callbackGetter` slot; without one, a `getProperty` callback is asked for the value. -/
def getOwnPropertySlotCallback (name : Name) (jsClass : JSClass) : Eng (Option PropertySlot) :=
  match pick jsClass.version jsClass.v0.hasProperty jsClass.v1000.hasPropertyEx jsClass.id,
      pick jsClass.version jsClass.v0.getProperty jsClass.v1000.getPropertyEx jsClass.id with
  | some hasProperty, _ => do
    let reply ← dropAllLocks (invoke h ⟨jsClass.id, .hasProperty, hasProperty, .property name⟩)
    pure (if reply.result then some (.custom .readOnlyDontEnum .callbackGetter) else none)
  | none, some getProperty => do
    let reply ← dropAllLocks (invoke h ⟨jsClass.id, .getProperty, getProperty, .property name⟩)
    answerValue reply (.value .readOnlyDontEnum .undefined) (.value .readOnlyDontEnum)
  | none, none => pure none

/-- The static-value block: when the class's table holds `name`, `getStaticValue` is asked —
over the whole chain. -/
def getOwnPropertySlotStaticValue (chain : List JSClass) (name : Name) (jsClass : JSClass) :
    Eng (Option PropertySlot) := do
  emit (.lookup jsClass.id .staticValues name)
  if (jsClass.staticValue name).isSome then
    let value ← getStaticValue h chain name
    pure (value.map (.value .readOnlyDontEnum))
  else pure none

/-- The static-function block: when the class's table holds `name`, the
`staticFunctionGetter` slot. -/
def getOwnPropertySlotStaticFunction (name : Name) (jsClass : JSClass) :
    Eng (Option PropertySlot) := do
  emit (.lookup jsClass.id .staticFunctions name)
  pure (if (jsClass.staticFunction name).isSome then
    some (.custom .readOnlyDontEnum .staticFunctionGetter) else none)

/-- The generic object's own lookup, as a slot. -/
def parentSlot (name : Name) : Eng (Option PropertySlot) :=
  (·.map fun p => PropertySlot.value p.attributes p.value) <$> Parent.getOwnPropertySlot name

/-- `JSCallbackObject<Parent>::getOwnPropertySlot`. -/
def getOwnPropertySlot (chain : List JSClass) (name : Name) : Eng (Option PropertySlot) :=
  walkChain
    (fun jsClass => Option.map some <$> (getOwnPropertySlotCallback h name jsClass).orElse
      ((getOwnPropertySlotStaticValue h chain name jsClass).orElse
        (getOwnPropertySlotStaticFunction name jsClass)))
    (parentSlot name) chain

/-- `JSCallbackObject<Parent>::getOwnPropertySlotByIndex`. -/
def getOwnPropertySlotByIndex (chain : List JSClass) (propertyName : UInt32) :
    Eng (Option PropertySlot) :=
  getOwnPropertySlot h chain (Identifier.fromIndex propertyName)

/-! ## The custom getters -/

/-- One class of `callbackGetter`'s walk: the class's `getProperty` of its generation. -/
def callbackGetterStep (name : Name) (jsClass : JSClass) : Eng (Option JSValue) :=
  match pick jsClass.version jsClass.v0.getProperty jsClass.v1000.getPropertyEx jsClass.id with
  | none => pure none
  | some getProperty => do
    let reply ← dropAllLocks (invoke h ⟨jsClass.id, .getProperty, getProperty, .property name⟩)
    answerValue reply .undefined id

/-- `JSCallbackObject<Parent>::callbackGetter`: the first `getProperty` of the chain that
yields a value, or a `ReferenceError` when `hasProperty` promised a property none has. -/
def callbackGetter (chain : List JSClass) (name : Name) : Eng JSValue :=
  walkChain (callbackGetterStep h name)
    (throwReferenceError "hasProperty callback returned true for a property that doesn\x27t exist.")
    chain

/-- One class of `staticFunctionGetter`'s walk: a static-function entry for `name` with a
callback of its generation is made a callable, stored on the object with the entry's
attributes, and returned. -/
def staticFunctionGetterStep (name : Name) (jsClass : JSClass) : Eng (Option JSValue) := do
  emit (.lookup jsClass.id .staticFunctions name)
  match jsClass.staticFunction name with
  | none => pure none
  | some entry =>
    match pickEither entry.version entry.v0.callAsFunction entry.v1000.callAsFunctionEx
        jsClass.id with
    | none => pure none
    | some callAsFunction => do
      let o ← JSCallbackFunction.create callAsFunction name
      let _ ← putDirect name o entry.attributes
      pure (some o)

/-- `JSCallbackObject<Parent>::staticFunctionGetter`: a cached or overriding own property
first; otherwise the first materializable entry of the chain; otherwise a `ReferenceError`. -/
def staticFunctionGetter (chain : List JSClass) (name : Name) : Eng JSValue := do
  match ← Parent.getOwnPropertySlot name with
  | some cached => pure cached.value
  | none =>
    walkChain (staticFunctionGetterStep name)
      (throwReferenceError "Static function property defined with NULL callAsFunction callback.")
      chain

/-- Reading the object's own property `name`: `getOwnPropertySlot`, then the slot's value —
a custom slot runs its getter. `none` is a property the object does not have (the prototype
chain is the engine's, not this core's). -/
def get (chain : List JSClass) (name : Name) : Eng (Option JSValue) := do
  match ← getOwnPropertySlot h chain name with
  | none => pure none
  | some (.value _ v) => pure (some v)
  | some (.custom _ .callbackGetter) => some <$> callbackGetter h chain name
  | some (.custom _ .staticFunctionGetter) => some <$> staticFunctionGetter chain name

end JSCallbackObject

/-! ## What every read keeps -/

namespace ReadLaw

variable {h : Host} {inv : World → Prop} {good : Entry → Prop}

theorem getStaticValue (hl : ReadLaw h inv good) (chain : List JSClass) (name : Name) :
    Keeps inv good (JSCallbackObject.getStaticValue h chain name) := by
  refine Keeps.walkChain (fun c => Keeps.map _ ?_) (Keeps.pure _) chain
  refine Keeps.bind (hl.lookup _ _ _) fun _ => ?_
  split
  · exact Keeps.pure _
  · split
    · exact Keeps.pure _
    · exact Keeps.bind (hl.call _) fun reply => hl.answerValue reply _ _

theorem getOwnPropertySlot (hl : ReadLaw h inv good) (chain : List JSClass) (name : Name) :
    Keeps inv good (JSCallbackObject.getOwnPropertySlot h chain name) := by
  unfold JSCallbackObject.getOwnPropertySlot JSCallbackObject.parentSlot
  refine Keeps.walkChain (fun c => Keeps.map _ (Keeps.orElse ?_ (Keeps.orElse ?_ ?_)))
    (Keeps.map _ (hl.parentLookup _)) chain
  · unfold JSCallbackObject.getOwnPropertySlotCallback
    split
    · exact Keeps.bind (hl.call _) fun _ => Keeps.pure _
    · exact Keeps.bind (hl.call _) fun reply => hl.answerValue reply _ _
    · exact Keeps.pure _
  · refine Keeps.bind (hl.lookup _ _ _) fun _ => ?_
    split
    · exact Keeps.bind (hl.getStaticValue chain name) fun _ => Keeps.pure _
    · exact Keeps.pure _
  · exact Keeps.bind (hl.lookup _ _ _) fun _ => Keeps.pure _

theorem callbackGetter (hl : ReadLaw h inv good) (chain : List JSClass) (name : Name) :
    Keeps inv good (JSCallbackObject.callbackGetter h chain name) := by
  refine Keeps.walkChain (fun c => ?_)
    (Keeps.bind (hl.throw _) fun _ => Keeps.pure _) chain
  unfold JSCallbackObject.callbackGetterStep
  split
  · exact Keeps.pure _
  · exact Keeps.bind (hl.call _) fun reply => hl.answerValue reply _ _

end ReadLaw

end JSC
