import Ultralight.JSCallbackObject.Trace

/-!
# Writing and deleting a property

`put`, `putByIndex` and `deleteProperty` walk the chain with the same three blocks per class
as the read: the class-level callback, the static-value entry for the name, the
static-function entry for the name; the first that answers decides, and the generic object
runs when none does.

The two writes are NOT one code path. `putByIndex` repeats `put`'s walk instead of
delegating to it (unlike `getOwnPropertySlotByIndex` and `deletePropertyByIndex`), and the
copies differ in both static blocks:

- at a writable static-value entry whose class has a setter of the entry's version, `put`
  calls the ENTRY's `v0.setProperty`, and `putByIndex` calls the CLASS's setter again;
- at a static-function entry, `put` first asks whether the object already has the property
  (then the generic `put` decides), while `putByIndex` only looks at the entry's
  `ReadOnly` flag and otherwise leaves the walk for the generic `putByIndex`.

Both writes guard the static-value setter with the class-level locals `setProperty` and
`setPropertyEx` — a class without a class-level setter never reaches an entry's setter —
and read the entry's setter from `entry->v0` whatever the entry's version. The model keeps
all of this as the code has it; `Faults.lean` states what follows.
-/

namespace JSC.JSCallbackObject

variable (h : Host)

/-- What a setter's or deleter's reply decides: a raised exception is thrown and decides
`answer`; otherwise a true result decides `answer` and a false one falls through.
`if (exception) throwException(…); if (result || exception) return answer;` -/
def answerOf (reply : Reply) (answer : Bool) : Eng (Option Bool) := do
  throwIfRaised reply
  pure (if reply.result || reply.exception.isSome then some answer else none)

/-- `setProperty = version == 0 ? v0.setProperty : nullptr` and
`setPropertyEx = version == 1000 ? v1000.setPropertyEx : nullptr` are both set-able, and the
guard of the static-value branch asks for the one of the ENTRY's version. -/
def classSetterGuard (jsClass : JSClass) (entry : StaticValueEntry) : Bool :=
  (entry.version = 0 ∧ (if jsClass.version = 0 then jsClass.v0.setProperty else none).isSome) ∨
    (entry.version = 1000 ∧
      (if jsClass.version = 1000 then jsClass.v1000.setPropertyEx else none).isSome)

/-! ## `put` -/

/-- The class-level block of `put` and `putByIndex`: the class's setter of its generation. -/
def putCallback (name : Name) (value : JSValue) (jsClass : JSClass) : Eng (Option Bool) :=
  match pick jsClass.version jsClass.v0.setProperty jsClass.v1000.setPropertyEx jsClass.id with
  | none => pure none
  | some setProperty => do
    let reply ← dropAllLocks (invoke h ⟨jsClass.id, .setProperty, setProperty, .put name value⟩)
    answerOf reply reply.result

/-- The static-value block of `put`: a read-only entry refuses; under the class-level guard,
the entry's `v0.setProperty`, if set, is called. -/
def putStaticValue (name : Name) (value : JSValue) (jsClass : JSClass) : Eng (Option Bool) := do
  emit (.lookup jsClass.id .staticValues name)
  match jsClass.staticValue name with
  | none => pure none
  | some entry =>
    if entry.attributes.readOnly then pure (some false)
    else if classSetterGuard jsClass entry then
      match entry.v0.setProperty with
      | none => pure none
      | some setProperty => do
        let reply ← dropAllLocks
          (invoke h ⟨jsClass.id, .staticSetProperty, .legacy setProperty, .put name value⟩)
        answerOf reply reply.result
    else pure none

/-- The static-function block of `put`: an existing own property (a cached callable or an
override) goes to the generic `put`; otherwise a read-only entry refuses and any other
entry is overridden by storing the value directly. -/
def putStaticFunction (name : Name) (value : JSValue) (jsClass : JSClass) :
    Eng (Option Bool) := do
  emit (.lookup jsClass.id .staticFunctions name)
  match jsClass.staticFunction name with
  | none => pure none
  | some entry => do
    match ← Parent.getOwnPropertySlot name with
    | some _ => some <$> Parent.put name value
    | none =>
      if entry.attributes.readOnly then pure (some false)
      else some <$> putDirect name value {}

/-- `JSCallbackObject<Parent>::put`. -/
def put (chain : List JSClass) (name : Name) (value : JSValue) : Eng Bool :=
  walkChain
    (fun jsClass => (putCallback h name value jsClass).orElse
      ((putStaticValue h name value jsClass).orElse (putStaticFunction name value jsClass)))
    (Parent.put name value) chain

/-! ## `putByIndex` -/

/-- The static-value block of `putByIndex`: as `put`'s, except that under the guard it is
the CLASS's setter that is called (`setProperty ? setProperty(…) : setPropertyEx(…)`). -/
def putByIndexStaticValue (name : Name) (value : JSValue) (jsClass : JSClass) :
    Eng (Option Bool) := do
  emit (.lookup jsClass.id .staticValues name)
  match jsClass.staticValue name with
  | none => pure none
  | some entry =>
    if entry.attributes.readOnly then pure (some false)
    else if classSetterGuard jsClass entry then
      match pick jsClass.version jsClass.v0.setProperty jsClass.v1000.setPropertyEx jsClass.id with
      | none => pure none
      | some setProperty => do
        let reply ← dropAllLocks
          (invoke h ⟨jsClass.id, .setProperty, setProperty, .put name value⟩)
        answerOf reply reply.result
    else pure none

/-- The static-function block of `putByIndex`: a read-only entry refuses; any other entry
`break`s out of the walk to the generic `putByIndex`. -/
def putByIndexStaticFunction (propertyIndex : UInt32) (value : JSValue) (shouldThrow : Bool)
    (name : Name) (jsClass : JSClass) : Eng (Option Bool) := do
  emit (.lookup jsClass.id .staticFunctions name)
  match jsClass.staticFunction name with
  | none => pure none
  | some entry =>
    if entry.attributes.readOnly then pure (some false)
    else some <$> Parent.putByIndex propertyIndex value shouldThrow

/-- `JSCallbackObject<Parent>::putByIndex`, over the name `Identifier::from(propertyIndex)`. -/
def putByIndex (chain : List JSClass) (propertyIndex : UInt32) (value : JSValue)
    (shouldThrow : Bool) : Eng Bool :=
  walkChain
    (fun jsClass => (putCallback h (Identifier.fromIndex propertyIndex) value jsClass).orElse
      ((putByIndexStaticValue h (Identifier.fromIndex propertyIndex) value jsClass).orElse
        (putByIndexStaticFunction propertyIndex value shouldThrow
          (Identifier.fromIndex propertyIndex) jsClass)))
    (Parent.putByIndex propertyIndex value shouldThrow) chain

/-! ## `deleteProperty` -/

/-- The class-level block of `deleteProperty`: the class's deleter; a true result or a
raised exception answers true. -/
def deletePropertyCallback (name : Name) (jsClass : JSClass) : Eng (Option Bool) :=
  match pick jsClass.version jsClass.v0.deleteProperty jsClass.v1000.deletePropertyEx
      jsClass.id with
  | none => pure none
  | some deleteProperty => do
    let reply ← dropAllLocks
      (invoke h ⟨jsClass.id, .deleteProperty, deleteProperty, .property name⟩)
    answerOf reply true

/-- The static-value block of `deleteProperty`: an entry answers, refusing when it is
`DontDelete`. -/
def deletePropertyStaticValue (name : Name) (jsClass : JSClass) : Eng (Option Bool) := do
  emit (.lookup jsClass.id .staticValues name)
  pure ((jsClass.staticValue name).map fun entry => !entry.attributes.dontDelete)

/-- The static-function block of `deleteProperty`, the same for a static function. -/
def deletePropertyStaticFunction (name : Name) (jsClass : JSClass) : Eng (Option Bool) := do
  emit (.lookup jsClass.id .staticFunctions name)
  pure ((jsClass.staticFunction name).map fun entry => !entry.attributes.dontDelete)

/-- `JSCallbackObject<Parent>::deleteProperty`. -/
def deleteProperty (chain : List JSClass) (name : Name) : Eng Bool :=
  walkChain
    (fun jsClass => (deletePropertyCallback h name jsClass).orElse
      ((deletePropertyStaticValue name jsClass).orElse (deletePropertyStaticFunction name jsClass)))
    (Parent.deleteProperty name) chain

/-- `JSCallbackObject<Parent>::deletePropertyByIndex`. -/
def deletePropertyByIndex (chain : List JSClass) (propertyName : UInt32) : Eng Bool :=
  deleteProperty h chain (Identifier.fromIndex propertyName)

end JSC.JSCallbackObject

/-! ## What every block that stores nothing keeps -/

namespace JSC.ReadLaw

variable {h : Host} {inv : World → Prop} {good : Entry → Prop}

theorem answerOf (hl : ReadLaw h inv good) (reply : Reply) (answer : Bool) :
    Keeps inv good (JSCallbackObject.answerOf reply answer) :=
  Keeps.bind (hl.throwIfRaised reply) fun _ => Keeps.pure _

theorem putCallback (hl : ReadLaw h inv good) (name : Name) (value : JSValue)
    (jsClass : JSClass) : Keeps inv good (JSCallbackObject.putCallback h name value jsClass) := by
  unfold JSCallbackObject.putCallback
  split
  · exact Keeps.pure _
  · exact Keeps.bind (hl.call _) fun reply => hl.answerOf reply _

theorem putStaticValue (hl : ReadLaw h inv good) (name : Name) (value : JSValue)
    (jsClass : JSClass) :
    Keeps inv good (JSCallbackObject.putStaticValue h name value jsClass) := by
  refine Keeps.bind (hl.lookup _ _ _) fun _ => ?_
  split
  · exact Keeps.pure _
  · split
    · exact Keeps.pure _
    · split
      · split
        · exact Keeps.pure _
        · exact Keeps.bind (hl.call _) fun reply => hl.answerOf reply _
      · exact Keeps.pure _

theorem putByIndexStaticValue (hl : ReadLaw h inv good) (name : Name) (value : JSValue)
    (jsClass : JSClass) :
    Keeps inv good (JSCallbackObject.putByIndexStaticValue h name value jsClass) := by
  refine Keeps.bind (hl.lookup _ _ _) fun _ => ?_
  split
  · exact Keeps.pure _
  · split
    · exact Keeps.pure _
    · split
      · split
        · exact Keeps.pure _
        · exact Keeps.bind (hl.call _) fun reply => hl.answerOf reply _
      · exact Keeps.pure _

theorem deletePropertyCallback (hl : ReadLaw h inv good) (name : Name) (jsClass : JSClass) :
    Keeps inv good (JSCallbackObject.deletePropertyCallback h name jsClass) := by
  unfold JSCallbackObject.deletePropertyCallback
  split
  · exact Keeps.pure _
  · exact Keeps.bind (hl.call _) fun reply => hl.answerOf reply _

end JSC.ReadLaw
