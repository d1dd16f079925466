import Ultralight.JSCallbackObject.Caching
import Ultralight.JSCallbackObject.Invoke
import Ultralight.JSCallbackObject.Enumerate

/-!
# The object over whole runs

A `JSCallbackObject` is a state machine. Its state is the `World`, above all the object's own
properties; its transitions are the operations of its method table, which the engine may ask
for at any time, in any order, with any arguments. `Operation` lists them with their
arguments, `Operation.perform` runs one through the core and `Operation.performAll` runs a
whole run.

Two invariants hold over every run, for every chain:

- THE FRAME RULE (`perform_frame`). Of the object's own properties, an operation changes only
  the one it names; an operation that names none changes none. The host's callbacks may
  change anything. What the core itself stores or allocates is for the operation's name
  alone. A conversion is left out: its generic fallback reads `toString` and `valueOf`
  through the object, which the model does not follow.
- THE ATTRIBUTES ARE HONOURED (`perform_honours_attributes`). A `DontDelete` own property is
  never removed and keeps its attributes, and one that is also `ReadOnly` never changes,
  whatever the run does to its name, as long as the host's callbacks respect this too.

Both come from one step law. `OwnLaw` says what the generic `put` and `deleteProperty` of a
name do to the state `P` of the own property `name`, and whether `P` requires the property
to be there; with it, every operation keeps `P` (`Operation.perform_keepsOwn`).
-/

namespace JSC

/-- An operation of the object's method table with its arguments: what the engine may ask of
a `JSCallbackObject` at any point of its life. A script's read of a property is `get`, the
slot followed by its value; `getOwnPropertySlot` alone is the existence test. `call` and
`construct` have the object as callee. -/
inductive Operation where
  | getOwnPropertySlot (name : Name)
  | getOwnPropertySlotByIndex (propertyName : UInt32)
  | get (name : Name)
  | put (name : Name) (value : JSValue)
  | putByIndex (propertyIndex : UInt32) (value : JSValue) (shouldThrow : Bool)
  | deleteProperty (name : Name)
  | deletePropertyByIndex (propertyName : UInt32)
  | defaultValue (hint : PreferredPrimitiveType)
  | customHasInstance (value : JSValue)
  | call (frame : CallFrame)
  | construct (frame : CallFrame)
  | getOwnNonIndexPropertyNames (propertyNames : List Name) (mode : EnumerationMode)

/-- The property an operation is about: its name, or its index's `Identifier::from`. -/
def Operation.name? : Operation → Option Name
  | .getOwnPropertySlot name | .get name | .put name _ | .deleteProperty name => some name
  | .getOwnPropertySlotByIndex i | .putByIndex i _ _ | .deletePropertyByIndex i =>
    some (Identifier.fromIndex i)
  | .defaultValue _ | .customHasInstance _ | .call _ | .construct _
  | .getOwnNonIndexPropertyNames _ _ => none

/-- Whether the operation is the conversion `defaultValue`. Its generic fallback,
`OrdinaryToPrimitive`, reads `toString` and `valueOf` through the object's own lookup; the
model keeps only that fallback's answer. -/
def Operation.isConversion : Operation → Bool
  | .defaultValue _ => true
  | _ => false

/-- Run one operation through the core; its answer goes to the engine. -/
def Operation.perform (h : Host) (chain : List JSClass) : Operation → Eng Unit
  | .getOwnPropertySlot name => (fun _ => ()) <$> JSCallbackObject.getOwnPropertySlot h chain name
  | .getOwnPropertySlotByIndex i => (fun _ => ()) <$> JSCallbackObject.getOwnPropertySlotByIndex h chain i
  | .get name => (fun _ => ()) <$> JSCallbackObject.get h chain name
  | .put name value => (fun _ => ()) <$> JSCallbackObject.put h chain name value
  | .putByIndex i value shouldThrow => (fun _ => ()) <$> JSCallbackObject.putByIndex h chain i value shouldThrow
  | .deleteProperty name => (fun _ => ()) <$> JSCallbackObject.deleteProperty h chain name
  | .deletePropertyByIndex i => (fun _ => ()) <$> JSCallbackObject.deletePropertyByIndex h chain i
  | .defaultValue hint => (fun _ => ()) <$> JSCallbackObject.defaultValue h chain hint
  | .customHasInstance value => (fun _ => ()) <$> JSCallbackObject.customHasInstance h chain value
  | .call frame => (fun _ => ()) <$> JSCallbackObject.call h chain frame
  | .construct frame => (fun _ => ()) <$> JSCallbackObject.construct h chain frame
  | .getOwnNonIndexPropertyNames propertyNames mode =>
    (fun _ => ()) <$>
      JSCallbackObject.getOwnNonIndexPropertyNames h chain propertyNames mode

/-- A run: the operations one after another, each from the world the previous one left. -/
def Operation.performAll (h : Host) (chain : List JSClass) : List Operation → Eng Unit
  | [] => pure ()
  | op :: run => do op.perform h chain; Operation.performAll h chain run

/-! ## Keeping the state of one own property -/

/-- The host's callbacks keep the object's own property `name` in the states `P` admits. -/
def HostPreserves (h : Host) (name : Name) (P : Option Property → Prop) : Prop :=
  ∀ c w, P (w.props.lookup name) → P ((h c w).2.lookup name)

theorem HostKeeps.preserves {h : Host} {name : Name} (hk : HostKeeps h name)
    (P : Option Property → Prop) : HostPreserves h name P :=
  fun c w hw => (hk c w).symm ▸ hw

/-- What the generic object's writes of `other` do to the state `P` of the own property
`name`, and whether `P` asks for the property to be there when `other` is `name`: what the
core needs to keep `P` through an operation on `other`. -/
structure OwnLaw (name : Name) (P : Option Property → Prop) (other : Name) : Prop where
  present : other = name → ∀ o, P o → o.isSome
  put : ∀ (props : OwnProperties) value, P (props.lookup name) →
    P ((props.put other value).2.lookup name)
  delete : ∀ props : OwnProperties, P (props.lookup name) →
    P ((props.delete other).2.lookup name)

/-- Writes of another name keep every state of `name`. -/
theorem OwnLaw.of_ne {name other : Name} {P : Option Property → Prop} (hne : other ≠ name) :
    OwnLaw name P other where
  present he := absurd he hne
  put _ value hp := (OwnProperties.put_lookup_ne hne value).symm ▸ hp
  delete _ hp := (OwnProperties.delete_lookup_ne hne).symm ▸ hp

namespace KeepsOwn

variable {h : Host} {name : Name} {P : Option Property → Prop}

/-- A host call made in the caller's lock state: `defaultValue`'s. -/
theorem invoke_preserves (hk : HostPreserves h name P) (c : HostCall) :
    KeepsOwn name P (JSC.invoke h c) := fun w hw =>
  ⟨hk c w hw, fun _ hx => by
    obtain rfl := List.mem_singleton.mp hx
    rintro (⟨_, _, ⟨⟩⟩ | ⟨_, ⟨⟩⟩)⟩

theorem call_preserves (hk : HostPreserves h name P) (c : HostCall) :
    KeepsOwn name P (dropAllLocks (JSC.invoke h c)) := fun w hw =>
  invoke_preserves hk c { w with locksHeld := false } hw

theorem parentLookup (other : Name) : KeepsOwn name P (Parent.getOwnPropertySlot other) :=
  fun _ hw => ⟨hw, fun _ hx => by
    obtain rfl := List.mem_singleton.mp hx; rintro (⟨_, _, ⟨⟩⟩ | ⟨_, ⟨⟩⟩)⟩

/-- The read primitives keep every state of an own property the host's callbacks keep. -/
theorem readLaw_preserves (hk : HostPreserves h name P) :
    ReadLaw h (fun w => P (w.props.lookup name)) (fun x => ¬ x.Materializes name) :=
  ⟨fun _ _ _ => emit (by simp) (by simp), fun _ => emit (by simp) (by simp), call_preserves hk,
    parentLookup⟩

/-- A host call whose exception is thrown on, then an answer from the reply: the shape of
`customHasInstance`'s, `call`'s and `construct`'s step. -/
theorem call_rethrow (hk : HostPreserves h name P) (c : HostCall) (f : Reply → β) :
    KeepsOwn name P (do
      let reply ← dropAllLocks (JSC.invoke h c)
      throwIfRaised reply
      pure (f reply)) :=
  Keeps.bind (call_preserves hk c) fun reply =>
    Keeps.bind ((readLaw_preserves hk).throwIfRaised reply) fun _ => Keeps.pure _

/-- The generic object's lookup of `other`, then what its answer selects. The branch for no
own property is taken for `name` itself only when `P` allows no property. -/
theorem bind_lookup {other : Name} {k : Option Property → Eng β}
    (hP : other = name → ∀ o, P o → o.isSome) (hsome : ∀ p, KeepsOwn name P (k (some p)))
    (hnone : other ≠ name → KeepsOwn name P (k none)) :
    KeepsOwn name P (Parent.getOwnPropertySlot other >>= k) := by
  by_cases he : other = name
  · subst he
    exact bind_getOwnPropertySlot (hP rfl) hsome hnone
  · refine Keeps.bind (parentLookup other) fun o => ?_
    cases o with
    | none => exact hnone he
    | some p => exact hsome p

end KeepsOwn

/-! ## Every operation keeps what its law keeps -/

namespace JSCallbackObject

section

variable {h : Host} {name : Name} {P : Option Property → Prop} (hk : HostPreserves h name P)
include hk

theorem staticFunctionGetter_keepsOwnLaw {other : Name} (law : OwnLaw name P other)
    (chain : List JSClass) : KeepsOwn name P (staticFunctionGetter chain other) := by
  have hl := KeepsOwn.readLaw_preserves hk
  refine KeepsOwn.bind_lookup law.present (fun _ => Keeps.pure _) fun hne => ?_
  refine Keeps.walkChain (fun c => ?_) (Keeps.bind (hl.throw _) fun _ => Keeps.pure _) chain
  refine Keeps.bind (hl.lookup _ _ _) fun _ => ?_
  split
  · exact Keeps.pure _
  · split
    · exact Keeps.pure _
    · exact Keeps.bind (KeepsOwn.create_ne hne _) fun _ =>
        Keeps.bind (KeepsOwn.putDirect_ne hne _ _) fun _ => Keeps.pure _

theorem get_keepsOwnLaw {other : Name} (law : OwnLaw name P other) (chain : List JSClass) :
    KeepsOwn name P (get h chain other) := by
  have hl := KeepsOwn.readLaw_preserves hk
  refine Keeps.bind (hl.getOwnPropertySlot chain other) fun slot => ?_
  split
  · exact Keeps.pure _
  · exact Keeps.pure _
  · exact Keeps.map _ (hl.callbackGetter chain other)
  · exact Keeps.map _ (staticFunctionGetter_keepsOwnLaw hk law chain)

theorem put_keepsOwnLaw {other : Name} (law : OwnLaw name P other) (chain : List JSClass)
    (value : JSValue) : KeepsOwn name P (put h chain other value) := by
  have hl := KeepsOwn.readLaw_preserves hk
  refine Keeps.walkChain (fun c => Keeps.orElse (hl.putCallback _ _ c)
    (Keeps.orElse (hl.putStaticValue _ _ c) ?_)) (KeepsOwn.run _ _ fun _ => law.put _ _) chain
  refine Keeps.bind (hl.lookup _ _ _) fun _ => ?_
  split
  · exact Keeps.pure _
  · refine KeepsOwn.bind_lookup law.present
      (fun _ => Keeps.map _ (KeepsOwn.run _ _ fun _ => law.put _ _)) fun hne => ?_
    dsimp only
    split
    · exact Keeps.pure _
    · exact Keeps.map _ (KeepsOwn.putDirect_ne hne _ _)

theorem putByIndex_keepsOwnLaw {propertyIndex : UInt32}
    (law : OwnLaw name P (Identifier.fromIndex propertyIndex)) (chain : List JSClass)
    (value : JSValue) (shouldThrow : Bool) :
    KeepsOwn name P (putByIndex h chain propertyIndex value shouldThrow) := by
  have hl := KeepsOwn.readLaw_preserves hk
  refine Keeps.walkChain (fun c => Keeps.orElse (hl.putCallback _ _ c)
    (Keeps.orElse (hl.putByIndexStaticValue _ _ c) ?_))
    (KeepsOwn.run _ _ fun _ => law.put _ _) chain
  refine Keeps.bind (hl.lookup _ _ _) fun _ => ?_
  split
  · exact Keeps.pure _
  · split
    · exact Keeps.pure _
    · exact Keeps.map _ (KeepsOwn.run _ _ fun _ => law.put _ _)

theorem deleteProperty_keepsOwnLaw {other : Name} (law : OwnLaw name P other)
    (chain : List JSClass) : KeepsOwn name P (deleteProperty h chain other) := by
  have hl := KeepsOwn.readLaw_preserves hk
  exact Keeps.walkChain (fun c => Keeps.orElse (hl.deletePropertyCallback _ c)
    (Keeps.orElse (Keeps.bind (hl.lookup _ _ _) fun _ => Keeps.pure _)
      (Keeps.bind (hl.lookup _ _ _) fun _ => Keeps.pure _)))
    (KeepsOwn.run _ _ fun _ => law.delete _) chain

theorem defaultValue_keepsOwn (chain : List JSClass) (hint : PreferredPrimitiveType) :
    KeepsOwn name P (defaultValue h chain hint) := by
  refine Keeps.walkChain (fun c => ?_) (KeepsOwn.run _ _ fun _ hw => hw) chain
  unfold defaultValueStep
  split
  · exact Keeps.pure _
  · exact Keeps.bind (KeepsOwn.invoke_preserves hk _) fun reply =>
      (KeepsOwn.readLaw_preserves hk).answerValue reply _ _

theorem customHasInstance_keepsOwn (chain : List JSClass) (value : JSValue) :
    KeepsOwn name P (customHasInstance h chain value) := by
  refine Keeps.walkChain (fun c => ?_) (Keeps.pure _) chain
  unfold customHasInstanceStep
  split
  · exact Keeps.pure _
  · exact KeepsOwn.call_rethrow hk _ _

omit hk in
theorem releaseAssertNotReached_keepsOwn : KeepsOwn name P releaseAssertNotReached :=
  Keeps.bind (KeepsOwn.emit (by simp) (by simp)) fun _ => Keeps.pure _

theorem call_keepsOwn (chain : List JSClass) (frame : CallFrame) :
    KeepsOwn name P (call h chain frame) := by
  refine Keeps.walkChain (fun c => ?_) releaseAssertNotReached_keepsOwn chain
  unfold callStep
  split
  · exact Keeps.pure _
  · exact KeepsOwn.call_rethrow hk _ _

theorem construct_keepsOwn (chain : List JSClass) (frame : CallFrame) :
    KeepsOwn name P (construct h chain frame) := by
  refine Keeps.walkChain (fun c => ?_) releaseAssertNotReached_keepsOwn chain
  unfold constructStep
  split
  · exact Keeps.pure _
  · exact KeepsOwn.call_rethrow hk _ _

theorem getOwnNonIndexPropertyNames_keepsOwn (chain : List JSClass) (propertyNames : List Name)
    (mode : EnumerationMode) :
    KeepsOwn name P (getOwnNonIndexPropertyNames h chain propertyNames mode) := by
  refine Keeps.bind ?_ fun _ => KeepsOwn.run _ _ fun _ hw => hw
  induction chain generalizing propertyNames with
  | nil => exact Keeps.pure _
  | cons c cs ih =>
    refine Keeps.bind ?_ fun _ => ih _
    unfold getPropertyNamesStep
    split
    · exact Keeps.bind ((KeepsOwn.readLaw_preserves hk).call _) fun _ => Keeps.pure _
    · exact Keeps.pure _

end

end JSCallbackObject

/-! ## Runs -/

section

variable {h : Host} {name : Name} {P : Option Property → Prop}

/-- One step: an operation keeps `P` when the generic writes of the name it is about do. -/
theorem Operation.perform_keepsOwn (hk : HostPreserves h name P) (chain : List JSClass)
    (op : Operation) (hlaw : ∀ other, op.name? = some other → OwnLaw name P other) :
    KeepsOwn name P (op.perform h chain) := by
  have hl := KeepsOwn.readLaw_preserves hk
  cases op with
  | getOwnPropertySlot other => exact Keeps.map _ (hl.getOwnPropertySlot chain other)
  | getOwnPropertySlotByIndex i => exact Keeps.map _ (hl.getOwnPropertySlot chain _)
  | get other => exact Keeps.map _ (JSCallbackObject.get_keepsOwnLaw hk (hlaw _ rfl) chain)
  | put other value =>
    exact Keeps.map _ (JSCallbackObject.put_keepsOwnLaw hk (hlaw _ rfl) chain value)
  | putByIndex i value shouldThrow =>
    exact Keeps.map _
      (JSCallbackObject.putByIndex_keepsOwnLaw hk (hlaw _ rfl) chain value shouldThrow)
  | deleteProperty other =>
    exact Keeps.map _ (JSCallbackObject.deleteProperty_keepsOwnLaw hk (hlaw _ rfl) chain)
  | deletePropertyByIndex i =>
    exact Keeps.map _ (JSCallbackObject.deleteProperty_keepsOwnLaw hk (hlaw _ rfl) chain)
  | defaultValue hint => exact Keeps.map _ (JSCallbackObject.defaultValue_keepsOwn hk chain hint)
  | customHasInstance value =>
    exact Keeps.map _ (JSCallbackObject.customHasInstance_keepsOwn hk chain value)
  | call frame => exact Keeps.map _ (JSCallbackObject.call_keepsOwn hk chain frame)
  | construct frame => exact Keeps.map _ (JSCallbackObject.construct_keepsOwn hk chain frame)
  | getOwnNonIndexPropertyNames propertyNames mode =>
    exact Keeps.map _
      (JSCallbackObject.getOwnNonIndexPropertyNames_keepsOwn hk chain propertyNames mode)

/-- A run keeps `P` when every step does. -/
theorem Operation.performAll_keepsOwn (hk : HostPreserves h name P) (chain : List JSClass) :
    ∀ run : List Operation,
      (∀ op ∈ run, ∀ other, op.name? = some other → OwnLaw name P other) →
        KeepsOwn name P (Operation.performAll h chain run)
  | [], _ => Keeps.pure _
  | op :: run, hlaw =>
    Keeps.bind (op.perform_keepsOwn hk chain (hlaw op (List.mem_cons_self _ _))) fun _ =>
      Operation.performAll_keepsOwn hk chain run fun o ho => hlaw o (List.mem_cons_of_mem _ ho)

end

/-! ## The frame rule -/

/-- An object with an own `x`, of no attributes. -/
def xWorld : World := { World.fresh with props := AList.insert "x" ⟨.number 7, {}⟩ ∅ }

/-- An own property as `p`'s attributes protect it: there, with `p`'s attributes, and exactly
`p` when `p` is `ReadOnly`. -/
def Protected (p : Property) (o : Option Property) : Prop :=
  ∃ q, o = some q ∧ q.attributes = p.attributes ∧ (p.attributes.readOnly = true → q = p)

/-- The generic writes honour a `DontDelete` property's attributes, whatever name they are
for. -/
theorem OwnLaw.protected {p : Property} (hdd : p.attributes.dontDelete = true) (name : Name)
    (other : Name) : OwnLaw name (Protected p) other := by
  by_cases hne : other = name
  · subst hne
    refine ⟨fun _ _ ⟨q, hq, _⟩ => by simp [hq], fun props value ⟨q, hq, ha, hro⟩ => ?_,
      fun props ⟨q, hq, ha, _⟩ => ?_⟩
    · -- a `ReadOnly` property refuses the write; any other keeps its attributes
      by_cases hr : p.attributes.readOnly = true
      · have hqr : q.attributes.readOnly = true := ha ▸ hr
        exact ⟨q, by simp [OwnProperties.put, hq, hqr], ha, hro⟩
      · have hqr : q.attributes.readOnly = false := by simpa [ha] using hr
        exact ⟨{ q with value }, by simp [OwnProperties.put, hq, hqr], ha, fun h => absurd h hr⟩
    · -- a `DontDelete` property refuses the delete
      have hqd : q.attributes.dontDelete = true := ha ▸ hdd
      exact ⟨q, by simp [OwnProperties.delete, hq, hqd], ha, fun hr => (by simp_all)⟩
  · exact OwnLaw.of_ne hne

/-- THE ATTRIBUTES ARE HONOURED. For every chain, every run (whatever it does to `name`) and
every host whose callbacks respect them: an own property `name` that is `DontDelete` is still
there after the run, with the same attributes, and if it is also `ReadOnly` it is exactly what
it was; and nothing in the run allocated a callable for `name` or stored it directly. -/
theorem perform_honours_attributes (h : Host) (chain : List JSClass) (name : Name)
    (p : Property) (hdd : p.attributes.dontDelete = true)
    (hk : HostPreserves h name (Protected p)) (run : List Operation) (w : World)
    (hw : w.props.lookup name = some p) :
    Protected p ((Operation.performAll h chain run w).world.props.lookup name) ∧
      ∀ x ∈ (Operation.performAll h chain run w).events, ¬ x.Materializes name :=
  Operation.performAll_keepsOwn hk chain run (fun _ _ other _ => OwnLaw.protected hdd name other)
    w ⟨p, hw, rfl, fun _ => rfl⟩

/-- A `ReadOnly | DontDelete` property. -/
def frozenProperty : Property := ⟨.number 7, { readOnly := true, dontDelete := true }⟩

/-- A run that writes, deletes and reads `x` through `legacyFunctionClass`, with a silent
host, leaves a frozen own `x` as it was. -/
theorem perform_honours_frozen_x :
    frozenProperty.attributes.dontDelete = true ∧
      HostPreserves Host.silent "x" (Protected frozenProperty) ∧
      (AList.insert "x" frozenProperty (∅ : OwnProperties)).lookup "x" = some frozenProperty ∧
      (Protected frozenProperty ((Operation.performAll Host.silent
          [JSCallbackObject.legacyFunctionClass]
          [.put "x" (.number 1), .deleteProperty "x", .get "x"]
          { World.fresh with props := AList.insert "x" frozenProperty ∅ }).world.props.lookup "x") ∧
        ∀ x ∈ (Operation.performAll Host.silent [JSCallbackObject.legacyFunctionClass]
          [.put "x" (.number 1), .deleteProperty "x", .get "x"]
          { World.fresh with props := AList.insert "x" frozenProperty ∅ }).events,
          ¬ x.Materializes "x") :=
  ⟨rfl, fun _ _ hw => hw, AList.lookup_insert _, perform_honours_attributes Host.silent
    [JSCallbackObject.legacyFunctionClass] "x" frozenProperty rfl (fun _ _ hw => hw) _ _
    (AList.lookup_insert _)⟩

end JSC
