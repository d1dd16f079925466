import Ultralight.JSCallbackObject.Classes

/-!
# The engine around the callbacks: host calls, events and worlds

A dispatch operation of `JSCallbackObject` is a computation in `Eng`: it reads and changes
a `World` (the object's own properties, whether this thread holds the engine lock, the
allocator) and it leaves a trace of `Entry`s — everything it did that anyone could observe,
in order, each stamped with the lock state it happened in and the own properties it left.

The HOST is the embedder's code behind the callback pointers. A `Host` answers every call
with a `Reply` and may change the object's own properties while it runs (a callback may
re-enter the engine); its answer may depend on the whole world, including every call it has
been asked before (`World.calls`). A theorem quantified over `Host` is therefore about every
behaviour of the host callbacks.

The trace carries three ghost observations the C++ does not record but does perform: which
static table was consulted for which name (`Event.lookup`), the lock state of every step,
and the own properties after every step. They are what makes resolution order, the lock
discipline and "nothing changed after the exception" statements about the code.

`Parent` is the generic object the class template derives from. Of it, the core uses only
the own-property operations; they are modelled on `OwnProperties` directly. Its prototype
chain, indexed storage and conversion machinery are outside this core: a world carries the
answer of the generic conversion as `toPrimitive`.
-/

namespace JSC

/-- `::JSType`, the hint `convertToType` receives. -/
inductive JSType where
  | undefined | null | boolean | number | string | object
  deriving DecidableEq, Repr

/-- `PreferredPrimitiveType`, the hint `defaultValue` receives. -/
inductive PreferredPrimitiveType where
  | noPreference | preferNumber | preferString
  deriving DecidableEq, Repr

/-- Which callback of a class (or of one of its static entries) a host call goes to. -/
inductive Field where
  | initializeCallback | finalize
  | hasProperty | getProperty | setProperty | deleteProperty | getPropertyNames
  | callAsFunction | callAsConstructor | hasInstance | convertToType
  | staticGetProperty | staticSetProperty
  deriving DecidableEq, Repr

/-- Whether the callback has an `exception` out-parameter. `hasProperty`,
`getPropertyNames`, `initialize` and `finalize` do not: the core never reads one from them. -/
def Field.takesException : Field → Bool
  | .initializeCallback | .finalize | .hasProperty | .getPropertyNames => false
  | _ => true

/-- What a host callback is passed besides the context and the object. -/
inductive Args where
  | object
  | property (name : Name)
  | put (name : Name) (value : JSValue)
  | propertyNames
  | call (thisObject : JSValue) (argumentCount : Nat) (arguments : List JSValue)
  | construct (argumentCount : Nat) (arguments : List JSValue)
  | hasInstance (value : JSValue)
  | convertToType (hint : JSType)
  deriving DecidableEq, Repr

/-- One invocation of a host callback: the class and field it belongs to (ghost: the code
knows it as the pointer it read), how it is called, and what it is passed. -/
structure HostCall where
  owner : ClassId
  field : Field
  callback : Callback
  args : Args
  deriving DecidableEq, Repr

/-- A host's answer: the returned `JSValueRef` (null is `none`), the returned `bool`, the
`exception` out-parameter (left null is `none`), and the names `getPropertyNames` adds to
the accumulator. Each call site reads only the parts its callback type has. -/
structure Reply where
  value : Option JSValue := none
  result : Bool := false
  exception : Option JSValue := none
  names : List Name := []
  deriving DecidableEq, Repr

/-- An operation of the generic object this core falls back to, or consults. -/
inductive ParentOperation where
  | getOwnPropertySlot (name : Name)
  | put (name : Name) (value : JSValue)
  | putByIndex (index : UInt32) (value : JSValue) (shouldThrow : Bool)
  | deleteProperty (name : Name)
  | defaultValue (hint : PreferredPrimitiveType)
  | getOwnNonIndexPropertyNames
  deriving DecidableEq, Repr

/-- A class's static tables. -/
inductive Table where
  | staticValues | staticFunctions
  deriving DecidableEq, Repr

/-- What an operation does that can be observed. -/
inductive Event where
  /-- A host callback ran and answered. -/
  | call (c : HostCall) (reply : Reply)
  /-- A class's static table was asked for a name (ghost). -/
  | lookup (jsClass : ClassId) (table : Table) (name : Name)
  /-- `throwException(exec, scope, exception)`. -/
  | throwException (exception : JSValue)
  /-- `JSCallbackFunction::create` allocated a callable. -/
  | create (function : JSValue)
  /-- `putDirect`: the core stored an own property itself. -/
  | putDirect (name : Name) (property : Property)
  /-- The generic object's operation ran. -/
  | parent (operation : ParentOperation)
  /-- `RELEASE_ASSERT_NOT_REACHED()`: the process dies. -/
  | notReached
  deriving DecidableEq, Repr

/-- A trace entry: the event, whether the engine lock was held when it happened, and the
object's own properties it left behind. -/
structure Entry where
  event : Event
  locksHeld : Bool
  props : OwnProperties

/-- The host call an entry records, if it records one. -/
def Entry.hostCall? (x : Entry) : Option HostCall :=
  match x.event with
  | .call c _ => some c
  | _ => none

/-- Everything an operation reads or changes. -/
structure World where
  /-- The object's own properties. -/
  props : OwnProperties
  /-- Whether this thread holds the engine lock. -/
  locksHeld : Bool
  /-- The next cell the allocator hands out. -/
  nextCell : Nat
  /-- Every host call made so far, oldest first: what a host may remember. -/
  calls : List HostCall
  /-- What the generic object's own conversion (`Parent::defaultValue`) answers. -/
  toPrimitive : PreferredPrimitiveType → JSValue

/-- The embedder: an answer to every call, and the own properties the call leaves. -/
def Host := HostCall → World → Reply × OwnProperties

/-- A fresh object on a thread that holds the engine lock: no own property, no call made
yet, and a generic conversion that answers `undefined`. -/
def World.fresh : World :=
  { props := ∅, locksHeld := true, nextCell := 0, calls := [], toPrimitive := fun _ => .undefined }

/-- A host whose every callback returns null and false, raises nothing and changes nothing. -/
def Host.silent : Host := fun _ w => ({}, w.props)

/-- The outcome of running a computation from one world. -/
@[ext] structure Step (α : Type) where
  result : α
  world : World
  events : List Entry

/-- The host calls a run made, in order. -/
def Step.hostCalls (s : Step α) : List HostCall := s.events.filterMap Entry.hostCall?

/-- A computation of the engine: from a world, a result, a world and a trace. -/
def Eng (α : Type) : Type := World → Step α

namespace Eng

/-- Return `a` and do nothing. -/
protected def pure (a : α) : Eng α := fun w => ⟨a, w, []⟩

/-- Run `m`, then `k` on its result, from the world `m` left; the traces concatenate. -/
protected def bind (m : Eng α) (k : α → Eng β) : Eng β := fun w =>
  let s := m w
  let t := k s.result s.world
  ⟨t.result, t.world, s.events ++ t.events⟩

instance : Monad Eng where
  pure := Eng.pure
  bind := Eng.bind

@[simp] theorem pure_apply (a : α) (w : World) : (pure a : Eng α) w = ⟨a, w, []⟩ := rfl

@[simp] theorem bind_result (m : Eng α) (k : α → Eng β) (w : World) :
    ((m >>= k) w).result = (k (m w).result (m w).world).result := rfl

@[simp] theorem bind_world (m : Eng α) (k : α → Eng β) (w : World) :
    ((m >>= k) w).world = (k (m w).result (m w).world).world := rfl

@[simp] theorem bind_events (m : Eng α) (k : α → Eng β) (w : World) :
    ((m >>= k) w).events = (m w).events ++ (k (m w).result (m w).world).events := rfl

@[simp] theorem map_apply (f : α → β) (m : Eng α) (w : World) :
    (f <$> m) w = ⟨f (m w).result, (m w).world, (m w).events⟩ := by
  show Step.mk _ _ (_ ++ []) = _
  rw [List.append_nil]
  rfl

/-- One block of a loop body that may `return` from the operation: if `first` returns (it
answers `some`), that is the body's answer; otherwise control falls through to `next`. -/
def orElse (first next : Eng (Option α)) : Eng (Option α) := fun w =>
  let s := first w
  match s.result with
  | some a => ⟨some a, s.world, s.events⟩
  | none =>
    let t := next s.world
    ⟨t.result, t.world, s.events ++ t.events⟩

theorem orElse_of_some {first next : Eng (Option α)} {w : World} {a : α}
    (h : (first w).result = some a) :
    first.orElse next w = ⟨some a, (first w).world, (first w).events⟩ := by
  simp only [orElse, h]

theorem orElse_of_none {first next : Eng (Option α)} {w : World}
    (h : (first w).result = none) :
    first.orElse next w =
      ⟨(next (first w).world).result, (next (first w).world).world,
        (first w).events ++ (next (first w).world).events⟩ := by
  simp only [orElse, h]

/-- A fall-through answers whenever its first block always answers. -/
theorem orElse_isSome_of_first {first next : Eng (Option α)}
    (hfirst : ∀ w, ((first w).result).isSome) (w : World) :
    ((first.orElse next w).result).isSome := by
  obtain ⟨a, ha⟩ := Option.isSome_iff_exists.mp (hfirst w)
  simp [orElse_of_some ha]

/-- A fall-through answers whenever its second block always answers. -/
theorem orElse_isSome_of_next {first next : Eng (Option α)}
    (hnext : ∀ w, ((next w).result).isSome) (w : World) :
    ((first.orElse next w).result).isSome := by
  cases hr : (first w).result with
  | some a => simp [orElse_of_some hr]
  | none => rw [orElse_of_none hr]; exact hnext _

/-- What both blocks leave when they answer, their fall-through leaves when it answers. -/
theorem orElse_answer {first next : Eng (Option α)} (P : α → World → Prop)
    (h₁ : ∀ w a, (first w).result = some a → P a (first w).world)
    (h₂ : ∀ w a, (next w).result = some a → P a (next w).world) (w : World) (a : α)
    (h : (first.orElse next w).result = some a) : P a (first.orElse next w).world := by
  cases hr : (first w).result with
  | some b =>
    rw [orElse_of_some hr] at h ⊢
    exact h₁ w a (hr.trans h)
  | none =>
    rw [orElse_of_none hr] at h ⊢
    exact h₂ _ a h

/-- Wrapping a fall-through's answer in `some` is wrapping each block's. -/
theorem map_some_orElse (first next : Eng (Option α)) :
    Option.map some <$> first.orElse next =
      (Option.map some <$> first).orElse (Option.map some <$> next) := by
  funext w
  cases hr : (first w).result with
  | some a => simp only [map_apply, orElse_of_some hr, orElse, hr, Option.map_some']
  | none => simp only [map_apply, orElse_of_none hr, orElse, hr, Option.map_none']

end Eng

/-- Record an event. -/
def emit (e : Event) : Eng Unit := fun w => ⟨(), w, [⟨e, w.locksHeld, w.props⟩]⟩

/-- `throwException(exec, scope, exception)`. -/
def throwException (exception : JSValue) : Eng Unit := emit (.throwException exception)

/-- Call the host. The host answers and may leave the own properties changed; the call is
remembered in `World.calls`. -/
def invoke (h : Host) (c : HostCall) : Eng Reply := fun w =>
  let r := h c w
  ⟨r.1, { w with props := r.2, calls := w.calls ++ [c] }, [⟨.call c r.1, w.locksHeld, r.2⟩]⟩

/-- `if (exception) throwException(exec, scope, toJS(exec, exception));` -/
def throwIfRaised (reply : Reply) : Eng Unit :=
  match reply.exception with
  | some exception => throwException exception
  | none => pure ()

/-- The epilogue of a callback that returns a value:
`if (exception) { throwException(…); return onThrow; } if (value) return wrap(value);` —
a null value decides nothing. -/
def answerValue (reply : Reply) (onThrow : α) (wrap : JSValue → α) : Eng (Option α) :=
  match reply.exception with
  | some exception => do
    throwException exception
    pure (some onThrow)
  | none => pure (reply.value.map wrap)

/-- A `JSLock::DropAllLocks` scope around `m`: the lock is released on entry and taken back
on every exit. -/
def dropAllLocks (m : Eng α) : Eng α := fun w =>
  let s := m { w with locksHeld := false }
  ⟨s.result, { s.world with locksHeld := w.locksHeld }, s.events⟩

/-- `putDirect(vm, propertyName, value, attributes)`: store an own data property, bypassing
every check. -/
def putDirect (name : Name) (value : JSValue) (attributes : Attributes) : Eng Bool := fun w =>
  let props := w.props.insert name ⟨value, attributes⟩
  ⟨true, { w with props }, [⟨.putDirect name ⟨value, attributes⟩, w.locksHeld, props⟩]⟩

/-- `JSCallbackFunction::create`: a fresh callable bound to a callback and a name. -/
def JSCallbackFunction.create (callback : Callback) (name : Name) : Eng JSValue := fun w =>
  let f := JSValue.callbackFunction w.nextCell callback name
  ⟨f, { w with nextCell := w.nextCell + 1 }, [⟨.create f, w.locksHeld, w.props⟩]⟩

@[simp] theorem emit_apply (e : Event) (w : World) :
    emit e w = ⟨(), w, [⟨e, w.locksHeld, w.props⟩]⟩ := rfl

@[simp] theorem throwException_apply (exception : JSValue) (w : World) :
    throwException exception w = ⟨(), w, [⟨.throwException exception, w.locksHeld, w.props⟩]⟩ :=
  rfl

@[simp] theorem throwIfRaised_apply (reply : Reply) (w : World) :
    throwIfRaised reply w = ⟨(), w,
      (reply.exception.map fun e => ⟨.throwException e, w.locksHeld, w.props⟩).toList⟩ := by
  cases hx : reply.exception <;> simp [throwIfRaised, hx]

@[simp] theorem answerValue_apply (reply : Reply) (onThrow : α) (wrap : JSValue → α)
    (w : World) :
    answerValue reply onThrow wrap w =
      ⟨if reply.exception.isSome then some onThrow else reply.value.map wrap, w,
        (reply.exception.map fun e => ⟨.throwException e, w.locksHeld, w.props⟩).toList⟩ := by
  cases hx : reply.exception <;> simp only [answerValue, hx] <;> rfl

@[simp] theorem invoke_apply (h : Host) (c : HostCall) (w : World) :
    invoke h c w = ⟨(h c w).1, { w with props := (h c w).2, calls := w.calls ++ [c] },
      [⟨.call c (h c w).1, w.locksHeld, (h c w).2⟩]⟩ := rfl

@[simp] theorem dropAllLocks_apply (m : Eng α) (w : World) :
    dropAllLocks m w = ⟨(m { w with locksHeld := false }).result,
      { (m { w with locksHeld := false }).world with locksHeld := w.locksHeld },
      (m { w with locksHeld := false }).events⟩ := rfl

@[simp] theorem putDirect_apply (name : Name) (value : JSValue) (attributes : Attributes)
    (w : World) :
    putDirect name value attributes w =
      ⟨true, { w with props := w.props.insert name ⟨value, attributes⟩ },
        [⟨.putDirect name ⟨value, attributes⟩, w.locksHeld,
          w.props.insert name ⟨value, attributes⟩⟩]⟩ := rfl

@[simp] theorem create_apply (callback : Callback) (name : Name) (w : World) :
    JSCallbackFunction.create callback name w =
      ⟨.callbackFunction w.nextCell callback name, { w with nextCell := w.nextCell + 1 },
        [⟨.create (.callbackFunction w.nextCell callback name), w.locksHeld, w.props⟩]⟩ := rfl

/-! ## The generic object -/

/-- `Parent::put` on the own-property storage: a read-only own property refuses, any other
is overwritten in place, and a new one is added with no attributes. -/
def OwnProperties.put (props : OwnProperties) (name : Name) (value : JSValue) :
    Bool × OwnProperties :=
  match props.lookup name with
  | some p => if p.attributes.readOnly then (false, props) else (true, props.insert name { p with value })
  | none => (true, props.insert name ⟨value, {}⟩)

/-- `Parent::deleteProperty` on the own-property storage: a `DontDelete` property refuses. -/
def OwnProperties.delete (props : OwnProperties) (name : Name) : Bool × OwnProperties :=
  match props.lookup name with
  | some p => if p.attributes.dontDelete then (false, props) else (true, props.erase name)
  | none => (true, props)

/-- A generic `put` of another name leaves the own property `name` as it is. -/
theorem OwnProperties.put_lookup_ne {props : OwnProperties} {other name : Name}
    (hne : other ≠ name) (value : JSValue) :
    (props.put other value).2.lookup name = props.lookup name := by
  unfold OwnProperties.put
  split
  · split
    · rfl
    · exact AList.lookup_insert_ne hne.symm
  · exact AList.lookup_insert_ne hne.symm

/-- A generic delete of another name leaves the own property `name` as it is. -/
theorem OwnProperties.delete_lookup_ne {props : OwnProperties} {other name : Name}
    (hne : other ≠ name) : (props.delete other).2.lookup name = props.lookup name := by
  unfold OwnProperties.delete
  split
  · split
    · rfl
    · exact AList.lookup_erase_ne hne.symm
  · rfl

/-- A generic delete that succeeds leaves no own property of the name. -/
theorem OwnProperties.delete_lookup_of_true {props : OwnProperties} {name : Name}
    (h : (props.delete name).1 = true) : (props.delete name).2.lookup name = none := by
  unfold OwnProperties.delete at h ⊢
  cases hp : props.lookup name with
  | none => simp [hp]
  | some p => by_cases hd : p.attributes.dontDelete <;> simp_all

namespace Parent

/-- One operation of the generic object: its answer and the own properties it leaves. -/
def run (operation : ParentOperation) (f : World → α × OwnProperties) : Eng α := fun w =>
  let r := f w
  ⟨r.1, { w with props := r.2 }, [⟨.parent operation, w.locksHeld, r.2⟩]⟩

@[simp] theorem run_apply (operation : ParentOperation) (f : World → α × OwnProperties)
    (w : World) :
    run operation f w = ⟨(f w).1, { w with props := (f w).2 },
      [⟨.parent operation, w.locksHeld, (f w).2⟩]⟩ := rfl

/-- `Parent::getOwnPropertySlot`: the object's own property, if it has one. -/
def getOwnPropertySlot (name : Name) : Eng (Option Property) :=
  run (.getOwnPropertySlot name) fun w => (w.props.lookup name, w.props)

@[simp] theorem getOwnPropertySlot_apply (name : Name) (w : World) :
    getOwnPropertySlot name w =
      ⟨w.props.lookup name, w, [⟨.parent (.getOwnPropertySlot name), w.locksHeld, w.props⟩]⟩ := rfl

/-- `Parent::put`. -/
def put (name : Name) (value : JSValue) : Eng Bool :=
  run (.put name value) fun w => w.props.put name value

/-- `Parent::putByIndex`: an index is the own property named by its decimal spelling. -/
def putByIndex (index : UInt32) (value : JSValue) (shouldThrow : Bool) : Eng Bool :=
  run (.putByIndex index value shouldThrow) fun w => w.props.put (Identifier.fromIndex index) value

/-- `Parent::deleteProperty`. -/
def deleteProperty (name : Name) : Eng Bool :=
  run (.deleteProperty name) fun w => w.props.delete name

/-- `Parent::defaultValue`: the generic conversion, outside this core. Its
`OrdinaryToPrimitive` reads `toString` and `valueOf` through this object's own lookup and calls
what it finds; the model keeps only the conversion's answer, a field of the world, so no law
of this development speaks of what a conversion reads. -/
def defaultValue (hint : PreferredPrimitiveType) : Eng JSValue :=
  run (.defaultValue hint) fun w => (w.toPrimitive hint, w.props)

end Parent

/-! ## The chain walk -/

/-- `for (JSClassRef jsClass = classRef(); jsClass; jsClass = jsClass->parentClass) body`
followed by `after`: the first class whose body returns (answers `some`) decides the
operation, and `after` runs only when none does. -/
def walkChain (body : JSClass → Eng (Option α)) (after : Eng α) : List JSClass → Eng α
  | [] => after
  | jsClass :: parents => fun w =>
    let s := body jsClass w
    match s.result with
    | some a => ⟨a, s.world, s.events⟩
    | none =>
      let t := walkChain body after parents s.world
      ⟨t.result, t.world, s.events ++ t.events⟩

@[simp] theorem walkChain_nil (body : JSClass → Eng (Option α)) (after : Eng α) :
    walkChain body after [] = after := rfl

theorem walkChain_cons_of_some {body : JSClass → Eng (Option α)} {after : Eng α}
    {jsClass : JSClass} {parents : List JSClass} {w : World} {a : α}
    (h : (body jsClass w).result = some a) :
    walkChain body after (jsClass :: parents) w =
      ⟨a, (body jsClass w).world, (body jsClass w).events⟩ := by
  simp only [walkChain, h]

theorem walkChain_cons_of_none {body : JSClass → Eng (Option α)} {after : Eng α}
    {jsClass : JSClass} {parents : List JSClass} {w : World}
    (h : (body jsClass w).result = none) :
    walkChain body after (jsClass :: parents) w =
      ⟨(walkChain body after parents (body jsClass w).world).result,
        (walkChain body after parents (body jsClass w).world).world,
        (body jsClass w).events ++
          (walkChain body after parents (body jsClass w).world).events⟩ := by
  simp only [walkChain, h]

/-- What every body leaves when it answers, and the fallback leaves always, the walk
leaves. -/
theorem walkChain_answer {body : JSClass → Eng (Option α)} {after : Eng α}
    (P : α → World → Prop)
    (hbody : ∀ c w a, (body c w).result = some a → P a (body c w).world)
    (hafter : ∀ w, P (after w).result (after w).world) :
    ∀ chain w, P (walkChain body after chain w).result (walkChain body after chain w).world
  | [], w => hafter w
  | c :: cs, w => by
    cases hr : (body c w).result with
    | some a => rw [walkChain_cons_of_some hr]; exact hbody c w a hr
    | none => rw [walkChain_cons_of_none hr]; exact walkChain_answer P hbody hafter cs _

/-- What the first class's body records is recorded by the walk, whether it answers or not. -/
theorem mem_walkChain_cons_events {body : JSClass → Eng (Option α)} {after : Eng α}
    {jsClass : JSClass} {parents : List JSClass} {w : World} {x : Entry}
    (hx : x ∈ (body jsClass w).events) :
    x ∈ (walkChain body after (jsClass :: parents) w).events := by
  cases hr : (body jsClass w).result with
  | none => rw [walkChain_cons_of_none hr]; exact List.mem_append_left _ hx
  | some a => rw [walkChain_cons_of_some hr]; exact hx

/-- The walk of a body that does nothing at the classes `select` skips and answers at every
class it selects runs exactly the body of the FIRST selected class: the classes before it
are skipped without a trace, and nothing after it — `after` included — runs. -/
theorem walkChain_first {body : JSClass → Eng (Option α)} (after : Eng α)
    {select : JSClass → Option β}
    (hskip : ∀ c w, select c = none → body c w = ⟨none, w, []⟩)
    (hanswer : ∀ c w b, select c = some b → ((body c w).result).isSome)
    {chain : List JSClass} (hex : ∃ c ∈ chain, (select c).isSome) (w : World) :
    ∃ pre c post b a, chain = pre ++ c :: post ∧ (∀ d ∈ pre, select d = none) ∧
      select c = some b ∧ (body c w).result = some a ∧
      walkChain body after chain w = ⟨a, (body c w).world, (body c w).events⟩ := by
  induction chain with
  | nil => simp at hex
  | cons c cs ih =>
    cases hc : select c with
    | some b =>
      obtain ⟨a, ha⟩ := Option.isSome_iff_exists.mp (hanswer c w b hc)
      exact ⟨[], c, cs, b, a, rfl, by simp, hc, ha, walkChain_cons_of_some ha⟩
    | none =>
      have hrest : ∃ d ∈ cs, (select d).isSome := by simpa [hc] using hex
      obtain ⟨pre, d, post, b, a, rfl, hpre, hd, ha, hwalk⟩ := ih hrest
      have hbody := hskip c w hc
      refine ⟨c :: pre, d, post, b, a, rfl, List.forall_mem_cons.mpr ⟨hc, hpre⟩, hd, ha, ?_⟩
      rw [walkChain_cons_of_none (by rw [hbody]), hbody]
      simp only [hwalk, List.nil_append]

end JSC
