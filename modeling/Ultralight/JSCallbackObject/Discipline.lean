import Ultralight.JSCallbackObject.Trace
import Ultralight.JSCallbackObject.Property
import Ultralight.JSCallbackObject.Put
import Ultralight.JSCallbackObject.Invoke
import Ultralight.JSCallbackObject.Enumerate
import Ultralight.JSCallbackObject.Lifecycle

/-!
# The lock discipline

A host callback must run with the engine lock DROPPED — the host may re-enter the engine
from it — and everything else the core does (a table lookup, a throw, a store, the generic
object's operation, the return) must happen with the lock HELD. `Disciplined` is that law
for one operation; `Unlocked` is what the inside of a `JSLock::DropAllLocks` scope may do:
host calls only, with the lock dropped. Both are `Keeps` laws, so each operation's proof
follows its own blocks.

Every operation of the core keeps the discipline over every chain and every host, with one
exception: `defaultValue` calls `convertToType` in no `DropAllLocks` scope, so the host's
conversion runs with the lock held. Every other call site of the file has the scope.
-/

namespace JSC

/-- The lock discipline of one entry: a host call is made with the lock dropped, anything
else happens with it held. -/
def Entry.Disciplined (x : Entry) : Prop := x.locksHeld = !x.hostCall?.isSome

/-- What the inside of a `DropAllLocks` scope records: host calls, with the lock dropped. -/
def Entry.Unlocked (x : Entry) : Prop := x.locksHeld = false ∧ x.hostCall?.isSome

/-- The lock discipline of an operation: run with the lock held, it makes every host call
with the lock dropped, does everything else with the lock held, and returns holding it. -/
def Disciplined (m : Eng α) : Prop := Keeps (·.locksHeld = true) Entry.Disciplined m

/-- Host calls only, with the lock dropped throughout. -/
def Unlocked (m : Eng α) : Prop := Keeps (·.locksHeld = false) Entry.Unlocked m

/-! ## The primitives -/

theorem Unlocked.invoke (h : Host) (c : HostCall) : Unlocked (invoke h c) := fun w hw => by
  simp [hw, Entry.Unlocked, Entry.hostCall?]

namespace Disciplined

theorem emit {e : Event} (he : ∀ c r, e ≠ .call c r) : Disciplined (emit e) :=
  Keeps.emit fun w hw => by cases e <;> simp_all [Entry.Disciplined, Entry.hostCall?]

theorem throwException (exception : JSValue) : Disciplined (throwException exception) :=
  emit (by simp)

theorem throwIfRaised (reply : Reply) : Disciplined (throwIfRaised reply) :=
  Keeps.throwIfRaised reply fun _ _ hw => by simp [Entry.Disciplined, Entry.hostCall?, hw]

theorem answerValue (reply : Reply) (onThrow : α) (wrap : JSValue → α) :
    Disciplined (answerValue reply onThrow wrap) :=
  Keeps.answerValue reply onThrow wrap fun _ _ hw => by
    simp [Entry.Disciplined, Entry.hostCall?, hw]

/-- A `DropAllLocks` scope around host calls keeps the discipline: the lock is dropped for
them and taken back on the way out. -/
theorem dropAllLocks {m : Eng α} (hm : Unlocked m) : Disciplined (dropAllLocks m) :=
  fun w hw => by
    obtain ⟨-, he⟩ := hm { w with locksHeld := false } rfl
    refine ⟨by simpa using hw, fun x hx => ?_⟩
    obtain ⟨h₁, h₂⟩ := he x (by simpa using hx)
    simp [Entry.Disciplined, h₁, h₂]

theorem call (h : Host) (c : HostCall) : Disciplined (JSC.dropAllLocks (invoke h c)) :=
  dropAllLocks (Unlocked.invoke h c)

theorem run (operation : ParentOperation) (f : World → α × OwnProperties) :
    Disciplined (Parent.run operation f) := fun w hw => by
  simp [hw, Entry.Disciplined, Entry.hostCall?]

theorem putDirect (name : Name) (value : JSValue) (attributes : Attributes) :
    Disciplined (putDirect name value attributes) := fun w hw => by
  simp [hw, Entry.Disciplined, Entry.hostCall?]

theorem create (callback : Callback) (name : Name) :
    Disciplined (JSCallbackFunction.create callback name) := fun w hw => by
  simp [hw, Entry.Disciplined, Entry.hostCall?]

/-- The read primitives keep the discipline. -/
theorem readLaw (h : Host) : ReadLaw h (·.locksHeld = true) Entry.Disciplined :=
  ⟨fun _ _ _ => emit (by simp), throwException, call h, fun _ => run _ _⟩

end Disciplined

namespace JSCallbackObject

variable (h : Host)

/-! ## Reading -/

theorem staticFunctionGetter_disciplined (chain : List JSClass) (name : Name) :
    Disciplined (staticFunctionGetter chain name) := by
  refine Keeps.bind (Disciplined.run _ _) fun slot => ?_
  split
  · exact Keeps.pure _
  · refine Keeps.walkChain (fun c => ?_)
      (Keeps.bind (Disciplined.throwException _) fun _ => Keeps.pure _) chain
    refine Keeps.bind (Disciplined.emit (by simp)) fun _ => ?_
    split
    · exact Keeps.pure _
    · split
      · exact Keeps.pure _
      · exact Keeps.bind (Disciplined.create _ _) fun _ =>
          Keeps.bind (Disciplined.putDirect _ _ _) fun _ => Keeps.pure _

/-! ## Writing and deleting -/

theorem put_disciplined (chain : List JSClass) (name : Name) (value : JSValue) :
    Disciplined (put h chain name value) := by
  have hl := Disciplined.readLaw h
  refine Keeps.walkChain (fun c => Keeps.orElse (hl.putCallback _ _ c)
    (Keeps.orElse (hl.putStaticValue _ _ c) ?_)) (Disciplined.run _ _) chain
  refine Keeps.bind (Disciplined.emit (by simp)) fun _ => ?_
  split
  · exact Keeps.pure _
  · refine Keeps.bind (Disciplined.run _ _) fun slot => ?_
    split
    · exact Keeps.map _ (Disciplined.run _ _)
    · split
      · exact Keeps.pure _
      · exact Keeps.map _ (Disciplined.putDirect _ _ _)

theorem putByIndex_disciplined (chain : List JSClass) (propertyIndex : UInt32)
    (value : JSValue) (shouldThrow : Bool) :
    Disciplined (putByIndex h chain propertyIndex value shouldThrow) := by
  have hl := Disciplined.readLaw h
  refine Keeps.walkChain (fun c => Keeps.orElse (hl.putCallback _ _ c)
    (Keeps.orElse (hl.putByIndexStaticValue _ _ c) ?_)) (Disciplined.run _ _) chain
  refine Keeps.bind (Disciplined.emit (by simp)) fun _ => ?_
  split
  · exact Keeps.pure _
  · split
    · exact Keeps.pure _
    · exact Keeps.map _ (Disciplined.run _ _)

theorem deleteProperty_disciplined (chain : List JSClass) (name : Name) :
    Disciplined (deleteProperty h chain name) :=
  Keeps.walkChain (fun c => Keeps.orElse ((Disciplined.readLaw h).deletePropertyCallback _ c)
    (Keeps.orElse (Keeps.bind (Disciplined.emit (by simp)) fun _ => Keeps.pure _)
      (Keeps.bind (Disciplined.emit (by simp)) fun _ => Keeps.pure _))) (Disciplined.run _ _)
    chain

/-! ## Instance checks, calls, enumeration, initialization -/

theorem customHasInstance_disciplined (chain : List JSClass) (value : JSValue) :
    Disciplined (customHasInstance h chain value) := by
  refine Keeps.walkChain (fun c => ?_) (Keeps.pure _) chain
  unfold customHasInstanceStep
  split
  · exact Keeps.pure _
  · exact Keeps.bind (Disciplined.call h _) fun reply =>
      Keeps.bind (Disciplined.throwIfRaised reply) fun _ => Keeps.pure _

theorem releaseAssertNotReached_disciplined : Disciplined releaseAssertNotReached :=
  Keeps.bind (Disciplined.emit (by simp)) fun _ => Keeps.pure _

theorem call_disciplined (chain : List JSClass) (frame : CallFrame) :
    Disciplined (JSCallbackObject.call h chain frame) := by
  refine Keeps.walkChain (fun c => ?_) releaseAssertNotReached_disciplined chain
  unfold callStep
  split
  · exact Keeps.pure _
  · exact Keeps.bind (Disciplined.call h _) fun reply =>
      Keeps.bind (Disciplined.throwIfRaised reply) fun _ => Keeps.pure _

theorem construct_disciplined (chain : List JSClass) (frame : CallFrame) :
    Disciplined (construct h chain frame) := by
  refine Keeps.walkChain (fun c => ?_) releaseAssertNotReached_disciplined chain
  unfold constructStep
  split
  · exact Keeps.pure _
  · exact Keeps.bind (Disciplined.call h _) fun reply =>
      Keeps.bind (Disciplined.throwIfRaised reply) fun _ => Keeps.pure _

theorem getOwnNonIndexPropertyNames_disciplined (chain : List JSClass)
    (propertyNames : List Name) (mode : EnumerationMode) :
    Disciplined (getOwnNonIndexPropertyNames h chain propertyNames mode) := by
  refine Keeps.bind ?_ fun _ => Disciplined.run _ _
  induction chain generalizing propertyNames with
  | nil => exact Keeps.pure _
  | cons c cs ih =>
    refine Keeps.bind ?_ fun _ => ih _
    unfold getPropertyNamesStep
    split
    · exact Keeps.bind (Disciplined.call h _) fun _ => Keeps.pure _
    · exact Keeps.pure _

theorem initializeClass_disciplined (clazz : JSClass) :
    Disciplined (initializeClass h clazz) := by
  refine Disciplined.dropAllLocks ?_
  cases initializeCall clazz with
  | none => exact Keeps.pure _
  | some c => exact Keeps.bind (Unlocked.invoke h c) fun _ => Keeps.pure _

theorem init_disciplined (chain : List JSClass) : Disciplined (init h chain) := by
  suffices ∀ initRoutines i, Disciplined (initLoop h initRoutines i) from this _ _
  intro initRoutines i
  induction i with
  | zero => exact Keeps.pure _
  | succ i ih =>
    rw [initLoop]
    split
    · exact Keeps.bind (initializeClass_disciplined h _) fun _ => ih
    · exact Keeps.bind (Keeps.pure _) fun _ => ih

theorem get_disciplined (chain : List JSClass) (name : Name) :
    Disciplined (get h chain name) := by
  refine Keeps.bind ((Disciplined.readLaw h).getOwnPropertySlot chain name) fun slot => ?_
  split
  · exact Keeps.pure _
  · exact Keeps.pure _
  · exact Keeps.map _ ((Disciplined.readLaw h).callbackGetter chain name)
  · exact Keeps.map _ (staticFunctionGetter_disciplined chain name)

/-! ## `defaultValue` -/

/-- `defaultValue` calls the `convertToType` of a class at the head of the chain in whatever
lock state it was itself called in: there is no `DropAllLocks` scope around the call. -/
theorem defaultValue_calls_in_caller_lock {jsClass : JSClass} {cb : Callback}
    (hsel : pick jsClass.version jsClass.v0.convertToType jsClass.v1000.convertToTypeEx
      jsClass.id = some cb) (parents : List JSClass) (hint : PreferredPrimitiveType)
    (w : World) :
    ∃ x ∈ (defaultValue h (jsClass :: parents) hint w).events,
      x.hostCall?.isSome ∧ x.locksHeld = w.locksHeld := by
  have hstep : ∃ x ∈ (defaultValueStep h (if hint = .preferString then .string else .number)
      jsClass w).events, x.hostCall?.isSome ∧ x.locksHeld = w.locksHeld := by
    simp [defaultValueStep, hsel, Entry.hostCall?]
  obtain ⟨x, hx, hcall⟩ := hstep
  exact ⟨x, mem_walkChain_cons_events hx, hcall⟩

/-- The failing input's class: the original generation, with a `convertToType` and no other
callback. -/
def convertingClass : JSClass := { id := 1, version := 0, v0 := { convertToType := some 1 } }

/-- THE LOCK DISCIPLINE. Over every chain and every host, every read (the slot and both slot
getters), write, delete, instance check, call, construction, enumeration and initialization
makes each host call with the lock dropped, does everything else with the lock held, and
returns holding it. `defaultValue` does NOT: on an object whose class has a `convertToType`,
that callback runs with the lock held. -/
theorem lock_discipline (chain : List JSClass) (name : Name) (value : JSValue)
    (propertyIndex : UInt32) (shouldThrow : Bool) (frame : CallFrame)
    (propertyNames : List Name) (mode : EnumerationMode) :
    Disciplined (getOwnPropertySlot h chain name) ∧ Disciplined (callbackGetter h chain name) ∧
      Disciplined (staticFunctionGetter chain name) ∧ Disciplined (get h chain name) ∧
      Disciplined (put h chain name value) ∧
      Disciplined (putByIndex h chain propertyIndex value shouldThrow) ∧
      Disciplined (deleteProperty h chain name) ∧ Disciplined (customHasInstance h chain value) ∧
      Disciplined (JSCallbackObject.call h chain frame) ∧ Disciplined (construct h chain frame) ∧
      Disciplined (getOwnNonIndexPropertyNames h chain propertyNames mode) ∧
      Disciplined (init h chain) ∧
      ∀ hint, ¬ Disciplined (defaultValue h [convertingClass] hint) := by
  refine ⟨(Disciplined.readLaw h).getOwnPropertySlot chain name,
    (Disciplined.readLaw h).callbackGetter chain name,
    staticFunctionGetter_disciplined chain name, get_disciplined h chain name,
    put_disciplined h chain name value, putByIndex_disciplined h chain _ value shouldThrow,
    deleteProperty_disciplined h chain name, customHasInstance_disciplined h chain value,
    call_disciplined h chain frame, construct_disciplined h chain frame,
    getOwnNonIndexPropertyNames_disciplined h chain propertyNames mode, init_disciplined h chain,
    fun hint hd => ?_⟩
  obtain ⟨x, hx, hcall, hlock⟩ :=
    @defaultValue_calls_in_caller_lock h convertingClass _ rfl [] hint World.fresh
  have := (hd World.fresh rfl).2 x hx
  simp [Entry.Disciplined, hcall, hlock, World.fresh] at this

end JSCallbackObject

end JSC
