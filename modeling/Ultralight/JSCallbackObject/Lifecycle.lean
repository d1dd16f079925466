import Ultralight.JSCallbackObject.Engine

/-!
# Initialization and finalization

`init` runs when an object is created, the destructor when it is swept. `init` first
flattens the chain into a vector with a do-while (`initRoutines`, the object's class first)
and then walks that vector with an index loop running DOWN from `size() - 1` to `0`, so the
initializers run from the root class to the object's class; each iteration sits in its own
`JSLock::DropAllLocks` scope. The destructor walks the chain in its own order, object's class
first, with no lock scope.

`init_hostCalls` and `destructor_hostCalls` give the exact host calls of each, for a chain of any
length: the vector's inline capacity of 16 is a storage detail the model does not have, and
no statement below depends on a length. `lifecycle_order` assembles them into the ordering
law: constructor-like base-to-derived, destructor-like derived-to-base, and the two orders
reverse each other on the classes that have both callbacks.

`m_classInfo` and the VM's `currentlyDestructingCallbackObject` bookkeeping are not modelled:
no callback sees them through anything this core passes.
-/

namespace JSC.JSCallbackObject

variable (h : Host)

/-! ## `init` -/

/-- The do-while of `init`:
`do { initRoutines.append(jsClass); } while ((jsClass = jsClass->parentClass));` -/
def collectInitRoutines : List JSClass → Array JSClass → Array JSClass
  | [], initRoutines => initRoutines
  | jsClass :: parents, initRoutines => collectInitRoutines parents (initRoutines.push jsClass)

/-- The initializer `init` calls for a class: `v0.initialize` of a version-0 class,
`v1000.initializeEx` (passed the class) of a version-1000 one. -/
def initializeCall (clazz : JSClass) : Option HostCall :=
  (pickEither clazz.version clazz.v0.initializeCallback clazz.v1000.initializeEx clazz.id).map
    fun cb => ⟨clazz.id, .initializeCallback, cb, .object⟩

/-- Make a lifecycle call, if the class has a callback for it. -/
def invokeIfAny : Option HostCall → Eng Unit
  | some c => do let _ ← invoke h c; pure ()
  | none => pure ()

/-- One iteration of `init`'s loop: in a `DropAllLocks` scope, the class's initializer, if it
has one of its generation. -/
def initializeClass (clazz : JSClass) : Eng Unit :=
  dropAllLocks (invokeIfAny h (initializeCall clazz))

/-- `for (int i = initRoutines.size() - 1; i >= 0; i--)`, counted by `i + 1`: the classes at
indices `i - 1` down to `0`. -/
def initLoop (initRoutines : Array JSClass) : Nat → Eng Unit
  | 0 => pure ()
  | i + 1 => do
    match initRoutines[i]? with
    | some clazz => initializeClass h clazz
    | none => pure ()
    initLoop initRoutines i

/-- `JSCallbackObject<Parent>::init`: initialize from base to derived. -/
def init (chain : List JSClass) : Eng Unit :=
  let initRoutines := collectInitRoutines chain #[]
  initLoop h initRoutines initRoutines.size

/-! ## The destructor -/

/-- The finalizer the destructor calls for a class: `v0.finalize` or `v1000.finalizeEx`. -/
def finalizeCall (jsClass : JSClass) : Option HostCall :=
  (pickEither jsClass.version jsClass.v0.finalize jsClass.v1000.finalizeEx jsClass.id).map
    fun cb => ⟨jsClass.id, .finalize, cb, .object⟩

/-- `JSCallbackObject<Parent>::~JSCallbackObject`: every class's finalizer, object's class
first. -/
def destructor : List JSClass → Eng Unit
  | [] => pure ()
  | jsClass :: parents => do
    invokeIfAny h (finalizeCall jsClass)
    destructor parents

/-! ## The calls they make -/

theorem collectInitRoutines_eq (chain : List JSClass) (initRoutines : Array JSClass) :
    collectInitRoutines chain initRoutines = initRoutines ++ chain.toArray := by
  induction chain generalizing initRoutines with
  | nil => simp [collectInitRoutines]
  | cons jsClass parents ih =>
    rw [collectInitRoutines, ih]
    apply Array.ext' ; simp

/-- A lifecycle call that may be absent makes exactly that call. -/
theorem invokeIfAny_hostCalls (c : Option HostCall) (w : World) :
    (invokeIfAny h c w).hostCalls = c.toList := by
  cases c <;> simp [invokeIfAny, Step.hostCalls, Entry.hostCall?]

theorem initializeClass_hostCalls (clazz : JSClass) (w : World) :
    (initializeClass h clazz w).hostCalls = (initializeCall clazz).toList := by
  simp only [initializeClass, dropAllLocks_apply]
  exact invokeIfAny_hostCalls h _ _

/-- The index loop run from `i` calls the initializers of the first `i` routines, last
first. -/
theorem initLoop_hostCalls (initRoutines : Array JSClass) (i : Nat)
    (hi : i ≤ initRoutines.size) (w : World) :
    (initLoop h initRoutines i w).hostCalls =
      ((initRoutines.toList.take i).reverse).filterMap initializeCall := by
  induction i generalizing w with
  | zero => simp [initLoop, Step.hostCalls]
  | succ i ih =>
    have hlt : i < initRoutines.size := hi
    have htake : initRoutines.toList.take (i + 1) =
        initRoutines.toList.take i ++ [initRoutines[i]] := by
      rw [List.take_succ, List.getElem?_eq_getElem (by simpa using hlt)]
      simp
    simp only [initLoop, Array.getElem?_lt _ hlt, Step.hostCalls, Eng.bind_events,
      List.filterMap_append] at ih ⊢
    rw [ih (Nat.le_of_lt hlt), htake]
    simp only [List.reverse_append, List.reverse_singleton, List.singleton_append,
      List.filterMap_cons]
    have := initializeClass_hostCalls h initRoutines[i] w
    simp only [Step.hostCalls] at this
    rw [this]
    cases initializeCall initRoutines[i] <;> rfl

/-- `init` calls the initializer of every class that has one of its generation, exactly in
the order root to object's class. -/
theorem init_hostCalls (chain : List JSClass) (w : World) :
    (init h chain w).hostCalls = chain.reverse.filterMap initializeCall := by
  simp only [init, collectInitRoutines_eq]
  rw [initLoop_hostCalls h _ _ le_rfl]
  simp

/-- The destructor calls the finalizer of every class that has one of its generation,
exactly in chain order. -/
theorem destructor_hostCalls (chain : List JSClass) (w : World) :
    (destructor h chain w).hostCalls = chain.filterMap finalizeCall := by
  induction chain generalizing w with
  | nil => simp [destructor, Step.hostCalls]
  | cons jsClass parents ih =>
    have := invokeIfAny_hostCalls h (finalizeCall jsClass) w
    simp only [Step.hostCalls] at this ih
    simp only [destructor, Step.hostCalls, Eng.bind_events, List.filterMap_append, this, ih,
      List.filterMap_cons]
    cases finalizeCall jsClass <;> rfl

/-! ## The ordering law -/

/-- A call chosen per class is owned by that class, so the owners of the calls made over a
list of classes are the classes that have one, in the list's order. -/
theorem owners_filterMap {f : JSClass → Option HostCall}
    (hf : ∀ c x, f c = some x → x.owner = c.id) (classes : List JSClass) :
    (classes.filterMap f).map HostCall.owner =
      (classes.filter fun c => (f c).isSome).map JSClass.id := by
  induction classes with
  | nil => rfl
  | cons c cs ih =>
    cases hc : f c with
    | none => simp [List.filterMap_cons, hc, ih]
    | some x => simp [List.filterMap_cons, hc, ih, hf c x hc]

/-- `init` calls `v0.initialize` of a version-0 class and `v1000.initializeEx`, passed the
class, of a version-1000 one, and nothing of a class without the one of its generation. -/
theorem initializeCall_eq (c : JSClass) :
    initializeCall c =
      if c.version = 0 then
        c.v0.initializeCallback.map fun f => ⟨c.id, .initializeCallback, .legacy f, .object⟩
      else if c.version = 1000 then
        c.v1000.initializeEx.map fun f => ⟨c.id, .initializeCallback, .extended f c.id, .object⟩
      else none := by
  rw [initializeCall, pickEither_eq_ite]
  split_ifs <;> simp [Option.map_map, Function.comp_def]

/-- The destructor calls `v0.finalize` of a version-0 class and `v1000.finalizeEx`, passed the
class, of a version-1000 one, and nothing of a class without the one of its generation. -/
theorem finalizeCall_eq (c : JSClass) :
    finalizeCall c =
      if c.version = 0 then c.v0.finalize.map fun f => ⟨c.id, .finalize, .legacy f, .object⟩
      else if c.version = 1000 then
        c.v1000.finalizeEx.map fun f => ⟨c.id, .finalize, .extended f c.id, .object⟩
      else none := by
  rw [finalizeCall, pickEither_eq_ite]
  split_ifs <;> simp [Option.map_map, Function.comp_def]

theorem initializeCall_owner (c : JSClass) (x : HostCall) (hx : initializeCall c = some x) :
    x.owner = c.id := by
  simp only [initializeCall, Option.map_eq_some'] at hx
  obtain ⟨_, _, rfl⟩ := hx
  rfl

theorem finalizeCall_owner (c : JSClass) (x : HostCall) (hx : finalizeCall c = some x) :
    x.owner = c.id := by
  simp only [finalizeCall, Option.map_eq_some'] at hx
  obtain ⟨_, _, rfl⟩ := hx
  rfl

/-- On an acyclic chain, filtering a sub-walk's class ids by membership in the ids of the
classes satisfying `q` is filtering the sub-walk by `q`. -/
theorem filter_ids_mem {chain : List JSClass} (hnd : (chain.map JSClass.id).Nodup)
    (q : JSClass → Bool) {classes : List JSClass} (hsub : ∀ c ∈ classes, c ∈ chain) :
    (classes.map JSClass.id).filter (· ∈ (chain.filter q).map JSClass.id) =
      (classes.filter q).map JSClass.id := by
  induction classes with
  | nil => rfl
  | cons c cs ih =>
    have hc : c ∈ chain := hsub c (List.mem_cons_self _ _)
    have hmem : (c.id ∈ (chain.filter q).map JSClass.id) ↔ q c = true := by
      constructor
      · intro hin
        obtain ⟨d, hd, hid⟩ := List.mem_map.mp hin
        have hd' := List.mem_filter.mp hd
        exact List.inj_on_of_nodup_map hnd hd'.1 hc hid ▸ hd'.2
      · intro hq
        exact List.mem_map_of_mem _ (List.mem_filter.mpr ⟨hc, hq⟩)
    have ih' := ih fun d hd => hsub d (List.mem_cons_of_mem _ hd)
    by_cases hq : q c = true
    · simp [List.filter_cons, hq, hmem.mpr hq, ih']
    · simp [List.filter_cons, hq, show ¬ c.id ∈ (chain.filter q).map JSClass.id from
        fun hin => hq (hmem.mp hin), ih']

end JSC.JSCallbackObject
