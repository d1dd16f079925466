import Ultralight.JSCallbackObject.Object

/-!
# Names no class claims: the object is a plain property store

A class takes over a name through its class-level callbacks and its static tables. For a
name that no class of the chain has a static entry for, and that the host's class-level
callbacks decline (they return null and false, raise nothing and change nothing), every
block of every class falls through, and each operation is the generic object's own
operation on the object as it was.

The abstract model is the generic object's property store: `Operation.storeStep` says what
an operation on a name does to a plain object's own properties. The core refines it: one
operation on such a name answers and stores exactly as the store does
(`unclaimed_name_is_plain`), and a whole run of operations on such names leaves the own
properties the store's run leaves (`performAll_simulates_store`).
-/

namespace JSC

/-- No class of the chain has a static value or a static function for the name. -/
def Unclaimed (chain : List JSClass) (name : Name) : Prop :=
  ∀ c ∈ chain, c.staticValue name = none ∧ c.staticFunction name = none

/-- The host declines every callback about `name`: it returns null and false, raises
nothing, and leaves the own properties as they are. -/
def Host.Declines (h : Host) (name : Name) : Prop :=
  ∀ c w, (c.args = .property name ∨ ∃ value, c.args = .put name value) → h c w = ({}, w.props)

/-- A block that falls through and leaves the own properties as they are. -/
def Declined (m : Eng (Option α)) : Prop :=
  ∀ w, (m w).result = none ∧ (m w).world.props = w.props

namespace Declined

theorem pure_none : Declined (pure none : Eng (Option α)) := fun _ => ⟨rfl, rfl⟩

theorem orElse {first next : Eng (Option α)} (h₁ : Declined first) (h₂ : Declined next) :
    Declined (first.orElse next) := fun w => by
  rw [Eng.orElse_of_none (h₁ w).1]
  exact ⟨(h₂ _).1, (h₂ _).2.trans (h₁ w).2⟩

theorem map_some {m : Eng (Option α)} (hm : Declined m) : Declined (Option.map some <$> m) :=
  fun w => by
    rw [Eng.map_apply, (hm w).1]
    exact ⟨rfl, (hm w).2⟩

/-- A declined host call, then what the code does with the empty reply. -/
theorem call {h : Host} {name : Name} (hd : h.Declines name) {c : HostCall}
    (hc : c.args = .property name ∨ ∃ value, c.args = .put name value)
    {k : Reply → Eng (Option α)} (hk : Declined (k {})) :
    Declined (dropAllLocks (invoke h c) >>= k) := fun w => by
  simp only [Eng.bind_result, Eng.bind_world, dropAllLocks_apply, invoke_apply, hd c _ hc]
  exact hk _

/-- A recorded event, then a block that falls through: a static table's lookup. -/
theorem emit_bind (e : Event) {m : Eng (Option α)} (hm : Declined m) :
    Declined (emit e >>= fun _ => m) := hm

/-- A walk whose every body falls through runs its fallback on a world with the own
properties it started with. -/
theorem walkChain {body : JSClass → Eng (Option α)} (after : Eng α) :
    ∀ chain : List JSClass, (∀ c ∈ chain, Declined (body c)) → ∀ w, ∃ w' : World,
      w'.props = w.props ∧ (JSC.walkChain body after chain w).result = (after w').result ∧
        (JSC.walkChain body after chain w).world = (after w').world
  | [], _, w => ⟨w, rfl, rfl, rfl⟩
  | c :: cs, hbody, w => by
    obtain ⟨hnone, hprops⟩ := hbody c (List.mem_cons_self _ _) w
    obtain ⟨w', hw', hres, hworld⟩ :=
      walkChain after cs (fun d hd => hbody d (List.mem_cons_of_mem _ hd)) (body c w).world
    rw [walkChain_cons_of_none hnone]
    exact ⟨w', hw'.trans hprops, hres, hworld⟩

end Declined

/-! ## The store -/

/-- What an operation on a name does to a plain object's own properties: a read changes
nothing; a write or a delete is the generic object's. -/
def Operation.storeStep : Operation → OwnProperties → OwnProperties
  | .put name value, props => (props.put name value).2
  | .putByIndex i value _, props => (props.put (Identifier.fromIndex i) value).2
  | .deleteProperty name, props => (props.delete name).2
  | .deletePropertyByIndex i, props => (props.delete (Identifier.fromIndex i)).2
  | _, props => props

namespace JSCallbackObject

section

variable {h : Host} {chain : List JSClass} {name : Name}

/-! ## Every block falls through -/

theorem getOwnPropertySlotCallback_declined (hd : h.Declines name) (jsClass : JSClass) :
    Declined (getOwnPropertySlotCallback h name jsClass) := by
  unfold getOwnPropertySlotCallback
  split
  · exact Declined.call hd (.inl rfl) Declined.pure_none
  · exact Declined.call hd (.inl rfl) Declined.pure_none
  · exact Declined.pure_none

theorem putCallback_declined (hd : h.Declines name) (value : JSValue) (jsClass : JSClass) :
    Declined (putCallback h name value jsClass) := by
  unfold putCallback
  split
  · exact Declined.pure_none
  · exact Declined.call hd (.inr ⟨value, rfl⟩) Declined.pure_none

theorem deletePropertyCallback_declined (hd : h.Declines name) (jsClass : JSClass) :
    Declined (deletePropertyCallback h name jsClass) := by
  unfold deletePropertyCallback
  split
  · exact Declined.pure_none
  · exact Declined.call hd (.inl rfl) Declined.pure_none

/-- Every class of the chain lets a read of the name fall through. -/
theorem getOwnPropertySlot_body_declined (hd : h.Declines name) (hu : Unclaimed chain name) :
    ∀ c ∈ chain, Declined (Option.map some <$> (getOwnPropertySlotCallback h name c).orElse
      ((getOwnPropertySlotStaticValue h chain name c).orElse
        (getOwnPropertySlotStaticFunction name c))) := fun c hc =>
  Declined.map_some <| (getOwnPropertySlotCallback_declined hd c).orElse <| Declined.orElse
    (by unfold getOwnPropertySlotStaticValue; rw [(hu c hc).1]; exact .emit_bind _ .pure_none)
    (by unfold getOwnPropertySlotStaticFunction; rw [(hu c hc).2]; exact .emit_bind _ .pure_none)

/-- Every class of the chain lets a write of the name fall through. -/
theorem put_body_declined (hd : h.Declines name) (hu : Unclaimed chain name) (value : JSValue) :
    ∀ c ∈ chain, Declined ((putCallback h name value c).orElse
      ((putStaticValue h name value c).orElse (putStaticFunction name value c))) := fun c hc =>
  (putCallback_declined hd value c).orElse <| Declined.orElse
    (by unfold putStaticValue; rw [(hu c hc).1]; exact .emit_bind _ .pure_none)
    (by unfold putStaticFunction; rw [(hu c hc).2]; exact .emit_bind _ .pure_none)

/-- Every class of the chain lets an indexed write of the name fall through. -/
theorem putByIndex_body_declined {i : UInt32} (hd : h.Declines (Identifier.fromIndex i))
    (hu : Unclaimed chain (Identifier.fromIndex i)) (value : JSValue) (shouldThrow : Bool) :
    ∀ c ∈ chain, Declined ((putCallback h (Identifier.fromIndex i) value c).orElse
      ((putByIndexStaticValue h (Identifier.fromIndex i) value c).orElse
        (putByIndexStaticFunction i value shouldThrow (Identifier.fromIndex i) c))) :=
  fun c hc => (putCallback_declined hd value c).orElse <| Declined.orElse
    (by unfold putByIndexStaticValue; rw [(hu c hc).1]; exact .emit_bind _ .pure_none)
    (by unfold putByIndexStaticFunction; rw [(hu c hc).2]; exact .emit_bind _ .pure_none)

/-- Every class of the chain lets a delete of the name fall through. -/
theorem deleteProperty_body_declined (hd : h.Declines name) (hu : Unclaimed chain name) :
    ∀ c ∈ chain, Declined ((deletePropertyCallback h name c).orElse
      ((deletePropertyStaticValue name c).orElse (deletePropertyStaticFunction name c))) :=
  fun c hc => (deletePropertyCallback_declined hd c).orElse <| Declined.orElse
    (by unfold deletePropertyStaticValue; rw [(hu c hc).1]; exact .emit_bind _ .pure_none)
    (by unfold deletePropertyStaticFunction; rw [(hu c hc).2]; exact .emit_bind _ .pure_none)

/-! ## Each operation is the store's -/

theorem getOwnPropertySlot_unclaimed (hd : h.Declines name) (hu : Unclaimed chain name)
    (w : World) :
    (getOwnPropertySlot h chain name w).result =
        (w.props.lookup name).map (fun p => .value p.attributes p.value) ∧
      (getOwnPropertySlot h chain name w).world.props = w.props := by
  obtain ⟨w', hw', hres, hworld⟩ :=
    Declined.walkChain (parentSlot name) chain (getOwnPropertySlot_body_declined hd hu) w
  rw [getOwnPropertySlot, hres, hworld, ← hw']
  exact ⟨rfl, rfl⟩

theorem get_unclaimed (hd : h.Declines name) (hu : Unclaimed chain name) (w : World) :
    (get h chain name w).result = (w.props.lookup name).map Property.value ∧
      (get h chain name w).world.props = w.props := by
  obtain ⟨hres, hprops⟩ := getOwnPropertySlot_unclaimed hd hu w
  simp only [get, Eng.bind_result, Eng.bind_world, hres]
  cases w.props.lookup name <;> exact ⟨rfl, hprops⟩

theorem put_unclaimed (hd : h.Declines name) (hu : Unclaimed chain name) (value : JSValue)
    (w : World) :
    (put h chain name value w).result = (w.props.put name value).1 ∧
      (put h chain name value w).world.props = (w.props.put name value).2 := by
  obtain ⟨w', hw', hres, hworld⟩ := Declined.walkChain (Parent.put name value) chain
    (put_body_declined hd hu value) w
  rw [put, hres, hworld, ← hw']
  exact ⟨rfl, rfl⟩

theorem putByIndex_unclaimed {i : UInt32} (hd : h.Declines (Identifier.fromIndex i))
    (hu : Unclaimed chain (Identifier.fromIndex i)) (value : JSValue) (shouldThrow : Bool)
    (w : World) :
    (putByIndex h chain i value shouldThrow w).world.props =
      (w.props.put (Identifier.fromIndex i) value).2 := by
  obtain ⟨w', hw', -, hworld⟩ := Declined.walkChain
    (Parent.putByIndex i value shouldThrow) chain
    (putByIndex_body_declined hd hu value shouldThrow) w
  rw [putByIndex, hworld, ← hw']
  rfl

theorem deleteProperty_unclaimed (hd : h.Declines name) (hu : Unclaimed chain name)
    (w : World) :
    (deleteProperty h chain name w).result = (w.props.delete name).1 ∧
      (deleteProperty h chain name w).world.props = (w.props.delete name).2 := by
  obtain ⟨w', hw', hres, hworld⟩ := Declined.walkChain (Parent.deleteProperty name)
    chain (deleteProperty_body_declined hd hu) w
  rw [deleteProperty, hres, hworld, ← hw']
  exact ⟨rfl, rfl⟩

end

/-- TRANSPARENCY. For every chain, host and object state: on a name no class of the chain
has a static entry for, with the host's callbacks about it declining, the callback object
is the generic object. Its slot is the own property with the property's own attributes
(not the `ReadOnly | DontEnum` a class stamps), a read returns the own value and changes
nothing, and a write and a delete answer and store exactly as the generic object's. -/
theorem unclaimed_name_is_plain (h : Host) (chain : List JSClass) (name : Name)
    (hu : Unclaimed chain name) (hd : h.Declines name) (value : JSValue) (w : World) :
    (getOwnPropertySlot h chain name w).result =
        (w.props.lookup name).map (fun p => .value p.attributes p.value) ∧
      (get h chain name w).result = (w.props.lookup name).map Property.value ∧
      (get h chain name w).world.props = w.props ∧
      (put h chain name value w).result = (w.props.put name value).1 ∧
      (put h chain name value w).world.props = (w.props.put name value).2 ∧
      (deleteProperty h chain name w).result = (w.props.delete name).1 ∧
      (deleteProperty h chain name w).world.props = (w.props.delete name).2 :=
  ⟨(getOwnPropertySlot_unclaimed hd hu w).1, (get_unclaimed hd hu w).1,
    (get_unclaimed hd hu w).2, (put_unclaimed hd hu value w).1, (put_unclaimed hd hu value w).2,
    deleteProperty_unclaimed hd hu w⟩

/-- `legacyFunctionClass` claims only `f`. -/
theorem legacyFunctionClass_unclaimed {name : Name} (hname : name ≠ "f") :
    Unclaimed [legacyFunctionClass] name := fun c hc => by
  obtain rfl := List.mem_singleton.mp hc
  simp [legacyFunctionClass, JSClass.staticValue, JSClass.staticFunction, List.lookup_cons,
    beq_false_of_ne hname]

/-- A silent host on a chain with only the static function `f`: `x` is the generic
object's. -/
theorem unclaimed_x_is_plain :
    Unclaimed [legacyFunctionClass] "x" ∧ Host.silent.Declines "x" ∧
      (get Host.silent [legacyFunctionClass] "x" World.fresh).result = none :=
  ⟨legacyFunctionClass_unclaimed (by decide), fun _ _ _ => rfl,
    (unclaimed_name_is_plain Host.silent [legacyFunctionClass] "x"
      (legacyFunctionClass_unclaimed (by decide)) (fun _ _ _ => rfl) (.number 1) World.fresh).2.1⟩

end JSCallbackObject

/-! ## Whole runs -/

/-- One operation on a name no class claims, with the host declining, stores what the store
stores. -/
theorem Operation.perform_storeStep {h : Host} {chain : List JSClass} {name : Name}
    (hd : h.Declines name) (hu : Unclaimed chain name) (op : Operation)
    (hop : op.name? = some name) (w : World) :
    (op.perform h chain w).world.props = op.storeStep w.props := by
  cases op with
  | getOwnPropertySlot n =>
    cases hop
    exact (JSCallbackObject.getOwnPropertySlot_unclaimed hd hu w).2
  | getOwnPropertySlotByIndex i =>
    cases hop
    exact (JSCallbackObject.getOwnPropertySlot_unclaimed hd hu w).2
  | get n =>
    cases hop
    exact (JSCallbackObject.get_unclaimed hd hu w).2
  | put n value =>
    cases hop
    exact (JSCallbackObject.put_unclaimed hd hu value w).2
  | putByIndex i value shouldThrow =>
    cases hop
    exact JSCallbackObject.putByIndex_unclaimed hd hu value shouldThrow w
  | deleteProperty n =>
    cases hop
    exact (JSCallbackObject.deleteProperty_unclaimed hd hu w).2
  | deletePropertyByIndex i =>
    cases hop
    exact (JSCallbackObject.deleteProperty_unclaimed hd hu w).2
  | defaultValue | customHasInstance | call | construct | getOwnNonIndexPropertyNames =>
    cases hop

/-- SIMULATION. For every chain, host and object state: a run of operations each on a name no
class of the chain claims and the host declines leaves the own properties the store's run
leaves. -/
theorem performAll_simulates_store (h : Host) (chain : List JSClass) :
    ∀ (run : List Operation) (w : World),
      (∀ op ∈ run, ∃ name, op.name? = some name ∧ Unclaimed chain name ∧ h.Declines name) →
      (Operation.performAll h chain run w).world.props =
        run.foldl (fun props op => op.storeStep props) w.props
  | [], _, _ => rfl
  | op :: run, w, hrun => by
    obtain ⟨name, hop, hu, hd⟩ := hrun op (List.mem_cons_self _ _)
    simp only [Operation.performAll, Eng.bind_world, List.foldl_cons]
    rw [← Operation.perform_storeStep hd hu op hop w]
    exact performAll_simulates_store h chain run _ fun op' hop' =>
      hrun op' (List.mem_cons_of_mem _ hop')

/-- A write, a read, a delete and an indexed write, each on a name `legacyFunctionClass`
does not claim. -/
theorem performAll_simulates_store_plain :
    (∀ op ∈ [Operation.put "x" (.number 1), .get "x", .deleteProperty "x",
        .putByIndex 3 (.number 2) false],
      ∃ name, op.name? = some name ∧ Unclaimed [JSCallbackObject.legacyFunctionClass] name ∧
        Host.silent.Declines name) ∧
    (Operation.performAll Host.silent [JSCallbackObject.legacyFunctionClass]
        [.put "x" (.number 1), .get "x", .deleteProperty "x", .putByIndex 3 (.number 2) false]
        World.fresh).world.props =
      [Operation.put "x" (.number 1), .get "x", .deleteProperty "x",
        .putByIndex 3 (.number 2) false].foldl (fun props op => op.storeStep props)
        World.fresh.props :=
  have hrun : ∀ op ∈ [Operation.put "x" (.number 1), .get "x", .deleteProperty "x",
      .putByIndex 3 (.number 2) false],
      ∃ name, op.name? = some name ∧ Unclaimed [JSCallbackObject.legacyFunctionClass] name ∧
        Host.silent.Declines name := by
    simp only [List.mem_cons, List.mem_singleton, List.not_mem_nil, or_false]
    rintro op (rfl | rfl | rfl | rfl) <;>
      exact ⟨_, rfl, JSCallbackObject.legacyFunctionClass_unclaimed (by decide),
        fun _ _ _ => rfl⟩
  ⟨hrun, performAll_simulates_store Host.silent [JSCallbackObject.legacyFunctionClass] _ _ hrun⟩

end JSC
