import Ultralight.JSCallbackObject.Resolution
import Ultralight.JSCallbackObject.Enumerate

/-!
# What a slot reports against what enumeration lists

Enumeration reads each static entry's declared attributes: in the default mode it lists a
static name exactly when the entry is not `DontEnum` (and, for a static value, has a getter
of its generation). `getOwnPropertySlot` reads NO entry's attributes. It is the resolution of
its blocks, class after class — the class-level callback, the static value, the static
function — and every slot a block fills is stamped `ReadOnly | DontEnum`. The generic
object's lookup, the one slot with attributes of its own, runs only when every block has
declined.

So the two views disagree on every enumerable static name the chain resolves: enumeration
lists it, and its slot says it is not enumerable.
-/

namespace JSC.JSCallbackObject

variable (h : Host)

/-! ## Enumeration lists every admitted static name -/

/-- Enumeration lists every static name some class of the chain admits: the walk adds it
(`getOwnNonIndexPropertyNamesLoop_spec`), and the generic object's names only extend the
walk's. -/
theorem mem_getOwnNonIndexPropertyNames (chain : List JSClass) (propertyNames : List Name)
    (mode : EnumerationMode) (n : Name) (w : World) (hlisted : StaticallyListed chain mode n) :
    n ∈ (getOwnNonIndexPropertyNames h chain propertyNames mode w).result := by
  simp only [getOwnNonIndexPropertyNames, Parent.getOwnNonIndexPropertyNames, Eng.bind_result,
    Parent.run_apply]
  exact (extends_foldl (fun names (e : (_ : Name) × Property) => extends_add names e.1) _ _).subset
    (((getOwnNonIndexPropertyNamesLoop_spec h mode chain propertyNames w).2 n).2
      (.inr (.inr hlisted)))

/-! ## Every slot a block fills is `ReadOnly | DontEnum` -/

/-- The blocks `getOwnPropertySlot` consults, class after class: the class-level callback,
the static value, the static function. -/
def slotBlocks (chain : List JSClass) (name : Name) : List (Eng (Option PropertySlot)) :=
  chain.flatMap fun c => [getOwnPropertySlotCallback h name c,
    getOwnPropertySlotStaticValue h chain name c, getOwnPropertySlotStaticFunction name c]

/-- The lookup is the resolution of its blocks: the first that fills a slot decides, and the
generic object's own lookup runs only when every block declines. -/
theorem getOwnPropertySlot_eq_firstAnswer (chain : List JSClass) (name : Name) :
    getOwnPropertySlot h chain name =
      firstAnswer (parentSlot name) ((slotBlocks h chain name).map (Option.map some <$> ·)) := by
  simp only [getOwnPropertySlot, slotBlocks, Eng.map_some_orElse, List.map_flatMap,
    List.map_cons, List.map_nil]
  exact walkChain_blocks_eq_firstAnswer _ _ _ _ chain

theorem getOwnPropertySlotCallback_readOnlyDontEnum (name : Name) (jsClass : JSClass)
    (w : World) (slot : PropertySlot)
    (hs : (getOwnPropertySlotCallback h name jsClass w).result = some slot) :
    slot.attributes = .readOnlyDontEnum := by
  unfold getOwnPropertySlotCallback at hs
  revert hs
  cases pick jsClass.version jsClass.v0.hasProperty jsClass.v1000.hasPropertyEx jsClass.id <;>
    cases pick jsClass.version jsClass.v0.getProperty jsClass.v1000.getPropertyEx jsClass.id <;>
    simp
  · split
    · rintro ⟨⟩; rfl
    · rw [Option.map_eq_some']; rintro ⟨_, -, rfl⟩; rfl
  all_goals rintro - rfl; rfl

theorem getOwnPropertySlotStaticValue_readOnlyDontEnum (chain : List JSClass) (name : Name)
    (jsClass : JSClass) (w : World) (slot : PropertySlot)
    (hs : (getOwnPropertySlotStaticValue h chain name jsClass w).result = some slot) :
    slot.attributes = .readOnlyDontEnum := by
  simp only [getOwnPropertySlotStaticValue, Eng.bind_result, emit_apply] at hs
  split at hs
  · simp only [Eng.bind_result, Eng.pure_apply, Option.map_eq_some'] at hs
    obtain ⟨_, -, rfl⟩ := hs
    rfl
  · cases hs

theorem getOwnPropertySlotStaticFunction_readOnlyDontEnum (name : Name) (jsClass : JSClass)
    (w : World) (slot : PropertySlot)
    (hs : (getOwnPropertySlotStaticFunction name jsClass w).result = some slot) :
    slot.attributes = .readOnlyDontEnum := by
  simp only [getOwnPropertySlotStaticFunction, Eng.bind_result, emit_apply, Eng.pure_apply] at hs
  split at hs <;> cases hs
  rfl

/-- Whatever block fills the slot, it is `ReadOnly | DontEnum`. -/
theorem slotBlocks_readOnlyDontEnum (chain : List JSClass) (name : Name) :
    ∀ block ∈ slotBlocks h chain name, ∀ w slot, (block w).result = some slot →
      slot.attributes = .readOnlyDontEnum := by
  intro block hb
  simp only [slotBlocks, List.mem_flatMap, List.mem_cons, List.not_mem_nil, or_false] at hb
  obtain ⟨c, -, rfl | rfl | rfl⟩ := hb
  exacts [getOwnPropertySlotCallback_readOnlyDontEnum h name c,
    getOwnPropertySlotStaticValue_readOnlyDontEnum h chain name c,
    getOwnPropertySlotStaticFunction_readOnlyDontEnum name c]

/-- THE ATTRIBUTES OF A SLOT. Enumeration lists every static name a class of the chain admits
in the mode asked for. The lookup of any name is the resolution of its blocks, class after
class, the generic object's own lookup running only when every block declines; and every
slot a block fills is `ReadOnly | DontEnum` — the entry's declared attributes play no part. -/
theorem slot_attributes_against_enumeration (chain : List JSClass) (name : Name)
    (propertyNames : List Name) (mode : EnumerationMode) (w : World) :
    (StaticallyListed chain mode name →
      name ∈ (getOwnNonIndexPropertyNames h chain propertyNames mode w).result) ∧
    getOwnPropertySlot h chain name =
      firstAnswer (parentSlot name) ((slotBlocks h chain name).map (Option.map some <$> ·)) ∧
    ∀ block ∈ slotBlocks h chain name, ∀ w' slot, (block w').result = some slot →
      slot.attributes = .readOnlyDontEnum :=
  ⟨mem_getOwnNonIndexPropertyNames h chain propertyNames mode name w,
    getOwnPropertySlot_eq_firstAnswer h chain name, slotBlocks_readOnlyDontEnum h chain name⟩

/-- A class of the original generation with one static function, `f`, neither read-only nor
`DontEnum`. -/
def enumerableFunctionClass : JSClass :=
  { id := 5, version := 0,
    staticFunctions := [("f", { version := 0, v0 := { callAsFunction := some 13 } })] }

/-- The two views disagree: the default enumeration lists `f`, and the slot of `f` is
`ReadOnly | DontEnum` though its entry is neither. -/
theorem enumerable_static_slot_is_dontEnum :
    "f" ∈ (getOwnNonIndexPropertyNames Host.silent [enumerableFunctionClass] [] ⟨false⟩
        World.fresh).result ∧
      (getOwnPropertySlot Host.silent [enumerableFunctionClass] "f" World.fresh).result =
        some (.custom .readOnlyDontEnum .staticFunctionGetter) := by
  refine ⟨mem_getOwnNonIndexPropertyNames Host.silent _ _ _ _ _
    ⟨_, List.mem_singleton_self _, .inr ⟨_, List.mem_singleton_self _, rfl, rfl⟩⟩, ?_⟩
  simp [getOwnPropertySlot, getOwnPropertySlotCallback, getOwnPropertySlotStaticValue,
    getOwnPropertySlotStaticFunction, enumerableFunctionClass, JSClass.staticValue,
    JSClass.staticFunction, walkChain, Eng.orElse]

end JSC.JSCallbackObject
