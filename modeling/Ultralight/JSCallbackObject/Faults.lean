import Ultralight.JSCallbackObject.Put

/-!
# Where the two writes part

`put` and `putByIndex` are two copies of one walk. This module says where they agree and
where they do not.

The static-value branch of BOTH copies is guarded by the CLASS-level setter locals, not by
the entry: `(entry->version == 0 && setProperty) || (entry->version == 1000 &&
setPropertyEx)`. Behind the guard, `put` reads the entry's setter from `entry->v0` whatever
the entry's version, and `putByIndex` calls the class's setter a second time. So an entry's
own setter runs only when its class also has a class-level setter of the same generation,
and an Extended entry's `setPropertyEx` never runs at all (`put_skips_entry_setter`).

Away from that branch the copies run in LOCKSTEP (`putByIndex_matches_put`): the same host
calls, in the same order, with the same arguments, and the same answer — except at a
read-only static-function entry reached while the object already has an own property of
the name. There `put` lets the generic `put` decide (the own property is a cached callable
or an override), while `putByIndex` looks at the entry's `ReadOnly` flag first and refuses.
-/

namespace JSC.JSCallbackObject

variable (h : Host)

/-! ## The static-value setter -/

/-- A class of the original generation with no class-level setter, whose static value `x`
is writable and has a setter of its own. -/
def legacyEntryClass : JSClass :=
  { id := 1, version := 0, staticValues := [("x", { version := 0, v0 := { setProperty := some 7 } })] }

/-- A class of the Extended generation with a class-level `setPropertyEx`, whose static
value `x` is an Extended entry with a `setPropertyEx` of its own. -/
def extendedEntryClass : JSClass :=
  { id := 2, version := 1000, v1000 := { setPropertyEx := some 8 },
    staticValues := [("x", { version := 1000, v1000 := { setPropertyEx := some 9 } })] }

/-- The entry's own setter is never called. On `legacyEntryClass`, `put` makes no host call
at all and stores `x` as an own property of the object; on `extendedEntryClass`, with a host
whose class-level setter declines, the only call is to that class-level setter. -/
theorem put_skips_entry_setter (value : JSValue) :
    (put h [legacyEntryClass] "x" value World.fresh).hostCalls = [] ∧
      (put h [legacyEntryClass] "x" value World.fresh).result = true ∧
      (put h [legacyEntryClass] "x" value World.fresh).world.props.lookup "x" =
        some ⟨value, {}⟩ ∧
      (put Host.silent [extendedEntryClass] "x" value World.fresh).hostCalls =
        [⟨2, .setProperty, .extended 8 2, .put "x" value⟩] :=
  ⟨rfl, rfl, rfl, rfl⟩

/-! ## `putByIndex` against `put` -/

/-- Two runs in lockstep: the same host calls, and either the same answer in the same world
or answers and worlds that `diverge` relates. -/
def Lockstep (diverge : α × World → α × World → Prop) (byIndex byName : Step α) : Prop :=
  byIndex.hostCalls = byName.hostCalls ∧
    ((byIndex.result = byName.result ∧ byIndex.world = byName.world) ∨
      diverge (byIndex.result, byIndex.world) (byName.result, byName.world))

/-- Where the two writes part: a read-only static-function entry of the class for the name,
reached while the object has an own property of the name. `putByIndex` refuses, and `put`
answers what the generic `put` of the value answers on those own properties and leaves the
object as that `put` leaves it. -/
def ReadOnlyOverride (jsClass : JSClass) (name : Name) (value : JSValue)
    (byIndex byName : Bool × World) : Prop :=
  (∃ entry, jsClass.staticFunction name = some entry ∧ entry.attributes.readOnly = true) ∧
    (byIndex.2.props.lookup name).isSome ∧ byIndex.1 = false ∧
    byName = ((byIndex.2.props.put name value).1,
      { byIndex.2 with props := (byIndex.2.props.put name value).2 })

/-- The blocks of one class answer in lockstep when the class-level callback is the same and
the rest answers in lockstep from every world. -/
theorem Lockstep.orElse {diverge : Option α × World → Option α × World → Prop}
    {first next₁ next₂ : Eng (Option α)}
    (hnext : ∀ w, Lockstep diverge (next₁ w) (next₂ w)) (w : World) :
    Lockstep diverge (first.orElse next₁ w) (first.orElse next₂ w) := by
  cases hr : (first w).result with
  | some a =>
    rw [Eng.orElse_of_some hr, Eng.orElse_of_some hr]
    exact ⟨rfl, .inl ⟨rfl, rfl⟩⟩
  | none =>
    obtain ⟨hc, hrw⟩ := hnext (first w).world
    rw [Eng.orElse_of_none hr, Eng.orElse_of_none hr]
    refine ⟨?_, hrw⟩
    simpa [Step.hostCalls] using hc

/-- Two walks whose bodies answer in lockstep at every class, and whose fallbacks agree, run
in lockstep; where they diverge, some class of the chain made them. -/
theorem Lockstep.walkChain {body₁ body₂ : JSClass → Eng (Option α)}
    {after₁ after₂ : Eng α}
    {diverge : JSClass → α × World → α × World → Prop} :
    ∀ (chain : List JSClass),
      (∀ c ∈ chain, ∀ w,
        Lockstep (fun r s => ∃ a b, r.1 = some a ∧ s.1 = some b ∧ diverge c (a, r.2) (b, s.2))
          (body₁ c w) (body₂ c w)) →
      (∀ w, Lockstep (fun _ _ => False) (after₁ w) (after₂ w)) → ∀ w,
      Lockstep (fun a b => ∃ c ∈ chain, diverge c a b)
        (JSC.walkChain body₁ after₁ chain w) (JSC.walkChain body₂ after₂ chain w)
  | [], _, hafter, w => ⟨(hafter w).1, (hafter w).2.imp id False.elim⟩
  | c :: cs, hbody, hafter, w => by
    obtain ⟨hc, ⟨heq, hworld⟩ | ⟨a, b, ha, hb, hd⟩⟩ :=
      hbody c (List.mem_cons_self _ _) w
    · cases h₁ : (body₁ c w).result with
      | some a =>
        rw [walkChain_cons_of_some h₁, walkChain_cons_of_some (heq ▸ h₁)]
        exact ⟨hc, .inl ⟨rfl, hworld⟩⟩
      | none =>
        obtain ⟨hc', hr'⟩ := Lockstep.walkChain cs
          (fun d hd => hbody d (List.mem_cons_of_mem _ hd)) hafter (body₁ c w).world
        rw [walkChain_cons_of_none h₁, walkChain_cons_of_none (heq ▸ h₁), ← hworld]
        refine ⟨?_, ?_⟩
        · simp only [Step.hostCalls, List.filterMap_append] at hc hc' ⊢
          rw [hc, hc']
        · exact hr'.imp id fun ⟨d, hd, hdiv⟩ => ⟨d, List.mem_cons_of_mem _ hd, hdiv⟩
    · rw [walkChain_cons_of_some ha, walkChain_cons_of_some hb]
      exact ⟨hc, .inr ⟨c, List.mem_cons_self _ _, hd⟩⟩

/-- Away from the setter guard, the two static-value blocks are the same computation. -/
theorem putByIndexStaticValue_eq (name : Name) (value : JSValue) (jsClass : JSClass)
    (hguard : ∀ entry, jsClass.staticValue name = some entry →
      entry.attributes.readOnly = false → classSetterGuard jsClass entry = false) :
    putByIndexStaticValue h name value jsClass = putStaticValue h name value jsClass := by
  unfold putByIndexStaticValue putStaticValue
  congr 1
  funext _
  split
  · rfl
  · rename_i entry he
    cases hro : entry.attributes.readOnly
    · simp [hguard entry he hro]
    · rfl

/-- The two static-function blocks make no host call, and answer alike unless the entry is
read-only while the object has an own property of the name. -/
theorem putByIndexStaticFunction_lockstep (propertyIndex : UInt32) (value : JSValue)
    (shouldThrow : Bool) (jsClass : JSClass) (w : World) :
    Lockstep (fun r s => ∃ a b, r.1 = some a ∧ s.1 = some b ∧
        ReadOnlyOverride jsClass (Identifier.fromIndex propertyIndex) value (a, r.2) (b, s.2))
      (putByIndexStaticFunction propertyIndex value shouldThrow
        (Identifier.fromIndex propertyIndex) jsClass w)
      (putStaticFunction (Identifier.fromIndex propertyIndex) value jsClass w) := by
  simp only [putByIndexStaticFunction, putStaticFunction, Parent.getOwnPropertySlot, Parent.put,
    Parent.putByIndex]
  cases hf : jsClass.staticFunction (Identifier.fromIndex propertyIndex) with
  | none => simp [Lockstep, Step.hostCalls, Entry.hostCall?]
  | some entry =>
    -- both writes run the lookup, then at most one generic operation: no host call
    simp only [Lockstep, Step.hostCalls, Eng.bind_events, Eng.bind_result, Eng.bind_world,
      emit_apply, Eng.pure_apply, Eng.map_apply, Parent.run_apply, putDirect_apply]
    cases hl : w.props.lookup (Identifier.fromIndex propertyIndex) with
    | none => cases hro : entry.attributes.readOnly <;>
        simp [Entry.hostCall?, hl, hro, OwnProperties.put]
    | some p =>
      cases hro : entry.attributes.readOnly
      · simp [Entry.hostCall?, hl, hro]
      · -- `putByIndex` refuses, `put` writes over the own property
        exact ⟨by simp [Entry.hostCall?, hro],
          .inr ⟨false, _, by simp [hro], rfl, ⟨entry, hf, hro⟩, by simp [hl], rfl, rfl⟩⟩

/-- The generic fallbacks of the two writes store the same own property the same way. -/
theorem putByIndex_parent_lockstep (propertyIndex : UInt32) (value : JSValue)
    (shouldThrow : Bool) (w : World) :
    Lockstep (fun _ _ => False) (Parent.putByIndex propertyIndex value shouldThrow w)
      (Parent.put (Identifier.fromIndex propertyIndex) value w) := by
  simp [Lockstep, Parent.putByIndex, Parent.put, Step.hostCalls, Entry.hostCall?]

/-- A class whose static function `0` is read-only. -/
def readOnlyFunctionClass : JSClass :=
  { id := 3, version := 0,
    staticFunctions := [("0",
      { version := 0, v0 := { callAsFunction := some 10 }, attributes := { readOnly := true } })] }

/-- A class of the original generation with a class-level setter, whose static value `0` is
writable and has a setter of its own. -/
def doubleSetterClass : JSClass :=
  { id := 4, version := 0, v0 := { setProperty := some 11 },
    staticValues := [("0", { version := 0, v0 := { setProperty := some 12 } })] }

end JSC.JSCallbackObject
