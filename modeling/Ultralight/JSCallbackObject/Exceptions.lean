import Ultralight.JSCallbackObject.Trace
import Ultralight.JSCallbackObject.Property
import Ultralight.JSCallbackObject.Put
import Ultralight.JSCallbackObject.Invoke

/-!
# A raised exception ends the operation

A host callback with an `exception` out-parameter may set it. Every call site of the core then
does the same two things: `throwException` with it, and `return`. So after the FIRST raising
call of an operation there is exactly one throw — of that exception — and nothing else: no
other callback, no table lookup, no generic operation, no store. The own properties stay as
the callback left them.

`StopsOnRaise A m` is that law for a computation whose raising run answers something `A`
admits. Blocks of a chain walk must answer (`some`) when they raise, so the walk returns; the
law composes along `bind`, `orElse` and the walk like the other trace laws, and each call site
is one instance of `StopsOnRaise.call_epilogue`.
-/

namespace JSC

/-- The exception an entry raised: the `exception` out-parameter a host callback set, for a
callback that has one. -/
def Entry.raised (x : Entry) : Option JSValue :=
  match x.event with
  | .call c reply => if c.field.takesException then reply.exception else none
  | _ => none

/-- The first entry of a trace that raised, and what follows it. -/
def firstRaise : List Entry → Option (Entry × List Entry)
  | [] => none
  | x :: xs => if x.raised.isSome then some (x, xs) else firstRaise xs

theorem firstRaise_append (xs ys : List Entry) :
    firstRaise (xs ++ ys) = match firstRaise xs with
      | some (x, post) => some (x, post ++ ys)
      | none => firstRaise ys := by
  induction xs with
  | nil => rfl
  | cons y ys' ih => by_cases hy : y.raised.isSome <;> simp [firstRaise, hy, ih]

theorem firstRaise_eq_none {xs : List Entry} :
    firstRaise xs = none ↔ ∀ x ∈ xs, x.raised = none := by
  induction xs with
  | nil => simp [firstRaise]
  | cons y ys ih =>
    by_cases hy : y.raised.isSome
    · simp [firstRaise, hy, Option.isSome_iff_ne_none.mp hy]
    · simp_all [firstRaise]

/-- `m` raises nothing: no entry it records is a raising call. -/
def Quiet (m : Eng α) : Prop := Keeps (fun _ => True) (fun x => x.raised = none) m

/-- `m` stops on a raise: after the first raising host call of a run comes one throw of its
exception and nothing else, the own properties are those the callback left, and the run
answers something `A` admits. -/
def StopsOnRaise (A : α → Prop) (m : Eng α) : Prop :=
  ∀ w x post, firstRaise (m w).events = some (x, post) →
    (∃ e, x.raised = some e ∧ post.map Entry.event = [.throwException e]) ∧
      (m w).world.props = x.props ∧ A (m w).result

namespace StopsOnRaise

variable {A B : α → Prop}

theorem of_quiet {m : Eng α} (hm : Quiet m) : StopsOnRaise A m := fun w x post hx => by
  have := firstRaise_eq_none.mpr ((hm w trivial).2)
  simp_all

theorem map {m : Eng α} {C : β → Prop} (f : α → β) (hm : StopsOnRaise A m)
    (hf : ∀ a, A a → C (f a)) : StopsOnRaise C (f <$> m) := fun w x post hx => by
  simp only [Eng.map_apply] at hx ⊢
  obtain ⟨he, hp, ha⟩ := hm w x post hx
  exact ⟨he, hp, hf _ ha⟩

/-- A computation that raises nothing, then one that stops on a raise. -/
theorem quiet_bind {m : Eng α} {C : β → Prop} {k : α → Eng β} (hm : Quiet m)
    (hk : ∀ a, StopsOnRaise C (k a)) : StopsOnRaise C (m >>= k) := fun w x post hx => by
  have hnone := firstRaise_eq_none.mpr ((hm w trivial).2)
  simp only [Eng.bind_events, firstRaise_append, hnone] at hx
  simpa using hk _ _ x post hx

/-- A computation that stops on a raise with an answer after which the continuation does
nothing. -/
theorem bind {m : Eng α} {C : β → Prop} {k : α → Eng β} (hm : StopsOnRaise A m)
    (hk : ∀ a, StopsOnRaise C (k a))
    (hdone : ∀ a w, A a → (k a w).events = [] ∧ (k a w).world.props = w.props ∧
      C (k a w).result) : StopsOnRaise C (m >>= k) := fun w x post hx => by
  simp only [Eng.bind_events, firstRaise_append] at hx
  split at hx
  · rename_i y post' hy
    cases hx
    obtain ⟨he, hp, ha⟩ := hm w _ _ hy
    obtain ⟨hke, hkw, hkr⟩ := hdone _ (m w).world ha
    simp only [Eng.bind_world, Eng.bind_result, hke, List.append_nil, hkw, hp]
    exact ⟨he, trivial, hkr⟩
  · simpa using hk _ _ x post hx

/-- A block that answers when it raises, followed by a fall-through block of the same kind. -/
theorem orElse {A : α → Prop} {first next : Eng (Option α)}
    (h₁ : StopsOnRaise (fun r => ∃ a, r = some a ∧ A a) first)
    (h₂ : StopsOnRaise (fun r => ∃ a, r = some a ∧ A a) next) :
    StopsOnRaise (fun r => ∃ a, r = some a ∧ A a) (first.orElse next) := by
  intro w x post hx
  cases hr : (first w).result with
  | some a =>
    rw [Eng.orElse_of_some hr] at hx ⊢
    obtain ⟨he, hp, ha⟩ := h₁ w x post hx
    exact ⟨he, hp, by rwa [hr] at ha⟩
  | none =>
    rw [Eng.orElse_of_none hr] at hx ⊢
    simp only [firstRaise_append] at hx
    split at hx
    · rename_i y post' hy
      obtain ⟨-, -, a, ha, -⟩ := h₁ w _ _ hy
      simp [hr] at ha
    · exact h₂ _ x post hx

/-- The chain walk of blocks that answer when they raise. -/
theorem walkChain {body : JSClass → Eng (Option α)} {after : Eng α}
    (hbody : ∀ c, StopsOnRaise (fun r => ∃ a, r = some a ∧ A a) (body c))
    (hafter : StopsOnRaise A after) : ∀ chain, StopsOnRaise A (JSC.walkChain body after chain)
  | [] => hafter
  | c :: cs => by
    intro w x post hx
    cases hr : (body c w).result with
    | some a =>
      rw [walkChain_cons_of_some hr] at hx ⊢
      obtain ⟨he, hp, b, hb, hab⟩ := hbody c w x post hx
      exact ⟨he, hp, by simp_all⟩
    | none =>
      rw [walkChain_cons_of_none hr] at hx ⊢
      simp only [firstRaise_append] at hx
      split at hx
      · rename_i y post' hy
        obtain ⟨-, -, a, ha, -⟩ := hbody c w _ _ hy
        simp [hr] at ha
      · exact walkChain hbody hafter cs _ x post hx

/-- A host call with an `exception` out-parameter followed by an epilogue that throws the
exception, if there is one, and answers something `C` admits when it did. -/
theorem call_epilogue {m : Eng Reply} {c : HostCall} {C : β → Prop} {k : Reply → Eng β}
    (hc : c.field.takesException = true)
    (hm : ∀ w, ∃ b, (m w).events = [⟨.call c (m w).result, b, (m w).world.props⟩])
    (hk : ∀ reply w, (k reply w).events =
        (reply.exception.map fun e =>
          (⟨.throwException e, w.locksHeld, w.props⟩ : Entry)).toList ∧
      (k reply w).world = w ∧ (reply.exception.isSome → C (k reply w).result)) :
    StopsOnRaise C (m >>= k) := by
  intro w x post hx
  obtain ⟨b, hb⟩ := hm w
  obtain ⟨hke, hkw, hkr⟩ := hk (m w).result (m w).world
  simp only [Eng.bind_events, hb, hke] at hx
  cases hex : (m w).result.exception with
  | none => simp [firstRaise, Entry.raised, hc, hex] at hx
  | some e =>
    simp only [firstRaise, Entry.raised, hc, hex, if_true, Option.isSome_some, Option.map_some',
      Option.toList_some, List.singleton_append, Option.some.injEq, Prod.mk.injEq] at hx
    obtain ⟨rfl, rfl⟩ := hx
    simp only [Eng.bind_world, Eng.bind_result, hkw]
    exact ⟨⟨e, by simp [Entry.raised, hc, hex], rfl⟩, trivial, hkr (by simp [hex])⟩

theorem mono {m : Eng α} (hm : StopsOnRaise A m) (hAB : ∀ a, A a → B a) :
    StopsOnRaise B m := fun w x post hx =>
  have h := hm w x post hx
  ⟨h.1, h.2.1, hAB _ h.2.2⟩

end StopsOnRaise

namespace Quiet

theorem emit {e : Event} (he : ∀ c r, e ≠ .call c r) : Quiet (emit e) :=
  Keeps.emit fun _ _ => by cases e <;> simp_all [Entry.raised]

theorem run (operation : ParentOperation) (f : World → α × OwnProperties) :
    Quiet (Parent.run operation f) :=
  fun _ _ => ⟨trivial, fun _ hx => by obtain rfl := List.mem_singleton.mp hx; rfl⟩

theorem putDirect (name : Name) (value : JSValue) (attributes : Attributes) :
    Quiet (putDirect name value attributes) :=
  fun _ _ => ⟨trivial, fun _ hx => by obtain rfl := List.mem_singleton.mp hx; rfl⟩

theorem create (callback : Callback) (name : Name) :
    Quiet (JSCallbackFunction.create callback name) :=
  fun _ _ => ⟨trivial, fun _ hx => by obtain rfl := List.mem_singleton.mp hx; rfl⟩

/-- A call of a callback with no `exception` out-parameter raises nothing. -/
theorem call (h : Host) {c : HostCall} (hc : c.field.takesException = false) :
    Quiet (dropAllLocks (invoke h c)) :=
  fun _ _ => ⟨trivial, fun _ hx => by
    obtain rfl := List.mem_singleton.mp hx; simp only [Entry.raised, hc]; rfl⟩

theorem throwReferenceError (message : String) :
    Quiet (JSCallbackObject.throwReferenceError message) :=
  Keeps.bind (emit (by simp)) fun _ => Keeps.pure _

end Quiet

namespace StopsOnRaise

variable {h : Host} {C : β → Prop}

/-- A host call made in a `DropAllLocks` scope. -/
theorem unlocked_call {c : HostCall} (hc : c.field.takesException = true) {k : Reply → Eng β}
    (hk : ∀ reply w, (k reply w).events =
        (reply.exception.map fun e =>
          (⟨.throwException e, w.locksHeld, w.props⟩ : Entry)).toList ∧
      (k reply w).world = w ∧ (reply.exception.isSome → C (k reply w).result)) :
    StopsOnRaise C (dropAllLocks (invoke h c) >>= k) :=
  call_epilogue hc (fun _ => ⟨_, rfl⟩) hk

/-- `answerValue` after the call: a raise answers `onThrow`. -/
theorem answerValue_epilogue (onThrow : α) (wrap : JSValue → α) (reply : Reply) (w : World) :
    (answerValue reply onThrow wrap w).events =
        (reply.exception.map fun e =>
          (⟨.throwException e, w.locksHeld, w.props⟩ : Entry)).toList ∧
      (answerValue reply onThrow wrap w).world = w ∧
      (reply.exception.isSome → (answerValue reply onThrow wrap w).result = some onThrow) := by
  exact ⟨by simp, by simp, fun he => by simp [he]⟩

/-- `answerOf` after the call: a raise answers. -/
theorem answerOf_epilogue (answer : Bool) (reply : Reply) (w : World) :
    (JSCallbackObject.answerOf reply answer w).events =
        (reply.exception.map fun e =>
          (⟨.throwException e, w.locksHeld, w.props⟩ : Entry)).toList ∧
      (JSCallbackObject.answerOf reply answer w).world = w ∧
      (reply.exception.isSome →
        ∃ a, (JSCallbackObject.answerOf reply answer w).result = some a ∧ True) := by
  exact ⟨by simp [JSCallbackObject.answerOf], by simp [JSCallbackObject.answerOf],
    fun he => ⟨answer, by simp [JSCallbackObject.answerOf, he], trivial⟩⟩

/-- `throwIfRaised` and a `return` of some answer after the call. -/
theorem throwIfRaised_epilogue (a : α) (reply : Reply) (w : World) :
    ((do JSC.throwIfRaised reply; pure (some a) : Eng (Option α)) w).events =
        (reply.exception.map fun e =>
          (⟨.throwException e, w.locksHeld, w.props⟩ : Entry)).toList ∧
      ((do JSC.throwIfRaised reply; pure (some a) : Eng (Option α)) w).world = w ∧
      (reply.exception.isSome →
        ∃ b, ((do JSC.throwIfRaised reply; pure (some a) : Eng (Option α)) w).result = some b ∧
          True) := by
  exact ⟨by simp, by simp, fun _ => ⟨a, by simp, trivial⟩⟩

end StopsOnRaise

namespace JSCallbackObject

open StopsOnRaise

variable (h : Host)

/-! ## Reading -/

theorem getStaticValue_stopsOnRaise (chain : List JSClass) (name : Name) :
    StopsOnRaise (· = some .undefined) (getStaticValue h chain name) := by
  refine StopsOnRaise.walkChain (A := (· = some JSValue.undefined))
    (fun c => StopsOnRaise.map (A := (· = some JSValue.undefined))
    (Option.map some) ?_ fun r hr => ⟨some .undefined, by simp [hr], rfl⟩)
    (of_quiet (Keeps.pure _)) chain
  refine quiet_bind (Quiet.emit (by simp)) fun _ => ?_
  split
  · exact of_quiet (Keeps.pure _)
  · split
    · exact of_quiet (Keeps.pure _)
    · exact unlocked_call (by rfl) (answerValue_epilogue _ _)

/-- A raise while a slot is looked up fills the slot with `undefined`. -/
theorem getOwnPropertySlot_stopsOnRaise (chain : List JSClass) (name : Name) :
    StopsOnRaise (· = some (.value .readOnlyDontEnum .undefined))
      (getOwnPropertySlot h chain name) := by
  unfold getOwnPropertySlot parentSlot
  refine StopsOnRaise.walkChain
    (A := (· = some (PropertySlot.value .readOnlyDontEnum JSValue.undefined)))
    (fun c => StopsOnRaise.map (Option.map some)
      (orElse (A := (· = PropertySlot.value .readOnlyDontEnum JSValue.undefined)) ?_
        (orElse ?_ ?_))
      fun r ⟨a, hr, ha⟩ => ⟨some a, by simp [hr], by rw [ha]⟩)
    (of_quiet (Keeps.map _ (Quiet.run _ _))) chain
  · unfold getOwnPropertySlotCallback
    split
    · exact of_quiet (Keeps.bind (Quiet.call h (by rfl)) fun _ => Keeps.pure _)
    · exact mono (unlocked_call (by rfl) (answerValue_epilogue _ _)) fun r hr => ⟨_, hr, rfl⟩
    · exact of_quiet (Keeps.pure _)
  · refine quiet_bind (Quiet.emit (by simp)) fun _ => ?_
    split
    · exact StopsOnRaise.bind (getStaticValue_stopsOnRaise h chain name)
        (fun _ => of_quiet (Keeps.pure _)) fun v w hv => by subst hv; simp
    · exact of_quiet (Keeps.pure _)
  · exact of_quiet (Keeps.bind (Quiet.emit (by simp)) fun _ => Keeps.pure _)

theorem callbackGetter_stopsOnRaise (chain : List JSClass) (name : Name) :
    StopsOnRaise (fun _ => True) (callbackGetter h chain name) := by
  refine StopsOnRaise.walkChain (fun c => ?_) (of_quiet (Quiet.throwReferenceError _)) chain
  unfold callbackGetterStep
  split
  · exact of_quiet (Keeps.pure _)
  · exact mono (unlocked_call (by rfl) (answerValue_epilogue _ _)) fun r hr => ⟨_, hr, trivial⟩

/-- `staticFunctionGetter` calls no host callback at all. -/
theorem staticFunctionGetter_quiet (chain : List JSClass) (name : Name) :
    Quiet (staticFunctionGetter chain name) := by
  refine Keeps.bind (Quiet.run _ _) fun slot => ?_
  split
  · exact Keeps.pure _
  · refine Keeps.walkChain (fun c => ?_) (Quiet.throwReferenceError _) chain
    refine Keeps.bind (Quiet.emit (by simp)) fun _ => ?_
    split
    · exact Keeps.pure _
    · split
      · exact Keeps.pure _
      · exact Keeps.bind (Quiet.create _ _) fun _ =>
          Keeps.bind (Quiet.putDirect _ _ _) fun _ => Keeps.pure _

theorem get_stopsOnRaise (chain : List JSClass) (name : Name) :
    StopsOnRaise (fun _ => True) (get h chain name) := by
  refine StopsOnRaise.bind (getOwnPropertySlot_stopsOnRaise h chain name) (fun slot => ?_)
    fun slot w hs => by subst hs; simp
  split
  · exact of_quiet (Keeps.pure _)
  · exact of_quiet (Keeps.pure _)
  · exact StopsOnRaise.map _ (callbackGetter_stopsOnRaise h chain name) fun _ _ => trivial
  · exact of_quiet (Keeps.map _ (staticFunctionGetter_quiet chain name))

/-! ## Writing, deleting, converting and calling -/

theorem putCallback_stopsOnRaise (name : Name) (value : JSValue) (jsClass : JSClass) :
    StopsOnRaise (fun r => ∃ a, r = some a ∧ True) (putCallback h name value jsClass) := by
  unfold putCallback
  split
  · exact of_quiet (Keeps.pure _)
  · exact unlocked_call (by rfl) fun reply w => answerOf_epilogue reply.result reply w

theorem put_stopsOnRaise (chain : List JSClass) (name : Name) (value : JSValue) :
    StopsOnRaise (fun _ => True) (put h chain name value) := by
  refine StopsOnRaise.walkChain (fun c => orElse (putCallback_stopsOnRaise h name value c)
    (orElse ?_ ?_)) (of_quiet (Quiet.run _ _)) chain
  · refine quiet_bind (Quiet.emit (by simp)) fun _ => ?_
    split
    · exact of_quiet (Keeps.pure _)
    · split
      · exact of_quiet (Keeps.pure _)
      · split
        · split
          · exact of_quiet (Keeps.pure _)
          · exact unlocked_call (by rfl) fun reply w => answerOf_epilogue reply.result reply w
        · exact of_quiet (Keeps.pure _)
  · refine of_quiet (Keeps.bind (Quiet.emit (by simp)) fun _ => ?_)
    split
    · exact Keeps.pure _
    · refine Keeps.bind (Quiet.run _ _) fun slot => ?_
      split
      · exact Keeps.map _ (Quiet.run _ _)
      · split
        · exact Keeps.pure _
        · exact Keeps.map _ (Quiet.putDirect _ _ _)

theorem putByIndex_stopsOnRaise (chain : List JSClass) (propertyIndex : UInt32)
    (value : JSValue) (shouldThrow : Bool) :
    StopsOnRaise (fun _ => True) (putByIndex h chain propertyIndex value shouldThrow) := by
  refine StopsOnRaise.walkChain (fun c => orElse (putCallback_stopsOnRaise h _ value c)
    (orElse ?_ ?_)) (of_quiet (Quiet.run _ _)) chain
  · refine quiet_bind (Quiet.emit (by simp)) fun _ => ?_
    split
    · exact of_quiet (Keeps.pure _)
    · split
      · exact of_quiet (Keeps.pure _)
      · split
        · split
          · exact of_quiet (Keeps.pure _)
          · exact unlocked_call (by rfl) fun reply w => answerOf_epilogue reply.result reply w
        · exact of_quiet (Keeps.pure _)
  · refine of_quiet (Keeps.bind (Quiet.emit (by simp)) fun _ => ?_)
    split
    · exact Keeps.pure _
    · split
      · exact Keeps.pure _
      · exact Keeps.map _ (Quiet.run _ _)

theorem deleteProperty_stopsOnRaise (chain : List JSClass) (name : Name) :
    StopsOnRaise (fun _ => True) (deleteProperty h chain name) := by
  refine StopsOnRaise.walkChain (fun c => orElse ?_ (orElse
    (of_quiet (Keeps.bind (Quiet.emit (by simp)) fun _ => Keeps.pure _))
    (of_quiet (Keeps.bind (Quiet.emit (by simp)) fun _ => Keeps.pure _))))
    (of_quiet (Quiet.run _ _)) chain
  unfold deletePropertyCallback
  split
  · exact of_quiet (Keeps.pure _)
  · exact unlocked_call (by rfl) fun reply w => answerOf_epilogue true reply w

/-- `defaultValue`'s call has no `DropAllLocks` scope, and stops all the same. -/
theorem defaultValue_stopsOnRaise (chain : List JSClass) (hint : PreferredPrimitiveType) :
    StopsOnRaise (fun _ => True) (defaultValue h chain hint) := by
  refine StopsOnRaise.walkChain (fun c => ?_) (of_quiet (Quiet.run _ _)) chain
  unfold defaultValueStep
  split
  · exact of_quiet (Keeps.pure _)
  · exact mono (call_epilogue (by rfl) (fun _ => ⟨_, rfl⟩) (answerValue_epilogue _ _))
      fun r hr => ⟨_, hr, trivial⟩

theorem customHasInstance_stopsOnRaise (chain : List JSClass) (value : JSValue) :
    StopsOnRaise (fun _ => True) (customHasInstance h chain value) := by
  refine StopsOnRaise.walkChain (fun c => ?_) (of_quiet (Keeps.pure _)) chain
  unfold customHasInstanceStep
  split
  · exact of_quiet (Keeps.pure _)
  · exact unlocked_call (by rfl) fun reply w => throwIfRaised_epilogue reply.result reply w

theorem releaseAssertNotReached_quiet : Quiet releaseAssertNotReached :=
  Keeps.bind (Quiet.emit (by simp)) fun _ => Keeps.pure _

theorem call_stopsOnRaise (chain : List JSClass) (frame : CallFrame) :
    StopsOnRaise (fun _ => True) (JSCallbackObject.call h chain frame) := by
  refine StopsOnRaise.walkChain (fun c => ?_) (of_quiet releaseAssertNotReached_quiet) chain
  unfold callStep
  split
  · exact of_quiet (Keeps.pure _)
  · exact unlocked_call (by rfl) fun reply w =>
      throwIfRaised_epilogue (Encoded.value reply.value) reply w

theorem construct_stopsOnRaise (chain : List JSClass) (frame : CallFrame) :
    StopsOnRaise (fun _ => True) (construct h chain frame) := by
  refine StopsOnRaise.walkChain (fun c => ?_) (of_quiet releaseAssertNotReached_quiet) chain
  unfold constructStep
  split
  · exact of_quiet (Keeps.pure _)
  · exact unlocked_call (by rfl) fun reply w =>
      throwIfRaised_epilogue (Encoded.value reply.value) reply w

/-- THE EXCEPTION LAW. Over every chain, every name, every argument and every host, in every
read (the slot lookup, `getStaticValue`, both slot getters, the whole `get`), write, delete,
conversion, instance check, call and construction: after the first host callback that sets
its `exception` out-parameter, the operation throws that exception once and does nothing
else — no other callback, no table lookup, no generic operation, no store — and the own
properties stay as the callback left them. -/
theorem raise_ends_operation (chain : List JSClass) (name : Name) (value : JSValue)
    (propertyIndex : UInt32) (shouldThrow : Bool) (hint : PreferredPrimitiveType)
    (frame : CallFrame) :
    StopsOnRaise (fun _ => True) (getOwnPropertySlot h chain name) ∧
      StopsOnRaise (fun _ => True) (getStaticValue h chain name) ∧
      StopsOnRaise (fun _ => True) (callbackGetter h chain name) ∧
      StopsOnRaise (fun _ => True) (staticFunctionGetter chain name) ∧
      StopsOnRaise (fun _ => True) (get h chain name) ∧
      StopsOnRaise (fun _ => True) (put h chain name value) ∧
      StopsOnRaise (fun _ => True) (putByIndex h chain propertyIndex value shouldThrow) ∧
      StopsOnRaise (fun _ => True) (deleteProperty h chain name) ∧
      StopsOnRaise (fun _ => True) (defaultValue h chain hint) ∧
      StopsOnRaise (fun _ => True) (customHasInstance h chain value) ∧
      StopsOnRaise (fun _ => True) (JSCallbackObject.call h chain frame) ∧
      StopsOnRaise (fun _ => True) (construct h chain frame) :=
  ⟨mono (getOwnPropertySlot_stopsOnRaise h chain name) fun _ _ => trivial,
    mono (getStaticValue_stopsOnRaise h chain name) fun _ _ => trivial,
    callbackGetter_stopsOnRaise h chain name, of_quiet (staticFunctionGetter_quiet chain name),
    get_stopsOnRaise h chain name, put_stopsOnRaise h chain name value,
    putByIndex_stopsOnRaise h chain propertyIndex value shouldThrow,
    deleteProperty_stopsOnRaise h chain name, defaultValue_stopsOnRaise h chain hint,
    customHasInstance_stopsOnRaise h chain value, call_stopsOnRaise h chain frame,
    construct_stopsOnRaise h chain frame⟩

end JSCallbackObject

end JSC
