import Ultralight.JSCallbackObject.Trace
import Ultralight.JSCallbackObject.Property
import Ultralight.JSCallbackObject.Put

/-!
# Materializing static functions

A static function is not a property of the object until it is first read. The slot
`getOwnPropertySlot` installs for it is served by `staticFunctionGetter`, which looks for an
own property first — a callable it materialized before, or a value `put` stored over the
name — and otherwise walks the chain AGAIN, from the object's class, for the first entry for
the name that has a callback of its declared generation. That entry's callable is allocated,
stored as an own property with the entry's attributes, and returned; the next read finds it.

The second walk does not know which class installed the slot. When that class's entry has no
callback, the walk goes on to the classes after it: `materializable` is what it finds.
-/

namespace JSC

/-- What a class offers `staticFunctionGetter` for `name`: its entry, when the entry has a
callback of its declared generation, with that callback. -/
def JSClass.offeredFunction (jsClass : JSClass) (name : Name) :
    Option (StaticFunctionEntry × Callback) :=
  (jsClass.staticFunction name).bind fun entry =>
    (pickEither entry.version entry.v0.callAsFunction entry.v1000.callAsFunctionEx
      jsClass.id).map (entry, ·)

/-- The entry and callback a read of a static-function slot materializes: the FIRST offer
along the chain, object's class first. -/
def materializable (chain : List JSClass) (name : Name) : Option (StaticFunctionEntry × Callback) :=
  (chain.filterMap (·.offeredFunction name)).head?

@[simp] theorem materializable_nil (name : Name) : materializable [] name = none := rfl

theorem materializable_cons (jsClass : JSClass) (parents : List JSClass) (name : Name) :
    materializable (jsClass :: parents) name =
      (jsClass.offeredFunction name).or (materializable parents name) := by
  cases h : jsClass.offeredFunction name <;> simp [materializable, List.filterMap_cons, h]

/-- When the first class whose table holds the name offers a callback, that class's entry is
the one materialized. -/
theorem materializable_of_first {pre post : List JSClass} {jsClass : JSClass} {name : Name}
    (hpre : ∀ c ∈ pre, c.staticFunction name = none) :
    materializable (pre ++ jsClass :: post) name =
      (jsClass.offeredFunction name).or (materializable post name) := by
  induction pre with
  | nil => exact materializable_cons _ _ _
  | cons c cs ih =>
    have hc : c.offeredFunction name = none := by
      simp [JSClass.offeredFunction, hpre c (List.mem_cons_self _ _)]
    rw [List.cons_append, materializable_cons, hc, Option.none_or]
    exact ih fun d hd => hpre d (List.mem_cons_of_mem _ hd)

/-! ## Keeping an own property -/

/-- The host's callbacks leave the object's own property `name` as they find it. -/
def HostKeeps (h : Host) (name : Name) : Prop :=
  ∀ c w, (h c w).2.lookup name = w.props.lookup name

/-- What materializing `name` records: a callable allocated for it, or `name` stored
directly. -/
def Entry.Materializes (name : Name) (x : Entry) : Prop :=
  (∃ cell cb, x.event = .create (.callbackFunction cell cb name)) ∨
    ∃ p, x.event = .putDirect name p

/-- `m` keeps the object's own property `name` in the state `P` admits, and never
materializes it. -/
def KeepsOwn (name : Name) (P : Option Property → Prop) (m : Eng α) : Prop :=
  Keeps (fun w => P (w.props.lookup name)) (fun x => ¬ x.Materializes name) m

namespace KeepsOwn

variable {h : Host} {name : Name} {P : Option Property → Prop}

theorem emit {e : Event} (he : ∀ cell cb, e ≠ .create (.callbackFunction cell cb name))
    (hd : ∀ p, e ≠ .putDirect name p) : KeepsOwn name P (JSC.emit e) :=
  Keeps.emit fun _ _ => by
    rintro (⟨cell, cb, hc⟩ | ⟨p, hp⟩)
    exacts [he cell cb hc, hd p hp]

theorem call (hk : HostKeeps h name) (c : HostCall) :
    KeepsOwn name P (dropAllLocks (invoke h c)) := fun w hw =>
  ⟨show P ((h c { w with locksHeld := false }).2.lookup name) from (hk c _).symm ▸ hw,
    fun _ hx => by obtain rfl := List.mem_singleton.mp hx; rintro (⟨_, _, ⟨⟩⟩ | ⟨_, ⟨⟩⟩)⟩

/-- The read primitives keep an own property the host keeps. -/
theorem readLaw (hk : HostKeeps h name) :
    ReadLaw h (fun w => P (w.props.lookup name)) (fun x => ¬ x.Materializes name) :=
  ⟨fun _ _ _ => emit (by simp) (by simp), fun _ => emit (by simp) (by simp), call hk,
    fun _ _ hw => ⟨hw, fun _ hx => by
      obtain rfl := List.mem_singleton.mp hx; rintro (⟨_, _, ⟨⟩⟩ | ⟨_, ⟨⟩⟩)⟩⟩

theorem run (operation : ParentOperation) (f : World → α × OwnProperties)
    (hf : ∀ w, P (w.props.lookup name) → P ((f w).2.lookup name)) :
    KeepsOwn name P (Parent.run operation f) := fun w hw =>
  ⟨hf w hw, fun _ hx => by obtain rfl := List.mem_singleton.mp hx; rintro (⟨_, _, ⟨⟩⟩ | ⟨_, ⟨⟩⟩)⟩

theorem create_ne {other : Name} (hne : other ≠ name) (callback : Callback) :
    KeepsOwn name P (JSCallbackFunction.create callback other) := fun w hw => by
  simp [Entry.Materializes, hw, hne]

theorem putDirect_ne {other : Name} (hne : other ≠ name) (value : JSValue)
    (attributes : Attributes) : KeepsOwn name P (putDirect other value attributes) :=
  fun w hw => by simp [Entry.Materializes, AList.lookup_insert_ne hne.symm, hw, hne]

/-- The generic object's own lookup of `other`, followed by what the answer selects. When `P`
requires an own `name`, the branch for no own property is only ever taken for another name:
that is where the core may materialize. -/
theorem bind_getOwnPropertySlot (hP : ∀ o, P o → o.isSome) {other : Name}
    {k : Option Property → Eng β} (hsome : ∀ p, KeepsOwn name P (k (some p)))
    (hnone : other ≠ name → KeepsOwn name P (k none)) :
    KeepsOwn name P (Parent.getOwnPropertySlot other >>= k) := by
  intro w hw
  have hk : P ((k (w.props.lookup other) w).world.props.lookup name) ∧
      ∀ x ∈ (k (w.props.lookup other) w).events, ¬ x.Materializes name := by
    cases hr : w.props.lookup other with
    | some p => exact hsome p w hw
    | none =>
      refine hnone (fun he => ?_) w hw
      subst he
      simpa [hr] using hP _ hw
  -- the lookup itself is a `parent` event, which materializes nothing
  exact ⟨hk.1, List.forall_mem_cons.mpr ⟨by simp [Entry.Materializes], hk.2⟩⟩

end KeepsOwn

namespace JSCallbackObject

/-! ## One class of the walk -/

theorem staticFunctionGetterStep_of_none {jsClass : JSClass} {name : Name}
    (h : jsClass.offeredFunction name = none) (w : World) :
    (staticFunctionGetterStep name jsClass w).result = none ∧
      (staticFunctionGetterStep name jsClass w).world = w := by
  unfold staticFunctionGetterStep
  cases he : jsClass.staticFunction name with
  | none => simp [he]
  | some entry =>
    have hp : pickEither entry.version entry.v0.callAsFunction entry.v1000.callAsFunctionEx
        jsClass.id = none := by simpa [JSClass.offeredFunction, he] using h
    simp [he, hp]

theorem staticFunctionGetterStep_of_some {jsClass : JSClass} {name : Name}
    {entry : StaticFunctionEntry} {cb : Callback}
    (h : jsClass.offeredFunction name = some (entry, cb)) (w : World) :
    (staticFunctionGetterStep name jsClass w).result =
        some (.callbackFunction w.nextCell cb name) ∧
      (staticFunctionGetterStep name jsClass w).world =
        { w with nextCell := w.nextCell + 1,
                 props := w.props.insert name ⟨.callbackFunction w.nextCell cb name,
                   entry.attributes⟩ } := by
  simp only [JSClass.offeredFunction, Option.bind_eq_some, Option.map_eq_some',
    Prod.mk.injEq] at h
  obtain ⟨entry, he, cb, hp, rfl, rfl⟩ := h
  simp [staticFunctionGetterStep, he, hp]

/-! ## The walk -/

/-- From a world with no own property `name`, the walk of `staticFunctionGetter` either
materializes the first offer of the chain, or — when no class offers one — throws the
`ReferenceError` and changes nothing. -/
theorem walk_staticFunctionGetter (name : Name) :
    ∀ (chain : List JSClass) (w : World),
      let s := walkChain (staticFunctionGetterStep name)
        (throwReferenceError "Static function property defined with NULL callAsFunction callback.")
        chain w
      match materializable chain name with
      | some (entry, cb) =>
        s.result = .callbackFunction w.nextCell cb name ∧
          s.world = { w with
            nextCell := w.nextCell + 1,
            props := w.props.insert name ⟨.callbackFunction w.nextCell cb name, entry.attributes⟩ }
      | none =>
        s.result = .referenceError "Static function property defined with NULL callAsFunction callback." ∧
          s.world = w
  | [], w => by simp [throwReferenceError]
  | c :: cs, w => by
    intro s
    rw [materializable_cons]
    cases hc : c.offeredFunction name with
    | some offer =>
      obtain ⟨entry, cb⟩ := offer
      obtain ⟨hr, hw⟩ := staticFunctionGetterStep_of_some hc w
      simp [s, walkChain_cons_of_some hr, hw]
    | none =>
      obtain ⟨hr, hw⟩ := staticFunctionGetterStep_of_none hc w
      have ih := walk_staticFunctionGetter name cs w
      simp only [s, walkChain_cons_of_none hr, hw, Option.none_or]
      exact ih

/-- When no class offers a callable, the walk of `staticFunctionGetter` ends in the throw of
its `ReferenceError`. -/
theorem walk_staticFunctionGetter_throws (name : Name) (message : String) :
    ∀ (chain : List JSClass) (w : World), materializable chain name = none →
      ∃ x ∈ (walkChain (staticFunctionGetterStep name) (throwReferenceError message) chain
        w).events, x.event = .throwException (.referenceError message)
  | [], w, _ => ⟨⟨.throwException (.referenceError message), w.locksHeld, w.props⟩,
      by simp [throwReferenceError, throwException], rfl⟩
  | c :: cs, w, hm => by
    rw [materializable_cons] at hm
    cases hc : c.offeredFunction name with
    | some _ => simp [hc] at hm
    | none =>
      obtain ⟨x, hx, he⟩ := walk_staticFunctionGetter_throws name message cs
        (staticFunctionGetterStep name c w).world (by simpa [hc] using hm)
      rw [walkChain_cons_of_none (staticFunctionGetterStep_of_none hc w).1]
      exact ⟨x, List.mem_append_right _ hx, he⟩

/-- On an object with no own property `name`, a read of the slot materializes the first offer
of the chain, or throws the `ReferenceError` and stores nothing when there is none. -/
theorem staticFunctionGetter_of_fresh (chain : List JSClass) (name : Name) (w : World)
    (hown : w.props.lookup name = none) :
    match materializable chain name with
    | some (entry, cb) =>
      (staticFunctionGetter chain name w).result = .callbackFunction w.nextCell cb name ∧
        (staticFunctionGetter chain name w).world.props =
          w.props.insert name ⟨.callbackFunction w.nextCell cb name, entry.attributes⟩
    | none =>
      (staticFunctionGetter chain name w).result =
          .referenceError "Static function property defined with NULL callAsFunction callback." ∧
        (staticFunctionGetter chain name w).world.props = w.props := by
  have hwalk := walk_staticFunctionGetter name chain w
  simp only [staticFunctionGetter, Parent.getOwnPropertySlot, Eng.bind_result, Eng.bind_world,
    Parent.run_apply, hown] at hwalk ⊢
  split at hwalk <;> simp [hwalk]

/-- A class of the original generation whose static function `f` has no callback. -/
def nullFunctionClass : JSClass :=
  { id := 6, version := 0, staticFunctions := [("f", { version := 0 })] }

/-- A class of the original generation whose static function `f` has a callback. -/
def legacyFunctionClass : JSClass :=
  { id := 7, version := 0,
    staticFunctions := [("f", { version := 0, v0 := { callAsFunction := some 14 } })] }

/-- An access of a script to the object: a read or a write of one property. -/
inductive Access where
  | get (name : Name)
  | put (name : Name) (value : JSValue)
  deriving DecidableEq, Repr

/-- Whether the access is a read. -/
def Access.isGet : Access → Bool
  | .get _ => true
  | .put _ _ => false

/-- Perform one access, through the core. -/
def Access.perform (h : Host) (chain : List JSClass) : Access → Eng Unit
  | .get name => do let _ ← JSCallbackObject.get h chain name; pure ()
  | .put name value => do let _ ← JSCallbackObject.put h chain name value; pure ()

/-- Perform a run of accesses, one after another. -/
def Access.performAll (h : Host) (chain : List JSClass) : List Access → Eng Unit
  | [] => pure ()
  | access :: run => do access.perform h chain; Access.performAll h chain run

/-! ## What reads and writes keep -/

theorem OwnProperties.put_lookup_isSome {props : OwnProperties} {name : Name}
    (hs : (props.lookup name).isSome) (other : Name) (value : JSValue) :
    ((props.put other value).2.lookup name).isSome := by
  unfold OwnProperties.put
  by_cases he : other = name
  · subst he
    split
    · split <;> simp_all
    · simp
  · split
    · split
      · exact hs
      · simpa [AList.lookup_insert_ne (Ne.symm he)] using hs
    · simpa [AList.lookup_insert_ne (Ne.symm he)] using hs

section

variable (h : Host) (name : Name) {P : Option Property → Prop}

theorem staticFunctionGetter_keepsOwn (hk : HostKeeps h name) (hP : ∀ o, P o → o.isSome)
    (chain : List JSClass) (other : Name) :
    KeepsOwn name P (staticFunctionGetter chain other) := by
  refine KeepsOwn.bind_getOwnPropertySlot hP (fun _ => Keeps.pure _) fun hne => ?_
  refine Keeps.walkChain (fun c => ?_)
    (Keeps.bind ((KeepsOwn.readLaw hk).throw _) fun _ => Keeps.pure _) chain
  refine Keeps.bind ((KeepsOwn.readLaw hk).lookup _ _ _) fun _ => ?_
  split
  · exact Keeps.pure _
  · split
    · exact Keeps.pure _
    · exact Keeps.bind (KeepsOwn.create_ne hne _) fun _ =>
        Keeps.bind (KeepsOwn.putDirect_ne hne _ _) fun _ => Keeps.pure _

theorem get_keepsOwn (hk : HostKeeps h name) (hP : ∀ o, P o → o.isSome)
    (chain : List JSClass) (other : Name) : KeepsOwn name P (get h chain other) := by
  refine Keeps.bind ((KeepsOwn.readLaw hk).getOwnPropertySlot chain other) fun slot => ?_
  split
  · exact Keeps.pure _
  · exact Keeps.pure _
  · exact Keeps.map _ ((KeepsOwn.readLaw hk).callbackGetter chain other)
  · exact Keeps.map _ (staticFunctionGetter_keepsOwn h name hk hP chain other)

theorem put_keepsOwn (hk : HostKeeps h name) (hP : ∀ o, P o → o.isSome)
    (hput : ∀ (props : OwnProperties) other value, P (props.lookup name) →
      P ((props.put other value).2.lookup name))
    (chain : List JSClass) (other : Name) (value : JSValue) :
    KeepsOwn name P (put h chain other value) := by
  have hl := KeepsOwn.readLaw (P := P) hk
  refine Keeps.walkChain (fun c => Keeps.orElse (hl.putCallback _ _ c)
    (Keeps.orElse (hl.putStaticValue _ _ c) ?_)) (KeepsOwn.run _ _ fun w => hput _ _ _) chain
  refine Keeps.bind (hl.lookup _ _ _) fun _ => ?_
  split
  · exact Keeps.pure _
  · refine KeepsOwn.bind_getOwnPropertySlot hP
      (fun _ => Keeps.map _ (KeepsOwn.run _ _ fun w => hput _ _ _)) fun hne => ?_
    dsimp only
    split
    · exact Keeps.pure _
    · exact Keeps.map _ (KeepsOwn.putDirect_ne hne _ _)

/-- A run of accesses keeps what each access keeps. -/
theorem performAll_keepsOwn (hk : HostKeeps h name) (hP : ∀ o, P o → o.isSome)
    (chain : List JSClass) :
    ∀ run : List Access, (∀ a ∈ run, a.isGet = false → ∀ (props : OwnProperties) other value,
        P (props.lookup name) → P ((props.put other value).2.lookup name)) →
      KeepsOwn name P (Access.performAll h chain run)
  | [], _ => Keeps.pure _
  | a :: run, hput => by
    refine Keeps.bind ?_ fun _ =>
      performAll_keepsOwn hk hP chain run fun b hb => hput b (List.mem_cons_of_mem _ hb)
    cases a with
    | get other => exact Keeps.bind (get_keepsOwn h name hk hP chain other) fun _ => Keeps.pure _
    | put other value =>
      exact Keeps.bind (put_keepsOwn h name hk hP (hput _ (List.mem_cons_self _ _) rfl)
        chain other value) fun _ => Keeps.pure _

end

/-! ## The cache -/

theorem staticFunctionGetter_of_own {chain : List JSClass} {name : Name} {w : World}
    {p : Property} (hp : w.props.lookup name = some p) :
    (staticFunctionGetter chain name w).result = p.value ∧
      (staticFunctionGetter chain name w).world = w := by
  simp [staticFunctionGetter, hp]

/-- What the object's own property `name` is after the slot lookup: the host keeps it. -/
theorem getOwnPropertySlot_keeps_own {h : Host} {name : Name} (hk : HostKeeps h name)
    (chain : List JSClass) (w : World) :
    (getOwnPropertySlot h chain name w).world.props.lookup name = w.props.lookup name :=
  ((KeepsOwn.readLaw (P := (· = w.props.lookup name)) hk).getOwnPropertySlot chain name w
    rfl).1

/-- A read served by the static-function slot, on an object with an own property `name`,
returns that property's value: the slot lookup keeps it and the getter finds it. -/
theorem get_of_staticFunctionSlot {h : Host} {chain : List JSClass} {name : Name} {w : World}
    {p : Property} (hk : HostKeeps h name) (hp : w.props.lookup name = some p)
    (hslot : (getOwnPropertySlot h chain name w).result =
      some (.custom .readOnlyDontEnum .staticFunctionGetter)) :
    (get h chain name w).result = some p.value := by
  have hw := getOwnPropertySlot_keeps_own hk chain w
  simp only [get, Eng.bind_result, hslot, Eng.map_apply]
  rw [(staticFunctionGetter_of_own (hw.trans hp)).1]

/-- A class-level setter whose reply to this write the host declines falls through and, with
the host keeping the own property, keeps it. -/
theorem putCallback_of_declined {h : Host} {name : Name} {value : JSValue}
    (hk : HostKeeps h name)
    (hset : ∀ c w, c.field = .setProperty → c.args = .put name value →
      (h c w).1.result = false ∧ (h c w).1.exception = none) (jsClass : JSClass) (w : World) :
    (putCallback h name value jsClass w).result = none ∧
      (putCallback h name value jsClass w).world.props.lookup name = w.props.lookup name := by
  unfold putCallback
  cases pick jsClass.version jsClass.v0.setProperty jsClass.v1000.setPropertyEx jsClass.id with
  | none => simp
  | some setProperty =>
    obtain ⟨hr, he⟩ := hset ⟨jsClass.id, .setProperty, setProperty, .put name value⟩
      { w with locksHeld := false } rfl rfl
    simp only [answerOf, throwIfRaised, Bool.or_eq_true, Eng.bind_result, dropAllLocks_apply,
      invoke_apply, he, hr, Bool.false_eq_true, Option.isSome_none, or_self, ↓reduceIte,
      Eng.pure_apply, Eng.bind_world, hk _ _, and_self]

/-- THE OVERRIDE. Past classes with no static entry for the name, and with the host's setters
declining the write, a write that reaches a writable static-function entry on an object with
no own property of the name stores the value as a plain own property and says yes. -/
theorem put_overrides_staticFunction {h : Host} {name : Name} {value : JSValue}
    (hk : HostKeeps h name)
    (hset : ∀ c w, c.field = .setProperty → c.args = .put name value →
      (h c w).1.result = false ∧ (h c w).1.exception = none)
    (c : JSClass) (post : List JSClass) {entry : StaticFunctionEntry}
    (hv : c.staticValue name = none) (hf : c.staticFunction name = some entry)
    (hro : entry.attributes.readOnly = false) :
    ∀ (pre : List JSClass) (w : World),
      (∀ d ∈ pre, d.staticValue name = none ∧ d.staticFunction name = none) →
      w.props.lookup name = none →
      (put h (pre ++ c :: post) name value w).result = true ∧
        (put h (pre ++ c :: post) name value w).world.props.lookup name = some ⟨value, {}⟩
  | [], w, _, hn => by
    obtain ⟨hcb, hcw⟩ := putCallback_of_declined hk hset c w
    have hbody : ((putCallback h name value c).orElse ((putStaticValue h name value c).orElse
        (putStaticFunction name value c)) w).result = some true ∧
        ((putCallback h name value c).orElse ((putStaticValue h name value c).orElse
          (putStaticFunction name value c)) w).world.props.lookup name = some ⟨value, {}⟩ := by
      rw [Eng.orElse_of_none hcb]
      simp only [Eng.orElse, putStaticValue, hv, Eng.bind_result, emit_apply, Eng.pure_apply,
        putStaticFunction, hf, hro, Bool.false_eq_true, ↓reduceIte, Eng.bind_world,
        Parent.getOwnPropertySlot_apply, hcw, hn, Eng.map_apply, putDirect_apply,
        AList.lookup_insert, and_self]
    rw [List.nil_append, put, walkChain_cons_of_some hbody.1]
    exact ⟨rfl, hbody.2⟩
  | d :: pre, w, hpre, hn => by
    obtain ⟨hdv, hdf⟩ := hpre d (List.mem_cons_self _ _)
    obtain ⟨hcb, hcw⟩ := putCallback_of_declined hk hset d w
    have hbody : ((putCallback h name value d).orElse ((putStaticValue h name value d).orElse
        (putStaticFunction name value d)) w).result = none ∧
        ((putCallback h name value d).orElse ((putStaticValue h name value d).orElse
          (putStaticFunction name value d)) w).world.props.lookup name = none := by
      rw [Eng.orElse_of_none hcb]
      simp only [Eng.orElse, putStaticValue, hdv, Eng.bind_result, emit_apply, Eng.pure_apply,
        putStaticFunction, hdf, Eng.bind_world, hcw, hn, and_self]
    simp only [List.cons_append, put]
    rw [walkChain_cons_of_none hbody.1]
    exact put_overrides_staticFunction hk hset c post hv hf hro pre _
      (fun e he => hpre e (List.mem_cons_of_mem _ he)) hbody.2

/-- A read served by the slot on an object with no own property `name` materializes the first
offer of the chain; when there is none it throws the `ReferenceError` and stores nothing. -/
theorem get_of_fresh {h : Host} {chain : List JSClass} {name : Name} {w : World}
    (hk : HostKeeps h name) (hn : w.props.lookup name = none)
    (hslot : (getOwnPropertySlot h chain name w).result =
      some (.custom .readOnlyDontEnum .staticFunctionGetter)) :
    match materializable chain name with
    | some (entry, cb) =>
      ∃ cell, (get h chain name w).result = some (.callbackFunction cell cb name) ∧
        (get h chain name w).world.props.lookup name =
          some ⟨.callbackFunction cell cb name, entry.attributes⟩
    | none =>
      (get h chain name w).result = some (.referenceError
          "Static function property defined with NULL callAsFunction callback.") ∧
        (∃ x ∈ (get h chain name w).events, x.event = .throwException (.referenceError
          "Static function property defined with NULL callAsFunction callback.")) ∧
        (get h chain name w).world.props.lookup name = none := by
  have hw := (getOwnPropertySlot_keeps_own hk chain w).trans hn
  have hm := staticFunctionGetter_of_fresh chain name _ hw
  simp only [get, Eng.bind_world, Eng.bind_result, Eng.bind_events, hslot, Eng.map_apply]
  cases hmat : materializable chain name with
  | some offer =>
    obtain ⟨entry, cb⟩ := offer
    simp only [hmat] at hm
    exact ⟨_, congrArg some hm.1, by rw [hm.2, AList.lookup_insert]⟩
  | none =>
    simp only [hmat] at hm
    obtain ⟨x, hx, he⟩ := walk_staticFunctionGetter_throws name
      "Static function property defined with NULL callAsFunction callback." chain
      (getOwnPropertySlot h chain name w).world hmat
    refine ⟨congrArg some hm.1, ⟨x, List.mem_append_right _ ?_, he⟩, by rw [hm.2, hw]⟩
    simp only [staticFunctionGetter, Eng.bind_events, Parent.getOwnPropertySlot_apply, hw]
    exact List.mem_append_right _ hx

/-- What the cache of static functions guarantees for one chain and one name. -/
structure StaticFunctionCache (h : Host) (chain : List JSClass) (name : Name) : Prop where
  /-- Once the object has an own property `name`, every run of reads and writes, of any
  names, leaves it one, and never allocates or stores a callable for `name` again. -/
  present : ∀ run, KeepsOwn name (fun o => o.isSome) (Access.performAll h chain run)
  /-- A run of reads leaves the own property exactly as it was. -/
  stable : ∀ run p, (∀ a ∈ run, a.isGet = true) →
    KeepsOwn name (· = some p) (Access.performAll h chain run)
  /-- A read served by the static-function slot returns the current own value. -/
  cached : ∀ w p, w.props.lookup name = some p →
    (getOwnPropertySlot h chain name w).result =
      some (.custom .readOnlyDontEnum .staticFunctionGetter) →
    (get h chain name w).result = some p.value
  /-- A read served by the slot with no own property materializes the first offer of the
  chain: it returns the new callable and stores it with its entry's attributes; when no entry
  offers one it throws the `ReferenceError` and stores nothing. -/
  first : ∀ w, w.props.lookup name = none →
    (getOwnPropertySlot h chain name w).result =
      some (.custom .readOnlyDontEnum .staticFunctionGetter) →
    match materializable chain name with
    | some (entry, cb) =>
      ∃ cell, (get h chain name w).result = some (.callbackFunction cell cb name) ∧
        (get h chain name w).world.props.lookup name =
          some ⟨.callbackFunction cell cb name, entry.attributes⟩
    | none =>
      (get h chain name w).result = some (.referenceError
          "Static function property defined with NULL callAsFunction callback.") ∧
        (∃ x ∈ (get h chain name w).events, x.event = .throwException (.referenceError
          "Static function property defined with NULL callAsFunction callback.")) ∧
        (get h chain name w).world.props.lookup name = none
  /-- A write that reaches a writable static-function entry — past classes with no static
  entry for `name`, with the host's setters declining it — on an object with no own property
  `name` stores the value as a plain own property and says yes. -/
  override : ∀ pre c post entry value w, chain = pre ++ c :: post →
    (∀ d ∈ pre, d.staticValue name = none ∧ d.staticFunction name = none) →
    c.staticValue name = none → c.staticFunction name = some entry →
    entry.attributes.readOnly = false →
    (∀ call w', call.field = .setProperty → call.args = .put name value →
      (h call w').1.result = false ∧ (h call w').1.exception = none) →
    w.props.lookup name = none →
    (put h chain name value w).result = true ∧
      (put h chain name value w).world.props.lookup name = some ⟨value, {}⟩

/-- A class of the original generation with a class-level `getProperty` and a writable static
function `f`. -/
def getterFunctionClass : JSClass :=
  { id := 8, version := 0, v0 := { getProperty := some 15 },
    staticFunctions := [("f", { version := 0, v0 := { callAsFunction := some 16 } })] }

end JSCallbackObject

end JSC
