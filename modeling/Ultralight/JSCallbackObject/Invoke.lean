import Ultralight.JSCallbackObject.Engine

/-!
# Conversion, instance checks, calls and construction

Four walks in which the first class with the callback answers alone: `defaultValue`
(`convertToType`; a null result lets the walk go on), `customHasInstance` (`hasInstance`;
no such class means false), and `call` and `construct` (`callAsFunction`,
`callAsConstructor`). The last two have a CAPABILITY PROBE each — `getCallData`,
`getConstructData` — which the engine consults before it ever calls them; reaching the end
of the chain in `call` or `construct` is `RELEASE_ASSERT_NOT_REACHED()`.

The probe and the dispatcher are written differently: the probe tests
`(version == 0 && v0.X) || (version == 1000 && v1000.XEx)`, the dispatcher selects two
version-guarded locals. `probe_gates_dispatch` proves they agree, and that the assert is
never reached behind a probe that said yes.

`defaultValue` calls `convertToType` with the engine lock HELD: it is the one callback site
of this file with no `JSLock::DropAllLocks` scope, and the model keeps it so.
-/

namespace JSC

/-- The frame a call or a construction runs in: `exec->thisValue()` (already through
`toThis(exec, NotStrictMode)`) and the arguments `exec->uncheckedArgument(i)`. -/
structure CallFrame where
  thisValue : JSValue
  arguments : List JSValue

/-- `exec->argumentCount()`. -/
def CallFrame.argumentCount (frame : CallFrame) : Nat := frame.arguments.length

@[simp] theorem CallFrame.argumentCount_eq (frame : CallFrame) :
    frame.argumentCount = frame.arguments.length := rfl

/-- `exec->uncheckedArgument(i)`. -/
def CallFrame.uncheckedArgument (frame : CallFrame) (i : Nat) : JSValue :=
  frame.arguments.getD i .undefined

/-- What `call` and `construct` hand back: an encoded value (null when the host returned
none), or the process stopped at `RELEASE_ASSERT_NOT_REACHED()`. -/
inductive Encoded where
  | value (v : Option JSValue)
  | notReached
  deriving DecidableEq, Repr

/-- `CallType` and `ConstructType`: whether the object can be called (constructed), and
then by the host function `call` (`construct`). -/
inductive CallType where
  | none | host
  deriving DecidableEq, Repr

namespace JSCallbackObject

variable (h : Host)

/-- The marshalling loop of `call` and `construct`, from index `i` with `k` arguments left:
`for (size_t i = 0; i < argumentCount; ++i)
  arguments.uncheckedAppend(toRef(exec, exec->uncheckedArgument(i)));` -/
def appendArguments (frame : CallFrame) : Nat → Nat → List JSValue → List JSValue
  | _, 0, arguments => arguments
  | i, k + 1, arguments => appendArguments frame (i + 1) k (arguments ++ [frame.uncheckedArgument i])

/-- `RELEASE_ASSERT_NOT_REACHED()`. -/
def releaseAssertNotReached : Eng Encoded := do
  emit .notReached
  pure .notReached

/-! ## `defaultValue` -/

/-- One class of `defaultValue`'s walk: the class's `convertToType` — called with the lock
held. -/
def defaultValueStep (jsHint : JSType) (jsClass : JSClass) : Eng (Option JSValue) :=
  match pick jsClass.version jsClass.v0.convertToType jsClass.v1000.convertToTypeEx
      jsClass.id with
  | none => pure none
  | some convertToType => do
    let reply ← invoke h ⟨jsClass.id, .convertToType, convertToType, .convertToType jsHint⟩
    answerValue reply .undefined id

/-- `JSCallbackObject<Parent>::defaultValue`. -/
def defaultValue (chain : List JSClass) (hint : PreferredPrimitiveType) : Eng JSValue :=
  walkChain (defaultValueStep h (if hint = .preferString then .string else .number))
    (Parent.defaultValue hint) chain

/-! ## `customHasInstance` -/

/-- One class of `customHasInstance`'s walk: the class's `hasInstance` answers, raised or
not. -/
def customHasInstanceStep (value : JSValue) (jsClass : JSClass) : Eng (Option Bool) :=
  match pick jsClass.version jsClass.v0.hasInstance jsClass.v1000.hasInstanceEx jsClass.id with
  | none => pure none
  | some hasInstance => do
    let reply ← dropAllLocks (invoke h ⟨jsClass.id, .hasInstance, hasInstance, .hasInstance value⟩)
    throwIfRaised reply
    pure (some reply.result)

/-- `JSCallbackObject<Parent>::customHasInstance`. -/
def customHasInstance (chain : List JSClass) (value : JSValue) : Eng Bool :=
  walkChain (customHasInstanceStep h value) (pure false) chain

/-! ## `call` -/

/-- `JSCallbackObject<Parent>::getCallData`: the capability probe. -/
def getCallData : List JSClass → CallType
  | [] => .none
  | jsClass :: parents =>
    if (jsClass.version = 0 ∧ jsClass.v0.callAsFunction.isSome) ∨
        (jsClass.version = 1000 ∧ jsClass.v1000.callAsFunctionEx.isSome) then .host
    else getCallData parents

/-- One class of `call`'s walk: the class's `callAsFunction` is called with the frame's
`this` and arguments, and its result is the call's. -/
def callStep (frame : CallFrame) (jsClass : JSClass) : Eng (Option Encoded) :=
  match pick jsClass.version jsClass.v0.callAsFunction jsClass.v1000.callAsFunctionEx
      jsClass.id with
  | none => pure none
  | some callAsFunction => do
    let reply ← dropAllLocks (invoke h ⟨jsClass.id, .callAsFunction, callAsFunction,
      .call frame.thisValue frame.argumentCount (appendArguments frame 0 frame.argumentCount [])⟩)
    throwIfRaised reply
    pure (some (.value reply.value))

/-- `JSCallbackObject<Parent>::call`, over the callee's chain. -/
def call (chain : List JSClass) (frame : CallFrame) : Eng Encoded :=
  walkChain (callStep h frame) releaseAssertNotReached chain

/-! ## `construct` -/

/-- `JSCallbackObject<Parent>::getConstructData`: the capability probe. -/
def getConstructData : List JSClass → CallType
  | [] => .none
  | jsClass :: parents =>
    if (jsClass.version = 0 ∧ jsClass.v0.callAsConstructor.isSome) ∨
        (jsClass.version = 1000 ∧ jsClass.v1000.callAsConstructorEx.isSome) then .host
    else getConstructData parents

/-- One class of `construct`'s walk: the class's `callAsConstructor`. -/
def constructStep (frame : CallFrame) (jsClass : JSClass) : Eng (Option Encoded) :=
  match pick jsClass.version jsClass.v0.callAsConstructor jsClass.v1000.callAsConstructorEx
      jsClass.id with
  | none => pure none
  | some callAsConstructor => do
    let reply ← dropAllLocks (invoke h ⟨jsClass.id, .callAsConstructor, callAsConstructor,
      .construct frame.argumentCount (appendArguments frame 0 frame.argumentCount [])⟩)
    throwIfRaised reply
    pure (some (.value reply.value))

/-- `JSCallbackObject<Parent>::construct`, over the constructor's chain. -/
def construct (chain : List JSClass) (frame : CallFrame) : Eng Encoded :=
  walkChain (constructStep h frame) releaseAssertNotReached chain

/-! ## The probes agree with the dispatchers -/

/-- The probe's test of one class holds exactly when the dispatcher's locals select a
callback. -/
theorem probe_iff_pick (version : Int) (legacy extended : Option Fn) (jsClass : ClassId) :
    ((version = 0 ∧ legacy.isSome) ∨ (version = 1000 ∧ extended.isSome)) ↔
      (pick version legacy extended jsClass).isSome := by
  by_cases h0 : version = 0
  · subst h0; simp
  · by_cases h1 : version = 1000
    · subst h1; simp
    · simp [h0, h1, pick_other h0 h1]

theorem appendArguments_eq (frame : CallFrame) (k : Nat) :
    ∀ (i : Nat) (arguments : List JSValue), i + k ≤ frame.arguments.length →
      appendArguments frame i k arguments = arguments ++ (frame.arguments.drop i).take k := by
  induction k with
  | zero => intro i arguments _; simp [appendArguments]
  | succ k ih =>
    intro i arguments hk
    have hi : i < frame.arguments.length := by omega
    rw [appendArguments, ih (i + 1) _ (by omega)]
    conv_rhs => rw [List.drop_eq_getElem_cons hi, List.take_succ_cons]
    simp [CallFrame.uncheckedArgument, List.getElem?_eq_getElem hi]

/-- The marshalled arguments are the frame's, all of them, in order. -/
theorem appendArguments_all (frame : CallFrame) :
    appendArguments frame 0 frame.arguments.length [] = frame.arguments := by
  rw [appendArguments_eq frame _ 0 [] (by simp)]
  simp

/-- Both dispatchers end alike once a callback is selected: it is invoked with the locks
dropped, its exception re-thrown, and its value answered — one host call, a value, and never
`notReached`. -/
theorem invoke_answer (c : HostCall) (w : World) :
    let s := (dropAllLocks (invoke h c) >>= fun reply => throwIfRaised reply >>= fun _ =>
      pure (some (Encoded.value reply.value))) w
    s.hostCalls = [c] ∧ (∃ v, s.result = some (.value v)) ∧ ∀ x ∈ s.events, x.event ≠ .notReached := by
  -- the trace is the call, then the exception it raised if any
  simp only [Step.hostCalls, Eng.bind_events, dropAllLocks_apply, invoke_apply,
    throwIfRaised_apply, Eng.pure_apply, List.append_nil]
  refine ⟨?_, ⟨_, rfl⟩, ?_⟩
  · cases (h c { w with locksHeld := false }).1.exception <;> rfl
  · cases (h c { w with locksHeld := false }).1.exception <;> simp

/-- A class the probe accepts makes `call` invoke exactly its callback, with the frame's
`this`, argument count and arguments. -/
theorem callStep_of_pick {frame : CallFrame} {jsClass : JSClass} {cb : Callback}
    (hsel : pick jsClass.version jsClass.v0.callAsFunction jsClass.v1000.callAsFunctionEx
      jsClass.id = some cb) (w : World) :
    (callStep h frame jsClass w).hostCalls =
        [⟨jsClass.id, .callAsFunction, cb,
          .call frame.thisValue frame.arguments.length frame.arguments⟩] ∧
      (∃ v, (callStep h frame jsClass w).result = some (.value v)) ∧
      ∀ x ∈ (callStep h frame jsClass w).events, x.event ≠ .notReached := by
  simp only [callStep, hsel, CallFrame.argumentCount_eq, appendArguments_all]
  exact invoke_answer h _ w

/-- The same for `construct`. -/
theorem constructStep_of_pick {frame : CallFrame} {jsClass : JSClass} {cb : Callback}
    (hsel : pick jsClass.version jsClass.v0.callAsConstructor jsClass.v1000.callAsConstructorEx
      jsClass.id = some cb) (w : World) :
    (constructStep h frame jsClass w).hostCalls =
        [⟨jsClass.id, .callAsConstructor, cb,
          .construct frame.arguments.length frame.arguments⟩] ∧
      (∃ v, (constructStep h frame jsClass w).result = some (.value v)) ∧
      ∀ x ∈ (constructStep h frame jsClass w).events, x.event ≠ .notReached := by
  simp only [constructStep, hsel, CallFrame.argumentCount_eq, appendArguments_all]
  exact invoke_answer h _ w

/-- `getCallData` answers `Host` exactly for a chain with a class whose call callback is of
its own generation. -/
theorem getCallData_eq_host_iff (chain : List JSClass) :
    getCallData chain = .host ↔ ∃ c ∈ chain,
      (c.version = 0 ∧ c.v0.callAsFunction.isSome) ∨
        (c.version = 1000 ∧ c.v1000.callAsFunctionEx.isSome) := by
  induction chain with
  | nil => simp [getCallData]
  | cons c cs ih => by_cases hc : (c.version = 0 ∧ c.v0.callAsFunction.isSome) ∨
        (c.version = 1000 ∧ c.v1000.callAsFunctionEx.isSome) <;> simp [getCallData, hc, ih]

/-- `getConstructData` answers `Host` exactly for a chain with a class whose construct
callback is of its own generation. -/
theorem getConstructData_eq_host_iff (chain : List JSClass) :
    getConstructData chain = .host ↔ ∃ c ∈ chain,
      (c.version = 0 ∧ c.v0.callAsConstructor.isSome) ∨
        (c.version = 1000 ∧ c.v1000.callAsConstructorEx.isSome) := by
  induction chain with
  | nil => simp [getConstructData]
  | cons c cs ih => by_cases hc : (c.version = 0 ∧ c.v0.callAsConstructor.isSome) ∨
        (c.version = 1000 ∧ c.v1000.callAsConstructorEx.isSome) <;>
      simp [getConstructData, hc, ih]

/-- What a dispatch gated by its probe does over `chain`: it invokes exactly one host
callback — the `field` callback of the first class that has one of its own generation
(`legacy` for version 0, `extended`, passed the class, for version 1000) — passing `args`,
and it never reaches `RELEASE_ASSERT_NOT_REACHED()`. -/
def CallsFirst (field : Field) (legacy extended : JSClass → Option Fn) (args : Args)
    (chain : List JSClass) (s : Step Encoded) : Prop :=
  ∃ pre jsClass post fn cb, chain = pre ++ jsClass :: post ∧
    (∀ c ∈ pre, pick c.version (legacy c) (extended c) c.id = none) ∧
    ((jsClass.version = 0 ∧ legacy jsClass = some fn ∧ cb = .legacy fn) ∨
      (jsClass.version = 1000 ∧ extended jsClass = some fn ∧ cb = .extended fn jsClass.id)) ∧
    s.hostCalls = [⟨jsClass.id, field, cb, args⟩] ∧
    s.result ≠ .notReached ∧ ∀ x ∈ s.events, x.event ≠ .notReached

/-- A walk that skips the classes without the callback and calls the callback of a class
that has one satisfies `CallsFirst` as soon as some class has one. -/
theorem walkChain_callsFirst {step : JSClass → Eng (Option Encoded)} {field : Field}
    {legacy extended : JSClass → Option Fn} {args : Args}
    (hskip : ∀ c w, pick c.version (legacy c) (extended c) c.id = none →
      step c w = ⟨none, w, []⟩)
    (hcall : ∀ c w cb, pick c.version (legacy c) (extended c) c.id = some cb →
      (step c w).hostCalls = [⟨c.id, field, cb, args⟩] ∧
      (∃ v, (step c w).result = some (.value v)) ∧
        ∀ x ∈ (step c w).events, x.event ≠ .notReached)
    {chain : List JSClass}
    (hex : ∃ c ∈ chain, (pick c.version (legacy c) (extended c) c.id).isSome) (w : World) :
    CallsFirst field legacy extended args chain
      (walkChain step releaseAssertNotReached chain w) := by
  obtain ⟨pre, c, post, cb, a, rfl, hpre, hsel, ha, hwalk⟩ :=
    walkChain_first releaseAssertNotReached hskip
      (fun c w b hb => by obtain ⟨_, ⟨v, hv⟩, _⟩ := hcall c w b hb; simp [hv]) hex w
  obtain ⟨hcalls, ⟨v, hv⟩, hnot⟩ := hcall c w cb hsel
  obtain ⟨fn, hfn⟩ := pick_eq_some hsel
  have ha' : a = .value v := Option.some.inj (ha.symm.trans hv)
  refine ⟨pre, c, post, fn, cb, rfl, hpre, hfn, ?_, ?_, ?_⟩ <;> rw [hwalk]
  · exact hcalls
  · rw [ha']; simp
  · exact hnot

/-- THE CALL LAW. `getCallData` answers `Host` exactly when some class of the chain has a
call callback of its own generation, and then `call` invokes exactly one host callback — that
of the first such class, passed the class if it is Extended — with the argument count and
every argument of the frame in order, never reaching the assert. The same holds of
`getConstructData` and `construct`. -/
theorem probe_gates_dispatch (chain : List JSClass) (frame : CallFrame) (w : World) :
    (getCallData chain = .host ↔ ∃ c ∈ chain,
      (c.version = 0 ∧ c.v0.callAsFunction.isSome) ∨
        (c.version = 1000 ∧ c.v1000.callAsFunctionEx.isSome)) ∧
    (getCallData chain = .host →
      CallsFirst .callAsFunction (·.v0.callAsFunction) (·.v1000.callAsFunctionEx)
        (.call frame.thisValue frame.arguments.length frame.arguments) chain
        (call h chain frame w)) ∧
    (getConstructData chain = .host ↔ ∃ c ∈ chain,
      (c.version = 0 ∧ c.v0.callAsConstructor.isSome) ∨
        (c.version = 1000 ∧ c.v1000.callAsConstructorEx.isSome)) ∧
    (getConstructData chain = .host →
      CallsFirst .callAsConstructor (·.v0.callAsConstructor) (·.v1000.callAsConstructorEx)
        (.construct frame.arguments.length frame.arguments) chain
        (construct h chain frame w)) := by
  refine ⟨getCallData_eq_host_iff chain, fun hprobe => ?_,
    getConstructData_eq_host_iff chain, fun hprobe => ?_⟩
  · obtain ⟨c, hc, hp⟩ := (getCallData_eq_host_iff chain).mp hprobe
    exact walkChain_callsFirst (fun c w hc => by simp [callStep, hc])
      (fun c w cb hcb => callStep_of_pick h hcb w) ⟨c, hc, (probe_iff_pick _ _ _ _).mp hp⟩ w
  · obtain ⟨c, hc, hp⟩ := (getConstructData_eq_host_iff chain).mp hprobe
    exact walkChain_callsFirst (fun c w hc => by simp [constructStep, hc])
      (fun c w cb hcb => constructStep_of_pick h hcb w)
      ⟨c, hc, (probe_iff_pick _ _ _ _).mp hp⟩ w

end JSCallbackObject

end JSC
