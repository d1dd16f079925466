import Ultralight.JSCallbackObject.Caching

/-!
# Deleting a property

`deleteProperty` walks the chain with its three blocks, and the generic delete runs only when
no block answers. A class's static-value or static-function entry for the name ANSWERS —
`true` unless the entry is `DontDelete` — and touches nothing: the entry stays in its class,
and the object's own property of the name stays on the object.

So a delete that says it succeeded removes the own property only when it ended in the generic
delete (`deleteProperty_generic`). When the chain has a static entry for the name the generic
delete never runs (`deleteProperty_keeps_of_static`), and with the deleters declining the first
such entry decides (`deleteProperty_first_static`): a callable `staticFunctionGetter`
materialized, or a value `put` stored over a static function, survives the delete, and the next
read served by the static-function slot returns it again.
-/

namespace JSC

/-- A host `deleteProperty` callback answered: it returned true or raised. -/
def Entry.deleterAnswered (x : Entry) : Bool :=
  match x.event with
  | .call c reply => decide (c.field = .deleteProperty) && (reply.result || reply.exception.isSome)
  | _ => false

/-- Some class of the chain has a static value or a static function for the name. -/
def HasStaticEntry (chain : List JSClass) (name : Name) : Prop :=
  ∃ c ∈ chain, (c.staticValue name).isSome ∨ (c.staticFunction name).isSome

namespace JSCallbackObject

variable (h : Host)

/-! ## One class of the walk -/

/-- A class-level deleter that answers leaves its answer in the trace. -/
theorem deletePropertyCallback_answered {name : Name} {jsClass : JSClass} {w : World}
    (hans : ((deletePropertyCallback h name jsClass w).result).isSome) :
    ∃ x ∈ (deletePropertyCallback h name jsClass w).events, x.deleterAnswered = true := by
  unfold deletePropertyCallback at hans ⊢
  cases hp : pick jsClass.version jsClass.v0.deleteProperty jsClass.v1000.deletePropertyEx
      jsClass.id with
  | none => simp [hp] at hans
  | some deleteProperty =>
    simp only [hp, answerOf, Eng.bind_result, Eng.bind_events, dropAllLocks_apply, invoke_apply,
      throwIfRaised_apply, Eng.pure_apply] at hans ⊢
    refine ⟨_, List.mem_append_left _ (List.mem_singleton_self _), ?_⟩
    simpa [Entry.deleterAnswered] using hans

/-- A class with a static entry for the name answers every delete of it. -/
theorem deleteProperty_body_answers {name : Name} {jsClass : JSClass}
    (hstatic : (jsClass.staticValue name).isSome ∨ (jsClass.staticFunction name).isSome)
    (w : World) :
    (((deletePropertyCallback h name jsClass).orElse ((deletePropertyStaticValue name jsClass).orElse
      (deletePropertyStaticFunction name jsClass)) w).result).isSome := by
  refine Eng.orElse_isSome_of_next (fun w => ?_) w
  rcases hstatic with hv | hf
  · exact Eng.orElse_isSome_of_first (fun _ => by simpa [deletePropertyStaticValue] using hv) w
  · exact Eng.orElse_isSome_of_next (fun _ => by simpa [deletePropertyStaticFunction] using hf) w

/-- Past a declining deleter, a class answers with its static entries: the static value's
`!dontDelete`, else the static function's, else nothing. -/
theorem deleteProperty_body_of_declined {name : Name} {jsClass : JSClass} {w : World}
    (hcb : (deletePropertyCallback h name jsClass w).result = none) :
    ((deletePropertyCallback h name jsClass).orElse ((deletePropertyStaticValue name jsClass).orElse
      (deletePropertyStaticFunction name jsClass)) w).result =
      ((jsClass.staticValue name).map fun e => !e.attributes.dontDelete).or
        ((jsClass.staticFunction name).map fun e => !e.attributes.dontDelete) := by
  rw [Eng.orElse_of_none hcb]
  cases hv : jsClass.staticValue name <;>
    simp [Eng.orElse, deletePropertyStaticValue, deletePropertyStaticFunction, hv]

/-- A class's deleter that leaves no answer in the walk's trace declines. -/
theorem deletePropertyCallback_of_quiet {name : Name} {c : JSClass} {cs : List JSClass}
    {w : World}
    (hquiet : ∀ x ∈ (deleteProperty h (c :: cs) name w).events, x.deleterAnswered = false) :
    (deletePropertyCallback h name c w).result = none := by
  cases hr : (deletePropertyCallback h name c w).result with
  | none => rfl
  | some b =>
    obtain ⟨x, hx, hans⟩ := deletePropertyCallback_answered h
      (show ((deletePropertyCallback h name c w).result).isSome by simp [hr])
    have := hquiet x (mem_walkChain_cons_events (by rw [Eng.orElse_of_some hr]; exact hx))
    simp [hans] at this

/-- A delete's body keeps what every read keeps: it is a deleter call and two table
lookups. -/
theorem deleteProperty_body_keeps {inv : World → Prop} {good : Entry → Prop}
    (hl : ReadLaw h inv good) (name : Name) (jsClass : JSClass) :
    Keeps inv good ((deletePropertyCallback h name jsClass).orElse
      ((deletePropertyStaticValue name jsClass).orElse (deletePropertyStaticFunction name jsClass))) :=
  Keeps.orElse (hl.deletePropertyCallback name jsClass)
    (Keeps.orElse (Keeps.bind (hl.lookup _ _ _) fun _ => Keeps.pure _)
      (Keeps.bind (hl.lookup _ _ _) fun _ => Keeps.pure _))

/-- Over a chain with a static entry for the name, a delete keeps what every read keeps: the
walk stops at that class at the latest, so it never reaches the generic delete. -/
theorem deleteProperty_keeps_of_static {inv : World → Prop} {good : Entry → Prop}
    (hl : ReadLaw h inv good) {chain : List JSClass} {name : Name}
    (hstatic : HasStaticEntry chain name) : Keeps inv good (deleteProperty h chain name) :=
  let ⟨c, hc, hs⟩ := hstatic
  Keeps.walkChain_of_answers (deleteProperty_body_keeps h hl name) chain
    ⟨c, hc, deleteProperty_body_answers h hs⟩

/-- No primitive of a read runs the generic delete. -/
theorem readLaw_noGenericDelete (name : Name) :
    ReadLaw h (fun _ => True) (fun x => x.event ≠ .parent (.deleteProperty name)) :=
  ⟨fun _ _ _ => Keeps.emit fun _ _ => by simp, fun _ => Keeps.emit fun _ _ => by simp,
    fun _ _ _ => by simp, fun _ _ _ => by simp⟩

/-! ## The ways a delete ends -/

/-- Past a class with no static entry for the name whose deleter stays quiet, the delete is the
delete over the rest of the chain, from the world that class leaves. -/
theorem deleteProperty_cons_of_quiet {name : Name} {d : JSClass} {cs : List JSClass}
    {w : World} (hv : d.staticValue name = none) (hf : d.staticFunction name = none)
    (hquiet : ∀ x ∈ (deleteProperty h (d :: cs) name w).events, x.deleterAnswered = false) :
    ∃ w', (deleteProperty h (d :: cs) name w).result = (deleteProperty h cs name w').result ∧
      (deleteProperty h (d :: cs) name w).world = (deleteProperty h cs name w').world ∧
      ∀ x ∈ (deleteProperty h cs name w').events, x.deleterAnswered = false := by
  have hnone := deleteProperty_body_of_declined h (deletePropertyCallback_of_quiet h hquiet)
  rw [hv, hf] at hnone
  simp only [deleteProperty] at hquiet ⊢
  rw [walkChain_cons_of_none hnone] at hquiet ⊢
  exact ⟨_, rfl, rfl, fun x hx => hquiet x (List.mem_append_right _ hx)⟩

/-- Past classes with no static entry for the name and deleters that decline, the walk ends in
the generic delete: when it says true, the object has no own property of the name. -/
theorem deleteProperty_generic (name : Name) :
    ∀ (chain : List JSClass) (w : World),
      (∀ c ∈ chain, c.staticValue name = none ∧ c.staticFunction name = none) →
      (deleteProperty h chain name w).result = true →
      (∀ x ∈ (deleteProperty h chain name w).events, x.deleterAnswered = false) →
      (deleteProperty h chain name w).world.props.lookup name = none
  | [], _, _, hres, _ => OwnProperties.delete_lookup_of_true hres
  | c :: cs, w, hstatic, hres, hquiet => by
    obtain ⟨hv, hf⟩ := hstatic c (List.mem_cons_self _ _)
    obtain ⟨w', hr, hw, hq⟩ := deleteProperty_cons_of_quiet h hv hf hquiet
    rw [hw]
    exact deleteProperty_generic name cs w' (fun d hd => hstatic d (List.mem_cons_of_mem _ hd))
      (hr ▸ hres) hq

/-- With no host deleter answering, the first class with a static entry for the name decides
the delete: its static value's `!dontDelete`, else its static function's. -/
theorem deleteProperty_first_static (name : Name) (c : JSClass) (post : List JSClass)
    (hc : (c.staticValue name).isSome ∨ (c.staticFunction name).isSome) :
    ∀ (pre : List JSClass) (w : World),
      (∀ d ∈ pre, d.staticValue name = none ∧ d.staticFunction name = none) →
      (∀ x ∈ (deleteProperty h (pre ++ c :: post) name w).events, x.deleterAnswered = false) →
      some (deleteProperty h (pre ++ c :: post) name w).result =
        ((c.staticValue name).map fun e => !e.attributes.dontDelete).or
          ((c.staticFunction name).map fun e => !e.attributes.dontDelete)
  | [], w, _, hquiet => by
    obtain ⟨b, hb⟩ := Option.isSome_iff_exists.mp (deleteProperty_body_answers h hc w)
    rw [List.nil_append, deleteProperty, walkChain_cons_of_some hb, ← hb,
      deleteProperty_body_of_declined h (deletePropertyCallback_of_quiet h hquiet)]
  | d :: pre, w, hpre, hquiet => by
    obtain ⟨hv, hf⟩ := hpre d (List.mem_cons_self _ _)
    obtain ⟨w', hr, -, hq⟩ := deleteProperty_cons_of_quiet h hv hf hquiet
    exact (congrArg some hr).trans (deleteProperty_first_static name c post hc pre w'
      (fun e he => hpre e (List.mem_cons_of_mem _ he)) hq)

/-- When the chain has a static entry for the name, the walk never reaches the generic delete:
the object's own property of the name is left as the host's deleters leave it. -/
theorem deleteProperty_keeps_own {name : Name} (hk : HostKeeps h name) (chain : List JSClass)
    (hstatic : HasStaticEntry chain name) (w : World) :
    (deleteProperty h chain name w).world.props.lookup name = w.props.lookup name :=
  (deleteProperty_keeps_of_static h (KeepsOwn.readLaw (P := (· = w.props.lookup name)) hk)
    hstatic w rfl).1

/-! ## What a delete that says yes leaves -/

/-- THE DELETION LAW. Over every chain, host and object state: a delete of a name no class of
the chain has a static entry for, answering true with no host deleter answering, leaves no own
property of the name. Over a chain WITH a static entry for the name the generic delete never
runs; with no host deleter answering, the first class with a static entry decides, true unless
that entry (its static value, else its static function) is `DontDelete`; and with a host whose
callbacks keep the own property, the delete leaves the own property exactly as it was, and a
later read of the name served by the static-function slot returns it. -/
theorem deleteProperty_own_property (chain : List JSClass) (name : Name) (w : World) :
    ((∀ c ∈ chain, c.staticValue name = none ∧ c.staticFunction name = none) →
      (deleteProperty h chain name w).result = true →
      (∀ x ∈ (deleteProperty h chain name w).events, x.deleterAnswered = false) →
      (deleteProperty h chain name w).world.props.lookup name = none) ∧
    (HasStaticEntry chain name →
      ∀ x ∈ (deleteProperty h chain name w).events, x.event ≠ .parent (.deleteProperty name)) ∧
    (∀ pre c post, chain = pre ++ c :: post →
      (∀ d ∈ pre, d.staticValue name = none ∧ d.staticFunction name = none) →
      (∀ x ∈ (deleteProperty h chain name w).events, x.deleterAnswered = false) →
      (∀ e, c.staticValue name = some e →
        (deleteProperty h chain name w).result = !e.attributes.dontDelete) ∧
      (c.staticValue name = none → ∀ e, c.staticFunction name = some e →
        (deleteProperty h chain name w).result = !e.attributes.dontDelete)) ∧
    (HostKeeps h name → HasStaticEntry chain name →
      (deleteProperty h chain name w).world.props.lookup name = w.props.lookup name ∧
      ∀ p, w.props.lookup name = some p →
        (getOwnPropertySlot h chain name (deleteProperty h chain name w).world).result =
          some (.custom .readOnlyDontEnum .staticFunctionGetter) →
        (get h chain name (deleteProperty h chain name w).world).result = some p.value) := by
  refine ⟨deleteProperty_generic h name chain w, fun hstatic =>
    (deleteProperty_keeps_of_static h (readLaw_noGenericDelete h name) hstatic w trivial).2,
    ?_, fun hk hstatic => ?_⟩
  · rintro pre c post rfl hpre hquiet
    refine ⟨fun e hv => ?_, fun hv e hf => ?_⟩
    · have := deleteProperty_first_static h name c post (.inl (by simp [hv])) pre w hpre hquiet
      simpa [hv] using this
    · have := deleteProperty_first_static h name c post (.inr (by simp [hf])) pre w hpre hquiet
      simpa [hv, hf] using this
  · have hkeep := deleteProperty_keeps_own h hk chain hstatic w
    exact ⟨hkeep, fun _ hp hslot => get_of_staticFunctionSlot hk (hkeep.trans hp) hslot⟩

/-- The object after a read of `f` through `legacyFunctionClass` materialized its callable. -/
def materializedWorld : World := (get Host.silent [legacyFunctionClass] "f" World.fresh).world

/-- The object after a write stored `1` over the static function `f` of
`legacyFunctionClass`. -/
def overriddenWorld : World :=
  (put Host.silent [legacyFunctionClass] "f" (.number 1) World.fresh).world

/-- A delete of `f` answers true and calls no host callback, yet the callable a read
materialized (in cell 0), and the value a write stored over the static function, are still the
object's own property `f`, and the next read returns them. -/
theorem delete_keeps_materialized_and_override :
    (deleteProperty Host.silent [legacyFunctionClass] "f" materializedWorld).result = true ∧
      (deleteProperty Host.silent [legacyFunctionClass] "f" materializedWorld).hostCalls = [] ∧
      (deleteProperty Host.silent [legacyFunctionClass] "f"
        materializedWorld).world.props.lookup "f" =
          some ⟨.callbackFunction 0 (.legacy 14) "f", {}⟩ ∧
      (get Host.silent [legacyFunctionClass] "f" (deleteProperty Host.silent
        [legacyFunctionClass] "f" materializedWorld).world).result =
          some (.callbackFunction 0 (.legacy 14) "f") ∧
      (deleteProperty Host.silent [legacyFunctionClass] "f" overriddenWorld).result = true ∧
      (deleteProperty Host.silent [legacyFunctionClass] "f" overriddenWorld).hostCalls = [] ∧
      (deleteProperty Host.silent [legacyFunctionClass] "f"
        overriddenWorld).world.props.lookup "f" = some ⟨.number 1, {}⟩ ∧
      (get Host.silent [legacyFunctionClass] "f" (deleteProperty Host.silent
        [legacyFunctionClass] "f" overriddenWorld).world).result = some (.number 1) :=
  ⟨rfl, rfl, rfl, rfl, rfl, rfl, rfl, rfl⟩

end JSCallbackObject

end JSC
