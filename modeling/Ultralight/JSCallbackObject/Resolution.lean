import Ultralight.JSCallbackObject.Property
import Ultralight.JSCallbackObject.Faults
import Ultralight.JSCallbackObject.Invoke

/-!
# Resolution order

What the dispatch operations are FOR, said once: an operation consults ELEMENTS — for each
class of the chain, object's class first, its class-level callback, then its static-value
entry for the name, then its static-function entry — and the first element that answers
decides; the generic object's operation runs only when none does. `firstAnswer` is that
resolution over a flat list of elements, and the code's nested loop (a chain walk whose body
falls through three blocks) is the same computation (`walkChain_blocks_eq_firstAnswer`).

An element that consults only itself and makes at most one host call gives a run whose
consulted elements come in resolution order — it never goes back to an element, or a class,
it has left — and which calls no callback of a class twice (`firstAnswer_resolvesInOrder`).
`put`, `deleteProperty`, `defaultValue`, `customHasInstance`, `call` and `construct` are made
of such elements over every acyclic chain, and so is `putByIndex` away from the static-value
setter guard (`dispatch_resolves_in_order`).

The read is not. Its static-value element asks `getStaticValue`, which walks the whole chain
again from the object's class, and the `callbackGetter` slot it installs asks every class's
`getProperty` again — those of the classes it has already left included. Behind the setter
guard, `putByIndex`'s static-value element calls the CLASS's setter a second time.
-/

namespace JSC

/-! ## Elements and their order -/

/-- Which element of its class a host callback belongs to: a static entry's accessor belongs
to the static-value entry (1), every other callback to the class-level callbacks (0). -/
def Field.element : Field → Nat
  | .staticGetProperty | .staticSetProperty => 1
  | _ => 0

/-- The element a static table stands for within its class. -/
def Table.element : Table → Nat
  | .staticValues => 1
  | .staticFunctions => 2

/-- The element an event consults, as its class and its place in the class: the class-level
callbacks (0), the static-value entry (1) or the static-function entry (2). Throws, stores
and the generic object's operations consult no element. -/
def Event.consults : Event → Option (ClassId × Nat)
  | .call c _ => some (c.owner, c.field.element)
  | .lookup jsClass table _ => some (jsClass, table.element)
  | _ => none

/-- The element an entry consults. -/
def Entry.consults (x : Entry) : Option (ClassId × Nat) := x.event.consults

theorem Entry.consults_of_hostCall {x : Entry} {c : HostCall} (h : x.hostCall? = some c) :
    x.consults = some (c.owner, c.field.element) := by
  unfold Entry.hostCall? at h
  unfold Entry.consults Event.consults
  split at h <;> simp_all

/-- The place of an element in the resolution order of a chain: three places per class, in
chain order. -/
def rank (chain : List JSClass) (element : ClassId × Nat) : Nat :=
  3 * chain.findIdx (·.id = element.1) + element.2

theorem rank_cons_self (jsClass : JSClass) (parents : List JSClass) (j : Nat) :
    rank (jsClass :: parents) (jsClass.id, j) = j := by
  simp [rank, List.findIdx_cons]

theorem rank_cons_of_ne {jsClass : JSClass} {element : ClassId × Nat}
    (hne : jsClass.id ≠ element.1) (parents : List JSClass) :
    rank (jsClass :: parents) element = rank parents element + 3 := by
  simp [rank, List.findIdx_cons, hne]
  omega

/-- A run that resolves in order: the elements it consults come in resolution order — it
never goes back to an element, or a class, it has left — and no callback of a class is
called twice. -/
structure ResolvesInOrder (chain : List JSClass) (events : List Entry) : Prop where
  ordered : ((events.filterMap Entry.consults).map (rank chain)).Pairwise (· ≤ ·)
  callsOnce : ((events.filterMap Entry.hostCall?).map fun c => (c.owner, c.field)).Nodup

theorem ResolvesInOrder.hostCalls_nodup {chain : List JSClass} {s : Step α}
    (hr : ResolvesInOrder chain s.events) : (s.hostCalls.map fun c => (c.owner, c.field)).Nodup :=
  hr.callsOnce

/-- A host call of a trace consults the element its callback belongs to. -/
theorem consults_of_mem_hostCalls {xs : List Entry} {c : HostCall}
    (hc : c ∈ xs.filterMap Entry.hostCall?) :
    (c.owner, c.field.element) ∈ xs.filterMap Entry.consults := by
  obtain ⟨x, hx, hxc⟩ := List.mem_filterMap.mp hc
  exact List.mem_filterMap.mpr ⟨x, hx, Entry.consults_of_hostCall hxc⟩

/-- Two runs in order, every element the first consults ranked strictly below every element
the second consults, are in order one after the other. -/
theorem ResolvesInOrder.append {chain : List JSClass} {xs ys : List Entry}
    (hxs : ResolvesInOrder chain xs) (hys : ResolvesInOrder chain ys)
    (hlt : ∀ k ∈ xs.filterMap Entry.consults, ∀ k' ∈ ys.filterMap Entry.consults,
      rank chain k < rank chain k') :
    ResolvesInOrder chain (xs ++ ys) where
  ordered := by
    simp only [List.filterMap_append, List.map_append, List.pairwise_append, List.mem_map]
    refine ⟨hxs.ordered, hys.ordered, ?_⟩
    rintro _ ⟨k, hk, rfl⟩ _ ⟨k', hk', rfl⟩
    exact (hlt k hk k' hk').le
  callsOnce := by
    simp only [List.filterMap_append, List.map_append, List.nodup_append]
    refine ⟨hxs.callsOnce, hys.callsOnce, fun _ h₁ h₂ => ?_⟩
    obtain ⟨c, hc, rfl⟩ := List.mem_map.mp h₁
    obtain ⟨d, hd, hdc⟩ := List.mem_map.mp h₂
    -- the two calls would be of one element, ranked strictly below itself
    have := hlt _ (consults_of_mem_hostCalls hc) _ (consults_of_mem_hostCalls hd)
    simp only [Prod.mk.injEq] at hdc
    rw [hdc.1, hdc.2] at this
    exact lt_irrefl _ this

/-! ## What a computation consults -/

/-- `m` consults only elements `K` admits, and makes at most `n` host calls. -/
def ConsultsWithin (K : ClassId × Nat → Prop) (n : Nat) (m : Eng α) : Prop :=
  ∀ w, (∀ x ∈ (m w).events, ∀ k, x.consults = some k → K k) ∧
    (m w).hostCalls.length ≤ n

namespace ConsultsWithin

variable {K K' : ClassId × Nat → Prop} {n n' : Nat}

theorem mono {m : Eng α} (hm : ConsultsWithin K n m) (hK : ∀ k, K k → K' k) (hn : n ≤ n') :
    ConsultsWithin K' n' m := fun w =>
  ⟨fun x hx k hk => hK k ((hm w).1 x hx k hk), (hm w).2.trans hn⟩

theorem mem_consults {m : Eng α} (hm : ConsultsWithin K n m) (w : World) {k : ClassId × Nat}
    (hk : k ∈ (m w).events.filterMap Entry.consults) : K k := by
  obtain ⟨x, hx, hxk⟩ := List.mem_filterMap.mp hk
  exact (hm w).1 x hx k hxk

/-- A host call belongs to an element the computation may consult. -/

theorem pure (a : α) : ConsultsWithin K n (pure a : Eng α) := fun _ => by simp [Step.hostCalls]

theorem bind {m : Eng α} {k : α → Eng β} (hm : ConsultsWithin K n m)
    (hk : ∀ a, ConsultsWithin K n' (k a)) : ConsultsWithin K (n + n') (m >>= k) := fun w => by
  obtain ⟨hm₁, hm₂⟩ := hm w
  obtain ⟨hk₁, hk₂⟩ := hk (m w).result (m w).world
  refine ⟨fun x hx => ?_, ?_⟩
  · rcases List.mem_append.mp (by simpa using hx) with hx | hx
    exacts [hm₁ x hx, hk₁ x hx]
  · simp only [Step.hostCalls, Eng.bind_events, List.filterMap_append,
      List.length_append] at hm₂ hk₂ ⊢
    omega

/-- A computation that calls nothing, then one that may. -/
theorem inert_bind {m : Eng α} {k : α → Eng β} (hm : ConsultsWithin K 0 m)
    (hk : ∀ a, ConsultsWithin K n (k a)) : ConsultsWithin K n (m >>= k) := by
  simpa using bind hm hk

/-- A computation that may call, then one that calls nothing. -/
theorem bind_inert {m : Eng α} {k : α → Eng β} (hm : ConsultsWithin K n m)
    (hk : ∀ a, ConsultsWithin K 0 (k a)) : ConsultsWithin K n (m >>= k) :=
  bind hm hk

theorem map {m : Eng α} (f : α → β) (hm : ConsultsWithin K n m) :
    ConsultsWithin K n (f <$> m) := fun w => by simpa [Step.hostCalls] using hm w

/-- A computation none of whose entries consults an element or calls the host. -/
theorem of_inert {m : Eng α} (hm : ∀ w, ∀ x ∈ (m w).events, x.consults = none ∧ x.hostCall? = none) :
    ConsultsWithin K n m := fun w =>
  ⟨fun x hx k hk => by simp [(hm w x hx).1] at hk,
    by simp [Step.hostCalls, List.filterMap_eq_nil_iff.mpr fun x hx => (hm w x hx).2]⟩

theorem lookup {jsClass : ClassId} {table : Table} (name : Name)
    (hK : K (jsClass, table.element)) : ConsultsWithin K n (emit (.lookup jsClass table name)) :=
  fun _ => ⟨fun x hx k hk => by obtain rfl := List.mem_singleton.mp hx; cases hk; exact hK,
    Nat.zero_le _⟩

theorem throwException (exception : JSValue) : ConsultsWithin K n (throwException exception) :=
  of_inert fun _ _ hx => by obtain rfl := List.mem_singleton.mp hx; exact ⟨rfl, rfl⟩

theorem throwIfRaised (reply : Reply) : ConsultsWithin K n (throwIfRaised reply) :=
  of_inert fun _ x hx => by
    -- no exception leaves no entry; an exception leaves its throw
    cases hx' : reply.exception <;> simp [hx'] at hx
    subst hx
    exact ⟨rfl, rfl⟩

theorem answerValue (reply : Reply) (onThrow : α) (wrap : JSValue → α) :
    ConsultsWithin K n (answerValue reply onThrow wrap) :=
  of_inert fun _ x hx => by
    -- no exception leaves no entry; an exception leaves its throw
    cases hx' : reply.exception <;> simp [hx'] at hx
    subst hx
    exact ⟨rfl, rfl⟩

theorem invoke (h : Host) {c : HostCall} (hK : K (c.owner, c.field.element)) :
    ConsultsWithin K 1 (invoke h c) :=
  fun _ => ⟨fun x hx k hk => by obtain rfl := List.mem_singleton.mp hx; cases hk; exact hK,
    le_rfl⟩

theorem dropAllLocks {m : Eng α} (hm : ConsultsWithin K n m) :
    ConsultsWithin K n (dropAllLocks m) := fun w => by
  simpa [Step.hostCalls] using hm { w with locksHeld := false }

theorem run (operation : ParentOperation) (f : World → α × OwnProperties) :
    ConsultsWithin K n (Parent.run operation f) :=
  of_inert fun _ _ hx => by obtain rfl := List.mem_singleton.mp hx; exact ⟨rfl, rfl⟩

theorem putDirect (name : Name) (value : JSValue) (attributes : Attributes) :
    ConsultsWithin K n (putDirect name value attributes) :=
  of_inert fun _ _ hx => by obtain rfl := List.mem_singleton.mp hx; exact ⟨rfl, rfl⟩

end ConsultsWithin

/-! ## The abstract resolution -/

/-- One element of a resolution: which it is, and what consulting it does. -/
structure Element (α : Type) where
  key : ClassId × Nat
  run : Eng (Option α)

/-- The resolution over a flat list of elements: the first that answers decides, and `after`
runs only when none does. -/
def firstAnswer (after : Eng α) : List (Eng (Option α)) → Eng α
  | [] => after
  | e :: es => fun w =>
    let s := e w
    match s.result with
    | some a => ⟨a, s.world, s.events⟩
    | none =>
      let t := firstAnswer after es s.world
      ⟨t.result, t.world, s.events ++ t.events⟩

theorem firstAnswer_cons_of_some {after : Eng α} {e : Eng (Option α)}
    {es : List (Eng (Option α))} {w : World} {a : α} (h : (e w).result = some a) :
    firstAnswer after (e :: es) w = ⟨a, (e w).world, (e w).events⟩ := by
  simp only [firstAnswer, h]

theorem firstAnswer_cons_of_none {after : Eng α} {e : Eng (Option α)}
    {es : List (Eng (Option α))} {w : World} (h : (e w).result = none) :
    firstAnswer after (e :: es) w =
      ⟨(firstAnswer after es (e w).world).result, (firstAnswer after es (e w).world).world,
        (e w).events ++ (firstAnswer after es (e w).world).events⟩ := by
  simp only [firstAnswer, h]

/-- Falling through two blocks is consulting them one after the other. -/
theorem firstAnswer_orElse (after : Eng α) (e₁ e₂ : Eng (Option α))
    (es : List (Eng (Option α))) :
    firstAnswer after ((e₁.orElse e₂) :: es) = firstAnswer after (e₁ :: e₂ :: es) := by
  funext w
  cases h₁ : (e₁ w).result with
  | some a => simp [firstAnswer, Eng.orElse, h₁]
  | none => cases h₂ : (e₂ (e₁ w).world).result <;> simp [firstAnswer, Eng.orElse, h₁, h₂]

/-- The elements after the first enter a resolution only through their own resolution. -/
theorem firstAnswer_cons_congr (e : Eng (Option α)) {es es' : List (Eng (Option α))}
    {after : Eng α} (h : firstAnswer after es = firstAnswer after es') :
    firstAnswer after (e :: es) = firstAnswer after (e :: es') := by
  funext w
  simp only [firstAnswer, h]

/-- A chain walk is the resolution over the classes' bodies. -/
theorem walkChain_eq_firstAnswer (body : JSClass → Eng (Option α)) (after : Eng α) :
    ∀ chain, walkChain body after chain = firstAnswer after (chain.map body)
  | [] => rfl
  | c :: cs => by
    funext w
    cases hr : (body c w).result with
    | some a => rw [walkChain_cons_of_some hr, List.map_cons, firstAnswer_cons_of_some hr]
    | none =>
      rw [walkChain_cons_of_none hr, List.map_cons, firstAnswer_cons_of_none hr,
        walkChain_eq_firstAnswer body after cs]

/-- THE CODE'S LOOP IS THE RESOLUTION. A chain walk whose body falls through a class-level
block, a static-value block and a static-function block is the resolution over the flat list
of those elements, class after class. -/
theorem walkChain_blocks_eq_firstAnswer (callback staticValue staticFunction :
    JSClass → Eng (Option α)) (after : Eng α) (chain : List JSClass) :
    walkChain (fun c => (callback c).orElse ((staticValue c).orElse (staticFunction c))) after
        chain =
      firstAnswer after
        (chain.flatMap fun c => [callback c, staticValue c, staticFunction c]) := by
  rw [walkChain_eq_firstAnswer]
  induction chain with
  | nil => rfl
  | cons c cs ih =>
    rw [List.map_cons, List.flatMap_cons, List.cons_append, List.cons_append, List.cons_append,
      List.nil_append]
    exact (firstAnswer_orElse _ _ _ _).trans (firstAnswer_cons_congr _
      ((firstAnswer_orElse _ _ _ _).trans
        (firstAnswer_cons_congr _ (firstAnswer_cons_congr _ ih))))

/-! ## A resolution of local elements resolves in order -/

section Resolution

variable {after : Eng α}

/-- A resolution consults only its elements, and calls at most once per element. -/
theorem firstAnswer_consultsWithin (hafter : ConsultsWithin (fun _ => False) 0 after) :
    ∀ (els : List (Element α)), (∀ el ∈ els, ConsultsWithin (· = el.key) 1 el.run) →
      ConsultsWithin (· ∈ els.map Element.key) els.length
        (firstAnswer after (els.map Element.run))
  | [], _ => hafter.mono (fun _ h => h.elim) le_rfl
  | el :: els, hels => fun w => by
    have hel := (hels el (List.mem_cons_self _ _)) w
    have hrest := firstAnswer_consultsWithin hafter els
      (fun e he => hels e (List.mem_cons_of_mem _ he)) (el.run w).world
    cases hr : (el.run w).result with
    | some a =>
      rw [List.map_cons, firstAnswer_cons_of_some hr]
      exact ⟨fun x hx k hk => by simp [hel.1 x hx k hk],
        hel.2.trans (Nat.le_add_left _ _)⟩
    | none =>
      rw [List.map_cons, firstAnswer_cons_of_none hr]
      refine ⟨fun x hx k hk => ?_, ?_⟩
      · rcases List.mem_append.mp hx with hx | hx
        · simp [hel.1 x hx k hk]
        · exact List.mem_cons_of_mem _ (hrest.1 x hx k hk)
      · have := hel.2
        have := hrest.2
        simp only [Step.hostCalls, List.filterMap_append, List.length_append,
          List.length_cons] at *
        omega

theorem nodup_of_length_le_one {l : List β} (hl : l.length ≤ 1) : l.Nodup := by
  match l, hl with
  | [], _ => exact List.nodup_nil
  | [_], _ => exact List.nodup_singleton _
  | _ :: _ :: _, hl => simp at hl

/-- A run that consults one element only, and calls at most once, resolves in order. -/
theorem ResolvesInOrder.of_element (chain : List JSClass) (key : ClassId × Nat) {m : Eng β}
    (hm : ConsultsWithin (· = key) 1 m) (w : World) : ResolvesInOrder chain (m w).events where
  ordered := List.pairwise_of_forall_mem_list fun a ha b hb => by
    obtain ⟨k, hk, rfl⟩ := List.mem_map.mp ha
    obtain ⟨k', hk', rfl⟩ := List.mem_map.mp hb
    rw [hm.mem_consults w hk, hm.mem_consults w hk']
  callsOnce := nodup_of_length_le_one (by simpa [Step.hostCalls] using (hm w).2)

/-- RESOLUTION IN ORDER. A resolution whose elements come in strictly increasing rank, each
consulting only itself and calling at most once, with a fallback that consults nothing,
resolves in order on every run. -/
theorem firstAnswer_resolvesInOrder (chain : List JSClass)
    (hafter : ConsultsWithin (fun _ => False) 0 after) :
    ∀ (els : List (Element α)), (∀ el ∈ els, ConsultsWithin (· = el.key) 1 el.run) →
      ((els.map Element.key).map (rank chain)).Pairwise (· < ·) →
      ∀ w, ResolvesInOrder chain (firstAnswer after (els.map Element.run) w).events
  | [], _, _, w => .of_element chain (0, 0) (hafter.mono (fun _ h => h.elim) (by omega)) w
  | el :: els, hels, hrank, w => by
    have hel := hels el (List.mem_cons_self _ _)
    have hrest := firstAnswer_consultsWithin hafter els fun e he =>
      hels e (List.mem_cons_of_mem _ he)
    rw [List.map_cons, List.map_cons, List.pairwise_cons] at hrank
    -- every element after `el` comes strictly later in the order
    have hlater : ∀ k ∈ els.map Element.key, rank chain el.key < rank chain k := fun k hk =>
      hrank.1 _ (List.mem_map_of_mem _ hk)
    cases hr : (el.run w).result with
    | some a => rw [List.map_cons, firstAnswer_cons_of_some hr]; exact .of_element chain _ hel w
    | none =>
      rw [List.map_cons, firstAnswer_cons_of_none hr]
      refine .append (.of_element chain _ hel w) (firstAnswer_resolvesInOrder chain hafter els
        (fun e he => hels e (List.mem_cons_of_mem _ he)) hrank.2 _) fun k hk k' hk' => ?_
      rw [hel.mem_consults w hk]
      exact hlater _ (hrest.mem_consults _ hk')

end Resolution

/-! ## The elements of the walks -/

/-- The elements of a walk whose body falls through a class-level block, a static-value block
and a static-function block: class after class, and in that order within a class. -/
def classElements (callback staticValue staticFunction : JSClass → Eng (Option α))
    (chain : List JSClass) : List (Element α) :=
  chain.flatMap fun c =>
    [⟨(c.id, 0), callback c⟩, ⟨(c.id, 1), staticValue c⟩, ⟨(c.id, 2), staticFunction c⟩]

/-- The elements of a walk whose body is one class-level block. -/
def callbackElements (step : JSClass → Eng (Option α)) (chain : List JSClass) :
    List (Element α) :=
  chain.map fun c => ⟨(c.id, 0), step c⟩

/-- Over an acyclic chain, elements placed at increasing places `places` of every class come
in strictly increasing rank. -/
theorem rank_pairwise (places : List Nat) (hplaces : places.Pairwise (· < ·))
    (hthree : ∀ j ∈ places, j < 3) :
    ∀ chain : List JSClass, (chain.map JSClass.id).Nodup →
      ((chain.flatMap fun c => places.map (c.id, ·)).map (rank chain)).Pairwise (· < ·)
  | [], _ => List.Pairwise.nil
  | c :: cs, hids => by
    obtain ⟨hc, hcs⟩ := List.nodup_cons.mp hids
    -- the parents' elements sit three places further on the longer chain
    have hshift : ∀ k ∈ cs.flatMap fun d => places.map (d.id, ·),
        rank (c :: cs) k = rank cs k + 3 := by
      intro k hk
      simp only [List.mem_flatMap, List.mem_map] at hk
      obtain ⟨d, hd, j, -, rfl⟩ := hk
      exact rank_cons_of_ne (fun he => hc (he ▸ List.mem_map_of_mem _ hd)) cs
    rw [List.flatMap_cons, List.map_append, List.map_congr_left hshift, List.pairwise_append]
    refine ⟨?_, ?_, ?_⟩
    · simpa [Function.comp_def, rank_cons_self] using hplaces
    · exact List.pairwise_map.mpr ((List.pairwise_map.mp
        (rank_pairwise places hplaces hthree cs hcs)).imp (Nat.add_lt_add_right · 3))
    · simp only [List.map_map, List.mem_map, Function.comp_apply, rank_cons_self]
      rintro _ ⟨j, hj, rfl⟩ _ ⟨k, -, rfl⟩
      have := hthree j hj
      omega

/-- `op` resolves over `chain` by the elements `els`, falling back to `after`: it IS the
resolution of those elements; each element consults only itself and makes at most one host
call; the fallback consults no element; and so every run of `op` resolves in order. -/
structure ResolvesBy (chain : List JSClass) (els : List (Element α)) (after : Eng α)
    (op : Eng α) : Prop where
  eq_firstAnswer : op = firstAnswer after (els.map Element.run)
  local_elements : ∀ el ∈ els, ConsultsWithin (· = el.key) 1 el.run
  after_inert : ConsultsWithin (fun _ => False) 0 after
  inOrder : ∀ w, ResolvesInOrder chain (op w).events

section Walks

variable {chain : List JSClass} {after : Eng α}

/-- An operation that is the resolution of local elements in strictly increasing rank
resolves by them. -/
theorem ResolvesBy.of_rank {els : List (Element α)} {op : Eng α}
    (heq : op = firstAnswer after (els.map Element.run))
    (hlocal : ∀ el ∈ els, ConsultsWithin (· = el.key) 1 el.run)
    (hafter : ConsultsWithin (fun _ => False) 0 after)
    (hrank : ((els.map Element.key).map (rank chain)).Pairwise (· < ·)) :
    ResolvesBy chain els after op :=
  ⟨heq, hlocal, hafter, fun w =>
    heq ▸ firstAnswer_resolvesInOrder chain hafter els hlocal hrank w⟩

theorem mem_classElements {callback staticValue staticFunction : JSClass → Eng (Option α)}
    {el : Element α} (hel : el ∈ classElements callback staticValue staticFunction chain) :
    ∃ c ∈ chain, el = ⟨(c.id, 0), callback c⟩ ∨ el = ⟨(c.id, 1), staticValue c⟩ ∨
      el = ⟨(c.id, 2), staticFunction c⟩ := by
  simpa [classElements] using hel

/-- A three-block walk over an acyclic chain whose blocks consult only their own element
resolves by its class elements. -/
theorem walkChain_resolvesBy_classElements (hids : (chain.map JSClass.id).Nodup)
    {callback staticValue staticFunction : JSClass → Eng (Option α)}
    (hcallback : ∀ c ∈ chain, ConsultsWithin (· = (c.id, 0)) 1 (callback c))
    (hstaticValue : ∀ c ∈ chain, ConsultsWithin (· = (c.id, 1)) 1 (staticValue c))
    (hstaticFunction : ∀ c ∈ chain, ConsultsWithin (· = (c.id, 2)) 1 (staticFunction c))
    (hafter : ConsultsWithin (fun _ => False) 0 after) :
    ResolvesBy chain (classElements callback staticValue staticFunction chain) after
      (walkChain (fun c => (callback c).orElse ((staticValue c).orElse (staticFunction c)))
        after chain) := by
  refine .of_rank ?_ (fun el hel => ?_) hafter ?_
  · rw [walkChain_blocks_eq_firstAnswer, classElements, List.map_flatMap]
    rfl
  · obtain ⟨c, hc, rfl | rfl | rfl⟩ := mem_classElements hel
    exacts [hcallback c hc, hstaticValue c hc, hstaticFunction c hc]
  · rw [classElements, List.map_flatMap]
    exact rank_pairwise [0, 1, 2] (by decide) (by decide) chain hids

/-- A one-block walk over an acyclic chain whose block consults only the class's callbacks
resolves by its callback elements. -/
theorem walkChain_resolvesBy_callbackElements (hids : (chain.map JSClass.id).Nodup)
    {step : JSClass → Eng (Option α)}
    (hstep : ∀ c ∈ chain, ConsultsWithin (· = (c.id, 0)) 1 (step c))
    (hafter : ConsultsWithin (fun _ => False) 0 after) :
    ResolvesBy chain (callbackElements step chain) after (walkChain step after chain) := by
  refine .of_rank ?_ (fun el hel => ?_) hafter ?_
  · rw [walkChain_eq_firstAnswer, callbackElements, List.map_map]
    rfl
  · obtain ⟨c, hc, rfl⟩ := List.mem_map.mp hel
    exact hstep c hc
  · rw [callbackElements, List.map_map Element.key, List.map_eq_flatMap (Element.key ∘ _)]
    exact rank_pairwise [0] (by decide) (by decide) chain hids

end Walks

namespace JSCallbackObject

variable (h : Host)

/-! ## Each block consults its own element -/

section Blocks

variable {K : ClassId × Nat → Prop}

theorem answerOf_consultsWithin (reply : Reply) (answer : Bool) :
    ConsultsWithin K 0 (answerOf reply answer) :=
  ConsultsWithin.inert_bind (.throwIfRaised reply) fun _ => .pure _

theorem putCallback_consultsWithin (name : Name) (value : JSValue) (jsClass : JSClass) :
    ConsultsWithin (· = (jsClass.id, 0)) 1 (putCallback h name value jsClass) := by
  unfold putCallback
  split
  · exact .pure _
  · exact .bind_inert (.dropAllLocks (.invoke h rfl)) fun reply => answerOf_consultsWithin reply _

theorem putStaticValue_consultsWithin (name : Name) (value : JSValue) (jsClass : JSClass) :
    ConsultsWithin (· = (jsClass.id, 1)) 1 (putStaticValue h name value jsClass) := by
  refine .inert_bind (.lookup name rfl) fun _ => ?_
  split
  · exact .pure _
  · split
    · exact .pure _
    · split
      · split
        · exact .pure _
        · exact .bind_inert (.dropAllLocks (.invoke h rfl)) fun reply =>
            answerOf_consultsWithin reply _
      · exact .pure _

theorem putStaticFunction_consultsWithin (name : Name) (value : JSValue) (jsClass : JSClass) :
    ConsultsWithin (· = (jsClass.id, 2)) 1 (putStaticFunction name value jsClass) := by
  refine .inert_bind (.lookup name rfl) fun _ => ?_
  split
  · exact .pure _
  · refine .inert_bind (.run _ _) fun _ => ?_
    split
    · exact .map _ (.run _ _)
    · split
      · exact .pure _
      · exact .map _ (.putDirect _ _ _)

/-- Away from the setter guard, `putByIndex`'s static-value block is `put`'s. -/
theorem putByIndexStaticValue_consultsWithin (name : Name) (value : JSValue) (jsClass : JSClass)
    (hguard : ∀ entry, jsClass.staticValue name = some entry →
      entry.attributes.readOnly = false → classSetterGuard jsClass entry = false) :
    ConsultsWithin (· = (jsClass.id, 1)) 1 (putByIndexStaticValue h name value jsClass) := by
  rw [putByIndexStaticValue_eq h name value jsClass hguard]
  exact putStaticValue_consultsWithin h name value jsClass

theorem putByIndexStaticFunction_consultsWithin (propertyIndex : UInt32) (value : JSValue)
    (shouldThrow : Bool) (name : Name) (jsClass : JSClass) :
    ConsultsWithin (· = (jsClass.id, 2)) 1
      (putByIndexStaticFunction propertyIndex value shouldThrow name jsClass) := by
  refine .inert_bind (.lookup name rfl) fun _ => ?_
  split
  · exact .pure _
  · split
    · exact .pure _
    · exact .map _ (.run _ _)

theorem deletePropertyCallback_consultsWithin (name : Name) (jsClass : JSClass) :
    ConsultsWithin (· = (jsClass.id, 0)) 1 (deletePropertyCallback h name jsClass) := by
  unfold deletePropertyCallback
  split
  · exact .pure _
  · exact .bind_inert (.dropAllLocks (.invoke h rfl)) fun reply => answerOf_consultsWithin reply _

theorem defaultValueStep_consultsWithin (jsHint : JSType) (jsClass : JSClass) :
    ConsultsWithin (· = (jsClass.id, 0)) 1 (defaultValueStep h jsHint jsClass) := by
  unfold defaultValueStep
  split
  · exact .pure _
  · exact .bind_inert (.invoke h rfl) fun reply => .answerValue reply _ _

theorem customHasInstanceStep_consultsWithin (value : JSValue) (jsClass : JSClass) :
    ConsultsWithin (· = (jsClass.id, 0)) 1 (customHasInstanceStep h value jsClass) := by
  unfold customHasInstanceStep
  split
  · exact .pure _
  · exact .bind_inert (.dropAllLocks (.invoke h rfl)) fun reply =>
      .inert_bind (.throwIfRaised reply) fun _ => .pure _

theorem callStep_consultsWithin (frame : CallFrame) (jsClass : JSClass) :
    ConsultsWithin (· = (jsClass.id, 0)) 1 (callStep h frame jsClass) := by
  unfold callStep
  split
  · exact .pure _
  · exact .bind_inert (.dropAllLocks (.invoke h rfl)) fun reply =>
      .inert_bind (.throwIfRaised reply) fun _ => .pure _

theorem constructStep_consultsWithin (frame : CallFrame) (jsClass : JSClass) :
    ConsultsWithin (· = (jsClass.id, 0)) 1 (constructStep h frame jsClass) := by
  unfold constructStep
  split
  · exact .pure _
  · exact .bind_inert (.dropAllLocks (.invoke h rfl)) fun reply =>
      .inert_bind (.throwIfRaised reply) fun _ => .pure _

theorem releaseAssertNotReached_consultsWithin :
    ConsultsWithin K 0 releaseAssertNotReached :=
  .inert_bind (fun _ => by simp [Step.hostCalls, Entry.hostCall?, Entry.consults,
    Event.consults]) fun _ => .pure _

end Blocks

/-! ## The operations resolve in order -/

/-- THE RESOLUTION LAW. Over every acyclic chain and every host, `put`, `deleteProperty`,
`defaultValue`, `customHasInstance`, `call` and `construct` — and `putByIndex` when no
writable static-value entry for the index's name passes its class's setter guard — each IS
the resolution of its elements (for each class, object's class first: its class-level
callback, then its static-value entry, then its static-function entry; `defaultValue`,
`customHasInstance`, `call` and `construct` have the class-level one only): the first element
that answers decides the operation, with its answer, and the generic object's operation (or
`false`, or the assert) runs only when none does. Each element consults only itself and calls
at most one host callback, and every run consults elements in chain order without going back
and calls no callback of a class twice. -/
theorem dispatch_resolves_in_order (chain : ClassChain) (name : Name) (value : JSValue)
    (propertyIndex : UInt32) (shouldThrow : Bool) (hint : PreferredPrimitiveType)
    (frame : CallFrame) :
    ResolvesBy chain.classes
        (classElements (putCallback h name value) (putStaticValue h name value)
          (putStaticFunction name value) chain.classes)
        (Parent.put name value) (put h chain.classes name value) ∧
      ((∀ c ∈ chain.classes, ∀ entry, c.staticValue (Identifier.fromIndex propertyIndex) =
          some entry → entry.attributes.readOnly = false → classSetterGuard c entry = false) →
        ResolvesBy chain.classes
          (classElements (putCallback h (Identifier.fromIndex propertyIndex) value)
            (putByIndexStaticValue h (Identifier.fromIndex propertyIndex) value)
            (putByIndexStaticFunction propertyIndex value shouldThrow
              (Identifier.fromIndex propertyIndex)) chain.classes)
          (Parent.putByIndex propertyIndex value shouldThrow)
          (putByIndex h chain.classes propertyIndex value shouldThrow)) ∧
      ResolvesBy chain.classes
        (classElements (deletePropertyCallback h name) (deletePropertyStaticValue name)
          (deletePropertyStaticFunction name) chain.classes)
        (Parent.deleteProperty name) (deleteProperty h chain.classes name) ∧
      ResolvesBy chain.classes
        (callbackElements (defaultValueStep h (if hint = .preferString then .string else .number))
          chain.classes)
        (Parent.defaultValue hint) (defaultValue h chain.classes hint) ∧
      ResolvesBy chain.classes (callbackElements (customHasInstanceStep h value) chain.classes)
        (pure false) (customHasInstance h chain.classes value) ∧
      ResolvesBy chain.classes (callbackElements (callStep h frame) chain.classes)
        releaseAssertNotReached (call h chain.classes frame) ∧
      ResolvesBy chain.classes (callbackElements (constructStep h frame) chain.classes)
        releaseAssertNotReached (construct h chain.classes frame) := by
  have hids := chain.acyclic
  refine ⟨walkChain_resolvesBy_classElements hids (fun c _ => putCallback_consultsWithin h _ _ c)
      (fun c _ => putStaticValue_consultsWithin h _ _ c)
      (fun c _ => putStaticFunction_consultsWithin _ _ c) (.run _ _),
    fun hguard => walkChain_resolvesBy_classElements hids
      (fun c _ => putCallback_consultsWithin h _ _ c)
      (fun c hc => putByIndexStaticValue_consultsWithin h _ _ c (hguard c hc))
      (fun c _ => putByIndexStaticFunction_consultsWithin _ _ _ _ c) (.run _ _),
    walkChain_resolvesBy_classElements hids (fun c _ => deletePropertyCallback_consultsWithin h _ c)
      (fun c _ => .inert_bind (.lookup name rfl) fun _ => .pure _)
      (fun c _ => .inert_bind (.lookup name rfl) fun _ => .pure _) (.run _ _),
    walkChain_resolvesBy_callbackElements hids (fun c _ => defaultValueStep_consultsWithin h _ c)
      (.run _ _),
    walkChain_resolvesBy_callbackElements hids
      (fun c _ => customHasInstanceStep_consultsWithin h _ c) (.pure _),
    walkChain_resolvesBy_callbackElements hids (fun c _ => callStep_consultsWithin h _ c)
      releaseAssertNotReached_consultsWithin,
    walkChain_resolvesBy_callbackElements hids (fun c _ => constructStep_consultsWithin h _ c)
      releaseAssertNotReached_consultsWithin⟩

/-! ## The read and the indexed write go back -/

/-- A class of the original generation whose only callback is `getProperty`. -/
def gettingClass : JSClass := { id := 1, version := 0, v0 := { getProperty := some 1 } }

/-- A class of the original generation whose only callback is `hasProperty`. -/
def probingClass : JSClass := { id := 2, version := 0, v0 := { hasProperty := some 2 } }

/-- A host whose every callback returns true and null, raises nothing and changes nothing. -/
def Host.affirming : Host := fun _ w => ({ result := true }, w.props)

/-- Two runs that leave the resolution order. Reading `x` through `gettingClass` then
`probingClass`: the first class's `getProperty` returns null, the second's `hasProperty` says
yes, and the `callbackGetter` slot it installs calls the first class's `getProperty` again.
Writing index `0` through `doubleSetterClass` with a silent host: the class-level setter
declines, and the static-value block calls the same class-level setter a second time. -/
theorem get_and_putByIndex_leave_order :
    (JSCallbackObject.get Host.affirming [gettingClass, probingClass] "x" World.fresh).hostCalls =
        [⟨1, .getProperty, .legacy 1, .property "x"⟩,
          ⟨2, .hasProperty, .legacy 2, .property "x"⟩,
          ⟨1, .getProperty, .legacy 1, .property "x"⟩] ∧
      ¬ ResolvesInOrder [gettingClass, probingClass]
        (JSCallbackObject.get Host.affirming [gettingClass, probingClass] "x"
          World.fresh).events ∧
      (putByIndex Host.silent [doubleSetterClass] 0 .undefined false World.fresh).hostCalls =
        [⟨4, .setProperty, .legacy 11, .put "0" .undefined⟩,
          ⟨4, .setProperty, .legacy 11, .put "0" .undefined⟩] ∧
      ¬ ResolvesInOrder [doubleSetterClass]
        (putByIndex Host.silent [doubleSetterClass] 0 .undefined false World.fresh).events := by
  have hget :
      (JSCallbackObject.get Host.affirming [gettingClass, probingClass] "x" World.fresh).hostCalls =
        [⟨1, .getProperty, .legacy 1, .property "x"⟩,
          ⟨2, .hasProperty, .legacy 2, .property "x"⟩,
          ⟨1, .getProperty, .legacy 1, .property "x"⟩] := by decide
  have hput :
      (putByIndex Host.silent [doubleSetterClass] 0 .undefined false World.fresh).hostCalls =
        [⟨4, .setProperty, .legacy 11, .put "0" .undefined⟩,
          ⟨4, .setProperty, .legacy 11, .put "0" .undefined⟩] := by decide
  exact ⟨hget, fun hr => absurd (hget ▸ hr.hostCalls_nodup) (by decide), hput,
    fun hr => absurd (hput ▸ hr.hostCalls_nodup) (by decide)⟩

end JSCallbackObject

end JSC
