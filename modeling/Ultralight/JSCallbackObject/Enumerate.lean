import Ultralight.JSCallbackObject.Engine

/-!
# Enumeration and chain membership

`getOwnNonIndexPropertyNames` walks the whole chain, never stopping early: per class, the
class's `getPropertyNames` (with the lock dropped) adds whatever names the host chooses, then
every static-value name with a getter of its entry's generation and every static-function
name is added — the `DontEnum` ones only when the mode asks for them. The generic object's
own names come last. The accumulator is a `PropertyNameArray`, which ignores a name it
already holds.

Enumeration FILTERS on each entry's declared attributes; `getOwnPropertySlot` does not read
them at all — `Attributes.lean` is about that gap.

`inherits` is the embedder's chain-membership query.
-/

namespace JSC

/-- `EnumerationMode`: whether `DontEnum` properties are wanted too. -/
structure EnumerationMode where
  includeDontEnumProperties : Bool
  deriving DecidableEq, Repr

/-- `PropertyNameArray::add`: a name already held is not added again. -/
def PropertyNameArray.add (propertyNames : List Name) (name : Name) : List Name :=
  if name ∈ propertyNames then propertyNames else propertyNames ++ [name]

/-- `Parent::getOwnNonIndexPropertyNames`: the object's own NAMED properties — those whose
name spells no array index; the indexed ones are enumerated elsewhere — the `DontEnum` ones
only when the mode asks for them. -/
def Parent.getOwnNonIndexPropertyNames (propertyNames : List Name) (mode : EnumerationMode) :
    Eng (List Name) :=
  Parent.run .getOwnNonIndexPropertyNames fun w =>
    ((w.props.entries.filter fun e => (parseIndex e.1).isNone &&
        (!e.2.attributes.dontEnum || mode.includeDontEnumProperties)).foldl
      (fun names e => PropertyNameArray.add names e.1) propertyNames, w.props)

namespace JSCallbackObject

variable (h : Host)

/-- The class-level part of enumeration: the class's `getPropertyNames` of its generation, in
a `DropAllLocks` scope, adds the names it reports. -/
def getPropertyNamesStep (jsClass : JSClass) (propertyNames : List Name) : Eng (List Name) :=
  match pickEither jsClass.version jsClass.v0.getPropertyNames jsClass.v1000.getPropertyNamesEx
      jsClass.id with
  | some getPropertyNames => do
    let reply ← dropAllLocks
      (invoke h ⟨jsClass.id, .getPropertyNames, getPropertyNames, .propertyNames⟩)
    pure (reply.names.foldl PropertyNameArray.add propertyNames)
  | none => pure propertyNames

/-- The test enumeration applies to a static-value entry: a getter of the entry's
generation, and enumerable unless the mode asks for every property. -/
def staticValueListed (mode : EnumerationMode) (entry : StaticValueEntry) : Bool :=
  ((entry.version = 0 ∧ entry.v0.getProperty.isSome) ∨
      (entry.version = 1000 ∧ entry.v1000.getPropertyEx.isSome)) ∧
    (!entry.attributes.dontEnum ∨ mode.includeDontEnumProperties)

/-- The test enumeration applies to a static-function entry. -/
def staticFunctionListed (mode : EnumerationMode) (entry : StaticFunctionEntry) : Bool :=
  !entry.attributes.dontEnum || mode.includeDontEnumProperties

/-- The static names a class adds: its static values, then its static functions. -/
def staticNames (jsClass : JSClass) (mode : EnumerationMode) (propertyNames : List Name) :
    List Name :=
  let withValues := jsClass.staticValues.foldl (fun names e =>
    if staticValueListed mode e.2 then PropertyNameArray.add names e.1 else names) propertyNames
  jsClass.staticFunctions.foldl (fun names e =>
    if staticFunctionListed mode e.2 then PropertyNameArray.add names e.1 else names) withValues

/-- The chain walk of enumeration: every class contributes, object's class first. -/
def getOwnNonIndexPropertyNamesLoop (mode : EnumerationMode) :
    List JSClass → List Name → Eng (List Name)
  | [], propertyNames => pure propertyNames
  | jsClass :: parents, propertyNames => do
    let propertyNames ← getPropertyNamesStep h jsClass propertyNames
    getOwnNonIndexPropertyNamesLoop mode parents (staticNames jsClass mode propertyNames)

/-- `JSCallbackObject<Parent>::getOwnNonIndexPropertyNames`. -/
def getOwnNonIndexPropertyNames (chain : List JSClass) (propertyNames : List Name)
    (mode : EnumerationMode) : Eng (List Name) := do
  let propertyNames ← getOwnNonIndexPropertyNamesLoop h mode chain propertyNames
  Parent.getOwnNonIndexPropertyNames propertyNames mode

/-- `JSCallbackObject<Parent>::inherits(c)`: whether the class `c` is on the chain. -/
def inherits : List JSClass → ClassId → Bool
  | [], _ => false
  | jsClass :: parents, c => if jsClass.id = c then true else inherits parents c

theorem inherits_iff (chain : List JSClass) (c : ClassId) :
    inherits chain c = true ↔ ∃ jsClass ∈ chain, jsClass.id = c := by
  induction chain with
  | nil => simp [inherits]
  | cons jsClass parents ih => by_cases hc : jsClass.id = c <;> simp [inherits, hc, ih]

/-! ## What enumeration lists -/

theorem mem_add (propertyNames : List Name) (name n : Name) :
    n ∈ PropertyNameArray.add propertyNames name ↔ n ∈ propertyNames ∨ n = name := by
  unfold PropertyNameArray.add
  split <;> simp_all [or_iff_left_of_imp]

/-- A fold of `add`s under a test holds exactly the names it started with and the keys of the
elements its test admits. -/
theorem mem_foldl_addIf {β : Type} (key : β → Name) (test : β → Bool) :
    ∀ (l : List β) (names : List Name) (n : Name),
      n ∈ l.foldl (fun names b => if test b then PropertyNameArray.add names (key b) else names)
          names ↔ n ∈ names ∨ ∃ b ∈ l, key b = n ∧ test b = true
  | [], _, _ => by simp
  | b :: l, names, n => by
    simp only [List.foldl_cons, mem_foldl_addIf key test l, List.mem_cons, exists_eq_or_imp]
    by_cases hb : test b = true
    · simp only [hb, if_true, mem_add, and_true, or_assoc, @eq_comm _ n (key b)]
    · simp only [hb, Bool.false_eq_true, if_false, and_false, false_or]

/-- The names a class's static tables add. -/
theorem mem_staticNames (jsClass : JSClass) (mode : EnumerationMode)
    (propertyNames : List Name) (n : Name) :
    n ∈ staticNames jsClass mode propertyNames ↔ n ∈ propertyNames ∨
      (∃ e ∈ jsClass.staticValues, e.1 = n ∧ staticValueListed mode e.2 = true) ∨
      (∃ e ∈ jsClass.staticFunctions, e.1 = n ∧ staticFunctionListed mode e.2 = true) := by
  simp only [staticNames, mem_foldl_addIf, or_assoc]

/-! ## What enumeration returns -/

/-- `names'` is `names` with names appended, and holds no name twice when `names` does not:
what every step of enumeration does to its accumulator. -/
def Extends (names names' : List Name) : Prop :=
  (∃ rest, names' = names ++ rest) ∧ (names.Nodup → names'.Nodup)

theorem Extends.refl (names : List Name) : Extends names names :=
  ⟨⟨[], (List.append_nil _).symm⟩, id⟩

theorem Extends.trans {names names' names'' : List Name} (h₁ : Extends names names')
    (h₂ : Extends names' names'') : Extends names names'' := by
  obtain ⟨⟨r, rfl⟩, hn₁⟩ := h₁
  obtain ⟨⟨s, rfl⟩, hn₂⟩ := h₂
  exact ⟨⟨r ++ s, List.append_assoc _ _ _⟩, fun hn => hn₂ (hn₁ hn)⟩

theorem Extends.subset {names names' : List Name} (h : Extends names names') :
    names ⊆ names' := by
  obtain ⟨⟨rest, rfl⟩, -⟩ := h
  exact List.subset_append_left _ _

/-- `PropertyNameArray::add` appends a name it does not hold, and only such a name. -/
theorem extends_add (names : List Name) (name : Name) :
    Extends names (PropertyNameArray.add names name) := by
  unfold PropertyNameArray.add
  split
  · exact Extends.refl _
  · rename_i hn
    exact ⟨⟨[name], rfl⟩, fun hnd => by simpa using hnd.concat hn⟩

/-- A fold whose every step extends its accumulator extends it. -/
theorem extends_foldl {β : Type} {g : List Name → β → List Name}
    (hg : ∀ names b, Extends names (g names b)) :
    ∀ (l : List β) (names : List Name), Extends names (l.foldl g names)
  | [], _ => Extends.refl _
  | b :: l, names => (hg names b).trans (extends_foldl hg l _)

/-- An `add` under a test. -/
theorem extends_addIf {β : Type} (key : β → Name) (test : β → Bool) (names : List Name)
    (b : β) :
    Extends names (if test b then PropertyNameArray.add names (key b) else names) := by
  split
  · exact extends_add _ _
  · exact Extends.refl _

/-- The names a `getPropertyNames` callback reported, as the trace records them. -/
def Entry.reportedNames (x : Entry) : List Name :=
  match x.event with
  | .call c reply => if c.field = .getPropertyNames then reply.names else []
  | _ => []

/-- Some class of the chain lists `n` among its static names in `mode`. -/
def StaticallyListed (chain : List JSClass) (mode : EnumerationMode) (n : Name) : Prop :=
  ∃ c ∈ chain, (∃ e ∈ c.staticValues, e.1 = n ∧ staticValueListed mode e.2 = true) ∨
    (∃ e ∈ c.staticFunctions, e.1 = n ∧ staticFunctionListed mode e.2 = true)

theorem staticallyListed_cons (c : JSClass) (cs : List JSClass) (mode : EnumerationMode)
    (n : Name) : StaticallyListed (c :: cs) mode n ↔
      ((∃ e ∈ c.staticValues, e.1 = n ∧ staticValueListed mode e.2 = true) ∨
        (∃ e ∈ c.staticFunctions, e.1 = n ∧ staticFunctionListed mode e.2 = true)) ∨
      StaticallyListed cs mode n := by
  simp only [StaticallyListed, List.mem_cons, exists_eq_or_imp]

/-- A class's `getPropertyNames` adds exactly the names it reports, each once. -/
theorem getPropertyNamesStep_spec (jsClass : JSClass) (names : List Name) (w : World) :
    Extends names (getPropertyNamesStep h jsClass names w).result ∧
      ∀ n, n ∈ (getPropertyNamesStep h jsClass names w).result ↔
        n ∈ names ∨
          n ∈ (getPropertyNamesStep h jsClass names w).events.flatMap Entry.reportedNames := by
  unfold getPropertyNamesStep
  cases pickEither jsClass.version jsClass.v0.getPropertyNames jsClass.v1000.getPropertyNamesEx
    jsClass.id with
  | none => simp [Extends.refl]
  | some getPropertyNames =>
    simp only [Eng.bind_result, Eng.bind_events, dropAllLocks_apply, invoke_apply, Eng.pure_apply,
      List.append_nil, List.flatMap_cons, List.flatMap_nil, Entry.reportedNames, if_true]
    refine ⟨extends_foldl extends_add _ _, fun n => ?_⟩
    simpa using mem_foldl_addIf id (fun _ => true) _ names n

/-- A class's static tables add exactly the static names it lists, each once. -/
theorem extends_staticNames (jsClass : JSClass) (mode : EnumerationMode) (names : List Name) :
    Extends names (staticNames jsClass mode names) :=
  (extends_foldl (extends_addIf Prod.fst fun e => staticValueListed mode e.2) _ _).trans
    (extends_foldl (extends_addIf Prod.fst fun e => staticFunctionListed mode e.2) _ _)

/-- The regrouping of one class's step of the walk: given, first reported, static, later
reported, later static. -/
private theorem or_regroup_walk {a e₁ s e₂ l : Prop} :
    ((a ∨ e₁) ∨ s) ∨ e₂ ∨ l ↔ a ∨ (e₁ ∨ e₂) ∨ s ∨ l := by
  simp only [or_assoc, or_left_comm (a := s)]

/-- The walk of enumeration: exactly the names given, the names reported, and the static
names the chain lists, each once. -/
theorem getOwnNonIndexPropertyNamesLoop_spec (mode : EnumerationMode) :
    ∀ (chain : List JSClass) (names : List Name) (w : World),
      Extends names (getOwnNonIndexPropertyNamesLoop h mode chain names w).result ∧
        ∀ n, n ∈ (getOwnNonIndexPropertyNamesLoop h mode chain names w).result ↔
          n ∈ names ∨
            n ∈ (getOwnNonIndexPropertyNamesLoop h mode chain names w).events.flatMap
              Entry.reportedNames ∨ StaticallyListed chain mode n
  | [], names, w => ⟨Extends.refl _, fun n => by
      simp only [getOwnNonIndexPropertyNamesLoop, Eng.pure_apply, List.flatMap_nil,
        List.not_mem_nil, StaticallyListed, false_and, exists_false, or_false]⟩
  | c :: cs, names, w => by
    obtain ⟨hext₁, hmem₁⟩ := getPropertyNamesStep_spec h c names w
    obtain ⟨hext₂, hmem₂⟩ := getOwnNonIndexPropertyNamesLoop_spec mode cs
      (staticNames c mode (getPropertyNamesStep h c names w).result)
      (getPropertyNamesStep h c names w).world
    simp only [getOwnNonIndexPropertyNamesLoop, Eng.bind_result, Eng.bind_events,
      List.flatMap_append]
    refine ⟨hext₁.trans ((extends_staticNames c mode _).trans hext₂), fun n => ?_⟩
    rw [hmem₂, mem_staticNames, hmem₁, staticallyListed_cons, List.mem_append]
    exact or_regroup_walk

/-- The generic object's names: exactly its own named properties the mode admits. -/
theorem mem_parentNames (props : OwnProperties) (mode : EnumerationMode) (names : List Name)
    (n : Name) :
    n ∈ (props.entries.filter fun e => (parseIndex e.1).isNone &&
          (!e.2.attributes.dontEnum || mode.includeDontEnumProperties)).foldl
        (fun names e => PropertyNameArray.add names e.1) names ↔
      n ∈ names ∨ ∃ p, props.lookup n = some p ∧ (parseIndex n).isNone = true ∧
        (!p.attributes.dontEnum || mode.includeDontEnumProperties) = true := by
  have hmem := mem_foldl_addIf Sigma.fst (fun _ => true)
    (props.entries.filter fun e => (parseIndex e.1).isNone &&
      (!e.2.attributes.dontEnum || mode.includeDontEnumProperties)) names n
  simp only [if_true, and_true] at hmem
  rw [hmem]
  refine or_congr Iff.rfl ⟨?_, ?_⟩
  · rintro ⟨⟨k, p⟩, he, rfl⟩
    obtain ⟨hk, hp⟩ := List.mem_filter.1 he
    exact ⟨p, AList.mem_lookup_iff.2 hk, Bool.and_eq_true_iff.1 hp⟩
  · rintro ⟨p, hl, hp⟩
    exact ⟨⟨n, p⟩, List.mem_filter.2 ⟨AList.mem_lookup_iff.1 hl, Bool.and_eq_true_iff.2 hp⟩, rfl⟩

/-- WHAT ENUMERATION RETURNS. For every chain, host, mode, given names and world: the names
given come first and unchanged; no name is added twice, so names without duplicates stay
without; and a name is in the result exactly when it was given, a `getPropertyNames` callback
of the run reported it, some class of the chain lists it among its static names in this mode,
or it names an own property of the object as the run leaves it, spells no array index, and
is enumerable or asked for. -/
theorem getOwnNonIndexPropertyNames_result (chain : List JSClass) (propertyNames : List Name)
    (mode : EnumerationMode) (w : World) :
    (∃ rest, (getOwnNonIndexPropertyNames h chain propertyNames mode w).result =
        propertyNames ++ rest) ∧
      (propertyNames.Nodup → (getOwnNonIndexPropertyNames h chain propertyNames mode w).result.Nodup) ∧
      ∀ n, n ∈ (getOwnNonIndexPropertyNames h chain propertyNames mode w).result ↔
        n ∈ propertyNames ∨
          n ∈ (getOwnNonIndexPropertyNames h chain propertyNames mode w).events.flatMap
            Entry.reportedNames ∨
          StaticallyListed chain mode n ∨
          ∃ p, (getOwnNonIndexPropertyNames h chain propertyNames mode w).world.props.lookup n =
            some p ∧ (parseIndex n).isNone = true ∧
            (!p.attributes.dontEnum || mode.includeDontEnumProperties) = true := by
  obtain ⟨hext, hmem⟩ := getOwnNonIndexPropertyNamesLoop_spec h mode chain propertyNames w
  have hpar := extends_foldl (fun names (e : (_ : Name) × Property) => extends_add names e.1)
    ((getOwnNonIndexPropertyNamesLoop h mode chain propertyNames w).world.props.entries.filter
      fun e => (parseIndex e.1).isNone &&
        (!e.2.attributes.dontEnum || mode.includeDontEnumProperties))
    (getOwnNonIndexPropertyNamesLoop h mode chain propertyNames w).result
  simp only [getOwnNonIndexPropertyNames, Parent.getOwnNonIndexPropertyNames, Eng.bind_result,
    Eng.bind_events, Eng.bind_world, Parent.run_apply, List.flatMap_append, List.flatMap_cons,
    List.flatMap_nil, Entry.reportedNames, List.nil_append, List.append_nil]
  obtain ⟨⟨r, hr⟩, hnd⟩ := hext.trans hpar
  exact ⟨⟨r, hr⟩, hnd, fun n => by rw [mem_parentNames, hmem, or_assoc, or_assoc]⟩

end JSCallbackObject

end JSC
