import Ultralight.JSCallbackObject.Engine

/-!
# What a computation keeps

`Keeps inv good m`: started in a world satisfying `inv`, `m` ends in one, and every entry it
records satisfies `good`. It is the one shape of the trace laws of this development — the lock
discipline, the locality of a class's block — and it composes: `pure`, `bind`, `<$>`, the
fall-through of `orElse` and the chain walk keep whatever their parts keep. A law about an
operation is therefore proved once per primitive and assembled along the operation's own
structure, never by unfolding the operation whole.
-/

namespace JSC

/-- `m`, started in a world satisfying `inv`, ends in one, and every entry it records
satisfies `good`. -/
def Keeps (inv : World → Prop) (good : Entry → Prop) (m : Eng α) : Prop :=
  ∀ w, inv w → inv (m w).world ∧ ∀ x ∈ (m w).events, good x

namespace Keeps

variable {inv : World → Prop} {good : Entry → Prop}

theorem pure (a : α) : Keeps inv good (pure a : Eng α) := fun _ hw => by simp [hw]

theorem bind {m : Eng α} {k : α → Eng β} (hm : Keeps inv good m)
    (hk : ∀ a, Keeps inv good (k a)) : Keeps inv good (m >>= k) := fun w hw =>
  have h₁ := hm w hw
  have h₂ := hk (m w).result (m w).world h₁.1
  ⟨by simpa using h₂.1, by simpa using List.forall_mem_append.mpr ⟨h₁.2, h₂.2⟩⟩

theorem map {m : Eng α} (f : α → β) (hm : Keeps inv good m) : Keeps inv good (f <$> m) :=
  fun w hw => by simpa using hm w hw

theorem orElse {first next : Eng (Option α)} (h₁ : Keeps inv good first)
    (h₂ : Keeps inv good next) : Keeps inv good (first.orElse next) := by
  intro w hw
  obtain ⟨hw₁, he₁⟩ := h₁ w hw
  cases hr : (first w).result with
  | some a => rw [Eng.orElse_of_some hr]; exact ⟨hw₁, he₁⟩
  | none =>
    obtain ⟨hw₂, he₂⟩ := h₂ _ hw₁
    rw [Eng.orElse_of_none hr]
    exact ⟨hw₂, List.forall_mem_append.mpr ⟨he₁, he₂⟩⟩

/-- The chain walk keeps what every class's body and the fallback keep. -/
theorem walkChain {body : JSClass → Eng (Option α)} {after : Eng α}
    (hbody : ∀ c, Keeps inv good (body c)) (hafter : Keeps inv good after) :
    ∀ chain, Keeps inv good (JSC.walkChain body after chain)
  | [] => hafter
  | c :: cs => by
    intro w hw
    obtain ⟨hw₁, he₁⟩ := hbody c w hw
    cases hr : (body c w).result with
    | some a => rw [walkChain_cons_of_some hr]; exact ⟨hw₁, he₁⟩
    | none =>
      obtain ⟨hw₂, he₂⟩ := walkChain hbody hafter cs _ hw₁
      rw [walkChain_cons_of_none hr]
      exact ⟨hw₂, List.forall_mem_append.mpr ⟨he₁, he₂⟩⟩

/-- A walk over a chain with a class whose body always answers never reaches the fallback:
it keeps what the bodies keep, whatever the fallback does. -/
theorem walkChain_of_answers {body : JSClass → Eng (Option α)} {after : Eng α}
    (hbody : ∀ c, Keeps inv good (body c)) :
    ∀ chain, (∃ c ∈ chain, ∀ w, ((body c w).result).isSome) →
      Keeps inv good (JSC.walkChain body after chain)
  | [], ⟨_, hc, _⟩ => absurd hc (List.not_mem_nil _)
  | c :: cs, hstop => by
    intro w hw
    obtain ⟨hw₁, he₁⟩ := hbody c w hw
    cases hr : (body c w).result with
    | some a => rw [walkChain_cons_of_some hr]; exact ⟨hw₁, he₁⟩
    | none =>
      -- the class that always answers is further on
      have hcs : ∃ d ∈ cs, ∀ w, ((body d w).result).isSome := by
        obtain ⟨d, hd, hans⟩ := hstop
        rcases List.mem_cons.mp hd with rfl | hd
        · simpa [hr] using hans w
        · exact ⟨d, hd, hans⟩
      obtain ⟨hw₂, he₂⟩ := walkChain_of_answers hbody cs hcs _ hw₁
      rw [walkChain_cons_of_none hr]
      exact ⟨hw₂, List.forall_mem_append.mpr ⟨he₁, he₂⟩⟩

theorem emit {e : Event} (he : ∀ w, inv w → good ⟨e, w.locksHeld, w.props⟩) :
    Keeps inv good (emit e) := fun w hw => by simpa [hw] using he w hw

theorem throwIfRaised (reply : Reply)
    (he : ∀ w e, inv w → good ⟨.throwException e, w.locksHeld, w.props⟩) :
    Keeps inv good (JSC.throwIfRaised reply) := fun w hw => by
  cases hx : reply.exception <;> simp [hx, hw, he w _ hw]

theorem answerValue (reply : Reply) (onThrow : α) (wrap : JSValue → α)
    (he : ∀ w e, inv w → good ⟨.throwException e, w.locksHeld, w.props⟩) :
    Keeps inv good (JSC.answerValue reply onThrow wrap) := fun w hw => by
  cases hx : reply.exception <;> simp [hx, hw, he w _ hw]

end Keeps

/-- A law that the primitives a read is made of keep: table lookups, throws, host calls made
in a `DropAllLocks` scope, and the generic object's own lookup. Every read of the core then
keeps it (`Property.lean`), and so does every block of the writes that stores nothing
(`Put.lean`). -/
structure ReadLaw (h : Host) (inv : World → Prop) (good : Entry → Prop) : Prop where
  lookup : ∀ jsClass table name, Keeps inv good (emit (.lookup jsClass table name))
  throw : ∀ exception, Keeps inv good (throwException exception)
  call : ∀ c, Keeps inv good (dropAllLocks (invoke h c))
  parentLookup : ∀ name, Keeps inv good (Parent.getOwnPropertySlot name)

namespace ReadLaw

variable {h : Host} {inv : World → Prop} {good : Entry → Prop}

theorem throwIfRaised (hl : ReadLaw h inv good) (reply : Reply) :
    Keeps inv good (JSC.throwIfRaised reply) :=
  Keeps.throwIfRaised reply fun w e hw => by simpa using ((hl.throw e) w hw).2

theorem answerValue (hl : ReadLaw h inv good) (reply : Reply) (onThrow : α)
    (wrap : JSValue → α) : Keeps inv good (JSC.answerValue reply onThrow wrap) :=
  Keeps.answerValue reply onThrow wrap fun w e hw => by simpa using ((hl.throw e) w hw).2

end ReadLaw

end JSC
