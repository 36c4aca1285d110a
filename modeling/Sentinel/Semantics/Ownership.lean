import Mathlib.Data.List.Nodup

/-!
# Who holds which address

Addresses are handed out by counting up, each is held by at most one owner, and
one that is given back waits on a free list for its next owner.
-/

namespace Sentinel.Semantics

variable {Owner : Type}

structure Separated (holds : Owner → List Nat) (free : List Nat) (allocated : Nat) : Prop where
  below : ∀ owner, ∀ address ∈ holds owner, address < allocated
  freeBelow : ∀ address ∈ free, address < allocated
  apart : ∀ owner other, owner ≠ other → ∀ address ∈ holds owner, address ∉ holds other
  unfree : ∀ owner, ∀ address ∈ holds owner, address ∉ free
  nodup : free.Nodup

namespace Separated

variable {holds after : Owner → List Nat} {free : List Nat} {allocated address : Nat}
  {owner : Owner}

/-- Without owners nothing is shared. -/
theorem start : Separated (fun _ : Owner => []) [] 0 := ⟨nofun, nofun, nofun, nofun, List.nodup_nil⟩

/-- Owners may let go of anything. -/
theorem shrink (separated : Separated holds free allocated)
    (kept : ∀ owner, after owner ⊆ holds owner) : Separated after free allocated where
  below := fun owner address member => separated.below owner address (kept owner member)
  freeBelow := separated.freeBelow
  apart := fun owner other different address member also =>
    separated.apart owner other different address (kept owner member) (kept other also)
  unfree := fun owner address member => separated.unfree owner address (kept owner member)
  nodup := separated.nodup

/-- One owner gains an address, the others gain nothing. -/
theorem mem_gain (own : after owner ⊆ address :: holds owner)
    (others : ∀ other, other ≠ owner → after other ⊆ holds other) (other : Owner) (one : Nat)
    (member : one ∈ after other) : one = address ∨ one ∈ holds other := by
  by_cases same : other = owner
  · rw [same] at member ⊢
    exact List.mem_cons.mp (own member)
  · exact .inr (others other same member)

/-- What one owner gains was nobody's, so the others' holdings stay apart from it. -/
theorem gain (separated : Separated holds free allocated)
    (new : ∀ other, address ∉ holds other) (own : after owner ⊆ address :: holds owner)
    (others : ∀ other, other ≠ owner → after other ⊆ holds other) (one another : Owner)
    (different : one ≠ another) (held : Nat) (member : held ∈ after one) :
    held ∉ after another := by
  intro also
  by_cases first : one = owner
  · have second : another ≠ owner := fun same => different (first.trans same.symm)
    have there := others another second also
    rw [first] at member
    rcases List.mem_cons.mp (own member) with same | before
    · exact new another (same ▸ there)
    · exact separated.apart owner another (first ▸ different) held before there
  · have here := others one first member
    by_cases second : another = owner
    · rw [second] at also
      rcases List.mem_cons.mp (own also) with same | before
      · exact new one (same ▸ here)
      · exact separated.apart one owner first held here before
    · exact separated.apart one another different held here (others another second also)

/-- Take the next address that was never handed out. -/
theorem hold_new (separated : Separated holds free allocated)
    (own : after owner ⊆ allocated :: holds owner)
    (others : ∀ other, other ≠ owner → after other ⊆ holds other) :
    Separated after free (allocated + 1) := by
  have held := mem_gain own others
  have unused : ∀ other, allocated ∉ holds other :=
    fun other member => Nat.lt_irrefl _ (separated.below other allocated member)
  constructor
  · intro other address member
    rcases held other address member with same | before
    · omega
    · exact Nat.lt_succ_of_lt (separated.below other address before)
  · exact fun address member => Nat.lt_succ_of_lt (separated.freeBelow address member)
  · exact separated.gain unused own others
  · intro other address member
    rcases held other address member with same | before
    · intro waiting
      exact Nat.lt_irrefl _ (same ▸ separated.freeBelow address waiting)
    · exact separated.unfree other address before
  · exact separated.nodup

/-- Take an address from the free list. -/
theorem hold_free (separated : Separated holds free allocated) (waiting : address ∈ free)
    (own : after owner ⊆ address :: holds owner)
    (others : ∀ other, other ≠ owner → after other ⊆ holds other) :
    Separated after (free.erase address) allocated := by
  have held := mem_gain own others
  have unused : ∀ other, address ∉ holds other :=
    fun other member => separated.unfree other address member waiting
  constructor
  · intro other one member
    rcases held other one member with same | before
    · exact same ▸ separated.freeBelow address waiting
    · exact separated.below other one before
  · exact fun one member => separated.freeBelow one (List.mem_of_mem_erase member)
  · exact separated.gain unused own others
  · intro other one member
    rcases held other one member with same | before
    · rw [same]
      exact separated.nodup.not_mem_erase
    · exact fun still => separated.unfree other one before (List.mem_of_mem_erase still)
  · exact separated.nodup.erase address

/-- Give an address back. -/
theorem release (separated : Separated holds free allocated) (held : address ∈ holds owner)
    (own : ∀ one ∈ after owner, one ∈ holds owner ∧ one ≠ address)
    (others : ∀ other, other ≠ owner → after other ⊆ holds other) :
    Separated after (address :: free) allocated := by
  have kept : ∀ other, ∀ one ∈ after other, one ∈ holds other ∧ one ≠ address := by
    intro other one member
    by_cases same : other = owner
    · rw [same] at member ⊢
      exact own one member
    · refine ⟨others other same member, fun given => ?_⟩
      exact separated.apart owner other (Ne.symm same) address held
        (given ▸ others other same member)
  have smaller := separated.shrink fun other one member => (kept other one member).1
  constructor
  · exact smaller.below
  · intro one member
    rcases List.mem_cons.mp member with same | waiting
    · exact same ▸ separated.below owner address held
    · exact separated.freeBelow one waiting
  · exact smaller.apart
  · intro other one member waiting
    rcases List.mem_cons.mp waiting with same | before
    · exact (kept other one member).2 same
    · exact smaller.unfree other one member before
  · exact List.nodup_cons.mpr ⟨separated.unfree owner address held, separated.nodup⟩

end Separated
end Sentinel.Semantics
