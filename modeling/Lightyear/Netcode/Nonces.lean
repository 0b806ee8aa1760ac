import Lightyear.Netcode.Packet

/-!
The nonces that were used up. The nonce of a packet is made of its sequence number, so a key
must never see a number twice.
-/
namespace Lightyear.Netcode

/-- A packet that was encrypted, with its key and the number that its nonce is made of. -/
structure Sealed where
  key : Key
  sequence : UInt64
  packet : Packet
deriving DecidableEq

/-- Two packets with the same nonce are the same packet. -/
def Agree (one other : Sealed) : Prop :=
  one.key = other.key → one.sequence = other.sequence → one.packet = other.packet

instance : Std.Symm Agree := ⟨fun _ _ agree key sequence => (agree key.symm sequence.symm).symm⟩

/-- No two different packets are encrypted with the same key and the same sequence number. -/
def NoncesUnique (history : List Sealed) : Prop := ∀ one ∈ history, ∀ other ∈ history, Agree one other

/-- No number is used twice with a key. -/
def NoncesDistinct (history : List Sealed) : Prop :=
  history.Pairwise fun one other => one.key = other.key → one.sequence ≠ other.sequence

theorem NoncesDistinct.unique {history : List Sealed} (distinct : NoncesDistinct history) : NoncesUnique history := by
  have pairwise : history.Pairwise Agree := distinct.imp fun differ key sequence => absurd sequence (differ key)
  intro one member other member'
  exact pairwise.forall_of_forall (fun _ _ _ _ => rfl) member member'

theorem NoncesDistinct.snoc {history : List Sealed} {entry : Sealed} (distinct : NoncesDistinct history)
    (fresh : ∀ one ∈ history, one.key = entry.key → one.sequence ≠ entry.sequence) :
    NoncesDistinct (history ++ [entry]) := by
  refine List.pairwise_append.mpr ⟨distinct,List.pairwise_singleton ..,fun one member other isNew => ?_⟩
  cases List.mem_singleton.mp isNew
  exact fresh one member

end Lightyear.Netcode
