import Lightyear.TransportReceive

/-!
The datagrams of a frame in the receive system of `plugin.rs`. The loop over them ends with the first one that is
malformed, and what is behind it in the link's buffer is dropped.
-/
namespace Lightyear.TransportReceive
open Codec
open Lightyear.Message Lightyear.Compression Lightyear.Header Lightyear.Packets Lightyear.ReceiveLoop

/-- What a datagram that is received without an error does: the transport behind it, and the messages that its
channels were handed. -/
abbrev Effect := Transport × List (ChannelId × MessageData)

/-- `link.recv.drain().try_for_each(..)`, with the effects of the datagrams. Dropping the iterator drops the rest. -/
def receive_frame (lz4 : Lz4) (real : Duration) :
    Transport → List Bytes → Transport × List Effect × Except TransportError Unit
  | self,[] => (self,[],.ok ())
  | self,packet :: batch =>
    match receive_packet lz4 self packet real with
    | (self,_,.error error) => (self,[],.error error)
    | (self,handed,.ok ()) =>
      match receive_frame lz4 real self batch with
      | (last,effects,outcome) => (last,(self,handed) :: effects,outcome)

def effects (lz4 : Lz4) (real : Duration) (self : Transport) (batch : List Bytes) : List Effect :=
  (receive_frame lz4 real self batch).2.1

/-- The batch without its malformed datagrams. -/
def well_formed (lz4 : Lz4) (real : Duration) : Transport → List Bytes → List Bytes
  | _,[] => []
  | self,packet :: batch =>
    match receive_packet lz4 self packet real with
    | (_,_,.error _) => well_formed lz4 real self batch
    | (next,_,.ok ()) => packet :: well_formed lz4 real next batch

/-- What the well-formed datagrams do is what they do without the malformed ones. -/
def Isolated (lz4 : Lz4) (real : Duration) (self : Transport) (batch : List Bytes) : Prop :=
  effects lz4 real self batch = effects lz4 real self (well_formed lz4 real self batch)

section
variable {lz4 : Lz4} {real : Duration} {self next : Transport} {packet : Bytes} {batch : List Bytes}
  {handed : List (ChannelId × MessageData)}

theorem effects_of_ok (received : receive_packet lz4 self packet real = (next,handed,.ok ())) :
    effects lz4 real self (packet :: batch) = (next,handed) :: effects lz4 real next batch := by
  simp only [effects,receive_frame,received]

theorem effects_of_error {error : TransportError}
    (failed : receive_packet lz4 self packet real = (next,handed,.error error)) :
    effects lz4 real self (packet :: batch) = [] := by
  simp only [effects,receive_frame,failed]

theorem well_formed_of_ok (received : receive_packet lz4 self packet real = (next,handed,.ok ())) :
    well_formed lz4 real self (packet :: batch) = packet :: well_formed lz4 real next batch := by
  simp only [well_formed,received]

theorem well_formed_of_error {error : TransportError}
    (failed : receive_packet lz4 self packet real = (next,handed,.error error)) :
    well_formed lz4 real self (packet :: batch) = well_formed lz4 real self batch := by
  simp only [well_formed,failed]

/-- The first datagram that is well-formed is received where the batch starts. -/
theorem well_formed_head {later : List Bytes} (first : well_formed lz4 real self batch = packet :: later) :
    ∃ next handed,receive_packet lz4 self packet real = (next,handed,.ok ()) := by
  induction batch with
  | nil => cases first
  | cons other batch ih =>
    cases received : receive_packet lz4 self other real with
    | mk next result =>
      obtain ⟨handed,outcome⟩ := result
      cases outcome with
      | error error => exact ih ((well_formed_of_error received).symm.trans first)
      | ok _ =>
        cases (well_formed_of_ok received).symm.trans first
        exact ⟨next,handed,received⟩

/-- Malformed datagrams are isolated exactly if all of them are behind the well-formed ones. -/
theorem isolated_iff (lz4 : Lz4) (real : Duration) (self : Transport) (batch : List Bytes) :
    Isolated lz4 real self batch ↔ well_formed lz4 real self batch <+: batch := by
  unfold Isolated
  induction batch generalizing self with
  | nil => exact iff_of_true rfl (List.prefix_refl [])
  | cons packet batch ih =>
    cases received : receive_packet lz4 self packet real with
    | mk next result =>
      obtain ⟨handed,outcome⟩ := result
      cases outcome with
      | ok _ =>
        rw [effects_of_ok received,well_formed_of_ok received,effects_of_ok received,List.cons_inj_right,
          List.prefix_cons_inj]
        exact ih next
      | error error =>
        rw [effects_of_error received,well_formed_of_error received]
        cases first : well_formed lz4 real self batch with
        | nil => exact iff_of_true rfl List.nil_prefix
        | cons good later =>
          obtain ⟨behind,given,accepted⟩ := well_formed_head first
          rw [effects_of_ok accepted]
          refine iff_of_false (fun same => (nomatch same)) fun isPrefix => ?_
          cases (List.cons_prefix_cons.mp isPrefix).1
          cases received.symm.trans accepted

end

/-- A datagram of one byte, and then a packet with a message for a reliable channel: the message is not handed over. -/
theorem malformed_drops_rest : ∃ batch,
    ¬Isolated Lz4.literals 0 ⟨.new,AList.insert 1 (.new .OrderedReliable 1000 (by decide)) ∅,.DISABLED⟩ batch := by
  refine ⟨[[0],[0,0,0,255,255,0,0,0,0,0,0,0,0] ++ [1,1,1,0,0,1,42]],fun isolated => ?_⟩
  have lengths := congrArg List.length isolated
  revert lengths
  decide

end Lightyear.TransportReceive
