import Lightyear.P2P.Drive

/-!
The peers of a cohort and the network between them. A network may deliver what a peer
sent to another at any time, in any order, any number of times or not at all. Two peers
that start in one attempt start at the same tick: each peer advertises one tick in it,
and a start tick is the greatest of these (`Chosen`).
-/
namespace Lightyear.P2P
open Message

structure Sent (Peer : Type) where
  sender : Peer
  receiver : Peer
  message : P2PSessionMessage
deriving DecidableEq, Repr

/-- The app of each peer, and every message that was sent. -/
structure World (Peer : Type) where
  apps : Peer → App Peer
  sent : List (Sent Peer)

/-- What happens at a peer. The transport connects and disconnects links and hands messages to their receivers, and a
resynchronization shifts the timeline. -/
inductive Event (Peer : Type) where
  | start (peer : Peer) (now : Nat)
  | stop (peer : Peer)
  | frame (peer : Peer) (now : Nat) (timeline_synced : Bool)
  | fixed_step (peer : Peer)
  | transport (peer : Peer) (links : List (Link Peer))
  | shift (peer : Peer) (delta : Int)

/-- A peer froze its remote peers for an attempt, or started in it. -/
inductive Milestone (Peer : Type) where
  | frozen (peer : Peer) (generation : BitVec 32) (remote_ids : List Peer)
  | started (peer : Peer) (generation : BitVec 32) (start_tick : Tick)
deriving DecidableEq, Repr

variable {Peer : Type}

section
variable [DecidableEq Peer]

/-- The app of a peer changes, and sends messages. -/
def World.update (world : World Peer) (peer : Peer) (app : App Peer) (outbound : List (Peer × P2PSessionMessage)) :
    World Peer :=
  ⟨Function.update world.apps peer app,world.sent ++ outbound.map fun (receiver,message) => ⟨peer,receiver,message⟩⟩

def World.step (hash : Peer → List Peer → BitVec 64) (world : World Peer) :
    Event Peer → World Peer × Option (Milestone Peer)
  | .start peer now =>
    let (app,ids) := start_session hash now (world.apps peer)
    (world.update peer app [],ids.map (.frozen peer app.session.generation ·))
  | .stop peer => (world.update peer (stop_session (world.apps peer)) [],none)
  | .frame peer now timeline_synced =>
    let (app,outbound) := drive_session now timeline_synced (world.apps peer)
    (world.update peer app outbound,none)
  | .fixed_step peer =>
    let (app,started) := fixed_first (world.apps peer)
    (world.update peer app [],started.map (.started peer (world.apps peer).session.generation ·))
  | .transport peer links => (world.update peer {world.apps peer with links} [],none)
  | .shift peer delta =>
    (world.update peer {world.apps peer with tick := (world.apps peer).tick.add_signed delta} [],none)

/-- Receivers hold messages that the peer at the other end sent. -/
def Possible (world : World Peer) : Event Peer → Prop
  | .transport peer links => ∀ message ∈ links.flatMap Link.held,⟨message.1,peer,message.2⟩ ∈ world.sent
  | _ => True

/-- Before a run nothing is sent and no peer negotiates. -/
structure Fresh (world : World Peer) : Prop where
  sent : world.sent = []
  held : ∀ peer,(world.apps peer).held = []
  stopped : ∀ peer,(world.apps peer).session.is_starting = false

/-- A run, with its milestones. -/
inductive Run (hash : Peer → List Peer → BitVec 64) (first : World Peer) : World Peer → List (Milestone Peer) → Prop
  | nil : Run hash first first []
  | step {world : World Peer} {log : List (Milestone Peer)} (before : Run hash first world log) {event : Event Peer}
      (possible : Possible world event) :
      Run hash first (world.step hash event).1 (log ++ (world.step hash event).2.toList)

end

section
variable (generation : BitVec 32) (sent : List (Sent Peer))

def Advertised (peer : Peer) (tick : Tick) : Prop := ∃ receiver hash,⟨peer,receiver,.Ready generation hash tick⟩ ∈ sent

def Acknowledged (peer : Peer) (tick : Tick) : Prop :=
  ∃ receiver hash,⟨peer,receiver,.StartAcknowledgement generation hash tick⟩ ∈ sent

/-- The tick is advertised by a peer, and every peer advertised one that is not greater. -/
def Chosen (roster : List Peer) (tick : Tick) : Prop :=
  (∀ peer ∈ roster,∃ ready,Advertised generation sent peer ready ∧ ready ≤ tick) ∧
    ∃ peer ∈ roster,Advertised generation sent peer tick

/-- What is known of remote peers was sent by them. -/
def Heard (peers : List (RemotePeerStart Peer)) : Prop :=
  ∀ remote ∈ peers,(∀ tick,remote.ready_tick = some tick → Advertised generation sent remote.peer_id tick) ∧
    ∀ tick,remote.acknowledged_tick = some tick → Acknowledged generation sent remote.peer_id tick
end

/-- A session negotiates in an attempt. -/
def Active (generation : BitVec 32) (session : P2PSession Peer) : Prop :=
  session.is_starting = true ∧ session.generation = generation

section
variable (generation : BitVec 32) (roster : List Peer) (peer : Peer)

/-- The state of a negotiation agrees with what was sent. -/
structure Negotiating (session : P2PSession Peer) (sent : List (Sent Peer)) (log : List (Milestone Peer)) : Prop where
  cohort : (peer :: session.peer_ids).Perm roster
  others : session.remote_peers ≠ []
  hash : session.roster_hash.isSome
  heard : Heard generation sent session.remote_peers
  ready : ∀ tick,Advertised generation sent peer tick ↔ session.local_ready_tick = some tick
  ready_sent : session.local_ready_sent = session.local_ready_tick.isSome
  chosen : ∀ tick,session.state = .Starting (some tick) → Chosen generation sent roster tick ∧
    Acknowledged generation sent peer tick
  acknowledgement_sent : session.local_acknowledgement_sent = session.start_tick.isSome
  not_started : ∀ tick,.started peer generation tick ∉ log

structure PeerInvariant (session : P2PSession Peer) (sent : List (Sent Peer)) (log : List (Milestone Peer)) : Prop where
  silent : (∀ remote_ids,.frozen peer generation remote_ids ∉ log) →
    ¬Active generation session ∧ (∀ tick,¬Advertised generation sent peer tick) ∧
      ∀ tick,.started peer generation tick ∉ log
  unique : ∀ tick other,Advertised generation sent peer tick → Advertised generation sent peer other → tick = other
  negotiating : Active generation session → Negotiating generation roster peer session sent log
  decided : ∀ tick,.started peer generation tick ∈ log →
    Chosen generation sent roster tick ∧ ∀ other ∈ roster,Acknowledged generation sent other tick
end

structure Invariant (generation : BitVec 32) (roster : List Peer) (world : World Peer) (log : List (Milestone Peer)) :
    Prop where
  held : ∀ peer,∀ message ∈ (world.apps peer).held,⟨message.1,peer,message.2⟩ ∈ world.sent
  peers : ∀ peer ∈ roster,PeerInvariant generation roster peer (world.apps peer).session world.sent log

/-! ### What is sent stays sent -/

section
variable {generation : BitVec 32} {roster : List Peer} {peer : Peer} {session : P2PSession Peer}
variable {sent sent' : List (Sent Peer)} {log log' : List (Milestone Peer)}

theorem Advertised.mono (more : sent ⊆ sent') {tick : Tick} : Advertised generation sent peer tick →
    Advertised generation sent' peer tick
  | ⟨receiver,hash,member⟩ => ⟨receiver,hash,more member⟩

theorem Acknowledged.mono (more : sent ⊆ sent') {tick : Tick} : Acknowledged generation sent peer tick →
    Acknowledged generation sent' peer tick
  | ⟨receiver,hash,member⟩ => ⟨receiver,hash,more member⟩

theorem Chosen.mono (more : sent ⊆ sent') {tick : Tick} (chosen : Chosen generation sent roster tick) :
    Chosen generation sent' roster tick := by
  obtain ⟨all,other,member,advertised⟩ := chosen
  refine ⟨fun peer member => ?_,other,member,advertised.mono more⟩
  obtain ⟨ready,advertised,le⟩ := all peer member
  exact ⟨ready,advertised.mono more,le⟩

theorem Heard.mono (more : sent ⊆ sent') {peers : List (RemotePeerStart Peer)} (heard : Heard generation sent peers) :
    Heard generation sent' peers := fun remote member =>
  ⟨fun tick known => ((heard remote member).1 tick known).mono more,
    fun tick known => ((heard remote member).2 tick known).mono more⟩

/-- Where every peer advertises one tick, one tick is chosen. -/
theorem Chosen.unique (unique : ∀ peer ∈ roster,∀ tick other,Advertised generation sent peer tick →
      Advertised generation sent peer other → tick = other) {tick other : Tick}
    (chosen : Chosen generation sent roster tick) (chosen' : Chosen generation sent roster other) : tick = other := by
  have notAfter {a b : Tick} (chosen : Chosen generation sent roster a) (chosen' : Chosen generation sent roster b) :
      a ≤ b := by
    obtain ⟨-,peer,member,advertised⟩ := chosen
    obtain ⟨ready,isReady,le⟩ := chosen'.1 peer member
    exact unique peer member a ready advertised isReady ▸ le
  exact le_antisymm (notAfter chosen chosen') (notAfter chosen' chosen)

theorem Negotiating.mono (negotiating : Negotiating generation roster peer session sent log) (more : sent ⊆ sent')
    (same : ∀ tick,Advertised generation sent' peer tick → Advertised generation sent peer tick)
    (notStarted : ∀ tick,.started peer generation tick ∉ log') :
    Negotiating generation roster peer session sent' log' where
  cohort := negotiating.cohort
  others := negotiating.others
  hash := negotiating.hash
  heard := negotiating.heard.mono more
  ready tick := ⟨fun advertised => (negotiating.ready tick).mp (same tick advertised),
    fun known => ((negotiating.ready tick).mpr known).mono more⟩
  ready_sent := negotiating.ready_sent
  chosen tick state := ⟨(negotiating.chosen tick state).1.mono more,(negotiating.chosen tick state).2.mono more⟩
  acknowledgement_sent := negotiating.acknowledgement_sent
  not_started := notStarted

/-- What other peers do, and what a peer does in other attempts. -/
theorem PeerInvariant.mono (invariant : PeerInvariant generation roster peer session sent log) (more : sent ⊆ sent')
    (same : ∀ tick,Advertised generation sent' peer tick → Advertised generation sent peer tick)
    (longer : log ⊆ log')
    (started : ∀ tick,.started peer generation tick ∈ log' → .started peer generation tick ∈ log) :
    PeerInvariant generation roster peer session sent' log' where
  silent none := by
    obtain ⟨idle,notSent,notStarted⟩ := invariant.silent fun ids member => none ids (longer member)
    exact ⟨idle,fun tick advertised => notSent tick (same tick advertised),
      fun tick member => notStarted tick (started tick member)⟩
  unique tick other advertised advertised' :=
    invariant.unique tick other (same tick advertised) (same other advertised')
  negotiating active := (invariant.negotiating active).mono more same fun tick member =>
    (invariant.negotiating active).not_started tick (started tick member)
  decided tick member := by
    obtain ⟨chosen,all⟩ := invariant.decided tick (started tick member)
    exact ⟨chosen.mono more,fun other isOther => (all other isOther).mono more⟩

/-- A session that negotiates on in the attempt. -/
theorem PeerInvariant.negotiated (invariant : PeerInvariant generation roster peer session sent log)
    (active : Active generation session) {next : P2PSession Peer}
    (negotiating : Negotiating generation roster peer next sent' log) :
    PeerInvariant generation roster peer next sent' log where
  silent none := absurd active (invariant.silent none).1
  unique tick other advertised advertised' :=
    Option.some_inj.mp (((negotiating.ready tick).mp advertised).symm.trans ((negotiating.ready other).mp advertised'))
  negotiating _ := negotiating
  decided tick member := absurd member (negotiating.not_started tick)

/-- A session that does not negotiate in the attempt. -/
theorem PeerInvariant.idle (invariant : PeerInvariant generation roster peer session sent log) {other : P2PSession Peer}
    (idle : ¬Active generation other) : PeerInvariant generation roster peer other sent log where
  silent none := ⟨idle,(invariant.silent none).2⟩
  unique := invariant.unique
  negotiating active := absurd active idle
  decided := invariant.decided

end

section
variable {generation : BitVec 32} {roster : List Peer} {peer : Peer}
variable {session : P2PSession Peer} {sent : List (Sent Peer)} {log : List (Milestone Peer)}

/-- What a session is after some messages that were sent. -/
def Scanned (generation : BitVec 32) (sent : List (Sent Peer)) (before after : P2PSession Peer) : Prop :=
  ∃ remote_peers roster_mismatch,after = {before with remote_peers,roster_mismatch} ∧
    remote_peers.map (·.peer_id) = before.peer_ids ∧ Heard generation sent remote_peers

private theorem scanned_receive [DecidableEq Peer] (current : session.generation = generation) {after : P2PSession Peer}
    {sender : Peer}
    {message : P2PSessionMessage} (member : ⟨sender,peer,message⟩ ∈ sent)
    (scanned : Scanned generation sent session after) :
    Scanned generation sent session (after.receive sender message) := by
  obtain ⟨remote_peers,roster_mismatch,rfl,ids,heard⟩ := scanned
  obtain ⟨received,mismatch,isReceived,sameIds,known⟩ :=
    P2PSession.receive_eq {session with remote_peers,roster_mismatch} sender message
  refine ⟨received,mismatch,isReceived,sameIds.trans ids,fun remote isRemote => ?_⟩
  rcases known remote isRemote with old | ⟨sameGeneration,before,isBefore,rfl,rfl⟩
  · exact heard remote old
  have current : message.generation = generation := sameGeneration.trans current
  obtain ⟨ready,acknowledged⟩ := heard before isBefore
  cases message with
  | Ready _ hash earliest =>
    cases current
    refine ⟨fun tick isTick => ?_,acknowledged⟩
    cases isReady : before.ready_tick with
    | some _ => exact ready tick (by simpa [RemotePeerStart.record,isReady] using isTick)
    | none =>
      have same : earliest = tick := by simpa [RemotePeerStart.record,isReady] using isTick
      exact ⟨peer,hash,same ▸ member⟩
  | StartAcknowledgement _ hash start =>
    cases current
    refine ⟨ready,fun tick isTick => ?_⟩
    cases isAcknowledged : before.acknowledged_tick with
    | some _ => exact acknowledged tick (by simpa [RemotePeerStart.record,isAcknowledged] using isTick)
    | none =>
      have same : start = tick := by simpa [RemotePeerStart.record,isAcknowledged] using isTick
      exact ⟨peer,hash,same ▸ member⟩

theorem Negotiating.scanned (negotiating : Negotiating generation roster peer session sent log)
    {after : P2PSession Peer}
    (scanned : Scanned generation sent session after) : Negotiating generation roster peer after sent log := by
  obtain ⟨remote_peers,roster_mismatch,rfl,ids,heard⟩ := scanned
  have cohort := negotiating.cohort
  rw [← ids] at cohort
  exact {
    cohort := cohort
    others := fun empty => negotiating.others (by
      cases (empty : remote_peers = [])
      exact List.map_eq_nil_iff.mp ids.symm)
    hash := negotiating.hash
    heard := heard
    ready := negotiating.ready
    ready_sent := negotiating.ready_sent
    chosen := negotiating.chosen
    acknowledgement_sent := negotiating.acknowledgement_sent
    not_started := negotiating.not_started}

/-- The messages of a negotiation are sent to a remote peer at least. -/
structure Broadcast (peer : Peer) (outbound : List P2PSessionMessage) (sent sent' : List (Sent Peer)) : Prop where
  more : sent ⊆ sent'
  all : ∀ message ∈ outbound,∃ receiver,⟨peer,receiver,message⟩ ∈ sent'
  only : ∀ entry ∈ sent',entry ∈ sent ∨ entry.sender = peer ∧ entry.message ∈ outbound

/-- A frame of a negotiation: its messages say what it has chosen. -/
theorem Negotiating.advanced (negotiating : Negotiating generation roster peer session sent log)
    (unique : ∀ peer ∈ roster,∀ tick other,Advertised generation sent peer tick →
      Advertised generation sent peer other →
      tick = other) (starting : session.is_starting = true) (current : session.generation = generation)
    {tick : Tick} {timeline_synced : Bool} {next : P2PSession Peer} {result : AdvanceResult}
    (advanced : session.advance tick timeline_synced = (next,result)) (fine : result ≠ .Failed)
    {sent' : List (Sent Peer)} (broadcast : Broadcast peer next.collect_outbound.2 sent sent') :
    Negotiating generation roster peer next.collect_outbound.1 sent' log := by
  obtain ⟨roster_hash,hash⟩ := Option.isSome_iff_exists.mp negotiating.hash
  obtain ⟨local_ready_tick,state,rfl,kept,isState⟩ := P2PSession.advance_cases advanced starting fine
  have nextHash : {session with local_ready_tick,state}.roster_hash = some roster_hash := hash
  have outbound := fun message => @P2PSession.mem_collect_outbound _ _ _ nextHash message
  have ready (tick : Tick) : Advertised generation sent' peer tick ↔ local_ready_tick = some tick := by
    constructor
    · rintro ⟨receiver,hash,member⟩
      rcases broadcast.only _ member with old | ⟨-,new⟩
      · exact kept tick ((negotiating.ready tick).mp ⟨receiver,hash,old⟩)
      · rcases (outbound _).mp new with ⟨_,isReady,-,same⟩ | ⟨_,-,-,same⟩
        · cases same
          exact isReady
        · exact nomatch same
    · intro isReady
      cases before : session.local_ready_tick with
      | some known =>
        cases (kept known before).symm.trans isReady
        exact ((negotiating.ready tick).mpr before).mono broadcast.more
      | none =>
        have unsent : session.local_ready_sent = false := by rw [negotiating.ready_sent,before]; rfl
        obtain ⟨receiver,member⟩ := broadcast.all _ ((outbound _).mpr (.inl ⟨tick,isReady,unsent,rfl⟩))
        exact ⟨receiver,roster_hash,current ▸ member⟩
  have unique' : ∀ other ∈ roster,∀ a b,Advertised generation sent' other a → Advertised generation sent' other b →
      a = b := by
    intro other member a b advertised advertised'
    by_cases same : other = peer
    · subst same
      exact Option.some_inj.mp (((ready a).mp advertised).symm.trans ((ready b).mp advertised'))
    · have old {tick : Tick} : Advertised generation sent' other tick → Advertised generation sent other tick := by
        rintro ⟨receiver,hash,member⟩
        rcases broadcast.only _ member with old | ⟨isPeer,-⟩
        · exact ⟨receiver,hash,old⟩
        · exact absurd isPeer same
      exact unique other member a b (old advertised) (old advertised')
  have chosen (tick : Tick) (isTick : state = .Starting (some tick)) : Chosen generation sent' roster tick := by
    rcases isState with same | ⟨local_tick,latest,isLocal,isLatest,rfl⟩
    · exact (negotiating.chosen tick (same ▸ isTick)).1.mono broadcast.more
    · cases isTick
      obtain ⟨notBefore,others,isOne⟩ := P2PSession.latest_ready_tick_spec isLatest
      have heard := negotiating.heard.mono broadcast.more
      have cohort {other : Peer} : other = peer ∨ other ∈ session.peer_ids ↔ other ∈ roster :=
        List.mem_cons.symm.trans negotiating.cohort.mem_iff
      refine ⟨fun other member => ?_,?_⟩
      · rcases cohort.mpr member with rfl | isRemote
        · exact ⟨local_tick,(ready local_tick).mpr isLocal,notBefore⟩
        · obtain ⟨remote,isFrozen,rfl⟩ := List.mem_map.mp isRemote
          obtain ⟨remote_tick,isReady,le⟩ := others remote isFrozen
          exact ⟨remote_tick,(heard remote isFrozen).1 remote_tick isReady,le⟩
      · rcases isOne with same | ⟨remote,isRemote,isReady⟩
        · exact ⟨peer,cohort.mp (.inl rfl),(ready tick).mpr (same ▸ isLocal)⟩
        · exact ⟨remote.peer_id,cohort.mp (.inr (List.mem_map_of_mem isRemote)),(heard remote isRemote).1 tick isReady⟩
  have stillChosen : session.start_tick.isSome → ∃ before,session.state = .Starting (some before) ∧
      ∃ after,state = .Starting (some after) := by
    intro isChosen
    obtain ⟨start_tick,isStart⟩ := P2PSession.starting_iff.mp starting
    rw [P2PSession.start_tick,isStart] at isChosen
    obtain ⟨before,rfl⟩ := Option.isSome_iff_exists.mp isChosen
    refine ⟨before,isStart,?_⟩
    rcases isState with same | ⟨-,latest,-,-,isLatest⟩
    · exact ⟨before,same.trans isStart⟩
    · exact ⟨latest,isLatest⟩
  rw [P2PSession.collect_outbound_eq nextHash]
  exact {
    cohort := negotiating.cohort
    others := negotiating.others
    hash := negotiating.hash
    heard := negotiating.heard.mono broadcast.more
    ready := ready
    ready_sent := by
      have still : session.local_ready_sent = true → local_ready_tick.isSome = true := by
        rw [negotiating.ready_sent,Option.isSome_iff_exists]
        rintro ⟨known,isKnown⟩
        exact Option.isSome_iff_exists.mpr ⟨known,kept known isKnown⟩
      exact Bool.or_eq_right_iff_imp.mpr still
    chosen := fun tick isTick => by
      refine ⟨chosen tick isTick,?_⟩
      cases acknowledged : session.local_acknowledgement_sent with
      | false =>
        have isStart : P2PSession.start_tick {session with local_ready_tick,state} = some tick := by
          rw [P2PSession.start_tick,isTick]
        obtain ⟨receiver,member⟩ := broadcast.all _ ((outbound _).mpr (.inr ⟨tick,isStart,acknowledged,rfl⟩))
        exact ⟨receiver,roster_hash,current ▸ member⟩
      | true =>
        obtain ⟨before,isBefore,-⟩ := stillChosen (negotiating.acknowledgement_sent ▸ acknowledged)
        obtain ⟨wasChosen,wasAcknowledged⟩ := negotiating.chosen before isBefore
        exact (wasChosen.mono broadcast.more).unique unique' (chosen tick isTick) ▸ wasAcknowledged.mono broadcast.more
    acknowledgement_sent := by
      have still : session.local_acknowledgement_sent = true →
          (P2PSession.start_tick {session with local_ready_tick,state}).isSome = true := by
        rw [negotiating.acknowledgement_sent]
        intro isChosen
        obtain ⟨-,-,after,isAfter⟩ := stillChosen isChosen
        rw [P2PSession.start_tick,isAfter]
        rfl
      exact Bool.or_eq_right_iff_imp.mpr still
    not_started := negotiating.not_started}

end

/-! ### One step -/

def Milestone.peer : Milestone Peer → Peer
  | .frozen peer _ _ | .started peer _ _ => peer

section
variable {generation : BitVec 32} {roster : List Peer} {log : List (Milestone Peer)} {peer : Peer}

/-- The peers of a roster that enter an attempt freeze this roster for it, and each does so once. -/
structure Cohort (roster : List Peer) (generation : BitVec 32) (log : List (Milestone Peer)) : Prop where
  same_roster : ∀ peer ∈ roster,∀ remote_ids,.frozen peer generation remote_ids ∈ log → (peer :: remote_ids).Perm roster
  once : log.Pairwise fun earlier later => ∀ peer ∈ roster,∀ ids ids',earlier = .frozen peer generation ids →
    later ≠ .frozen peer generation ids'

private theorem start_invariant {session : P2PSession Peer} {sent : List (Sent Peer)} {ids : List Peer}
    {hash : BitVec 64}
    {now : Nat} (invariant : PeerInvariant generation roster peer session sent log) (some : ids ≠ [])
    (member : peer ∈ roster)
    (cohort : Cohort roster generation (log ++ [.frozen peer (session.generation + 1) ids])) :
    PeerInvariant generation roster peer (session.begin_attempt ids hash now) sent
      (log ++ [.frozen peer (session.generation + 1) ids]) := by
  have started (tick : Tick)
    (reached : .started peer generation tick ∈ log ++ [.frozen peer (session.generation + 1) ids]) :
      .started peer generation tick ∈ log := by simpa using reached
  by_cases current : session.generation + 1 = generation
  · have fresh : ∀ ids,.frozen peer generation ids ∉ log := by
      intro ids' before
      have once := (List.pairwise_append.mp cohort.once).2.2 _ before _ List.mem_cons_self
      exact once peer member ids' ids rfl (by rw [current])
    have frozen : .frozen peer generation ids ∈ log ++ [.frozen peer (session.generation + 1) ids] :=
      List.mem_append_right _ (by rw [current]; exact List.mem_cons_self)
    obtain ⟨-,unsent,notStarted⟩ := invariant.silent fresh
    refine ⟨fun none => ?_,invariant.unique,fun _ => ?_,fun tick reached => ?_⟩
    · exact absurd frozen (none ids)
    · exact {
        cohort := by
          have same := cohort.same_roster peer member ids frozen
          simpa [P2PSession.begin_attempt,P2PSession.peer_ids,RemotePeerStart.new,Function.comp_def] using same
        others := by simpa [P2PSession.begin_attempt] using some
        hash := rfl
        heard := by
          intro remote isRemote
          obtain ⟨_,-,rfl⟩ := List.mem_map.mp isRemote
          exact ⟨fun _ isHash => (by cases isHash),fun _ isTick => by cases isTick⟩
        ready := fun tick => iff_of_false (unsent tick) fun isReady => by cases isReady
        ready_sent := rfl
        chosen := fun _ isChosen => by cases isChosen
        acknowledgement_sent := rfl
        not_started := fun tick reached => notStarted tick (started tick reached)}
    · exact absurd (started tick reached) (notStarted tick)
  · have idle : ¬Active generation (session.begin_attempt ids hash now) := fun active => current active.2
    exact (invariant.idle idle).mono (List.Subset.refl _) (fun _ sent => sent) (List.subset_append_left _ _) started

private theorem stop_invariant {session : P2PSession Peer} {sent : List (Sent Peer)}
    (invariant : PeerInvariant generation roster peer session sent log) {stopped : P2PSession Peer}
    (idle : stopped.is_starting = false) : PeerInvariant generation roster peer stopped sent log :=
  invariant.idle fun active => by rw [active.1] at idle; exact nomatch idle

private theorem fixed_first_invariant {session : P2PSession Peer} {sent : List (Sent Peer)}
    (invariant : PeerInvariant generation roster peer session sent log) {start_tick : Tick}
    (agreed : session.agreed_start_tick = some start_tick) :
    PeerInvariant generation roster peer
      {session with state := .Started start_tick}.clear_barrier_progress sent
      (log ++ [.started peer session.generation start_tick]) := by
  obtain ⟨state,acknowledged⟩ := P2PSession.agreed_start_tick_iff.mp agreed
  have idle : ¬Active generation {session with state := .Started start_tick}.clear_barrier_progress := nofun
  by_cases current : session.generation = generation
  · have active : Active generation session := ⟨P2PSession.starting_iff.mpr ⟨_,state⟩,current⟩
    have negotiating := invariant.negotiating active
    refine ⟨fun none => ?_,invariant.unique,fun active => absurd active idle,fun tick reached => ?_⟩
    · exact absurd active (invariant.silent fun ids frozen => none ids (List.mem_append_left _ frozen)).1
    · rcases List.mem_append.mp reached with before | now
      · exact absurd before (negotiating.not_started tick)
      · cases List.mem_singleton.mp now
        obtain ⟨chosen,own⟩ := negotiating.chosen start_tick state
        refine ⟨chosen,fun other member => ?_⟩
        rcases List.mem_cons.mp (negotiating.cohort.mem_iff.mpr member) with rfl | isRemote
        · exact own
        · obtain ⟨remote,isFrozen,rfl⟩ := List.mem_map.mp isRemote
          exact (negotiating.heard remote isFrozen).2 start_tick (acknowledged remote isFrozen)
  · refine (invariant.idle idle).mono (List.Subset.refl _) (fun _ sent => sent)
      (List.subset_append_left _ _) fun tick reached => ?_
    rcases List.mem_append.mp reached with before | now
    · exact before
    · cases List.mem_singleton.mp now
      exact absurd rfl current

end

section
variable [DecidableEq Peer] {generation : BitVec 32} {roster : List Peer} {world : World Peer}
  {log : List (Milestone Peer)}
variable {peer : Peer} {app : App Peer} {outbound : List (Peer × P2PSessionMessage)}

/-- What happens at one peer leaves the others as they are. -/
theorem Invariant.update (invariant : Invariant generation roster world log) (milestone : Option (Milestone Peer))
    (held : ∀ message ∈ app.held,⟨message.1,peer,message.2⟩ ∈ world.sent)
    (own : ∀ reached,milestone = some reached → reached.peer = peer)
    (here : peer ∈ roster → PeerInvariant generation roster peer app.session (world.update peer app outbound).sent
      (log ++ milestone.toList)) :
    Invariant generation roster (world.update peer app outbound) (log ++ milestone.toList) where
  held other message member := by
    refine List.mem_append_left _ ?_
    by_cases same : other = peer
    · subst same
      simp only [World.update,Function.update_self] at member
      exact held message member
    · simp only [World.update,Function.update_of_ne same] at member
      exact invariant.held other message member
  peers other member := by
    by_cases same : other = peer
    · subst same
      simpa [World.update] using here member
    · simp only [World.update,Function.update_of_ne same]
      refine (invariant.peers other member).mono (List.subset_append_left _ _) ?_ (List.subset_append_left _ _) ?_
      · rintro tick ⟨receiver,hash,sent⟩
        rcases List.mem_append.mp sent with old | new
        · exact ⟨receiver,hash,old⟩
        · obtain ⟨_,-,isNew⟩ := List.mem_map.mp new
          exact absurd (congrArg Sent.sender isNew).symm same
      · intro tick reached
        rcases List.mem_append.mp reached with old | new
        · exact old
        · exact absurd (own _ (Option.mem_toList.mp new)) same

private theorem scanned_attempt {session : P2PSession Peer} {links links' : List (Link Peer)} {scan : Scan Peer}
    (isScan : scan_links ⟨session,[],true,true⟩ links = (scan,links')) :
    scan.session.is_starting = session.is_starting ∧ scan.session.generation = session.generation := by
  have keeps (after : P2PSession Peer) (peer_id : Peer) (message : P2PSessionMessage)
      (_ : (peer_id,message) ∈ links.flatMap Link.held)
      (same : after.is_starting = session.is_starting ∧ after.generation = session.generation) :
      (after.receive peer_id message).is_starting = session.is_starting ∧
        (after.receive peer_id message).generation = session.generation := by
    obtain ⟨_,_,received,-⟩ := after.receive_eq peer_id message
    rw [received]
    exact same
  have same := scan_links_session
    (fun after => after.is_starting = session.is_starting ∧ after.generation = session.generation)
    ⟨session,[],true,true⟩ keeps ⟨rfl,rfl⟩
  rwa [isScan] at same

private theorem scanned (invariant : Invariant generation roster world log) {session : P2PSession Peer}
    (negotiating : Negotiating generation roster peer session world.sent log)
    (current : session.generation = generation)
    {links' : List (Link Peer)} {scan : Scan Peer}
    (isScan : scan_links ⟨session,[],true,true⟩ (world.apps peer).links = (scan,links')) :
    Scanned generation world.sent session scan.session := by
  have keeps (after : P2PSession Peer) (sender : Peer) (message : P2PSessionMessage)
      (member : (sender,message) ∈ (world.apps peer).held) (received : Scanned generation world.sent session after) :
      Scanned generation world.sent session (after.receive sender message) :=
    scanned_receive current (invariant.held peer _ member) received
  have received := scan_links_session (Scanned generation world.sent session) ⟨session,[],true,true⟩ keeps
    ⟨session.remote_peers,session.roster_mismatch,rfl,rfl,negotiating.heard⟩
  rwa [isScan] at received

private theorem frame_invariant (invariant : Invariant generation roster world log) (member : peer ∈ roster) (now : Nat)
    (timeline_synced : Bool) :
    PeerInvariant generation roster peer (drive_session now timeline_synced (world.apps peer)).1.session
      (world.update peer (drive_session now timeline_synced (world.apps peer)).1
        (drive_session now timeline_synced (world.apps peer)).2).sent log := by
  have before := invariant.peers peer member
  rcases drive_session_cases now timeline_synced (world.apps peer) with
    ⟨-,same⟩ | ⟨starting,scan,links,isScan,⟨_,aborted⟩ | waits | ⟨next,result,advanced,fine,connected,whole,sends⟩⟩
  · simpa [same,World.update] using before
  · rw [aborted]
    simpa [World.update] using stop_invariant before rfl
  · rw [waits]
    simp only [World.update,List.map_nil,List.append_nil]
    by_cases current : (world.apps peer).session.generation = generation
    · have active : Active generation (world.apps peer).session := ⟨starting,current⟩
      exact before.negotiated active
        ((before.negotiating active).scanned (scanned invariant (before.negotiating active) current isScan))
    · exact before.idle fun active => current ((scanned_attempt isScan).2.symm.trans active.2)
  · rw [sends]
    obtain ⟨stillStarting,sameGeneration⟩ := scanned_attempt isScan
    obtain ⟨local_ready_tick,state,isNext,-⟩ := P2PSession.advance_cases advanced (stillStarting.trans starting) fine
    have nextGeneration : next.generation = (world.apps peer).session.generation := by rw [isNext,← sameGeneration]
    by_cases current : (world.apps peer).session.generation = generation
    · have active : Active generation (world.apps peer).session := ⟨starting,current⟩
      have negotiating := before.negotiating active
      have isScanned := scanned invariant negotiating current isScan
      have unique : ∀ peer ∈ roster,∀ tick other,Advertised generation world.sent peer tick →
        Advertised generation world.sent peer other → tick = other :=
          fun peer member => (invariant.peers peer member).unique
      refine before.negotiated active ((negotiating.scanned isScanned).advanced unique (stillStarting.trans starting)
        (sameGeneration.trans current) advanced fine ⟨List.subset_append_left _ _,fun message isMessage => ?_,
          fun entry sent => ?_⟩)
      · have scanned := scan_links_connected ⟨(world.apps peer).session,[],true,true⟩ (world.apps peer).links
          (by rwa [isScan])
        rw [isScan] at scanned
        obtain ⟨first,isFirst⟩ := List.exists_mem_of_ne_nil scan.found_peers fun none => by
          rw [none] at whole
          exact negotiating.others (List.length_eq_zero_iff.mp whole.symm)
        rcases scanned.2 first isFirst with none | ⟨link,isLink,isCandidate,isRemote,hasSender,known⟩
        · exact nomatch none
        have frozen : first ∈ next.collect_outbound.1.peer_ids := by
          obtain ⟨_,_,isScanned,ids,-⟩ := isScanned
          have known : first ∈ (world.apps peer).session.peer_ids := known
          rw [← ids] at known
          rw [next.collect_outbound_current.2.2,isNext,isScanned]
          exact known
        exact ⟨first,List.mem_append_right _ (List.mem_map_of_mem
          (mem_send_outbound.mpr ⟨isMessage,link,isLink,isCandidate,isRemote,hasSender,frozen⟩))⟩
      · rcases List.mem_append.mp sent with old | new
        · exact Or.inl old
        · obtain ⟨_,isSent,rfl⟩ := List.mem_map.mp new
          exact Or.inr ⟨rfl,(mem_send_outbound.mp isSent).1⟩
    · have idle : ¬Active generation next.collect_outbound.1 := fun active =>
        current (nextGeneration.symm.trans (next.collect_outbound_current.2.1.symm.trans active.2))
      refine (before.idle idle).mono (List.subset_append_left _ _) ?_ (List.Subset.refl _) (fun _ reached => reached)
      rintro tick ⟨receiver,hash,sent⟩
      rcases List.mem_append.mp sent with old | new
      · exact ⟨receiver,hash,old⟩
      · obtain ⟨⟨_,message⟩,isSent,same⟩ := List.mem_map.mp new
        have isMessage := congrArg Sent.message same
        have sameGeneration := P2PSession.collect_outbound_generation (mem_send_outbound.mp isSent).1
        simp only at isMessage
        rw [isMessage] at sameGeneration
        exact absurd (nextGeneration.symm.trans sameGeneration.symm) current

theorem Invariant.step (invariant : Invariant generation roster world log) (hash : Peer → List Peer → BitVec 64)
    {event : Event Peer} (possible : Possible world event)
    (cohort : Cohort roster generation (log ++ (world.step hash event).2.toList)) :
    Invariant generation roster (world.step hash event).1 (log ++ (world.step hash event).2.toList) := by
  have quiet {peer : Peer} {app : App Peer} (held : app.held ⊆ (world.apps peer).held)
      (here : peer ∈ roster → PeerInvariant generation roster peer app.session world.sent log) :
      Invariant generation roster (world.update peer app []) (log ++ none.toList) := by
    refine invariant.update none
      (fun message member => invariant.held peer message (held member)) nofun fun member => ?_
    simpa [World.update] using here member
  cases event with
  | start peer now =>
    rcases start_session_cases hash now (world.apps peer) with same | ⟨ids,roster_hash,links,nonempty,frozen⟩
    · simp only [World.step,same,Option.map_none]
      exact quiet (List.Subset.refl _) (invariant.peers peer)
    · have held := start_session_held hash now (world.apps peer)
      simp only [World.step] at cohort ⊢
      rw [frozen] at held cohort ⊢
      refine invariant.update (some _) (fun message member => invariant.held peer message (held member))
        ?_ fun member => ?_
      · rintro _ ⟨⟩
        rfl
      · simpa [World.update,P2PSession.begin_attempt] using
          start_invariant (invariant.peers peer member) nonempty member cohort
  | stop peer =>
    refine quiet (stop_session_held _) fun member => stop_invariant (invariant.peers peer member) ?_
    unfold stop_session
    simp only
    split
    · next stopped => simp [P2PSession.is_starting,stopped]
    · rfl
  | frame peer now timeline_synced =>
    refine invariant.update none
      (fun message member => invariant.held peer message (drive_session_held _ _ _ member)) nofun
      fun member => ?_
    rw [Option.toList_none,List.append_nil]
    exact frame_invariant invariant member now timeline_synced
  | fixed_step peer =>
    have held := fixed_first_held (world.apps peer)
    rcases fixed_first_cases (world.apps peer) with ⟨none,same⟩ | ⟨start_tick,agreed,isStarted,started,-⟩
    · simp only [World.step,none,Option.map_none]
      exact quiet held fun member => same ▸ invariant.peers peer member
    · simp only [World.step,isStarted,Option.map_some]
      refine invariant.update (some _) (fun message member => invariant.held peer message (held member))
        ?_ fun member => ?_
      · rintro _ ⟨⟩
        rfl
      · rw [started]
        simpa [World.update] using fixed_first_invariant (invariant.peers peer member) agreed
  | transport peer links =>
    refine invariant.update none possible nofun fun member => ?_
    simpa [World.update] using invariant.peers peer member
  | shift peer delta => exact quiet (List.Subset.refl _) (invariant.peers peer)

end

/-! ### Runs -/

section
variable [DecidableEq Peer] {hash : Peer → List Peer → BitVec 64} {first world : World Peer}
  {log : List (Milestone Peer)}
variable {roster : List Peer} {generation : BitVec 32}

private theorem run_invariant (fresh : Fresh first) (run : Run hash first world log)
    (cohort : Cohort roster generation log) :
    Invariant generation roster world log := by
  induction run with
  | nil =>
    refine ⟨fun peer message member => ?_,fun peer _ => ⟨fun _ => ⟨?_,?_,nofun⟩,?_,?_,nofun⟩⟩
    · rw [fresh.held] at member
      exact nomatch member
    · exact fun active => by rw [Active,fresh.stopped] at active; exact nomatch active.1
    · rintro tick ⟨_,_,member⟩
      rw [fresh.sent] at member
      exact nomatch member
    · rintro tick other ⟨_,_,member⟩
      rw [fresh.sent] at member
      exact nomatch member
    · exact fun active => by rw [Active,fresh.stopped] at active; exact nomatch active.1
  | step before possible ih =>
    refine Invariant.step (ih ⟨fun peer member ids frozen => ?_,(List.pairwise_append.mp cohort.once).1⟩) hash
      possible cohort
    exact cohort.same_roster peer member ids (List.mem_append_left _ frozen)

private theorem step_started {event : Event Peer} {peer : Peer} {tick : Tick}
    (reached : (world.step hash event).2 = some (.started peer generation tick)) :
    event = .fixed_step peer ∧ (world.apps peer).session.agreed_start_tick = some tick ∧
      (world.apps peer).session.generation = generation := by
  cases event with
  | start other now =>
    obtain ⟨_,-,wrong⟩ := Option.map_eq_some_iff.mp reached
    exact nomatch wrong
  | fixed_step other =>
    rcases fixed_first_cases (world.apps other) with ⟨none,-⟩ | ⟨start_tick,agreed,isStarted,-⟩
    · simp only [World.step,none] at reached
      exact nomatch reached
    · simp only [World.step,isStarted,Option.map_some,Option.some_inj] at reached
      cases reached
      exact ⟨rfl,agreed,rfl⟩
  | stop | frame | transport | shift => exact nomatch reached

/-- A peer starts once in an attempt. -/
private theorem started_once (fresh : Fresh first) (run : Run hash first world log)
    (cohort : Cohort roster generation log) :
    log.Pairwise fun earlier later => ∀ peer ∈ roster,∀ tick tick',earlier = .started peer generation tick →
      later ≠ .started peer generation tick' := by
  induction run with
  | nil => exact List.Pairwise.nil
  | @step world log before event possible ih =>
    have shorter : Cohort roster generation log :=
      ⟨fun peer member ids frozen => cohort.same_roster peer member ids (List.mem_append_left _ frozen),
        (List.pairwise_append.mp cohort.once).1⟩
    have invariant := run_invariant fresh before shorter
    refine List.pairwise_append.mpr ⟨ih shorter,?_,?_⟩
    · cases (world.step hash event).2 with
      | none => exact List.Pairwise.nil
      | some _ => exact List.pairwise_singleton _ _
    · rintro _ reached _ isReached peer member tick tick' rfl rfl
      obtain ⟨-,agreed,current⟩ := step_started (Option.mem_toList.mp isReached)
      have active : Active generation (world.apps peer).session :=
        ⟨P2PSession.starting_iff.mpr ⟨_,(P2PSession.agreed_start_tick_iff.mp agreed).1⟩,current⟩
      exact ((invariant.peers peer member).negotiating active).not_started tick reached

/-- A peer enters a session. -/
def Enters (before after : World Peer) (peer : Peer) (start_tick : Tick) : Prop :=
  (before.apps peer).session.state ≠ .Started start_tick ∧ (after.apps peer).session.state = .Started start_tick

private theorem Enters.here {peer other : Peer} {app : App Peer} {outbound : List (Peer × P2PSessionMessage)}
    {start_tick : Tick}
    (enters : Enters world (world.update other app outbound) peer start_tick) :
    other = peer ∧ (world.apps other).session.state ≠ .Started start_tick ∧
      app.session.state = .Started start_tick := by
  obtain ⟨before,after⟩ := enters
  by_cases same : peer = other
  · subst same
    simp only [World.update,Function.update_self] at after
    exact ⟨rfl,before,after⟩
  · simp only [World.update,Function.update_of_ne same] at after
    exact absurd after before

/-- The step on which a peer enters a session brings its tick to the start tick. -/
theorem enters_started {event : Event Peer} {peer : Peer} {start_tick : Tick}
    (enters : Enters world (world.step hash event).1 peer start_tick) :
    event = .fixed_step peer ∧ ((world.step hash event).1.apps peer).tick = start_tick ∧
      (world.step hash event).2 = some (.started peer (world.apps peer).session.generation start_tick) := by
  cases event with
  | start other now =>
    obtain ⟨-,before,-⟩ := enters.here
    have after : (start_session hash now (world.apps other)).1.session.state = .Started start_tick := enters.here.2.2
    rcases start_session_cases hash now (world.apps other) with same | ⟨_,_,_,-,frozen⟩
    · rw [same] at after
      exact absurd after before
    · rw [frozen] at after
      cases after
  | stop other =>
    obtain ⟨-,before,after⟩ := enters.here
    unfold stop_session at after
    simp only at after
    split at after
    · exact absurd after before
    · cases after
  | frame other now timeline_synced =>
    obtain ⟨-,before,-⟩ := enters.here
    have after : (drive_session now timeline_synced (world.apps other)).1.session.state = .Started start_tick :=
      enters.here.2.2
    have running {session : P2PSession Peer} (starting : session.is_starting = true) :
        session.state ≠ .Started start_tick :=
      fun state => by simp [P2PSession.is_starting,state] at starting
    rcases drive_session_cases now timeline_synced (world.apps other) with
      ⟨-,same⟩ | ⟨starting,scan,links,isScan,⟨_,aborted⟩ | waits | ⟨next,result,advanced,fine,-,-,sends⟩⟩
    · rw [same] at after
      exact absurd after before
    · rw [aborted] at after
      cases after
    · rw [waits] at after
      exact absurd after (running ((scanned_attempt isScan).1.trans starting))
    · rw [sends] at after
      have starting := (scanned_attempt isScan).1.trans starting
      obtain ⟨_,state,isNext,-,isState⟩ := P2PSession.advance_cases advanced starting fine
      have after : next.state = .Started start_tick := next.collect_outbound_current.1.symm.trans after
      rw [isNext] at after
      rcases isState with same | ⟨_,_,-,-,rfl⟩
      · exact absurd (same.symm.trans after) (running starting)
      · cases after
  | fixed_step other =>
    obtain ⟨rfl,before,-⟩ := enters.here
    have after : (fixed_first (world.apps other)).1.session.state = .Started start_tick := enters.here.2.2
    rcases fixed_first_cases (world.apps other) with ⟨-,same⟩ | ⟨reached,-,isStarted,started,isTick⟩
    · rw [same] at after
      exact absurd after before
    · rw [started] at after
      cases after
      simp only [World.step,World.update,Function.update_self,isStarted,Option.map_some,isTick,and_self]
  | transport other links =>
    obtain ⟨-,before,after⟩ := enters.here
    exact absurd after before
  | shift other delta =>
    obtain ⟨-,before,after⟩ := enters.here
    exact absurd after before

/-- The peers of a cohort that start in an attempt start at one tick: the greatest that any of them advertised, which
all have acknowledged. Each starts once, on the fixed step that brings it to this tick. -/
theorem peers_start_together (fresh : Fresh first) (run : Run hash first world log)
    (cohort : Cohort roster generation log) :
    (∀ peer ∈ roster,∀ other ∈ roster,∀ tick tick',.started peer generation tick ∈ log →
      .started other generation tick' ∈ log → tick = tick') ∧
    (∀ peer ∈ roster,∀ tick,.started peer generation tick ∈ log →
      IsGreatest {ready | ∃ other ∈ roster,Advertised generation world.sent other ready} tick ∧
        ∀ other ∈ roster,Acknowledged generation world.sent other tick) ∧
    (log.Pairwise fun earlier later => ∀ peer ∈ roster,∀ tick tick',earlier = .started peer generation tick →
      later ≠ .started peer generation tick') ∧
    ∀ event peer tick,Enters world (world.step hash event).1 peer tick →
      event = .fixed_step peer ∧ ((world.step hash event).1.apps peer).tick = tick ∧
        (world.step hash event).2 = some (.started peer (world.apps peer).session.generation tick) := by
  have invariant := run_invariant fresh run cohort
  have unique : ∀ peer ∈ roster,∀ tick other,Advertised generation world.sent peer tick →
    Advertised generation world.sent peer other → tick = other :=
      fun peer member => (invariant.peers peer member).unique
  refine ⟨?_,?_,started_once fresh run cohort,fun event peer tick => enters_started⟩
  · intro peer member other member' tick tick' started started'
    exact ((invariant.peers peer member).decided tick started).1.unique unique
      ((invariant.peers other member').decided tick' started').1
  · intro peer member tick started
    obtain ⟨⟨all,one⟩,acknowledged⟩ := (invariant.peers peer member).decided tick started
    refine ⟨⟨one,?_⟩,acknowledged⟩
    rintro ready ⟨other,member',advertised⟩
    obtain ⟨least,isLeast,le⟩ := all other member'
    exact unique other member' ready least advertised isLeast ▸ le

end

/-! ### Two peers -/

section
variable [DecidableEq Peer] (hash : Peer → List Peer → BitVec 64)

/-- The world and the milestones after some events. -/
def World.after (world : World Peer) : List (Event Peer) → World Peer × List (Milestone Peer)
  | [] => (world,[])
  | event :: events =>
    let (world,milestone) := world.step hash event
    let (last,milestones) := world.after events
    (last,milestone.toList ++ milestones)

def PossibleAll (world : World Peer) : List (Event Peer) → Prop
  | [] => True
  | event :: events => Possible world event ∧ PossibleAll (world.step hash event).1 events

instance (world : World Peer) : (event : Event Peer) → Decidable (Possible world event)
  | .transport _ links => inferInstanceAs (Decidable (∀ message ∈ links.flatMap Link.held,_))
  | .start _ _ | .stop _ | .frame _ _ _ | .fixed_step _ | .shift _ _ => isTrue trivial

instance decidablePossibleAll (world : World Peer) :
    (events : List (Event Peer)) → Decidable (PossibleAll hash world events)
  | [] => isTrue trivial
  | event :: events => @instDecidableAnd _ _ inferInstance (decidablePossibleAll (world.step hash event).1 events)

variable {hash} in
theorem Run.after {first world : World Peer} {log : List (Milestone Peer)} (run : Run hash first world log)
    {events : List (Event Peer)} (possible : PossibleAll hash world events) :
    Run hash first (world.after hash events).1 (log ++ (world.after hash events).2) := by
  induction events generalizing world log with
  | nil => simpa [World.after] using run
  | cons event events ih =>
    have rest := ih (run.step possible.1) possible.2
    rwa [List.append_assoc] at rest

end

/-- Two apps that start one tick after they are ready. -/
def pair : World Bool :=
  ⟨fun peer => ⟨P2PSession.default.with_start_delay_ticks 1,[⟨.Inactive,some peer,some (!peer),true,true,none⟩],0⟩,[]⟩

def handshake : List (Event Bool) :=
  let arrives (peer : Bool) (message : P2PSessionMessage) : Event Bool :=
    .transport peer [⟨.Candidate,some peer,some (!peer),true,true,some [message]⟩]
  [.start false 0,.start true 0,.frame false 0 true,.frame true 0 true,
    arrives false (.Ready 1 0 1),arrives true (.Ready 1 0 1),.frame false 0 true,.frame true 0 true,
    arrives false (.StartAcknowledgement 1 0 1),arrives true (.StartAcknowledgement 1 0 1),.frame false 0 true,
      .frame true 0 true,
    .fixed_step false,.fixed_step true]

private theorem handshake_log : (pair.after (fun _ _ => 0) handshake).2 =
    [.frozen false 1 [true],.frozen true 1 [false],.started false 1 1,.started true 1 1] := by decide +kernel

theorem peers_start_together_handshake : .started false 1 1 ∈ (pair.after (fun _ _ => 0) handshake).2 ∧
    IsGreatest {ready | ∃ other ∈ [false,true],
      Advertised 1 (pair.after (fun _ _ => 0) handshake).1.sent other ready} 1 := by
  have fresh : Fresh pair := ⟨rfl,fun peer => by cases peer <;> rfl,fun peer => by cases peer <;> rfl⟩
  have run : Run (fun _ _ => 0) pair (pair.after (fun _ _ => 0) handshake).1 (pair.after (fun _ _ => 0) handshake).2 :=
    Run.nil.after (by decide +kernel)
  have started : .started false 1 1 ∈ (pair.after (fun _ _ => 0) handshake).2 := by rw [handshake_log]; decide
  have cohort : Cohort [false,true] 1 (pair.after (fun _ _ => 0) handshake).2 := by
    rw [handshake_log]
    refine ⟨?_,?_⟩
    · rintro peer - remote_ids frozen
      simp only [List.mem_cons,Milestone.frozen.injEq,reduceCtorEq,List.not_mem_nil,or_false,true_and] at frozen
      rcases frozen with ⟨rfl,rfl⟩ | ⟨rfl,rfl⟩ <;> decide
    · simp
  exact ⟨started,((peers_start_together fresh run cohort).2.1 false (by decide) 1 started).1⟩

end Lightyear.P2P
