import Lightyear.P2P.Session

/-!
The systems that drive a start: the links of an app carry the messages of its session.
A frame receives what has arrived and sends what is new, and the fixed step before the
agreed tick starts the session.
-/
namespace Lightyear.P2P
open Message

/-- The component `P2P`: the part of a link in a session. -/
inductive P2PState where
  | Inactive
  | Candidate
  | Joined
deriving DecidableEq, Repr

/-- A link to a remote peer, with the messages that its receiver holds. -/
structure Link (Peer : Type) where
  state : P2PState
  local_id : Option Peer
  remote_id : Option Peer
  connected : Bool
  sender : Bool
  receiver : Option (List P2PSessionMessage)
deriving DecidableEq, Repr

/-- What an app has of a session: the resource, the links and the `LocalTimeline`. -/
structure App (Peer : Type) where
  session : P2PSession Peer
  links : List (Link Peer)
  tick : Tick
deriving DecidableEq, Repr

variable {Peer : Type}

section
variable [DecidableEq Peer]

/-- The remote ids of some candidates: each is known, differs from the local one and from the others. -/
def remote_ids (local_id : Peer) : List (Link Peer) → List Peer → Option (List Peer)
  | [],ids => some ids
  | link :: links,ids =>
    match link.remote_id with
    | none => none
    | some remote_id =>
      if remote_id = local_id || ids.contains remote_id then none else remote_ids local_id links (ids ++ [remote_id])

/-- The cohort that an app would freeze now: its local id, and those of its inactive links. -/
def candidates (app : App Peer) : Option (Peer × List Peer) := do
  let links := app.links.filter (·.state = .Inactive)
  let first ← links.head?
  let local_id ← first.local_id
  if links.any (·.local_id ≠ some local_id) then none
  else
    let ids ← remote_ids local_id links []
    some (local_id,ids)

/-- `start_session`, with the remote peers that are frozen, for any hash of a roster. -/
def start_session (hash : Peer → List Peer → BitVec 64) (now : Nat) (app : App Peer) : App Peer × Option (List Peer) :=
  if app.session.state ≠ .Stopped then (app,none)
  else match candidates app with
    | none => (app,none)
    | some (local_id,ids) =>
      ({app with
        session := app.session.begin_attempt ids (hash local_id ids) now
        links := app.links.map fun link =>
          if link.state = .Inactive then {link with state := .Candidate, receiver := some (link.receiver.getD [])}
            else link},
       some ids)

end

def transition_candidates (next_state : P2PState) (links : List (Link Peer)) : List (Link Peer) :=
  links.map fun link => if link.state = .Candidate then {link with state := next_state} else link

def stop_session (app : App Peer) : App Peer :=
  {app with
    session := if app.session.state = .Stopped then app.session else app.session.stop
    links := app.links.map fun link => if link.state = .Inactive then link else {link with state := .Inactive}}

/-- A start is given up. -/
def abort (app : App Peer) : App Peer :=
  {app with session := app.session.stop,links := transition_candidates .Inactive app.links}

/-- `start_session_before_agreed_tick`, with the tick of the `P2PStarted` that is triggered. -/
def start_session_before_agreed_tick (app : App Peer) : App Peer × Option Tick :=
  match app.session.agreed_start_tick with
  | none => (app,none)
  | some start_tick =>
    let candidates := app.links.filter (·.state = .Candidate)
    if app.tick.add 1 ≠ start_tick then (app,none)
    else if candidates.any (!·.connected) || candidates.length ≠ app.session.remote_peers.length then (app,none)
    else
      ({app with
        session := {app.session with state := .Started start_tick}.clear_barrier_progress
        links := transition_candidates .Joined app.links},
       some start_tick)

/-- `FixedFirst`: the session starts before the timeline advances. -/
def fixed_first (app : App Peer) : App Peer × Option Tick :=
  let (app,started) := start_session_before_agreed_tick app
  ({app with tick := app.tick.add 1},started)

/-- What a frame knows after some of the links. -/
structure Scan (Peer : Type) where
  session : P2PSession Peer
  found_peers : List Peer
  cohort_intact : Bool
  all_connected : Bool

section
variable [DecidableEq Peer]

/-- The loop over the links, which takes the messages of each candidate. -/
def scan_link (scan : Scan Peer) (link : Link Peer) : Scan Peer × Link Peer :=
  if link.state ≠ .Candidate then (scan,link)
  else match link.remote_id with
    | none => ({scan with cohort_intact := false, all_connected := false},link)
    | some remote_id =>
      if !scan.session.contains_remote remote_id || scan.found_peers.contains remote_id then
        ({scan with cohort_intact := false, all_connected := false},link)
      else
        let found : Scan Peer := {scan with
          found_peers := scan.found_peers ++ [remote_id]
          all_connected := scan.all_connected && link.connected && link.sender}
        match link.receiver with
        | none => (found,link)
        | some messages =>
          ({found with
            session := messages.foldl (fun session message => session.receive remote_id message) found.session},
           {link with receiver := some []})

def scan_links (scan : Scan Peer) : List (Link Peer) → Scan Peer × List (Link Peer)
  | [] => (scan,[])
  | link :: links =>
    let (scan,link) := scan_link scan link
    let (scan,links) := scan_links scan links
    (scan,link :: links)

/-- The messages for each candidate of the cohort that has a sender. -/
def send_outbound (session : P2PSession Peer) (links : List (Link Peer)) (outbound : List P2PSessionMessage) :
    List (Peer × P2PSessionMessage) :=
  links.flatMap fun link => match link.remote_id with
    | some remote_id =>
      if link.state = .Candidate && session.contains_remote remote_id && link.sender then
        outbound.map (remote_id,·) else []
    | none => []

/-- `drive_session`, with what it sends to the remote peers. -/
def drive_session (now : Nat) (timeline_synced : Bool) (app : App Peer) : App Peer × List (Peer × P2PSessionMessage) :=
  if !app.session.is_starting then (app,[])
  else
    let (scan,links) := scan_links ⟨app.session,[],true,true⟩ app.links
    let scanned : App Peer := {app with session := scan.session,links}
    if !scan.cohort_intact || scan.found_peers.length ≠ app.session.remote_peers.length then (abort scanned,[])
    else if scan.session.roster_mismatch then (abort scanned,[])
    else if !scan.all_connected then (if scan.session.timed_out_at now then abort scanned else scanned,[])
    else
      let (session,result) := scan.session.advance app.tick timeline_synced
      let advanced : App Peer := {scanned with session}
      if result = .Failed then (abort advanced,[])
      else if session.agreed_start_tick.isNone && session.timed_out_at now then (abort advanced,[])
      else
        let (session,outbound) := session.collect_outbound
        ({scanned with session},send_outbound session links outbound)

end

/-! ### What a frame does -/

/-- The messages that a link holds, with their sender. -/
def Link.held (link : Link Peer) : List (Peer × P2PSessionMessage) :=
  match link.remote_id,link.receiver with
  | some remote_id,some messages => messages.map (remote_id,·)
  | _,_ => []

def App.held (app : App Peer) : List (Peer × P2PSessionMessage) := app.links.flatMap Link.held

private theorem held_map {links : List (Link Peer)} {change : Link Peer → Link Peer}
    (fewer : ∀ link,(change link).held ⊆ link.held) :
    (links.map change).flatMap Link.held ⊆ links.flatMap Link.held := by
  intro message member
  obtain ⟨_,isLink,inside⟩ := List.mem_flatMap.mp member
  obtain ⟨link,isBefore,rfl⟩ := List.mem_map.mp isLink
  exact List.mem_flatMap.mpr ⟨link,isBefore,fewer link inside⟩

private theorem held_transition (next_state : P2PState) (links : List (Link Peer)) :
    (transition_candidates next_state links).flatMap Link.held ⊆ links.flatMap Link.held := by
  refine held_map fun link => ?_
  split
  · exact List.Subset.refl _
  · exact List.Subset.refl _

theorem stop_session_held (app : App Peer) : (stop_session app).held ⊆ app.held := by
  refine held_map fun link => ?_
  split
  · exact List.Subset.refl _
  · exact List.Subset.refl _

theorem fixed_first_held (app : App Peer) : (fixed_first app).1.held ⊆ app.held := by
  have started : (start_session_before_agreed_tick app).1.held ⊆ app.held := by
    unfold start_session_before_agreed_tick
    split
    · exact List.Subset.refl _
    · simp only
      split_ifs
      · exact List.Subset.refl _
      · exact List.Subset.refl _
      · exact held_transition _ _
  exact started

/-- A session starts when its tick is agreed, on the step to this tick. -/
theorem fixed_first_cases (app : App Peer) :
    ((fixed_first app).2 = none ∧ (fixed_first app).1.session = app.session) ∨
    ∃ start_tick,app.session.agreed_start_tick = some start_tick ∧ (fixed_first app).2 = some start_tick ∧
      (fixed_first app).1.session = {app.session with state := .Started start_tick}.clear_barrier_progress ∧
      (fixed_first app).1.tick = start_tick := by
  unfold fixed_first start_session_before_agreed_tick
  cases agreed : app.session.agreed_start_tick with
  | none => exact Or.inl ⟨rfl,rfl⟩
  | some start_tick =>
    simp only
    split_ifs with early apart
    · exact Or.inl ⟨rfl,rfl⟩
    · exact Or.inl ⟨rfl,rfl⟩
    · exact Or.inr ⟨start_tick,rfl,rfl,rfl,not_not.mp early⟩

section
variable [DecidableEq Peer]

theorem start_session_held (hash : Peer → List Peer → BitVec 64) (now : Nat) (app : App Peer) :
    (start_session hash now app).1.held ⊆ app.held := by
  unfold start_session
  split
  · exact List.Subset.refl _
  split
  · exact List.Subset.refl _
  · refine held_map fun link => ?_
    split
    · unfold Link.held
      cases link.remote_id <;> cases link.receiver <;> simp
    · exact List.Subset.refl _

private theorem remote_ids_length {local_id : Peer} {links : List (Link Peer)} {known ids : List Peer}
    (isIds : remote_ids local_id links known = some ids) : ids.length = known.length + links.length := by
  induction links generalizing known with
  | nil =>
    cases isIds
    rfl
  | cons link links ih =>
    unfold remote_ids at isIds
    split at isIds
    · exact nomatch isIds
    split at isIds
    · exact nomatch isIds
    · rw [ih isIds,List.length_append,List.length_cons,List.length_cons,List.length_nil]
      omega

/-- A start freezes remote peers in a new attempt, or does nothing. -/
theorem start_session_cases (hash : Peer → List Peer → BitVec 64) (now : Nat) (app : App Peer) :
    start_session hash now app = (app,none) ∨ ∃ ids roster_hash links,ids ≠ [] ∧
      start_session hash now app =
        ({app with session := app.session.begin_attempt ids roster_hash now,links},some ids) := by
  unfold start_session
  split
  · exact Or.inl rfl
  cases isCohort : candidates app with
  | none => exact Or.inl rfl
  | some cohort =>
    obtain ⟨local_id,ids⟩ := cohort
    refine Or.inr ⟨ids,_,_,?_,rfl⟩
    rintro rfl
    simp only [candidates,bind,Option.bind_eq_some_iff] at isCohort
    obtain ⟨first,isFirst,_,-,isCohort⟩ := isCohort
    split at isCohort
    · exact nomatch isCohort
    obtain ⟨ids,isIds,same⟩ := Option.bind_eq_some_iff.mp isCohort
    cases same
    have none := remote_ids_length isIds
    simp only [List.length_nil,Nat.zero_add] at none
    rw [List.length_eq_zero_iff.mp none.symm] at isFirst
    exact nomatch isFirst

private theorem scan_link_session (P : P2PSession Peer → Prop) {link : Link Peer}
    (keeps : ∀ session peer_id message,(peer_id,message) ∈ link.held → P session → P (session.receive peer_id message))
    {scan : Scan Peer} (holds : P scan.session) : P (scan_link scan link).1.session := by
  unfold scan_link
  split
  · exact holds
  split
  · exact holds
  next remote_id isRemote =>
  split
  · exact holds
  split
  · exact holds
  next messages isReceiver =>
  have held : link.held = messages.map (remote_id,·) := by rw [Link.held,isRemote,isReceiver]
  refine List.foldlRecOn messages (motive := P) _ holds fun session holds message member => ?_
  exact keeps session remote_id message (held ▸ List.mem_map_of_mem member) holds

/-- A property of sessions that every message which a link holds keeps is kept by the loop. -/
theorem scan_links_session (P : P2PSession Peer → Prop) (scan : Scan Peer) {links : List (Link Peer)}
    (keeps : ∀ session peer_id message,(peer_id,message) ∈ links.flatMap Link.held → P session →
      P (session.receive peer_id message)) (holds : P scan.session) : P (scan_links scan links).1.session := by
  induction links generalizing scan with
  | nil => exact holds
  | cons link links ih =>
    refine ih _ (fun session peer_id message member => keeps session peer_id message
      (List.mem_append_right _ member)) ?_
    exact scan_link_session P
      (fun session peer_id message member => keeps session peer_id message (List.mem_append_left _ member)) holds

private theorem scan_link_cases (scan : Scan Peer) (link : Link Peer) :
    (scan_link scan link).2.held ⊆ link.held ∧
      ((scan_link scan link).1.all_connected = true → scan.all_connected = true ∧
      ∀ peer ∈ (scan_link scan link).1.found_peers,peer ∈ scan.found_peers ∨
        (scan_link scan link).2.state = .Candidate ∧ (scan_link scan link).2.remote_id = some peer ∧
          (scan_link scan link).2.sender = true ∧ peer ∈ scan.session.peer_ids) := by
  unfold scan_link
  split
  · exact ⟨List.Subset.refl _,fun connected => ⟨connected,fun _ found => .inl found⟩⟩
  next candidate =>
  split
  · exact ⟨List.Subset.refl _,fun connected => by cases connected⟩
  next remote_id isRemote =>
  split
  · exact ⟨List.Subset.refl _,fun connected => by cases connected⟩
  next known =>
  have contained : remote_id ∈ scan.session.peer_ids := by
    simp only [Bool.or_eq_true,not_or,Bool.not_eq_true',Bool.not_eq_true] at known
    exact P2PSession.contains_remote_iff.mp (by simpa using known.1)
  have found (connected : (scan.all_connected && link.connected && link.sender) = true) (peer : Peer)
      (member : peer ∈ scan.found_peers ++ [remote_id]) :
      peer ∈ scan.found_peers ∨ link.state = .Candidate ∧ link.remote_id = some peer ∧ link.sender = true ∧
        peer ∈ scan.session.peer_ids := by
    rcases List.mem_append.mp member with old | new
    · exact Or.inl old
    · cases List.mem_singleton.mp new
      exact Or.inr ⟨by simpa using candidate,isRemote,(Bool.and_eq_true_iff.mp connected).2,contained⟩
  split
  · refine ⟨List.Subset.refl _,fun connected => ⟨?_,found connected⟩⟩
    simp only [Bool.and_eq_true] at connected
    exact connected.1.1
  · refine ⟨by simp [Link.held,isRemote],fun connected => ⟨?_,found connected⟩⟩
    simp only [Bool.and_eq_true] at connected
    exact connected.1.1

theorem scan_links_held (scan : Scan Peer) (links : List (Link Peer)) :
    (scan_links scan links).2.flatMap Link.held ⊆ links.flatMap Link.held := by
  induction links generalizing scan with
  | nil => exact List.Subset.refl _
  | cons link links ih =>
    simp only [scan_links,List.flatMap_cons]
    exact List.append_subset.mpr ⟨List.subset_append_of_subset_left _ (scan_link_cases scan link).1,
      List.subset_append_of_subset_right _ (ih _)⟩

/-- The frozen peers do not change. -/
theorem scan_links_peer_ids (scan : Scan Peer) (links : List (Link Peer)) :
    (scan_links scan links).1.session.peer_ids = scan.session.peer_ids := by
  refine scan_links_session (·.peer_ids = scan.session.peer_ids) scan (fun session peer_id message _ same => ?_) rfl
  obtain ⟨_,_,received,ids,-⟩ := session.receive_eq peer_id message
  rw [received]
  exact ids.trans same

/-- If all is connected, every peer that is found is at the other end of a candidate with a sender. -/
theorem scan_links_connected (scan : Scan Peer) (links : List (Link Peer))
    (connected : (scan_links scan links).1.all_connected = true) :
    scan.all_connected = true ∧ ∀ peer ∈ (scan_links scan links).1.found_peers,peer ∈ scan.found_peers ∨
      ∃ link ∈ (scan_links scan links).2,link.state = .Candidate ∧ link.remote_id = some peer ∧ link.sender = true ∧
        peer ∈ scan.session.peer_ids := by
  induction links generalizing scan with
  | nil => exact ⟨connected,fun _ found => .inl found⟩
  | cons link links ih =>
    obtain ⟨connected,later⟩ := ih (scan_link scan link).1 connected
    obtain ⟨before,first⟩ := (scan_link_cases scan link).2 connected
    have ids : (scan_link scan link).1.session.peer_ids = scan.session.peer_ids := by
      have scanned := scan_links_peer_ids scan [link]
      exact scanned
    refine ⟨before,fun peer found => ?_⟩
    rcases later peer found with found | ⟨other,member,candidate⟩
    · rcases first peer found with old | candidate
      · exact Or.inl old
      · exact Or.inr ⟨_,List.mem_cons_self,candidate⟩
    · rw [ids] at candidate
      exact Or.inr ⟨other,List.mem_cons_of_mem _ member,candidate⟩

/-- A frame that is not given up waits for connections, or negotiates and sends. -/
theorem drive_session_cases (now : Nat) (timeline_synced : Bool) (app : App Peer) :
    (app.session.is_starting = false ∧ drive_session now timeline_synced app = (app,[])) ∨
    app.session.is_starting = true ∧ ∃ scan links,scan_links ⟨app.session,[],true,true⟩ app.links = (scan,links) ∧
      ((∃ session,drive_session now timeline_synced app = (abort {app with session,links},[])) ∨
        drive_session now timeline_synced app = ({app with session := scan.session,links},[]) ∨
        ∃ session result,scan.session.advance app.tick timeline_synced = (session,result) ∧ result ≠ .Failed ∧
          scan.all_connected = true ∧ scan.found_peers.length = app.session.remote_peers.length ∧
          drive_session now timeline_synced app = ({app with session := session.collect_outbound.1,links},
            send_outbound session.collect_outbound.1 links session.collect_outbound.2)) := by
  cases starting : app.session.is_starting with
  | false => exact Or.inl ⟨rfl,by simp [drive_session,starting]⟩
  | true =>
    refine Or.inr ⟨rfl,_,_,rfl,?_⟩
    simp only [drive_session,starting,Bool.not_true,Bool.false_eq_true,↓reduceIte]
    split_ifs with broken mismatch waiting timeout failed late
    · exact Or.inl ⟨_,rfl⟩
    · exact Or.inl ⟨_,rfl⟩
    · exact Or.inl ⟨_,rfl⟩
    · exact Or.inr (.inl rfl)
    · exact Or.inl ⟨_,rfl⟩
    · exact Or.inl ⟨_,rfl⟩
    · refine Or.inr (.inr ⟨_,_,rfl,failed,?_,?_,rfl⟩)
      · simpa using waiting
      · simp only [Bool.or_eq_true,not_or,decide_eq_true_eq] at broken
        exact not_not.mp broken.2

theorem drive_session_held (now : Nat) (timeline_synced : Bool) (app : App Peer) :
    (drive_session now timeline_synced app).1.held ⊆ app.held := by
  rcases drive_session_cases now timeline_synced app with
    ⟨-,same⟩ | ⟨-,scan,links,isScan,⟨_,aborted⟩ | waits | ⟨_,_,-,-,-,-,sends⟩⟩
  · rw [same]
    exact List.Subset.refl _
  all_goals
    have fewer := scan_links_held ⟨app.session,[],true,true⟩ app.links
    rw [isScan] at fewer
  · rw [aborted]
    exact List.Subset.trans (held_transition _ _) fewer
  · rw [waits]
    exact fewer
  · rw [sends]
    exact fewer

theorem mem_send_outbound {session : P2PSession Peer} {links : List (Link Peer)} {outbound : List P2PSessionMessage}
    {receiver : Peer} {message : P2PSessionMessage} : (receiver,message) ∈ send_outbound session links outbound ↔
      message ∈ outbound ∧ ∃ link ∈ links,link.state = .Candidate ∧ link.remote_id = some receiver ∧
        link.sender = true ∧
        receiver ∈ session.peer_ids := by
  simp only [send_outbound,List.mem_flatMap]
  constructor
  · rintro ⟨link,isLink,member⟩
    split at member
    · next remote_id isRemote =>
      split at member
      · next sends =>
        obtain ⟨_,isMessage,same⟩ := List.mem_map.mp member
        cases same
        simp only [Bool.and_eq_true,decide_eq_true_eq,P2PSession.contains_remote_iff] at sends
        exact ⟨isMessage,link,isLink,sends.1.1,isRemote,sends.2,sends.1.2⟩
      · exact nomatch member
    · exact nomatch member
  · rintro ⟨isMessage,link,isLink,isCandidate,isRemote,hasSender,known⟩
    refine ⟨link,isLink,?_⟩
    simp only [isRemote,isCandidate,hasSender,P2PSession.contains_remote_iff.mpr known,decide_true,Bool.and_self,
      ↓reduceIte]
    exact List.mem_map_of_mem isMessage

end
end Lightyear.P2P
