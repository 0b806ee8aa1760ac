import Lightyear.Tick

/-!
The server side of the late join, `late_join/server.rs`. A request of a client waits
until the tick of the server has passed every input-safe tick that the client has
sent; the next send pass accepts it and sends one event with the tick of that pass.
-/
namespace Lightyear.CatchUp
open Message

/-- The tick of a checkpoint of Replicon. -/
abbrev RepliconTick := BitVec 32

structure CatchUpRequest where
  input_safe_tick : Tick

structure CatchUpSnapshotReady where
  replicon_tick : RepliconTick
  server_tick : Tick
deriving DecidableEq

namespace CatchUpSnapshotReady

/-- Both ticks are the largest `u32`: no snapshot is needed. -/
def not_required : CatchUpSnapshotReady := ⟨BitVec.ofNat 32 (2 ^ 32 - 1),.MAX⟩

def is_not_required (self : CatchUpSnapshotReady) : Bool :=
  self.replicon_tick == BitVec.ofNat 32 (2 ^ 32 - 1) && self.server_tick == .MAX

end CatchUpSnapshotReady

structure ServerCatchUpMetadata where
  input_safe_tick : Tick
  snapshot_ready : Option CatchUpSnapshotReady

namespace ServerCatchUpMetadata

def new (input_safe_tick : Tick) : ServerCatchUpMetadata := ⟨input_safe_tick,none⟩

def not_required : ServerCatchUpMetadata := ⟨.MAX,some .not_required⟩

end ServerCatchUpMetadata

/-- The components of a client link: the requests that were received and not read, and the events that were sent. -/
structure ClientLink where
  receiver : List CatchUpRequest
  metadata : Option ServerCatchUpMetadata
  has_caught_up : Bool
  sent : List CatchUpSnapshotReady

/-- The resource `ServerTick`, with its change flag: it is incremented by each send pass. -/
structure ServerTick where
  tick : RepliconTick
  is_changed : Bool

namespace ClientLink

/-- A later request raises the buffered tick. -/
def raise (newest : Option Tick) (request : CatchUpRequest) : Option Tick :=
  some (newest.elim request.input_safe_tick (max · request.input_safe_tick))

def buffer_catch_up_requests (self : ClientLink) : ClientLink :=
  if self.has_caught_up then self else
    let newest := self.receiver.foldl raise (self.metadata.map (·.input_safe_tick))
    let self := {self with receiver := []}
    match newest,self.metadata with
    | none,_ => self
    | some input_safe_tick,some pending => {self with metadata := some {pending with input_safe_tick}}
    | some input_safe_tick,none => {self with metadata := some (.new input_safe_tick)}

def accept_buffered_catch_up_requests (server_tick : Tick) (replicon_tick : Option ServerTick) (self : ClientLink) :
    ClientLink :=
  match replicon_tick with
  | none => self
  | some server_replicon_tick =>
    if server_replicon_tick.is_changed = false then self else
    if self.has_caught_up then self else
      match self.metadata with
      | none => self
      | some metadata =>
        if metadata.snapshot_ready.isSome then self else
        if server_tick ≤ metadata.input_safe_tick then self else
          {self with
            metadata := some {metadata with snapshot_ready := some ⟨server_replicon_tick.tick,server_tick⟩}
            has_caught_up := true}

def emit_catch_up_snapshot_ready (self : ClientLink) : ClientLink :=
  match self.metadata with
  | none => self
  | some metadata =>
    match metadata.snapshot_ready with
    | none => self
    | some snapshot_ready => {self with sent := self.sent ++ [snapshot_ready],metadata := none}

end ClientLink

/-- The link of a client that has just connected. The first client of a session, and one that joins before
anything is gated, has nothing to catch up with. After the last client that had caught up is gone, a snapshot is
due without a request. -/
def mark_client_caught_up_if_no_gated_on_connect
    (has_revealed_catchup_state no_caught_up_clients has_any_gated has_non_prespawn_gated : Bool) : ClientLink :=
  if has_revealed_catchup_state && no_caught_up_clients && has_any_gated then ⟨[],some (.new 0),false,[]⟩
  else
    let needs_catchup := if has_revealed_catchup_state then has_any_gated
      else !no_caught_up_clients && has_non_prespawn_gated
    if needs_catchup then ⟨[],none,false,[]⟩ else ⟨[],some .not_required,true,[]⟩

/-- What comes before `PostUpdate` in a frame: the ticks, and the requests that each client link has received. -/
structure Frame (Entity : Type) where
  tick : Tick
  server_tick : Option ServerTick
  requests : Entity → List CatchUpRequest

/-- `resource_exists_and_changed::<ServerTick>` -/
def Frame.send_pass {Entity : Type} (self : Frame Entity) : Bool := self.server_tick.any (·.is_changed)

variable {Entity : Type}

/-- A frame. What is not read of the requests is cleared at its end. -/
def step (clients : Entity → ClientLink) (frame : Frame Entity) : Entity → ClientLink :=
  let clients := fun entity => {clients entity with receiver := (clients entity).receiver ++ frame.requests entity}
  let clients := fun entity => (clients entity).buffer_catch_up_requests
  let clients := fun entity => (clients entity).accept_buffered_catch_up_requests frame.tick frame.server_tick
  let clients := fun entity => if frame.send_pass then (clients entity).emit_catch_up_snapshot_ready else clients entity
  fun entity => {clients entity with receiver := []}

def run (clients : Entity → ClientLink) (frames : List (Frame Entity)) :
    Entity → ClientLink := frames.foldl step clients

/-- The input-safe ticks that a client link has buffered, or will have from its requests. -/
def buffered (start : ClientLink) (frames : List (Frame Entity)) (entity : Entity) : List Tick :=
  (start.metadata.map (·.input_safe_tick)).toList ++ start.receiver.map (·.input_safe_tick) ++
    frames.flatMap fun frame => (frame.requests entity).map (·.input_safe_tick)

/-- A send pass with a request whose server tick is past every input-safe tick that was sent up to it. -/
def Due (start : ClientLink) (entity : Entity) (before : List (Frame Entity)) (frame : Frame Entity) : Prop :=
  frame.send_pass ∧ buffered start (before ++ [frame]) entity ≠ [] ∧
    ∀ tick ∈ buffered start (before ++ [frame]) entity,tick < frame.tick

/-- The first due send pass of a run, and the event for it. -/
def Accepts (start : ClientLink) (entity : Entity) (frames : List (Frame Entity))
    (ready : CatchUpSnapshotReady) : Prop :=
  ∃ before frame after,frames = before ++ frame :: after ∧ Due start entity before frame ∧
    (∀ earlier frame' rest,before = earlier ++ frame' :: rest → ¬Due start entity earlier frame') ∧
    ready.server_tick = frame.tick ∧ frame.server_tick.map (·.tick) = some ready.replicon_tick

/-- The client has not caught up and nothing is ready for it. -/
structure NotYet (link : ClientLink) : Prop where
  has_caught_up : link.has_caught_up = false
  snapshot_ready : ∀ metadata ∈ link.metadata,metadata.snapshot_ready = none

/-- The greatest of some ticks, if there is one. -/
private def Newest : Option Tick → List Tick → Prop
  | none,ticks => ticks = []
  | some newest,ticks => newest ∈ ticks ∧ ∀ tick ∈ ticks,tick ≤ newest

private theorem newest_foldl {newest : Option Tick} {ticks : List Tick} (isNewest : Newest newest ticks)
    (requests : List CatchUpRequest) :
    Newest (requests.foldl ClientLink.raise newest) (ticks ++ requests.map (·.input_safe_tick)) := by
  induction requests generalizing newest ticks with
  | nil => simpa using isNewest
  | cons request requests ih =>
    have raised : Newest (ClientLink.raise newest request) (ticks ++ [request.input_safe_tick]) := by
      cases newest with
      | none =>
        obtain rfl : ticks = [] := isNewest
        exact ⟨by simp,by simp⟩
      | some newest =>
        obtain ⟨member,greatest⟩ := isNewest
        refine ⟨?_,fun tick isTick => ?_⟩
        · rcases max_choice newest request.input_safe_tick with isMax | isMax
          all_goals simp [isMax,member]
        · rcases List.mem_append.mp isTick with before | last
          · exact (greatest tick before).trans (le_max_left _ _)
          · exact (List.mem_singleton.mp last).le.trans (le_max_right _ _)
    simpa using ih raised

/-- A client link that waits, after some frames. -/
private structure Waiting (start : ClientLink) (entity : Entity) (frames : List (Frame Entity)) (link : ClientLink) :
    Prop where
  not_yet : NotYet link
  sent : link.sent = start.sent
  newest : Newest (link.receiver.foldl ClientLink.raise (link.metadata.map (·.input_safe_tick)))
    (buffered start frames entity)

private theorem buffer_eq {link : ClientLink} (not_yet : NotYet link) :
    link.buffer_catch_up_requests = {link with
      receiver := []
      metadata := (link.receiver.foldl ClientLink.raise (link.metadata.map (·.input_safe_tick))).map .new} := by
  obtain ⟨receiver,metadata,has_caught_up,sent⟩ := link
  obtain ⟨rfl,isNone⟩ := not_yet
  have some_foldl (requests : List CatchUpRequest) (tick : Tick) :
      ∃ newest,requests.foldl ClientLink.raise (some tick) = some newest := by
    induction requests generalizing tick with
    | nil => exact ⟨tick,rfl⟩
    | cons request requests ih => exact ih _
  simp only [ClientLink.buffer_catch_up_requests,Bool.false_eq_true,if_false]
  cases metadata with
  | none =>
    rw [Option.map_none]
    cases receiver.foldl ClientLink.raise none <;> rfl
  | some metadata =>
    obtain ⟨newest,isNewest⟩ := some_foldl receiver metadata.input_safe_tick
    have ready : metadata.snapshot_ready = none := isNone metadata rfl
    simp [isNewest,ServerCatchUpMetadata.new,ready]

private theorem buffered_snoc (start : ClientLink) (before : List (Frame Entity)) (frame : Frame Entity)
    (entity : Entity) :
    buffered start (before ++ [frame]) entity =
      buffered start before entity ++ (frame.requests entity).map (·.input_safe_tick) := by
  simp [buffered]

variable {start : ClientLink} {entity : Entity} {before : List (Frame Entity)} {clients : Entity → ClientLink}

/-- A frame of a client link that waits: it is accepted, with its event, exactly if the frame is a due send pass. -/
private theorem Waiting.step (waiting : Waiting start entity before (clients entity)) (frame : Frame Entity) :
    ¬Due start entity before frame ∧ Waiting start entity (before ++ [frame]) (CatchUp.step clients frame entity) ∨
      Due start entity before frame ∧ ∃ replicon_tick,frame.server_tick.map (·.tick) = some replicon_tick ∧
        CatchUp.step clients frame entity = ⟨[],none,true,start.sent ++ [⟨replicon_tick,frame.tick⟩]⟩ := by
  obtain ⟨not_yet,sent,newest⟩ := waiting
  have isNewest := newest_foldl newest (frame.requests entity)
  rw [← List.foldl_append,← buffered_snoc] at isNewest
  have delivered : NotYet {clients entity with receiver := (clients entity).receiver ++ frame.requests entity} :=
    ⟨not_yet.has_caught_up,not_yet.snapshot_ready⟩
  simp only [CatchUp.step,buffer_eq delivered]
  generalize (List.foldl ClientLink.raise ((clients entity).metadata.map (·.input_safe_tick))
    ((clients entity).receiver ++ frame.requests entity)) = newest at isNewest ⊢
  have caught := not_yet.has_caught_up
  have waits (newest : Option Tick) (isNewest : Newest newest (buffered start (before ++ [frame]) entity)) :
      Waiting start entity (before ++ [frame]) ⟨[],newest.map .new,false,start.sent⟩ :=
    ⟨⟨rfl,by simp [ServerCatchUpMetadata.new]⟩,rfl,by cases newest <;> exact isNewest⟩
  by_cases pass : frame.send_pass
  · obtain ⟨server_tick,isTick,changed⟩ : ∃ server_tick,frame.server_tick = some server_tick ∧
        server_tick.is_changed = true := by
      cases isTick : frame.server_tick with
      | none => simp [Frame.send_pass,isTick] at pass
      | some server_tick => exact ⟨server_tick,rfl,by simpa [Frame.send_pass,isTick] using pass⟩
    cases newest with
    | none =>
      refine .inl ⟨fun due => due.2.1 isNewest,?_⟩
      simpa [ClientLink.accept_buffered_catch_up_requests,ClientLink.emit_catch_up_snapshot_ready,isTick,changed,
        caught,sent]
        using waits none isNewest
    | some newest =>
      obtain ⟨member,greatest⟩ := id isNewest
      by_cases early : frame.tick ≤ newest
      · refine .inl ⟨fun due => (due.2.2 newest member).not_ge early,?_⟩
        simpa [ClientLink.accept_buffered_catch_up_requests,ClientLink.emit_catch_up_snapshot_ready,
          ServerCatchUpMetadata.new,
          isTick,changed,caught,sent,early] using waits (some newest) isNewest
      · refine .inr ⟨⟨pass,List.ne_nil_of_mem member,
          fun tick isTick => (greatest tick isTick).trans_lt (not_le.mp early)⟩,
          server_tick.tick,by rw [isTick]; rfl,?_⟩
        simp [ClientLink.accept_buffered_catch_up_requests,ClientLink.emit_catch_up_snapshot_ready,
          ServerCatchUpMetadata.new,
          isTick,changed,caught,sent,early,pass]
  · refine .inl ⟨fun due => pass due.1,?_⟩
    have deferred (link : ClientLink) : link.accept_buffered_catch_up_requests frame.tick frame.server_tick = link := by
      unfold ClientLink.accept_buffered_catch_up_requests
      cases isTick : frame.server_tick with
      | none => rfl
      | some server_tick => exact if_pos (by simpa [Frame.send_pass,isTick] using pass)
    simpa [deferred,pass,caught,sent] using waits newest isNewest

private theorem accept_caught_up {link : ClientLink} (caught : link.has_caught_up = true) (tick : Tick)
    (replicon_tick : Option ServerTick) : link.accept_buffered_catch_up_requests tick replicon_tick = link := by
  unfold ClientLink.accept_buffered_catch_up_requests
  split
  · rfl
  · rw [if_pos caught,ite_self]

/-- A client that has caught up with nothing to emit stays so, and no event is sent to it. -/
private theorem step_caught_up (caught : (clients entity).has_caught_up = true)
    (nothing : (clients entity).metadata = none)
    (frame : Frame Entity) :
    (step clients frame entity).has_caught_up = true ∧ (step clients frame entity).metadata = none ∧
      (step clients frame entity).sent = (clients entity).sent := by
  simp [step,ClientLink.buffer_catch_up_requests,ClientLink.emit_catch_up_snapshot_ready,accept_caught_up,caught,
    nothing]

private theorem accepts_unique {frames : List (Frame Entity)} {ready ready' : CatchUpSnapshotReady}
    (accepts : Accepts start entity frames ready) (accepts' : Accepts start entity frames ready') : ready = ready' := by
  obtain ⟨before,frame,after,rfl,due,first,tick,replicon_tick⟩ := accepts
  obtain ⟨before',frame',after',whole,due',first',tick',replicon_tick'⟩ := accepts'
  have same : frame = frame' := by
    rcases List.append_eq_append_iff.mp whole with ⟨rest,rfl,split⟩ | ⟨rest,rfl,split⟩
    · cases rest with
      | nil => exact (List.cons.inj split).1
      | cons other rest =>
        obtain ⟨rfl,-⟩ := List.cons.inj split
        exact absurd due (first' _ _ _ rfl)
    · cases rest with
      | nil => exact (List.cons.inj split).1.symm
      | cons other rest =>
        obtain ⟨rfl,-⟩ := List.cons.inj split
        exact absurd due' (first _ _ _ rfl)
  subst same
  cases ready
  cases ready'
  simp_all

private theorem accepts_snoc {frames : List (Frame Entity)} {ready : CatchUpSnapshotReady}
    (accepts : Accepts start entity frames ready) (frame : Frame Entity) :
    Accepts start entity (frames ++ [frame]) ready := by
  obtain ⟨before,due,after,rfl,rest⟩ := accepts
  exact ⟨before,due,after ++ [frame],by simp,rest⟩

/-- Where a client link can be in a run. -/
private theorem run_status (not_yet : NotYet (clients entity)) (frames : List (Frame Entity)) :
    (∀ before frame after,frames = before ++ frame :: after → ¬Due (clients entity) entity before frame) ∧
        Waiting (clients entity) entity frames (run clients frames entity) ∨
      ∃ ready,Accepts (clients entity) entity frames ready ∧ (run clients frames entity).has_caught_up = true ∧
        (run clients frames entity).metadata = none ∧ (run clients frames entity).sent =
          (clients entity).sent ++ [ready] := by
  induction frames using List.reverseRecOn with
  | nil =>
    refine .inl ⟨fun _ _ _ split => by simp at split,not_yet,rfl,?_⟩
    have start : Newest ((clients entity).metadata.map (·.input_safe_tick))
        ((clients entity).metadata.map (·.input_safe_tick)).toList := by
      cases (clients entity).metadata with
      | none => rfl
      | some metadata => exact ⟨by simp,by simp⟩
    simpa [buffered,run] using newest_foldl start (clients entity).receiver
  | append_singleton frames frame ih =>
    have last : run clients (frames ++ [frame]) = step (run clients frames) frame := by simp [run]
    rw [last]
    rcases ih with ⟨never,waiting⟩ | ⟨ready,accepts,caught,nothing,sent⟩
    · rcases waiting.step frame with ⟨notDue,still⟩ | ⟨due,replicon_tick,isTick,accepted⟩
      · refine .inl ⟨fun before frame' after split => ?_,still⟩
        rcases List.eq_nil_or_concat after with rfl | ⟨after,last,rfl⟩
        · obtain ⟨rfl,same⟩ := List.append_inj' split rfl
          rwa [← List.singleton_inj.mp same]
        · rw [List.concat_eq_append,← List.cons_append,← List.append_assoc] at split
          exact never _ _ _ (List.append_inj' split rfl).1
      · exact .inr ⟨⟨replicon_tick,frame.tick⟩,⟨frames,frame,[],rfl,due,never,rfl,isTick⟩,by rw [accepted],
          by rw [accepted],by rw [accepted]⟩
    · obtain ⟨still,none,same⟩ := step_caught_up caught nothing frame
      exact .inr ⟨ready,accepts_snoc accepts frame,still,none,same.trans sent⟩

private theorem connect_cases
    (has_revealed_catchup_state no_caught_up_clients has_any_gated has_non_prespawn_gated : Bool) :
    let link := mark_client_caught_up_if_no_gated_on_connect has_revealed_catchup_state no_caught_up_clients
      has_any_gated
      has_non_prespawn_gated
    NotYet link ∧ link.sent = [] ∨ link = ⟨[],some .not_required,true,[]⟩ := by
  simp only [mark_client_caught_up_if_no_gated_on_connect]
  split_ifs
  · exact .inl ⟨⟨rfl,by simp [ServerCatchUpMetadata.new]⟩,rfl⟩
  · exact .inl ⟨⟨rfl,by simp⟩,rfl⟩
  · exact .inr rfl
  · exact .inl ⟨⟨rfl,by simp⟩,rfl⟩
  · exact .inr rfl

private theorem run_skipped (skipped : clients entity = ⟨[],some .not_required,true,[]⟩)
    (frames : List (Frame Entity)) :
    run clients frames entity = clients entity ∨ run clients frames entity = ⟨[],none,true,[.not_required]⟩ := by
  induction frames using List.reverseRecOn with
  | nil => exact .inl rfl
  | append_singleton frames frame ih =>
    rw [show run clients (frames ++ [frame]) = step (run clients frames) frame by simp [run]]
    rcases ih with same | emitted
    · by_cases pass : frame.send_pass
      · refine .inr ?_
        simp [step,same,skipped,ClientLink.buffer_catch_up_requests,ClientLink.emit_catch_up_snapshot_ready,
          accept_caught_up,pass,
          ServerCatchUpMetadata.not_required]
      · refine .inl ?_
        simp [step,same,skipped,ClientLink.buffer_catch_up_requests,accept_caught_up,pass]
    · refine .inr ?_
      simp [step,emitted,ClientLink.buffer_catch_up_requests,ClientLink.emit_catch_up_snapshot_ready,accept_caught_up]

/-- At most one event is sent to a client that has connected. It needs no snapshot, or a due pass has accepted it. -/
theorem sent_after_connect
    {has_revealed_catchup_state no_caught_up_clients has_any_gated has_non_prespawn_gated : Bool}
    (connects : clients entity =
      mark_client_caught_up_if_no_gated_on_connect has_revealed_catchup_state no_caught_up_clients
      has_any_gated has_non_prespawn_gated) (frames : List (Frame Entity)) :
    (run clients frames entity).sent = [] ∨ ∃ ready,(run clients frames entity).sent = [ready] ∧
      (ready = .not_required ∨ Accepts (clients entity) entity frames ready) := by
  rcases connects ▸ connect_cases has_revealed_catchup_state no_caught_up_clients has_any_gated
    has_non_prespawn_gated with
    ⟨not_yet,unsent⟩ | skipped
  · rcases run_status not_yet frames with ⟨-,waiting⟩ | ⟨ready,accepts,-,-,sent⟩
    · exact .inl (waiting.sent.trans unsent)
    · exact .inr ⟨ready,by rw [sent,unsent]; rfl,.inr accepts⟩
  · rcases run_skipped skipped frames with same | emitted
    · exact .inl (by rw [same,skipped])
    · exact .inr ⟨.not_required,by rw [emitted],.inl rfl⟩

/-- A client is accepted by its first due send pass and never without one. Exactly one event is sent to it, with the
tick of that pass. -/
theorem catch_up_accepted_once (clients : Entity → ClientLink) (entity : Entity) (not_yet : NotYet (clients entity))
    (frames : List (Frame Entity)) :
    ((run clients frames entity).has_caught_up = true ↔ ∃ ready,Accepts (clients entity) entity frames ready) ∧
      (∀ ready,Accepts (clients entity) entity frames ready →
        (run clients frames entity).sent = (clients entity).sent ++ [ready]) ∧
      ((run clients frames entity).has_caught_up = false →
        (run clients frames entity).sent = (clients entity).sent) := by
  rcases run_status not_yet frames with ⟨never,waiting⟩ | ⟨ready,accepts,caught,-,sent⟩
  · have none : ¬∃ ready,Accepts (clients entity) entity frames ready :=
      fun ⟨_,before,frame,after,split,due,_⟩ => never before frame after split due
    refine ⟨iff_of_false (by simp [waiting.not_yet.has_caught_up]) none,
      fun ready accepts => absurd ⟨ready,accepts⟩ none,
      fun _ => waiting.sent⟩
  · refine ⟨iff_of_true caught ⟨ready,accepts⟩,fun ready' accepts' => ?_,fun not => ?_⟩
    · rw [accepts_unique accepts' accepts,sent]
    · exact absurd caught (by simp [not])

/-- The send pass of a frame with requests of the only client. -/
private def pass (tick : Tick) (requests : List Tick) : Frame Unit := ⟨tick,some ⟨tick,true⟩,fun _ => requests.map .mk⟩

private def joined : Unit → ClientLink := fun _ => ⟨[],none,false,[]⟩

/-- Two requests, and the pass after both. -/
theorem catch_up_accepted_once_late :
    (run joined [pass 3 [5],pass 6 [8],pass 9 [],pass 10 [11]] ()).sent = [⟨9,9⟩] := by
  refine (catch_up_accepted_once joined () ⟨rfl,by simp [joined]⟩ _).2.1 ⟨9,9⟩
    ⟨[pass 3 [5],pass 6 [8]],pass 9 [],[pass 10 [11]],
    rfl,⟨rfl,by simp [buffered,pass],fun tick member => ?_⟩,fun earlier frame rest split due => ?_,rfl,rfl⟩
  · simp only [buffered,joined,pass,List.flatMap_cons,List.map_cons,List.cons_append,List.mem_append,
      List.mem_cons] at member
    simp at member
    rcases member with rfl | rfl <;> decide
  · match earlier,split with
    | [],split' =>
      obtain ⟨rfl,-⟩ := List.cons.inj split'
      exact absurd (due.2.2 5 (by simp [buffered,pass])) (by decide)
    | [_],split' =>
      obtain ⟨rfl,last⟩ := List.cons.inj split'
      obtain ⟨rfl,-⟩ := List.cons.inj last
      exact absurd (due.2.2 8 (by simp [buffered,pass])) (by decide)
    | _ :: _ :: _,split => simp at split

/-- The request for tick 5 is buffered. The pass at tick 6 does not accept it, because a request for tick 20
has come. -/
theorem later_request_defers :
    ¬∀ (clients : Unit → ClientLink) (before : List (Frame Unit)) (frame : Frame Unit) (input_safe_tick : Tick),
      NotYet (clients ()) → input_safe_tick ∈ buffered (clients ()) before () → frame.send_pass →
        input_safe_tick < frame.tick →
      (run clients (before ++ [frame]) ()).has_caught_up = true := by
  intro accepts
  exact absurd (accepts joined [pass 3 [5]] (pass 6 [20]) 5 ⟨rfl,by simp [joined]⟩ (by decide) rfl (by decide))
    (by decide)

end Lightyear.CatchUp
