import Lightyear.P2P.Drive
import Lightyear.EntityMap
import Lightyear.Runs

/-!
The role of an application in the network, `network_topology.rs`. It is read off the
components of the entities, once a frame and only when one of them changed since.
-/
namespace Lightyear.Connection
open EntityMap (Entity)
open P2P (P2PState)

inductive NetworkTopologyError where
  | MixedP2PAndConventional (p2p : Entity) (conventional_client server : Option Entity)
  | MultipleConnectedClients (clients : List Entity)
  | MultipleStartedServers (servers : List Entity)
  | HostClientWithoutClient (client : Entity)
  | HostClientMissingLinkOf (client : Entity)
  | HostClientServerNotStarted (client server : Entity)
  | MixedClientServer (client server : Entity)
deriving DecidableEq, Repr

inductive NetworkTopology where
  | Undefined
  | Client (client : Entity)
  | Server (server : Entity)
  | HostClient (server client : Entity)
  | P2P (joined : List Entity)
  | Invalid (error : NetworkTopologyError)
deriving DecidableEq, Repr

/-- The networking components of an entity. -/
structure Roles where
  entity : Entity
  client : Bool
  server : Bool
  host_client : Bool
  link_of : Option Entity
  p2p : Option P2PState
  connected : Bool
  started : Bool
deriving DecidableEq, Repr

structure ReadyClient where
  entity : Entity
  is_host : Bool
  server : Option Entity
deriving DecidableEq, Repr

namespace Roles

/-- `(With<Client>, With<Connected>)` -/
def is_ready_client (self : Roles) : Bool := self.client && self.connected

/-- `(With<Server>, With<Started>)` -/
def is_ready_server (self : Roles) : Bool := self.server && self.started

/-- `(With<HostClient>, With<Connected>, Without<Client>)` -/
def is_malformed_host (self : Roles) : Bool := self.host_client && self.connected && !self.client

def is_active_p2p (self : Roles) : Bool := self.p2p.any (· ≠ .Inactive)

def is_joined (self : Roles) : Bool := self.p2p == some .Joined && self.connected

def is_candidate (self : Roles) : Bool := self.p2p == some .Candidate

/-- A connected client that takes no part in P2P, or that of a host. -/
def is_conventional_client (self : Roles) : Bool := self.is_ready_client && (self.p2p.isNone || self.host_client)

/-- A connected client without the component of a P2P link. -/
def is_standard_client (self : Roles) : Bool := self.is_ready_client && self.p2p.isNone

def ready_client (self : Roles) : ReadyClient := ⟨self.entity,self.host_client,self.link_of⟩

end Roles

section
-- `Entity::index_u32`, an order of the entities
variable (index_u32 : Entity → Nat)

def sort_by_index (entities : List Entity) : List Entity := entities.mergeSort (index_u32 · ≤ index_u32 ·)

/-- `min_by_key`, over the entities that a query finds. -/
def min_by_index (query : Roles → Bool) (entities : List Roles) : Option Entity :=
  ((entities.filter query).map Roles.entity).argmin index_u32

def unique_ready_client : List ReadyClient → Except NetworkTopologyError (Option ReadyClient)
  | [] => .ok none
  | [first] => .ok (some first)
  | clients => .error (.MultipleConnectedClients (sort_by_index index_u32 (clients.map ReadyClient.entity)))

def unique_ready_server : List Entity → Except NetworkTopologyError (Option Entity)
  | [] => .ok none
  | [first] => .ok (some first)
  | servers => .error (.MultipleStartedServers (sort_by_index index_u32 servers))

def infer_standard_topology : Option ReadyClient → Option Entity → NetworkTopology
  | none,none => .Undefined
  | none,some server => .Server server
  | some client,none =>
    if client.is_host then
      match client.server with
      | some server => .Invalid (.HostClientServerNotStarted client.entity server)
      | none => .Invalid (.HostClientMissingLinkOf client.entity)
    else .Client client.entity
  | some client,some server =>
    if client.is_host then
      match client.server with
      | some linked_server =>
        if linked_server = server then .HostClient server client.entity
        else .Invalid (.HostClientServerNotStarted client.entity linked_server)
      | none => .Invalid (.HostClientMissingLinkOf client.entity)
    else .Invalid (.MixedClientServer client.entity server)

/-- The topology that a refresh puts into the cache, from the entities in the order in which the queries find them. -/
def inferred (entities : List Roles) : NetworkTopology :=
  match min_by_index index_u32 Roles.is_malformed_host entities with
  | some client => .Invalid (.HostClientWithoutClient client)
  | none =>
    match min_by_index index_u32 Roles.is_active_p2p entities with
    | some p2p =>
      let conventional_client := min_by_index index_u32 Roles.is_conventional_client entities
      let server := min_by_index index_u32 Roles.is_ready_server entities
      if conventional_client.isSome || server.isSome then
        .Invalid (.MixedP2PAndConventional p2p conventional_client server)
      else
        let has_candidates := entities.any Roles.is_candidate
        let joined := sort_by_index index_u32 ((entities.filter Roles.is_joined).map Roles.entity)
        if has_candidates || joined.isEmpty then .Undefined else .P2P joined
    | none =>
      match unique_ready_client index_u32 ((entities.filter Roles.is_standard_client).map Roles.ready_client) with
      | .error error => .Invalid error
      | .ok client =>
        match unique_ready_server index_u32 ((entities.filter Roles.is_ready_server).map Roles.entity) with
        | .error error => .Invalid error
        | .ok server => infer_standard_topology client server

end

/-! ### What a topology means -/

section
variable (index_u32 : Entity → Nat) (entities : List Roles)

/-- No two entities have the same index. -/
def Distinct : Prop := (entities.map fun roles => index_u32 roles.entity).Nodup

/-- The first entity of a query by index, if there is one. -/
def Finds (query : Roles → Bool) : Option Entity → Prop
  | none => ∀ roles ∈ entities,query roles = false
  | some entity => ∃ roles ∈ entities,query roles = true ∧ roles.entity = entity ∧
      ∀ other ∈ entities,query other = true → index_u32 entity ≤ index_u32 other.entity

/-- All entities of a query, by index. -/
structure Lists (query : Roles → Bool) (found : List Entity) : Prop where
  ordered : found.Pairwise (index_u32 · < index_u32 ·)
  found_iff : ∀ entity,entity ∈ found ↔ ∃ roles ∈ entities,query roles = true ∧ roles.entity = entity

variable {index_u32 entities}

/-- The one entity of a query. -/
structure Only (entities : List Roles) (query : Roles → Bool) (roles : Roles) : Prop where
  member : roles ∈ entities
  found : query roles = true
  unique : ∀ other ∈ entities,query other = true → other = roles

/-- At most one entity of a query. -/
def AtMostOne (entities : List Roles) (query : Roles → Bool) : Prop :=
  ∀ roles ∈ entities,query roles = true → Only entities query roles

variable (index_u32 entities)

/-- The topology says what there is: the roles that are ready, or why they do not form one topology. -/
inductive Means : NetworkTopology → Prop
  | malformed_host {client : Entity} : Finds index_u32 entities Roles.is_malformed_host (some client) →
      Means (.Invalid (.HostClientWithoutClient client))
  | mixed {p2p : Entity} {conventional_client server : Option Entity} :
      Finds index_u32 entities Roles.is_malformed_host none → Finds index_u32 entities Roles.is_active_p2p (some p2p) →
      Finds index_u32 entities Roles.is_conventional_client conventional_client →
      Finds index_u32 entities Roles.is_ready_server server → conventional_client.isSome ∨ server.isSome →
      Means (.Invalid (.MixedP2PAndConventional p2p conventional_client server))
  | barrier {p2p : Entity} : Finds index_u32 entities Roles.is_malformed_host none →
      Finds index_u32 entities Roles.is_active_p2p (some p2p) →
        Finds index_u32 entities Roles.is_conventional_client none →
      Finds index_u32 entities Roles.is_ready_server none →
      (∃ roles ∈ entities,roles.is_candidate = true) ∨ Finds index_u32 entities Roles.is_joined none → Means .Undefined
  | p2p {joined : List Entity} : Finds index_u32 entities Roles.is_malformed_host none →
      Finds index_u32 entities Roles.is_conventional_client none → Finds index_u32 entities Roles.is_ready_server none →
      Finds index_u32 entities Roles.is_candidate none → joined ≠ [] → Lists index_u32 entities Roles.is_joined joined →
      Means (.P2P joined)
  | multiple_clients {clients : List Entity} : Finds index_u32 entities Roles.is_malformed_host none →
      Finds index_u32 entities Roles.is_active_p2p none → 2 ≤ clients.length →
      Lists index_u32 entities Roles.is_standard_client clients → Means (.Invalid (.MultipleConnectedClients clients))
  | multiple_servers {servers : List Entity} : Finds index_u32 entities Roles.is_malformed_host none →
      Finds index_u32 entities Roles.is_active_p2p none → AtMostOne entities Roles.is_standard_client →
        2 ≤ servers.length →
      Lists index_u32 entities Roles.is_ready_server servers → Means (.Invalid (.MultipleStartedServers servers))
  | undefined : Finds index_u32 entities Roles.is_malformed_host none →
    Finds index_u32 entities Roles.is_active_p2p none →
      Finds index_u32 entities Roles.is_standard_client none → Finds index_u32 entities Roles.is_ready_server none →
      Means .Undefined
  | server {server : Roles} : Finds index_u32 entities Roles.is_malformed_host none →
      Finds index_u32 entities Roles.is_active_p2p none → Finds index_u32 entities Roles.is_standard_client none →
      Only entities Roles.is_ready_server server → Means (.Server server.entity)
  | client {client : Roles} : Finds index_u32 entities Roles.is_malformed_host none →
      Finds index_u32 entities Roles.is_active_p2p none → Only entities Roles.is_standard_client client →
      client.host_client = false → Finds index_u32 entities Roles.is_ready_server none → Means (.Client client.entity)
  | host_client {client server : Roles} : Finds index_u32 entities Roles.is_malformed_host none →
      Finds index_u32 entities Roles.is_active_p2p none → Only entities Roles.is_standard_client client →
      client.host_client = true → client.link_of = some server.entity → Only entities Roles.is_ready_server server →
      Means (.HostClient server.entity client.entity)
  | missing_link_of {client : Roles} : Finds index_u32 entities Roles.is_malformed_host none →
      Finds index_u32 entities Roles.is_active_p2p none → Only entities Roles.is_standard_client client →
      client.host_client = true → client.link_of = none → AtMostOne entities Roles.is_ready_server →
      Means (.Invalid (.HostClientMissingLinkOf client.entity))
  | server_not_started {client : Roles} {linked_server : Entity} :
    Finds index_u32 entities Roles.is_malformed_host none →
      Finds index_u32 entities Roles.is_active_p2p none → Only entities Roles.is_standard_client client →
      client.host_client = true → client.link_of = some linked_server → AtMostOne entities Roles.is_ready_server →
      (∀ server ∈ entities,server.is_ready_server = true → server.entity ≠ linked_server) →
      Means (.Invalid (.HostClientServerNotStarted client.entity linked_server))
  | mixed_client_server {client server : Roles} : Finds index_u32 entities Roles.is_malformed_host none →
      Finds index_u32 entities Roles.is_active_p2p none → Only entities Roles.is_standard_client client →
      client.host_client = false → Only entities Roles.is_ready_server server →
      Means (.Invalid (.MixedClientServer client.entity server.entity))

end

section
variable {index_u32 : Entity → Nat} {entities other : List Roles} {query : Roles → Bool}

variable (index_u32) in
theorem finds_min (query : Roles → Bool) (entities : List Roles) :
    Finds index_u32 entities query (min_by_index index_u32 query entities) := by
  unfold min_by_index
  cases least : ((entities.filter query).map Roles.entity).argmin index_u32 with
  | none =>
    rw [List.argmin_eq_none,List.map_eq_nil_iff,List.filter_eq_nil_iff] at least
    exact fun roles member => Bool.eq_false_iff.mpr (least roles member)
  | some entity =>
    obtain ⟨roles,member,same⟩ := List.mem_map.mp (List.argmin_mem least)
    obtain ⟨stored,found⟩ := List.mem_filter.mp member
    refine ⟨roles,stored,found,same,fun other stored' found' => ?_⟩
    exact List.le_of_mem_argmin (List.mem_map_of_mem (List.mem_filter.mpr ⟨stored',found'⟩)) least

private theorem Distinct.filter (distinct : Distinct index_u32 entities) (query : Roles → Bool) :
    (((entities.filter query).map Roles.entity).map index_u32).Nodup := by
  rw [List.map_map]
  exact distinct.sublist (List.filter_sublist.map _)

theorem lists_sort (distinct : Distinct index_u32 entities) (query : Roles → Bool) :
    Lists index_u32 entities query (sort_by_index index_u32 ((entities.filter query).map Roles.entity)) := by
  have perm := List.mergeSort_perm ((entities.filter query).map Roles.entity) fun a b =>
    decide (index_u32 a ≤ index_u32 b)
  refine ⟨?_,fun entity => ?_⟩
  · have sorted := @List.pairwise_mergeSort _ (fun a b => decide (index_u32 a ≤ index_u32 b))
      (fun a b c ab bc => decide_eq_true ((of_decide_eq_true ab).trans (of_decide_eq_true bc)))
      (fun a b => by simp [le_total]) ((entities.filter query).map Roles.entity)
    have apart := (perm.map index_u32).nodup_iff.mpr (distinct.filter query)
    rw [List.Nodup,List.pairwise_map] at apart
    exact (sorted.and apart).imp fun both => (of_decide_eq_true both.1).lt_of_ne both.2
  · rw [sort_by_index,perm.mem_iff,List.mem_map]
    simp only [List.mem_filter]
    exact exists_congr fun roles => by rw [and_assoc]

theorem only_of_filter {roles : Roles} (single : entities.filter query = [roles]) : Only entities query roles := by
  have member (other : Roles) : other ∈ entities ∧ query other = true ↔ other = roles := by
    rw [← List.mem_filter,single,List.mem_singleton]
  exact ⟨((member roles).mpr rfl).1,((member roles).mpr rfl).2,
    fun other stored found => (member other).mp ⟨stored,found⟩⟩

variable (index_u32) in
theorem none_of_filter (empty : entities.filter query = []) : Finds index_u32 entities query none := fun roles member =>
  Bool.eq_false_iff.mpr (List.filter_eq_nil_iff.mp empty roles member)

theorem Only.at_most_one {roles : Roles} (only : Only entities query roles) : AtMostOne entities query := by
  intro found stored isFound
  rw [only.unique found stored isFound]
  exact only

theorem at_most_one_of_none (none : Finds index_u32 entities query none) : AtMostOne entities query :=
  fun roles stored found => absurd found (Bool.eq_false_iff.mp (none roles stored))

private theorem length_sort (found : List Entity) : (sort_by_index index_u32 found).length = found.length :=
  List.length_mergeSort found

/-- With one client at most and one server at most. -/
private theorem means_standard (client : Option Roles)
    (malformed : Finds index_u32 entities Roles.is_malformed_host none)
    (inactive : Finds index_u32 entities Roles.is_active_p2p none) (distinct : Distinct index_u32 entities)
    (clients : entities.filter Roles.is_standard_client = client.toList) :
    Means index_u32 entities
      (match unique_ready_server index_u32 ((entities.filter Roles.is_ready_server).map Roles.entity) with
      | .error error => .Invalid error
      | .ok server => infer_standard_topology (client.map Roles.ready_client) server) := by
  have sole : AtMostOne entities Roles.is_standard_client := by
    cases client with
    | none => exact at_most_one_of_none (none_of_filter index_u32 clients)
    | some client => exact (only_of_filter clients).at_most_one
  cases servers : entities.filter Roles.is_ready_server with
  | nil =>
    have stopped := none_of_filter index_u32 servers
    cases client with
    | none => exact .undefined malformed inactive (none_of_filter index_u32 clients) stopped
    | some client =>
      have only := only_of_filter clients
      by_cases host : client.host_client = true
      · have isHost : client.ready_client.is_host = true := host
        cases link : client.link_of with
        | none =>
          have missing : client.ready_client.server = none := link
          simp only [List.map_nil,unique_ready_server,Option.map_some,infer_standard_topology,if_pos isHost,missing]
          exact .missing_link_of malformed inactive only host link (at_most_one_of_none stopped)
        | some server =>
          have linked : client.ready_client.server = some server := link
          simp only [List.map_nil,unique_ready_server,Option.map_some,infer_standard_topology,if_pos isHost,linked]
          exact .server_not_started malformed inactive only host link (at_most_one_of_none stopped)
            fun other stored found => absurd found (Bool.eq_false_iff.mp (stopped other stored))
      · have isHost : ¬client.ready_client.is_host = true := host
        simp only [List.map_nil,unique_ready_server,Option.map_some,infer_standard_topology,if_neg isHost]
        exact .client malformed inactive only (Bool.eq_false_iff.mpr host) stopped
  | cons server rest =>
    cases rest with
    | nil =>
      have started := only_of_filter servers
      cases client with
      | none => exact .server malformed inactive (none_of_filter index_u32 clients) started
      | some client =>
        have only := only_of_filter clients
        by_cases host : client.host_client = true
        · have isHost : client.ready_client.is_host = true := host
          cases link : client.link_of with
          | none =>
            have missing : client.ready_client.server = none := link
            simp only [List.map_cons,List.map_nil,unique_ready_server,Option.map_some,infer_standard_topology,
              if_pos isHost,missing]
            exact .missing_link_of malformed inactive only host link started.at_most_one
          | some linked_server =>
            have linked : client.ready_client.server = some linked_server := link
            simp only [List.map_cons,List.map_nil,unique_ready_server,Option.map_some,infer_standard_topology,
              if_pos isHost,linked]
            by_cases same : linked_server = server.entity
            · subst same
              rw [if_pos rfl]
              exact .host_client malformed inactive only host link started
            · rw [if_neg same]
              refine .server_not_started malformed inactive only host link
                started.at_most_one fun other stored found => ?_
              rw [started.unique other stored found]
              exact Ne.symm same
        · have isHost : ¬client.ready_client.is_host = true := host
          simp only [List.map_cons,List.map_nil,unique_ready_server,Option.map_some,infer_standard_topology,
            if_neg isHost]
          exact .mixed_client_server malformed inactive only (Bool.eq_false_iff.mpr host) started
    | cons second rest =>
      have listed := lists_sort distinct Roles.is_ready_server
      rw [servers] at listed
      refine .multiple_servers malformed inactive sole ?_ listed
      rw [length_sort]
      simp

theorem inferred_means (distinct : Distinct index_u32 entities) :
    Means index_u32 entities (inferred index_u32 entities) := by
  have malformed := finds_min index_u32 Roles.is_malformed_host entities
  have active := finds_min index_u32 Roles.is_active_p2p entities
  have conventional := finds_min index_u32 Roles.is_conventional_client entities
  have started := finds_min index_u32 Roles.is_ready_server entities
  unfold inferred
  generalize min_by_index index_u32 Roles.is_malformed_host entities = host at *
  cases host with
  | some client => exact .malformed_host malformed
  | none =>
    generalize min_by_index index_u32 Roles.is_active_p2p entities = first_active_p2p at *
    cases first_active_p2p with
    | some p2p =>
      dsimp only
      generalize min_by_index index_u32 Roles.is_conventional_client entities = conventional_client at *
      generalize min_by_index index_u32 Roles.is_ready_server entities = server at *
      by_cases mixed : (conventional_client.isSome || server.isSome) = true
      · rw [if_pos mixed]
        exact .mixed malformed active conventional started (by simpa using mixed)
      · rw [if_neg mixed]
        simp only [Bool.or_eq_true,not_or,Option.not_isSome_iff_eq_none] at mixed
        obtain ⟨rfl,rfl⟩ := mixed
        have joined := lists_sort distinct Roles.is_joined
        generalize sort_by_index index_u32 ((entities.filter Roles.is_joined).map Roles.entity) = found at *
        by_cases candidate : entities.any Roles.is_candidate = true
        · rw [candidate,Bool.true_or,if_pos rfl]
          exact .barrier malformed active conventional started (.inl (List.any_eq_true.mp candidate))
        · rw [Bool.eq_false_iff.mpr candidate,Bool.false_or]
          have noCandidate : Finds index_u32 entities Roles.is_candidate none := fun roles stored =>
            Bool.eq_false_iff.mpr fun isCandidate => candidate (List.any_eq_true.mpr ⟨roles,stored,isCandidate⟩)
          by_cases empty : found = []
          · subst empty
            refine .barrier malformed active conventional started
              (.inr fun roles stored => Bool.eq_false_iff.mpr fun isJoined => ?_)
            exact List.not_mem_nil ((joined.found_iff roles.entity).mpr ⟨roles,stored,isJoined,rfl⟩)
          · rw [if_neg (by simpa using empty)]
            exact .p2p malformed conventional started noCandidate empty joined
    | none =>
      dsimp only
      cases clients : entities.filter Roles.is_standard_client with
      | nil => exact means_standard none malformed active distinct clients
      | cons client rest =>
        cases rest with
        | nil => exact means_standard (some client) malformed active distinct clients
        | cons second rest =>
          refine .multiple_clients malformed active ?_ ?_
          · rw [length_sort]
            simp
          · have listed := lists_sort distinct Roles.is_standard_client
            rw [clients] at listed
            simpa [List.map_map,Function.comp_def,Roles.ready_client] using listed

theorem Finds.unique (distinct : Distinct index_u32 entities) {found found' : Option Entity}
    (finds : Finds index_u32 entities query found) (finds' : Finds index_u32 entities query found') :
    found = found' := by
  have matched {entity : Entity} (isFound : Finds index_u32 entities query (some entity)) :
      ¬Finds index_u32 entities query none := by
    intro none
    obtain ⟨roles,stored,isQueried,-⟩ := isFound
    exact Bool.eq_false_iff.mp (none roles stored) isQueried
  cases found with
  | none =>
    cases found' with
    | none => rfl
    | some entity => exact absurd finds (matched finds')
  | some entity =>
    cases found' with
    | none => exact absurd finds' (matched finds)
    | some entity' =>
      obtain ⟨roles,stored,isQueried,rfl,least⟩ := finds
      obtain ⟨roles',stored',isQueried',rfl,least'⟩ := finds'
      have same := le_antisymm (least roles' stored' isQueried') (least' roles stored isQueried)
      rw [List.inj_on_of_nodup_map distinct stored stored' same]

theorem Distinct.perm (distinct : Distinct index_u32 entities) (perm : entities.Perm other) :
    Distinct index_u32 other :=
  (perm.map _).nodup_iff.mp distinct

theorem Finds.perm (perm : entities.Perm other) {found : Option Entity} (finds : Finds index_u32 entities query found) :
    Finds index_u32 other query found := by
  cases found with
  | none => exact fun roles stored => finds roles (perm.mem_iff.mpr stored)
  | some entity =>
    obtain ⟨roles,stored,isQueried,same,least⟩ := finds
    exact ⟨roles,perm.mem_iff.mp stored,isQueried,same,fun next stored' => least next (perm.mem_iff.mpr stored')⟩

private theorem min_by_index_perm (distinct : Distinct index_u32 entities) (perm : entities.Perm other)
    (query : Roles → Bool) :
    min_by_index index_u32 query entities = min_by_index index_u32 query other :=
  (finds_min index_u32 query entities).unique distinct ((finds_min index_u32 query other).perm perm.symm)

private theorem sort_perm {found found' : List Entity} (apart : (found.map index_u32).Nodup)
    (perm : found.Perm found') :
    sort_by_index index_u32 found = sort_by_index index_u32 found' := by
  have ordered (found : List Entity) :
      (sort_by_index index_u32 found).Pairwise fun a b => decide (index_u32 a ≤ index_u32 b) = true :=
    List.pairwise_mergeSort (fun a b c ab bc => decide_eq_true ((of_decide_eq_true ab).trans (of_decide_eq_true bc)))
      (fun a b => by simp [le_total]) found
  have sorted := List.mergeSort_perm found fun a b => decide (index_u32 a ≤ index_u32 b)
  have sorted' := List.mergeSort_perm found' fun a b => decide (index_u32 a ≤ index_u32 b)
  refine List.Perm.eq_of_pairwise (fun a b isFound isFound' ab ba => ?_) (ordered found) (ordered found')
    (sorted.trans (perm.trans sorted'.symm))
  refine List.inj_on_of_nodup_map apart (sorted.mem_iff.mp isFound) (perm.mem_iff.mpr (sorted'.mem_iff.mp isFound')) ?_
  exact le_antisymm (of_decide_eq_true ab) (of_decide_eq_true ba)

private theorem perm_two {α : Type} {first second : α} {rest found : List α}
    (perm : (first :: second :: rest).Perm found) :
    ∃ first' second' rest',found = first' :: second' :: rest' := by
  have length := perm.length_eq
  cases found with
  | nil => simp at length
  | cons first' found =>
    cases found with
    | nil => simp at length
    | cons second' rest' => exact ⟨first',second',rest',rfl⟩

private theorem unique_ready_client_perm {clients clients' : List ReadyClient}
    (apart : ((clients.map ReadyClient.entity).map index_u32).Nodup) (perm : clients.Perm clients') :
    unique_ready_client index_u32 clients = unique_ready_client index_u32 clients' := by
  have same := sort_perm apart (perm.map ReadyClient.entity)
  cases clients with
  | nil => rw [perm.nil_eq]
  | cons first rest =>
    cases rest with
    | nil => rw [List.perm_singleton.mp perm.symm]
    | cons second rest =>
      obtain ⟨first',second',rest',rfl⟩ := perm_two perm
      exact congrArg (Except.error ∘ NetworkTopologyError.MultipleConnectedClients) same

private theorem unique_ready_server_perm {servers servers' : List Entity} (apart : (servers.map index_u32).Nodup)
    (perm : servers.Perm servers') :
    unique_ready_server index_u32 servers = unique_ready_server index_u32 servers' := by
  have same := sort_perm apart perm
  cases servers with
  | nil => rw [perm.nil_eq]
  | cons first rest =>
    cases rest with
    | nil => rw [List.perm_singleton.mp perm.symm]
    | cons second rest =>
      obtain ⟨first',second',rest',rfl⟩ := perm_two perm
      exact congrArg (Except.error ∘ NetworkTopologyError.MultipleStartedServers) same

/-- The order in which the queries find the entities does not matter. -/
theorem inferred_perm (distinct : Distinct index_u32 entities) (perm : entities.Perm other) :
    inferred index_u32 entities = inferred index_u32 other := by
  have apart : (((entities.filter Roles.is_standard_client).map Roles.ready_client).map ReadyClient.entity).map
    index_u32 =
      ((entities.filter Roles.is_standard_client).map Roles.entity).map index_u32 := by
    simp [Roles.ready_client]
  have clients := unique_ready_client_perm (apart ▸ distinct.filter Roles.is_standard_client)
    ((perm.filter Roles.is_standard_client).map Roles.ready_client)
  have servers := unique_ready_server_perm (distinct.filter Roles.is_ready_server)
    ((perm.filter Roles.is_ready_server).map Roles.entity)
  have joined := sort_perm (distinct.filter Roles.is_joined) ((perm.filter Roles.is_joined).map Roles.entity)
  have candidates : entities.any Roles.is_candidate = other.any Roles.is_candidate := by
    rw [Bool.eq_iff_iff,List.any_eq_true,List.any_eq_true]
    exact exists_congr fun roles => and_congr_left' perm.mem_iff
  unfold inferred
  simp only [min_by_index_perm distinct perm,clients,servers,joined,candidates]

end

/-! ### The cache -/

/-- `NetworkingMetadata`, with the entities in the order in which the queries find them. -/
structure World where
  entities : List Roles
  mode : NetworkTopology
  dirty : Bool
deriving DecidableEq, Repr

/-- What can happen in an app, up to a start of a session with some remote peers. -/
inductive Event where
  | change (entities : List Roles)
  | reorder (entities : List Roles)
  | update
  | start_session (remote_peers : Nat)

section
variable (index_u32 : Entity → Nat)

def refresh_network_topology (self : World) : World :=
  {self with mode := inferred index_u32 self.entities,dirty := false}

namespace World

def default : World := ⟨[],.Undefined,true⟩

/-- `PostUpdate` -/
def update (self : World) : World := if self.dirty then refresh_network_topology index_u32 self else self

/-- The candidates join. -/
def join (roles : Roles) : Roles := if roles.is_candidate then {roles with p2p := some .Joined} else roles

/-- What `start_session_before_agreed_tick` does to the topology, with the commands that it gives. -/
def start_session (remote_peers : Nat) (self : World) : World :=
  let candidates := self.entities.filter Roles.is_candidate
  if candidates.any (!·.connected) || candidates.length ≠ remote_peers then self
  else
    { entities := self.entities.map join
      mode := .P2P (sort_by_index index_u32 (candidates.map Roles.entity))
      dirty := self.dirty || !candidates.isEmpty }

instance (entities : List Roles) : Decidable (Distinct index_u32 entities) :=
  inferInstanceAs (Decidable (entities.map fun roles => index_u32 roles.entity).Nodup)

/-- A change of networking components marks the cache, a change of the order does not. A session has a remote peer. -/
def step (self : World) : Event → Option World
  | .change entities => if Distinct index_u32 entities then some {self with entities,dirty := true} else none
  | .reorder entities => if self.entities.Perm entities then some {self with entities} else none
  | .update => some (self.update index_u32)
  | .start_session remote_peers => if remote_peers = 0 then none else some (self.start_session index_u32 remote_peers)

end World

variable {index_u32} {entities : List Roles} {s : World}

/-- What holds of the cache between two frames. -/
private structure Cached (index_u32 : Entity → Nat) (s : World) : Prop where
  distinct : Distinct index_u32 s.entities
  roster : ∀ joined,s.mode = .P2P joined → joined ≠ [] ∧ joined.Pairwise (index_u32 · < index_u32 ·)
  clean : s.dirty = false → s.mode = inferred index_u32 s.entities

@[simp] private theorem entity_join (roles : Roles) : (World.join roles).entity = roles.entity := by
  unfold World.join
  split <;> rfl

private theorem Cached.refresh (cached : Cached index_u32 s) :
    Cached index_u32 (refresh_network_topology index_u32 s) := by
  refine ⟨cached.distinct,fun joined isMode => ?_,fun _ => rfl⟩
  have means := inferred_means cached.distinct
  have isInferred : inferred index_u32 s.entities = .P2P joined := isMode
  rw [isInferred] at means
  cases means with
  | p2p _ _ _ _ some lists => exact ⟨some,lists.ordered⟩

private theorem Cached.start_session (cached : Cached index_u32 s) {remote_peers : Nat} (some : remote_peers ≠ 0) :
    Cached index_u32 (s.start_session index_u32 remote_peers) := by
  unfold World.start_session
  dsimp only
  split
  · exact cached
  · next ready =>
    simp only [Bool.or_eq_true,decide_eq_true_eq,not_or,ne_eq,Decidable.not_not] at ready
    have present : s.entities.filter Roles.is_candidate ≠ [] := fun empty => some (by rw [← ready.2,empty]; rfl)
    have lists := lists_sort cached.distinct Roles.is_candidate
    refine ⟨?_,fun joined isMode => ?_,fun clean => ?_⟩
    · rw [Distinct,List.map_map]
      exact (congrArg List.Nodup
        (List.map_congr_left fun roles _ => congrArg index_u32 (entity_join roles))).mpr cached.distinct
    · cases isMode
      refine ⟨fun empty => present ?_,lists.ordered⟩
      have length := congrArg List.length empty
      rw [length_sort,List.length_map] at length
      exact List.length_eq_zero_iff.mp length
    · rw [Bool.or_eq_false_iff,Bool.not_eq_false',List.isEmpty_iff] at clean
      exact absurd clean.2 present

private theorem Cached.step {event : Event} {after : World} (cached : Cached index_u32 s)
    (executed : s.step index_u32 event = some after) :
    Cached index_u32 after := by
  cases event with
  | change entities =>
    rw [World.step,Option.ite_none_right_eq_some] at executed
    obtain ⟨distinct,executed⟩ := executed
    cases executed
    exact ⟨distinct,cached.roster,Bool.noConfusion⟩
  | reorder entities =>
    rw [World.step,Option.ite_none_right_eq_some] at executed
    obtain ⟨perm,executed⟩ := executed
    cases executed
    exact ⟨cached.distinct.perm perm,cached.roster,
      fun clean => (cached.clean clean).trans (inferred_perm cached.distinct perm)⟩
  | update =>
    cases executed
    unfold World.update
    split
    · exact cached.refresh
    · exact cached
  | start_session remote_peers =>
    rw [World.step,Option.ite_none_left_eq_some] at executed
    obtain ⟨some,executed⟩ := executed
    cases executed
    exact cached.start_session some

/-- A roster in the cache is never empty, and is in the order of the entities. A cache that is not marked says what the
entities are now, in whichever order they are found. -/
theorem cached_topology (reached : Runs.Reaches (World.step index_u32) (fun _ _ _ => True) .default s) :
    (∀ joined,s.mode = .P2P joined → joined ≠ [] ∧ joined.Pairwise (index_u32 · < index_u32 ·)) ∧
      (s.dirty = false → Means index_u32 s.entities s.mode ∧
        ∀ found,s.entities.Perm found → inferred index_u32 found = s.mode) := by
  have start : Cached index_u32 .default :=
    ⟨List.nodup_nil,fun _ isMode => NetworkTopology.noConfusion isMode,Bool.noConfusion⟩
  have cached := reached.invariant (Cached index_u32) start fun _ _ _ before executed _ => before.step executed
  refine ⟨cached.roster,fun clean => ⟨?_,fun found perm => ?_⟩⟩
  · rw [cached.clean clean]
    exact inferred_means cached.distinct
  · rw [← inferred_perm cached.distinct perm,cached.clean clean]

/-- A server with its own client, then a peer that joins: the cache is left as it is until the frame ends. -/
theorem cached_topology_host :
    ∃ s,Runs.Reaches (World.step BitVec.toNat) (fun _ _ _ => True) .default s ∧ s.mode = .HostClient 2 1 ∧
    ((∀ joined,s.mode = .P2P joined → joined ≠ [] ∧ joined.Pairwise (BitVec.toNat · < BitVec.toNat ·)) ∧
      (s.dirty = false → Means BitVec.toNat s.entities s.mode ∧
        ∀ found,s.entities.Perm found → inferred BitVec.toNat found = s.mode)) := by
  obtain ⟨s,reached,host⟩ := Runs.reaches_of_check (World.step BitVec.toNat) (fun _ _ _ => True) .default
    (fun s => s.mode = .HostClient 2 1)
    [.change [⟨1,true,false,true,some 2,none,true,false⟩,⟨2,false,true,false,none,none,false,true⟩],.update,
      .reorder [⟨2,false,true,false,none,none,false,true⟩,⟨1,true,false,true,some 2,none,true,false⟩],.update]
        (by decide)
  exact ⟨s,reached,of_decide_eq_true host,cached_topology reached⟩

/-! ### The start of a session -/

section
variable {roles : Roles} {query : Roles → Bool}

private theorem join_of_not (notCandidate : roles.is_candidate = false) : World.join roles = roles :=
  if_neg (Bool.eq_false_iff.mp notCandidate)

private theorem join_of_candidate (isCandidate : roles.is_candidate = true) :
    World.join roles = {roles with p2p := some .Joined} :=
  if_pos isCandidate

private theorem candidate_join (roles : Roles) : (World.join roles).is_candidate = false := by
  cases isCandidate : roles.is_candidate with
  | false => rw [join_of_not isCandidate,isCandidate]
  | true =>
    rw [join_of_candidate isCandidate]
    rfl

private theorem joined_join (connected : roles.is_candidate = true → roles.connected = true) :
    (World.join roles).is_joined = (roles.is_candidate || roles.is_joined) := by
  cases isCandidate : roles.is_candidate with
  | false => rw [join_of_not isCandidate,Bool.false_or]
  | true =>
    rw [join_of_candidate isCandidate,Bool.true_or]
    exact connected isCandidate

/-- A query that does not look at the state of the P2P link. -/
private theorem finds_join (same : ∀ roles,query (World.join roles) = query roles) :
    Finds index_u32 (entities.map World.join) query none ↔ Finds index_u32 entities query none := by
  simp only [Finds,List.forall_mem_map,same]

private theorem conventional_join (roles : Roles) :
    (World.join roles).is_conventional_client = roles.is_conventional_client := by
  cases isCandidate : roles.is_candidate with
  | false => rw [join_of_not isCandidate]
  | true =>
    have isP2P : roles.p2p = some .Candidate := by simpa [Roles.is_candidate] using isCandidate
    rw [join_of_candidate isCandidate]
    simp [Roles.is_conventional_client,Roles.is_ready_client,isP2P]

private theorem malformed_join (roles : Roles) : (World.join roles).is_malformed_host = roles.is_malformed_host := by
  unfold World.join
  split <;> rfl

private theorem ready_server_join (roles : Roles) : (World.join roles).is_ready_server = roles.is_ready_server := by
  unfold World.join
  split <;> rfl

end

/-- The topology with which a session starts is the one that the next refresh puts into the cache if and only if there
is no other role and no link that has joined before. -/
theorem start_session_agrees_iff (distinct : Distinct index_u32 s.entities)
    (present : ∃ roles ∈ s.entities,roles.is_candidate = true)
    (connected : ∀ roles ∈ s.entities,roles.is_candidate = true → roles.connected = true) :
    let started := s.start_session index_u32 (s.entities.filter Roles.is_candidate).length
    (started.update index_u32).mode = started.mode ↔
      Finds index_u32 s.entities Roles.is_malformed_host none ∧
        Finds index_u32 s.entities Roles.is_conventional_client none ∧
      Finds index_u32 s.entities Roles.is_ready_server none ∧ Finds index_u32 s.entities Roles.is_joined none := by
  intro started
  obtain ⟨first,stored,isCandidate⟩ := present
  have ready : ¬((s.entities.filter Roles.is_candidate).any (!·.connected) ||
      (s.entities.filter Roles.is_candidate).length ≠ (s.entities.filter Roles.is_candidate).length) = true := by
    simpa using connected
  have candidates : s.entities.filter Roles.is_candidate ≠ [] :=
    List.ne_nil_of_mem (List.mem_filter.mpr ⟨stored,isCandidate⟩)
  have isStarted : started = { entities := s.entities.map World.join
                               mode := .P2P (sort_by_index index_u32
                                 ((s.entities.filter Roles.is_candidate).map Roles.entity))
                               dirty := true } := by
    refine (if_neg ready).trans (congrArg (World.mk _ _) ?_)
    rw [List.isEmpty_eq_false_iff.mpr candidates,Bool.not_false,Bool.or_true]
  have distinct' : Distinct index_u32 (s.entities.map World.join) := by
    rw [Distinct,List.map_map]
    exact (congrArg List.Nodup (List.map_congr_left fun roles _ => congrArg index_u32 (entity_join roles))).mpr distinct
  have refreshed : (started.update index_u32).mode = inferred index_u32 (s.entities.map World.join) := by
    rw [isStarted]
    rfl
  have listed := lists_sort distinct Roles.is_candidate
  rw [refreshed,isStarted]
  dsimp only
  constructor
  · intro agrees
    have means := inferred_means distinct'
    rw [agrees] at means
    cases means with
    | p2p malformed conventional server _ _ joined =>
      refine ⟨(finds_join malformed_join).mp malformed,(finds_join conventional_join).mp conventional,
        (finds_join ready_server_join).mp server,fun roles member => Bool.eq_false_iff.mpr fun isJoined => ?_⟩
      -- A link that joined before is on the list, but only candidates are.
      have isListed := (joined.found_iff roles.entity).mpr ⟨World.join roles,List.mem_map_of_mem member,
        by rw [joined_join (connected roles member),isJoined,Bool.or_true],entity_join roles⟩
      obtain ⟨candidate,member',isCandidate',same⟩ := (listed.found_iff roles.entity).mp isListed
      obtain rfl := List.inj_on_of_nodup_map distinct member' member (congrArg index_u32 same)
      simp only [Roles.is_candidate,Roles.is_joined,beq_iff_eq,Bool.and_eq_true] at isCandidate' isJoined
      exact absurd (isCandidate'.symm.trans isJoined.1) (by decide)
  · rintro ⟨malformed,conventional,server,alone⟩
    have finds_none {query : Roles → Bool} (same : ∀ roles,query (World.join roles) = query roles)
        (isNone : Finds index_u32 s.entities query none) :
          min_by_index index_u32 query (s.entities.map World.join) = none :=
      (finds_min index_u32 query _).unique distinct' ((finds_join same).mpr isNone)
    have joined : (s.entities.map World.join).filter Roles.is_joined =
        (s.entities.filter Roles.is_candidate).map World.join := by
      rw [List.filter_map]
      refine congrArg (List.map World.join) (List.filter_congr fun roles member => ?_)
      rw [Function.comp_apply,joined_join (connected roles member),alone roles member,Bool.or_false]
    have entitiesSame : ((s.entities.filter Roles.is_candidate).map World.join).map Roles.entity =
        (s.entities.filter Roles.is_candidate).map Roles.entity := by
      simp
    obtain ⟨p2p,isActive⟩ : ∃ p2p,min_by_index index_u32 Roles.is_active_p2p (s.entities.map World.join) =
        some p2p := by
      rw [← Option.ne_none_iff_exists']
      intro isNone
      have inactive := finds_min index_u32 Roles.is_active_p2p (s.entities.map World.join)
      rw [isNone] at inactive
      have active := inactive _ (List.mem_map_of_mem stored)
      rw [join_of_candidate isCandidate] at active
      cases active
    have noCandidate : (s.entities.map World.join).any Roles.is_candidate = false := by
      simp [candidate_join]
    have nonempty : (sort_by_index index_u32 ((s.entities.filter Roles.is_candidate).map Roles.entity)).isEmpty =
        false := by
      rw [List.isEmpty_eq_false_iff,← List.length_pos_iff,length_sort,List.length_map]
      exact List.length_pos_iff.mpr candidates
    simp only [inferred,finds_none malformed_join malformed,finds_none conventional_join conventional,
      finds_none ready_server_join server,isActive,
      noCandidate,joined,entitiesSame,nonempty,Option.isSome_none,Bool.or_self,Bool.false_eq_true,if_false]

/-- Two peers join. -/
theorem start_session_agrees_two :
    let s : World := ⟨[⟨2,true,false,false,none,some .Candidate,true,false⟩,
      ⟨1,true,false,false,none,some .Candidate,true,false⟩],.Undefined,false⟩
    let started := s.start_session BitVec.toNat (s.entities.filter Roles.is_candidate).length
    started.mode = .P2P [1,2] ∧ ((started.update BitVec.toNat).mode = started.mode ↔
      Finds BitVec.toNat s.entities Roles.is_malformed_host none ∧
        Finds BitVec.toNat s.entities Roles.is_conventional_client none ∧
      Finds BitVec.toNat s.entities Roles.is_ready_server none ∧ Finds BitVec.toNat s.entities Roles.is_joined none) :=
  ⟨by simp [World.start_session,sort_by_index,Roles.is_candidate,List.mergeSort],
    start_session_agrees_iff (by decide) (by decide) (by decide)⟩

end
end Lightyear.Connection
